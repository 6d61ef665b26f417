import ComponentMigration.Proofs.Manifest.Loading

/-!
# What cleaning up and rolling back take away

Both go through names below the output directory and remove the directories that stand there.  One
step takes away what stands at a name or below it and lets everything else stay, and it leaves the
output directory within reach as long as the path there only goes down; so a run over any names
takes away exactly the directories among them (`remove_orphans_meets`).  Cleaning up goes through
the entries that the manifest does not list, rolling back through the names that it lists, and then
the manifest goes as well (`clearing_is_exact`).  A path that goes up through a directory that is
removed loses its way.
-/

namespace ComponentMigration

section Names

theorem utf8_size_name_char {c : Char} (h : isNameChar c) : c.utf8Size = 1 := by
  rw [Char.utf8Size_eq_one_iff, UInt32.le_iff_toNat_le]
  change ((((decide (65 ≤ c.val ∧ c.val ≤ 90) || (decide (97 ≤ c.val) && decide (c.val ≤ 122))) ||
    (decide (48 ≤ c.val) && decide (c.val ≤ 57))) || c == '_' || c == '-' || c == '\n') = true) at h
  simp only [Bool.or_eq_true, Bool.and_eq_true, decide_eq_true_eq, beq_iff_eq,
    UInt32.le_iff_toNat_le] at h
  obtain ((((⟨-, hupper⟩ | ⟨-, hlower⟩) | ⟨-, hdigit⟩) | rfl) | rfl) | rfl := h
  · exact hupper.trans (by decide)
  · exact hlower.trans (by decide)
  · exact hdigit.trans (by decide)
  all_goals decide

theorem utf8_size_of_name_chars {cs : List Char} (h : ∀ c ∈ cs, isNameChar c) :
    (String.ofList cs).utf8ByteSize = cs.length := by
  induction cs with
  | nil => rfl
  | cons c cs ih =>
      obtain ⟨hc, hcs⟩ := List.forall_mem_cons.mp h
      rw [String.ofList_cons, String.utf8ByteSize_append, String.utf8ByteSize_singleton,
        utf8_size_name_char hc, ih hcs, List.length_cons, Nat.add_comm]

/-- A valid name is short enough to be the name of an entry. -/
theorem utf8_size_valid_name {name : String} (h : isValidName name) :
    name.utf8ByteSize ≤ Disk.nameLimit := by
  have hlength : name.toList.length ≤ 65 := by
    unfold isValidName at h
    dsimp only at h
    split at h
    · next c rest hcs =>
        simp only [Bool.and_eq_true, decide_eq_true_eq] at h
        have hshort := congrArg List.length hcs
        split at hshort
        · rw [List.length_dropLast, List.length_cons] at hshort
          omega
        · rw [List.length_cons] at hshort
          omega
    · cases h
  rw [← String.ofList_toList (s := name), utf8_size_of_name_chars (valid_name_chars h)]
  exact hlength.trans (by decide)

end Names

namespace Disk

/-- A disk on which nothing stands at some places any more, and nothing else is changed. -/
structure Without (lost : List String → Prop) (d d' : Disk) : Prop where
  cwd : d'.cwd = d.cwd
  pending : d'.pending = d.pending
  proper : d'.IsProper
  gone : ∀ q, lost q → d'.at? q = none
  kept : ∀ q, ¬lost q → d'.at? q = d.at? q

/-- The places of some names below an output directory and of what stands below them. -/
def Within (output : Path) (which : String → Prop) (d : Disk) (q : List String) : Prop :=
  ∃ c, which c ∧ (d.locate output).parts ++ [c] <+: q

/-- An output directory that is within reach by a path that only goes down. -/
structure IsOpen (output : Path) (d : Disk) : Prop where
  proper : d.IsProper
  down : ".." ∉ (d.cwd.join output).parts
  outside : d.IsOutside output
  leads : d.Leads output

section Clearing

variable {d d' d'' : Disk} {output : Path} {lost lost' : List String → Prop}
  {which which' : String → Prop} {c : String}

theorem Without.refl (hd : d.IsProper) (hlost : ∀ q, ¬lost q) : Without lost d d :=
  ⟨rfl, rfl, hd, fun q hq => absurd hq (hlost q), fun _ _ => rfl⟩

theorem Without.congr (h : Without lost d d') (hiff : ∀ q, lost q ↔ lost' q) :
    Without lost' d d' :=
  ⟨h.cwd, h.pending, h.proper, fun q hq => h.gone q ((hiff q).mpr hq),
    fun q hq => h.kept q (mt (hiff q).mp hq)⟩

theorem Without.trans (hfirst : Without lost d d') (hsecond : Without lost' d' d'') :
    Without (fun q => lost q ∨ lost' q) d d'' := by
  refine ⟨hsecond.cwd.trans hfirst.cwd, hsecond.pending.trans hfirst.pending, hsecond.proper,
    fun q hq => ?_, fun q hq => ?_⟩
  · by_cases hlater : lost' q
    · exact hsecond.gone q hlater
    · rw [hsecond.kept q hlater]
      exact hfirst.gone q (hq.resolve_right hlater)
  · rw [not_or] at hq
    exact (hsecond.kept q hq.2).trans (hfirst.kept q hq.1)

theorem Without.at_le (h : Without lost d d') {q : List String} {e : Entry}
    (hat : d'.at? q = some e) : d.at? q = some e := by
  by_cases hq : lost q
  · rw [h.gone q hq] at hat
    cases hat
  · rwa [← h.kept q hq]

theorem within_name : d.Within output which ((d.locate output).parts ++ [c]) ↔ which c := by
  constructor
  · rintro ⟨c', hc', hprefix⟩
    have heq := (List.prefix_append_right_inj _).mp hprefix
    obtain rfl : c' = c := by simpa using heq
    exact hc'
  · exact fun hc => ⟨c, hc, List.prefix_refl _⟩

theorem within_of_cwd (h : d'.cwd = d.cwd) (q : List String) :
    d'.Within output which q ↔ d.Within output which q := by
  rw [Within, Within, locate_of_cwd h]

theorem within_or (q : List String) : d.Within output (fun c => which c ∨ which' c) q ↔
    d.Within output which q ∨ d.Within output which' q := by
  unfold Within
  simp only [or_and_right, exists_or]

theorem within_congr (h : ∀ c, which c ↔ which' c) (q : List String) :
    d.Within output which q ↔ d.Within output which' q := by
  unfold Within
  simp only [h]

theorem Without.removes_below (h : Without (d.Within output which) d d') :
    RemovesBelow (d.locate output).parts which d d' :=
  ⟨h.cwd, h.proper, fun _ _ => h.at_le, fun q hq => h.kept q fun ⟨c, hc, hprefix⟩ => hq c hc hprefix⟩

/-- What stands at a name is gone or as it was. -/
theorem Without.under_name (h : Without (d.Within output which) d d') (c : String) :
    (which c → d'.under? output [c] = none) ∧
      (¬which c → d'.under? output [c] = d.under? output [c]) := by
  rw [under_of_cwd h.cwd]
  exact ⟨fun hc => h.gone _ (within_name.2 hc), fun hc => h.kept _ (mt within_name.1 hc)⟩

theorem IsOpen.of_without (h : d.IsOpen output) (hwithout : Without (d.Within output which) d d') :
    d'.IsOpen output where
  proper := hwithout.proper
  down := hwithout.cwd ▸ h.down
  outside := h.outside.of_cwd hwithout.cwd
  leads := hwithout.removes_below.leads h.down h.leads

/-- What is looked up by the path of a name is what stands there. -/
theorem IsOpen.look_name (h : d.IsOpen output) (hc : Takes output c) :
    d.look (output.join ⟨"", [c]⟩) = .ok (d.under? output [c]) := by
  cases hunder : d.under? output [c] with
  | some e => rw [look, find_name h.leads hc hunder]
  | none =>
      have hat : d.at? ((d.locate output).parts ++ [c]) = none := hunder
      rw [look, find_of_fits hc.fits, Path.join_join_parts, walk_append h.leads, walk_cons,
        if_neg (by simp), if_neg hc.up, if_neg (Nat.not_lt.mpr hc.short), hat]
      dsimp only
      rw [if_neg (h.outside c), if_pos rfl]

theorem pending_remove_directory (d : Disk) (p : Path) :
    (d.removeDirectory p).2.pending = d.pending := by
  unfold removeDirectory
  split
  · split
    · rfl
    · split <;> rfl
  all_goals rfl

theorem pending_remove_tree (d : Disk) (p : Path) : (d.removeTree p).2.pending = d.pending := by
  unfold removeTree
  split
  · exact pending_remove_directory _ p
  all_goals rfl

/-- Removing the directory at a name takes away what stands there and below, and nothing else. -/
theorem IsOpen.remove_tree (h : d.IsOpen output) (hc : Takes output c)
    (hdirectory : d.under? output [c] = some .directory) :
    ∃ d', d.removeTree (output.join ⟨"", [c]⟩) = (.ok (), d') ∧
      Without (d.Within output (· = c)) d d' := by
  have hok := remove_tree_name h.proper h.down h.leads hc hdirectory
  obtain ⟨hremoves, hgone⟩ := remove_tree_cases h.proper (output.join ⟨"", [c]⟩)
  have hpending := pending_remove_tree d (output.join ⟨"", [c]⟩)
  rw [locate_join _ _ (by simpa using Ne.symm hc.up)] at hremoves hgone
  refine ⟨_, Prod.ext hok rfl, hremoves.cwd, hpending, hremoves.proper, ?_, ?_⟩
  · rintro q ⟨_, rfl, hq⟩
    exact hgone hok q hq
  · exact fun q hq => hremoves.at_eq q fun hprefix => hq ⟨c, rfl, hprefix⟩

theorem Offers.find_manifest {content : List UInt8}
    (h : d.Offers (Run.manifestPath output) content) :
    d.find (Run.manifestPath output) =
      .found ⟨"/", (d.locate output).parts ++ [Manifest.fileName]⟩ (.file content) := by
  have hfile := h.file
  unfold entry? at hfile
  split at hfile
  · next place e hfind =>
      cases hfile
      rw [hfind, (find_found hfind).1, manifest_path_eq, locate_join _ _ (by decide)]
  · cases hfile

/-- A manifest is still there to be read when directories with other names are gone. -/
theorem IsOpen.offers_of_without (h : d.IsOpen output) {content : List UInt8}
    (hfile : d.Offers (Run.manifestPath output) content)
    (hwithout : Without (d.Within output which) d d') (hwhich : ¬which Manifest.fileName) :
    d'.Offers (Run.manifestPath output) content := by
  have hfits : Fits (Run.manifestPath output) := fits_of_find fun obstacle hlost => by
    cases hlost.symm.trans hfile.find_manifest
  have hunder : d'.under? output [Manifest.fileName] = some (.file content) :=
    ((hwithout.under_name _).2 hwhich).trans (under_of_entry hfile.file)
  refine ⟨?_, by rw [hwithout.pending, hfile.ready]⟩
  rw [ entry?, Disk.find_manifest (h.of_without hwithout).leads hfits hunder]

/-- Removing the manifest takes the manifest away, and nothing else. -/
theorem IsOpen.remove_manifest (h : d.IsOpen output) {content : List UInt8}
    (hfile : d.Offers (Run.manifestPath output) content) :
    ∃ d', d.remove (Run.manifestPath output) = (.ok (), d') ∧
      Without (· = (d.locate output).parts ++ [Manifest.fileName]) d d' := by
  rw [remove, hfile.find_manifest]
  have hat := at_filter h.proper (· != ⟨"/", (d.locate output).parts ++ [Manifest.fileName]⟩)
  refine ⟨_, rfl, rfl, rfl, is_proper_filter h.proper
    (· != ⟨"/", (d.locate output).parts ++ [Manifest.fileName]⟩), fun q hq => ?_, fun q hq => ?_⟩
  · rw [hat, hq]
    simp
  · rw [hat, if_pos (by simpa using hq)]

end Clearing

section Listing

variable {d : Disk} {output p : Path} {place : List String}

theorem is_some_at : (d.at? place).isSome ↔ ∃ entry ∈ d.entries, entry.1.parts = place := by
  simp [at?]

/-- What is listed in an output directory is what stands there. -/
theorem mem_list (hd : d.IsProper)
    (houtput : d.find output = .found ⟨"/", (d.locate output).parts⟩ .directory) :
    p ∈ d.list output ↔ ∃ c, p = output.join ⟨"", [c]⟩ ∧ (d.under? output [c]).isSome := by
  simp only [under?, is_some_at]
  unfold list below
  rw [houtput]
  dsimp only
  rw [List.mem_filter, List.mem_mergeSort, List.mem_filterMap]
  constructor
  · rintro ⟨⟨entry, hentry, hbelow⟩, hlength⟩
    split at hbelow
    · cases hbelow
    · obtain ⟨rel, hrel, rfl⟩ := Option.map_eq_some_iff.mp hbelow
      obtain ⟨rest, rfl, hplace⟩ := below_eq_some.mp hrel
      rw [join_relative] at hplace
      have hone : rest.length = 1 := by simpa [join_relative] using hlength
      obtain ⟨c, rfl⟩ := List.length_eq_one_iff.mp hone
      exact ⟨c, rfl, entry, hentry, by rw [hplace]⟩
  · rintro ⟨c, rfl, entry, hentry, hparts⟩
    have hpath : entry.1 = ⟨"/", (d.locate output).parts ++ [c]⟩ :=
      (hd.eq_iff hentry _).mpr hparts
    refine ⟨⟨entry, hentry, ?_⟩, by simp [join_relative]⟩
    rw [hpath, if_neg (by simp)]
    have hbelow : Path.below? ⟨"/", (d.locate output).parts⟩
        ⟨"/", (d.locate output).parts ++ [c]⟩ = some ⟨"", [c]⟩ :=
      below_eq_some.mpr ⟨[c], rfl, by rw [join_relative]⟩
    rw [hbelow, Option.map_some]

/-- Those entries of an output directory whose names are wanted. -/
theorem exists_names_of_list (hd : d.IsProper)
    (houtput : d.find output = .found ⟨"/", (d.locate output).parts⟩ .directory)
    (wanted : String → Bool) :
    ∃ cs : List String, ((d.list output).filter fun p => wanted p.name) =
        cs.map (fun c => output.join ⟨"", [c]⟩) ∧
      ∀ c, c ∈ cs ↔ (d.under? output [c]).isSome ∧ wanted c = true := by
  have hname : ∀ c, (output.join ⟨"", [c]⟩).name = c := by simp [Path.name, join_relative]
  refine ⟨((d.list output).filter fun p => wanted p.name).map Path.name, ?_, fun c => ?_⟩
  · rw [List.map_map]
    refine ((List.map_congr_left fun p hp => ?_).trans (List.map_id _)).symm
    obtain ⟨c, rfl, -⟩ := (mem_list hd houtput).mp (List.mem_of_mem_filter hp)
    rw [Function.comp_apply, hname, id]
  · rw [List.mem_map]
    constructor
    · rintro ⟨p, hp, rfl⟩
      obtain ⟨hlisted, hwanted⟩ := List.mem_filter.mp hp
      obtain ⟨c, rfl, hc⟩ := (mem_list hd houtput).mp hlisted
      exact ⟨by rwa [hname], hwanted⟩
    · rintro ⟨hc, hwanted⟩
      exact ⟨output.join ⟨"", [c]⟩, List.mem_filter.mpr ⟨(mem_list hd houtput).mpr ⟨c, rfl, hc⟩,
        by rwa [hname]⟩, hname c⟩

end Listing

end Disk

namespace Run

variable {context : RunContext} {s : RunState} {output : Path} {now : Instant}

/-- Going through names below the output directory removes exactly the directories among them. -/
theorem remove_orphans_meets (context : RunContext) {cs : List String} (hs : s.disk.IsOpen output)
    (hcs : ∀ c ∈ cs, Disk.Takes output c) :
    Meets (removeOrphans (cs.map fun c => output.join ⟨"", [c]⟩)) context s
      (fun removed t =>
        s.disk.Without (s.disk.Within output fun c =>
          c ∈ cs ∧ s.disk.under? output [c] = some .directory) t.disk ∧
        ∀ c, c ∈ removed ↔ c ∈ cs ∧ s.disk.under? output [c] = some .directory)
      fun _ => False := by
  induction cs generalizing s with
  | nil => exact ⟨Disk.Without.refl hs.proper (by simp [Disk.Within]), by simp⟩
  | cons c cs ih =>
      obtain ⟨hc, hcs⟩ := List.forall_mem_cons.mp hcs
      have hname : (output.join ⟨"", [c]⟩).name = c := by simp [Path.name, join_relative]
      rw [List.map_cons, removeOrphans, Meets,
        exec_bind_of_ok (exec_is_directory_of_look (hs.look_name hc))]
      by_cases hdirectory : s.disk.under? output [c] = some .directory
      · obtain ⟨d', hremove, hwithout⟩ := hs.remove_tree hc hdirectory
        have hstep : (onDisk (·.removeTree (output.join ⟨"", [c]⟩))).exec context s =
            (.ok (), { s with disk := d' }) := by
          rw [exec_on_disk, hremove]
          rfl
        have hlater : ∀ c', c' ≠ c → d'.under? output [c'] = s.disk.under? output [c'] :=
          fun c' => (hwithout.under_name c').2
        have hgone : d'.under? output [c] = none := (hwithout.under_name c).1 rfl
        -- Among the names that are left, the directories are those that there were before.
        have hdirectories : ∀ c', (c' = c ∨ c' ∈ cs ∧ d'.under? output [c'] = some .directory) ↔
            c' ∈ c :: cs ∧ s.disk.under? output [c'] = some .directory := by
          intro c'
          by_cases heq : c' = c
          · simp [heq, hdirectory]
          · simp [heq, hlater c' heq]
        obtain ⟨later, t, hrest, hcleared, hlisted⟩ :=
          (ih (s := { s with disk := d' }) (hs.of_without hwithout) hcs).exists_ok
        rw [hdirectory]
        simp only [beq_self_eq_true, if_true]
        rw [exec_bind_of_ok hstep, exec_bind_of_ok hrest, hname]
        refine ⟨(hwithout.trans hcleared).congr fun q => ?_, fun c' => ?_⟩
        · rw [Disk.within_of_cwd hwithout.cwd, ← Disk.within_or]
          exact Disk.within_congr hdirectories q
        · rw [List.mem_cons, hlisted]
          exact hdirectories c'
      · have hother : ∀ c', (c' ∈ cs ∧ s.disk.under? output [c'] = some .directory) ↔
            c' ∈ c :: cs ∧ s.disk.under? output [c'] = some .directory := by
          intro c'
          by_cases heq : c' = c
          · simp [heq, hdirectory]
          · simp [heq]
        have hnone : (s.disk.under? output [c] == some .directory) = false := by
          simpa using hdirectory
        rw [hnone]
        obtain ⟨removed, t, hrest, hcleared, hlisted⟩ := (ih hs hcs).exists_ok
        simp only [Bool.false_eq_true, if_false]
        rw [hrest]
        exact ⟨hcleared.congr (Disk.within_congr hother), fun c' => (hlisted c').trans (hother c')⟩

/-- Going through the units of a manifest is going through their names. -/
theorem remove_units_eq {names : List String} (hnames : ∀ name ∈ names, isValidName name) :
    removeUnits output (names.map .str) =
      removeOrphans (names.map fun c => output.join ⟨"", [c]⟩) := by
  induction names with
  | nil => rfl
  | cons name names ih =>
      obtain ⟨hname, hnames⟩ := List.forall_mem_cons.mp hnames
      have hchild : output.child name = output.join ⟨"", [name]⟩ := by
        rw [Path.child, (is_entry_name_valid_name hname).of_text]
      have hlast : (output.join ⟨"", [name]⟩).name = name := by simp [Path.name, join_relative]
      rw [List.map_cons, List.map_cons, removeUnits, removeOrphans, hchild, hlast, ih hnames]

/-- A value that lists some names, each of them as a text. -/
def ListedIn (names : List String) (v : Json) : Prop := v.members = .ok (names.map .str)

/-- The bytes of a manifest that lists some names as successful. -/
def ListsNames (names : List String) (content : List UInt8) : Prop :=
  ∃ text v, Disk.textOf content = .ok text ∧ Json.read text = .ok v ∧ Manifest.IsStored v ∧
    ListedIn names ((v.get? "successful").getD (.arr []))

theorem eq_texts_iff {items : List Json} {names : List String} :
    items.map Json.text? = names.map some ↔ items = names.map .str := by
  induction items generalizing names with
  | nil => cases names <;> simp
  | cons v items ih =>
      cases names with
      | nil => simp
      | cons name names =>
          have hv : v.text? = some name ↔ v = .str name := by cases v <;> simp [Json.text?]
          rw [List.map_cons, List.map_cons, List.map_cons, List.cons.injEq, List.cons.injEq, hv, ih]

instance (names : List String) (v : Json) : Decidable (ListedIn names v) :=
  match hitems : v.members with
  | .ok items => decidable_of_iff (items.map Json.text? = names.map some)
      (by rw [ListedIn, hitems, Except.ok.injEq, eq_texts_iff])
  | .error t => isFalse (by rw [ListedIn, hitems]; nofun)

theorem lists_names_iff {names : List String} {content : List UInt8} {text : String} {v : Json}
    (htext : Disk.textOf content = .ok text) (hread : Json.read text = .ok v) :
    ListsNames names content ↔
      Manifest.IsStored v ∧ ListedIn names ((v.get? "successful").getD (.arr [])) := by
  constructor
  · rintro ⟨text', v', htext', hread', h⟩
    cases htext.symm.trans htext'
    cases hread.symm.trans hread'
    exact h
  · exact fun h => ⟨text, v, htext, hread, h⟩

instance (names : List String) (content : List UInt8) : Decidable (ListsNames names content) :=
  match htext : Disk.textOf content with
  | .error t => isFalse fun ⟨_, _, hok, _⟩ => nomatch htext.symm.trans hok
  | .ok text =>
    match hread : Json.read text with
    | .error flaw => isFalse fun ⟨_, _, hok, hread', _⟩ => by
        cases htext.symm.trans hok
        cases hread.symm.trans hread'
    | .ok v => decidable_of_iff _ (lists_names_iff htext hread).symm

variable {names : List String} {content : List UInt8}

theorem load_manifest_of_lists_names (context : RunContext) (now : Instant)
    (h : s.disk.Offers (manifestPath output) content) (hnames : ListsNames names content) :
    ∃ m, (loadManifest output now).exec context s = (.ok (some m), s) ∧
      m.successful = names.map .str := by
  obtain ⟨text, v, htext, hread, hstored, hmembers⟩ := hnames
  obtain ⟨m, hm⟩ := Manifest.exists_of_json.mpr hstored
  refine ⟨m, load_manifest_of_read h htext hread hm, ?_⟩
  obtain ⟨fields, rfl⟩ := hstored.table
  obtain ⟨successful, hs, hm⟩ := bind_eq_ok.mp hm
  obtain ⟨units, -, hm⟩ := bind_eq_ok.mp hm
  obtain ⟨failed, -, hm⟩ := bind_eq_ok.mp hm
  obtain ⟨config, -, hm⟩ := bind_eq_ok.mp hm
  cases hm
  exact Except.ok.inj (hs.symm.trans hmembers)

/-- Cleaning up removes exactly the directories that the manifest does not list. -/
theorem cleanup_meets (context : RunContext) (now : Instant) (hs : s.disk.IsOpen output)
    (htakes : ∀ c, (s.disk.under? output [c]).isSome → Disk.Takes output c)
    (hfile : s.disk.Offers (manifestPath output) content) (hnames : ListsNames names content) :
    Meets (cleanup output now) context s
      (fun removed t =>
        s.disk.Without (s.disk.Within output fun c =>
          s.disk.under? output [c] = some .directory ∧ c ∉ names) t.disk ∧
        ∀ c, c ∈ removed ↔ s.disk.under? output [c] = some .directory ∧ c ∉ names)
      fun _ => False := by
  obtain ⟨m, hload, hm⟩ := load_manifest_of_lists_names context now hfile hnames
  have houtput := Disk.find_output hfile.file
  have hdirectory : s.disk.look output = .ok (some .directory) := by rw [Disk.look, houtput]
  have hhashable : (names.map Json.str).find? (!·.isHashable) = none := by
    simp [Json.isHashable]
  have hkeep : ∀ c, (names.map Json.str).any (· == .str c) = decide (c ∈ names) := by
    intro c
    rw [List.any_map, Bool.eq_iff_iff, List.any_eq_true, decide_eq_true_eq]
    constructor
    · rintro ⟨name, hname, heq⟩
      rw [Function.comp_apply, Json.beq_str, beq_iff_eq] at heq
      exact heq ▸ hname
    · exact fun hc => ⟨c, hc, by rw [Function.comp_apply, Json.beq_str, beq_self_eq_true]⟩
  unfold cleanup
  rw [Meets, exec_bind_of_ok (exec_is_directory_of_look hdirectory)]
  simp only [beq_self_eq_true, Bool.not_true, Bool.false_eq_true, if_false]
  rw [exec_bind_of_ok hload]
  simp only [Option.map_some, Option.getD_some, hm, hhashable, hkeep]
  obtain ⟨cs, hlist, hmem⟩ := Disk.exists_names_of_list hs.proper houtput fun c => !decide (c ∈ names)
  have hdirectories : ∀ c, (c ∈ cs ∧ s.disk.under? output [c] = some .directory) ↔
      s.disk.under? output [c] = some .directory ∧ c ∉ names := by
    intro c
    rw [hmem, Bool.not_eq_true', decide_eq_false_iff_not]
    constructor
    · intro h
      exact ⟨h.2, h.1.2⟩
    · intro h
      exact ⟨⟨h.1 ▸ rfl, h.2⟩, h.1⟩
  rw [exec_bind_of_ok exec_get, hlist]
  refine Meets.mono (x := removeOrphans _) (remove_orphans_meets context hs fun c hc =>
    htakes c ((hmem c).mp hc).1) (fun removed t h => ?_) fun _ => id
  exact ⟨h.1.congr (Disk.within_congr hdirectories), fun c => (h.2 c).trans (hdirectories c)⟩

/-- Rolling back removes exactly the directories of the listed units and the manifest. -/
theorem rollback_clears (context : RunContext) (now : Instant) (hs : s.disk.IsOpen output)
    (htakes : ∀ name ∈ names, isValidName name ∧ Disk.Fits (output.child name))
    (hfile : s.disk.Offers (manifestPath output) content) (hnames : ListsNames names content) :
    Meets (rollback output now) context s
      (fun removed t =>
        s.disk.Without (fun q => s.disk.Within output (fun c =>
            c ∈ names ∧ s.disk.under? output [c] = some .directory) q ∨
          q = (s.disk.locate output).parts ++ [Manifest.fileName]) t.disk ∧
        ∀ c, c ∈ removed ↔ c ∈ names ∧ s.disk.under? output [c] = some .directory)
      fun _ => False := by
  obtain ⟨m, hload, hm⟩ := load_manifest_of_lists_names context now hfile hnames
  have htaken : ∀ name ∈ names, Disk.Takes output name := by
    intro name hname
    obtain ⟨hvalid, hfits⟩ := htakes name hname
    have hentry := is_entry_name_valid_name hvalid
    rw [Path.child, hentry.of_text] at hfits
    exact ⟨hfits, utf8_size_valid_name hvalid, hentry.up⟩
  obtain ⟨removed, t, hunits, hcleared, hlisted⟩ :=
    (remove_orphans_meets context hs htaken).exists_ok
  have ht := hs.of_without hcleared
  have hthere := hs.offers_of_without hfile hcleared fun h =>
    valid_name_ne_manifest (htakes _ h.1).1 rfl
  obtain ⟨d', hremove, hwithout⟩ := ht.remove_manifest hthere
  have hstep : (onDisk (·.remove (manifestPath output))).exec context t =
      (.ok (), { t with disk := d' }) := by
    rw [exec_on_disk, hremove]
    rfl
  unfold rollback
  rw [Meets, exec_bind_of_ok hload]
  dsimp only
  rw [hm, remove_units_eq fun name hname => (htakes name hname).1, exec_bind_of_ok hunits,
    exec_bind_of_ok hstep]
  refine ⟨(hcleared.trans hwithout).congr fun q => ?_, hlisted⟩
  rw [Disk.locate_of_cwd hcleared.cwd]

/-- The names of the entries of an output directory, and the paths of these entries and of some units,
are short enough for the system. -/
structure HasRoom (output : Path) (names : List String) (d : Disk) : Prop where
  entries : ∀ c, (d.under? output [c]).isSome → c.utf8ByteSize ≤ Disk.nameLimit
  paths : ∀ c, (d.under? output [c]).isSome ∨ c ∈ names → Disk.Fits (output.join ⟨"", [c]⟩)

/-- Cleaning up and rolling back an output directory whose path does not go up, with any manifest in
it that lists valid names.  Cleaning up removes exactly the directories that are not listed.  Rolling
back removes exactly the directories that are listed, and the manifest.  One after the other they
leave exactly what is no directory, but for the manifest. -/
theorem clearing_is_exact {later : Instant} (hd : s.disk.IsProper)
    (hcwd : ".." ∉ s.disk.cwd.parts) (hout : s.disk.IsOutside output) (hup : ".." ∉ output.parts)
    (hroom : HasRoom output names s.disk) (hfile : s.disk.Offers (manifestPath output) content)
    (hnames : ListsNames names content) (hvalid : ∀ name ∈ names, isValidName name) :
    (∃ removed t, (cleanup output now).exec context s = (.ok removed, t) ∧
      s.disk.Without (s.disk.Within output fun c =>
        s.disk.under? output [c] = some .directory ∧ c ∉ names) t.disk ∧
      ∃ rolled u, (rollback output later).exec context t = (.ok rolled, u) ∧
        s.disk.Without (fun q => s.disk.Within output (fun c =>
            s.disk.under? output [c] = some .directory) q ∨
          q = (s.disk.locate output).parts ++ [Manifest.fileName]) u.disk ∧
        ∀ c e, u.disk.under? output [c] = some e ↔
          s.disk.under? output [c] = some e ∧ e ≠ .directory ∧ c ≠ Manifest.fileName) ∧
    ∃ rolled t, (rollback output now).exec context s = (.ok rolled, t) ∧
      s.disk.Without (fun q => s.disk.Within output (fun c =>
          c ∈ names ∧ s.disk.under? output [c] = some .directory) q ∨
        q = (s.disk.locate output).parts ++ [Manifest.fileName]) t.disk := by
  have hfound : ∀ obstacle,
      s.disk.find (output.join ⟨"", [Manifest.fileName]⟩) ≠ .lost obstacle := by
    intro obstacle hlost
    rw [← Disk.manifest_path_eq, hfile.find_manifest] at hlost
    cases hlost
  have hleads : s.disk.Leads output := Disk.walk_output hfound
  have hs : s.disk.IsOpen output := ⟨hd, not_mem_join hcwd hup, hout, hleads⟩
  have htakes : ∀ c, (s.disk.under? output [c]).isSome → Disk.Takes output c := by
    intro c hc
    refine ⟨hroom.paths c (.inl hc), hroom.entries c hc, ?_⟩
    rintro rfl
    obtain ⟨entry, hentry, hparts⟩ := Disk.is_some_at.1 hc
    exact (hd entry hentry).2 (hparts ▸ by simp)
  have hunits : ∀ name ∈ names, isValidName name ∧ Disk.Fits (output.child name) := by
    intro name hname
    rw [Path.child, (is_entry_name_valid_name (hvalid name hname)).of_text]
    exact ⟨hvalid name hname, hroom.paths name (.inr hname)⟩
  obtain ⟨rolled, v, hrolled, hwithout, -⟩ :=
    (rollback_clears context now hs hunits hfile hnames).exists_ok
  refine ⟨?_, rolled, v, hrolled, hwithout⟩
  obtain ⟨removed, t, hcleaned, hcleared, -⟩ :=
    (cleanup_meets context now hs htakes hfile hnames).exists_ok
  have hmanifest : s.disk.under? output [Manifest.fileName] = some (.file content) :=
    Disk.under_of_entry hfile.file
  have hthere : t.disk.Offers (manifestPath output) content :=
    hs.offers_of_without hfile hcleared fun h => by cases hmanifest.symm.trans h.1
  obtain ⟨rolled', u, hrolled', hwithout', -⟩ := (rollback_clears context later
    (hs.of_without hcleared) hunits hthere hnames).exists_ok
  have hlocate : t.disk.locate output = s.disk.locate output := by
    rw [Disk.locate, Disk.locate, hcleared.cwd]
  -- What is listed was not cleaned up, so the two together take all directories away.
  have hdirectories : ∀ c, (s.disk.under? output [c] = some .directory ∧ c ∉ names ∨
      c ∈ names ∧ t.disk.under? output [c] = some .directory) ↔
        s.disk.under? output [c] = some .directory := by
    intro c
    by_cases hc : c ∈ names
    · have hkept := (hcleared.under_name c).2 fun h => h.2 hc
      simp [hc, hkept]
    · simp [hc]
  have hboth : s.disk.Without (fun q => s.disk.Within output (fun c =>
      s.disk.under? output [c] = some .directory) q ∨
        q = (s.disk.locate output).parts ++ [Manifest.fileName]) u.disk := by
    refine (hcleared.trans hwithout').congr fun q => ?_
    rw [Disk.within_of_cwd hcleared.cwd, hlocate, ← or_assoc, ← Disk.within_or]
    exact or_congr_left (Disk.within_congr hdirectories q)
  refine ⟨removed, t, hcleaned, hcleared, rolled', u, hrolled', hboth, fun c e => ?_⟩
  have hplace : (s.disk.locate output).parts ++ [c] =
      (s.disk.locate output).parts ++ [Manifest.fileName] ↔ c = Manifest.fileName := by simp
  rw [Disk.under_of_cwd hboth.cwd]
  by_cases hlost : s.disk.under? output [c] = some .directory ∨ c = Manifest.fileName
  · rw [hboth.gone _ (hlost.imp Disk.within_name.mpr hplace.mpr)]
    refine iff_of_false (Option.some_ne_none e).symm ?_
    rintro ⟨he, hdirectory, hname⟩
    exact hlost.elim (fun h => hdirectory (Option.some.inj (he.symm.trans h))) hname
  · rw [hboth.kept _ fun h => hlost (h.imp Disk.within_name.mp hplace.mp), ← Disk.under?]
    rw [not_or] at hlost
    refine (and_iff_left_of_imp fun he => ⟨?_, hlost.2⟩).symm
    rintro rfl
    exact hlost.1 he

end Run

/-- An output directory with a listed unit, a directory that is not listed, and a file. -/
def crowdedDisk : Disk :=
  { entries := [(⟨"/", ["proj"]⟩, .directory), (⟨"/", ["proj", "out"]⟩, .directory),
      (⟨"/", ["proj", "out", "Card"]⟩, .directory),
      (⟨"/", ["proj", "out", "Card", "Card.tsx"]⟩, .file []),
      (⟨"/", ["proj", "out", "Old"]⟩, .directory),
      (⟨"/", ["proj", "out", "Old", "Old.tsx"]⟩, .file []),
      (⟨"/", ["proj", "out", "notes.txt"]⟩, .file []),
      (⟨"/", ["proj", "out", Manifest.fileName]⟩,
        .file (Text.encodeUtf8 "\x7b\"successful\": [\"Card\"]\x7d"))] }

theorem has_room_crowded : Run.HasRoom ⟨"", ["out"]⟩ ["Card"] crowdedDisk := by
  have hlast : ∀ entry ∈ crowdedDisk.entries, entry.1.parts.length = 3 →
      entry.1.parts.getLastD "" ∈ ["Card", "Old", "notes.txt", Manifest.fileName] := by decide
  have hnames : ∀ c, (crowdedDisk.under? ⟨"", ["out"]⟩ [c]).isSome →
      c ∈ ["Card", "Old", "notes.txt", Manifest.fileName] := by
    intro c hc
    obtain ⟨entry, hentry, hparts⟩ := Disk.is_some_at.1 hc
    have hentry := hlast entry hentry (by rw [hparts]; rfl)
    rwa [hparts, List.getLastD_concat] at hentry
  have hshort : ∀ c ∈ ["Card", "Old", "notes.txt", Manifest.fileName],
      c.utf8ByteSize ≤ Disk.nameLimit ∧ Disk.Fits (Path.join ⟨"", ["out"]⟩ ⟨"", [c]⟩) := by
    unfold Disk.Fits
    decide
  refine ⟨fun c hc => (hshort c (hnames c hc)).1, fun c hc => (hshort c ?_).2⟩
  rcases hc with hc | hc
  · exact hnames c hc
  · rw [List.mem_singleton.mp hc]
    exact List.mem_cons_self

/-- In this directory, cleaning up and then rolling back leave the file. -/
theorem clearing_is_exact_crowded :
    ∃ removed t, (Run.cleanup ⟨"", ["out"]⟩ ⟨0⟩).exec { grammar := fun _ _ => default }
        { disk := crowdedDisk } = (.ok removed, t) ∧
      ∃ rolled u, (Run.rollback ⟨"", ["out"]⟩ ⟨1⟩).exec { grammar := fun _ _ => default } t =
        (.ok rolled, u) ∧ u.disk.under? ⟨"", ["out"]⟩ ["notes.txt"] = some (.file []) := by
  have hproper : crowdedDisk.IsProper := by
    unfold Disk.IsProper
    decide
  have hout : crowdedDisk.IsOutside ⟨"", ["out"]⟩ := by
    intro c hprefix
    have hplace : (crowdedDisk.locate ⟨"", ["out"]⟩).parts = ["proj", "out"] := by decide
    have hlength := hprefix.length_le
    rw [hplace] at hlength
    exact absurd hlength (by simp [crowdedDisk])
  have hfile : crowdedDisk.Offers (Run.manifestPath ⟨"", ["out"]⟩)
      (Text.encodeUtf8 "\x7b\"successful\": [\"Card\"]\x7d") := ⟨by decide, rfl⟩
  have hnames : Run.ListsNames ["Card"]
      (Text.encodeUtf8 "\x7b\"successful\": [\"Card\"]\x7d") := by decide +kernel
  have hvalid : ∀ name ∈ ["Card"], isValidName name := by decide
  obtain ⟨⟨removed, t, hcleaned, -, rolled, u, hrolled, -, hleft⟩, -⟩ :=
    @Run.clearing_is_exact { grammar := fun _ _ => default } { disk := crowdedDisk } ⟨"", ["out"]⟩
      ⟨0⟩ ["Card"] _ ⟨1⟩ hproper (by decide) hout (by decide) has_room_crowded hfile hnames hvalid
  exact ⟨removed, t, hcleaned, rolled, u, hrolled,
    (hleft "notes.txt" (.file [])).mpr ⟨by decide, nofun, by decide⟩⟩

/-- A rollback whose path goes up through a unit removes the unit and then does not find the
manifest. -/
theorem rollback_through_unit_fails :
    ((Run.rollback ⟨"", ["out", "Card", ".."]⟩ ⟨0⟩).exec { grammar := fun _ _ => default }
        { disk := crowdedDisk }).1.toOption = none ∧
      ((Run.rollback ⟨"", ["out", "Card", ".."]⟩ ⟨0⟩).exec { grammar := fun _ _ => default }
        { disk := crowdedDisk }).2.disk.isFile ⟨"", ["out", Manifest.fileName]⟩ = true ∧
      ((Run.rollback ⟨"", ["out", "Card", ".."]⟩ ⟨0⟩).exec { grammar := fun _ _ => default }
        { disk := crowdedDisk }).2.disk.isDirectory ⟨"", ["out", "Card"]⟩ = false := by
  decide +kernel

end ComponentMigration
