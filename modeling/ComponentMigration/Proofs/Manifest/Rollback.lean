import ComponentMigration.Proofs.Manifest.Store

/-!
# Rolling back

A rollback removes the directories of the units that the manifest lists as successful, one after the
other, and then the manifest.  Where a path leads on a disk with less on it, it led before, so a
manifest that can be removed in the end was within reach all the time, and so was every unit
(`remove_units_meets`).  A path to the output directory that does not lead through `..` keeps leading
there, and then nothing stops a rollback that has loaded the manifest (`rollback_meets`).
-/

namespace ComponentMigration

theorem valid_name_ne_manifest {name : String} (h : isValidName name) : name ≠ Manifest.fileName := by
  rintro rfl
  exact not_mem_of_valid_name h (show ¬isNameChar '.' by decide) (by decide)

namespace Disk

/-- A disk on which some of what stood at some names below a place is gone, and nothing else is
changed. -/
structure RemovesBelow (place : List String) (which : String → Prop) (d d' : Disk) : Prop where
  cwd : d'.cwd = d.cwd
  proper : d'.IsProper
  at_le : ∀ q e, d'.at? q = some e → d.at? q = some e
  at_eq : ∀ q, (∀ c, which c → ¬place ++ [c] <+: q) → d'.at? q = d.at? q

section Shrinking

variable {d d' d'' : Disk} {place start parts : List String} {which : String → Prop} {e : Entry}
  {output : Path}

theorem RemovesBelow.refl (hd : d.IsProper) : RemovesBelow place which d d :=
  ⟨rfl, hd, fun _ _ => id, fun _ _ => rfl⟩

theorem RemovesBelow.mono {which' : String → Prop} (h : RemovesBelow place which d d')
    (hwhich : ∀ c, which c → which' c) : RemovesBelow place which' d d' :=
  ⟨h.cwd, h.proper, h.at_le, fun q hq => h.at_eq q fun c hc => hq c (hwhich c hc)⟩

theorem RemovesBelow.trans (hfirst : RemovesBelow place which d d')
    (hsecond : RemovesBelow place which d' d'') : RemovesBelow place which d d'' :=
  ⟨hsecond.cwd.trans hfirst.cwd, hsecond.proper,
    fun q e h => hfirst.at_le q e (hsecond.at_le q e h),
    fun q hq => (hsecond.at_eq q hq).trans (hfirst.at_eq q hq)⟩

theorem Removes.removes_below {c : String} (h : Removes (place ++ [c]) d d') (hc : which c) :
    RemovesBelow place which d d' :=
  ⟨h.cwd, h.proper, h.at_le, fun q hq => h.at_eq q (hq c hc)⟩

/-- Where a path leads with less on the disk, it led before. -/
theorem RemovesBelow.walk_found (h : RemovesBelow place which d d')
    (hcwd : ∀ c, ¬place ++ [c] <+: d.cwd.parts) {p : Path} {e' : Entry}
    (hwalk : d'.walk start e parts = .found p e') : d.walk start e parts = .found p e' := by
  induction parts generalizing start e with
  | nil => exact hwalk
  | cons c rest ih =>
      rw [walk_cons] at hwalk ⊢
      split at hwalk
      · cases hwalk
      · next he =>
          rw [if_neg he]
          split at hwalk
          · next hup =>
              rw [if_pos hup]
              exact ih hwalk
          · next hup =>
              rw [if_neg hup]
              split at hwalk
              · cases hwalk
              · next hsize =>
                  rw [if_neg hsize]
                  split at hwalk
                  · next e' hat =>
                      rw [h.at_le _ _ hat]
                      exact ih hwalk
                  · next hat =>
                      rw [h.cwd] at hwalk
                      split at hwalk
                      · next hway =>
                          -- What is removed does not lie on the way to the working directory.
                          rw [← h.at_eq _ fun c' _ hc' => hcwd c' (hc'.trans hway), hat]
                          dsimp only
                          rw [if_pos hway]
                          exact ih hwalk
                      · split at hwalk <;> cases hwalk

/-- A path that only goes down, and not to what is removed, leads where it led. -/
theorem RemovesBelow.walk_eq (h : RemovesBelow place which d d') (hup : ".." ∉ parts)
    (hbelow : ∀ c, ¬place ++ [c] <+: start ++ parts) :
    d'.walk start e parts = d.walk start e parts := by
  induction parts generalizing start e with
  | nil => rfl
  | cons c rest ih =>
      rw [List.mem_cons, not_or] at hup
      have hrest : ∀ c', ¬place ++ [c'] <+: start ++ [c] ++ rest := by simpa using hbelow
      have hat : d'.at? (start ++ [c]) = d.at? (start ++ [c]) :=
        h.at_eq _ fun c' _ hc' => hrest c' (hc'.trans (List.prefix_append _ _))
      simp only [walk_cons, hat, h.cwd, ih hup.2 hrest, if_neg (Ne.symm hup.1)]

theorem RemovesBelow.leads_of (h : RemovesBelow (d.locate output).parts which d d')
    (hout : d.IsOutside output) (hleads : d'.Leads output) : d.Leads output := by
  unfold Leads locate at hleads
  rw [h.cwd] at hleads
  exact h.walk_found hout hleads

theorem RemovesBelow.leads (h : RemovesBelow (d.locate output).parts which d d')
    (hup : ".." ∉ (d.cwd.join output).parts) (hleads : d.Leads output) : d'.Leads output := by
  have hplace : (d.locate output).parts = (d.cwd.join output).parts := place_from_straight hup []
  unfold Leads locate
  rw [h.cwd, h.walk_eq hup fun c hc => ?_]
  · exact hleads
  · have hlength := hc.length_le
    rw [hplace, List.nil_append, List.length_append, List.length_singleton] at hlength
    omega

/-- What is not there is not there with less on the disk. -/
theorem RemovesBelow.under_none (h : RemovesBelow place which d d') {rest : List String}
    (hnone : d.under? output rest = none) : d'.under? output rest = none := by
  cases hunder : d'.under? output rest with
  | none => rfl
  | some e =>
      rw [under_of_cwd h.cwd] at hunder
      cases hnone.symm.trans (h.at_le _ _ hunder)

/-- The manifest stays when only directories of units go. -/
theorem RemovesBelow.under_manifest (h : RemovesBelow (d.locate output).parts which d d')
    (hnames : ∀ name, which name → isValidName name) :
    d'.under? output [Manifest.fileName] = d.under? output [Manifest.fileName] := by
  rw [under_of_cwd h.cwd]
  refine h.at_eq _ fun name hname hprefix => ?_
  have heq := (List.prefix_append_right_inj _).mp hprefix
  exact valid_name_ne_manifest (hnames name hname) (by simpa using heq)

end Shrinking

section Removing

variable {d : Disk} {output p : Path} {name : String}

/-- A path fits if one that leads on from it does. -/
theorem fits_of_deeper {root : String} {parts : List String} (hparts : parts ≠ []) {c : String}
    (h : Fits ⟨root, parts ++ [c]⟩) : Fits ⟨root, parts⟩ := by
  unfold Fits at h ⊢
  rw [Path.to_text_concat hparts, String.toList_append, List.mem_append, not_or, String.utf8ByteSize_append] at h
  exact ⟨h.1.1, by omega⟩

/-- The name of a unit is taken if the path of its module is. -/
theorem takes_unit (hname : isValidName name) (hfits : Fits (modulePath output name))
    (hshort : name.utf8ByteSize ≤ nameLimit) : Takes output name := by
  rw [module_path_eq hname] at hfits
  refine ⟨?_, hshort, (is_entry_name_valid_name hname).up⟩
  rw [join_relative] at hfits ⊢
  refine fits_of_deeper (c := name ++ ".tsx") (List.append_ne_nil_of_right_ne_nil _ (by simp)) ?_
  simpa using hfits

/-- The directory of a unit is found by its path wherever the output directory is. -/
theorem find_unit (hleads : d.Leads output) (hname : isValidName name)
    (hdirectory : d.under? output [name] = some .directory) (hfits : Fits (modulePath output name))
    (hshort : name.utf8ByteSize ≤ nameLimit) (hp : p = output.child name) :
    d.find p = .found ⟨"/", (d.locate output).parts ++ [name]⟩ .directory := by
  rw [hp, Path.child, (is_entry_name_valid_name hname).of_text]
  exact find_name hleads (takes_unit hname hfits hshort) hdirectory

/-- A directory below the output directory can be removed if the path there only goes down. -/
theorem remove_tree_name {c : String} (hd : d.IsProper) (hup : ".." ∉ (d.cwd.join output).parts)
    (hleads : d.Leads output) (hc : Takes output c)
    (hdirectory : d.under? output [c] = some .directory) :
    (d.removeTree (output.join ⟨"", [c]⟩)).1 = .ok () := by
  have hlast : (output.join ⟨"", [c]⟩).name = c := by simp [Path.name, join_relative]
  have hnonempty : output.join ⟨"", [c]⟩ ≠ {} := by simp [join_relative]
  unfold removeTree
  rw [find_name hleads hc hdirectory]
  dsimp only
  obtain ⟨hempty, hat⟩ := removes_within hd
    (show (⟨"/", (d.locate output).parts ++ [c]⟩ : Path) = _ from rfl)
  have hleads' : Leads output _ := (hempty.removes_below (Eq.refl c)).leads hup hleads
  have hthere := hat _ (List.prefix_refl _)
  rw [if_pos rfl] at hthere
  unfold removeDirectory
  rw [find_name hleads' hc (hthere.trans hdirectory)]
  dsimp only
  rw [hlast, if_neg (by simpa using hc.up), if_neg (by simpa using hnonempty)]

/-- The directory of a unit can be removed if the path to the output directory only goes down. -/
theorem remove_tree_unit (hd : d.IsProper) (hup : ".." ∉ (d.cwd.join output).parts)
    (hleads : d.Leads output) (hname : isValidName name) (hmodule : d.HasModule output name)
    (hp : p = output.child name) : (d.removeTree p).1 = .ok () := by
  rw [hp, Path.child, (is_entry_name_valid_name hname).of_text]
  exact remove_tree_name hd hup hleads (takes_unit hname hmodule.fits hmodule.short.1)
    hmodule.directory

end Removing

end Disk

/-- States on whose disks nothing but some of what stood at some names below a place is gone. -/
def RunState.RemovesBelow (place : List String) (which : String → Prop) (s t : RunState) : Prop :=
  s.disk.IsProper → s.disk.RemovesBelow place which t.disk

instance {place : List String} {which : String → Prop} :
    RunState.IsLax (RunState.RemovesBelow place which) where
  refl _ hs := Disk.RemovesBelow.refl hs
  trans _ _ _ hfirst hsecond hs := (hfirst hs).trans (hsecond (hfirst hs).proper)
  of_alike {s t} halike hs := by
    have hat : t.disk.at? = s.disk.at? := Disk.at_of_entries halike.entries
    exact ⟨halike.cwd, hs.of_entries halike.entries, fun q e => by rw [hat]; exact id,
      fun q _ => by rw [hat]⟩

/-- The manifest in an output directory lists these units as successful; without a manifest there are
none. -/
def Disk.ListsDone (output : Path) (done : List String) (d : Disk) : Prop :=
  d.entry? (Run.manifestPath output) = none ∧ done = [] ∨
    ∃ (content : List UInt8) (m : Manifest) (failed : List String),
      d.entry? (Run.manifestPath output) = some (.file content) ∧
      Disk.textOf content = .ok m.toJson.indented ∧ m.Lists done failed

namespace Run

variable {context : RunContext} {s : RunState} {output : Path} {now : Instant} {m : Manifest}

/-- Removing the directory of a unit takes away what stands in it; it fails only if the path to the
output directory goes up. -/
theorem remove_unit_meets {name : String} {target : Path} (hs : s.disk.IsProper)
    (hname : isValidName name) (hmodule : s.disk.HasModule output name)
    (hleads : ".." ∉ (s.disk.cwd.join output).parts → s.disk.Leads output)
    (htarget : target = output.child name) :
    Meets (onDisk (·.removeTree target)) context s
      (fun _ t => Disk.Removes ((s.disk.locate output).parts ++ [name]) s.disk t.disk ∧
        ∀ rest, t.disk.under? output (name :: rest) = none)
      fun _ => ".." ∈ (s.disk.cwd.join output).parts := by
  have hentry := is_entry_name_valid_name hname
  have hplace : (s.disk.locate target).parts = (s.disk.locate output).parts ++ [name] := by
    rw [htarget, Path.child, hentry.of_text,
      Disk.locate_join _ _ (by simpa using Ne.symm hentry.up)]
  obtain ⟨hremoves, hgone⟩ := Disk.remove_tree_cases hs target
  rw [hplace] at hremoves hgone
  refine meets_on_disk (fun _ d hstep => ?_) fun t d hstep => ?_
  · rw [hstep] at hremoves hgone
    refine ⟨hremoves, fun rest => ?_⟩
    rw [Disk.under_of_cwd hremoves.cwd]
    exact hgone rfl _ ⟨rest, by simp⟩
  · by_contra hup
    have hok := Disk.remove_tree_unit hs hup (hleads hup) hname hmodule htarget
    rw [hstep] at hok
    cases hok

/-- Removing units takes away what stands in their directories, if the output directory is within
reach to the end; it fails only if the path there goes up. -/
theorem remove_units_meets {names : List String} (hnodup : names.Nodup) (hs : s.disk.IsProper)
    (hout : s.disk.IsOutside output)
    (hnames : ∀ name ∈ names, isValidName name ∧ s.disk.HasModule output name)
    (hleads : ".." ∉ (s.disk.cwd.join output).parts → s.disk.Leads output) :
    Meets (removeUnits output (names.map .str)) context s
      (fun _ t => s.disk.RemovesBelow (s.disk.locate output).parts (· ∈ names) t.disk ∧
        (t.disk.Leads output → ∀ name ∈ names, ∀ rest, t.disk.under? output (name :: rest) = none))
      fun _ => ".." ∈ (s.disk.cwd.join output).parts := by
  induction names generalizing s with
  | nil => exact ⟨Disk.RemovesBelow.refl hs, fun _ => List.forall_mem_nil _⟩
  | cons name names ih =>
      have hname := hnames name List.mem_cons_self
      have hlater := fun other hother => hnames other (List.mem_cons_of_mem name hother)
      have hfresh := List.nodup_cons.mp hnodup
      rw [List.map_cons, removeUnits]
      generalize htarget : output.child name = target
      have hfind : s.disk.Leads output → s.disk.find target =
          .found ⟨"/", (s.disk.locate output).parts ++ [name]⟩ .directory := fun hleads =>
        Disk.find_unit hleads hname.1 hname.2.directory hname.2.fits hname.2.short.1 htarget.symm
      refine meets_is_directory_bind (fun t hlook => ?_) ?_
      · by_contra hup
        rw [Disk.look, hfind (hleads hup)] at hlook
        cases hlook
      · split
        · refine meets_bind (remove_unit_meets hs hname.1 hname.2 hleads htarget.symm)
            fun _ t ht => ?_
          obtain ⟨hremoves, hgone⟩ := ht
          have hbelow : s.disk.RemovesBelow _ (· ∈ name :: names) t.disk :=
            hremoves.removes_below List.mem_cons_self
          have hkept : s.disk.KeepsUnits output (· ≠ name) t.disk := hremoves.keeps_units (by simp)
          have hrest := ih hfresh.2 (s := t) hremoves.proper (hout.of_cwd hremoves.cwd)
            (fun other hother => ⟨(hlater other hother).1, hkept.modules other
              (fun heq => hfresh.1 (heq ▸ hother)) (hlater other hother).2⟩)
            (fun hup => by
              rw [hremoves.cwd] at hup
              exact hbelow.leads hup (hleads hup))
          rw [hremoves.cwd, Disk.locate_of_cwd hremoves.cwd] at hrest
          refine meets_bind hrest fun removed u hu =>
            ⟨hbelow.trans (hu.1.mono fun _ => List.mem_cons_of_mem name),
              fun hleads' => List.forall_mem_cons.mpr
                ⟨fun rest => hu.1.under_none (hgone rest), hu.2 hleads'⟩⟩
        · next hfile =>
            -- A unit is passed over only if the output directory is out of reach.
            refine (ih hfresh.2 hs hout hlater hleads).mono (fun removed t ht =>
              ⟨ht.1.mono fun _ => List.mem_cons_of_mem name, fun hleads' => ?_⟩) fun _ h => h
            have hdirectory := hfind (ht.1.leads_of hout hleads')
            rw [Disk.entry?, hdirectory] at hfile
            exact absurd rfl hfile

/-- Removing the manifest succeeds only if the output directory is within reach, and it fails only if
it is not or if there is no manifest. -/
theorem remove_manifest_meets (hs : s.disk.IsProper) (hfits : Disk.Fits (manifestPath output)) :
    Meets (onDisk (·.remove (manifestPath output))) context s
      (fun _ t => s.disk.Leads output ∧
        Disk.Removes ((s.disk.locate output).parts ++ [Manifest.fileName]) s.disk t.disk ∧
        t.disk.under? output [Manifest.fileName] = none)
      fun _ => s.disk.Leads output → ∀ content,
        s.disk.under? output [Manifest.fileName] ≠ some (.file content) := by
  have hplace : (s.disk.locate (manifestPath output)).parts =
      (s.disk.locate output).parts ++ [Manifest.fileName] := by
    rw [Disk.manifest_path_eq, Disk.locate_join _ _ (by decide)]
  obtain ⟨t, hremove⟩ | ⟨d, hremove, hremoves, hnone, hfound⟩ :=
    Disk.remove_cases hs (manifestPath output)
  · refine meets_on_disk (fun _ _ hstep => ?_) fun _ _ _ hleads content hunder => ?_
    · cases hremove.symm.trans hstep
    · rw [Disk.remove, Disk.find_manifest hleads hfits hunder] at hremove
      cases hremove
  · refine meets_on_disk (fun _ _ hstep => ?_) fun _ _ hstep => ?_
    · cases hremove.symm.trans hstep
      rw [hplace] at hremoves hnone
      rw [Disk.manifest_path_eq] at hfound
      exact ⟨Disk.walk_output hfound, hremoves, (Disk.under_of_cwd hremoves.cwd _ _).trans hnone⟩
    · cases hremove.symm.trans hstep

/-- Loading a manifest keeps the modules in the output directory and takes nothing away there. -/
theorem load_manifest_leaves (hobservers : context.observers = []) (hs : s.disk.IsProper)
    {loaded : Except Failure (Option Manifest)} {t : RunState}
    (hload : (loadManifest output now).exec context s = (loaded, t)) :
    s.disk.KeepsUnits output (fun _ => True) t.disk ∧
      s.disk.RemovesBelow (s.disk.locate output).parts (fun _ => False) t.disk := by
  have hstay := RunContext.observers_stay_of_nil hobservers
  have hkept := (stays_load_manifest output now).state context s
    (hstay (RunState.KeepsUnits output fun _ => True)) hs
  have hsame := (stays_load_manifest output now).state context s
    (hstay (RunState.RemovesBelow (s.disk.locate output).parts fun _ => False)) hs
  rw [hload] at hkept hsame
  exact ⟨hkept, hsame⟩

/-- A rollback that has loaded a manifest removes the manifest and what stands in the directories of
the units that were listed as successful, and nothing else; it fails only if the path to the output
directory goes up. -/
theorem rollback_meets (hobservers : context.observers = []) (hs : s.disk.IsSound output)
    {t : RunState} (hload : (loadManifest output now).exec context s = (.ok (some m), t)) :
    Meets (rollback output now) context s
      (fun _ u => u.disk.IsSound output ∧ u.disk.entry? (manifestPath output) = none ∧
        s.disk.RemovesBelow (s.disk.locate output).parts
          (fun c => c = Manifest.fileName ∨ .str c ∈ m.successful) u.disk ∧
        ∀ name, .str name ∈ m.successful → ∀ rest, u.disk.under? output (name :: rest) = none)
      fun _ => ".." ∈ (s.disk.cwd.join output).parts := by
  obtain ⟨hkept, hsame⟩ := load_manifest_leaves hobservers hs.proper hload
  have hloaded : Meets (loadManifest output now) context s _ _ := load_manifest_meets hs
  rw [Meets, hload] at hloaded
  obtain ⟨⟨content, hentry⟩, done, failed, -, hm⟩ := hloaded
  have hfound : ∀ obstacle, s.disk.find (manifestPath output) ≠ .lost obstacle := by
    intro obstacle hlost
    rw [Disk.entry?, hlost] at hentry
    cases hentry
  have hleads : s.disk.Leads output := by
    rw [Disk.manifest_path_eq] at hfound
    exact Disk.walk_output hfound
  have hunits : Meets (removeUnits output _) context t _ _ := remove_units_meets hm.lists.nodup_done
    hkept.proper (hs.outside.of_cwd hkept.cwd)
    (hm.of_keeps_modules hkept.toKeepsModules fun _ _ => trivial).modules
    fun hup => hsame.leads (hkept.cwd ▸ hup) hleads
  rw [hkept.cwd, Disk.locate_of_cwd hkept.cwd, ← hm.lists.successful] at hunits
  rw [Meets, rollback, exec_bind, hload]
  refine meets_bind hunits fun removed u hu => ?_
  obtain ⟨hbelow, hgone⟩ := hu
  have hcleared := (hsame.mono fun _ => False.elim).trans hbelow
  have hthere : u.disk.under? output [Manifest.fileName] = some (.file content) :=
    (hcleared.under_manifest fun name hname => (hm.modules name hname).1).trans
      (Disk.under_of_entry hentry)
  have hremoved : Meets (onDisk (·.remove (manifestPath output))) context u _ _ :=
    remove_manifest_meets hcleared.proper (Disk.fits_of_find hfound)
  refine meets_bind (hremoved.mono (fun _ _ h => h) fun _ h => ?_) fun _ v hv => ?_
  · by_contra hup
    exact h (hcleared.leads hup hleads) content hthere
  · obtain ⟨hreach, hremoves, hnone⟩ := hv
    have hlast : Disk.RemovesBelow _ (· = Manifest.fileName) u.disk v.disk :=
      hremoves.removes_below rfl
    rw [Disk.locate_of_cwd hcleared.cwd] at hlast
    have hcwd : v.disk.cwd = s.disk.cwd := hlast.cwd.trans hcleared.cwd
    have hout : v.disk.IsOutside output := hs.outside.of_cwd hcwd
    have hfree : ∀ content, v.disk.under? output [Manifest.fileName] ≠ some (.file content) := by
      simp [hnone]
    refine ⟨⟨hlast.proper, hcwd ▸ hs.straight, hout, fun _ hcontent => absurd hcontent (hfree _)⟩,
      Disk.entry_manifest_of_not_under hout hnone, ?_, fun name hname rest => ?_⟩
    · refine (hcleared.mono fun name hname => .inr ?_).trans (hlast.mono fun _ => .inl)
      exact hm.lists.successful ▸ List.mem_map_of_mem hname
    · rw [hm.lists.successful, List.mem_map] at hname
      obtain ⟨name, hname, ⟨⟩⟩ := hname
      exact hlast.under_none (hgone hreach name hname rest)

theorem not_mem_join {cwd p : Path} (hcwd : ".." ∉ cwd.parts) (hp : ".." ∉ p.parts) :
    ".." ∉ (cwd.join p).parts := by
  unfold Path.join
  split
  · exact hp
  · exact List.mem_append.not.mpr (not_or.mpr ⟨hcwd, hp⟩)

/-- A rollback leaves a sound disk if the path to the output directory does not go up. -/
theorem rollback_sound (hobservers : context.observers = []) (hs : s.disk.IsSound output)
    (hup : ".." ∉ output.parts) :
    ((rollback output now).exec context s).2.disk.IsSound output := by
  cases hload : (loadManifest output now).exec context s with
  | mk loaded t =>
      have hkept : t.disk.IsSound output :=
        hs.of_keeps_units (load_manifest_leaves hobservers hs.proper hload).1
      cases loaded with
      | error failure =>
          rw [rollback, exec_bind, hload]
          exact hkept
      | ok loaded =>
          cases loaded with
          | none =>
              rw [rollback, exec_bind, hload]
              exact hkept
          | some m =>
              refine meets_iff_state (P := fun t => t.disk.IsSound output) |>.mp ?_
              exact (rollback_meets hobservers hs hload).mono (fun _ _ h => h.1)
                fun _ h => absurd h (not_mem_join hs.straight hup)

/-- After a rollback that succeeds there is no manifest, and nothing is gone but the manifest and what
stood in the directories of the units that it listed as successful, of which all is gone. -/
theorem rollback_removes (hobservers : context.observers = []) (hs : s.disk.IsSound output)
    {removed : List String} {t : RunState}
    (h : (rollback output now).exec context s = (.ok removed, t)) :
    t.disk.entry? (manifestPath output) = none ∧ ∃ done, s.disk.ListsDone output done ∧
      s.disk.RemovesBelow (s.disk.locate output).parts
        (fun c => c = Manifest.fileName ∨ c ∈ done) t.disk ∧
      ∀ name ∈ done, ∀ rest, t.disk.under? output (name :: rest) = none := by
  cases hload : (loadManifest output now).exec context s with
  | mk loaded u =>
      have hloaded : Meets (loadManifest output now) context s _ _ := load_manifest_meets hs
      rw [Meets, hload] at hloaded
      cases loaded with
      | error failure =>
          rw [rollback, exec_bind, hload] at h
          cases h
      | ok loaded =>
          cases loaded with
          | none =>
              obtain ⟨hlook, rfl⟩ := hloaded
              rw [rollback, exec_bind, hload] at h
              cases h
              have hnone := Disk.entry_of_look hlook
              exact ⟨hnone, [], .inl ⟨hnone, rfl⟩, Disk.RemovesBelow.refl hs.proper,
                List.forall_mem_nil _⟩
          | some m =>
              obtain ⟨⟨content, hentry⟩, done, failed, ⟨stored, hstored, hwritten⟩, hm⟩ := hloaded
              have hrolled : Meets (rollback output now) context s _ _ :=
                rollback_meets hobservers hs hload
              rw [Meets, h] at hrolled
              obtain ⟨-, hnone, hbelow, hgone⟩ := hrolled
              have hlisted : ∀ name, Json.str name ∈ m.successful ↔ name ∈ done := by
                intro name
                rw [hm.lists.successful, List.mem_map]
                simp
              obtain rfl : content = _ :=
                Entry.file.inj (Option.some.inj ((Disk.under_of_entry hentry).symm.trans hwritten))
              refine ⟨hnone, done, .inr ⟨_, stored, failed, hentry,
                Json.text_of_encode_indented _, hstored.lists⟩, ?_, fun name hname =>
                hgone name ((hlisted name).mpr hname)⟩
              exact hbelow.mono fun c hc => hc.imp id (hlisted c).mp

end Run

end ComponentMigration
