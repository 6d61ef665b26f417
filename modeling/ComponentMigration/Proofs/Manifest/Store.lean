import ComponentMigration.Proofs.Artifact.Module
import ComponentMigration.Proofs.Json.Written
import ComponentMigration.Proofs.Manifest.Basic

/-!
# Manifests that hold on disk

A manifest holds on a disk if it lists every unit once and the module of every successful unit is
there.  The manifest in an output directory is sound if it is the written form of one that holds;
loading then gives a manifest that holds too, and saving one that holds leaves a sound one.  Rolling
back removes the manifest after the units, and cleaning up spares the units that it lists.
-/

namespace ComponentMigration

/-- A manifest that lists every unit once, with the modules of all successful units on a disk. -/
structure Manifest.Holds (output : Path) (d : Disk) (done failed : List String) (m : Manifest) :
    Prop where
  lists : m.Lists done failed
  plain : m.IsPlain
  modules : ∀ name ∈ done, isValidName name ∧ d.HasModule output name

/-- The manifest in an output directory is the written form of one that holds. -/
def Disk.Stores (output : Path) (done failed : List String) (d : Disk) : Prop :=
  ∃ m : Manifest, m.Holds output d done failed ∧
    d.under? output [Manifest.fileName] = some (.file (Text.encodeUtf8 m.toJson.indented))

/-- A disk on which the manifest of an output directory, if there is one, is the written form of a
manifest that holds. -/
structure Disk.IsSound (output : Path) (d : Disk) : Prop where
  proper : d.IsProper
  straight : ".." ∉ d.cwd.parts
  outside : d.IsOutside output
  manifest : ∀ content, d.under? output [Manifest.fileName] = some (.file content) →
    ∃ done failed, d.Stores output done failed

section Soundness

variable {output : Path} {d d' : Disk} {which : String → Prop} {m : Manifest}
  {done failed : List String}

theorem Manifest.Holds.of_keeps_modules (h : m.Holds output d done failed)
    (hkept : d.KeepsModules output which d') (hwhich : ∀ name ∈ done, which name) :
    m.Holds output d' done failed :=
  ⟨h.lists, h.plain, fun name hname =>
    ⟨(h.modules name hname).1, hkept.modules name (hwhich name hname) (h.modules name hname).2⟩⟩

/-- A manifest that is still there is the one that was there. -/
theorem Disk.Stores.of_keeps_units (h : d.Stores output done failed)
    (hkept : d.KeepsUnits output which d') (hwhich : ∀ name ∈ done, which name)
    {content : List UInt8} (hthere : d'.under? output [Manifest.fileName] = some (.file content)) :
    d'.Stores output done failed := by
  obtain ⟨m, hm, hwritten⟩ := h
  refine ⟨m, hm.of_keeps_modules hkept.toKeepsModules hwhich, ?_⟩
  rw [hthere, ← hkept.manifest content hthere, hwritten]

theorem Disk.IsSound.of_keeps_units (h : d.IsSound output)
    (hkept : d.KeepsUnits output (fun _ => True) d') : d'.IsSound output := by
  refine ⟨hkept.proper, hkept.cwd ▸ h.straight, h.outside.of_cwd hkept.cwd,
    fun content hcontent => ?_⟩
  obtain ⟨done, failed, hstored⟩ := h.manifest content (hkept.manifest content hcontent)
  exact ⟨done, failed, hstored.of_keeps_units hkept (fun _ _ => trivial) hcontent⟩

end Soundness

namespace Disk

variable {d : Disk} {p : Path}

/-- A path that can be looked up fits, unless it has a null character. -/
theorem fits_of_look {e : Option Entry} (hnull : '\x00' ∉ p.toText.toList) (h : d.look p = .ok e) :
    Fits p := by
  refine ⟨hnull, Nat.not_lt.mp fun hlong => ?_⟩
  have hfind : d.find p = .lost .tooLong := by
    rw [find, if_neg (by simpa using hnull), if_pos hlong]
  rw [look, hfind] at h
  cases h

theorem null_not_mem_manifest_path {output : Path} (h : '\x00' ∉ output.toText.toList) :
    '\x00' ∉ (Run.manifestPath output).toText.toList := by
  have hname : '\x00' ∉ Manifest.fileName.toList := by decide
  obtain ⟨root, parts⟩ := output
  have hpath : Run.manifestPath ⟨root, parts⟩ = ⟨root, parts ++ [Manifest.fileName]⟩ := by
    simp [manifest_path_eq, Path.join, Path.isAbsolute]
  rw [hpath]
  by_cases hparts : parts = []
  · subst hparts
    by_cases hroot : root = ""
    · subst hroot
      exact hname
    · simpa [Path.toText, hroot, hname] using h
  · simpa [Path.to_text_concat hparts, hname] using h

/-- A text that is read is that of the file at the path. -/
theorem exists_of_read_text {text : String} {d' : Disk} (h : d.readText p = (.ok text, d')) :
    ∃ content, d.entry? p = some (.file content) ∧ textOf content = .ok text := by
  unfold readText at h
  split at h
  · cases h
  · split at h
    · next content hcontent =>
        unfold Disk.content at hcontent
        split at hcontent <;> cases hcontent
        next hfind =>
        refine ⟨content, ?_, (Prod.mk.inj h).1⟩
        unfold entry?
        rw [hfind]
    · cases h

/-- A manifest that is found by its path stands below the output directory. -/
theorem under_of_entry {output : Path} {content : List UInt8}
    (h : d.entry? (Run.manifestPath output) = some (.file content)) :
    d.under? output [Manifest.fileName] = some (.file content) := by
  unfold entry? at h
  split at h
  · next hfind =>
      cases h
      rcases (find_found hfind).2 with hdirectory | hat
      · cases hdirectory
      · rwa [manifest_path_eq, locate_join d output (by decide)] at hat
  · cases h

/-- A name that the system takes below an output directory. -/
structure Takes (output : Path) (c : String) : Prop where
  fits : Fits (output.join ⟨"", [c]⟩)
  short : c.utf8ByteSize ≤ nameLimit
  up : c ≠ ".."

/-- What stands below the output directory is found by its path. -/
theorem find_name {output : Path} {c : String} {e : Entry} (hleads : d.Leads output)
    (hc : Takes output c) (hunder : d.under? output [c] = some e) :
    d.find (output.join ⟨"", [c]⟩) = .found ⟨"/", (d.locate output).parts ++ [c]⟩ e := by
  have hat : d.at? ((d.locate output).parts ++ [c]) = some e := hunder
  rw [find_of_fits hc.fits, Path.join_join_parts, walk_append hleads, walk_cons, if_neg (by simp),
    if_neg hc.up, if_neg (Nat.not_lt.mpr hc.short), hat]
  rfl

/-- A manifest that stands below the output directory is found by its path. -/
theorem find_manifest {output : Path} {e : Entry} (hleads : d.Leads output)
    (hfits : Fits (Run.manifestPath output))
    (hunder : d.under? output [Manifest.fileName] = some e) :
    d.find (Run.manifestPath output) =
      .found ⟨"/", (d.locate output).parts ++ [Manifest.fileName]⟩ e := by
  rw [manifest_path_eq] at hfits ⊢
  exact find_name hleads ⟨hfits, by decide, by decide⟩ hunder

/-- Without a manifest below the output directory, none is found by its path. -/
theorem entry_manifest_of_not_under {output : Path} (hout : d.IsOutside output)
    (hunder : d.under? output [Manifest.fileName] = none) :
    d.entry? (Run.manifestPath output) = none := by
  have hat : d.at? ((d.locate output).parts ++ [Manifest.fileName]) = none := hunder
  unfold entry?
  split
  · next place e hfind =>
      have hfound : ∀ obstacle, d.find (output.join ⟨"", [Manifest.fileName]⟩) ≠ .lost obstacle := by
        intro obstacle hlost
        rw [manifest_path_eq, hlost] at hfind
        cases hfind
      have hfits := fits_of_find hfound
      rw [manifest_path_eq, find_of_fits hfits, Path.join_join_parts,
        walk_append (walk_output hfound), walk_cons, if_neg (by simp), if_neg (by decide),
        if_neg (by decide), hat] at hfind
      dsimp only at hfind
      rw [if_neg (hout _), if_pos rfl] at hfind
      cases hfind
  · rfl

/-- Writing a manifest that holds leaves a sound one, or the one that was there. -/
theorem is_sound_write_manifest {output : Path} {m : Manifest} {done failed : List String}
    (hd : d.IsSound output) (hm : m.Holds output d done failed) :
    (d.writeText (Run.manifestPath output) m.toJson.indented).2.IsSound output := by
  rw [writeText]
  obtain ⟨t, hwrite⟩ | ⟨d', hwrite, hputs, hplace, -⟩ :=
    write_cases hd.proper (Run.manifestPath output) (Text.encodeUtf8 m.toJson.indented)
  · rw [hwrite]
    exact hd
  · rw [hwrite]
    have hkept : d.KeepsModules output (fun _ => True) d' := hputs.keeps_modules hplace
    refine ⟨hputs.proper, hputs.cwd ▸ hd.straight, hd.outside.of_cwd hputs.cwd, fun _ _ =>
      ⟨done, failed, m, hm.of_keeps_modules hkept fun _ _ => trivial, ?_⟩⟩
    rw [under_of_cwd hputs.cwd, hputs.at_eq, manifest_path_eq, locate_join d output (by decide),
      if_pos rfl]

end Disk

namespace Run

variable {β : Type} {context : RunContext} {s : RunState} {output : Path} {now : Instant}

theorem meets_exists_bind {p : Path} {f : Bool → Run β} {Q : β → RunState → Prop}
    {E : RunState → Prop} (herror : E s)
    (h : ∀ e, s.disk.look p = .ok e → Meets (f e.isSome) context s Q E) :
    Meets (exists? p >>= f) context s Q E := by
  rw [Meets, exec_bind, exec_exists]
  cases hlook : s.disk.look p with
  | error t => exact herror
  | ok e => exact h e hlook

theorem meets_is_directory_bind {p : Path} {f : Bool → Run β} {Q : β → RunState → Prop}
    {E : RunState → Prop} (herror : ∀ t, s.disk.look p = .error t → E s)
    (h : Meets (f (s.disk.entry? p == some .directory)) context s Q E) :
    Meets (isDirectory? p >>= f) context s Q E := by
  rw [Meets, exec_bind, exec_is_directory]
  cases hlook : s.disk.look p with
  | error t => exact herror t hlook
  | ok e =>
      rw [Disk.entry_of_look hlook] at h
      exact h

theorem stays_read_json {R : RunState → RunState → Prop} [RunState.IsLax R] (p : Path) :
    Stays R (readJson p) :=
  stays_bind (stays_read_text p) fun _ => stays_use _

theorem stays_load_manifest {R : RunState → RunState → Prop} [RunState.IsLax R] (output : Path)
    (now : Instant) : Stays R (loadManifest output now) := by
  have hread := stays_read_json (R := R)
  unfold loadManifest
  grind

/-- A value that is read is that of the document in the file at the path. -/
theorem read_json_meets (p : Path) :
    Meets (readJson p) context s
      (fun v _ => ∃ content text, s.disk.entry? p = some (.file content) ∧
        Disk.textOf content = .ok text ∧ Json.read text = .ok v) fun _ => True := by
  refine meets_bind (Q := fun text _ => ∃ content, s.disk.entry? p = some (.file content) ∧
    Disk.textOf content = .ok text) (meets_on_disk (fun text d h => Disk.exists_of_read_text h)
      fun _ _ _ => trivial) fun text t ⟨content, hentry, htext⟩ => ?_
  unfold Json.parse
  split
  · next v hread => exact ⟨content, text, hentry, htext, hread⟩
  · exact trivial

/-- What is loaded from a sound disk holds there. -/
theorem load_manifest_meets (hs : s.disk.IsSound output) :
    Meets (loadManifest output now) context s
      (fun loaded t => match loaded with
        | none => s.disk.look (manifestPath output) = .ok none ∧ t = s
        | some m => (∃ content, s.disk.entry? (manifestPath output) = some (.file content)) ∧
            ∃ done failed, s.disk.Stores output done failed ∧ m.Holds output s.disk done failed)
      fun _ => True := by
  unfold loadManifest
  dsimp only
  refine meets_exists_bind trivial fun e hlook => ?_
  split
  · next hnone =>
      obtain rfl : e = none := by simpa using hnone
      exact ⟨hlook, rfl⟩
  · refine meets_bind (Q := fun outcome _ => ∀ v, outcome = .ok v → ∃ content text,
      s.disk.entry? (manifestPath output) = some (.file content) ∧
        Disk.textOf content = .ok text ∧ Json.read text = .ok v) (meets_attempt ?_)
        fun outcome t houtcome => ?_
    · refine (read_json_meets _).mono ?_ ?_
      · rintro v t h _ ⟨⟩
        exact h
      · rintro t - failure v ⟨⟩
    · split
      · next v =>
          obtain ⟨content, text, hentry, htext, hread⟩ := houtcome v rfl
          have hunder := Disk.under_of_entry hentry
          obtain ⟨done, failed, stored, hstored, hwritten⟩ := hs.manifest content hunder
          cases hwritten.symm.trans hunder
          cases (Json.text_of_encode_indented _).symm.trans htext
          simp only [pure_bind]
          split
          · next m hm =>
              obtain ⟨hlists, hplain⟩ :=
                Manifest.lists_of_read hstored.lists hstored.plain hread hm
              exact ⟨⟨_, hentry⟩, done, failed, ⟨stored, hstored, hwritten⟩, hlists, hplain,
                hstored.modules⟩
          · exact trivial
      · split <;> exact trivial
      · exact trivial

variable {m : Manifest} {done failed : List String}

/-- Saving a manifest that holds leaves a sound one, or the one that was there. -/
theorem save_manifest_sound (hobservers : context.observers = []) (hs : s.disk.IsSound output)
    (hm : m.Holds output s.disk done failed) :
    ((saveManifest output (some m)).exec context s).2.disk.IsSound output := by
  have hstay := RunContext.observers_stay_of_nil hobservers
    (RunState.KeepsUnits output fun _ => True)
  refine meets_iff_state (P := fun t => t.disk.IsSound output) |>.mp ?_
  have hmade := (stays_make_directories output).meets hstay
    (refl_of (RunState.KeepsUnits output fun _ => True) s)
  unfold saveManifest
  refine meets_bind (hmade.mono (fun _ _ h => h) fun _ h => hs.of_keeps_units (h hs.proper))
    fun _ t ht => meets_get_bind ?_
  have hwritten := Disk.is_sound_write_manifest (hs.of_keeps_units (ht hs.proper))
    (hm.of_keeps_modules (ht hs.proper).toKeepsModules fun _ _ => trivial)
  refine meets_bind (Q := fun _ u => u.disk.IsSound output)
    (meets_on_disk (fun _ d hwrite => ?_) fun _ d hwrite => ?_) fun _ _ hu => hu
  · rwa [hwrite] at hwritten
  · rwa [hwrite] at hwritten

theorem stays_remove_orphans {which : String → Prop} {paths : List Path}
    (hpaths : ∀ p ∈ paths, ∃ c, p = output.join ⟨"", [c]⟩ ∧ c ≠ ".." ∧ ¬which c) :
    Stays (RunState.KeepsUnits output which) (removeOrphans paths) := by
  induction paths with
  | nil => exact stays_pure []
  | cons p paths ih =>
      obtain ⟨⟨c, rfl, hup, hc⟩, hlater⟩ := List.forall_mem_cons.mp hpaths
      have hremove : Stays (RunState.KeepsUnits output which)
          (onDisk (·.removeTree (output.join ⟨"", [c]⟩))) := by
        refine stays_on_disk fun s hs => ?_
        have hremoves := (Disk.remove_tree_cases hs (output.join ⟨"", [c]⟩)).1
        rw [Disk.locate_join _ _ (by simpa using Ne.symm hup)] at hremoves
        exact hremoves.keeps_units hc
      have hrest := ih hlater
      unfold removeOrphans
      grind

/-- The names of those entries of the output directory that a manifest does not list as successful. -/
theorem exists_of_mem_orphans {d : Disk} (hd : d.IsProper) {keep : List Json} {p : Path}
    (hp : p ∈ (d.list output).filter fun p => !keep.any (· == .str p.name)) :
    ∃ c, p = output.join ⟨"", [c]⟩ ∧ c ≠ ".." ∧ ¬keep.any (· == .str c) := by
  obtain ⟨hmem, hkeep⟩ := List.mem_filter.mp hp
  obtain ⟨c, rfl, hc⟩ := Disk.exists_of_mem_list hd hmem
  refine ⟨c, rfl, hc, ?_⟩
  have hname : (output.join ⟨"", [c]⟩).name = c := by simp [Path.name, Path.join, Path.isAbsolute]
  rw [hname] at hkeep
  simpa using hkeep

/-- Without a manifest that is found by its path, there is none below an output directory that is. -/
theorem not_under_of_look {d : Disk} (houtput : d.entry? output = some .directory)
    (hlook : d.look (manifestPath output) = .ok none) :
    d.under? output [Manifest.fileName] = none := by
  cases hunder : d.under? output [Manifest.fileName] with
  | none => rfl
  | some e =>
      unfold Disk.entry? at houtput
      split at houtput
      · next place e' hfind =>
          cases houtput
          have hfits : Disk.Fits output := Disk.fits_of_find fun obstacle hlost => by
            rw [hfind] at hlost
            cases hlost
          have hleads : d.Leads output := by
            rw [Disk.Leads, ← Disk.find_of_fits hfits, hfind, (Disk.find_found hfind).1]
          have hfound := Disk.find_manifest hleads
            (Disk.fits_of_look (Disk.null_not_mem_manifest_path hfits.1) hlook) hunder
          rw [Disk.look, hfound] at hlook
          cases hlook
      · cases houtput

/-- Cleaning up spares the units that the manifest lists. -/
theorem cleanup_sound (hobservers : context.observers = []) (hs : s.disk.IsSound output) :
    ((cleanup output now).exec context s).2.disk.IsSound output := by
  refine meets_iff_state (P := fun t => t.disk.IsSound output) |>.mp ?_
  have hstay := RunContext.observers_stay_of_nil hobservers
  unfold cleanup
  refine meets_is_directory_bind (fun _ _ => hs) ?_
  split
  · exact hs
  · next hdirectory =>
    have houtput : s.disk.entry? output = some .directory := by simpa using hdirectory
    have hloaded := ((stays_load_manifest output now).meets
      (hstay (RunState.KeepsUnits output fun _ => True)) (refl_of _ s)).and (load_manifest_meets hs)
    refine meets_bind (hloaded.mono (fun _ _ h => h) fun _ h => hs.of_keeps_units (h.1 hs.proper))
      fun loaded t ⟨ht, hload⟩ => ?_
    dsimp only
    generalize hkeep : (loaded.map Manifest.successful).getD [] = keep
    have hsound : ∀ u : RunState, t.disk.KeepsUnits output (fun c => keep.any (· == .str c)) u.disk →
        u.disk.IsSound output := by
      intro u hu
      have hkept := ((ht hs.proper).mono fun _ _ => trivial).trans hu
      refine ⟨hkept.proper, hkept.cwd ▸ hs.straight, hs.outside.of_cwd hkept.cwd,
        fun content hcontent => ?_⟩
      cases loaded with
      | none =>
          have hnone := not_under_of_look houtput hload.1
          cases hnone.symm.trans (hkept.manifest content hcontent)
      | some m =>
          obtain ⟨-, done, failed, hstored, hm⟩ := hload
          have hnamed : ∀ name ∈ done, keep.any (· == .str name) := by
            intro name hname
            rw [← hkeep]
            exact (hm.lists.is_successful_iff name).mpr hname
          exact ⟨done, failed, hstored.of_keeps_units hkept hnamed hcontent⟩
    have ht' : t.disk.IsProper := (ht hs.proper).proper
    have hunchanged : t.disk.IsSound output := hsound t (Disk.KeepsUnits.refl ht')
    split
    · exact hunchanged
    · refine meets_get_bind (meets_iff_state.mpr (hsound _ ?_))
      exact (stays_remove_orphans fun p hp => exists_of_mem_orphans ht' hp).state context t
        (hstay _) ht'

end Run

end ComponentMigration
