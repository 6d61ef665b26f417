import ComponentMigration.Artifact.Bundle
import ComponentMigration.Command.Migrate
import ComponentMigration.Proofs.Path
import ComponentMigration.Proofs.Run.Disk
import ComponentMigration.Proofs.Run.Stays
import ComponentMigration.Proofs.Text.Splitting

/-!
# Modules of units in an output directory

The module of a unit with a name stands in a directory of that name below the output directory.
What is written there does not take the modules of other units away, and only the writing of a
manifest puts a manifest there: `Disk.KeepsUnits` says so of two disks.  Once the files of a unit
are written, its module is there (`has_module_of_write`), and it is found by its path wherever the
manifest is found by its own (`is_file_of_has_module`).
-/

namespace ComponentMigration

section Paths

/-- The root mark of a text that does not start with a slash is empty. -/
theorem Path.of_text_relative {s : String} (h : ∀ rest, s.toList ≠ '/' :: rest) :
    Path.ofText s = ⟨"", (Text.splitOn s "/").filter fun p => p != "" && p != "."⟩ := by
  have hstart : ∀ marks : String, (∃ rest, marks.toList = '/' :: rest) →
      Text.startsWith s marks = false := by
    rintro marks ⟨rest, hmarks⟩
    rw [Text.startsWith, hmarks]
    cases hs : s.toList with
    | nil => rfl
    | cons c cs =>
        have hc : '/' ≠ c := by
          rintro rfl
          exact h cs hs
        simp [List.isPrefixOf, hc]
  unfold Path.ofText
  rw [hstart "///" ⟨_, rfl⟩, hstart "//" ⟨_, rfl⟩, hstart "/" ⟨_, rfl⟩]
  rfl

/-- A text that is the name of an entry of a directory. -/
structure IsEntryName (s : String) : Prop where
  slash : '/' ∉ s.toList
  empty : s ≠ ""
  dot : s ≠ "."
  up : s ≠ ".."

theorem IsEntryName.of_text {s : String} (h : IsEntryName s) : Path.ofText s = ⟨"", [s]⟩ := by
  have hsplit : Text.splitOn s "/" = [s] := by
    change (Text.splitChars ['/'] s.toList).map String.ofList = [s]
    rw [Text.split_chars_of_not_mem h.slash]
    simp
  rw [Path.of_text_relative (fun rest heq => h.slash (heq ▸ List.mem_cons_self)), hsplit]
  simp [h.empty, h.dot]

theorem IsEntryName.of_text_nested {a b : String} (ha : IsEntryName a) (hb : IsEntryName b) :
    Path.ofText (a ++ "/" ++ b) = ⟨"", [a, b]⟩ := by
  have htext : (a ++ "/" ++ b).toList = a.toList ++ '/' :: b.toList := by simp
  have hsplit : Text.splitOn (a ++ "/" ++ b) "/" = [a, b] := by
    change (Text.splitChars ['/'] (a ++ "/" ++ b).toList).map String.ofList = [a, b]
    have hcut : Text.splitChars ['/'] (a.toList ++ '/' :: b.toList) =
        a.toList :: Text.splitChars ['/'] b.toList := Text.split_chars_append ha.slash [] b.toList
    rw [htext, hcut, Text.split_chars_of_not_mem hb.slash]
    simp
  have hstart : ∀ rest, (a ++ "/" ++ b).toList ≠ '/' :: rest := by
    intro rest heq
    rw [htext] at heq
    cases hcs : a.toList with
    | nil => exact ha.empty (String.toList_inj.mp hcs)
    | cons c cs =>
        rw [hcs, List.cons_append] at heq
        have hslash := ha.slash
        rw [hcs, (List.cons.inj heq).1] at hslash
        exact hslash List.mem_cons_self
  rw [Path.of_text_relative hstart, hsplit]
  simp [ha.empty, ha.dot, hb.empty, hb.dot]

end Paths

section Names

variable {name : String}

/-- The characters of names. -/
def isNameChar (c : Char) : Bool := c.isAlphanum || c == '_' || c == '-' || c == '\n'

theorem name_chars_of_checked {cs : List Char}
    (h : (match cs with
      | c :: rest => c.isAlpha && 1 ≤ rest.length && rest.length ≤ 63 &&
          rest.all fun d => d.isAlphanum || d == '_' || d == '-'
      | [] => false) = true) : ∀ c ∈ cs, isNameChar c := by
  cases cs with
  | nil => cases h
  | cons c rest =>
      simp only [Bool.and_eq_true, List.all_eq_true] at h
      refine List.forall_mem_cons.mpr ⟨?_, fun d hd => ?_⟩
      · simp [isNameChar, Char.isAlphanum, h.1.1.1]
      · rw [isNameChar, h.2 d hd, Bool.true_or]

theorem valid_name_chars (h : isValidName name) : ∀ c ∈ name.toList, isNameChar c := by
  have hbody := name_chars_of_checked h
  split at hbody
  · next hlast =>
      obtain ⟨cs, hname⟩ := List.getLast?_eq_some_iff.mp hlast
      rw [hname, List.dropLast_concat] at hbody
      rw [hname, List.forall_mem_append, List.forall_mem_singleton]
      exact ⟨hbody, by decide⟩
  · exact hbody

theorem not_mem_of_valid_name (h : isValidName name) {c : Char} (hc : ¬isNameChar c) :
    c ∉ name.toList := fun hmem => hc (valid_name_chars h c hmem)

theorem valid_name_ne_empty (h : isValidName name) : name ≠ "" := by
  rintro rfl
  revert h
  decide

/-- A name with an ending is the name of an entry. -/
theorem is_entry_name_of_valid_name (h : isValidName name) {ending : String}
    (hending : '/' ∉ ending.toList) : IsEntryName (name ++ ending) := by
  have hfirst : ∃ c cs, name.toList = c :: cs ∧ isNameChar c := by
    cases hcs : name.toList with
    | nil => exact absurd (String.toList_inj.mp hcs) (valid_name_ne_empty h)
    | cons c cs => exact ⟨c, cs, rfl, valid_name_chars h c (by rw [hcs]; exact List.mem_cons_self)⟩
  obtain ⟨c, cs, hcs, hc⟩ := hfirst
  have hne : ∀ s : String, s.toList.head?.any isNameChar = false → name ++ ending ≠ s := by
    rintro s hs rfl
    rw [String.toList_append, hcs, List.cons_append, List.head?_cons, Option.any_some, hc] at hs
    cases hs
  refine ⟨?_, hne "" (by decide), hne "." (by decide), hne ".." (by decide)⟩
  rw [String.toList_append, List.mem_append, not_or]
  exact ⟨not_mem_of_valid_name h (by decide), hending⟩

theorem is_entry_name_valid_name (h : isValidName name) : IsEntryName name := by
  have hentry := is_entry_name_of_valid_name h (show '/' ∉ "".toList by decide)
  rwa [String.append_empty] at hentry

theorem is_entry_name_module (h : isValidName name) : IsEntryName (name ++ ".tsx") :=
  is_entry_name_of_valid_name h (by decide)

end Names

namespace Disk

/-- What components lead to from an output directory. -/
def under? (d : Disk) (output : Path) (rest : List String) : Option Entry :=
  d.at? ((d.locate output).parts ++ rest)

/-- The path of the module of a unit. -/
def modulePath (output : Path) (name : String) : Path :=
  (output.child name).child (name ++ ".tsx")

/-- The module of a unit stands in the unit's directory, and its path is short enough. -/
structure HasModule (output : Path) (name : String) (d : Disk) : Prop where
  directory : d.under? output [name] = some .directory
  file : ∃ content, d.under? output [name, name ++ ".tsx"] = some (.file content)
  fits : Fits (modulePath output name)
  short : name.utf8ByteSize ≤ nameLimit ∧ (name ++ ".tsx").utf8ByteSize ≤ nameLimit

/-- A disk that has the modules that another one had, as far as a condition asks for them. -/
structure KeepsModules (output : Path) (which : String → Prop) (d d' : Disk) : Prop where
  cwd : d'.cwd = d.cwd
  proper : d'.IsProper
  modules : ∀ name, which name → d.HasModule output name → d'.HasModule output name

/-- A disk that keeps modules and has no manifest that was not there before. -/
structure KeepsUnits (output : Path) (which : String → Prop) (d d' : Disk) : Prop
    extends KeepsModules output which d d' where
  manifest : ∀ content, d'.under? output [Manifest.fileName] = some (.file content) →
    d.under? output [Manifest.fileName] = some (.file content)

/-- The path of an output directory leads to a directory. -/
def Leads (output : Path) (d : Disk) : Prop :=
  d.walk [] .directory (d.cwd.join output).parts = .found ⟨"/", (d.locate output).parts⟩ .directory

/-- The working directory does not lie below an output directory. -/
def IsOutside (output : Path) (d : Disk) : Prop :=
  ∀ c, ¬(d.locate output).parts ++ [c] <+: d.cwd.parts

section Modules

variable {d d' d'' : Disk} {output : Path} {which : String → Prop} {name : String}

theorem locate_of_cwd (h : d'.cwd = d.cwd) (output : Path) : d'.locate output = d.locate output := by
  rw [locate, locate, h]

theorem under_of_cwd (h : d'.cwd = d.cwd) (output : Path) (rest : List String) :
    d'.under? output rest = d'.at? ((d.locate output).parts ++ rest) := by
  rw [under?, locate_of_cwd h]

theorem at_of_entries (h : d'.entries = d.entries) : d'.at? = d.at? := by
  unfold at?
  rw [h]

theorem IsProper.of_entries (hd : d.IsProper) (h : d'.entries = d.entries) : d'.IsProper := by
  unfold IsProper
  rwa [h]

theorem child_child (output : Path) {name file : String} {parts : List String} (hname : IsEntryName name)
    (hfile : Path.ofText file = ⟨"", parts⟩) :
    (output.child name).child file = output.join ⟨"", name :: parts⟩ := by
  rw [Path.child, Path.child, hname.of_text, hfile]
  simp [Path.join, Path.isAbsolute]

theorem module_path_eq (hname : isValidName name) (output : Path) :
    modulePath output name = output.join ⟨"", [name, name ++ ".tsx"]⟩ :=
  child_child output (is_entry_name_valid_name hname) (is_entry_name_module hname).of_text

theorem KeepsModules.trans (hfirst : KeepsModules output which d d')
    (hsecond : KeepsModules output which d' d'') : KeepsModules output which d d'' :=
  ⟨hsecond.cwd.trans hfirst.cwd, hsecond.proper,
    fun name hname h => hsecond.modules name hname (hfirst.modules name hname h)⟩

theorem KeepsUnits.refl (hd : d.IsProper) : KeepsUnits output which d d :=
  ⟨⟨rfl, hd, fun _ _ => id⟩, fun _ => id⟩

theorem KeepsUnits.trans (hfirst : KeepsUnits output which d d')
    (hsecond : KeepsUnits output which d' d'') : KeepsUnits output which d d'' :=
  ⟨hfirst.toKeepsModules.trans hsecond.toKeepsModules,
    fun content h => hfirst.manifest content (hsecond.manifest content h)⟩

theorem KeepsUnits.mono {which' : String → Prop} (h : KeepsUnits output which d d')
    (hwhich : ∀ name, which' name → which name) : KeepsUnits output which' d d' :=
  ⟨⟨h.cwd, h.proper, fun name hname => h.modules name (hwhich name hname)⟩, h.manifest⟩

theorem IsOutside.of_cwd (h : d.IsOutside output) (hcwd : d'.cwd = d.cwd) :
    d'.IsOutside output := by
  unfold IsOutside locate at *
  rwa [hcwd]

/-- Making directories keeps modules. -/
theorem AddsDirectories.keeps_units (h : AddsDirectories d d') : KeepsUnits output which d d' := by
  have hkept : ∀ rest e, d.under? output rest = some e → d'.under? output rest = some e := by
    intro rest e hat
    rw [under_of_cwd h.cwd]
    rcases h.at_eq ((d.locate output).parts ++ rest) with heq | ⟨hnone, -⟩
    · exact heq.trans hat
    · exact nomatch hnone.symm.trans hat
  refine ⟨⟨h.cwd, h.proper, fun name _ hmodule => ?_⟩, fun content hmanifest => ?_⟩
  · obtain ⟨content, hfile⟩ := hmodule.file
    exact ⟨hkept _ _ hmodule.directory, ⟨content, hkept _ _ hfile⟩, hmodule.fits, hmodule.short⟩
  · rw [under_of_cwd h.cwd] at hmanifest
    rcases h.at_eq ((d.locate output).parts ++ [Manifest.fileName]) with heq | ⟨-, hmade⟩
    · exact heq.symm.trans hmanifest
    · exact nomatch hmade.symm.trans hmanifest

/-- Writing a file where no directory stands keeps modules. -/
theorem Puts.keeps_modules {place : List String} {content : List UInt8}
    (h : Puts place (.file content) d d') (hplace : d.at? place ≠ some .directory) :
    KeepsModules output which d d' := by
  refine ⟨h.cwd, h.proper, fun name _ hmodule => ⟨?_, ?_, hmodule.fits, hmodule.short⟩⟩
  · rw [under_of_cwd h.cwd, h.at_eq, if_neg]
    · exact hmodule.directory
    · rintro rfl
      exact hplace hmodule.directory
  · rw [under_of_cwd h.cwd, h.at_eq]
    split
    · exact ⟨content, rfl⟩
    · exact hmodule.file

/-- Writing a file elsewhere than in the manifest's place keeps modules and the manifest. -/
theorem Puts.keeps_units {place : List String} {content : List UInt8}
    (h : Puts place (.file content) d d') (hplace : d.at? place ≠ some .directory)
    (hne : place ≠ (d.locate output).parts ++ [Manifest.fileName]) :
    KeepsUnits output which d d' := by
  refine ⟨h.keeps_modules hplace, fun content' hmanifest => ?_⟩
  rw [under_of_cwd h.cwd, h.at_eq, if_neg (Ne.symm hne)] at hmanifest
  exact hmanifest

/-- Removing an entry of the output directory keeps the modules of units with other names. -/
theorem Removes.keeps_units {c : String} (h : Removes ((d.locate output).parts ++ [c]) d d')
    (hc : ¬which c) : KeepsUnits output which d d' := by
  have hkept : ∀ {name rest}, which name → d'.under? output (name :: rest) = d.under? output (name :: rest) := by
    intro name rest hname
    rw [under_of_cwd h.cwd]
    refine h.at_eq _ fun hbelow => hc ?_
    obtain ⟨later, hlater⟩ := (List.prefix_append_right_inj _).mp hbelow
    exact (List.cons.inj hlater).1 ▸ hname
  refine ⟨⟨h.cwd, h.proper, fun name hname hmodule => ?_⟩, fun content hmanifest => ?_⟩
  · exact ⟨(hkept hname).trans hmodule.directory, by rw [hkept hname]; exact hmodule.file,
      hmodule.fits, hmodule.short⟩
  · rw [under_of_cwd h.cwd] at hmanifest
    exact h.at_le _ _ hmanifest

/-- A walk that gets past a component below the output directory passes a directory there. -/
theorem walk_below_output {rest : List String} (hout : d.IsOutside output) {c : String} (hc : c ≠ "..")
    (h : ∀ obstacle, d.walk [] .directory ((d.cwd.join output).parts ++ c :: rest) ≠ .lost obstacle)
    (hrest : rest ≠ []) :
    d.under? output [c] = some .directory ∧ c.utf8ByteSize ≤ nameLimit ∧
      ∀ obstacle, d.walk ((d.locate output).parts ++ [c]) .directory rest ≠ .lost obstacle := by
  obtain ⟨p, hp⟩ := walk_of_append _ (List.cons_ne_nil c rest) h
  obtain ⟨rfl, -⟩ := walk_found hp (Or.inl rfl)
  rw [walk_append hp, walk_cons, if_neg (by simp), if_neg hc, ← locate_parts] at h
  split at h
  · exact absurd rfl (h _)
  · next hsize =>
      split at h
      · next e hat =>
          obtain ⟨q, hq⟩ := walk_of_append [] hrest h
          cases hq
          exact ⟨hat, Nat.not_lt.mp hsize, h⟩
      · rw [if_neg (hout c)] at h
        exact absurd rfl (h _)

theorem not_mem_module_parts (hname : isValidName name) : ".." ∉ [name, name ++ ".tsx"] := by
  simp [Ne.symm (is_entry_name_valid_name hname).up, Ne.symm (is_entry_name_module hname).up]

/-- Once the module of a unit is written, it is there. -/
theorem has_module_of_write (hd : d.IsProper) (hout : d.IsOutside output) (hname : isValidName name)
    {content : List UInt8} (h : d.write (modulePath output name) content = (.ok (), d')) :
    d'.HasModule output name := by
  have hup := not_mem_module_parts hname
  obtain ⟨t, hfail⟩ | ⟨d'', hwrite, hputs, -, hfind⟩ := write_cases hd (modulePath output name) content
  · cases hfail.symm.trans h
  · cases hwrite.symm.trans h
    have hfits := fits_of_find hfind
    have hwalk : ∀ obstacle, d.walk [] .directory
        ((d.cwd.join output).parts ++ [name, name ++ ".tsx"]) ≠ .lost obstacle := by
      intro obstacle
      rw [← Path.join_join_parts, ← module_path_eq hname, ← find_of_fits hfits]
      exact hfind obstacle
    rw [module_path_eq hname, locate_join d output hup] at hputs
    obtain ⟨hdirectory, hshort, hfile⟩ :=
      walk_below_output hout (Ne.symm (List.ne_of_not_mem_cons hup)) hwalk (by simp)
    refine ⟨?_, ⟨content, ?_⟩, hfits, hshort, ?_⟩
    · rw [under_of_cwd hputs.cwd, hputs.at_eq, if_neg (by simp)]
      exact hdirectory
    · rw [under_of_cwd hputs.cwd, hputs.at_eq, if_pos rfl]
    · have hne := (is_entry_name_module hname).up
      simp only [walk_cons, ne_eq, not_true_eq_false, if_false, hne] at hfile
      refine Nat.not_lt.mp fun hlong => hfile .tooLong ?_
      rw [if_pos hlong]

theorem manifest_path_eq (output : Path) :
    Run.manifestPath output = output.join ⟨"", [Manifest.fileName]⟩ := by
  have hname : IsEntryName Manifest.fileName := ⟨by decide, by decide, by decide, by decide⟩
  rw [Run.manifestPath, Path.child, hname.of_text]

/-- A path to something below the output directory leads through that directory. -/
theorem walk_output {c : String} {rest : List String}
    (h : ∀ obstacle, d.find (output.join ⟨"", c :: rest⟩) ≠ .lost obstacle) : d.Leads output := by
  have hfits := fits_of_find h
  simp only [find_of_fits hfits, Path.join_join_parts] at h
  obtain ⟨p, hp⟩ := walk_of_append _ (List.cons_ne_nil c rest) h
  rw [Leads, hp, (walk_found hp (Or.inl rfl)).1, locate_parts]

/-- The module of a unit is found by its path wherever the manifest is found by its own. -/
theorem is_file_of_has_module (hname : isValidName name) (h : d.HasModule output name)
    {e : Entry} (hmanifest : d.entry? (Run.manifestPath output) = some e) :
    d.isFile (modulePath output name) := by
  have hfound : ∀ obstacle, d.find (output.join ⟨"", [Manifest.fileName]⟩) ≠ .lost obstacle := by
    intro obstacle hlost
    rw [manifest_path_eq, entry?, hlost] at hmanifest
    cases hmanifest
  obtain ⟨content, hfile⟩ := h.file
  have hup := not_mem_module_parts hname
  simp only [List.mem_cons, List.not_mem_nil, or_false, not_or] at hup
  have hfind : d.find (modulePath output name) =
      .found ⟨"/", (d.locate output).parts ++ [name] ++ [name ++ ".tsx"]⟩ (.file content) := by
    rw [find_of_fits h.fits, module_path_eq hname, Path.join_join_parts, walk_append (walk_output hfound),
      walk_cons, if_neg (by simp), if_neg (Ne.symm hup.1), if_neg (Nat.not_lt.mpr h.short.1)]
    have hdirectory : d.at? ((d.locate output).parts ++ [name]) = some .directory := h.directory
    have hfile : d.at? ((d.locate output).parts ++ [name] ++ [name ++ ".tsx"]) =
        some (.file content) := by
      rw [List.append_assoc]
      exact hfile
    rw [hdirectory]
    dsimp only
    rw [walk_cons, if_neg (by simp), if_neg (Ne.symm hup.2), if_neg (Nat.not_lt.mpr h.short.2), hfile]
    rfl
  rw [isFile, entry?, hfind]

end Modules

end Disk

/-- States on whose disks modules are kept and no manifest comes up. -/
def RunState.KeepsUnits (output : Path) (which : String → Prop) (s t : RunState) : Prop :=
  s.disk.IsProper → s.disk.KeepsUnits output which t.disk

instance {output : Path} {which : String → Prop} :
    RunState.IsLax (RunState.KeepsUnits output which) where
  refl _ hs := Disk.KeepsUnits.refl hs
  trans _ _ _ hfirst hsecond hs := (hfirst hs).trans (hsecond (hfirst hs).proper)
  of_alike {s t} halike hs := by
    have hunder : t.disk.under? = s.disk.under? := by
      unfold Disk.under? Disk.locate
      rw [Disk.at_of_entries halike.entries, halike.cwd]
    refine ⟨⟨halike.cwd, hs.of_entries halike.entries, fun name _ h => ?_⟩, fun content h => ?_⟩
    · exact ⟨by rw [hunder]; exact h.directory, by rw [hunder]; exact h.file, h.fits, h.short⟩
    · rwa [hunder] at h

namespace Run

variable {output : Path} {which : String → Prop} {name : String}

theorem stays_make_directories (p : Path) :
    Stays (RunState.KeepsUnits output which) (onDisk (·.makeDirectories p)) :=
  stays_on_disk fun _ hs => (Disk.adds_directories_make_directories hs p).keeps_units

/-- A relative path of a file that leads down. -/
def LeadsDown (file : String) : Prop :=
  ∃ parts, Path.ofText file = ⟨"", parts⟩ ∧ parts ≠ [] ∧ ".." ∉ parts

/-- Writing a file at least two components below the output directory keeps modules and the
manifest. -/
theorem keeps_units_write {p : Path} {parts : List String}
    (hp : p = output.join ⟨"", name :: parts⟩) (hne : parts ≠ []) (hdown : ".." ∉ name :: parts)
    {d : Disk} (hd : d.IsProper) (content : List UInt8) :
    d.KeepsUnits output which (d.write p content).2 := by
  obtain ⟨t, hwrite⟩ | ⟨d', hwrite, hputs, hplace, -⟩ := Disk.write_cases hd p content
  · rw [hwrite]
    exact Disk.KeepsUnits.refl hd
  · rw [hwrite]
    refine hputs.keeps_units hplace ?_
    rw [hp, Disk.locate_join _ _ hdown, ne_eq, List.append_cancel_left_eq]
    intro heq
    exact hne (List.cons.inj heq).2

theorem stays_write_file {p : Path} {parts : List String}
    (hp : p = output.join ⟨"", name :: parts⟩) (hne : parts ≠ []) (hdown : ".." ∉ name :: parts)
    (text : String) : Stays (RunState.KeepsUnits output which) (writeFile p text) :=
  stays_bind (stays_make_directories _) fun _ =>
    stays_on_disk fun _ hs => keeps_units_write hp hne hdown hs _

theorem stays_write_unit_files (hname : isValidName name) {files : List (String × String)}
    (hfiles : ∀ file ∈ files, LeadsDown file.1) :
    Stays (RunState.KeepsUnits output which) (writeFiles (output.child name) files) := by
  have hentry := is_entry_name_valid_name hname
  induction files with
  | nil => exact stays_pure ()
  | cons file files ih =>
      obtain ⟨⟨parts, hparts, hne, hup⟩, hfiles⟩ := List.forall_mem_cons.mp hfiles
      have hdown : ".." ∉ name :: parts := by simp [Ne.symm hentry.up, hup]
      exact stays_bind (stays_write_file (Disk.child_child output hentry hparts) hne hdown file.2)
        fun _ => ih hfiles

theorem leads_down_of_mem_files {b : Bundle} (hname : isValidName b.name) :
    ∀ file ∈ b.files, LeadsDown file.1 := by
  have hsingle : ∀ {s : String}, IsEntryName s → LeadsDown s := fun h =>
    ⟨_, h.of_text, List.cons_ne_nil _ _, by simpa using Ne.symm h.up⟩
  have hreadme : LeadsDown "README.md" := hsingle ⟨by decide, by decide, by decide, by decide⟩
  have htest : LeadsDown ("__tests__/" ++ b.name ++ ".test.tsx") := by
    have htext : "__tests__/" ++ b.name ++ ".test.tsx" =
        "__tests__" ++ "/" ++ (b.name ++ ".test.tsx") := by
      rw [← String.append_assoc]
      rfl
    have hdirectory : IsEntryName "__tests__" := ⟨by decide, by decide, by decide, by decide⟩
    have hfile : IsEntryName (b.name ++ ".test.tsx") :=
      is_entry_name_of_valid_name hname (by decide)
    refine ⟨_, htext ▸ hdirectory.of_text_nested hfile, List.cons_ne_nil _ _, ?_⟩
    simp [Ne.symm hfile.up]
  intro file hfile
  simp only [Bundle.files, List.mem_append, List.mem_cons, List.not_mem_nil, or_false,
    Option.mem_toList, Option.map_eq_some_iff] at hfile
  obtain ((rfl | rfl) | ⟨text, -, rfl⟩) | ⟨text, -, rfl⟩ := hfile
  · exact hsingle (is_entry_name_module hname)
  · exact hreadme
  · exact hsingle (is_entry_name_of_valid_name hname (by decide))
  · exact htest

variable {context : RunContext} {s : RunState}

/-- Writing the module of a unit takes no module away, and in the end this one is there. -/
theorem write_module_meets (hname : isValidName name) (hobservers : context.observers = [])
    (hs : s.disk.IsProper) (hout : s.disk.IsOutside output) {p : Path}
    (hp : p = Disk.modulePath output name) (text : String) :
    Meets (writeFile p text) context s
      (fun _ t => RunState.KeepsUnits output (fun _ => True) s t ∧ t.disk.HasModule output name)
      (RunState.KeepsUnits output (fun _ => True) s) := by
  have hstay := RunContext.observers_stay_of_nil hobservers (RunState.KeepsUnits output (fun _ => True))
  have hparent := (stays_make_directories p.parent).meets hstay
    (refl_of (RunState.KeepsUnits output (fun _ => True)) s)
  refine meets_bind hparent fun _ t ht => ?_
  have hproper : t.disk.IsProper := (ht hs).proper
  have hkept : ∀ d, d = (t.disk.write p (Text.encodeUtf8 text)).2 →
      RunState.KeepsUnits output (fun _ => True) s { t with disk := d } := by
    rintro d rfl hs
    exact (ht hs).trans (keeps_units_write (hp.trans (Disk.module_path_eq hname output))
      (List.cons_ne_nil _ _) (Disk.not_mem_module_parts hname) hproper _)
  refine meets_on_disk (fun _ d hwrite => ?_) fun _ d hwrite => ?_
  · rw [Disk.writeText] at hwrite
    refine ⟨hkept d (by rw [hwrite]), ?_⟩
    rw [hp] at hwrite
    exact Disk.has_module_of_write hproper (hout.of_cwd (ht hs).cwd) hname hwrite
  · rw [Disk.writeText] at hwrite
    exact hkept d (by rw [hwrite])

section Bundle

-- Whether a computation meets something is not to be found out by running it.
attribute [local irreducible] Meets

/-- Writing the files of a unit takes no module away, and in the end its own module is there. -/
theorem write_bundle_meets {b : Bundle} (hname : isValidName b.name)
    (hobservers : context.observers = []) (hs : s.disk.IsProper) (hout : s.disk.IsOutside output) :
    Meets (writeBundle b output) context s
      (fun _ t => RunState.KeepsUnits output (fun _ => True) s t ∧ t.disk.HasModule output b.name)
      (RunState.KeepsUnits output (fun _ => True) s) := by
  have hstay := RunContext.observers_stay_of_nil hobservers (RunState.KeepsUnits output fun _ => True)
  have hdown := leads_down_of_mem_files hname
  obtain ⟨files, hfiles⟩ : ∃ files, b.files = (b.name ++ ".tsx", b.component) :: files := ⟨_, rfl⟩
  rw [hfiles] at hdown
  rw [writeBundle, hfiles, writeFiles]
  refine meets_bind ((stays_make_directories _).meets hstay
    (refl_of (RunState.KeepsUnits output fun _ => True) s)) fun _ t ht => ?_
  have hmodule := write_module_meets hname hobservers (ht hs).proper (hout.of_cwd (ht hs).cwd)
    (show (output.child b.name).child (b.name ++ ".tsx") = _ from rfl) b.component
  refine meets_bind (hmodule.mono (fun _ _ h => h) fun _ h => trans_of _ ht h) fun _ u hu => ?_
  have hrest := (stays_write_unit_files hname (List.forall_mem_cons.mp hdown).2).meets hstay
    (refl_of (RunState.KeepsUnits output fun _ => True) u)
  refine hrest.mono (fun _ v hv => ⟨trans_of _ ht (trans_of _ hu.1 hv), ?_⟩)
    fun v hv => trans_of _ ht (trans_of _ hu.1 hv)
  exact (hv ((hu.1 (ht hs).proper).proper)).modules _ trivial hu.2

end Bundle

end Run

end ComponentMigration
