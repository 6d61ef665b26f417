import Mathlib.Data.List.Perm.Basic
import ComponentMigration.Dependency.Analyze
import ComponentMigration.Proofs.Assoc
import ComponentMigration.Proofs.Dependency.Graph
import ComponentMigration.Proofs.Run.Exec

/-!
# Gathering details file by file

The units are grouped by file; every unit stands under its own file once
(`units_by_file_grouped`).  The files are read one after the other, and the uses of each one are
added to the details: an import statement is used by units that are chosen among those of the file
(`import_uses_eq`), and a use extends the detail of its ends or makes one (`Gathered.add_cases`).

What has come out of the files so far is told by `AnalysisState.Tells`: details have distinct ends,
their sources are units of files without an obstacle, and every unit of the other files has a
warning.  `gather_file_tells` says that a file keeps it so, `gather_files_tells` carries it through a
run.
-/

namespace ComponentMigration

section Grouping

variable {byFile : Assoc (List Component)} {components : List Component} {c u : Component}

/-- A unit that is added comes to those that are there. -/
theorem flat_map_add_unit (byFile : Assoc (List Component)) (c : Component) :
    ((addUnit byFile c).flatMap (·.2)).Perm (byFile.flatMap (·.2) ++ [c]) := by
  unfold addUnit
  induction byFile with
  | nil => simp [Assoc.set, Assoc.get?]
  | cons entry rest ih =>
      obtain ⟨file, units⟩ := entry
      by_cases h : file = c.filePath
      · subst h
        simp only [Assoc.set, Assoc.get?, beq_self_eq_true, if_true, List.find?_cons_of_pos,
          Option.map_some, Option.getD_some, List.flatMap_cons, List.append_assoc]
        exact List.perm_append_comm.append_left units
      · have hget : Assoc.get? ((file, units) :: rest) c.filePath =
            Assoc.get? rest c.filePath := by
          simp [Assoc.get?, h]
        simp only [Assoc.set, hget, beq_iff_eq, h, if_false, List.flatMap_cons, List.append_assoc]
        exact ih.append_left units

/-- Every unit of a table stands under its own file, and every file once. -/
structure Grouped (byFile : Assoc (List Component)) : Prop where
  distinct : byFile.keys.Nodup
  filed : ∀ file units, (file, units) ∈ byFile → ∀ u ∈ units, u.filePath = file

theorem Grouped.add_unit (h : Grouped byFile) (c : Component) : Grouped (addUnit byFile c) := by
  refine ⟨Assoc.nodup_keys_set h.distinct, ?_⟩
  intro file units hentry u hu
  rcases Assoc.mem_or_eq_of_mem_set hentry with hold | hnew
  · exact h.filed file units hold u hu
  · obtain ⟨rfl, rfl⟩ := Prod.mk.inj hnew
    rcases List.mem_append.mp hu with hu | hu
    · cases hget : byFile.get? c.filePath with
      | none => simp [hget] at hu
      | some known =>
          rw [hget] at hu
          exact h.filed _ known (Assoc.mem_of_get? hget) u hu
    · rw [List.mem_singleton.mp hu]

/-- The units of all files are grouped by file, and none is lost or doubled. -/
theorem units_by_file_grouped (components : List Component) :
    Grouped (unitsByFile components) ∧
      ((unitsByFile components).flatMap (·.2)).Perm components := by
  suffices h : ∀ byFile, Grouped byFile → Grouped (components.foldl addUnit byFile) ∧
      ((components.foldl addUnit byFile).flatMap (·.2)).Perm
        (byFile.flatMap (·.2) ++ components) from
    h [] ⟨List.nodup_nil, fun file units hentry => absurd hentry List.not_mem_nil⟩
  induction components with
  | nil =>
      intro byFile hgrouped
      exact ⟨hgrouped, by simp⟩
  | cons c rest ih =>
      intro byFile hgrouped
      obtain ⟨hlast, hperm⟩ := ih (addUnit byFile c) (hgrouped.add_unit c)
      refine ⟨hlast, hperm.trans ?_⟩
      rw [← List.singleton_append, ← List.append_assoc]
      exact (flat_map_add_unit byFile c).append_right rest

end Grouping

/-- Whether an import path names a package. -/
def namesPackage (path : String) : Bool := !Text.startsWith path "."

/-- The package, unit or file that an import path of a file leads to. -/
def importTarget (primary : Assoc String) (file path : String) : String :=
  if namesPackage path then packageName path else resolveImport file path primary

namespace ImportUse

/-- Whether a use is one of a package. -/
def isExternal (use : ImportUse) : Bool := namesPackage use.importPath

/-- The package, unit or file that is used. -/
def target (primary : Assoc String) (use : ImportUse) : String :=
  importTarget primary use.unit.filePath use.importPath

/-- What a use joins. -/
def ends (primary : Assoc String) (use : ImportUse) : String × String :=
  (use.unit.id, use.target primary)

end ImportUse

section Adding

variable {bound : Quantity} {primary : Assoc String} {use : ImportUse} {d d' : Detail}

theorem Detail.joins_iff {d : Detail} {source target : String} :
    d.joins source target = true ↔ d.ends = (source, target) := by
  simp [joins, ends]

/-- A detail with what a use adds to it. -/
structure Detail.Extends (bound : Quantity) (use : ImportUse) (d d' : Detail) : Prop where
  ends : d'.ends = d.ends
  level : d'.level = d.level
  isExternal : d'.isExternal = d.isExternal
  bindings : d'.bindings = use.bindings.foldl Text.appendUnique d.bindings
  usages : d'.usages = d.usages ++ use.usages
  risk : d'.risk = d'.baseRisk bound

/-- A detail after a use was added: it is extended if the use joins what it joins. -/
inductive Detail.Takes (bound : Quantity) (primary : Assoc String) (use : ImportUse) (d : Detail) :
    Detail → Prop
  | joined {d' : Detail} (hends : use.ends primary = d.ends) (h : d.Extends bound use d') :
      Takes bound primary use d d'
  | other (hends : use.ends primary ≠ d.ends) : Takes bound primary use d d

theorem Detail.Takes.ends (h : d.Takes bound primary use d') : d'.ends = d.ends := by
  cases h with
  | joined _ h => exact h.ends
  | other _ => rfl

theorem Detail.Takes.level (h : d.Takes bound primary use d') : d'.level = d.level := by
  cases h with
  | joined _ h => exact h.level
  | other _ => rfl

theorem Detail.Takes.isExternal (h : d.Takes bound primary use d') :
    d'.isExternal = d.isExternal := by
  cases h with
  | joined _ h => exact h.isExternal
  | other _ => rfl

/-- The detail that a use makes. -/
structure Detail.MadeBy (bound : Quantity) (primary : Assoc String) (use : ImportUse) (d : Detail) :
    Prop where
  ends : d.ends = use.ends primary
  level : d.level = .direct
  isExternal : d.isExternal = use.isExternal
  bindings : d.bindings = Text.unique use.bindings
  usages : d.usages = use.usages
  risk : d.risk = d.baseRisk bound

/-- A use extends the details that join what it joins, if there are some, and else makes one, which
is registered if it is one of a package. -/
theorem Gathered.add_cases (g : Gathered) (bound : Quantity) (primary : Assoc String)
    (use : ImportUse) :
    (use.ends primary ∈ g.details.map (·.ends) ∧ ∃ merged : Detail → Detail,
      (∀ d : Detail, d.Takes bound primary use (merged d)) ∧
        g.add bound primary use = { g with details := g.details.map merged }) ∨
      (use.ends primary ∉ g.details.map (·.ends) ∧ ∃ fresh : Detail,
        fresh.MadeBy bound primary use ∧
          g.add bound primary use =
            { details := g.details ++ [fresh]
              external :=
                if use.isExternal then
                  registerExternal g.external (use.target primary) use.unit.id
                else g.external }) := by
  have hjoins : g.details.any (·.joins use.unit.id (use.target primary)) = true ↔
      use.ends primary ∈ g.details.map (·.ends) := by
    simp only [List.any_eq_true, Detail.joins_iff, List.mem_map, ImportUse.ends]
  rw [← hjoins]
  unfold add
  extract_lets external target relation merged fresh
  show (g.details.any (·.joins use.unit.id target) = true ∧ _) ∨
    (¬ g.details.any (·.joins use.unit.id target) = true ∧ _)
  by_cases hknown : g.details.any (·.joins use.unit.id target) = true
  · refine .inl ⟨hknown, merged, fun d => ?_, if_pos hknown⟩
    have hends : d.joins use.unit.id target = true ↔ use.ends primary = d.ends :=
      Detail.joins_iff.trans eq_comm
    simp only [merged]
    split
    · next hjoin => exact .joined (hends.mp hjoin) ⟨rfl, rfl, rfl, rfl, rfl, rfl⟩
    · next hother => exact .other fun hsame => hother (hends.mpr hsame)
  · refine .inr ⟨hknown, fresh.extend use bound, ?_, if_neg hknown⟩
    exact ⟨rfl, rfl, rfl, rfl, List.nil_append _, rfl⟩

end Adding

section Details

variable {g : Gathered} {ids more : List String} {bound : Quantity} {primary : Assoc String}

/-- Details with distinct ends that lead away from the given units. -/
structure Gathered.Within (g : Gathered) (ids : List String) : Prop where
  distinct : (g.details.map (·.ends)).Nodup
  direct : ∀ d ∈ g.details, d.level = .direct
  sources : ∀ d ∈ g.details, d.source ∈ ids

theorem Gathered.Within.mono (h : g.Within ids) (hsub : ids ⊆ more) : g.Within more :=
  ⟨h.distinct, h.direct, fun d hd => hsub (h.sources d hd)⟩

/-- A use by one of the units extends a detail or adds one. -/
theorem Gathered.Within.add {use : ImportUse} (h : g.Within ids) (huse : use.unit.id ∈ ids) :
    (g.add bound primary use).Within ids := by
  rcases g.add_cases bound primary use with
    ⟨-, merged, hmerged, hadd⟩ | ⟨hnew, fresh, hfresh, hadd⟩
  · have hsame : (g.details.map merged).map (·.ends) = g.details.map (·.ends) := by
      rw [List.map_map]
      exact List.map_congr_left fun d _ => (hmerged d).ends
    rw [hadd]
    refine ⟨hsame ▸ h.distinct, List.forall_mem_map.mpr fun d hd => ?_,
      List.forall_mem_map.mpr fun d hd => ?_⟩
    · exact (hmerged d).level.trans (h.direct d hd)
    · have hsource : (merged d).source = d.source := congrArg Prod.fst (hmerged d).ends
      exact hsource ▸ h.sources d hd
  · rw [hadd]
    refine ⟨?_, List.forall_mem_append.mpr ⟨h.direct, ?_⟩,
      List.forall_mem_append.mpr ⟨h.sources, ?_⟩⟩
    · rw [List.map_append, List.map_singleton, hfresh.ends, List.nodup_append_comm,
        List.singleton_append, List.nodup_cons]
      exact ⟨hnew, h.distinct⟩
    · exact List.forall_mem_singleton.mpr hfresh.level
    · have hsource : fresh.source = use.unit.id := congrArg Prod.fst hfresh.ends
      exact List.forall_mem_singleton.mpr (hsource ▸ huse)

theorem Gathered.Within.add_uses {uses : List ImportUse} (h : g.Within ids)
    (huses : ∀ use ∈ uses, use.unit.id ∈ ids) : (g.addUses bound primary uses).Within ids := by
  induction uses generalizing g with
  | nil => exact h
  | cons use rest ih =>
      exact ih (h.add (huses use List.mem_cons_self)) fun use' huse' =>
        huses use' (List.mem_cons_of_mem _ huse')

end Details

/-- The place under which details have an import statement. -/
def importPlace (stmt : Node) : UsageContext :=
  ⟨stmt.info.startLine, stmt.info.startColumn + 1, "import"⟩

/-- The use of an import statement by a unit. -/
def useOf (d : Document) (stmt : Node) (u : Component) : ImportUse :=
  let notes := usageNotes (importBindings stmt) (unitScope d u)
  { unit := u
    importPath := importSource stmt
    bindings := importBindings stmt
    usages := importPlace stmt :: (importBindings stmt).flatMap notes.usagesOf
    kinds := notes.kindsOf }

/-- The units in whose scopes something is noted of an import statement. -/
def importUsers (d : Document) (units : List Component) (stmt : Node) : List Component :=
  units.filter fun u => !(usageNotes (importBindings stmt) (unitScope d u)).usages.isEmpty

/-- The units that an analysis takes an import statement for used by. -/
def importConsumers (d : Document) (units : List Component) (main : Option String) (stmt : Node) :
    List Component :=
  if units.length == 1 then units
  else if (importUsers d units stmt).isEmpty then
    (units.find? fun u => some u.id == main).toList
  else importUsers d units stmt

section Imports

variable {primary : Assoc String} {d : Document} {units : List Component} {main : Option String}
  {stmt : Node} {use : ImportUse}

/-- Who uses an import is chosen among the units of the file alone. -/
theorem import_uses_eq (d : Document) (units : List Component) (main : Option String)
    (stmt : Node) :
    importUses d units main stmt = (importConsumers d units main stmt).map (useOf d stmt) := by
  unfold importUses importConsumers importUsers
  simp only [List.filter_map, List.find?_map, List.isEmpty_map, Function.comp_def]
  split
  · rw [List.map_map]
    rfl
  · split
    · cases units.find? fun u => some u.id == main <;> rfl
    · rw [List.map_map]
      rfl

theorem import_consumers_subset : importConsumers d units main stmt ⊆ units := by
  unfold importConsumers
  split
  · exact List.Subset.refl units
  · split
    · exact fun u hu => List.mem_of_find?_eq_some (Option.mem_toList.mp hu)
    · exact List.filter_subset_self units

theorem import_consumers_ne_nil (hmain : ∃ u ∈ units, main = some u.id) :
    importConsumers d units main stmt ≠ [] := by
  obtain ⟨u, hu, rfl⟩ := hmain
  unfold importConsumers
  split
  · exact List.ne_nil_of_mem hu
  · split
    · intro hnone
      rw [Option.toList_eq_nil_iff, List.find?_eq_none] at hnone
      exact hnone u hu (beq_self_eq_true _)
    · next hsome => simpa using hsome

/-- Imports are used by units of the file. -/
theorem unit_mem_of_mem_import_uses (h : use ∈ importUses d units main stmt) : use.unit ∈ units := by
  rw [import_uses_eq] at h
  obtain ⟨u, hu, rfl⟩ := List.mem_map.mp h
  exact import_consumers_subset hu

theorem unit_mem_of_mem_file_uses (h : use ∈ fileUses primary d units) : use.unit ∈ units := by
  obtain ⟨stmt, -, huse⟩ := List.mem_flatMap.mp h
  exact unit_mem_of_mem_import_uses huse

end Imports

section Readings

variable {documents : Assoc Document} {primary : Assoc String} {context : RunContext}
  {s t : RunState} {state state' : AnalysisState} {readings : List FileReading}

/-- Whether a file could not be read or has unreadable places. -/
def FileReading.isSkipped (r : FileReading) : Bool :=
  match r.document with
  | .error _ => true
  | .ok d => d.hasErrors

theorem FileReading.warnings_length (r : FileReading) :
    r.warnings.length = if r.isSkipped then r.units.length else 0 := by
  unfold warnings obstacle isSkipped
  cases r.document with
  | error message => simp
  | ok d => by_cases herrors : d.hasErrors = true <;> simp [herrors]

/-- A file that is skipped has no uses. -/
theorem FileReading.uses_of_is_skipped {r : FileReading} (h : r.isSkipped = true) :
    r.uses primary = [] := by
  unfold isSkipped at h
  unfold uses
  cases hdocument : r.document with
  | error message => rfl
  | ok d =>
      rw [hdocument] at h
      exact if_pos h

theorem FileReading.unit_mem_of_mem_uses {r : FileReading} {use : ImportUse}
    (h : use ∈ r.uses primary) : use.unit ∈ r.units := by
  unfold uses at h
  cases hdocument : r.document with
  | error message => simp [hdocument] at h
  | ok d =>
      simp only [hdocument] at h
      split at h
      · exact absurd h List.not_mem_nil
      · exact unit_mem_of_mem_file_uses h

/-- The ids of the units of the files that are not skipped. -/
def analyzedIds (readings : List FileReading) : List String :=
  (readings.filter (!·.isSkipped)).flatMap fun r => r.units.map (·.id)

/-- What has come out of files that were read: details that lead away from units of files that are
not skipped, and a warning for every other unit. -/
structure AnalysisState.Tells (state : AnalysisState) (readings : List FileReading) : Prop where
  gathered : state.gathered.Within (analyzedIds readings)
  warnings : state.warnings = readings.flatMap (·.warnings)

theorem AnalysisState.Tells.add_reading (h : state.Tells readings) (primary : Assoc String)
    (r : FileReading) (bound : Quantity) :
    AnalysisState.Tells
      { gathered := state.gathered.addUses bound primary (r.uses primary)
        warnings := state.warnings ++ r.warnings } (readings ++ [r]) := by
  have hsub : analyzedIds readings ⊆ analyzedIds (readings ++ [r]) := by
    intro id hid
    rw [analyzedIds, List.filter_append, List.flatMap_append]
    exact List.mem_append_left _ hid
  refine ⟨(h.gathered.mono hsub).add_uses ?_, ?_⟩
  · intro use huse
    have hread : r.isSkipped = false := by
      cases hskipped : r.isSkipped with
      | true => simp [FileReading.uses_of_is_skipped hskipped] at huse
      | false => rfl
    have hid : use.unit.id ∈ r.units.map (·.id) :=
      List.mem_map_of_mem (FileReading.unit_mem_of_mem_uses huse)
    simp only [analyzedIds, List.filter_append, List.flatMap_append]
    refine List.mem_append_right _ ?_
    simpa [hread] using hid
  · rw [h.warnings, List.flatMap_append]
    simp

/-- A reading tells the file and its units, and the document if that is at hand. -/
theorem read_file_eq_ok {file : String} {units : List Component} {r : FileReading}
    (h : (Run.readFile documents file units).exec context s = (.ok r, t)) :
    r.file = file ∧ r.units = units ∧
      ∀ d, documents.get? ((units.head?.map (·.absolutePath)).getD "") = some d →
        r.document = .ok d := by
  unfold Run.readFile at h
  obtain ⟨place, u, -, h⟩ := Run.exec_bind_eq_ok.mp h
  obtain ⟨_, u, -, h⟩ := Run.exec_bind_eq_ok.mp h
  obtain ⟨document, u, hdocument, h⟩ := Run.exec_bind_eq_ok.mp h
  obtain ⟨_, u, -, h⟩ := Run.exec_bind_eq_ok.mp h
  cases h
  refine ⟨rfl, rfl, fun d hd => ?_⟩
  simp only [Run.documentOf, hd, Run.exec_pure] at hdocument
  cases hdocument
  rfl

/-- A file adds its reading. -/
theorem gather_file_tells {entry : String × List Component} (hstate : state.Tells readings)
    (h : (Run.gatherFile documents primary state entry).exec context s = (.ok state', t)) :
    ∃ r, (Run.readFile documents entry.1 entry.2).exec context s = (.ok r, t) ∧
      (r.file, r.units) = entry ∧ state'.Tells (readings ++ [r]) := by
  unfold Run.gatherFile at h
  obtain ⟨r, u, hread, h⟩ := Run.exec_bind_eq_ok.mp h
  obtain ⟨hfile, hunits, -⟩ := read_file_eq_ok hread
  have hentry : (r.file, r.units) = entry := by rw [hfile, hunits]
  dsimp only at h
  split at h
  · next hempty =>
      -- A file without uses does not look at the bound, so any bound will do.
      cases h
      have hadded := hstate.add_reading primary r (.whole 0)
      rw [List.isEmpty_iff.mp hempty] at hadded
      exact ⟨r, hread, hentry, hadded⟩
  · rw [Run.exec_bind, Run.exec_read] at h
    obtain ⟨bound, u', hbound, hlast⟩ := Run.exec_bind_eq_ok.mp h
    obtain ⟨-, rfl⟩ := Run.exec_use_eq_ok.mp hbound
    cases hlast
    exact ⟨r, hread, hentry, hstate.add_reading primary r bound⟩

/-- Files add their readings, which are those that reading them one after the other gives. -/
theorem gather_files_tells {entries : List (String × List Component)}
    (hstate : state.Tells readings)
    (h : (entries.foldlM (Run.gatherFile documents primary) state).exec context s =
      (.ok state', t)) :
    ∃ more, (entries.mapM fun entry => Run.readFile documents entry.1 entry.2).exec context s =
        (.ok more, t) ∧
      more.map (fun r => (r.file, r.units)) = entries ∧ state'.Tells (readings ++ more) := by
  induction entries generalizing state readings s with
  | nil =>
      cases h
      exact ⟨[], rfl, rfl, by simpa using hstate⟩
  | cons entry rest ih =>
      rw [List.foldlM_cons] at h
      obtain ⟨middle, u, hfirst, hrest⟩ := Run.exec_bind_eq_ok.mp h
      obtain ⟨r, hread, hentry, hmiddle⟩ := gather_file_tells hstate hfirst
      obtain ⟨more, hmore, hentries, hlast⟩ := ih hmiddle hrest
      refine ⟨r :: more, ?_, by rw [List.map_cons, hentry, hentries], by simpa using hlast⟩
      rw [List.mapM_cons]
      exact Run.exec_bind_eq_ok.mpr ⟨r, u, hread, Run.exec_bind_eq_ok.mpr ⟨more, t, hmore, rfl⟩⟩

end Readings

end ComponentMigration
