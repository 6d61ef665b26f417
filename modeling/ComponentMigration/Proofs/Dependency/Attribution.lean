import ComponentMigration.Proofs.Dependency.Packages
import ComponentMigration.Proofs.Dependency.UsageNotes

/-!
# The units to which an analysis gives imports

Every import statement of a file that can be analysed is given to units of the file: to the only one,
else to those that use a name of it, else to the main one (`GivesTo`).  What one unit imports from
one target is gathered in one detail, which has the names and places of all the statements
(`Gathered.Merges`).  So a detail has the place of an import statement exactly if the statement was
given to the detail's unit (`analyze_attributes_imports`).
-/

namespace ComponentMigration

section Merging

variable {g : Gathered} {primary : Assoc String} {uses : List ImportUse} {bound : Quantity}
  {use : ImportUse} {d d' : Detail}

/-- The uses that join the same ends. -/
def usesJoining (primary : Assoc String) (uses : List ImportUse) (ends : String × String) :
    List ImportUse :=
  uses.filter (·.ends primary == ends)

theorem mem_uses_joining {ends : String × String} :
    use ∈ usesJoining primary uses ends ↔ use ∈ uses ∧ use.ends primary = ends := by
  simp [usesJoining]

theorem uses_joining_concat (use : ImportUse) (ends : String × String) :
    usesJoining primary (uses ++ [use]) ends =
      if use.ends primary = ends then usesJoining primary uses ends ++ [use]
      else usesJoining primary uses ends := by
  rw [usesJoining, List.filter_append, List.filter_singleton]
  by_cases hjoin : use.ends primary = ends
  · rw [if_pos hjoin, beq_iff_eq.mpr hjoin]
    rfl
  · rw [if_neg hjoin, beq_eq_false_iff_ne.mpr hjoin]
    exact List.append_nil _

/-- A detail with the names and the places of the uses that join its ends, in their order. -/
structure Detail.MergeOf (primary : Assoc String) (uses : List ImportUse) (d : Detail) : Prop where
  bindings : d.bindings = Text.unique ((usesJoining primary uses d.ends).flatMap (·.bindings))
  usages : d.usages = (usesJoining primary uses d.ends).flatMap (·.usages)

theorem Detail.Takes.merge_of (h : d.Takes bound primary use d') (hd : d.MergeOf primary uses) :
    d'.MergeOf primary (uses ++ [use]) := by
  cases h with
  | joined hends h =>
      have hjoining : usesJoining primary (uses ++ [use]) d'.ends =
          usesJoining primary uses d.ends ++ [use] := by
        rw [h.ends, uses_joining_concat, if_pos hends]
      refine ⟨?_, ?_⟩
      · rw [hjoining, h.bindings, hd.bindings, List.flatMap_append, List.flatMap_singleton,
          Text.unique, Text.unique, List.foldl_append]
      · rw [hjoining, h.usages, hd.usages, List.flatMap_append, List.flatMap_singleton]
  | other hends =>
      have hjoining : usesJoining primary (uses ++ [use]) d.ends = usesJoining primary uses d.ends :=
        by rw [uses_joining_concat, if_neg hends]
      exact ⟨hjoining ▸ hd.bindings, hjoining ▸ hd.usages⟩

/-- A detail is only made where no use joined its ends before. -/
theorem Detail.MadeBy.merge_of (h : d.MadeBy bound primary use)
    (hfirst : usesJoining primary uses (use.ends primary) = []) :
    d.MergeOf primary (uses ++ [use]) := by
  have hjoining : usesJoining primary (uses ++ [use]) d.ends = [use] := by
    rw [h.ends, uses_joining_concat, if_pos rfl, hfirst, List.nil_append]
  refine ⟨?_, ?_⟩
  · rw [hjoining, h.bindings, List.flatMap_singleton]
  · rw [hjoining, h.usages, List.flatMap_singleton]

/-- Details that merge the uses that join their ends. -/
def Gathered.Merges (g : Gathered) (primary : Assoc String) (uses : List ImportUse) : Prop :=
  ∀ d ∈ g.details, d.MergeOf primary uses

theorem Gathered.Merges.add (h : g.Merges primary uses) (hrecords : g.Records primary uses)
    (bound : Quantity) (use : ImportUse) :
    (g.add bound primary use).Merges primary (uses ++ [use]) := by
  rcases g.add_cases bound primary use with
    ⟨-, merged, hmerged, hadd⟩ | ⟨hnew, fresh, hfresh, hadd⟩
  · rw [hadd]
    exact List.forall_mem_map.mpr fun d hd => (hmerged d).merge_of (h d hd)
  · rw [hadd]
    refine List.forall_mem_append.mpr ⟨fun d hd => ?_, List.forall_mem_singleton.mpr ?_⟩
    · have hsame : d.Takes bound primary use d :=
        .other fun hends => hnew (hends ▸ List.mem_map_of_mem hd)
      exact hsame.merge_of (h d hd)
    · refine hfresh.merge_of (List.eq_nil_iff_forall_not_mem.mpr fun use' huse' => ?_)
      obtain ⟨huse', hends⟩ := mem_uses_joining.1 huse'
      exact hnew (hends ▸ hrecords.told use' huse')

theorem Gathered.Merges.add_uses (h : g.Merges primary uses) (hrecords : g.Records primary uses)
    (bound : Quantity) (more : List ImportUse) :
    (g.addUses bound primary more).Merges primary (uses ++ more) := by
  induction more generalizing g uses with
  | nil =>
      rw [List.append_nil]
      exact h
  | cons use rest ih =>
      have hrest := ih (h.add hrecords bound use) (hrecords.add bound use)
      rwa [List.append_assoc, List.singleton_append] at hrest

theorem Gathered.Merges.nil (primary : Assoc String) : Merges {} primary [] :=
  fun _ hd => absurd hd List.not_mem_nil

/-- What a use joins has a detail with its names and places. -/
theorem Gathered.Merges.exists_detail (h : g.Merges primary uses) (hrecords : g.Records primary uses)
    (huse : use ∈ uses) :
    ∃ d ∈ g.details, d.ends = use.ends primary ∧ use.bindings ⊆ d.bindings ∧
      use.usages ⊆ d.usages := by
  obtain ⟨d, hd, hends⟩ := List.mem_map.mp (hrecords.told use huse)
  have hjoins : use ∈ usesJoining primary uses d.ends := mem_uses_joining.2 ⟨huse, hends.symm⟩
  refine ⟨d, hd, hends, fun b hb => ?_, fun place hplace => ?_⟩
  · rw [(h d hd).bindings]
    exact mem_unique.mpr (List.mem_flatMap.mpr ⟨use, hjoins, hb⟩)
  · rw [(h d hd).usages]
    exact List.mem_flatMap.mpr ⟨use, hjoins, hplace⟩

/-- A place of a detail is one of a use that joins its ends. -/
theorem Gathered.Merges.exists_use (h : g.Merges primary uses) (hd : d ∈ g.details)
    {place : UsageContext} (hplace : place ∈ d.usages) :
    ∃ use ∈ uses, use.ends primary = d.ends ∧ place ∈ use.usages := by
  rw [(h d hd).usages] at hplace
  obtain ⟨use, hjoins, hplace⟩ := List.mem_flatMap.mp hplace
  obtain ⟨huse, hends⟩ := mem_uses_joining.1 hjoins
  exact ⟨use, huse, hends, hplace⟩

end Merging

/-- A search of the unit's scope records a use of a name that an import statement binds. -/
def UsesImport (d : Document) (stmt : Node) (u : Component) : Prop :=
  ∃ b ∈ importBindings stmt, (usageNotes (importBindings stmt) (unitScope d u)).usagesOf b ≠ []

instance (d : Document) (stmt : Node) (u : Component) : Decidable (UsesImport d stmt u) :=
  inferInstanceAs (Decidable (∃ b ∈ importBindings stmt, _ ≠ []))

/-- An import statement of a file is given to the only unit; if there are several, to those that use
a name of it, and if none does, to the main unit. -/
inductive GivesTo (d : Document) (units : List Component) (stmt : Node) (u : Component) : Prop
  | only (h : units = [u])
  | user (hseveral : units.length ≠ 1) (hu : u ∈ units) (huses : UsesImport d stmt u)
  | main (hseveral : units.length ≠ 1) (hu : u ∈ units)
      (hnone : ∀ other ∈ units, ¬ UsesImport d stmt other) (hmain : primaryUnit units = some u.id)

section Giving

variable {d : Document} {units : List Component} {main : Option String} {stmt : Node}
  {u : Component} {use : ImportUse}

theorem GivesTo.mem (h : GivesTo d units stmt u) : u ∈ units := by
  cases h with
  | only h => rw [h]; exact List.mem_singleton_self u
  | user _ hu _ => exact hu
  | main _ hu _ _ => exact hu

/-- Every import statement of a file with units is given to one. -/
theorem exists_gives_to (d : Document) (stmt : Node) (hsome : units ≠ []) :
    ∃ u, GivesTo d units stmt u := by
  by_cases hone : units.length = 1
  · obtain ⟨u, hu⟩ := List.length_eq_one_iff.mp hone
    exact ⟨u, .only hu⟩
  · by_cases huses : ∃ u ∈ units, UsesImport d stmt u
    · obtain ⟨u, hu, huses⟩ := huses
      exact ⟨u, .user hone hu huses⟩
    · obtain ⟨u, hu, hmain⟩ := primary_unit_mem hsome
      exact ⟨u, .main hone hu (fun other hother h => huses ⟨other, hother, h⟩) hmain⟩

theorem mem_import_users : u ∈ importUsers d units stmt ↔ u ∈ units ∧ UsesImport d stmt u := by
  rw [importUsers, List.mem_filter, UsesImport, ← usage_notes_ne_nil]
  simp

/-- An import statement is used by units that it is given to. -/
theorem gives_to_of_mem_import_consumers
    (h : u ∈ importConsumers d units (primaryUnit units) stmt) : GivesTo d units stmt u := by
  unfold importConsumers at h
  split at h
  · next hone =>
      obtain ⟨v, rfl⟩ := List.length_eq_one_iff.mp (beq_iff_eq.mp hone)
      rw [List.mem_singleton.mp h]
      exact .only rfl
  · next hseveral =>
      have hseveral : units.length ≠ 1 := fun hone => hseveral (beq_iff_eq.mpr hone)
      split at h
      · next hnone =>
          have hfound := Option.mem_toList.mp h
          have hmain : some u.id = primaryUnit units := by
            simpa using List.find?_some hfound
          refine .main hseveral (List.mem_of_find?_eq_some hfound) (fun other hother huses => ?_)
            hmain.symm
          have huser := mem_import_users.2 ⟨hother, huses⟩
          rw [List.isEmpty_iff.mp hnone] at huser
          cases huser
      · obtain ⟨hu, huses⟩ := mem_import_users.1 h
        exact .user hseveral hu huses

/-- The main unit is looked for by its id. -/
theorem GivesTo.exists_consumer (h : GivesTo d units stmt u) :
    ∃ v ∈ importConsumers d units (primaryUnit units) stmt, v.id = u.id := by
  unfold importConsumers
  cases h with
  | only h =>
      rw [h]
      exact ⟨u, List.mem_singleton_self u, rfl⟩
  | user hseveral hu huses =>
      have huser := mem_import_users.2 ⟨hu, huses⟩
      have hsome : ¬ (importUsers d units stmt).isEmpty := by
        rw [List.isEmpty_iff]
        exact List.ne_nil_of_mem huser
      rw [if_neg (by simpa using hseveral), if_neg hsome]
      exact ⟨u, huser, rfl⟩
  | main hseveral hu hnone hmain =>
      have hempty : (importUsers d units stmt).isEmpty := by
        rw [List.isEmpty_iff, List.eq_nil_iff_forall_not_mem]
        intro other hother
        obtain ⟨hmem, huses⟩ := mem_import_users.1 hother
        exact hnone other hmem huses
      rw [if_neg (by simpa using hseveral), if_pos hempty, hmain]
      obtain ⟨v, hfound⟩ : ∃ v, units.find? (fun v => some v.id == some u.id) = some v :=
        Option.isSome_iff_exists.mp (List.find?_isSome.mpr ⟨u, hu, beq_self_eq_true _⟩)
      have hid : v.id = u.id := by simpa using List.find?_some hfound
      rw [hfound]
      exact ⟨v, List.mem_singleton_self v, hid⟩

/-- A place of a use with the label of an import is that of its statement. -/
theorem place_of_mem_use_of {place : UsageContext} (h : place ∈ (useOf d stmt u).usages)
    (himport : place.usage = "import") : place = importPlace stmt := by
  rcases List.mem_cons.mp h with heq | h
  · exact heq
  · obtain ⟨b, -, hplace⟩ := List.mem_flatMap.mp h
    exact absurd himport (usage_ne_import hplace)

end Giving

/-- The document of a file that is analysed. -/
def FileReading.Analyzed (r : FileReading) (d : Document) : Prop :=
  r.document = .ok d ∧ d.hasErrors = false

/-- The package, unit or file that an import statement of a file leads to. -/
def FileReading.leadsTo (r : FileReading) (components : List Component) (stmt : Node) : String :=
  importTarget (primaryUnits (unitsByFile components)) r.file (importSource stmt)

section Readings

variable {components : List Component} {documents : Assoc Document} {options : AnalysisSettings}
  {readings : List FileReading} {state : AnalysisState} {r : FileReading} {d : Document}
  {stmt : Node} {u : Component} {use : ImportUse}

/-- A file is read with all its units, of which there are some. -/
theorem GatheredFrom.units_of_reading (h : GatheredFrom components documents options readings state)
    (hr : r ∈ readings) :
    components.filter (·.filePath == r.file) = r.units ∧ r.units ≠ [] := by
  have hentry : (r.file, r.units) ∈ unitsByFile components := by
    have hsorted : (r.file, r.units) ∈ (unitsByFile components).sorted :=
      h.files ▸ List.mem_map_of_mem hr
    rwa [Assoc.sorted, List.mem_mergeSort] at hsorted
  have hget := (Assoc.get?_eq_some_iff (units_by_file_grouped components).1.distinct).mpr hentry
  rw [get?_units_by_file] at hget
  split at hget
  · cases hget
  · next hsome =>
      have hunits := Option.some.inj hget
      rw [hunits, List.isEmpty_iff] at hsome
      exact ⟨hunits, hsome⟩

/-- The main unit of a file is looked up by the file of its first unit. -/
theorem GatheredFrom.main_of_reading (h : GatheredFrom components documents options readings state)
    (hof : ReadingsOf components readings) (hr : r ∈ readings) :
    (r.units.head?.bind fun u => (primaryUnits (unitsByFile components)).get? u.filePath) =
      primaryUnit r.units := by
  obtain ⟨hunits, hsome⟩ := h.units_of_reading hr
  obtain ⟨first, rest, hfirst⟩ := List.exists_cons_of_ne_nil hsome
  have hfile : first.filePath = r.file := hof.filed r hr first (hfirst ▸ List.mem_cons_self)
  rw [hfirst, List.head?_cons, Option.bind_some, hfile, get?_primary_units, hunits, hfirst]

theorem ReadingsOf.ends_use_of (hof : ReadingsOf components readings) (hr : r ∈ readings)
    (hu : u ∈ r.units) :
    (useOf d stmt u).ends (primaryUnits (unitsByFile components)) =
      (u.id, r.leadsTo components stmt) := by
  rw [FileReading.leadsTo, ← hof.filed r hr u hu]
  rfl

/-- A use that a reading adds is that of an import statement by a unit which it is given to. -/
theorem GatheredFrom.gives_to_of_mem_uses
    (h : GatheredFrom components documents options readings state)
    (hof : ReadingsOf components readings) (hr : r ∈ readings)
    (huse : use ∈ r.uses (primaryUnits (unitsByFile components))) :
    ∃ d, r.Analyzed d ∧ ∃ stmt ∈ importStatements d.root, GivesTo d r.units stmt use.unit ∧
      use = useOf d stmt use.unit ∧
      use.ends (primaryUnits (unitsByFile components)) =
        (use.unit.id, r.leadsTo components stmt) := by
  unfold FileReading.uses at huse
  cases hdocument : r.document with
  | error message =>
      rw [hdocument] at huse
      cases huse
  | ok d =>
      rw [hdocument] at huse
      dsimp only at huse
      split at huse
      · cases huse
      · next herrors =>
          obtain ⟨stmt, hstmt, huse⟩ := List.mem_flatMap.mp huse
          rw [h.main_of_reading hof hr, import_uses_eq] at huse
          obtain ⟨u, hu, rfl⟩ := List.mem_map.mp huse
          have hgives := gives_to_of_mem_import_consumers hu
          refine ⟨d, ⟨hdocument, Bool.eq_false_iff.mpr herrors⟩, stmt, hstmt, hgives, rfl, ?_⟩
          exact hof.ends_use_of hr hgives.mem

/-- A unit that an import statement is given to has a use of it. -/
theorem GatheredFrom.exists_use (h : GatheredFrom components documents options readings state)
    (hof : ReadingsOf components readings) (hr : r ∈ readings) (hd : r.Analyzed d)
    (hstmt : stmt ∈ importStatements d.root) (hgives : GivesTo d r.units stmt u) :
    ∃ use ∈ r.uses (primaryUnits (unitsByFile components)), use = useOf d stmt use.unit ∧
      use.ends (primaryUnits (unitsByFile components)) = (u.id, r.leadsTo components stmt) := by
  obtain ⟨v, hv, hid⟩ := hgives.exists_consumer
  have hmem : useOf d stmt v ∈ importUses d r.units (primaryUnit r.units) stmt := by
    rw [import_uses_eq]
    exact List.mem_map_of_mem hv
  refine ⟨useOf d stmt v, ?_, rfl, ?_⟩
  · unfold FileReading.uses
    rw [hd.1]
    dsimp only
    rw [if_neg (Bool.eq_false_iff.mp hd.2)]
    refine List.mem_flatMap.mpr ⟨stmt, hstmt, ?_⟩
    rwa [h.main_of_reading hof hr]
  · rw [hof.ends_use_of hr (gives_to_of_mem_import_consumers hv).mem, hid]

theorem GatheredFrom.merges (h : GatheredFrom components documents options readings state) :
    state.gathered.Merges (primaryUnits (unitsByFile components))
      (readings.flatMap (·.uses (primaryUnits (unitsByFile components)))) := by
  rw [h.gathered]
  exact (Gathered.Merges.nil _).add_uses (Gathered.Records.nil _) _ _

/-- A unit that an import statement is given to has a detail of it. -/
theorem GatheredFrom.exists_detail (h : GatheredFrom components documents options readings state)
    (hof : ReadingsOf components readings) (hr : r ∈ readings) (hd : r.Analyzed d)
    (hstmt : stmt ∈ importStatements d.root) (hgives : GivesTo d r.units stmt u) :
    ∃ e ∈ state.gathered.details, e.ends = (u.id, r.leadsTo components stmt) ∧
      importBindings stmt ⊆ e.bindings ∧ importPlace stmt ∈ e.usages := by
  obtain ⟨use, huse, heq, hends⟩ := h.exists_use hof hr hd hstmt hgives
  obtain ⟨e, he, hjoins, hbindings, husages⟩ :=
    h.merges.exists_detail h.records (List.mem_flatMap.mpr ⟨r, hr, huse⟩)
  rw [heq] at hbindings husages
  exact ⟨e, he, hjoins.trans hends, hbindings, husages List.mem_cons_self⟩

/-- The place of an import comes from a statement that was given to the detail's unit. -/
theorem GatheredFrom.exists_statement (h : GatheredFrom components documents options readings state)
    (hof : ReadingsOf components readings) {e : Detail} (he : e ∈ state.gathered.details)
    {place : UsageContext} (hplace : place ∈ e.usages) (himport : place.usage = "import") :
    ∃ r ∈ readings, ∃ d, r.Analyzed d ∧ ∃ stmt ∈ importStatements d.root, ∃ u,
      GivesTo d r.units stmt u ∧ place = importPlace stmt ∧
      e.ends = (u.id, r.leadsTo components stmt) := by
  obtain ⟨use, huse, hjoins, hmem⟩ := h.merges.exists_use he hplace
  obtain ⟨r, hr, huse⟩ := List.mem_flatMap.mp huse
  obtain ⟨d, hd, stmt, hstmt, hgives, heq, hends⟩ := h.gives_to_of_mem_uses hof hr huse
  rw [heq] at hmem
  exact ⟨r, hr, d, hd, stmt, hstmt, use.unit, hgives, place_of_mem_use_of hmem himport,
    hjoins.symm.trans hends⟩

/-- A unit with one of a file's ids is one of that file, if no other unit has these ids. -/
theorem ReadingsOf.eq_of_unit (hof : ReadingsOf components readings) {r' : FileReading}
    (hr : r ∈ readings) (hr' : r' ∈ readings) (hu : u ∈ r'.units)
    (hid : u.id ∈ r.units.map (·.id))
    (hids : ∀ c ∈ components, c.id ∈ r.units.map (·.id) → c ∈ r.units) : r' = r := by
  have hmem : u ∈ r.units := hids u (hof.complete.subset (List.mem_flatMap.mpr ⟨r', hr', hu⟩)) hid
  exact List.inj_on_of_nodup_map hof.distinct hr' hr
    ((hof.filed r' hr' u hu).symm.trans (hof.filed r hr u hmem))

end Readings

/-- How the details of an analysis come from the import statements of the files.  Only details that
units have by themselves are spoken of, whether or not a cycle runs along them. -/
structure DependencyAnalysis.AttributesImports (a : DependencyAnalysis)
    (components : List Component) (readings : List FileReading) : Prop where
  /-- Every import statement of an analysed file is given to a unit of the file. -/
  given : ∀ r ∈ readings, ∀ d, r.Analyzed d → ∀ stmt ∈ importStatements d.root,
    ∃ u ∈ r.units, GivesTo d r.units stmt u
  /-- A unit that it is given to has a detail with its target, its names and its place. -/
  told : ∀ r ∈ readings, ∀ d, r.Analyzed d → ∀ stmt ∈ importStatements d.root,
    ∀ u, GivesTo d r.units stmt u → ∃ x ∈ a.details, x.level ≠ .transitive ∧
      x.ends = (u.id, r.leadsTo components stmt) ∧ importBindings stmt ⊆ x.bindings ∧
      importPlace stmt ∈ x.usages
  /-- No detail has the place of an import statement that was not given to its unit. -/
  only : ∀ x ∈ a.details, x.level ≠ .transitive → ∀ place ∈ x.usages, place.usage = "import" →
    ∃ r ∈ readings, ∃ d, r.Analyzed d ∧ ∃ stmt ∈ importStatements d.root, ∃ u,
      GivesTo d r.units stmt u ∧ place = importPlace stmt ∧
      x.ends = (u.id, r.leadsTo components stmt)
  /-- Where a statement's place is its own and the ids of the file's units are theirs, the details
  with its place are those of the units that it is given to. -/
  place_iff : ∀ r ∈ readings, ∀ d, r.Analyzed d → ∀ stmt ∈ importStatements d.root,
    (∀ other ∈ importStatements d.root, importPlace other = importPlace stmt → other = stmt) →
    (∀ c ∈ components, c.id ∈ r.units.map (·.id) → c ∈ r.units) →
    ∀ x ∈ a.details, x.level ≠ .transitive → x.source ∈ r.units.map (·.id) →
      (importPlace stmt ∈ x.usages ↔
        ∃ u, GivesTo d r.units stmt u ∧ x.ends = (u.id, r.leadsTo components stmt))

section Analyses

variable {components : List Component} {documents : Assoc Document} {options : AnalysisSettings}
  {readings : List FileReading} {state : AnalysisState} {a : DependencyAnalysis}

theorem GatheredFrom.attributes_imports
    (h : GatheredFrom components documents options readings state)
    (hof : ReadingsOf components readings) (htells : state.Tells readings)
    (htakes : a.TakesOver state.gathered) : a.AttributesImports components readings := by
  have honly : ∀ x ∈ a.details, x.level ≠ .transitive → ∀ place ∈ x.usages,
      place.usage = "import" → ∃ r ∈ readings, ∃ d, r.Analyzed d ∧
        ∃ stmt ∈ importStatements d.root, ∃ u, GivesTo d r.units stmt u ∧
          place = importPlace stmt ∧ x.ends = (u.id, r.leadsTo components stmt) := by
    intro x hx hlevel place hplace himport
    obtain ⟨e, he, hsame⟩ := htakes.exists_gathered hx hlevel
    obtain ⟨hends, -, husages⟩ := Detail.eq_of_unraised hsame
    rw [← hends]
    exact h.exists_statement hof he (husages ▸ hplace) himport
  refine ⟨?given, ?told, honly, ?place_iff⟩
  case given =>
    intro r hr d hd stmt hstmt
    obtain ⟨u, hgives⟩ := exists_gives_to d stmt (h.units_of_reading hr).2
    exact ⟨u, hgives.mem, hgives⟩
  case told =>
    intro r hr d hd stmt hstmt u hgives
    obtain ⟨e, he, hends, hbindings, hplace⟩ := h.exists_detail hof hr hd hstmt hgives
    obtain ⟨x, hx, hlevel, hsame⟩ := htakes.exists_own he
    obtain ⟨hends', hbindings', husages⟩ := Detail.eq_of_unraised hsame
    exact ⟨x, hx, hlevel, hends'.trans hends, hbindings' ▸ hbindings, husages ▸ hplace⟩
  case place_iff =>
    intro r hr d hd stmt hstmt hplaces hids x hx hlevel hsource
    constructor
    · intro hplace
      -- A statement of this file has the place, and at its place there is no other.
      obtain ⟨r', hr', d', hd', stmt', hstmt', u, hgives, heq, hends⟩ :=
        honly x hx hlevel _ hplace rfl
      have hid : x.source = u.id := congrArg Prod.fst hends
      obtain rfl := hof.eq_of_unit hr hr' hgives.mem (hid ▸ hsource) hids
      obtain rfl : d' = d := Except.ok.inj (hd'.1.symm.trans hd.1)
      obtain rfl : stmt' = stmt := hplaces stmt' hstmt' heq.symm
      exact ⟨u, hgives, hends⟩
    · rintro ⟨u, hgives, hends⟩
      obtain ⟨e, he, hjoins, -, hplace⟩ := h.exists_detail hof hr hd hstmt hgives
      obtain ⟨e', he', hsame⟩ := htakes.exists_gathered hx hlevel
      obtain ⟨hends', -, husages⟩ := Detail.eq_of_unraised hsame
      -- Gathered details have distinct ends.
      obtain rfl : e' = e := List.inj_on_of_nodup_map htells.gathered.distinct he' he
        (hends'.trans (hends.trans hjoins.symm))
      exact husages ▸ hplace

end Analyses

/-- Whenever an analysis returns, every import statement of every file that it could read without
errors is given to the only unit of the file, else to the units that use one of its names, else to
the main unit; each of these has a detail with the statement's target, names and place, and no other
detail comes from the statement.  A statement without a source of its own leads to the package
without a name. -/
theorem analyze_attributes_imports {components : List Component} {documents : Assoc Document}
    {context : RunContext} {s t : RunState} {a : DependencyAnalysis}
    (hrun : (Run.analyze components documents).exec context s = (.ok a, t)) :
    ∃ readings,
      ((unitsByFile components).sorted.mapM fun entry =>
        Run.readFile documents entry.1 entry.2).exec context s = (.ok readings, t) ∧
      ReadingsOf components readings ∧ a.AttributesImports components readings := by
  obtain ⟨readings, state, hreadings, hof, htells, hfrom, hanalysis⟩ := analyze_reads hrun
  have htakes := takes_over_of_analysis_of
    (fun d hd => by simp [htells.gathered.direct d hd]) hanalysis
  exact ⟨readings, hreadings, hof, hfrom.attributes_imports hof htells htakes⟩

/-- A statement that imports a hook. -/
def thingImport : Node :=
  .mk { kind := "import_statement" }
    [.mk { kind := "import_clause" }
      [.mk { kind := "named_imports" }
        [.mk { kind := "import_specifier" }
          [.mk { kind := "identifier", field := "name", text := "useThing" } []]]],
      .mk { kind := "string", field := "source", text := "'./thing'" } []]

/-- The document of two units, of which the first calls the hook. -/
def pairDocument : Document :=
  { path := "Pair.tsx", language := .tsx, source := ""
    root := .mk { kind := "program" }
      [thingImport,
        .mk { kind := "function_declaration" }
          [.mk { kind := "identifier", field := "name", text := "Left" } [],
            .mk { kind := "call_expression" }
              [.mk { kind := "identifier", field := "function", text := "useThing" } []]],
        .mk { kind := "function_declaration" }
          [.mk { kind := "identifier", field := "name", text := "Right" } []]] }

/-- The units of this document. -/
def pairUnits : List Component :=
  ["Left", "Right"].map fun name =>
    { id := "Pair.tsx:" ++ name, name := name, filePath := "Pair.tsx", absolutePath := "Pair.tsx" }

/-- The import is given to the unit that calls the hook, and to no other. -/
theorem analyze_attributes_imports_pair :
    ∃ a t, (Run.analyze pairUnits [("Pair.tsx", pairDocument)]).exec loopContext {} = (.ok a, t) ∧
      (∃ x ∈ a.details, x.level ≠ .transitive ∧ x.ends = ("Pair.tsx:Left", "thing") ∧
        "useThing" ∈ x.bindings) ∧
      ∀ x ∈ a.details, x.level ≠ .transitive → x.source = "Pair.tsx:Right" →
        importPlace thingImport ∉ x.usages := by
  obtain ⟨a, t, hrun⟩ : ∃ a t,
      (Run.analyze pairUnits [("Pair.tsx", pairDocument)]).exec loopContext {} = (.ok a, t) := by
    refine analyze_returns rfl rfl rfl rfl rfl rfl fun entry hentry => ⟨pairDocument, ?_⟩
    rw [show unitsByFile pairUnits = [("Pair.tsx", pairUnits)] from rfl, List.mem_singleton]
      at hentry
    rw [hentry]
    rfl
  obtain ⟨readings, hreadings, hof, hattributes⟩ := analyze_attributes_imports hrun
  rw [show (unitsByFile pairUnits).sorted = [("Pair.tsx", pairUnits)] from
    List.mergeSort_singleton _, List.mapM_cons] at hreadings
  obtain ⟨r, u, hread, hreadings⟩ := Run.exec_bind_eq_ok.mp hreadings
  obtain ⟨rest, v, -, hreadings⟩ := Run.exec_bind_eq_ok.mp hreadings
  cases hreadings
  obtain ⟨hfile, hunits, hdocument⟩ := read_file_eq_ok hread
  have hd : r.Analyzed pairDocument := ⟨hdocument pairDocument rfl, by decide⟩
  have hr : r ∈ r :: rest := List.mem_cons_self
  have hstmt : thingImport ∈ importStatements pairDocument.root := List.mem_cons_self
  have husers : ∀ u ∈ pairUnits,
      UsesImport pairDocument thingImport u ↔ u.id = "Pair.tsx:Left" := by decide
  have hleads : r.leadsTo pairUnits thingImport = "thing" := by
    rw [FileReading.leadsTo, hfile]
    decide
  obtain ⟨left, hleft, hid⟩ : ∃ u ∈ pairUnits, u.id = "Pair.tsx:Left" := by decide
  have huses := (husers left hleft).mpr hid
  refine ⟨a, t, hrun, ?_, fun x hx hlevel hsource hplace => ?_⟩
  · have hgives : GivesTo pairDocument r.units thingImport left :=
      .user (by rw [hunits]; decide) (hunits ▸ hleft) huses
    obtain ⟨x, hx, hlevel, hends, hbindings, -⟩ :=
      hattributes.told r hr pairDocument hd thingImport hstmt left hgives
    rw [hid, hleads] at hends
    exact ⟨x, hx, hlevel, hends, hbindings (by decide)⟩
  · obtain ⟨u, hgives, hends⟩ := (hattributes.place_iff r hr pairDocument hd thingImport hstmt
      (fun other hother _ => List.mem_singleton.mp hother) (fun c hc _ => hunits ▸ hc) x hx hlevel
      (by rw [hunits, hsource]; decide)).mp hplace
    have hright : u.id = "Pair.tsx:Right" := (congrArg Prod.fst hends).symm.trans hsource
    rw [hunits] at hgives
    cases hgives with
    | only hone => cases hone
    | user _ hu huser => exact absurd ((husers u hu).mp huser) (by rw [hright]; decide)
    | main _ _ hnone _ => exact hnone left hleft huses

end ComponentMigration
