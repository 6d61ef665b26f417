import ComponentMigration.Proofs.Dependency.Circular
import ComponentMigration.Proofs.Dependency.Provenance
import ComponentMigration.Proofs.Dependency.Registry
import ComponentMigration.Proofs.Dependency.Reordering
import ComponentMigration.Proofs.Source.Sites

/-!
# Packages that units list and packages that an analysis registers

The units of a document list the packages that its import statements name, and an analysis registers
packages of the same statements for the same units.  The two disagree in two cases only: a package
is hidden by a relative import that leads to what is also its name, and a statement without a source
is registered as a package without a name, which no unit lists
(`analyze_registers_listed_packages`).
-/

namespace ComponentMigration

section Files

variable {components units : List Component} {file : String}

/-- The units of a file stand in the table of files. -/
theorem mem_units_by_file (hunits : components.filter (·.filePath == file) = units)
    (hsome : units ≠ []) : (file, units) ∈ unitsByFile components := by
  refine Assoc.mem_of_get? ?_
  rw [get?_units_by_file, hunits, if_neg (by simpa using hsome)]

end Files

section Uses

variable {d : Document} {units : List Component} {main : Option String} {stmt : Node}
  {use : ImportUse}

theorem import_path_of_mem_import_uses (h : use ∈ importUses d units main stmt) :
    use.importPath = importSource stmt := by
  rw [import_uses_eq] at h
  obtain ⟨u, -, rfl⟩ := List.mem_map.mp h
  rfl

/-- Every import statement of a file with a main unit is used by one of the units. -/
theorem exists_mem_import_uses (hmain : ∃ u ∈ units, main = some u.id) :
    ∃ use ∈ importUses d units main stmt, use.unit ∈ units := by
  rw [import_uses_eq]
  obtain ⟨u, hu⟩ := List.exists_mem_of_ne_nil _ (import_consumers_ne_nil hmain)
  exact ⟨useOf d stmt u, List.mem_map_of_mem hu, import_consumers_subset hu⟩

end Uses

section Lists

variable {d : Document} {o : DocumentOrigin} {p : String}

/-- Units list a package among the external dependencies that they have on their own. -/
def ListsPackage (units : List Component) (p : String) : Prop :=
  ∃ u ∈ units, ∃ dependency ∈ u.dependencies,
    dependency.origin = .external ∧ dependency.name = p

/-- An analysis has a package registered for one of the units. -/
def DependencyAnalysis.RegistersPackage (a : DependencyAnalysis) (units : List Component)
    (p : String) : Prop :=
  ∃ e, (p, e) ∈ a.external ∧ ∃ u ∈ units, u.id ∈ e.usedBy

/-- What discovery notes of a unit's place and imports. -/
theorem Document.of_mem_units (herrors : d.hasErrors = false) {u : Component}
    (hu : u ∈ d.units o) :
    u.filePath = o.file ∧ u.absolutePath = o.absolute ∧ u.dependencies = d.dependencies := by
  rw [units_of_no_errors herrors] at hu
  obtain ⟨c, -, rfl⟩ := List.mem_map.mp hu
  exact ⟨rfl, rfl, rfl⟩

theorem Document.filter_units (herrors : d.hasErrors = false) :
    (d.units o).filter (·.filePath == o.file) = d.units o := by
  refine List.filter_eq_self.mpr fun u hu => ?_
  rw [(of_mem_units herrors hu).1]
  exact beq_self_eq_true _

/-- The units of a document list the packages that its import statements name. -/
theorem Document.lists_package_iff (herrors : d.hasErrors = false) (hsome : d.units o ≠ []) :
    ListsPackage (d.units o) p ↔ ∃ stmt ∈ importStatements d.root,
      importSource stmt ≠ "" ∧ Text.startsWith (importSource stmt) "." = false ∧
        packageName (importSource stmt) = p := by
  have hdependencies : d.dependencies =
      ((importStatements d.root).filter (fun stmt => !(importSource stmt).isEmpty)).map fun stmt =>
        dependencyOf (importSource stmt) (importBindings stmt) := by
    simp only [Document.dependencies, herrors, Bool.false_eq_true, if_false, List.filter_map,
      List.map_map]
    rfl
  have horigin : ∀ source bindings, (dependencyOf source bindings).origin = .external ↔
      Text.startsWith source "." = false := by
    intro source bindings
    cases hrelative : Text.startsWith source "." <;> simp [dependencyOf, hrelative]
  have hname : ∀ source bindings, Text.startsWith source "." = false →
      (dependencyOf source bindings).name = packageName source := by
    intro source bindings hpackage
    simp [dependencyOf, hpackage]
  constructor
  · rintro ⟨u, hu, dependency, hdependency, hexternal, rfl⟩
    rw [(of_mem_units herrors hu).2.2, hdependencies] at hdependency
    obtain ⟨stmt, hstmt, rfl⟩ := List.mem_map.mp hdependency
    obtain ⟨hstmt, hsource⟩ := List.mem_filter.mp hstmt
    rw [horigin] at hexternal
    exact ⟨stmt, hstmt, by simpa using hsource, hexternal, (hname _ _ hexternal).symm⟩
  · rintro ⟨stmt, hstmt, hsource, hexternal, rfl⟩
    obtain ⟨u, hu⟩ := List.exists_mem_of_ne_nil _ hsome
    refine ⟨u, hu, dependencyOf (importSource stmt) (importBindings stmt), ?_,
      (horigin _ _).mpr hexternal, hname _ _ hexternal⟩
    rw [(of_mem_units herrors hu).2.2, hdependencies]
    exact List.mem_map_of_mem (List.mem_filter.mpr ⟨hstmt, by simpa using hsource⟩)

end Lists

/-- The packages that an analysis registers for the units of a document beside those that they
list.  A statement without a source is registered as a package without a name, and a relative import
may hide the package whose name it leads to; in all other cases the packages are the same. -/
structure DependencyAnalysis.RegistersListed (a : DependencyAnalysis) (primary : Assoc String)
    (d : Document) (o : DocumentOrigin) : Prop where
  registered : ∀ p, a.RegistersPackage (d.units o) p → ListsPackage (d.units o) p ∨
    p = "" ∧ ∃ stmt ∈ importStatements d.root, importSource stmt = ""
  listed : ∀ p, ListsPackage (d.units o) p → a.RegistersPackage (d.units o) p ∨
    ∃ stmt ∈ importStatements d.root, Text.startsWith (importSource stmt) "." = true ∧
      resolveImport o.file (importSource stmt) primary = p
  agree : (∀ stmt ∈ importStatements d.root, importSource stmt ≠ "") →
    (∀ stmt ∈ importStatements d.root, Text.startsWith (importSource stmt) "." = true →
      ¬ ListsPackage (d.units o) (resolveImport o.file (importSource stmt) primary)) →
    ∀ p, a.RegistersPackage (d.units o) p ↔ ListsPackage (d.units o) p

section Analyses

variable {d : Document} {o : DocumentOrigin} {components : List Component}
  {documents : Assoc Document} {options : AnalysisSettings} {readings : List FileReading}
  {state : AnalysisState} {primary : Assoc String} {p : String}

/-- What was gathered records the uses of all readings. -/
theorem GatheredFrom.records (h : GatheredFrom components documents options readings state) :
    state.gathered.Records (primaryUnits (unitsByFile components))
      (readings.flatMap (·.uses (primaryUnits (unitsByFile components)))) := by
  rw [h.gathered]
  exact (Gathered.Records.nil _).add_uses _ _

/-- The file of a document at hand has been read as such, with its units. -/
theorem GatheredFrom.exists_reading (h : GatheredFrom components documents options readings state)
    (herrors : d.hasErrors = false) (hsome : d.units o ≠ [])
    (hunits : components.filter (·.filePath == o.file) = d.units o)
    (hdocument : documents.get? o.absolute = some d) :
    ∃ r ∈ readings, r.file = o.file ∧ r.units = d.units o ∧ r.document = .ok d := by
  have hentry : (o.file, d.units o) ∈ readings.map fun r => (r.file, r.units) := by
    rw [h.files, Assoc.sorted, List.mem_mergeSort]
    exact mem_units_by_file hunits hsome
  obtain ⟨r, hr, hsame⟩ := List.mem_map.mp hentry
  obtain ⟨hfile, hown⟩ := Prod.mk.inj hsame
  refine ⟨r, hr, hfile, hown, h.atHand r hr d ?_⟩
  obtain ⟨first, rest, hfirst⟩ := List.exists_cons_of_ne_nil hsome
  have habsolute := (Document.of_mem_units herrors (hfirst ▸ List.mem_cons_self : first ∈ _)).2.1
  rw [hown, hfirst, List.head?_cons, Option.map_some, Option.getD_some, habsolute]
  exact hdocument

/-- Uses by units of a document are those of its import statements. -/
theorem ReadingsOf.mem_file_uses (hof : ReadingsOf components readings)
    (hids : ∀ c ∈ components, c.id ∈ (d.units o).map (·.id) → c.filePath = o.file)
    (herrors : d.hasErrors = false) {r : FileReading} (hr : r ∈ readings)
    (hfile : r.file = o.file) (hown : r.units = d.units o) (hdocument : r.document = .ok d)
    {use : ImportUse} (huse : use ∈ readings.flatMap (·.uses primary))
    (hid : use.unit.id ∈ (d.units o).map (·.id)) :
    use.unit ∈ d.units o ∧ use ∈ fileUses primary d (d.units o) := by
  obtain ⟨r', hr', huse⟩ := List.mem_flatMap.mp huse
  have hunit := FileReading.unit_mem_of_mem_uses huse
  have hcomponent : use.unit ∈ components :=
    hof.complete.subset (List.mem_flatMap.mpr ⟨_, hr', hunit⟩)
  have hsame : use.unit.filePath = o.file := hids _ hcomponent hid
  -- Every file is read once, so the use comes from the reading of the document.
  obtain rfl : r' = r := List.inj_on_of_nodup_map hof.distinct hr' hr
    ((hof.filed r' hr' _ hunit).symm.trans (hsame.trans hfile.symm))
  refine ⟨hown ▸ hunit, ?_⟩
  simpa [FileReading.uses, hdocument, herrors, hown] using huse

/-- A registry has a package for a unit if a detail of the package leads away from the unit. -/
theorem DependencyAnalysis.registers_package_iff {a : DependencyAnalysis} {g : Gathered}
    (hexternal : a.external = g.external.sorted)
    (hregistry : RegistryOf g.external (usersOf g.details)) {units : List Component} :
    a.RegistersPackage units p ↔ ∃ u ∈ units, u.id ∈ usersOf g.details p := by
  have hentry : ∀ e, (p, e) ∈ a.external ↔ g.external.get? p = some e := by
    intro e
    rw [hexternal, Assoc.sorted, List.mem_mergeSort, Assoc.get?_eq_some_iff hregistry.distinct]
  simp only [RegistersPackage, hentry]
  constructor
  · rintro ⟨e, he, u, hu, hused⟩
    refine ⟨u, hu, ?_⟩
    by_cases hnone : usersOf g.details p = []
    · rw [hregistry.absent p hnone] at he
      cases he
    · obtain ⟨e', he', husers, -⟩ := hregistry.present p hnone
      obtain rfl : e' = e := Option.some.inj (he'.symm.trans he)
      rwa [husers, (sorted_perm _).mem_iff] at hused
  · rintro ⟨u, hu, hused⟩
    obtain ⟨e, he, husers, -⟩ := hregistry.present p (List.ne_nil_of_mem hused)
    exact ⟨e, he, u, hu, by rwa [husers, (sorted_perm _).mem_iff]⟩

/-- What is gathered of a document: every import statement has a detail of one of its units, and
every detail of its units comes from an import statement. -/
structure Gathered.RecordsDocument (g : Gathered) (primary : Assoc String) (d : Document)
    (o : DocumentOrigin) : Prop where
  told : ∀ stmt ∈ importStatements d.root, ∃ u ∈ d.units o,
    (u.id, importTarget primary o.file (importSource stmt)) ∈ g.details.map (·.ends)
  origin : ∀ u ∈ d.units o, ∀ e ∈ g.details, e.source = u.id →
    ∃ stmt ∈ importStatements d.root,
      e.target = importTarget primary o.file (importSource stmt) ∧
        e.isExternal = namesPackage (importSource stmt)

theorem ReadingsOf.records_document (hof : ReadingsOf components readings)
    (hfrom : GatheredFrom components documents options readings state)
    (herrors : d.hasErrors = false) (hsome : d.units o ≠ [])
    (hids : ∀ c ∈ components, c.id ∈ (d.units o).map (·.id) → c.filePath = o.file)
    (hunits : components.filter (·.filePath == o.file) = d.units o)
    (hdocument : documents.get? o.absolute = some d) :
    state.gathered.RecordsDocument (primaryUnits (unitsByFile components)) d o := by
  obtain ⟨r, hr, hfile, hown, hread⟩ := hfrom.exists_reading herrors hsome hunits hdocument
  have hlookup := get?_primary_units components o.file
  rw [hunits] at hlookup
  obtain ⟨u, hu, hmain⟩ := primary_unit_mem hsome
  rw [hmain] at hlookup
  have hrecords := hfrom.records
  generalize primaryUnits (unitsByFile components) = primary at *
  have htarget : ∀ use : ImportUse, use.unit ∈ d.units o →
      use.target primary = importTarget primary o.file use.importPath := by
    intro use hunit
    rw [ImportUse.target, (Document.of_mem_units herrors hunit).1]
  constructor
  · intro stmt hstmt
    have hmain : ∃ u ∈ d.units o,
        ((d.units o).head?.bind fun first => primary.get? first.filePath) = some u.id := by
      obtain ⟨first, rest, hfirst⟩ := List.exists_cons_of_ne_nil hsome
      refine ⟨u, hu, ?_⟩
      rw [hfirst, List.head?_cons, Option.bind_some,
        (Document.of_mem_units herrors (hfirst ▸ List.mem_cons_self : first ∈ _)).1]
      exact hlookup
    obtain ⟨use, huse, hunit⟩ := exists_mem_import_uses hmain
    have hmem : use ∈ r.uses primary := by
      rw [FileReading.uses, hread]
      simp only [herrors, Bool.false_eq_true, if_false, hown]
      exact List.mem_flatMap.mpr ⟨stmt, hstmt, huse⟩
    have htold := hrecords.told use (List.mem_flatMap.mpr ⟨r, hr, hmem⟩)
    rw [ImportUse.ends, htarget use hunit, import_path_of_mem_import_uses huse] at htold
    exact ⟨use.unit, hunit, htold⟩
  · intro u hu e he hid
    obtain ⟨use, huse, hends, hexternal⟩ := hrecords.origin e he
    obtain ⟨hsource, hleads⟩ := Prod.mk.inj hends
    obtain ⟨hunit, hmem⟩ := hof.mem_file_uses hids herrors hr hfile hown hread huse
      (List.mem_map.mpr ⟨u, hu, hid.symm.trans hsource⟩)
    obtain ⟨stmt, hstmt, hmem⟩ := List.mem_flatMap.mp hmem
    rw [htarget use hunit, import_path_of_mem_import_uses hmem] at hleads
    rw [ImportUse.isExternal, import_path_of_mem_import_uses hmem] at hexternal
    exact ⟨stmt, hstmt, hleads, hexternal⟩

/-- A detail of a package comes from a statement that names the package. -/
theorem Gathered.RecordsDocument.lists_package {g : Gathered} (h : g.RecordsDocument primary d o)
    (herrors : d.hasErrors = false) {u : Component} (hu : u ∈ d.units o)
    (hused : u.id ∈ usersOf g.details p) :
    ListsPackage (d.units o) p ∨
      p = "" ∧ ∃ stmt ∈ importStatements d.root, importSource stmt = "" := by
  obtain ⟨e, he, hends, hpackage⟩ := mem_users_of.mp hused
  obtain ⟨hsource, htarget⟩ := Prod.mk.inj hends
  obtain ⟨stmt, hstmt, hleads, hnames⟩ := h.origin u hu e he hsource
  rw [hpackage] at hnames
  rw [importTarget, if_pos hnames.symm, htarget] at hleads
  by_cases hnone : importSource stmt = ""
  · exact .inr ⟨by rw [hleads, hnone]; decide, stmt, hstmt, hnone⟩
  · refine .inl ((Document.lists_package_iff herrors (List.ne_nil_of_mem hu)).mpr
      ⟨stmt, hstmt, hnone, ?_, hleads.symm⟩)
    simpa [namesPackage] using hnames

/-- A package that is listed has a detail, and it is one of the package unless a relative import
leads to the same name. -/
theorem Gathered.RecordsDocument.exists_user {g : Gathered} (h : g.RecordsDocument primary d o)
    (herrors : d.hasErrors = false) (hsome : d.units o ≠ [])
    (hlist : ListsPackage (d.units o) p) :
    (∃ u ∈ d.units o, u.id ∈ usersOf g.details p) ∨
      ∃ stmt ∈ importStatements d.root, Text.startsWith (importSource stmt) "." = true ∧
        resolveImport o.file (importSource stmt) primary = p := by
  obtain ⟨stmt, hstmt, -, hpackage, rfl⟩ := (Document.lists_package_iff herrors hsome).mp hlist
  obtain ⟨u, hu, htold⟩ := h.told stmt hstmt
  obtain ⟨e, he, hends⟩ := List.mem_map.mp htold
  rw [importTarget, if_pos (by rw [namesPackage, hpackage]; rfl)] at hends
  obtain ⟨hsource, htarget⟩ := Prod.mk.inj hends
  cases hsort : e.isExternal with
  | true => exact .inl ⟨u, hu, mem_users_of.mpr ⟨e, he, hends, hsort⟩⟩
  | false =>
      -- The first use of the target was that of a relative import.
      obtain ⟨stmt', hstmt', hleads, hnames⟩ := h.origin u hu e he hsource
      rw [hsort] at hnames
      rw [htarget, importTarget, if_neg (by rw [← hnames]; exact Bool.false_ne_true)] at hleads
      exact .inr ⟨stmt', hstmt', by simpa [namesPackage] using hnames, hleads.symm⟩

/-- From what is gathered of a document follows which packages are registered for its units. -/
theorem Gathered.RecordsDocument.registers_listed {g : Gathered} {a : DependencyAnalysis}
    (h : g.RecordsDocument primary d o) (hexternal : a.external = g.external.sorted)
    (hregistry : RegistryOf g.external (usersOf g.details)) (herrors : d.hasErrors = false)
    (hsome : d.units o ≠ []) : a.RegistersListed primary d o := by
  have hregistered : ∀ p, a.RegistersPackage (d.units o) p → ListsPackage (d.units o) p ∨
      p = "" ∧ ∃ stmt ∈ importStatements d.root, importSource stmt = "" := by
    intro p hregister
    rw [DependencyAnalysis.registers_package_iff hexternal hregistry] at hregister
    obtain ⟨u, hu, hused⟩ := hregister
    exact h.lists_package herrors hu hused
  have hlisted : ∀ p, ListsPackage (d.units o) p → a.RegistersPackage (d.units o) p ∨
      ∃ stmt ∈ importStatements d.root, Text.startsWith (importSource stmt) "." = true ∧
        resolveImport o.file (importSource stmt) primary = p := by
    intro p hlist
    rw [DependencyAnalysis.registers_package_iff hexternal hregistry]
    exact h.exists_user herrors hsome hlist
  refine ⟨hregistered, hlisted, fun hsources hrelative p =>
    ⟨fun hregister => ?_, fun hlist => ?_⟩⟩
  · refine (hregistered p hregister).resolve_right ?_
    rintro ⟨-, stmt, hstmt, hnone⟩
    exact hsources stmt hstmt hnone
  · refine (hlisted p hlist).resolve_right ?_
    rintro ⟨stmt, hstmt, hfile, rfl⟩
    exact hrelative stmt hstmt hfile hlist

end Analyses

/-- An analysis registers the packages that the units of a document list for these units, except for
packages that relative imports hide, and no others, except for a package without a name. -/
theorem analyze_registers_listed_packages {d : Document} {o : DocumentOrigin}
    {components : List Component} {documents : Assoc Document} {context : RunContext}
    {s t : RunState} {a : DependencyAnalysis} (herrors : d.hasErrors = false)
    (hsome : d.units o ≠ [])
    (hids : ∀ c ∈ components, c.id ∈ (d.units o).map (·.id) → c.filePath = o.file)
    (hunits : components.filter (·.filePath == o.file) = d.units o)
    (hdocument : documents.get? o.absolute = some d)
    (hrun : (Run.analyze components documents).exec context s = (.ok a, t)) :
    a.RegistersListed (primaryUnits (unitsByFile components)) d o := by
  obtain ⟨readings, state, hof, -, hfrom, hanalysis⟩ := analyze_eq_ok hrun
  exact (hof.records_document hfrom herrors hsome hids hunits hdocument).registers_listed
    (external_of_analysis_of hanalysis) hfrom.records.registry herrors hsome

/-- The document of a unit that imports from the given sources, in order. -/
def appImporting (sources : List String) : Document :=
  { path := "App.tsx", language := .tsx, source := ""
    root := .mk { kind := "program" }
      (sources.map (fun source => .mk { kind := "import_statement" }
          [.mk { kind := "string", field := "source", text := "'" ++ source ++ "'" } []]) ++
        [.mk { kind := "function_declaration" }
          [.mk { kind := "identifier", field := "name", text := "App" } []]]) }

/-- Where this document comes from. -/
def appOrigin : DocumentOrigin := ⟨"App.tsx", "App.tsx", 0, 0⟩

/-- The document by itself can be analysed. -/
theorem analyze_app_returns {sources : List String}
    (herrors : (appImporting sources).hasErrors = false)
    (hone : ((appImporting sources).units appOrigin).length = 1) :
    ∃ a t, (Run.analyze ((appImporting sources).units appOrigin)
      [("App.tsx", appImporting sources)]).exec loopContext {} = (.ok a, t) := by
  obtain ⟨u, hu⟩ := List.length_eq_one_iff.mp hone
  obtain ⟨-, habsolute, -⟩ := Document.of_mem_units herrors (hu ▸ List.mem_cons_self : u ∈ _)
  refine analyze_returns rfl rfl rfl rfl rfl rfl fun entry hentry => ⟨appImporting sources, ?_⟩
  rw [hu, show unitsByFile [u] = [(u.filePath, [u])] from rfl, List.mem_singleton] at hentry
  rw [hentry]
  show Assoc.get? _ u.absolutePath = _
  rw [habsolute]
  rfl

/-- A file of the unit's directory has the name of no package. -/
theorem analyze_registers_listed_packages_app :
    ∃ a t, (Run.analyze ((appImporting ["./util", "react"]).units appOrigin)
        [("App.tsx", appImporting ["./util", "react"])]).exec loopContext {} = (.ok a, t) ∧
      a.RegistersPackage ((appImporting ["./util", "react"]).units appOrigin) "react" := by
  have herrors : (appImporting ["./util", "react"]).hasErrors = false := by decide
  have hone : ((appImporting ["./util", "react"]).units appOrigin).length = 1 := by decide
  obtain ⟨a, t, hrun⟩ := analyze_app_returns herrors hone
  have hsome : (appImporting ["./util", "react"]).units appOrigin ≠ [] :=
    List.ne_nil_of_length_eq_add_one hone
  have hregisters := analyze_registers_listed_packages herrors hsome
    (fun u hu _ => (Document.of_mem_units herrors hu).1) (Document.filter_units herrors) rfl hrun
  refine ⟨a, t, hrun, (hregisters.agree (by decide) ?_ "react").mpr ?_⟩
  · simp only [Document.lists_package_iff herrors hsome]
    decide
  · rw [Document.lists_package_iff herrors hsome]
    decide

/-- What is gathered of the document by itself. -/
def gatheredOfApp (sources : List String) : Gathered :=
  let units := (appImporting sources).units appOrigin
  let primary := primaryUnits (unitsByFile units)
  Gathered.addUses {} 5 primary (fileUses primary (appImporting sources) units)

theorem external_of_analyze_app {sources : List String} {a : DependencyAnalysis} {t : RunState}
    (herrors : (appImporting sources).hasErrors = false)
    (hone : ((appImporting sources).units appOrigin).length = 1)
    (hrun : (Run.analyze ((appImporting sources).units appOrigin)
      [("App.tsx", appImporting sources)]).exec loopContext {} = (.ok a, t)) :
    a.external = (gatheredOfApp sources).external.sorted := by
  obtain ⟨readings, state, -, -, hfrom, hanalysis⟩ := analyze_eq_ok hrun
  obtain ⟨r, hr, -, hown, hread⟩ := hfrom.exists_reading herrors
    (List.ne_nil_of_length_eq_add_one hone) (Document.filter_units herrors) rfl
  have hreadings : readings = [r] := by
    have hlength := congrArg List.length hfrom.files
    rw [List.length_map, Assoc.sorted, (List.mergeSort_perm _ _).length_eq] at hlength
    obtain ⟨u, hu⟩ := List.length_eq_one_iff.mp hone
    rw [hu] at hlength
    obtain ⟨r', hr'⟩ := List.length_eq_one_iff.mp hlength
    rw [hr', List.mem_singleton] at hr
    rw [hr', hr]
  rw [external_of_analysis_of hanalysis, hfrom.gathered, hreadings, List.flatMap_singleton,
    FileReading.uses, hread, hown]
  simp only [herrors, Bool.false_eq_true, if_false]
  rfl

/-- A relative import that leads to the name of a package hides the package: the first import makes
a detail of the file, and the second one only extends it. -/
theorem analyze_hides_package :
    (appImporting ["./react", "react"]).hasErrors = false ∧
      (appImporting ["./react", "react"]).units appOrigin ≠ [] ∧
      ∃ a t, (Run.analyze ((appImporting ["./react", "react"]).units appOrigin)
          [("App.tsx", appImporting ["./react", "react"])]).exec loopContext {} = (.ok a, t) ∧
        ListsPackage ((appImporting ["./react", "react"]).units appOrigin) "react" ∧
        ¬ a.RegistersPackage ((appImporting ["./react", "react"]).units appOrigin) "react" := by
  have herrors : (appImporting ["./react", "react"]).hasErrors = false := by decide
  have hone : ((appImporting ["./react", "react"]).units appOrigin).length = 1 := by decide
  have hsome : (appImporting ["./react", "react"]).units appOrigin ≠ [] :=
    List.ne_nil_of_length_eq_add_one hone
  obtain ⟨a, t, hrun⟩ := analyze_app_returns herrors hone
  refine ⟨herrors, hsome, a, t, hrun, ?_, ?_⟩
  · rw [Document.lists_package_iff herrors hsome]
    decide
  · rintro ⟨e, he, -⟩
    have hnone : (gatheredOfApp ["./react", "react"]).external = [] := by decide
    rw [external_of_analyze_app herrors hone hrun, hnone, Assoc.sorted, List.mergeSort_nil] at he
    cases he

/-- An import without a source is registered as a package without a name. -/
theorem analyze_registers_nameless_package :
    ∃ a t, (Run.analyze ((appImporting [""]).units appOrigin)
        [("App.tsx", appImporting [""])]).exec loopContext {} = (.ok a, t) ∧
      ¬ ListsPackage ((appImporting [""]).units appOrigin) "" ∧
      a.RegistersPackage ((appImporting [""]).units appOrigin) "" := by
  have herrors : (appImporting [""]).hasErrors = false := by decide
  have hone : ((appImporting [""]).units appOrigin).length = 1 := by decide
  obtain ⟨a, t, hrun⟩ := analyze_app_returns herrors hone
  refine ⟨a, t, hrun, ?_, ?_⟩
  · rw [Document.lists_package_iff herrors (List.ne_nil_of_length_eq_add_one hone)]
    decide
  · rw [DependencyAnalysis.registers_package_iff (external_of_analyze_app herrors hone hrun)
      ((Gathered.Records.nil _).add_uses _ _).registry]
    decide

end ComponentMigration
