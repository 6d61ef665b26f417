import ComponentMigration.Proofs.Project.Discovery
import ComponentMigration.Proofs.Project.Reports
import ComponentMigration.Proofs.Run.Unseen

/-!
# What a coverage report does to a discovery

A report that is a table of tables, as far as it is looked at, gives the test coverage of units and
nothing else: the discovery comes to what it comes to without the report, but for the coverage of
its units.  The same goes for a report that cannot be read.  Any other report ends the discovery
(`discovery_without_report`).
-/

namespace ComponentMigration

/-!
## Units without their coverage
-/

/-- A unit with some test coverage. -/
def Component.withCoverage (coverage : Float) (c : Component) : Component :=
  { c with metadata := { c.metadata with testCoverage := coverage } }

/-- A unit without its test coverage. -/
def Component.uncovered (c : Component) : Component := c.withCoverage 0.0

/-- The units of a file without their test coverage, and its issues. -/
def uncoveredFile (found : List Component × List DiscoveryIssue) :
    List Component × List DiscoveryIssue :=
  (found.1.map Component.uncovered, found.2)

/-- What a discovery has come to but for the test coverage of units. -/
def DiscoveryResult.uncovered (r : DiscoveryResult) : DiscoveryResult :=
  { r with components := r.components.map Component.uncovered }

section Units

variable {d : Document} {units others found : List Component} {o : DocumentOrigin}

theorem add_recovered_with_coverage (declarations : List (String × ComponentKind × Nat))
    (units : List Component) (coverage : Float) :
    addRecovered d { o with coverage := coverage } (units.map (·.withCoverage coverage))
        declarations =
      (addRecovered d o units declarations).map (·.withCoverage coverage) := by
  induction declarations generalizing units with
  | nil => rfl
  | cons declaration declarations ih =>
      obtain ⟨name, kind, line⟩ := declaration
      have hany : (units.map (·.withCoverage coverage)).any (·.name == name) =
          units.any (·.name == name) := by
        rw [List.any_map]
        rfl
      rw [addRecovered, addRecovered, hany]
      split
      · exact ih units
      · rw [← ih, List.map_append]
        rfl

/-- The coverage of a document goes to each of its units, and nowhere else. -/
theorem units_with_coverage (d : Document) (o : DocumentOrigin) (coverage : Float) :
    d.units { o with coverage := coverage } = (d.units o).map (·.withCoverage coverage) := by
  have hcandidates : (d.candidates { o with coverage := coverage }).map
      (·.unit d { o with coverage := coverage }) =
        ((d.candidates o).map (·.unit d o)).map (·.withCoverage coverage) := by
    rw [List.map_map]
    rfl
  unfold Document.units
  dsimp only
  rw [hcandidates]
  split
  · exact add_recovered_with_coverage _ _ _
  · rfl

theorem uncovered_document (d : Document) (file absolute : String) (size : Nat)
    (coverage other : Float) :
    uncoveredFile (d.units ⟨file, absolute, size, coverage⟩,
        Run.documentIssues d file (d.units ⟨file, absolute, size, coverage⟩)) =
      uncoveredFile (d.units ⟨file, absolute, size, other⟩,
        Run.documentIssues d file (d.units ⟨file, absolute, size, other⟩)) := by
  have hunits : d.units ⟨file, absolute, size, coverage⟩ =
      (d.units ⟨file, absolute, size, other⟩).map (·.withCoverage coverage) :=
    units_with_coverage d ⟨file, absolute, size, other⟩ coverage
  rw [hunits, uncoveredFile, uncoveredFile, List.map_map, Run.documentIssues, Run.documentIssues,
    List.isEmpty_map]
  rfl

theorem uncovered_add_units (units found : List Component) :
    (Run.addUnits units found).map Component.uncovered =
      Run.addUnits (units.map Component.uncovered) (found.map Component.uncovered) := by
  unfold Run.addUnits
  induction found generalizing units with
  | nil => rfl
  | cons c found ih =>
      have hany : (units.map Component.uncovered).any (·.id == c.uncovered.id) =
          units.any (·.id == c.id) := by
        rw [List.any_map]
        rfl
      rw [List.map_cons, List.foldl_cons, List.foldl_cons, ih, hany]
      split
      · rfl
      · rw [List.map_append, List.map_singleton]

/-- The coverage of units does not count in the numbers of a discovery. -/
theorem discovery_statistics_uncovered (units : List Component) (files : Int) :
    discoveryStatistics (units.map Component.uncovered) files =
      discoveryStatistics units files := by
  have hranks : (units.map Component.uncovered).mapM gradeNumber = units.mapM gradeNumber := by
    rw [List.mapM_map]
    rfl
  unfold discoveryStatistics
  rw [hranks]
  simp only [List.isEmpty_map, List.length_map, List.map_map, List.flatMap_map]
  rfl

end Units

section Uncovered

variable {context : RunContext} {s : RunState} {root : Path} {coverage : Assoc Float}

theorem analyze_file_uncovered (path root : Path) (coverage : Assoc Float) :
    (uncoveredFile <$> Run.analyzeFile path root coverage).exec context s =
      (uncoveredFile <$> Run.analyzeFile path root []).exec context s := by
  unfold Run.analyzeFile
  simp only [map_bind]
  refine Run.exec_bind_congr fun read t _ => ?_
  cases read with
  | error f => rfl
  | ok found =>
      obtain ⟨bytes, text⟩ := found
      simp only [map_bind, map_pure]
      refine Run.exec_bind_congr fun document u _ => ?_
      exact congrArg (fun found => (pure found : Run _).exec context u)
        (uncovered_document document _ _ _ _ _)

theorem analyze_sources_uncovered {paths : List Path} {units others : List Component}
    (h : units.map Component.uncovered = others.map Component.uncovered)
    (issues : List DiscoveryIssue) :
    (uncoveredFile <$> Run.analyzeSources root coverage paths units issues).exec context s =
      (uncoveredFile <$> Run.analyzeSources root [] paths others issues).exec context s := by
  induction paths generalizing units others issues s with
  | nil => simp [Run.analyzeSources, uncoveredFile, h]
  | cons path rest ih =>
      refine Run.exec_map_bind_congr (f := id) rfl fun place _ t hplace => ?_
      obtain rfl := hplace
      refine Run.exec_map_bind_congr (f := id) rfl fun _ _ u _ => ?_
      refine Run.exec_map_bind_congr (analyze_file_uncovered path root coverage) ?_
      rintro ⟨found, told⟩ ⟨found', told'⟩ v hfound
      obtain ⟨hunits, rfl⟩ := Prod.mk.inj hfound
      refine ih ?_ _
      rw [uncovered_add_units, uncovered_add_units, h]
      exact congrArg _ hunits

/-- What a discovery does after the scan, with the coverage that the report has given. -/
def Run.discoverScanned (root : Path) (found : List Path × List DiscoveryIssue)
    (coverage : Assoc Float) : Run DiscoveryResult := do
  let (components, issues) ← Run.analyzeSources root coverage found.1 [] found.2
  let statistics ← Run.use (discoveryStatistics components found.1.length)
  return ⟨root.toText, components, issues, statistics⟩

theorem discover_scanned_uncovered (context : RunContext) (s : RunState) (root : Path)
    (found : List Path × List DiscoveryIssue) (coverage : Assoc Float) :
    (DiscoveryResult.uncovered <$> Run.discoverScanned root found coverage).exec context s =
      (DiscoveryResult.uncovered <$> Run.discoverScanned root found []).exec context s := by
  refine Run.exec_map_bind_congr (analyze_sources_uncovered rfl found.2) ?_
  rintro ⟨units, issues⟩ ⟨units', issues'⟩ t hfound
  obtain ⟨hunits, rfl⟩ := Prod.mk.inj hfound
  have hstatistics : ∀ files, discoveryStatistics units files = discoveryStatistics units' files :=
    fun files => by
      rw [← discovery_statistics_uncovered units, hunits, discovery_statistics_uncovered]
  dsimp only
  rw [hstatistics, map_bind, map_bind]
  refine Run.exec_bind_congr fun statistics u _ => ?_
  have hresult : DiscoveryResult.uncovered ⟨root.toText, units, issues, statistics⟩ =
      DiscoveryResult.uncovered ⟨root.toText, units', issues, statistics⟩ := by
    rw [DiscoveryResult.uncovered, DiscoveryResult.uncovered, hunits]
  simp only [map_pure, hresult]

end Uncovered

section Scan

variable {options : DiscoverySettings} {d d' : Disk} {root : Path} {place : List String}
  {bytes : List UInt8}

/-- The same files are looked for without a file that is none of them. -/
theorem is_wanted_apart (h : d.LacksFile place bytes d')
    (hsource : ∀ rest, IsWanted options d root rest → (d.locate root).parts ++ rest ≠ place)
    (rest : List String) : IsWanted options d' root rest ↔ IsWanted options d root rest := by
  constructor
  · intro hwanted
    exact ⟨hwanted.path, Disk.is_file_of_lacks_file h hwanted.file, hwanted.place, hwanted.wanted⟩
  · intro hwanted
    refine ⟨hwanted.path, ?_, hwanted.place, hwanted.wanted⟩
    rw [Disk.is_file_apart h, hwanted.file]
    rw [Disk.locate_join d root hwanted.path.2]
    exact hsource rest hwanted

variable {context : RunContext} {s : RunState}

theorem exec_is_directory_apart (context : RunContext) (h : s.disk.LacksFile place bytes d')
    (root : Path) :
    ∃ outcome, (Run.isDirectory? root).exec context s = (outcome, s) ∧
      (Run.isDirectory? root).exec context { s with disk := d' } =
        (outcome, { s with disk := d' }) := by
  refine ⟨_, Run.exec_is_directory root, ?_⟩
  rw [Run.exec_is_directory, Disk.look_directory_apart h]

/-- A scan comes to the same without a file that is not looked for. -/
theorem scan_files_apart (htree : s.disk.IsTree) (htree' : d'.IsTree)
    (husable : context.settings.discovery.IsUsable) (h : s.disk.LacksFile place bytes d')
    (hsource : ∀ rest, IsWanted context.settings.discovery s.disk root rest →
      (s.disk.locate root).parts ++ rest ≠ place) :
    ∃ outcome, (Run.scanFiles root).exec context s = (outcome, s) ∧
      (Run.scanFiles root).exec context { s with disk := d' } = (outcome, { s with disk := d' }) ∧
      ∀ found, outcome = .ok found →
        ∀ p ∈ found.1, s.disk.isFile p = true ∧ (s.disk.locate p).parts ≠ place := by
  obtain ⟨directory, hleft, hright⟩ := exec_is_directory_apart context h root
  by_cases hdirectory : directory = .ok true
  · subst hdirectory
    obtain ⟨-, hroot⟩ := is_directory_of_exec hleft
    have hroot' : d'.isDirectory root = true := by rw [Disk.is_directory_apart h, hroot]
    obtain ⟨directories, hskip⟩ := husable.skipped
    have hwanted := (wanted_files htree hroot).unique
      (wanted_files (s := { s with disk := d' }) htree' hroot') (is_wanted_apart h hsource)
    obtain ⟨found, hscan⟩ := exists_scan_files hroot husable
    refine ⟨.ok found, hscan, ?_, ?_⟩
    · rw [scan_files_of_directory (s := { s with disk := d' }) hroot' hskip,
        take_files_of_wanted husable hwanted]
      rw [scan_files_of_directory hroot hskip] at hscan
      obtain ⟨htake, -⟩ := Run.exec_use_eq_ok.mp hscan
      rw [htake]
      rfl
    · rintro _ ⟨⟩ p hp
      obtain ⟨-, hof⟩ := scan_files_eq hroot hscan
      obtain ⟨rest, rfl, hrest⟩ := ((wanted_files htree hroot).mem p).mp (hof.sublist.subset hp)
      refine ⟨hrest.file, ?_⟩
      rw [Disk.locate_join s.disk root hrest.path.2]
      exact hsource rest hrest
  · -- Nothing is scanned: the root cannot be looked up, or it is no directory.
    unfold Run.scanFiles
    rw [Run.exec_bind, Run.exec_bind, hleft, hright]
    cases directory with
    | error failure => exact ⟨_, rfl, rfl, nofun⟩
    | ok directory =>
        cases directory with
        | true => exact absurd rfl hdirectory
        | false => exact ⟨_, rfl, rfl, nofun⟩

end Scan

section Blind

variable {d d' : Disk} {place : List String} {bytes : List UInt8} {p : Path}

theorem blind_read_file_bytes (h : d.LacksFile place bytes d') (hp : (d.locate p).parts ≠ place)
    (hfile : d.isFile p = true) (rel : String) :
    Run.Blind (RunState.Apart d d') (Run.readFileBytes p rel) := by
  refine Run.blind_bind (Run.blind_attempt (Run.blind_read_bytes h hp hfile)) fun outcome => ?_
  split
  · exact Run.blind_pure _
  · exact Run.blind_fault _
  · exact Run.blind_throw _

theorem blind_read_source_file (h : d.LacksFile place bytes d') (hp : (d.locate p).parts ≠ place)
    (hfile : d.isFile p = true) (rel : String) :
    Run.Blind (RunState.Apart d d') (Run.readSourceFile p rel) := by
  have hplace : Run.Blind (RunState.Apart d d') (Run.filePlace rel) := Run.blind_place _ _ _ _
  refine Run.blind_bind hplace fun place => Run.blind_bind (Run.blind_attempt
    (Run.blind_with_recovery (blind_read_file_bytes h hp hfile rel) place _)) fun outcome => ?_
  split
  · split
    · exact Run.blind_pure _
    · exact Run.blind_fault _
  · exact Run.blind_throw _
  · exact Run.blind_trouble _
  · split
    · exact Run.blind_pure _
    · exact Run.blind_bind (Run.blind_bind hplace fun _ => Run.blind_record _) fun _ =>
        Run.blind_pure _

theorem blind_analyze_file (h : d.LacksFile place bytes d') (hp : (d.locate p).parts ≠ place)
    (hfile : d.isFile p = true) (root : Path) (coverage : Assoc Float) :
    Run.Blind (RunState.Apart d d') (Run.analyzeFile p root coverage) := by
  refine Run.blind_bind (blind_read_source_file h hp hfile _) fun read => ?_
  split
  · refine Run.blind_bind Run.blind_read fun context => ?_
    split
    · exact Run.blind_pure _
    · exact Run.blind_fault _
  · refine Run.blind_bind ?_ fun document => Run.blind_pure _
    unfold Run.parseAs
    split
    · exact Run.blind_fault _
    · exact Run.blind_bind Run.blind_read fun _ => Run.blind_pure _

theorem blind_analyze_sources (h : d.LacksFile place bytes d') {paths : List Path}
    (hpaths : ∀ p ∈ paths, d.isFile p = true ∧ (d.locate p).parts ≠ place) (root : Path)
    (coverage : Assoc Float) (units : List Component) (issues : List DiscoveryIssue) :
    Run.Blind (RunState.Apart d d') (Run.analyzeSources root coverage paths units issues) := by
  induction paths generalizing units issues with
  | nil => exact Run.blind_pure _
  | cons p rest ih =>
      obtain ⟨⟨hfile, hp⟩, hrest⟩ := List.forall_mem_cons.mp hpaths
      refine Run.blind_bind (Run.blind_place _ _ _ _) fun place =>
        Run.blind_bind (Run.blind_checkpoint place) fun _ =>
          Run.blind_bind (blind_analyze_file h hp hfile root coverage) fun found => ?_
      exact ih hrest _ _

theorem blind_discover_scanned (h : d.LacksFile place bytes d')
    {found : List Path × List DiscoveryIssue}
    (hfound : ∀ p ∈ found.1, d.isFile p = true ∧ (d.locate p).parts ≠ place) (root : Path)
    (coverage : Assoc Float) :
    Run.Blind (RunState.Apart d d') (Run.discoverScanned root found coverage) :=
  Run.blind_bind (blind_analyze_sources h hfound root coverage _ _) fun _ =>
    Run.blind_bind (Run.blind_use _) fun _ => Run.blind_pure _

end Blind

section Discovery

variable {context : RunContext} {s : RunState} {root path : Path} {place : List String}
  {bytes : List UInt8}

/-- A discovery scans, loads the report, and goes on with both. -/
theorem discover_eq_scanned (root : Path) (s : RunState) :
    (Run.discover root).exec context s =
      (do let root ← Run.use (s.disk.resolve root)
          let found ← Run.scanFiles root
          let coverage ← Run.loadCoverage root
          Run.discoverScanned root found coverage : Run DiscoveryResult).exec context s := by
  unfold Run.discover
  rw [Run.exec_bind_of_ok Run.exec_get]
  rfl

/-- Where a report is, where a discovery from a root looks for it. -/
structure IsReportFile (context : RunContext) (d : Disk) (root path : Path) (place : List String)
    (bytes : List UInt8) : Prop where
  located : coveragePath context.settings.discovery (d.locate root) = .ok path
  file : d.find path = .found ⟨"/", place⟩ (.file bytes)
  inside : ¬place <+: d.cwd.parts
  source : ∀ rest, IsWanted context.settings.discovery d (d.locate root) rest →
    (d.locate (d.locate root)).parts ++ rest ≠ place

/-- The state in which a file has been removed. -/
def RunState.without (s : RunState) (path : Path) : RunState :=
  { s with disk := (s.disk.remove path).2 }

/-- A report that can be used, or that cannot be read, has no part in what is discovered but the
test coverage of the units.  With any other report a discovery fails that would have succeeded
without. -/
theorem discovery_without_report (htree : s.disk.IsTree)
    (husable : context.settings.discovery.IsUsable)
    (hreport : IsReportFile context s.disk root path place bytes)
    (hobservers : context.ObserversBlind (RunState.Apart s.disk (s.without path).disk)) :
    ((∀ text, s.disk.Tells path text → IsReportText text) →
      ((Run.discover root).exec context s).1.map DiscoveryResult.uncovered =
        ((Run.discover root).exec context (s.without path)).1.map DiscoveryResult.uncovered) ∧
      ∀ text, s.disk.Tells path text → ¬IsReportText text →
        ∀ found, ((Run.discover root).exec context (s.without path)).1 = .ok found →
          ∃ t, ((Run.discover root).exec context s).1 = .error (.trouble t) := by
  unfold RunState.without at *
  have hremoved : (s.disk.remove path).2 =
      { s.disk with entries := s.disk.entries.filter (·.1 != ⟨"/", place⟩) } := by
    rw [Disk.remove, hreport.file]
  have htree' : (s.disk.remove path).2.IsTree := by
    rw [hremoved]
    exact is_tree_filter htree (· != ⟨"/", place⟩)
  have hlacks : s.disk.LacksFile place bytes (s.disk.remove path).2 := by
    rw [hremoved]
    exact Disk.lacks_file_filter htree.proper hreport.file hreport.inside
  have hpending : (s.disk.remove path).2.pending = s.disk.pending := by rw [hremoved]
  generalize (s.disk.remove path).2 = without at *
  have hapart : RunState.Apart s.disk without { s with disk := (s.disk.readText path).2 }
      { s with disk := without } := by
    obtain ⟨hread, hfaults⟩ := read_text_apart s.disk path
    refine ⟨?_, ⟨rfl, rfl⟩, ?_, rfl⟩
    · rw [hread]
      exact ⟨rfl, rfl⟩
    · exact (congrArg byteFaults hpending).trans hfaults.symm
  rw [discover_eq_scanned, discover_eq_scanned, Disk.resolve_apart hlacks]
  cases hroot : s.disk.resolve root with
  | error t => exact ⟨fun _ => rfl, fun _ _ _ _ => nofun⟩
  | ok place' =>
      obtain rfl := locate_of_resolve hroot
      obtain ⟨outcome, hleft, hright, hfiles⟩ :=
        scan_files_apart htree htree' husable hlacks hreport.source
      rw [Run.exec_bind_of_ok (Run.exec_use_ok _), Run.exec_bind_of_ok (Run.exec_use_ok _),
        Run.exec_bind, Run.exec_bind, hleft, hright]
      cases outcome with
      | error failure => exact ⟨fun _ => rfl, fun _ _ _ _ => nofun⟩
      | ok found =>
          have hnone : (Run.loadCoverage (s.disk.locate root)).exec context
              { s with disk := without } = (.ok [], { s with disk := without }) :=
            load_coverage_of_none hreport.located (Disk.look_of_lacks_file hlacks hreport.file)
          obtain ⟨loaded, hload, hcases⟩ := load_coverage_cases hreport.located hreport.file
          dsimp only
          rw [Run.exec_bind_of_ok hnone, Run.exec_bind, hload]
          rcases hcases with ⟨⟨coverage, rfl⟩, hreads⟩ | ⟨⟨t, rfl⟩, text, hread, hunusable⟩
          · refine ⟨fun _ => ?_, fun text hread hunusable => absurd (hreads text hread) hunusable⟩
            have huncovered := congrArg Prod.fst (discover_scanned_uncovered context
              { s with disk := (s.disk.readText path).2 } (s.disk.locate root) found coverage)
            obtain ⟨hsame, -⟩ := blind_discover_scanned hlacks (hfiles found rfl)
              (s.disk.locate root) [] context _ _ hobservers hapart
            rw [Run.exec_map, Run.exec_map] at huncovered
            rw [hsame]
            exact huncovered
          · exact ⟨fun hreads => absurd (hreads text hread) hunusable, fun _ _ _ _ _ => ⟨t, rfl⟩⟩

end Discovery

/-- A project with a file and a coverage report. -/
def reportedState (report : String) : RunState :=
  { disk :=
      { entries := [(⟨"/", ["proj"]⟩, .directory),
          (⟨"/", ["proj", "Main.tsx"]⟩, .file (Text.encodeUtf8 "Main")),
          (⟨"/", ["proj", "coverage"]⟩, .directory),
          (⟨"/", ["proj", "coverage", "coverage-summary.json"]⟩,
            .file (Text.encodeUtf8 report))] } }

/-- The place of the report. -/
def reportPath : Path := ⟨"/", ["proj", "coverage", "coverage-summary.json"]⟩

/-- A report that tells of the file. -/
def mainReport : String := "\x7b\"Main.tsx\": \x7b\"lines\": \x7b\"pct\": 50\x7d\x7d\x7d"

theorem is_report_file_reported (report : String) :
    IsReportFile panelContext (reportedState report).disk ⟨"", []⟩ reportPath reportPath.parts
      (Text.encodeUtf8 report) where
  located := rfl
  file := rfl
  inside := (by decide : ¬reportPath.parts <+: ["proj"])
  source rest hwanted heq := by
    have hrest : rest = ["coverage", "coverage-summary.json"] := List.append_cancel_left heq
    subst hrest
    exact absurd hwanted.wanted (by decide)

theorem is_usable_panel : panelContext.settings.discovery.IsUsable where
  included := ⟨_, rfl, by simp⟩
  excluded := ⟨_, rfl, by simp⟩
  skipped := ⟨_, rfl⟩
  limit := ⟨_, rfl⟩

/-- With a report that tells of the file, only the coverage of its unit is another one. -/
theorem discovery_without_report_main :
    ((Run.discover ⟨"", []⟩).exec panelContext (reportedState mainReport)).1.map
        DiscoveryResult.uncovered =
      ((Run.discover ⟨"", []⟩).exec panelContext
        ((reportedState mainReport).without reportPath)).1.map DiscoveryResult.uncovered := by
  have htree : (reportedState mainReport).disk.IsTree :=
    ⟨by unfold Disk.IsProper; decide, by decide, by decide⟩
  have htells : (reportedState mainReport).disk.Tells reportPath mainReport := by decide
  have husable : IsReportText mainReport := by decide +kernel
  have hobservers : panelContext.ObserversBlind (RunState.Apart (reportedState mainReport).disk
      ((reportedState mainReport).without reportPath).disk) :=
    fun _ hobserve => absurd hobserve List.not_mem_nil
  exact (discovery_without_report htree is_usable_panel (is_report_file_reported mainReport)
    hobservers).1 fun text htext => htells.unique htext ▸ husable

/-- Without the report, the scan of this project takes the file. -/
theorem scan_unreported_files :
    (Run.scanFiles ⟨"/", ["proj"]⟩).exec panelContext ((reportedState "[]").without reportPath) =
      (.ok ([⟨"/", ["proj", "Main.tsx"]⟩], []), (reportedState "[]").without reportPath) := by
  have hroot : ((reportedState "[]").without reportPath).disk.isDirectory ⟨"/", ["proj"]⟩ =
      true := by decide
  have hpaths : (((reportedState "[]").without reportPath).disk.entries.map Prod.fst).filterMap
      (pathBelow (((reportedState "[]").without reportPath).disk.locate ⟨"/", ["proj"]⟩).parts
        ⟨"/", ["proj"]⟩) = [⟨"/", ["proj", "Main.tsx"]⟩, ⟨"/", ["proj", "coverage"]⟩] := by
    decide
  have hbelow : ((reportedState "[]").without reportPath).disk.below ⟨"/", ["proj"]⟩ =
      [⟨"/", ["proj", "Main.tsx"]⟩, ⟨"/", ["proj", "coverage"]⟩] := by
    rw [below_eq hroot, hpaths]
    exact List.mergeSort_of_pairwise (by decide)
  rw [scan_files_of_directory hroot rfl, candidateFiles, hbelow]
  rfl

/-- A report that is a list ends the discovery, which succeeds without it. -/
theorem listed_report_ends_discovery :
    (∃ t, ((Run.discover ⟨"", []⟩).exec panelContext (reportedState "[]")).1 =
        .error (.trouble t)) ∧
      ∃ found, ((Run.discover ⟨"", []⟩).exec panelContext
        ((reportedState "[]").without reportPath)).1 = .ok found := by
  constructor
  · have hroot : (reportedState "[]").disk.isDirectory ⟨"/", ["proj"]⟩ = true := by decide
    have htells : (reportedState "[]").disk.Tells reportPath "[]" := by decide
    have hunusable : ¬IsReportText "[]" := by decide
    have hlocated : coveragePath panelContext.settings.discovery ⟨"/", ["proj"]⟩ =
        .ok reportPath := rfl
    obtain ⟨found, hscan⟩ := exists_scan_files hroot is_usable_panel
    obtain ⟨outcome, hload, hcases⟩ := load_coverage_cases hlocated
      (is_report_file_reported "[]").file
    obtain ⟨-, hreads⟩ | ⟨⟨t, rfl⟩, -⟩ := hcases
    · exact absurd (hreads "[]" htells) hunusable
    · have hresolve : (reportedState "[]").disk.resolve ⟨"", []⟩ = .ok ⟨"/", ["proj"]⟩ := by
        decide
      refine ⟨t, ?_⟩
      rw [discover_eq_scanned, hresolve, Run.exec_bind_of_ok (Run.exec_use_ok _),
        Run.exec_bind_of_ok hscan, Run.exec_bind, hload]
  · have hresolve : ((reportedState "[]").without reportPath).disk.resolve ⟨"", []⟩ =
        .ok ⟨"/", ["proj"]⟩ := by decide
    have hlook : ((reportedState "[]").without reportPath).disk.look reportPath = .ok none := by
      decide
    have hfound : ((Run.discoverScanned ⟨"/", ["proj"]⟩ ([⟨"/", ["proj", "Main.tsx"]⟩], []) []).exec
        panelContext ((reportedState "[]").without reportPath)).1.isOk = true := by decide
    rw [discover_eq_scanned, hresolve, Run.exec_bind_of_ok (Run.exec_use_ok _),
      Run.exec_bind_of_ok scan_unreported_files,
      Run.exec_bind_of_ok (load_coverage_of_none rfl hlook)]
    generalize ((Run.discoverScanned ⟨"/", ["proj"]⟩ ([⟨"/", ["proj", "Main.tsx"]⟩], []) []).exec
      panelContext ((reportedState "[]").without reportPath)).1 = result at hfound ⊢
    cases result with
    | ok found => exact ⟨found, rfl⟩
    | error failure => cases hfound

end ComponentMigration
