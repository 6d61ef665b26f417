import ComponentMigration.Project.Discovery
import ComponentMigration.Proofs.Component.Units
import ComponentMigration.Proofs.Pipeline.UnitResults
import ComponentMigration.Proofs.Project.Files
import ComponentMigration.Proofs.Run.Stays
import ComponentMigration.Proofs.Text.Splitting

/-!
# The units of a project are those of its files

The id of a unit is the path of its file below the root, a colon, and its name.  Paths without colons
can be read off ids (`eq_of_keyed_eq`), the paths of different files differ (`nodup_relative_texts`),
and the names of the units of one file are distinct, so no unit has the id of another one, and nothing
is lost when only the first unit of each id is kept (`analyze_sources_eq`).  A discovery therefore
comes to the units of all files that the scan has found (`discover_eq_each`).
-/

namespace ComponentMigration

section Ids

variable {units found : List Component} {file file' name name' : String}

/-- What stands before the first colon is determined by the whole. -/
theorem eq_of_keyed_eq (hfile : ':' ∉ file.toList) (hfile' : ':' ∉ file'.toList)
    (h : file ++ ":" ++ name = file' ++ ":" ++ name') : file = file' := by
  have hchars : file.toList ++ ':' :: name.toList = file'.toList ++ ':' :: name'.toList := by
    have htexts := congrArg String.toList h
    simpa using htexts
  exact String.toList_inj.mp (Text.eq_of_append_cons_eq hfile hfile' hchars)

/-- Units with distinct ids that are all new are added as they are. -/
theorem add_units_eq_append (hdistinct : DistinctUnits found)
    (hnew : ∀ c ∈ found, ∀ u ∈ units, u.id ≠ c.id) : Run.addUnits units found = units ++ found := by
  unfold Run.addUnits
  induction found generalizing units with
  | nil => simp
  | cons c found ih =>
      obtain ⟨hc, hfound⟩ := List.forall_mem_cons.mp hnew
      rw [DistinctUnits, List.map_cons, List.nodup_cons] at hdistinct
      have hany : ¬units.any (·.id == c.id) = true := by
        simpa using hc
      rw [List.foldl_cons, if_neg hany, ih hdistinct.2, List.append_assoc, List.singleton_append]
      intro c' hc' u hu
      rcases List.mem_append.mp hu with hu | hu
      · exact hfound c' hc' u hu
      · rw [List.mem_singleton.mp hu]
        exact fun heq => hdistinct.1 (List.mem_map.mpr ⟨c', hc', heq.symm⟩)

/-- Units of one file with distinct names and known grades. -/
structure UnitsOf (file : String) (units : List Component) : Prop where
  ids : ∀ c ∈ units, c.id = file ++ ":" ++ c.name
  names : (units.map Component.name).Nodup
  grades : ∀ c ∈ units, c.complexity.rank?.isSome = true

theorem UnitsOf.distinct (h : UnitsOf file units) : DistinctUnits units := by
  have hids : units.map Component.id = (units.map Component.name).map (file ++ ":" ++ ·) := by
    rw [List.map_map]
    exact List.map_congr_left h.ids
  rw [DistinctUnits, hids]
  refine h.names.map fun a b hab => ?_
  simpa using hab

theorem units_of_nil (file : String) : UnitsOf file [] where
  ids := List.forall_mem_nil _
  names := List.nodup_nil
  grades := List.forall_mem_nil _

theorem units_of_document (d : Document) (o : DocumentOrigin) : UnitsOf o.file (d.units o) where
  ids c hc := (assembled_units d o c hc).id_eq
  names := nodup_unit_names d o
  grades c hc := (assembled_units d o c hc).has_rank

end Ids

section Files

variable {context : RunContext} {s t : RunState} {root : Path} {coverage : Assoc Float}

/-- The path of a file below the root, as a text. -/
def relativeText (root path : Path) : String := ((Path.below? root path).getD path).toText

/-- The units found in a file are its own, with distinct names. -/
theorem analyze_file_units (path root : Path) (coverage : Assoc Float) :
    (Run.analyzeFile path root coverage).Meets context s
      (fun result _ => UnitsOf (relativeText root path) result.1) fun _ => True := by
  refine Run.meets_bind Run.meets_trivial fun read t _ => ?_
  split
  · refine Run.meets_read_bind ?_
    split
    · exact Run.meets_pure (units_of_nil _)
    · exact Run.meets_fault trivial
  · refine Run.meets_bind Run.meets_trivial fun document t _ => ?_
    have hunits : ∀ o : DocumentOrigin, o.file = relativeText root path →
        UnitsOf (relativeText root path) (document.units o) :=
      fun o hfile => hfile ▸ units_of_document document o
    exact Run.meets_pure (hunits _ rfl)

theorem units_of_analyze_file {path : Path} {result : List Component × List DiscoveryIssue}
    (h : (Run.analyzeFile path root coverage).exec context s = (.ok result, t)) :
    UnitsOf (relativeText root path) result.1 := by
  have hmeets : (Run.analyzeFile path root coverage).Meets context s
      (fun result _ => UnitsOf (relativeText root path) result.1) fun _ => True :=
    analyze_file_units path root coverage
  rwa [Run.Meets, h] at hmeets

/-- What a discovery does with one file. -/
def Run.analyzeNext (root : Path) (coverage : Assoc Float) (path : Path) :
    Run (List Component × List DiscoveryIssue) := do
  Run.checkpoint (← Run.place none (some "discovery") none none)
  Run.analyzeFile path root coverage

/-- What is told of files is told of each of them. -/
theorem units_of_told {paths : List Path} {told : List (List Component × List DiscoveryIssue)}
    (h : (paths.mapM (Run.analyzeNext root coverage)).exec context s = (.ok told, t)) :
    ∀ result ∈ told, ∃ path ∈ paths, UnitsOf (relativeText root path) result.1 := by
  induction paths generalizing told s with
  | nil =>
      cases h
      exact List.forall_mem_nil _
  | cons path rest ih =>
      rw [List.mapM_cons] at h
      obtain ⟨result, u, hfirst, h⟩ := Run.exec_bind_eq_ok.mp h
      obtain ⟨later, v, hrest, h⟩ := Run.exec_bind_eq_ok.mp h
      cases h
      obtain ⟨_, _, -, hfirst⟩ := Run.exec_bind_eq_ok.mp hfirst
      obtain ⟨_, _, -, hfirst⟩ := Run.exec_bind_eq_ok.mp hfirst
      refine List.forall_mem_cons.mpr ⟨⟨path, List.mem_cons_self, units_of_analyze_file hfirst⟩, ?_⟩
      intro other hother
      obtain ⟨path', hpath', hunits⟩ := ih hrest other hother
      exact ⟨path', List.mem_cons_of_mem path hpath', hunits⟩

/-- The units and issues of files, after others. -/
def collected (units : List Component) (issues : List DiscoveryIssue)
    (told : List (List Component × List DiscoveryIssue)) : List Component × List DiscoveryIssue :=
  (units ++ told.flatMap Prod.fst, issues ++ told.flatMap Prod.snd)

/-- No unit is dropped if the files have different paths without colons, and none of them is the file
of a unit found before. -/
theorem analyze_sources_eq {paths : List Path} {units : List Component}
    (hdistinct : (paths.map (relativeText root)).Nodup)
    (hcolon : ∀ path ∈ paths, ':' ∉ (relativeText root path).toList)
    (hnew : ∀ path ∈ paths, ∀ u ∈ units, ∀ name, u.id ≠ relativeText root path ++ ":" ++ name)
    (issues : List DiscoveryIssue) :
    (Run.analyzeSources root coverage paths units issues).exec context s =
      (collected units issues <$> paths.mapM (Run.analyzeNext root coverage)).exec context s := by
  induction paths generalizing units issues s with
  | nil => simp [Run.analyzeSources, collected]
  | cons path rest ih =>
      rw [List.map_cons, List.nodup_cons] at hdistinct
      obtain ⟨hpath, hrest⟩ := List.forall_mem_cons.mp hcolon
      obtain ⟨hfirst, hlater⟩ := List.forall_mem_cons.mp hnew
      rw [Run.analyzeSources, List.mapM_cons, Run.analyzeNext]
      simp only [map_bind, bind_assoc, map_pure]
      refine Run.exec_bind_congr fun place u _ => Run.exec_bind_congr fun _ v _ =>
        Run.exec_bind_congr fun result w hresult => ?_
      obtain ⟨found, told⟩ := result
      have hunits := units_of_analyze_file hresult
      have hadd : Run.addUnits units found = units ++ found :=
        add_units_eq_append hunits.distinct fun c hc u hu => by
          rw [hunits.ids c hc]
          exact hfirst u hu c.name
      dsimp only
      rw [hadd, ih hdistinct.2 hrest]
      · have hcollected : ∀ later, collected (units ++ found) (issues ++ told) later =
            collected units issues ((found, told) :: later) := fun later => by simp [collected]
        simp only [map_eq_pure_bind, hcollected]
      · intro other hother u hu name
        rcases List.mem_append.mp hu with hu | hu
        · exact hlater other hother u hu name
        · rw [hunits.ids u hu]
          intro heq
          rw [eq_of_keyed_eq hpath (hrest other hother) heq] at hdistinct
          exact hdistinct.1 (List.mem_map_of_mem hother)

/-- No name below a path has a colon. -/
def Disk.ColonFree (d : Disk) (root : Path) : Prop :=
  ∀ rest, root.join ⟨"", rest⟩ ∈ d.below root → ∀ part ∈ rest, ':' ∉ part.toList

theorem relative_text_join {rest : List String} (hrest : rest ≠ []) :
    relativeText root (root.join ⟨"", rest⟩) = String.intercalate "/" rest := by
  rw [relativeText, below_eq_some.mpr ⟨rest, rfl, rfl⟩, Option.getD_some, Path.toText]
  simp [hrest]

/-- Names without slashes can be read off the path that they make up. -/
theorem intercalate_slash_inj {rest rest' : List String} (hrest : rest ≠ []) (hrest' : rest' ≠ [])
    (h : ∀ part ∈ rest, '/' ∉ part.toList) (h' : ∀ part ∈ rest', '/' ∉ part.toList)
    (heq : String.intercalate "/" rest = String.intercalate "/" rest') : rest = rest' := by
  have hsplit : ∀ parts : List String, parts ≠ [] → (∀ part ∈ parts, '/' ∉ part.toList) →
      Text.splitChars ['/'] (String.intercalate "/" parts).toList = parts.map String.toList := by
    intro parts hparts hslash
    rw [String.toList_intercalate]
    exact Text.split_chars_intercalate (by simpa using hparts) (List.forall_mem_map.mpr hslash)
  have hchars := hsplit rest hrest h
  rw [heq, hsplit rest' hrest' h'] at hchars
  exact (List.map_injective_iff.mpr (fun _ _ => String.toList_inj.mp) hchars).symm

/-- What stands below a path extends it by names of an entry. -/
theorem exists_entry_of_mem_below {path : Path} (h : path ∈ s.disk.below root) :
    ∃ rest ≠ [], path = root.join ⟨"", rest⟩ ∧
      ∃ entry ∈ s.disk.entries, ∀ part ∈ rest, part ∈ entry.1.parts := by
  cases hroot : s.disk.isDirectory root with
  | false =>
      rw [below_of_not_directory hroot] at h
      exact absurd h List.not_mem_nil
  | true =>
      obtain ⟨rest, hrest, rfl, hentry⟩ := (mem_below hroot).mp h
      obtain ⟨entry, hentry, heq⟩ := List.mem_map.mp hentry
      refine ⟨rest, hrest, rfl, entry, hentry, fun part hpart => ?_⟩
      rw [heq]
      exact List.mem_append_right _ hpart

theorem exists_names_of_mem_below (htree : s.disk.IsTree) {path : Path}
    (h : path ∈ s.disk.below root) :
    ∃ rest ≠ [], path = root.join ⟨"", rest⟩ ∧ ∀ part ∈ rest, '/' ∉ part.toList := by
  obtain ⟨rest, hrest, rfl, entry, hentry, hparts⟩ := exists_entry_of_mem_below h
  exact ⟨rest, hrest, rfl, fun part hpart => htree.names entry hentry part (hparts part hpart)⟩

/-- On a disk without colons there are none below any path. -/
theorem colon_free_of_entries (h : ∀ entry ∈ s.disk.entries, ∀ part ∈ entry.1.parts,
    ':' ∉ part.toList) (root : Path) : s.disk.ColonFree root := by
  intro rest hrest part hpart
  obtain ⟨rest', -, heq, entry, hentry, hparts⟩ := exists_entry_of_mem_below hrest
  obtain rfl := join_relative_inj.mp heq
  exact h entry hentry part (hparts part hpart)

theorem nodup_relative_texts (htree : s.disk.IsTree) {files : List Path}
    (h : files.Sublist (s.disk.below root)) : (files.map (relativeText root)).Nodup := by
  refine List.Nodup.map_on (fun path hpath other hother heq => ?_) (h.nodup (nodup_below htree root))
  obtain ⟨rest, hrest, rfl, hslash⟩ := exists_names_of_mem_below htree (h.subset hpath)
  obtain ⟨rest', hrest', rfl, hslash'⟩ := exists_names_of_mem_below htree (h.subset hother)
  rw [relative_text_join hrest, relative_text_join hrest'] at heq
  rw [intercalate_slash_inj hrest hrest' hslash hslash' heq]

theorem colon_free_relative_text (htree : s.disk.IsTree) (hcolon : s.disk.ColonFree root)
    {path : Path} (h : path ∈ s.disk.below root) : ':' ∉ (relativeText root path).toList := by
  obtain ⟨rest, hrest, rfl, -⟩ := exists_names_of_mem_below htree h
  rw [relative_text_join hrest, String.toList_intercalate]
  exact Text.not_mem_intercalate (by decide) (List.forall_mem_map.mpr (hcolon rest h))

end Files

section Discovery

variable {context : RunContext} {s t : RunState} {root : Path}

/-- A discovery that keeps every unit. -/
def Run.discoverEach (root : Path) : Run DiscoveryResult := do
  let root ← Run.use ((← get).disk.resolve root)
  let (files, issues) ← Run.scanFiles root
  let coverage ← Run.loadCoverage root
  let told ← files.mapM (Run.analyzeNext root coverage)
  let components := told.flatMap Prod.fst
  let statistics ← Run.use (discoveryStatistics components files.length)
  return ⟨root.toText, components, issues ++ told.flatMap Prod.snd, statistics⟩

/-- Only the scan of a directory succeeds, and it finds some of what stands below. -/
theorem sublist_of_scan_files {found : List Path × List DiscoveryIssue}
    (h : (Run.scanFiles root).exec context s = (.ok found, t)) :
    t = s ∧ found.1.Sublist (s.disk.below root) := by
  obtain ⟨rfl, hscan⟩ := scan_files_eq (is_directory_of_scan_files h) h
  exact ⟨rfl, hscan.sublist.trans (wanted_sublist _ _ _)⟩

theorem locate_of_resolve {d : Disk} {place : Path} (h : d.resolve root = .ok place) :
    place = d.locate root := by
  unfold Disk.resolve at h
  split at h
  · cases h
  · exact (Except.ok.inj h).symm

/-- A discovery keeps every unit. -/
theorem discover_eq_each (htree : s.disk.IsTree) (hcolon : s.disk.ColonFree (s.disk.locate root)) :
    (Run.discover root).exec context s = (Run.discoverEach root).exec context s := by
  unfold Run.discover Run.discoverEach
  refine Run.exec_bind_congr fun u v hget => ?_
  cases hget
  refine Run.exec_bind_congr fun place v hplace => ?_
  obtain ⟨hplace, rfl⟩ := Run.exec_use_eq_ok.mp hplace
  refine Run.exec_bind_congr fun found v hscan => ?_
  obtain ⟨files, issues⟩ := found
  obtain ⟨rfl, hfiles⟩ := sublist_of_scan_files hscan
  refine Run.exec_bind_congr fun coverage u _ => ?_
  obtain rfl := locate_of_resolve hplace
  dsimp only
  have hsources : (Run.analyzeSources (v.disk.locate root) coverage files [] issues).exec context u =
      (collected [] issues <$>
        files.mapM (Run.analyzeNext (v.disk.locate root) coverage)).exec context u :=
    analyze_sources_eq (nodup_relative_texts htree hfiles)
      (fun path hpath => colon_free_relative_text htree hcolon (hfiles.subset hpath))
      (fun _ _ _ hu => absurd hu List.not_mem_nil) issues
  rw [Run.exec_bind_left_congr hsources, bind_map_left]
  rfl

/-- The units of every file are graded, so they can be counted. -/
theorem exists_statistics {paths : List Path} {coverage : Assoc Float}
    {told : List (List Component × List DiscoveryIssue)}
    (h : (paths.mapM (Run.analyzeNext root coverage)).exec context s = (.ok told, t)) (files : Int) :
    ∃ statistics, discoveryStatistics (told.flatMap Prod.fst) files = .ok statistics := by
  have hgrades : ∀ c ∈ told.flatMap Prod.fst, ∃ rank, gradeNumber c = .ok rank := by
    intro c hc
    obtain ⟨result, hresult, hc⟩ := List.mem_flatMap.mp hc
    obtain ⟨path, -, hunits⟩ := units_of_told h result hresult
    obtain ⟨rank, hrank⟩ := Option.isSome_iff_exists.mp (hunits.grades c hc)
    exact ⟨rank, by rw [gradeNumber, hrank]⟩
  obtain ⟨ranks, hranks⟩ := exists_map_m_eq_ok.mpr hgrades
  exact ⟨_, bind_eq_ok.mpr ⟨ranks, hranks, rfl⟩⟩

/-- A scan takes the first files that are looked for, and a discovery keeps all units that are found
in them: it does what a discovery does that drops none, the ids of its units are distinct, and it
succeeds if the files can be looked at. -/
theorem discovers_all_units (context : RunContext) (htree : s.disk.IsTree)
    (hcolon : s.disk.ColonFree (s.disk.locate root)) :
    (∀ place, s.disk.isDirectory place = true → ∃ wanted, ScansFirst context s place wanted) ∧
      (Run.discover root).exec context s = (Run.discoverEach root).exec context s ∧
      (∀ found t, (Run.discover root).exec context s = (.ok found, t) →
        DistinctUnits found.components) ∧
      ∀ place files issues coverage told u t, s.disk.resolve root = .ok place →
        (Run.scanFiles place).exec context s = (.ok (files, issues), s) →
        (Run.loadCoverage place).exec context s = (.ok coverage, u) →
        (files.mapM (Run.analyzeNext place coverage)).exec context u = (.ok told, t) →
        ∃ found, (Run.discover root).exec context s = (.ok found, t) ∧
          found.components = told.flatMap Prod.fst ∧
          found.issues = issues ++ told.flatMap Prod.snd := by
  refine ⟨fun place hplace => ⟨_, scans_first context htree hplace⟩, discover_eq_each htree hcolon,
    fun found t => Run.discover_distinct, ?_⟩
  intro place files issues coverage told u t hplace hscan hcoverage htold
  obtain ⟨statistics, hstatistics⟩ := exists_statistics htold files.length
  refine ⟨⟨place.toText, told.flatMap Prod.fst, issues ++ told.flatMap Prod.snd, statistics⟩, ?_, rfl,
    rfl⟩
  rw [discover_eq_each htree hcolon]
  unfold Run.discoverEach
  rw [Run.exec_bind_of_ok Run.exec_get, hplace, Run.exec_bind_of_ok (Run.exec_use_ok place),
    Run.exec_bind_of_ok hscan]
  dsimp only
  rw [Run.exec_bind_of_ok hcoverage, Run.exec_bind_of_ok htold, hstatistics,
    Run.exec_bind_of_ok (Run.exec_use_ok statistics)]
  rfl

end Discovery

/-- The tree of a file with one function component. -/
def panelTree (name : String) : Node :=
  .mk { kind := "program" }
    [.mk { kind := "function_declaration" }
      [.mk { kind := "identifier", field := "name", text := name } []]]

/-- A run in which every text is read as such a file, and two files may be taken. -/
def panelContext : RunContext :=
  { settings := { discovery := { maxFiles := .ok 2 } }
    grammar := fun _ text => panelTree text }

/-- A project with three files of which two come first, a test and an installed package. -/
def panelState : RunState :=
  { disk :=
      { entries := [(⟨"/", ["proj"]⟩, .directory),
          (⟨"/", ["proj", "Main.test.tsx"]⟩, .file (Text.encodeUtf8 "Main")),
          (⟨"/", ["proj", "Main.tsx"]⟩, .file (Text.encodeUtf8 "Main")),
          (⟨"/", ["proj", "Side.tsx"]⟩, .file (Text.encodeUtf8 "Side")),
          (⟨"/", ["proj", "node_modules"]⟩, .directory),
          (⟨"/", ["proj", "node_modules", "Top.tsx"]⟩, .file (Text.encodeUtf8 "Top")),
          (⟨"/", ["proj", "parts"]⟩, .directory),
          (⟨"/", ["proj", "parts", "Main.tsx"]⟩, .file (Text.encodeUtf8 "Main"))] } }

/-- The scan of this project takes two files and tells that there are more. -/
theorem scan_panel_files :
    (Run.scanFiles ⟨"/", ["proj"]⟩).exec panelContext panelState =
      (.ok ([⟨"/", ["proj", "Main.tsx"]⟩, ⟨"/", ["proj", "Side.tsx"]⟩],
        [limitIssue ⟨"/", ["proj"]⟩ 2]), panelState) := by
  have hroot : panelState.disk.isDirectory ⟨"/", ["proj"]⟩ = true := by decide
  have hpaths : (panelState.disk.entries.map Prod.fst).filterMap
      (pathBelow (panelState.disk.locate ⟨"/", ["proj"]⟩).parts ⟨"/", ["proj"]⟩) =
      (panelState.disk.entries.map Prod.fst).drop 1 := by decide
  have hbelow : panelState.disk.below ⟨"/", ["proj"]⟩ =
      (panelState.disk.entries.map Prod.fst).drop 1 := by
    rw [below_eq hroot, hpaths]
    exact List.mergeSort_of_pairwise (by decide)
  rw [scan_files_of_directory hroot rfl, candidateFiles, hbelow]
  rfl

/-- The units of the first two files are found, and it is told that there are more. -/
theorem discovers_all_units_panel :
    ∃ found t, (Run.discover ⟨"", []⟩).exec panelContext panelState = (.ok found, t) ∧
      (Run.discoverEach ⟨"", []⟩).exec panelContext panelState = (.ok found, t) ∧
      found.components.map Component.id = ["Main.tsx:Main", "Side.tsx:Side"] ∧
      found.issues = [limitIssue ⟨"/", ["proj"]⟩ 2] ∧ DistinctUnits found.components := by
  have htree : panelState.disk.IsTree :=
    ⟨by unfold Disk.IsProper; decide, by decide, by decide⟩
  have hcolon : panelState.disk.ColonFree (panelState.disk.locate ⟨"", []⟩) :=
    colon_free_of_entries (by decide) _
  obtain ⟨-, heach, hdistinct, hall⟩ := discovers_all_units panelContext htree hcolon
  have hcoverage : (Run.loadCoverage ⟨"/", ["proj"]⟩).exec panelContext panelState =
      (.ok [], panelState) := rfl
  have htold : ((([⟨"/", ["proj", "Main.tsx"]⟩, ⟨"/", ["proj", "Side.tsx"]⟩] : List Path).mapM
      (Run.analyzeNext ⟨"/", ["proj"]⟩ [])).exec panelContext panelState).1.toOption.map
        (fun told => ((told.flatMap Prod.fst).map Component.id, told.flatMap Prod.snd)) =
      some (["Main.tsx:Main", "Side.tsx:Side"], []) := by decide
  obtain ⟨told, htold, htexts⟩ := Option.map_eq_some_iff.mp htold
  obtain ⟨t, htold⟩ := Run.exists_exec_of_to_option htold
  obtain ⟨hids, hissues⟩ := Prod.mk.inj htexts
  obtain ⟨found, hfound, hcomponents, htells⟩ :=
    hall ⟨"/", ["proj"]⟩ _ _ [] told panelState t rfl scan_panel_files hcoverage htold
  rw [← hcomponents] at hids
  rw [hissues, List.append_nil] at htells
  exact ⟨found, t, hfound, heach ▸ hfound, hids, htells, hdistinct found t hfound⟩

end ComponentMigration
