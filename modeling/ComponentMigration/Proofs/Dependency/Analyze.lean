import ComponentMigration.Proofs.Dependency.Gathering
import ComponentMigration.Proofs.Fault.Recovery

/-!
# Consistency of a dependency analysis

Whenever an analysis of units with distinct ids returns, its graph, its details and its measures
agree, and files that could not be read or have unreadable places are accounted for by warnings
(`analyze_consistent`).  Which files these are is told by the readings that the run made.
-/

namespace ComponentMigration

/-- The files that could not be read or have unreadable places. -/
def skippedFiles (readings : List FileReading) : List String :=
  (readings.filter (·.isSkipped)).map (·.file)

/-- Readings that account for all units: every file is read once, and every unit belongs to the
reading of its file. -/
structure ReadingsOf (components : List Component) (readings : List FileReading) : Prop where
  distinct : (readings.map (·.file)).Nodup
  filed : ∀ r ∈ readings, ∀ u ∈ r.units, u.filePath = r.file
  complete : (readings.flatMap (·.units)).Perm components

namespace ReadingsOf

variable {components : List Component} {readings : List FileReading} {r : FileReading}

/-- Reading the files of units one after the other accounts for all of them. -/
theorem of_entries
    (h : readings.map (fun r => (r.file, r.units)) = (unitsByFile components).sorted) :
    ReadingsOf components readings := by
  obtain ⟨hgrouped, hcomplete⟩ := units_by_file_grouped components
  have hsorted : (unitsByFile components).sorted.Perm (unitsByFile components) :=
    List.mergeSort_perm _ _
  refine ⟨?_, ?_, ?_⟩
  · have hfiles : readings.map (·.file) = (unitsByFile components).sorted.map (·.1) := by
      rw [← h, List.map_map]
      rfl
    rw [hfiles]
    exact (hsorted.map _).nodup_iff.mpr hgrouped.distinct
  · intro r hr
    have hentry : (r.file, r.units) ∈ (unitsByFile components).sorted := by
      rw [← h]
      exact List.mem_map_of_mem hr
    exact hgrouped.filed r.file r.units (hsorted.subset hentry)
  · have hunits : readings.flatMap (·.units) =
        (unitsByFile components).sorted.flatMap (·.2) := by
      rw [← h, List.flatMap_map]
    rw [hunits]
    exact (hsorted.flatMap_right _).trans hcomplete

theorem file_mem_skipped_files_iff (h : ReadingsOf components readings) (hr : r ∈ readings) :
    r.file ∈ skippedFiles readings ↔ r.isSkipped = true := by
  rw [skippedFiles, List.mem_map]
  refine ⟨?_, fun hskipped => ⟨r, List.mem_filter.mpr ⟨hr, hskipped⟩, rfl⟩⟩
  rintro ⟨r', hr', hfile⟩
  obtain ⟨hr', hskipped⟩ := List.mem_filter.mp hr'
  exact List.inj_on_of_nodup_map h.distinct hr' hr hfile ▸ hskipped

theorem analyzed_ids_subset (h : ReadingsOf components readings) :
    analyzedIds readings ⊆ components.map (·.id) := by
  intro id hid
  obtain ⟨r, hr, hunit⟩ := List.mem_flatMap.mp hid
  obtain ⟨u, hu, rfl⟩ := List.mem_map.mp hunit
  exact List.mem_map_of_mem
    (h.complete.subset (List.mem_flatMap.mpr ⟨r, List.mem_of_mem_filter hr, hu⟩))

/-- Units that are analysed do not belong to files that are skipped. -/
theorem not_mem_skipped_files (h : ReadingsOf components readings)
    (hids : (components.map (·.id)).Nodup) {c : Component} (hc : c ∈ components)
    (hid : c.id ∈ analyzedIds readings) : c.filePath ∉ skippedFiles readings := by
  obtain ⟨r, hr, hunit⟩ := List.mem_flatMap.mp hid
  obtain ⟨u, hu, hsame⟩ := List.mem_map.mp hunit
  obtain ⟨hr, hread⟩ := List.mem_filter.mp hr
  have hmem : u ∈ components := h.complete.subset (List.mem_flatMap.mpr ⟨r, hr, hu⟩)
  obtain rfl : u = c := List.inj_on_of_nodup_map hids hmem hc hsame
  rw [h.filed r hr u hu, h.file_mem_skipped_files_iff hr]
  simpa using hread

/-- There are as many warnings as there are units in files that are skipped. -/
theorem warnings_length (h : ReadingsOf components readings) :
    (readings.flatMap (·.warnings)).length =
      (components.filter fun c => c.filePath ∈ skippedFiles readings).length := by
  rw [← (h.complete.filter _).length_eq, List.filter_flatMap, List.length_flatMap,
    List.length_flatMap]
  refine congrArg List.sum (List.map_congr_left fun r hr => ?_)
  rw [r.warnings_length]
  split
  · next hskipped =>
      rw [List.filter_eq_self.mpr]
      intro u hu
      rw [decide_eq_true_eq, h.filed r hr u hu, h.file_mem_skipped_files_iff hr]
      exact hskipped
  · next hread =>
      rw [List.filter_eq_nil_iff.mpr]
      · rfl
      · intro u hu
        rw [decide_eq_true_eq, h.filed r hr u hu, h.file_mem_skipped_files_iff hr]
        exact hread

end ReadingsOf

/-- Graph, details and measures of an analysis of units agree. -/
structure DependencyAnalysis.Consistent (a : DependencyAnalysis) (ids : List String) : Prop where
  counted : a.graph.Counted
  units : ids ⊆ a.graph.ids
  sources : ∀ e ∈ a.graph.edges, e.source ∈ ids
  distinct : a.graph.ends.Nodup
  direct : a.graph.ends.Perm ((a.details.filter (·.level != .transitive)).map (·.ends))
  total : a.metrics.totalDependencies = a.graph.edges.length
  sorts : a.metrics.totalDependencies =
    a.metrics.externalDependencies + a.metrics.internalDependencies

namespace AnalysisOf

variable {components : List Component} {g : Gathered} {warnings ids : List String}
  {a : DependencyAnalysis}

/-- The edges join what the gathered details join. -/
theorem ends_perm (h : AnalysisOf components g.details warnings a) (hwithin : g.Within ids)
    (hsub : ids ⊆ components.map (·.id)) : a.graph.ends.Perm (g.details.map (·.ends)) := by
  rw [h.ends]
  exact (build_graph_counted fun d hd => hsub (hwithin.sources d hd)).2.1

/-- Edges lead away from units whose details were gathered. -/
theorem source_mem (h : AnalysisOf components g.details warnings a) (hwithin : g.Within ids)
    (hsub : ids ⊆ components.map (·.id)) {e : GraphEdge} (he : e ∈ a.graph.edges) :
    e.source ∈ ids := by
  have hmem : e.ends ∈ g.details.map (·.ends) :=
    (h.ends_perm hwithin hsub).subset (List.mem_map_of_mem he)
  obtain ⟨d, hd, heq⟩ := List.mem_map.mp hmem
  have hsource : d.source = e.source := congrArg Prod.fst heq
  exact hsource ▸ hwithin.sources d hd

theorem consistent (h : AnalysisOf components g.details warnings a) (hwithin : g.Within ids)
    (hsub : ids ⊆ components.map (·.id)) : a.Consistent (components.map (·.id)) := by
  obtain ⟨hcounted, -, hunits⟩ := build_graph_counted fun d hd => hsub (hwithin.sources d hd)
  have hdirect : a.graph.ends.Perm (g.details.map (·.ends)) := h.ends_perm hwithin hsub
  have hlength : (a.details.filter (·.level != .transitive)).length = a.graph.edges.length := by
    have hdetails := congrArg List.length h.details
    have hedges := hdirect.length_eq
    simp only [List.length_map, DependencyGraph.ends] at hdetails hedges
    rw [hdetails, hedges]
  refine ⟨?_, ?_, fun e he => hsub (h.source_mem hwithin hsub he), ?_, ?_, ?_, ?_⟩
  · exact hcounted.transport (h.ends ▸ List.Perm.refl _) (h.nodes ▸ List.Perm.refl _)
  · rw [DependencyGraph.ids, h.nodes]
    exact hunits
  · exact hdirect.nodup_iff.mpr hwithin.distinct
  · rw [h.details]
    exact hdirect
  · rw [h.metrics, ← hlength]
    rfl
  · rw [h.metrics]
    show (List.length _ : Int) = List.length _ + List.length _
    rw [← Int.natCast_add, ← List.length_eq_length_filter_add]

end AnalysisOf

section AtHand

variable {documents : Assoc Document} {primary : Assoc String} {context : RunContext}
  {s : RunState} {file : String} {units : List Component}

/-- Recording unreadable places only writes to the log if nothing observes the run. -/
theorem record_broken_returns (hobservers : context.observers = []) (reason : String) :
    ∃ t, (Run.recordBroken file reason units).exec context s = (.ok (), t) ∧
      t.token = s.token := by
  induction units generalizing s with
  | nil => exact ⟨s, rfl, rfl⟩
  | cons u rest ih =>
      rw [Run.recordBroken, Run.exec_bind]
      show ∃ t, (Run.record _ >>= _).exec context s = (.ok (), t) ∧ t.token = s.token
      rw [Run.exec_bind, Run.exec_record, hobservers]
      obtain ⟨t, hrest, htoken⟩ := ih (s := { s with log := (s.log.add _).2 })
      exact ⟨t, hrest, htoken⟩

/-- A file whose document is at hand is read as long as the run is not cancelled. -/
theorem read_file_returns (hobservers : context.observers = [])
    (hcancelled : s.token.isCancelled = false) (hdeadline : s.token.deadline = none)
    {d : Document} (hd : documents.get? ((units.head?.map (·.absolutePath)).getD "") = some d) :
    ∃ t, (Run.readFile documents file units).exec context s = (.ok ⟨file, units, .ok d⟩, t) ∧
      t.token = s.token := by
  have hcheck : ∀ place, (Run.checkpoint place).exec context s = (.ok (), s) := by
    intro place
    simp [Run.checkpoint, Run.exec_bind, Token.check, hcancelled, hdeadline]
  have hdocument : (Run.documentOf documents file
      ((units.head?.map (·.absolutePath)).getD "")).exec context s = (.ok (.ok d), s) := by
    simp only [Run.documentOf, hd, Run.exec_pure]
  obtain ⟨t, hrecord, htoken⟩ : ∃ t,
      (Run.recordObstacle ⟨file, units, .ok d⟩).exec context s = (.ok (), t) ∧
        t.token = s.token := by
    unfold Run.recordObstacle
    split
    · exact record_broken_returns hobservers _
    · exact ⟨s, rfl, rfl⟩
  refine ⟨t, ?_, htoken⟩
  rw [Run.readFile, Run.exec_bind]
  show (Run.checkpoint _ >>= _).exec context s = _
  rw [Run.exec_bind, hcheck]
  show (Run.documentOf documents file _ >>= _).exec context s = _
  rw [Run.exec_bind, hdocument]
  show (Run.recordObstacle _ >>= _).exec context s = _
  rw [Run.exec_bind, hrecord]
  rfl

/-- Files whose documents are at hand are gone through to the end. -/
theorem gather_files_returns (primary : Assoc String) (hobservers : context.observers = [])
    (hcancelled : s.token.isCancelled = false) (hdeadline : s.token.deadline = none)
    {bound : Quantity} (hbound : context.settings.analysis.highRiskBindings = .ok bound)
    {entries : List (String × List Component)} (state : AnalysisState)
    (hentries : ∀ entry ∈ entries,
      ∃ d, documents.get? ((entry.2.head?.map (·.absolutePath)).getD "") = some d) :
    ∃ state' t, (entries.foldlM (Run.gatherFile documents primary) state).exec context s =
      (.ok state', t) := by
  induction entries generalizing state s with
  | nil => exact ⟨state, s, rfl⟩
  | cons entry rest ih =>
      obtain ⟨d, hd⟩ := hentries entry List.mem_cons_self
      obtain ⟨t, hread, htoken⟩ := read_file_returns hobservers hcancelled hdeadline hd
      obtain ⟨middle, hmiddle⟩ : ∃ middle,
          (Run.gatherFile documents primary state entry).exec context s = (.ok middle, t) := by
        rw [Run.gatherFile, Run.exec_bind, hread]
        dsimp only
        split
        · exact ⟨_, rfl⟩
        · rw [Run.exec_bind, Run.exec_read]
          show ∃ middle, (Run.use context.settings.analysis.highRiskBindings >>= _).exec context t =
            (.ok middle, t)
          rw [hbound, Run.exec_bind, Run.exec_use_ok]
          exact ⟨_, rfl⟩
      rw [List.foldlM_cons, Run.exec_bind, hmiddle]
      exact ih (htoken ▸ hcancelled) (htoken ▸ hdeadline) middle fun entry' hentry' =>
        hentries entry' (List.mem_cons_of_mem _ hentry')

/-- An analysis without clusters returns if all documents are at hand and the run is not
cancelled. -/
theorem analyze_returns (hobservers : context.observers = [])
    (hcancelled : s.token.isCancelled = false) (hdeadline : s.token.deadline = none)
    {bound maxDepth : Quantity} (hbound : context.settings.analysis.highRiskBindings = .ok bound)
    (hdepth : context.settings.analysis.maxDepth = .ok maxDepth)
    (hclusters : context.settings.analysis.generateClusters = false) {components : List Component}
    (hentries : ∀ entry ∈ unitsByFile components,
      ∃ d, documents.get? ((entry.2.head?.map (·.absolutePath)).getD "") = some d) :
    ∃ a t, (Run.analyze components documents).exec context s = (.ok a, t) := by
  have hsorted : (unitsByFile components).sorted.Perm (unitsByFile components) :=
    List.mergeSort_perm _ _
  obtain ⟨state, t, hgather⟩ := gather_files_returns (primaryUnits (unitsByFile components))
    hobservers hcancelled hdeadline hbound {} fun entry hentry =>
      hentries entry (hsorted.subset hentry)
  obtain ⟨a, ha⟩ : ∃ a, analysisOf context.settings.analysis components state.gathered
      state.warnings = .ok a := by
    unfold analysisOf AnalysisSettings.clustersOf AnalysisSettings.transitiveOf
    rw [hdepth, hclusters]
    split <;> exact ⟨_, rfl⟩
  refine ⟨a, t, ?_⟩
  rw [Run.analyze, Run.exec_bind, hgather]
  show (Run.use _).exec context t = _
  rw [ha]
  rfl

end AtHand

/-- Whenever an analysis of units with distinct ids returns, graph, details and measures agree.
Units of files that could not be read or have unreadable places have no dependencies, and there is
a warning for each of them. -/
theorem analyze_consistent {components : List Component} {documents : Assoc Document}
    {context : RunContext} {s t : RunState} {a : DependencyAnalysis}
    (hids : (components.map (·.id)).Nodup)
    (hrun : (Run.analyze components documents).exec context s = (.ok a, t)) :
    a.Consistent (components.map (·.id)) ∧
      ∃ readings, ((unitsByFile components).sorted.mapM fun entry =>
          Run.readFile documents entry.1 entry.2).exec context s = (.ok readings, t) ∧
        (∀ c ∈ components, c.filePath ∈ skippedFiles readings →
          ∀ n ∈ a.graph.nodes, n.id = c.id → n.outDegree = 0) ∧
        a.warnings.length =
          (components.filter fun c => c.filePath ∈ skippedFiles readings).length := by
  unfold Run.analyze at hrun
  obtain ⟨state, u, hgather, hrun⟩ := Run.exec_bind_eq_ok.mp hrun
  obtain ⟨_, u', hread, hrun⟩ := Run.exec_bind_eq_ok.mp hrun
  cases hread
  obtain ⟨hanalysis, rfl⟩ := Run.exec_use_eq_ok.mp hrun
  have hnone : AnalysisState.Tells {} [] :=
    ⟨⟨List.nodup_nil, by simp, by simp⟩, rfl⟩
  obtain ⟨readings, hreadings, hentries, htells⟩ := gather_files_tells hnone hgather
  rw [List.nil_append] at htells
  have hof : ReadingsOf components readings := ReadingsOf.of_entries hentries
  have hanalysis := analysis_of_eq_ok (fun d hd => by simp [htells.gathered.direct d hd]) hanalysis
  have hconsistent : a.Consistent (components.map (·.id)) :=
    hanalysis.consistent htells.gathered hof.analyzed_ids_subset
  refine ⟨hconsistent, readings, hreadings, ?_, ?_⟩
  · intro c hc hskipped n hn hid
    -- An edge that leaves the unit would make it a unit of a file that was not skipped.
    have hnone : a.graph.outgoing n.id = [] := by
      rw [DependencyGraph.outgoing, List.filter_eq_nil_iff]
      intro e he hsource
      have hanalyzed : c.id ∈ analyzedIds readings := by
        rw [← hid, ← beq_iff_eq.mp hsource]
        exact hanalysis.source_mem htells.gathered hof.analyzed_ids_subset he
      exact hof.not_mem_skipped_files hids hc hanalyzed hskipped
    rw [hconsistent.counted.leaving n hn, hnone]
    rfl
  · rw [hanalysis.warnings, htells.warnings, hof.warnings_length]

/-- Two units, each in a file of its own. -/
def brokenAndPanel : List Component :=
  [{ id := "Broken", name := "Broken", filePath := "Broken.tsx", absolutePath := "/Broken.tsx" },
    { id := "Panel", name := "Panel", filePath := "Panel.tsx", absolutePath := "/Panel.tsx" }]

/-- Their documents: the first one has an unreadable place, the second imports the first. -/
def brokenAndPanelDocuments : Assoc Document :=
  [("/Broken.tsx", ⟨"/Broken.tsx", .tsx, "<",
      .mk { kind := "program" } [.mk { kind := "ERROR", text := "<" } []]⟩),
    ("/Panel.tsx", ⟨"/Panel.tsx", .tsx, "import './Broken'",
      .mk { kind := "program" } [.mk { kind := "import_statement" }
        [.mk { kind := "string", field := "source", text := "'./Broken'" } []]]⟩)]

theorem analyze_consistent_broken_and_panel :
    ∃ a t, (Run.analyze brokenAndPanel brokenAndPanelDocuments).exec
        { settings := { analysis := { generateClusters := false } }, grammar := fun _ _ => default }
        {} = (.ok a, t) ∧
      a.Consistent ["Broken", "Panel"] ∧ a.warnings.length = 1 ∧
      ∀ n ∈ a.graph.nodes, n.id = "Broken" → n.outDegree = 0 := by
  have hfiles : unitsByFile brokenAndPanel = brokenAndPanel.map fun c => (c.filePath, [c]) := rfl
  obtain ⟨a, t, hrun⟩ : ∃ a t, (Run.analyze brokenAndPanel brokenAndPanelDocuments).exec
      { settings := { analysis := { generateClusters := false } }, grammar := fun _ _ => default }
      {} = (.ok a, t) := by
    refine analyze_returns rfl rfl rfl rfl rfl rfl fun entry hentry => ?_
    rw [hfiles] at hentry
    obtain ⟨c, hc, rfl⟩ := List.mem_map.mp hentry
    rcases List.mem_cons.mp hc with rfl | hc
    · exact ⟨_, rfl⟩
    · rw [List.mem_singleton.mp hc]
      exact ⟨_, rfl⟩
  obtain ⟨hconsistent, readings, hreadings, hleaving, hwarnings⟩ :=
    analyze_consistent (by decide) hrun
  have hskipped : skippedFiles readings = ["Broken.tsx"] := by
    have hsorted : (unitsByFile brokenAndPanel).sorted = unitsByFile brokenAndPanel :=
      List.mergeSort_of_pairwise (List.pairwise_pair.mpr (by decide))
    rw [hsorted, hfiles, brokenAndPanel, List.map_cons, List.map_cons, List.map_nil,
      List.mapM_cons] at hreadings
    obtain ⟨⟨_, _, _⟩, u, hbroken, hreadings⟩ := Run.exec_bind_eq_ok.mp hreadings
    obtain ⟨rest, u', hrest, hreadings⟩ := Run.exec_bind_eq_ok.mp hreadings
    rw [List.mapM_cons] at hrest
    obtain ⟨⟨_, _, _⟩, u'', hpanel, hrest⟩ := Run.exec_bind_eq_ok.mp hrest
    obtain ⟨rfl, rfl, hdocument⟩ := read_file_eq_ok hbroken
    cases hdocument _ rfl
    obtain ⟨rfl, rfl, hdocument⟩ := read_file_eq_ok hpanel
    cases hdocument _ rfl
    cases hrest
    cases hreadings
    rfl
  refine ⟨a, t, hrun, hconsistent, ?_, ?_⟩
  · rw [hwarnings, hskipped]
    rfl
  · intro n hn hid
    refine hleaving _ List.mem_cons_self ?_ n hn hid
    rw [hskipped]
    exact List.mem_cons_self

end ComponentMigration
