import Mathlib.Data.List.Induction
import ComponentMigration.Proofs.Dependency.Analyze
import ComponentMigration.Proofs.Text.Order

/-!
# The order of units does not matter

Units may come in any order as long as those of each file keep theirs: the units of a file are
analysed in their order, and everything else is looked up by name or sorted.  `files_of_reordered`
says that the files come out the same, `gather_file_of_get?` that a file is analysed the same, and
`analysis_of_reordered` that what is gathered gives the same graph, measures and advice.
-/

namespace ComponentMigration

/-- Units in another order, in which those of each file keep theirs. -/
structure ReorderedByFile (units others : List Component) : Prop where
  perm : others.Perm units
  ordered : ∀ file, others.filter (·.filePath == file) = units.filter (·.filePath == file)

section Files

variable {units others : List Component}

/-- A file stands for its units, in their order. -/
theorem get?_units_by_file (units : List Component) (file : String) :
    (unitsByFile units).get? file =
      if (units.filter (·.filePath == file)).isEmpty then none
      else some (units.filter (·.filePath == file)) := by
  -- The table grows with the latest unit, hence the induction from the end.
  induction units using List.reverseRecOn with
  | nil => rfl
  | append_singleton units c ih =>
      have hadd : unitsByFile (units ++ [c]) = addUnit (unitsByFile units) c := by
        rw [unitsByFile, List.foldl_append]
        rfl
      rw [hadd, addUnit, List.filter_append]
      by_cases hfile : c.filePath = file
      · subst hfile
        rw [Assoc.get?_set_self, ih]
        split
        · next hempty => simp [List.isEmpty_iff.mp hempty]
        · simp
      · rw [Assoc.get?_set_of_ne _ _ hfile, ih]
        simp [hfile]

/-- Every file has the same units in the same order. -/
theorem units_by_file_perm (h : ReorderedByFile units others) :
    (unitsByFile others).Perm (unitsByFile units) := by
  rw [Assoc.perm_iff_get?_eq (units_by_file_grouped others).1.distinct
    (units_by_file_grouped units).1.distinct]
  funext file
  rw [get?_units_by_file, get?_units_by_file, h.ordered]

theorem keys_primary_units_sublist (byFile : Assoc (List Component)) :
    (primaryUnits byFile).keys.Sublist byFile.keys := by
  induction byFile with
  | nil => exact .slnil
  | cons entry rest ih =>
      obtain ⟨file, units⟩ := entry
      cases hmain : primaryUnit units with
      | none =>
          have hrest : primaryUnits ((file, units) :: rest) = primaryUnits rest := by
            simp [primaryUnits, hmain]
          rw [hrest]
          exact ih.cons file
      | some main =>
          have hrest : primaryUnits ((file, units) :: rest) = (file, main) :: primaryUnits rest := by
            simp [primaryUnits, hmain]
          rw [hrest]
          exact ih.cons_cons file

/-- The main unit of a file is that of the units found in it. -/
theorem get?_primary_units (components : List Component) (file : String) :
    (primaryUnits (unitsByFile components)).get? file =
      primaryUnit (components.filter (·.filePath == file)) := by
  have hfiles : (unitsByFile components).keys.Nodup := (units_by_file_grouped components).1.distinct
  have hmains : (primaryUnits (unitsByFile components)).keys.Nodup :=
    (keys_primary_units_sublist _).nodup hfiles
  have hunits := get?_units_by_file components file
  ext main
  rw [Assoc.get?_eq_some_iff hmains, primaryUnits, List.mem_filterMap]
  constructor
  · rintro ⟨⟨other, units⟩, hmem, hmain⟩
    obtain ⟨found, hmain, heq⟩ := Option.map_eq_some_iff.mp hmain
    cases heq
    rw [(Assoc.get?_eq_some_iff hfiles).mpr hmem] at hunits
    split at hunits
    · cases hunits
    · rw [← Option.some.inj hunits, hmain]
  · intro hmain
    rw [if_neg] at hunits
    · exact ⟨_, (Assoc.get?_eq_some_iff hfiles).mp hunits, by simp [hmain]⟩
    · intro hempty
      rw [List.isEmpty_iff.mp hempty] at hmain
      cases hmain

theorem primary_unit_mem (h : units ≠ []) : ∃ u ∈ units, primaryUnit units = some u.id := by
  cases units with
  | nil => exact absurd rfl h
  | cons first rest =>
      show ∃ u ∈ first :: rest, some (((first :: rest).find? _).getD first).id = some u.id
      cases hfound : (first :: rest).find? (·.name == (Path.ofText first.filePath).stem) with
      | none => exact ⟨first, List.mem_cons_self, rfl⟩
      | some u => exact ⟨u, List.mem_of_find?_eq_some hfound, rfl⟩

/-- Every file has the same main unit. -/
theorem primary_units_get?_eq (h : ReorderedByFile units others) :
    (primaryUnits (unitsByFile others)).get? = (primaryUnits (unitsByFile units)).get? := by
  funext file
  rw [get?_primary_units, get?_primary_units, h.ordered]

/-- The files are gone through in the same order, with the same units in each. -/
theorem files_of_reordered (h : ReorderedByFile units others) :
    (unitsByFile others).sorted = (unitsByFile units).sorted := by
  refine merge_sort_eq_of_perm Prod.fst ?_ (units_by_file_perm h)
  rintro ⟨file, found⟩ hfound ⟨_, known⟩ hknown rfl
  rw [(units_by_file_perm h).mem_iff] at hfound
  have hkeys := (units_by_file_grouped units).1.distinct
  exact congrArg (file, ·) (Option.some.inj
    (((Assoc.get?_eq_some_iff hkeys).mpr hfound).symm.trans
      ((Assoc.get?_eq_some_iff hkeys).mpr hknown)))

/-- Main units are only looked up, so it does not matter in which order they come. -/
theorem gather_file_of_get? {primary known : Assoc String} (h : primary.get? = known.get?)
    (documents : Assoc Document) :
    Run.gatherFile documents primary = Run.gatherFile documents known := by
  have hresolve : ∀ file path, resolveImport file path primary = resolveImport file path known := by
    intro file path
    rw [resolveImport, resolveImport, h]
  have hadd : ∀ (g : Gathered) bound use, g.add bound primary use = g.add bound known use := by
    intro g bound use
    rw [Gathered.add, Gathered.add, hresolve]
  have huses : ∀ r : FileReading, r.uses primary = r.uses known := by
    intro r
    simp only [FileReading.uses, fileUses, h]
  funext state entry
  simp only [Run.gatherFile, Gathered.addUses, hadd, huses]

end Files

section Graphs

variable {g other : DependencyGraph} {units others : List Component}

/-- The graph of units has a node for each of their ids. -/
theorem nodes_unit_graph (units : List Component) :
    (unitGraph units).nodes =
      (Text.unique (units.map (·.id))).map fun id => { id := id, nodeType := "component" } := by
  induction units using List.reverseRecOn with
  | nil => rfl
  | append_singleton units c ih =>
      have hnodes : (unitGraph (units ++ [c])).nodes =
          addNode (unitGraph units).nodes c.id "component" := by
        simp only [unitGraph, List.foldl_append]
        rfl
      have hids : Text.unique ((units ++ [c]).map (·.id)) =
          Text.appendUnique (Text.unique (units.map (·.id))) c.id := by
        rw [Text.unique, List.map_append, List.foldl_append]
        rfl
      rw [hnodes, ih, hids, addNode, Text.appendUnique]
      by_cases hmem : c.id ∈ Text.unique (units.map (·.id))
      · rw [if_pos (by simpa using hmem), if_pos hmem]
      · rw [if_neg (by simpa using hmem), if_neg hmem, List.map_append]
        rfl

/-- Graphs with the same nodes in some order, each of them once, that agree in everything else. -/
structure DependencyGraph.SameUpToOrder (g other : DependencyGraph) : Prop where
  distinct : g.ids.Nodup
  nodes : other.nodes.Perm g.nodes
  edges : other.edges = g.edges
  cycles : other.cycles = g.cycles
  clusters : other.clusters = g.clusters

theorem DependencyGraph.SameUpToOrder.add_detail (h : g.SameUpToOrder other) (d : Detail) :
    (g.addDetail d).SameUpToOrder (other.addDetail d) := by
  refine ⟨?_, ?_, congrArg (· ++ [d.edge]) h.edges, h.cycles, h.clusters⟩
  · rw [ids_add_detail]
    exact nodup_append_unique h.distinct d.target
  · refine List.Perm.map _ ?_
    unfold addNode
    rw [h.nodes.any_eq]
    split
    · exact h.nodes
    · exact h.nodes.append_right _

theorem DependencyGraph.SameUpToOrder.add_details (h : g.SameUpToOrder other)
    (details : List Detail) :
    (details.foldl addDetail g).SameUpToOrder (details.foldl addDetail other) := by
  induction details generalizing g other with
  | nil => exact h
  | cons d rest ih => exact ih (h.add_detail d)

/-- The graph of units and details does not show in which order the units came. -/
theorem build_graph_reordered (h : others.Perm units) (details : List Detail) :
    buildGraph others details = buildGraph units details := by
  have hunits : (unitGraph units).SameUpToOrder (unitGraph others) := by
    refine ⟨(unit_graph_counted units).1.distinct, ?_, rfl, rfl, rfl⟩
    rw [nodes_unit_graph, nodes_unit_graph]
    exact (unique_perm (h.map _)).map _
  obtain ⟨hdistinct, hnodes, hedges, hcycles, hclusters⟩ := hunits.add_details details
  have hsorted : ∀ n, ((details.foldl DependencyGraph.addDetail (unitGraph others)).nodes.map
      (·.measured n)).mergeSort (fun a b => Text.le a.id b.id) =
        ((details.foldl DependencyGraph.addDetail (unitGraph units)).nodes.map
          (·.measured n)).mergeSort fun a b => Text.le a.id b.id := by
    intro n
    refine merge_sort_eq_of_perm GraphNode.id ?_ (hnodes.map _)
    intro a ha b hb hid
    rw [(hnodes.map _).mem_iff] at ha
    refine List.inj_on_of_nodup_map ?_ ha hb hid
    rw [List.map_map]
    exact hdistinct
  simp only [buildGraph, hnodes.length_eq, hsorted, hedges, hcycles, hclusters]

end Graphs

section Derived

variable {units others : List Component} {g : DependencyGraph}

/-- Units are only looked up by id, and their ids are gone through in the order of texts. -/
theorem transitive_details_reordered (h : others.Perm units) (g : DependencyGraph)
    (maxDepth : Quantity) :
    transitiveDetails g others maxDepth = transitiveDetails g units maxDepth := by
  have hids : (Text.unique (others.map (·.id))).Perm (Text.unique (units.map (·.id))) :=
    unique_perm (h.map _)
  have hcontains : (Text.unique (others.map (·.id))).contains =
      (Text.unique (units.map (·.id))).contains := funext fun _ => hids.contains_eq
  simp only [transitiveDetails, hcontains, hids.contains_eq, sorted_eq_of_perm hids]

theorem find_clusters_reordered {ids known : List String} (h : ids.Perm known) (g : Adjacency)
    (cohesion : Cohesion) : findClusters ids g cohesion = findClusters known g cohesion := by
  rw [findClusters, findClusters, sorted_eq_of_perm (unique_perm h)]

/-- The measures count units, and add up what their nodes count. -/
theorem graph_metrics_reordered (h : others.Perm units) (g : DependencyGraph)
    (details : List Detail) : graphMetrics others g details = graphMetrics units g details := by
  have hnodes : (others.filterMap fun c => g.nodes.find? (·.id == c.id)).Perm
      (units.filterMap fun c => g.nodes.find? (·.id == c.id)) := h.filterMap _
  have hleaving : (others.filterMap fun c => g.nodes.find? (·.id == c.id)).foldl
        (fun n u => n + u.outDegree) 0 =
      (units.filterMap fun c => g.nodes.find? (·.id == c.id)).foldl
        (fun n u => n + u.outDegree) 0 :=
    hnodes.foldl_eq' (fun _ _ _ _ n => Int.add_right_comm n _ _) 0
  simp only [graphMetrics, h.length_eq, hnodes.isEmpty_eq, hnodes.length_eq, hleaving]

theorem recommendations_reordered (h : others.Perm units) (g : DependencyGraph)
    (details : List Detail) :
    recommendations others g details = recommendations units g details := by
  have hids : (others.map (·.id)).Perm (units.map (·.id)) := h.map _
  simp only [recommendations, hids.contains_eq, sorted_eq_of_perm (hids.filter _)]

/-- The same gathered details give the same analysis, or fail alike. -/
theorem analysis_of_reordered (options : AnalysisSettings) (h : others.Perm units) (g : Gathered)
    (warnings : List String) :
    analysisOf options others g warnings = analysisOf options units g warnings := by
  have htransitive : ∀ graph,
      options.transitiveOf graph others = options.transitiveOf graph units := by
    intro graph
    simp only [AnalysisSettings.transitiveOf, h.isEmpty_eq, transitive_details_reordered h]
  have hclusters : ∀ graph, options.clustersOf graph others = options.clustersOf graph units := by
    intro graph
    simp only [AnalysisSettings.clustersOf, find_clusters_reordered (h.map (·.id))]
  simp only [analysisOf, build_graph_reordered h, htransitive, hclusters,
    graph_metrics_reordered h, recommendations_reordered h]

end Derived

/-- Units that come in another order, those of each file in the same one, are analysed alike: the
analysis returns the same details, graph, packages, measures, advice and warnings or fails with the
same error, and it leaves the same state. -/
theorem analyze_reordered {units others : List Component} (h : ReorderedByFile units others)
    (documents : Assoc Document) (context : RunContext) (s : RunState) :
    (Run.analyze others documents).exec context s =
      (Run.analyze units documents).exec context s := by
  have hanalysis : ∀ options g warnings,
      analysisOf options others g warnings = analysisOf options units g warnings :=
    fun options => analysis_of_reordered options h.perm
  rw [Run.analyze, Run.analyze]
  simp only [files_of_reordered h, gather_file_of_get? (primary_units_get?_eq h), hanalysis]

/-- A second unit of the file of `Panel`. -/
def panelTitle : Component :=
  { id := "Title", name := "Title", filePath := "Panel.tsx", absolutePath := "/Panel.tsx" }

theorem analyze_reordered_panel_first :
    ReorderedByFile (brokenAndPanel ++ [panelTitle]) (brokenAndPanel.reverse ++ [panelTitle]) ∧
      ∃ a t, (Run.analyze (brokenAndPanel ++ [panelTitle]) brokenAndPanelDocuments).exec
          { settings := { analysis := { generateClusters := false } },
            grammar := fun _ _ => default } {} = (.ok a, t) ∧
        (Run.analyze (brokenAndPanel.reverse ++ [panelTitle]) brokenAndPanelDocuments).exec
          { settings := { analysis := { generateClusters := false } },
            grammar := fun _ _ => default } {} = (.ok a, t) := by
  have hreordered : ReorderedByFile (brokenAndPanel ++ [panelTitle])
      (brokenAndPanel.reverse ++ [panelTitle]) := by
    refine ⟨(List.reverse_perm _).append_right _, fun file => ?_⟩
    by_cases hfile : "Broken.tsx" = file
    · subst hfile
      rfl
    · simp [brokenAndPanel, List.filter_cons, hfile]
  obtain ⟨a, t, hrun⟩ : ∃ a t, (Run.analyze (brokenAndPanel ++ [panelTitle])
      brokenAndPanelDocuments).exec
        { settings := { analysis := { generateClusters := false } },
          grammar := fun _ _ => default } {} = (.ok a, t) := by
    refine analyze_returns rfl rfl rfl rfl rfl rfl fun entry hentry => ?_
    have hfiles : unitsByFile (brokenAndPanel ++ [panelTitle]) =
        [("Broken.tsx", brokenAndPanel.take 1),
          ("Panel.tsx", brokenAndPanel.drop 1 ++ [panelTitle])] := rfl
    rw [hfiles] at hentry
    rcases List.mem_cons.mp hentry with rfl | hentry
    · exact ⟨_, rfl⟩
    · rw [List.mem_singleton.mp hentry]
      exact ⟨_, rfl⟩
  exact ⟨hreordered, a, t, hrun, (analyze_reordered hreordered _ _ _).trans hrun⟩

end ComponentMigration
