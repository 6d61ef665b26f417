import Mathlib.Logic.Relation
import ComponentMigration.Proofs.Dependency.Analyze
import ComponentMigration.Proofs.Dependency.CycleSearch

/-!
# Dependencies on cycles

An analysis marks the dependencies and the edges that the reported cycles run along.  What is marked
lies on a cycle of the graph, and every cycle of the graph has a marked dependency
(`analyze_marks_reported_cycles`).  A dependency on a cycle need not be marked itself: an edge to a
node whose search is complete closes no path of the search (`analyze_leaves_shortcut_unmarked`).
-/

namespace ComponentMigration

section Walks

variable {g : Adjacency} {walk : List String} {cycles : List (List String)} {x y : String}

/-- Along a closed walk one comes from every node to every other. -/
theorem Adjacency.ClosedWalk.leads (h : g.ClosedWalk walk) (hx : x ∈ walk) (hy : y ∈ walk) :
    Relation.ReflTransGen g.HasEdge x y := by
  cases walk with
  | nil => cases hx
  | cons first rest =>
      have hchain : List.IsChain (Relation.ReflTransGen g.HasEdge)
          (first :: (rest ++ [first])) :=
        (forall_mem_zip_iff_chain.mp h.edges).imp fun _ _ => .single
      -- The walk goes from its first node to every node, and from every node back to the first.
      obtain ⟨hout, hrest⟩ := List.pairwise_cons.mp hchain.pairwise
      have hback := (List.pairwise_append.mp hrest).2.2
      have hto : Relation.ReflTransGen g.HasEdge x first := by
        rcases List.mem_cons.mp hx with rfl | hx
        · exact .refl
        · exact hback x hx first List.mem_cons_self
      have hfrom : Relation.ReflTransGen g.HasEdge first y := by
        rcases List.mem_cons.mp hy with rfl | hy
        · exact .refl
        · exact hout y (List.mem_append_left _ hy)
      exact hto.trans hfrom

/-- The edges of a cycle join its nodes. -/
theorem mem_of_mem_cycle_edges (h : (x, y) ∈ cycleEdges walk) : x ∈ walk ∧ y ∈ walk := by
  rw [cycle_edges_eq_zip_rotate] at h
  obtain ⟨hx, hy⟩ := List.of_mem_zip h
  exact ⟨hx, List.mem_rotate.mp hy⟩

/-- From the target of a reported edge one comes back to its source. -/
theorem ToldEdge.leads_back (hcycles : ∀ cycle ∈ cycles, g.ToldCycle cycle)
    (h : ToldEdge cycles (x, y)) : Relation.ReflTransGen g.HasEdge y x := by
  obtain ⟨cycle, hcycle, hedge⟩ := h
  obtain ⟨hx, hy⟩ := mem_of_mem_cycle_edges hedge
  exact (hcycles cycle hcycle).closed.leads hy hx

/-- What the search over a whole graph has come to: reported are cycles of the graph, and every
closed walk has a reported edge. -/
theorem detect_cycles_spec (g : Adjacency) :
    (∀ cycle ∈ detectCycles g, g.ToldCycle cycle) ∧
      ∀ walk, g.ClosedWalk walk → ∃ edge ∈ cycleEdges walk, ToldEdge (detectCycles g) edge := by
  have hsorted : ∀ {node}, node ∈ Text.sorted g.keys ↔ node ∈ g.keys := by simp [Text.sorted]
  have hstarts : Text.sorted g.keys ⊆ g.nodes := fun _ hmem =>
    g.keys_subset_nodes (hsorted.mp hmem)
  obtain ⟨hinv, hdone⟩ := CycleSearch.search_all_spec g hstarts
  refine ⟨hinv.told, fun walk hwalk => ?_⟩
  obtain ⟨node, hnode⟩ := List.exists_mem_of_ne_nil walk hwalk.nonempty
  obtain ⟨next, -, hedge⟩ := exists_mem_cycle_edges hnode
  have hkey : node ∈ g.keys := (hwalk.edges _ hedge).source_mem_keys
  exact hinv.settled.exists_told_edge hwalk hnode (hdone (hsorted.mpr hkey))

/-- An edge from a node to itself is reported. -/
theorem told_edge_self (h : g.HasEdge x x) : ToldEdge (detectCycles g) (x, x) := by
  have hwalk : g.ClosedWalk [x] := by
    refine ⟨List.cons_ne_nil _ _, fun edge hedge => ?_⟩
    rw [List.mem_singleton.mp hedge]
    exact h
  obtain ⟨edge, hedge, htold⟩ := (detect_cycles_spec g).2 [x] hwalk
  rwa [List.mem_singleton.mp hedge] at htold

/-- An edge has a longest reported cycle through it if it has any. -/
theorem is_some_cyclic_length : (cyclicLength cycles x y).isSome ↔ ToldEdge cycles (x, y) := by
  have hmem : ToldEdge cycles (x, y) ↔
      (cycles.filter fun c => (cycleEdges c).contains (x, y)) ≠ [] := by
    simp [ToldEdge]
  rw [hmem, cyclicLength]
  rcases List.eq_nil_or_concat (cycles.filter fun c => (cycleEdges c).contains (x, y)) with
    hnone | ⟨shorter, last, hsome⟩
  · rw [hnone]
    simp
  · rw [hsome, List.concat_eq_append, List.foldl_append]
    simp

end Walks

section Marks

variable {g : DependencyGraph} {cycles : List (List String)} {d : Detail} {e : GraphEdge}
  {x y : String}

/-- An edge of the graph leads from one node to the other. -/
def DependencyGraph.Leads (g : DependencyGraph) (source target : String) : Prop :=
  (source, target) ∈ g.ends

theorem DependencyGraph.targets_outgoing (g : DependencyGraph) (id : String) :
    (g.outgoing id).map (·.target) = (g.ends.filter (·.1 == id)).map (·.2) := by
  rw [ends, List.filter_map, List.map_map]
  rfl

/-- The table of edges tells ids of nodes and ends of edges. -/
theorem DependencyGraph.adjacency_eq_map (g : DependencyGraph) :
    g.adjacency = g.ids.map fun id => (id, (g.ends.filter (·.1 == id)).map (·.2)) := by
  rw [ids, List.map_map]
  exact List.map_congr_left fun n _ => congrArg (n.id, ·) (g.targets_outgoing n.id)

/-- The table of edges has all edges between nodes of the graph. -/
theorem DependencyGraph.Counted.has_edge_iff (h : g.Counted) :
    g.adjacency.HasEdge x y ↔ g.Leads x y := by
  have hkeys : g.adjacency.keys = g.ids := by
    rw [Assoc.keys, adjacency, List.map_map]
    rfl
  have hentry : ∀ targets, (x, targets) ∈ g.adjacency ↔
      x ∈ g.ids ∧ (g.ends.filter (·.1 == x)).map (·.2) = targets := by
    intro targets
    rw [adjacency_eq_map, List.mem_map]
    simp only [Prod.mk.injEq]
    constructor
    · rintro ⟨_, hid, rfl, htargets⟩
      exact ⟨hid, htargets⟩
    · rintro ⟨hid, htargets⟩
      exact ⟨x, hid, rfl, htargets⟩
  have hleads : g.Leads x y ↔ y ∈ (g.ends.filter (·.1 == x)).map (·.2) := by
    simp [Leads]
  rw [hleads]
  constructor
  · intro hedge
    obtain ⟨targets, hmem, hy⟩ := hedge.exists_entry
    exact ((hentry targets).mp hmem).2 ▸ hy
  · intro hy
    have hx : x ∈ g.ids := by
      obtain ⟨e, he, heq⟩ := List.mem_map.mp (hleads.mpr hy)
      have hsource : e.source = x := congrArg Prod.fst heq
      exact hsource ▸ (h.joined e he).1
    rw [Adjacency.HasEdge,
      (Assoc.get?_eq_some_iff (hkeys ▸ h.distinct)).mpr ((hentry _).mpr ⟨hx, rfl⟩)]
    exact hy

theorem Detail.level_mark_cycle_eq_circular_iff (h : d.level = .direct) :
    (d.markCycle cycles).level = .circular ↔ ToldEdge cycles d.ends := by
  rw [ends, ← is_some_cyclic_length, markCycle]
  split
  · next hlength => simp [hlength]
  · next hlength => simp [hlength, h]

/-- An edge of a marked graph is marked if and only if a reported cycle runs along it. -/
theorem is_cyclic_of_mem_mark_cycles (hplain : ∀ e ∈ g.edges, e.isCyclic = false)
    (he : e ∈ g.markCycles.edges) : e.isCyclic = true ↔ ToldEdge g.cycles e.ends := by
  obtain ⟨e, hmem, rfl⟩ := List.mem_map.mp he
  rw [GraphEdge.ends]
  split
  · next htold => simpa using is_some_cyclic_length.1 htold
  · next hfree =>
      rw [hplain e hmem, ← is_some_cyclic_length]
      simpa using hfree

theorem DependencyGraph.edges_add_details (details : List Detail) (g : DependencyGraph) :
    (details.foldl addDetail g).edges = g.edges ++ details.map (·.edge) := by
  induction details generalizing g with
  | nil => simp
  | cons d rest ih =>
      rw [List.foldl_cons, ih]
      simp [addDetail]

/-- Edges are not marked before the cycles are known. -/
theorem is_cyclic_of_mem_build_graph {components : List Component} {details : List Detail}
    (he : e ∈ (buildGraph components details).edges) : e.isCyclic = false := by
  rw [buildGraph, List.mem_mergeSort, DependencyGraph.edges_add_details, unitGraph,
    List.nil_append] at he
  obtain ⟨d, -, rfl⟩ := List.mem_map.mp he
  rfl

end Marks

/-- What an analysis says of cycles: marked are the dependencies and the edges that reported cycles
run along.  From the target of a marked dependency one comes back to its source along edges; a
dependency of a unit on itself is marked, and so is one of the dependencies on every cycle. -/
structure DependencyAnalysis.MarksReportedCycles (a : DependencyAnalysis) : Prop where
  joined : a.graph.ends.Perm ((a.details.filter (·.level != .transitive)).map (·.ends))
  circular : ∀ d ∈ a.details, d.level ≠ .transitive →
    (d.level = .circular ↔ ToldEdge a.graph.cycles d.ends)
  cyclic : ∀ e ∈ a.graph.edges, e.isCyclic = true ↔ ToldEdge a.graph.cycles e.ends
  back : ∀ d ∈ a.details, d.level = .circular →
    Relation.ReflTransGen a.graph.Leads d.target d.source
  own : ∀ d ∈ a.details, d.level ≠ .transitive → d.source = d.target → d.level = .circular
  every : ∀ walk, walk ≠ [] → (∀ edge ∈ cycleEdges walk, a.graph.Leads edge.1 edge.2) →
    ∃ d ∈ a.details, d.level = .circular ∧ d.ends ∈ cycleEdges walk

section Analyses

variable {options : AnalysisSettings} {components : List Component} {g : Gathered}
  {ids warnings : List String} {a : DependencyAnalysis}

/-- An analysis that looks for cycles marks dependencies and edges by those that it reports. -/
theorem marked_of_analysis_of (hcycles : options.detectCycles = true)
    (hdirect : ∀ d ∈ g.details, d.level = .direct)
    (h : analysisOf options components g warnings = .ok a) :
    a.graph.cycles = detectCycles (buildGraph components g.details).adjacency ∧
      (∀ d ∈ a.details, d.level ≠ .transitive →
        (d.level = .circular ↔ ToldEdge a.graph.cycles d.ends)) ∧
      ∀ e ∈ a.graph.edges, e.isCyclic = true ↔ ToldEdge a.graph.cycles e.ends := by
  unfold analysisOf at h
  obtain ⟨transitive, htransitive, h⟩ := bind_eq_ok.mp h
  obtain ⟨clusters, -, h⟩ := bind_eq_ok.mp h
  cases h
  simp only [AnalysisSettings.withCycles, AnalysisSettings.markDetails, hcycles, if_true]
  refine ⟨rfl, ?_, ?_⟩
  · intro d hd hlevel
    rcases List.mem_append.mp hd with hd | hd
    · obtain ⟨d, hmem, rfl⟩ := List.mem_map.mp hd
      rw [Detail.level_mark_cycle_eq_circular_iff (hdirect d hmem), Detail.ends_mark_cycle]
    · exact absurd (AnalysisSettings.level_of_mem_transitive_of htransitive hd) hlevel
  · intro e he
    have hplain : ∀ e ∈ (buildGraph components g.details).edges, e.isCyclic = false := fun e he =>
      is_cyclic_of_mem_build_graph he
    exact is_cyclic_of_mem_mark_cycles (g := { buildGraph components g.details with cycles := _ })
      hplain he

theorem marks_reported_cycles_of_analysis_of (hcycles : options.detectCycles = true)
    (hwithin : g.Within ids) (hsub : ids ⊆ components.map (·.id))
    (h : analysisOf options components g warnings = .ok a) : a.MarksReportedCycles := by
  obtain ⟨hreported, hcircular, hcyclic⟩ := marked_of_analysis_of hcycles hwithin.direct h
  have hof := analysis_of_eq_ok (fun d hd => by simp [hwithin.direct d hd]) h
  have hconsistent := hof.consistent hwithin hsub
  have htable : a.graph.adjacency = (buildGraph components g.details).adjacency := by
    have hids : a.graph.ids = (buildGraph components g.details).ids := by
      rw [DependencyGraph.ids, hof.nodes]
      rfl
    rw [DependencyGraph.adjacency_eq_map, DependencyGraph.adjacency_eq_map, hids, hof.ends]
  rw [← htable] at hreported
  have hedge : ∀ {x y}, a.graph.adjacency.HasEdge x y ↔ a.graph.Leads x y :=
    hconsistent.counted.has_edge_iff
  -- The edges of the graph are those of the dependencies that are not through others.
  have hmem : ∀ {x y}, a.graph.Leads x y ↔
      ∃ d ∈ a.details, d.level ≠ .transitive ∧ d.ends = (x, y) := by
    intro x y
    rw [DependencyGraph.Leads, hconsistent.direct.mem_iff, List.mem_map]
    simp [and_assoc]
  obtain ⟨htold, hevery⟩ := detect_cycles_spec a.graph.adjacency
  refine ⟨hconsistent.direct, hcircular, hcyclic, ?_, ?_, ?_⟩
  · intro d hd hlevel
    have hends := (hcircular d hd (by simp [hlevel])).mp hlevel
    rw [hreported] at hends
    exact Relation.ReflTransGen.mono (fun _ _ => hedge.mp) _ _ (ToldEdge.leads_back htold hends)
  · intro d hd hlevel hself
    refine (hcircular d hd hlevel).mpr ?_
    have hends : d.ends = (d.source, d.source) := by rw [Detail.ends, ← hself]
    rw [hreported, hends]
    exact told_edge_self (hedge.mpr (hmem.mpr ⟨d, hd, hlevel, hends⟩))
  · intro walk hne hwalk
    obtain ⟨edge, hon, hreport⟩ := hevery walk ⟨hne, fun edge hon => hedge.mpr (hwalk edge hon)⟩
    obtain ⟨d, hd, hlevel, hends⟩ := hmem.mp (hwalk edge hon)
    refine ⟨d, hd, (hcircular d hd hlevel).mpr ?_, hends ▸ hon⟩
    rw [hreported, hends]
    exact hreport

end Analyses

/-- An analysis that looks for cycles marks what the reported cycles run along. -/
theorem analyze_marks_reported_cycles {components : List Component} {documents : Assoc Document}
    {context : RunContext} {s t : RunState} {a : DependencyAnalysis}
    (hcycles : context.settings.analysis.detectCycles = true)
    (hrun : (Run.analyze components documents).exec context s = (.ok a, t)) :
    a.MarksReportedCycles := by
  unfold Run.analyze at hrun
  obtain ⟨state, u, hgather, hrun⟩ := Run.exec_bind_eq_ok.mp hrun
  obtain ⟨_, u', hread, hrun⟩ := Run.exec_bind_eq_ok.mp hrun
  cases hread
  obtain ⟨hanalysis, rfl⟩ := Run.exec_use_eq_ok.mp hrun
  have hnone : AnalysisState.Tells {} [] := ⟨⟨List.nodup_nil, by simp, by simp⟩, rfl⟩
  obtain ⟨readings, -, hentries, htells⟩ := gather_files_tells hnone hgather
  rw [List.nil_append] at htells
  have hof : ReadingsOf components readings := ReadingsOf.of_entries hentries
  exact marks_reported_cycles_of_analysis_of hcycles htells.gathered hof.analyzed_ids_subset
    hanalysis

/-- A unit in a file of its own. -/
def unitOfFile (name : String) : Component :=
  { id := name, name := name, filePath := name ++ ".tsx", absolutePath := name ++ ".tsx" }

/-- The document of a unit that imports others. -/
def importing (name : String) (others : List String) : String × Document :=
  (name ++ ".tsx", ⟨name ++ ".tsx", .tsx, "", .mk { kind := "program" } (others.map fun other =>
    .mk { kind := "import_statement" }
      [.mk { kind := "string", field := "source", text := "'./" ++ other ++ "'" } []])⟩)

/-- Three units, each in a file of its own. -/
def loopUnits : List Component := ["a", "b", "c"].map unitOfFile

/-- Their documents: the units import each other in a circle, and the first one imports the third
one as well. -/
def loopDocuments : Assoc Document :=
  [importing "a" ["b", "c"], importing "b" ["c"], importing "c" ["a"]]

/-- What the imports give. -/
def loopDetails : List Detail :=
  [("a", "b"), ("a", "c"), ("b", "c"), ("c", "a")].map fun (source, target) =>
    { source := source, target := target, importPath := "./" ++ target,
      usages := [⟨1, 1, "import"⟩] }

/-- A run that looks for cycles, but not for clusters. -/
def loopContext : RunContext :=
  { settings := { analysis := { generateClusters := false } }, grammar := fun _ _ => default }

/-- The imports of the three files are gathered one file after the other. -/
theorem gather_loop :
    ((unitsByFile loopUnits).sorted.foldlM
      (Run.gatherFile loopDocuments (primaryUnits (unitsByFile loopUnits))) {}).exec loopContext {} =
        (.ok ⟨⟨loopDetails, []⟩, []⟩, {}) := by
  have hfiles : (unitsByFile loopUnits).sorted =
      [("a.tsx", [unitOfFile "a"]), ("b.tsx", [unitOfFile "b"]), ("c.tsx", [unitOfFile "c"])] :=
    List.mergeSort_of_pairwise (by decide)
  have hprimary : primaryUnits (unitsByFile loopUnits) =
      [("a.tsx", "a"), ("b.tsx", "b"), ("c.tsx", "c")] := rfl
  rw [hfiles, hprimary, List.foldlM_cons, Run.exec_bind]
  have ha : (Run.gatherFile loopDocuments [("a.tsx", "a"), ("b.tsx", "b"), ("c.tsx", "c")] {}
      ("a.tsx", [unitOfFile "a"])).exec loopContext {} =
        (.ok ⟨⟨loopDetails.take 2, []⟩, []⟩, {}) := rfl
  rw [ha]
  dsimp only
  rw [List.foldlM_cons, Run.exec_bind]
  have hb : (Run.gatherFile loopDocuments [("a.tsx", "a"), ("b.tsx", "b"), ("c.tsx", "c")]
      ⟨⟨loopDetails.take 2, []⟩, []⟩ ("b.tsx", [unitOfFile "b"])).exec loopContext {} =
        (.ok ⟨⟨loopDetails.take 3, []⟩, []⟩, {}) := rfl
  rw [hb]
  dsimp only
  rw [List.foldlM_cons, Run.exec_bind]
  have hc : (Run.gatherFile loopDocuments [("a.tsx", "a"), ("b.tsx", "b"), ("c.tsx", "c")]
      ⟨⟨loopDetails.take 3, []⟩, []⟩ ("c.tsx", [unitOfFile "c"])).exec loopContext {} =
        (.ok ⟨⟨loopDetails, []⟩, []⟩, {}) := rfl
  rw [hc]
  rfl

/-- The search comes to the third unit from the second one before it looks at the edge from the
first one. -/
theorem detect_cycles_loop :
    detectCycles (buildGraph loopUnits loopDetails).adjacency = [["a", "b", "c"]] := by
  have hids : (buildGraph loopUnits loopDetails).ids = ["a", "b", "c"] := by
    rw [DependencyGraph.ids, buildGraph,
      List.map_mergeSort (s := fun a b => Text.le a b) fun _ _ _ _ => rfl, List.map_map]
    exact List.mergeSort_of_pairwise (by decide)
  have hedges : (buildGraph loopUnits loopDetails).edges = loopDetails.map (·.edge) :=
    List.mergeSort_of_pairwise (by decide)
  have htable : (buildGraph loopUnits loopDetails).adjacency =
      [("a", ["b", "c"]), ("b", ["c"]), ("c", ["a"])] := by
    rw [DependencyGraph.adjacency_eq_map, hids, DependencyGraph.ends, hedges]
    rfl
  have hnodes :
      Adjacency.nodes [("a", ["b", "c"]), ("b", ["c"]), ("c", ["a"])] = ["a", "b", "c"] := by decide
  have hstarts : Text.sorted ["a", "b", "c"] = ["a", "b", "c"] :=
    List.mergeSort_of_pairwise (by decide)
  have htargets : Text.sorted ["b", "c"] = ["b", "c"] := List.mergeSort_of_pairwise (by decide)
  have hsingle : ∀ x, Text.sorted [x] = [x] := fun x => List.mergeSort_singleton x
  have hcycle : rotateToSmallest ["a", "b", "c"] = ["a", "b", "c"] := by decide
  rw [htable]
  simp [detectCycles, hnodes, hstarts, htargets, hsingle, hcycle, CycleSearch.searchAll,
    CycleSearch.visit, CycleSearch.follow, CycleSearch.close, Adjacency.targets, Assoc.get?,
    Assoc.keys]

theorem analyze_loop :
    ∃ a, (Run.analyze loopUnits loopDocuments).exec loopContext {} = (.ok a, {}) ∧
      analysisOf loopContext.settings.analysis loopUnits ⟨loopDetails, []⟩ [] = .ok a := by
  refine ⟨_, ?_, rfl⟩
  rw [Run.analyze, Run.exec_bind, gather_loop]
  rfl

theorem analyze_marks_reported_cycles_loop :
    ∃ a t, (Run.analyze loopUnits loopDocuments).exec loopContext {} = (.ok a, t) ∧
      a.MarksReportedCycles := by
  obtain ⟨a, hrun, -⟩ := analyze_loop
  exact ⟨a, {}, hrun, analyze_marks_reported_cycles rfl hrun⟩

/-- The first unit depends on the third one, and from that one comes back to the first, but no
reported cycle runs along this dependency: it is not marked. -/
theorem analyze_leaves_shortcut_unmarked :
    loopContext.settings.analysis.detectCycles = true ∧
      ∃ a t, (Run.analyze loopUnits loopDocuments).exec loopContext {} = (.ok a, t) ∧
        Relation.ReflTransGen a.graph.Leads "c" "a" ∧
        (∃ d ∈ a.details, d.ends = ("a", "c") ∧ d.level ≠ .transitive ∧ d.level ≠ .circular) ∧
        ∃ e ∈ a.graph.edges, e.ends = ("a", "c") ∧ e.isCyclic = false := by
  obtain ⟨a, hrun, hanalysis⟩ := analyze_loop
  have hlevel : ∀ d ∈ loopDetails, d.level = .direct := by decide
  obtain ⟨hreported, hcircular, hcyclic⟩ := marked_of_analysis_of rfl hlevel hanalysis
  rw [detect_cycles_loop] at hreported
  have hof := analysis_of_eq_ok (fun d hd => by simp [hlevel d hd]) hanalysis
  have hends : a.graph.ends = loopDetails.map (·.ends) := by
    rw [hof.ends]
    exact congrArg (List.map GraphEdge.ends) (List.mergeSort_of_pairwise (by decide))
  have hfree : ¬ ToldEdge a.graph.cycles ("a", "c") := by
    rw [hreported]
    rintro ⟨cycle, hcycle, hedge⟩
    obtain rfl := List.mem_singleton.mp hcycle
    exact absurd hedge (by decide)
  refine ⟨rfl, a, {}, hrun, .single ?_, ?_, ?_⟩
  · rw [DependencyGraph.Leads, hends]
    decide
  · have hmem : ("a", "c") ∈ (a.details.filter (·.level != .transitive)).map (·.ends) := by
      rw [hof.details]
      decide
    obtain ⟨d, hd, heq⟩ := List.mem_map.mp hmem
    obtain ⟨hd, hdirect⟩ := List.mem_filter.mp hd
    have hdirect : d.level ≠ .transitive := by simpa using hdirect
    refine ⟨d, hd, heq, hdirect, fun hmarked => hfree ?_⟩
    exact heq ▸ (hcircular d hd hdirect).mp hmarked
  · have hmem : ("a", "c") ∈ a.graph.ends := by
      rw [hends]
      decide
    obtain ⟨e, he, heq⟩ := List.mem_map.mp hmem
    refine ⟨e, he, heq, Bool.eq_false_iff.mpr fun hmarked => hfree ?_⟩
    exact heq ▸ (hcyclic e he).mp hmarked

end ComponentMigration
