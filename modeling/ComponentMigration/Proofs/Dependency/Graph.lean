import Mathlib.Data.List.Nodup
import ComponentMigration.Dependency.Graph
import ComponentMigration.Proofs.Text.Order

/-!
# Degrees of the dependency graph

The graph is built detail by detail: a target becomes a node when it first comes up, and degrees are
counted along.  A graph is counted if every edge runs between nodes and the degrees are the numbers
of edges; `Counted.add_detail` says that a detail keeps it so, and `build_graph_counted` carries it
to the whole graph.  Sorting and marking change neither ends nor degrees (`Counted.transport`).
-/

namespace ComponentMigration

/-- What a detail joins. -/
def Detail.ends (d : Detail) : String × String := (d.source, d.target)

/-- What an edge joins. -/
def GraphEdge.ends (e : GraphEdge) : String × String := (e.source, e.target)

@[simp] theorem Detail.ends_edge (d : Detail) : d.edge.ends = d.ends := rfl

/-- What counts about a node: its id and its degrees. -/
def GraphNode.count (n : GraphNode) : String × Int × Int := (n.id, n.inDegree, n.outDegree)

namespace DependencyGraph

/-- The ids of the nodes. -/
def ids (g : DependencyGraph) : List String := g.nodes.map (·.id)

/-- What the edges join. -/
def ends (g : DependencyGraph) : List (String × String) := g.edges.map (·.ends)

/-- A graph whose edges run between its nodes, and whose nodes tell how many edges they have. -/
structure Counted (g : DependencyGraph) : Prop where
  distinct : g.ids.Nodup
  joined : ∀ e ∈ g.edges, e.source ∈ g.ids ∧ e.target ∈ g.ids
  entering : ∀ n ∈ g.nodes, n.inDegree = (g.incoming n.id).length
  leaving : ∀ n ∈ g.nodes, n.outDegree = (g.outgoing n.id).length

variable {g g' : DependencyGraph} {id : String} {e : GraphEdge} {d : Detail}

theorem incoming_length (g : DependencyGraph) (id : String) :
    (g.incoming id).length = g.ends.countP (·.2 == id) := by
  rw [ends, List.countP_map, List.countP_eq_length_filter]
  rfl

theorem outgoing_length (g : DependencyGraph) (id : String) :
    (g.outgoing id).length = g.ends.countP (·.1 == id) := by
  rw [ends, List.countP_map, List.countP_eq_length_filter]
  rfl

theorem ids_eq_map_count (g : DependencyGraph) : g.ids = (g.nodes.map (·.count)).map (·.1) := by
  unfold ids
  rw [List.map_map]
  rfl

/-- Only ids and degrees of nodes and ends of edges matter, in any order. -/
theorem Counted.transport (h : g.Counted) (hends : g'.ends.Perm g.ends)
    (hnodes : (g'.nodes.map (·.count)).Perm (g.nodes.map (·.count))) : g'.Counted := by
  have hids : g'.ids.Perm g.ids := by
    rw [ids_eq_map_count, ids_eq_map_count]
    exact hnodes.map _
  have hsame : ∀ n ∈ g'.nodes, ∃ m ∈ g.nodes,
      m.id = n.id ∧ m.inDegree = n.inDegree ∧ m.outDegree = n.outDegree := by
    intro n hn
    have hmem : n.count ∈ g.nodes.map (·.count) := hnodes.subset (List.mem_map_of_mem hn)
    obtain ⟨m, hm, heq⟩ := List.mem_map.mp hmem
    exact ⟨m, hm, by simpa [GraphNode.count] using heq⟩
  refine ⟨hids.nodup_iff.mpr h.distinct, ?_, ?_, ?_⟩
  · intro e he
    have hmem : e.ends ∈ g.ends := hends.subset (List.mem_map_of_mem he)
    obtain ⟨e', he', heq⟩ := List.mem_map.mp hmem
    obtain ⟨hsource, htarget⟩ := Prod.mk.inj heq
    obtain ⟨hs, ht⟩ := h.joined e' he'
    exact ⟨hids.symm.subset (hsource ▸ hs), hids.symm.subset (htarget ▸ ht)⟩
  · intro n hn
    obtain ⟨m, hm, hid, hin, -⟩ := hsame n hn
    rw [incoming_length, hends.countP_eq, ← incoming_length, ← hin, ← hid]
    exact h.entering m hm
  · intro n hn
    obtain ⟨m, hm, hid, -, hout⟩ := hsame n hn
    rw [outgoing_length, hends.countP_eq, ← outgoing_length, ← hout, ← hid]
    exact h.leaving m hm

theorem Counted.incoming_eq_nil (h : g.Counted) (hid : id ∉ g.ids) : g.incoming id = [] := by
  rw [incoming, List.filter_eq_nil_iff]
  intro e he htarget
  exact hid (beq_iff_eq.mp htarget ▸ (h.joined e he).2)

theorem Counted.outgoing_eq_nil (h : g.Counted) (hid : id ∉ g.ids) : g.outgoing id = [] := by
  rw [outgoing, List.filter_eq_nil_iff]
  intro e he hsource
  exact hid (beq_iff_eq.mp hsource ▸ (h.joined e he).1)

/-- A node that is added has no edges yet. -/
theorem Counted.add_node (h : g.Counted) (id nodeType : String) :
    Counted { g with nodes := addNode g.nodes id nodeType } := by
  unfold addNode
  split
  · exact h
  · next hany =>
      -- Edges run between nodes, so none of them can enter or leave a node that was not there.
      have hid : id ∉ g.ids := by
        simpa [ids] using hany
      have hids : ids { g with nodes := g.nodes ++ [{ id := id, nodeType := nodeType }] } =
          g.ids ++ [id] := by
        simp [ids]
      refine ⟨?_, ?_, ?_, ?_⟩
      · rw [hids, List.nodup_append]
        refine ⟨h.distinct, List.nodup_singleton id, ?_⟩
        intro a ha b hb hab
        exact hid (List.mem_singleton.mp hb ▸ hab ▸ ha)
      · intro e he
        rw [hids]
        exact ⟨List.mem_append_left _ (h.joined e he).1, List.mem_append_left _ (h.joined e he).2⟩
      · intro n hn
        rcases List.mem_append.mp hn with hn | hn
        · exact h.entering n hn
        · rw [List.mem_singleton.mp hn]
          show (0 : Int) = (g.incoming id).length
          rw [h.incoming_eq_nil hid]
          rfl
      · intro n hn
        rcases List.mem_append.mp hn with hn | hn
        · exact h.leaving n hn
        · rw [List.mem_singleton.mp hn]
          show (0 : Int) = (g.outgoing id).length
          rw [h.outgoing_eq_nil hid]
          rfl

/-- A node is added by its id, like a text that is to be there once. -/
theorem ids_add_node (nodes : List GraphNode) (id nodeType : String) :
    (addNode nodes id nodeType).map (·.id) = Text.appendUnique (nodes.map (·.id)) id := by
  unfold addNode Text.appendUnique
  by_cases hmem : id ∈ nodes.map (·.id)
  · rw [if_pos (by simpa using hmem), if_pos hmem]
  · rw [if_neg (by simpa using hmem), if_neg hmem, List.map_append]
    rfl

theorem mem_ids_add_node {nodes : List GraphNode} {nodeType other : String} :
    other ∈ (addNode nodes id nodeType).map (·.id) ↔ other ∈ nodes.map (·.id) ∨ other = id := by
  rw [ids_add_node, mem_append_unique]

/-- An edge between nodes counts once at either end. -/
theorem Counted.add_edge (h : g.Counted) (hsource : e.source ∈ g.ids) (htarget : e.target ∈ g.ids) :
    Counted { g with nodes := g.nodes.map (·.countEdge e), edges := g.edges ++ [e] } := by
  have hids : ids { g with nodes := g.nodes.map (·.countEdge e), edges := g.edges ++ [e] } =
      g.ids := by
    unfold ids
    rw [List.map_map]
    rfl
  refine ⟨hids ▸ h.distinct, ?_, ?_, ?_⟩
  · intro e' he'
    rw [hids]
    rcases List.mem_append.mp he' with he' | he'
    · exact h.joined e' he'
    · rw [List.mem_singleton.mp he']
      exact ⟨hsource, htarget⟩
  · intro n hn
    obtain ⟨m, hm, rfl⟩ := List.mem_map.mp hn
    have hlength := h.entering m hm
    show (m.countEdge e).inDegree = ((g.edges ++ [e]).filter (·.target == m.id)).length
    rw [List.filter_append, List.length_append, GraphNode.countEdge, hlength, incoming]
    by_cases heq : e.target = m.id
    · simp [heq]
    · simp [heq, Ne.symm heq]
  · intro n hn
    obtain ⟨m, hm, rfl⟩ := List.mem_map.mp hn
    have hlength := h.leaving m hm
    show (m.countEdge e).outDegree = ((g.edges ++ [e]).filter (·.source == m.id)).length
    rw [List.filter_append, List.length_append, GraphNode.countEdge, hlength, outgoing]
    by_cases heq : e.source = m.id
    · simp [heq]
    · simp [heq, Ne.symm heq]

theorem ids_add_detail (g : DependencyGraph) (d : Detail) :
    (g.addDetail d).ids = Text.appendUnique g.ids d.target := by
  unfold ids addDetail
  rw [List.map_map]
  exact ids_add_node g.nodes d.target _

theorem mem_ids_add_detail : id ∈ (g.addDetail d).ids ↔ id ∈ g.ids ∨ id = d.target := by
  rw [ids_add_detail, mem_append_unique]

/-- A detail whose source is a node keeps a graph counted. -/
theorem Counted.add_detail (h : g.Counted) (hsource : d.source ∈ g.ids) :
    (g.addDetail d).Counted :=
  (h.add_node d.target (if d.isExternal then "external" else "internal")).add_edge
    (mem_ids_add_node.2 (Or.inl hsource)) (mem_ids_add_node.2 (Or.inr rfl))

/-- Details whose sources are nodes keep a graph counted, and each of them gives an edge. -/
theorem Counted.add_details {details : List Detail} (h : g.Counted)
    (hsources : ∀ d ∈ details, d.source ∈ g.ids) :
    (details.foldl addDetail g).Counted ∧
      (details.foldl addDetail g).ends = g.ends ++ details.map (·.ends) ∧
      g.ids ⊆ (details.foldl addDetail g).ids := by
  induction details generalizing g with
  | nil => exact ⟨h, by simp, List.Subset.refl _⟩
  | cons d rest ih =>
      have hkept : g.ids ⊆ (g.addDetail d).ids := fun id hid => mem_ids_add_detail.2 (Or.inl hid)
      have hrest : ∀ d' ∈ rest, d'.source ∈ (g.addDetail d).ids := fun d' hd' =>
        hkept (hsources d' (List.mem_cons_of_mem _ hd'))
      obtain ⟨hcounted, hends, hids⟩ := ih (h.add_detail (hsources d List.mem_cons_self)) hrest
      refine ⟨hcounted, ?_, List.Subset.trans hkept hids⟩
      rw [List.foldl_cons, hends]
      simp [ends, addDetail]

@[simp] theorem ends_mark_cycles (g : DependencyGraph) : g.markCycles.ends = g.ends := by
  rw [ends, markCycles, List.map_map]
  refine List.map_congr_left fun e _ => ?_
  show GraphEdge.ends (if _ then _ else _) = e.ends
  split <;> rfl

end DependencyGraph

open DependencyGraph

/-- The ids of units are the nodes of their graph, which has no edges. -/
theorem unit_graph_counted (components : List Component) :
    (unitGraph components).Counted ∧ (unitGraph components).ends = [] ∧
      ∀ id, id ∈ (unitGraph components).ids ↔ id ∈ components.map (·.id) := by
  -- Nodes are added to a graph that has some already, so the statement is about any such graph.
  suffices h : ∀ g : DependencyGraph, g.Counted → g.edges = [] →
      let nodes := components.foldl (fun ns c => addNode ns c.id "component") g.nodes
      Counted { g with nodes := nodes } ∧
        ∀ id, id ∈ nodes.map (·.id) ↔ id ∈ g.ids ∨ id ∈ components.map (·.id) by
    obtain ⟨hcounted, hids⟩ := h {} ⟨List.nodup_nil, by simp, by simp, by simp⟩ rfl
    refine ⟨hcounted, rfl, fun id => ?_⟩
    rw [ids, unitGraph, hids]
    simp [ids]
  induction components with
  | nil =>
      intro g hg hedges
      exact ⟨hg, fun id => by simp [ids]⟩
  | cons c rest ih =>
      intro g hg hedges
      obtain ⟨hcounted, hids⟩ :=
        ih { g with nodes := addNode g.nodes c.id "component" } (hg.add_node c.id "component") hedges
      refine ⟨hcounted, fun id => ?_⟩
      rw [List.foldl_cons, hids, ids, mem_ids_add_node, List.map_cons, List.mem_cons, or_assoc]
      rfl

/-- The graph of details whose sources are units is counted; its edges join what the details
join, and every unit is a node. -/
theorem build_graph_counted {components : List Component} {details : List Detail}
    (hsources : ∀ d ∈ details, d.source ∈ components.map (·.id)) :
    (buildGraph components details).Counted ∧
      (buildGraph components details).ends.Perm (details.map (·.ends)) ∧
      components.map (·.id) ⊆ (buildGraph components details).ids := by
  obtain ⟨hunits, hempty, hids⟩ := unit_graph_counted components
  obtain ⟨hcounted, hends, hkept⟩ :=
    hunits.add_details fun d hd => (hids d.source).mpr (hsources d hd)
  rw [hempty, List.nil_append] at hends
  have hedges : (buildGraph components details).ends.Perm
      (details.foldl addDetail (unitGraph components)).ends :=
    (List.mergeSort_perm _ _).map _
  have hnodes : ((buildGraph components details).nodes.map (·.count)).Perm
      ((details.foldl addDetail (unitGraph components)).nodes.map (·.count)) := by
    refine ((List.mergeSort_perm _ _).map _).trans ?_
    rw [List.map_map]
    rfl
  refine ⟨hcounted.transport hedges hnodes, hends ▸ hedges, ?_⟩
  intro id hid
  have hmem := hkept ((hids id).mpr hid)
  rw [ids_eq_map_count] at hmem ⊢
  exact (hnodes.map _).symm.subset hmem

/-- The ids of the nodes that are told to be units. -/
def DependencyGraph.unitIds (g : DependencyGraph) : List String :=
  (g.nodes.filter (·.nodeType == "component")).map (·.id)

/-- The targets of details are not told to be units. -/
theorem DependencyGraph.unit_ids_add_detail (g : DependencyGraph) (d : Detail) :
    (g.addDetail d).unitIds = g.unitIds := by
  have hcount : ∀ nodes : List GraphNode,
      ((nodes.map (·.countEdge d.edge)).filter (·.nodeType == "component")).map (·.id) =
        (nodes.filter (·.nodeType == "component")).map (·.id) := by
    intro nodes
    rw [List.filter_map, List.map_map]
    rfl
  show ((List.map _ (addNode g.nodes d.target _)).filter _).map _ = _
  rw [hcount, addNode]
  split
  · rfl
  · rw [List.filter_append, List.filter_singleton]
    split <;> simp [unitIds]

theorem DependencyGraph.unit_ids_add_details (details : List Detail) (g : DependencyGraph) :
    (details.foldl addDetail g).unitIds = g.unitIds := by
  induction details generalizing g with
  | nil => rfl
  | cons d rest ih => rw [List.foldl_cons, ih, unit_ids_add_detail]

/-- Units with distinct ids are all told to be units. -/
theorem unit_ids_unit_graph {components : List Component} (h : (components.map (·.id)).Nodup) :
    (unitGraph components).unitIds = components.map (·.id) := by
  suffices hfold : ∀ (rest : List Component) (nodes : List GraphNode),
      (nodes.map (·.id) ++ rest.map (·.id)).Nodup →
      ((rest.foldl (fun ns c => addNode ns c.id "component") nodes).filter
        (·.nodeType == "component")).map (·.id) =
          (nodes.filter (·.nodeType == "component")).map (·.id) ++ rest.map (·.id) from
    hfold components [] h
  intro rest
  induction rest with
  | nil => exact fun nodes _ => (List.append_nil _).symm
  | cons c rest ih =>
      intro nodes hnodup
      have hnew : ¬ nodes.any (·.id == c.id) := by
        intro hany
        obtain ⟨n, hn, hid⟩ := List.any_eq_true.mp hany
        have hdisjoint := (List.nodup_append.mp hnodup).2.2
        exact hdisjoint n.id (List.mem_map_of_mem hn) c.id List.mem_cons_self (beq_iff_eq.mp hid)
      have hadd : addNode nodes c.id "component" =
          nodes ++ [{ id := c.id, nodeType := "component" }] := if_neg hnew
      rw [List.foldl_cons, hadd, ih]
      · simp
      · simpa using hnodup

/-- The nodes of a graph that are told to be units are the units. -/
theorem unit_ids_build_graph {components : List Component} (h : (components.map (·.id)).Nodup)
    (details : List Detail) :
    (buildGraph components details).unitIds.Perm (components.map (·.id)) := by
  have hsorted : (buildGraph components details).unitIds.Perm
      (details.foldl DependencyGraph.addDetail (unitGraph components)).unitIds := by
    refine (((List.mergeSort_perm _ _).filter _).map _).trans ?_
    rw [List.filter_map, List.map_map]
    exact .refl _
  rwa [DependencyGraph.unit_ids_add_details, unit_ids_unit_graph h] at hsorted

/-- Links through other units are told as such. -/
theorem level_of_mem_transitive_details {g : DependencyGraph} {components : List Component}
    {maxDepth : Quantity} {d : Detail} (h : d ∈ transitiveDetails g components maxDepth) :
    d.level = .transitive := by
  unfold transitiveDetails at h
  obtain ⟨id, -, hd⟩ := List.mem_flatMap.mp h
  obtain ⟨entry, -, rfl⟩ := List.mem_map.mp hd
  rfl

@[simp] theorem Detail.ends_mark_cycle (d : Detail) (cycles : List (List String)) :
    (d.markCycle cycles).ends = d.ends := by
  unfold markCycle
  split <;> rfl

theorem Detail.level_mark_cycle {d : Detail} (h : d.level ≠ .transitive)
    (cycles : List (List String)) : (d.markCycle cycles).level ≠ .transitive := by
  unfold markCycle
  split
  · exact fun hlevel => nomatch hlevel
  · exact h

namespace AnalysisSettings

variable {options : AnalysisSettings} {g : DependencyGraph} {details : List Detail}

theorem nodes_with_cycles : (options.withCycles g).nodes = g.nodes := by
  unfold withCycles
  split <;> rfl

theorem ends_with_cycles : (options.withCycles g).ends = g.ends := by
  unfold withCycles
  split
  · exact ends_mark_cycles _
  · rfl

theorem ends_mark_details :
    (options.markDetails g details).map (·.ends) = details.map (·.ends) := by
  unfold markDetails
  split
  · rw [List.map_map]
    exact List.map_congr_left fun d _ => d.ends_mark_cycle _
  · rfl

theorem level_mark_details (h : ∀ d ∈ details, d.level ≠ .transitive) :
    ∀ d ∈ options.markDetails g details, d.level ≠ .transitive := by
  unfold markDetails
  split
  · intro d hd
    obtain ⟨d', hd', rfl⟩ := List.mem_map.mp hd
    exact Detail.level_mark_cycle (h d' hd') _
  · exact h

theorem level_of_mem_transitive_of {components : List Component}
    (h : options.transitiveOf g components = .ok details) {d : Detail} (hd : d ∈ details) :
    d.level = .transitive := by
  unfold transitiveOf at h
  split at h
  · obtain ⟨maxDepth, -, hdetails⟩ := bind_eq_ok.mp h
    cases hdetails
    exact level_of_mem_transitive_details hd
  · cases h
    exact absurd hd List.not_mem_nil

end AnalysisSettings

open AnalysisSettings

/-- What an analysis takes over from the details that were gathered. -/
structure AnalysisOf (components : List Component) (gathered : List Detail)
    (warnings : List String) (a : DependencyAnalysis) : Prop where
  nodes : a.graph.nodes = (buildGraph components gathered).nodes
  ends : a.graph.ends = (buildGraph components gathered).ends
  details : (a.details.filter (·.level != .transitive)).map (·.ends) = gathered.map (·.ends)
  metrics : a.metrics = graphMetrics components a.graph a.details
  warnings : a.warnings = warnings

/-- The nodes of an analysis are those of the graph of its details. -/
theorem nodes_of_analysis_of {options : AnalysisSettings} {components : List Component}
    {g : Gathered} {warnings : List String} {a : DependencyAnalysis}
    (h : analysisOf options components g warnings = .ok a) :
    a.graph.nodes = (buildGraph components g.details).nodes := by
  unfold analysisOf at h
  obtain ⟨transitive, -, h⟩ := bind_eq_ok.mp h
  obtain ⟨clusters, -, h⟩ := bind_eq_ok.mp h
  cases h
  exact nodes_with_cycles

/-- Cycles, links through other units and clusters leave nodes and ends alone. -/
theorem analysis_of_eq_ok {options : AnalysisSettings} {components : List Component}
    {g : Gathered} {warnings : List String} {a : DependencyAnalysis}
    (hlevel : ∀ d ∈ g.details, d.level ≠ .transitive)
    (h : analysisOf options components g warnings = .ok a) :
    AnalysisOf components g.details warnings a := by
  unfold analysisOf at h
  obtain ⟨transitive, htransitive, h⟩ := bind_eq_ok.mp h
  obtain ⟨clusters, -, h⟩ := bind_eq_ok.mp h
  cases h
  -- Of the details, only those that were gathered are not marked as links through other units.
  have hthrough : transitive.filter (·.level != .transitive) = [] := by
    rw [List.filter_eq_nil_iff]
    intro d hd
    simp [level_of_mem_transitive_of htransitive hd]
  refine ⟨nodes_with_cycles, ends_with_cycles, ?_, rfl, rfl⟩
  rw [List.filter_append, hthrough, List.append_nil, List.filter_eq_self.mpr]
  · exact ends_mark_details
  · intro d hd
    simpa using level_mark_details hlevel d hd

end ComponentMigration
