import Mathlib.Data.List.Perm.Subperm
import ComponentMigration.Proofs.Dependency.ClosedWalk
import ComponentMigration.Proofs.Text.Order

/-!
# The cycle search is sound and misses no cycle

The search keeps a path, on which it stands, and a list of the nodes whose search is complete, the
latest first.  `CycleSearch.Invariant` says what holds of its state at every time: what has been told
are cycles, none twice, and every edge of a complete node leads to a node that was complete earlier
or belongs to a told cycle.  `visit_spec` and `follow_spec` carry it through a search.  A closed walk
cannot lead to earlier and earlier nodes for ever, so one of its edges has been told
(`Settled.exists_told_edge`).

The bound on the length of paths is never reached: `search_all_add_fuel` says that a larger one gives
the same search.
-/

namespace ComponentMigration

variable {g : Adjacency}

/-- An edge that belongs to one of the told cycles. -/
def ToldEdge (cycles : List (List String)) (edge : String × String) : Prop :=
  ∃ cycle ∈ cycles, edge ∈ cycleEdges cycle

/-- Every edge of a complete node leads to a node that was complete earlier, or has been told. -/
def Settled (g : Adjacency) (cycles : List (List String)) : List String → Prop
  | [] => True
  | node :: earlier =>
      (∀ target, g.HasEdge node target → target ∈ earlier ∨ ToldEdge cycles (node, target)) ∧
        Settled g cycles earlier

/-- Told edges stay told when more cycles are told. -/
theorem ToldEdge.mono {cycles more : List (List String)} {edge : String × String}
    (h : ToldEdge cycles edge) (hsub : cycles ⊆ more) : ToldEdge more edge := by
  obtain ⟨cycle, hcycle, hedge⟩ := h
  exact ⟨cycle, hsub hcycle, hedge⟩

/-- Complete nodes stay settled when more cycles are told. -/
theorem Settled.mono {cycles more : List (List String)} {done : List String}
    (h : Settled g cycles done) (hsub : cycles ⊆ more) : Settled g more done := by
  induction done with
  | nil => trivial
  | cons node earlier ih =>
      refine ⟨?_, ih h.2⟩
      intro target hedge
      exact (h.1 target hedge).imp_right fun htold => htold.mono hsub

/-- A closed walk through a complete node has a told edge.  The next node of the walk is complete
earlier unless the edge to it has been told, and the first complete node has no earlier one. -/
theorem Settled.exists_told_edge {cycles : List (List String)} {done walk : List String}
    (h : Settled g cycles done) (hwalk : g.ClosedWalk walk) {node : String}
    (hnode : node ∈ walk) (hdone : node ∈ done) :
    ∃ edge ∈ cycleEdges walk, ToldEdge cycles edge := by
  -- Along the walk one comes to nodes that were complete ever earlier, unless an edge was told.
  induction done generalizing node with
  | nil => simp at hdone
  | cons latest earlier ih =>
      rcases List.mem_cons.mp hdone with rfl | hearlier
      · obtain ⟨next, hnext, hedge⟩ := exists_mem_cycle_edges hnode
        rcases h.1 next (hwalk.edges _ hedge) with hbefore | htold
        · exact ih h.2 hnext hbefore
        · exact ⟨_, hedge, htold⟩
      · exact ih h.2 hnode hearlier

/-- A path of the search: a chain of edges through distinct nodes of the graph up to a node. -/
structure SearchPath (g : Adjacency) (path : List String) (node : String) : Prop where
  chain : List.IsChain g.HasEdge path
  distinct : path.Nodup
  known : path ⊆ g.nodes
  last : path.getLast? = some node

namespace CycleSearch

/-- What holds of a search at every time. -/
structure Invariant (g : Adjacency) (s : CycleSearch) : Prop where
  told : ∀ cycle ∈ s.cycles, g.ToldCycle cycle
  distinct : s.cycles.Nodup
  settled : Settled g s.cycles s.done

/-- A later state of a search: nothing that has been found is lost. -/
structure Extends (s later : CycleSearch) : Prop where
  done : s.done ⊆ later.done
  cycles : s.cycles ⊆ later.cycles

theorem Extends.refl (s : CycleSearch) : s.Extends s := ⟨List.Subset.refl _, List.Subset.refl _⟩

theorem Extends.trans {s middle later : CycleSearch} (h : s.Extends middle)
    (hlater : middle.Extends later) : s.Extends later :=
  ⟨List.Subset.trans h.done hlater.done, List.Subset.trans h.cycles hlater.cycles⟩

end CycleSearch

namespace Adjacency

/-- Keys are nodes. -/
theorem keys_subset_nodes (g : Adjacency) : g.keys ⊆ g.nodes := by
  intro node h
  exact mem_unique.mpr (List.mem_append_left _ h)

/-- Targets are nodes. -/
theorem HasEdge.target_mem_nodes {source target : String} (h : g.HasEdge source target) :
    target ∈ g.nodes := by
  obtain ⟨targets, hentry, htarget⟩ := h.exists_entry
  exact mem_unique.mpr (List.mem_append_right _ (List.mem_flatMap.mpr ⟨_, hentry, htarget⟩))

end Adjacency

namespace SearchPath

variable {path : List String} {node target : String}

/-- A node by itself is a path. -/
theorem single (h : node ∈ g.nodes) : SearchPath g [node] node :=
  ⟨by simp, by simp, by simpa using h, by simp⟩

/-- An edge to a node off the path makes it longer. -/
theorem extend (h : SearchPath g path node) (hedge : g.HasEdge node target)
    (hnew : target ∉ path) : SearchPath g (path ++ [target]) target := by
  refine ⟨?_, ?_, ?_, by simp⟩
  · rw [List.isChain_append]
    refine ⟨h.chain, by simp, ?_⟩
    intro x hx y hy
    rw [h.last] at hx
    simp only [Option.mem_def, Option.some.injEq, List.head?_cons] at hx hy
    exact hx ▸ hy ▸ hedge
  · rw [List.nodup_append]
    refine ⟨h.distinct, by simp, ?_⟩
    intro x hx y hy hxy
    obtain rfl := List.mem_singleton.mp hy
    exact hnew (hxy ▸ hx)
  · intro x hx
    rcases List.mem_append.mp hx with hx | hx
    · exact h.known hx
    · exact List.mem_singleton.mp hx ▸ hedge.target_mem_nodes

/-- A path has at most as many nodes as the graph. -/
theorem length_le (h : SearchPath g path node) : path.length ≤ g.nodes.length :=
  (List.subperm_of_subset h.distinct h.known).length_le

/-- The part of a path from a target of its last node on is a closed walk through distinct nodes,
whose last edge leads to the target. -/
theorem closed_from (h : SearchPath g path node) (hedge : g.HasEdge node target)
    (hmem : target ∈ path) :
    g.ClosedWalk (path.dropWhile (· != target)) ∧ (path.dropWhile (· != target)).Nodup ∧
      (node, target) ∈ cycleEdges (path.dropWhile (· != target)) := by
  have hsuffix := List.dropWhile_suffix (l := path) (· != target)
  have hfirst := head_drop_while_ne hmem
  have hlast : (path.dropWhile (· != target)).getLast? = some node := by
    have hne : path.dropWhile (· != target) ≠ [] := by
      intro hnil
      simp [hnil] at hfirst
    obtain ⟨before, hbefore⟩ := hsuffix
    have hwhole := h.last
    rw [← hbefore, List.getLast?_append, List.getLast?_eq_some_getLast hne, Option.some_or]
      at hwhole
    rw [List.getLast?_eq_some_getLast hne, hwhole]
  exact ⟨Adjacency.closed_walk_of_chain (h.chain.suffix hsuffix) hfirst hlast hedge,
    h.distinct.sublist hsuffix.sublist, last_first_mem_cycle_edges hfirst hlast⟩

end SearchPath

namespace CycleSearch

variable {s : CycleSearch} {path : List String} {node target : String}

/-- Closing a path tells the edge that closes it and keeps the invariant. -/
theorem Invariant.close (h : s.Invariant g) (hpath : SearchPath g path node)
    (hedge : g.HasEdge node target) (hmem : target ∈ path) :
    (s.close path target).Invariant g ∧ s.Extends (s.close path target) ∧
      ToldEdge (s.close path target).cycles (node, target) := by
  obtain ⟨hclosed, hdistinct, hlast⟩ := hpath.closed_from hedge hmem
  have htold := Adjacency.told_cycle_rotate_to_smallest hclosed hdistinct
  have hedges : (node, target) ∈
      cycleEdges (rotateToSmallest (path.dropWhile (· != target))) := by
    obtain ⟨n, hn⟩ := rotate_to_smallest_eq_rotate (path.dropWhile (· != target))
    rw [hn, mem_cycle_edges_rotate]
    exact hlast
  -- A cycle that is closed once more, from another of its nodes, is told only once.
  by_cases hknown : rotateToSmallest (path.dropWhile (· != target)) ∈ s.cycles
  · have hclose : s.close path target = s := by simp [CycleSearch.close, hknown]
    rw [hclose]
    exact ⟨h, .refl s, _, hknown, hedges⟩
  · have hclose : s.close path target =
        { s with cycles := s.cycles ++ [rotateToSmallest (path.dropWhile (· != target))] } := by
      simp [CycleSearch.close, hknown]
    rw [hclose]
    refine ⟨⟨?_, ?_, h.settled.mono (List.subset_append_left _ _)⟩,
      ⟨List.Subset.refl _, List.subset_append_left _ _⟩, _, by simp, hedges⟩
    · intro cycle hcycle
      rcases List.mem_append.mp hcycle with hcycle | hcycle
      · exact h.told cycle hcycle
      · exact List.mem_singleton.mp hcycle ▸ htold
    · rw [List.nodup_append]
      refine ⟨h.distinct, by simp, ?_⟩
      intro x hx y hy hxy
      exact hknown (List.mem_singleton.mp hy ▸ hxy ▸ hx)

/-- Completing a node all of whose edges are settled keeps the invariant. -/
theorem Invariant.complete (h : s.Invariant g)
    (hedges : ∀ target, g.HasEdge node target →
      target ∈ s.done ∨ ToldEdge s.cycles (node, target)) :
    Invariant g { s with done := node :: s.done } :=
  ⟨h.told, h.distinct, hedges, h.settled⟩

/-- What a search from the last node of a path comes to: the invariant holds, nothing is lost, and
the node is complete. -/
def VisitSpec (g : Adjacency) (fuel : Nat) : Prop :=
  ∀ (path : List String) (node : String) (s : CycleSearch), SearchPath g path node →
    g.nodes.length < fuel + path.length → s.Invariant g →
      (visit g fuel path node s).Invariant g ∧ s.Extends (visit g fuel path node s) ∧
        node ∈ (visit g fuel path node s).done

/-- Following edges keeps the invariant and settles them, if searches from the targets do. -/
theorem follow_spec {fuel : Nat} (hvisit : VisitSpec g fuel) (hpath : SearchPath g path node)
    (hfuel : g.nodes.length < fuel + (path.length + 1)) (targets : List String)
    (htargets : ∀ target ∈ targets, g.HasEdge node target) (s : CycleSearch)
    (h : s.Invariant g) :
    (follow g fuel path targets s).Invariant g ∧ s.Extends (follow g fuel path targets s) ∧
      ∀ target ∈ targets, target ∈ (follow g fuel path targets s).done ∨
        ToldEdge (follow g fuel path targets s).cycles (node, target) := by
  induction targets generalizing s with
  | nil =>
      rw [follow]
      exact ⟨h, .refl s, by simp⟩
  | cons target rest ih =>
      rw [follow]
      have hedge := htargets target List.mem_cons_self
      have hrest := fun target hmem => htargets target (List.mem_cons_of_mem _ hmem)
      -- One edge is settled whichever way it leads: back to the path, to a complete node, or on.
      obtain ⟨next, hnext, hinv, hext, hsettled⟩ : ∃ next,
          (if path.contains target then s.close path target
            else if s.done.contains target then s
            else visit g fuel (path ++ [target]) target s) = next ∧
          next.Invariant g ∧ s.Extends next ∧
          (target ∈ next.done ∨ ToldEdge next.cycles (node, target)) := by
        refine ⟨_, rfl, ?_⟩
        by_cases hback : target ∈ path
        · obtain ⟨hinv, hext, htold⟩ := h.close hpath hedge hback
          simpa [hback] using ⟨hinv, hext, Or.inr htold⟩
        · by_cases hdone : target ∈ s.done
          · simpa [hback, hdone] using ⟨h, Extends.refl s⟩
          · obtain ⟨hinv, hext, hmem⟩ := hvisit (path ++ [target]) target s
              (hpath.extend hedge hback) (by simpa using hfuel) h
            simpa [hback, hdone] using ⟨hinv, hext, Or.inl hmem⟩
      rw [hnext]
      obtain ⟨hinv', hext', hsettled'⟩ := ih hrest next hinv
      refine ⟨hinv', hext.trans hext', ?_⟩
      intro t ht
      rcases List.mem_cons.mp ht with rfl | ht
      · exact hsettled.imp (fun hmem => hext'.done hmem) fun htold => htold.mono hext'.cycles
      · exact hsettled' t ht

/-- A search from the last node of a path completes it.  The bound is large enough because paths
have distinct nodes. -/
theorem visit_spec (g : Adjacency) (fuel : Nat) : VisitSpec g fuel := by
  induction fuel with
  | zero =>
      -- A path that uses up the fuel would have more nodes than the graph.
      intro path node s hpath hfuel
      have := hpath.length_le
      omega
  | succ fuel ih =>
      intro path node s hpath hfuel h
      rw [visit]
      obtain ⟨hinv, hext, hsettled⟩ := follow_spec ih hpath (by omega) (g.targets node)
        (fun target hmem => Adjacency.mem_targets.mp hmem) s h
      refine ⟨hinv.complete fun target hedge => hsettled target (Adjacency.mem_targets.mpr hedge),
        ⟨?_, hext.cycles⟩, List.mem_cons_self⟩
      intro x hx
      exact List.mem_cons_of_mem _ (hext.done hx)

/-- Following edges with one more unit of fuel comes to the same, if searches from the targets
do. -/
theorem follow_succ_fuel {fuel : Nat}
    (hvisit : ∀ path node s, SearchPath g path node → g.nodes.length < fuel + path.length →
      visit g (fuel + 1) path node s = visit g fuel path node s)
    (hpath : SearchPath g path node) (hfuel : g.nodes.length < fuel + (path.length + 1))
    (targets : List String) (htargets : ∀ target ∈ targets, g.HasEdge node target)
    (s : CycleSearch) :
    follow g (fuel + 1) path targets s = follow g fuel path targets s := by
  induction targets generalizing s with
  | nil => rw [follow, follow]
  | cons target rest ih =>
      rw [follow, follow, ih fun target hmem => htargets target (List.mem_cons_of_mem _ hmem)]
      by_cases hback : target ∈ path
      · simp [hback]
      · rw [hvisit (path ++ [target]) target s
          (hpath.extend (htargets target List.mem_cons_self) hback) (by simpa using hfuel)]

/-- A search that has enough fuel comes to the same with more. -/
theorem visit_succ_fuel (g : Adjacency) (fuel : Nat) (path : List String) (node : String)
    (s : CycleSearch) (hpath : SearchPath g path node)
    (hfuel : g.nodes.length < fuel + path.length) :
    visit g (fuel + 1) path node s = visit g fuel path node s := by
  induction fuel generalizing path node s with
  | zero =>
      have := hpath.length_le
      omega
  | succ fuel ih =>
      rw [visit, visit, follow_succ_fuel ih hpath (by omega) (g.targets node)
        fun target hmem => Adjacency.mem_targets.mp hmem]

/-- The bound on the length of paths is never reached: a larger one gives the same search. -/
theorem search_all_add_fuel (g : Adjacency) (extra : Nat) {starts : List String}
    (hstarts : starts ⊆ g.nodes) :
    searchAll g (g.nodes.length + 1 + extra) starts =
      searchAll g (g.nodes.length + 1) starts := by
  induction extra with
  | zero => rfl
  | succ extra ih =>
      rw [← ih]
      refine List.foldl_ext _ _ _ fun s start hstart => ?_
      rw [← Nat.add_assoc, visit_succ_fuel g _ [start] start s (.single (hstarts hstart))
        (by rw [List.length_singleton]; omega)]

/-- The search from all starts keeps the invariant and completes every start. -/
theorem search_all_spec (g : Adjacency) {starts : List String} (hstarts : starts ⊆ g.nodes) :
    (searchAll g (g.nodes.length + 1) starts).Invariant g ∧
      starts ⊆ (searchAll g (g.nodes.length + 1) starts).done := by
  -- The induction is on the starts that have been dealt with, the latest last.
  induction starts using List.reverseRecOn with
  | nil => exact ⟨⟨by simp [searchAll], by simp [searchAll], trivial⟩, by simp⟩
  | append_singleton starts start ih =>
      obtain ⟨hinv, hdone⟩ := ih (List.Subset.trans (List.subset_append_left _ _) hstarts)
      have hstep : searchAll g (g.nodes.length + 1) (starts ++ [start]) =
          let s := searchAll g (g.nodes.length + 1) starts
          if s.done.contains start then s
          else visit g (g.nodes.length + 1) [start] start s := by
        simp [searchAll]
      rw [hstep]
      by_cases hmem : start ∈ (searchAll g (g.nodes.length + 1) starts).done
      · simpa [hmem] using ⟨hinv, hdone⟩
      · have hnode : start ∈ g.nodes := hstarts (by simp)
        obtain ⟨hinv', hext, hstart⟩ := visit_spec g (g.nodes.length + 1) [start] start _
          (.single hnode) (by rw [List.length_singleton]; omega) hinv
        simpa [hmem, hstart] using ⟨hinv', List.Subset.trans hdone hext.done⟩

end CycleSearch

/-- The search reports cycles of the graph, each told from its smallest node on and none twice, and
every closed walk of the graph shares an edge with a reported one; so nothing is reported exactly if
there is no closed walk.  It ends by itself: no bound on the length of its paths from the number of
nodes on makes a difference. -/
theorem detect_cycles_sound_and_complete (g : Adjacency) :
    (∀ extra, (CycleSearch.searchAll g (g.nodes.length + 1 + extra)
      (Text.sorted g.keys)).cycles = detectCycles g) ∧
    (∀ cycle ∈ detectCycles g, g.ToldCycle cycle) ∧
    (detectCycles g).Nodup ∧
    (∀ walk, g.ClosedWalk walk →
      ∃ cycle ∈ detectCycles g, ∃ edge ∈ cycleEdges walk, edge ∈ cycleEdges cycle) ∧
    (detectCycles g = [] ↔ ¬ ∃ walk, g.ClosedWalk walk) := by
  have hsorted : ∀ {node}, node ∈ Text.sorted g.keys ↔ node ∈ g.keys := by simp [Text.sorted]
  have hstarts : Text.sorted g.keys ⊆ g.nodes := fun _ hmem =>
    g.keys_subset_nodes (hsorted.mp hmem)
  obtain ⟨hinv, hdone⟩ := CycleSearch.search_all_spec g hstarts
  have hcomplete : ∀ walk, g.ClosedWalk walk →
      ∃ cycle ∈ detectCycles g, ∃ edge ∈ cycleEdges walk, edge ∈ cycleEdges cycle := by
    intro walk hwalk
    obtain ⟨node, hnode⟩ := List.exists_mem_of_ne_nil walk hwalk.nonempty
    obtain ⟨next, _, hedge⟩ := exists_mem_cycle_edges hnode
    have hkey : node ∈ g.keys := (hwalk.edges _ hedge).source_mem_keys
    obtain ⟨edge, hmem, cycle, hcycle, htold⟩ :=
      hinv.settled.exists_told_edge hwalk hnode (hdone (hsorted.mpr hkey))
    exact ⟨cycle, hcycle, edge, hmem, htold⟩
  refine ⟨?_, hinv.told, hinv.distinct, hcomplete, ?_, ?_⟩
  · intro extra
    rw [CycleSearch.search_all_add_fuel g extra hstarts, detectCycles]
  · rintro hnil ⟨walk, hwalk⟩
    obtain ⟨cycle, hcycle, _⟩ := hcomplete walk hwalk
    simp [hnil] at hcycle
  · intro hnone
    refine List.eq_nil_iff_forall_not_mem.mpr fun cycle hcycle => ?_
    exact hnone ⟨cycle, (hinv.told cycle hcycle).closed⟩

end ComponentMigration
