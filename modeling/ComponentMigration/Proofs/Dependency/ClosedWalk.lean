import Mathlib.Data.List.Chain
import Mathlib.Data.List.Rotate
import ComponentMigration.Dependency.Graph
import ComponentMigration.Proofs.Assoc
import ComponentMigration.Proofs.Text.Order

/-!
# Closed walks of a directed graph

A closed walk is a list of nodes in which every node has an edge to the next one and the last has an
edge to the first.  Where a closed walk begins does not matter: `mem_cycle_edges_rotate` says that
turning it round keeps its edges.  A told cycle is a closed walk without repetitions that begins with
its smallest node, and `told_cycle_rotate_to_smallest` makes one of every closed walk without
repetitions.
-/

namespace ComponentMigration

namespace Adjacency

/-- An edge of the graph: a target in the list of a node. -/
def HasEdge (g : Adjacency) (source target : String) : Prop := target ∈ (g.get? source).getD []

/-- A list of nodes along whose edges one comes back to its start. -/
structure ClosedWalk (g : Adjacency) (walk : List String) : Prop where
  nonempty : walk ≠ []
  edges : ∀ edge ∈ cycleEdges walk, g.HasEdge edge.1 edge.2

/-- A closed walk through distinct nodes, told from its smallest node on. -/
structure ToldCycle (g : Adjacency) (cycle : List String) : Prop where
  closed : g.ClosedWalk cycle
  distinct : cycle.Nodup
  smallest : ∀ first ∈ cycle.head?, ∀ node ∈ cycle, Text.le first node

variable {g : Adjacency}

/-- The search goes through the targets in order, but leaves none out. -/
theorem mem_targets {node target : String} :
    target ∈ g.targets node ↔ g.HasEdge node target := by
  simp [targets, HasEdge, Text.sorted]

/-- An edge stands in an entry of the table. -/
theorem HasEdge.exists_entry {source target : String} (h : g.HasEdge source target) :
    ∃ targets, (source, targets) ∈ g ∧ target ∈ targets := by
  unfold HasEdge at h
  cases hget : g.get? source with
  | none => simp [hget] at h
  | some targets =>
      rw [hget] at h
      exact ⟨targets, Assoc.mem_of_get? hget, h⟩

/-- Where every node has one entry, its targets are those of the entry. -/
theorem has_edge_iff_of_nodup {source target : String} (h : g.keys.Nodup) :
    g.HasEdge source target ↔ ∃ targets, (source, targets) ∈ g ∧ target ∈ targets := by
  refine ⟨HasEdge.exists_entry, ?_⟩
  rintro ⟨targets, hentry, htarget⟩
  rw [HasEdge, (Assoc.get?_eq_some_iff h).mpr hentry]
  exact htarget

/-- A node with an edge is a key of the table. -/
theorem HasEdge.source_mem_keys {source target : String} (h : g.HasEdge source target) :
    source ∈ g.keys := by
  obtain ⟨targets, hentry, -⟩ := h.exists_entry
  exact List.mem_map_of_mem hentry

end Adjacency

/-- The edges of a cycle lead from every node to the node one place further on. -/
theorem cycle_edges_eq_zip_rotate (cycle : List String) :
    cycleEdges cycle = cycle.zip (cycle.rotate 1) := by
  cases cycle with
  | nil => rfl
  | cons first rest => simp [cycleEdges, List.rotate_cons_succ]

/-- Every node of a cycle has an edge to a node of the cycle. -/
theorem exists_mem_cycle_edges {cycle : List String} {node : String} (h : node ∈ cycle) :
    ∃ next ∈ cycle, (node, next) ∈ cycleEdges cycle := by
  have hfst : (cycleEdges cycle).map Prod.fst = cycle := by
    rw [cycle_edges_eq_zip_rotate]
    exact List.map_fst_zip (by simp)
  rw [← hfst] at h
  obtain ⟨⟨_, next⟩, hedge, rfl⟩ := List.mem_map.mp h
  refine ⟨next, ?_, hedge⟩
  rw [cycle_edges_eq_zip_rotate] at hedge
  exact List.mem_rotate.mp (List.of_mem_zip hedge).2

/-- A cycle that is turned round has the same edges. -/
theorem mem_cycle_edges_rotate {cycle : List String} {n : Nat} {edge : String × String} :
    edge ∈ cycleEdges (cycle.rotate n) ↔ edge ∈ cycleEdges cycle := by
  have hrotate : cycleEdges (cycle.rotate n) = (cycleEdges cycle).rotate n := by
    rw [cycle_edges_eq_zip_rotate, cycle_edges_eq_zip_rotate, List.rotate_rotate, Nat.add_comm,
      ← List.rotate_rotate]
    exact (List.zipWith_rotate_distrib Prod.mk cycle (cycle.rotate 1) n (by simp)).symm
  rw [hrotate, List.mem_rotate]

/-- The edges of a list that is followed by one more node are all there exactly if the whole is a
chain. -/
theorem forall_mem_zip_iff_chain {R : String → String → Prop} {first last : String}
    {rest : List String} :
    (∀ edge ∈ (first :: rest).zip (rest ++ [last]), R edge.1 edge.2) ↔
      List.IsChain R (first :: (rest ++ [last])) := by
  -- The list grows at its front, so the first node varies while the last one stays.
  induction rest generalizing first with
  | nil => simp
  | cons next rest ih =>
      have hzip : (first :: next :: rest).zip (next :: rest ++ [last]) =
          (first, next) :: (next :: rest).zip (rest ++ [last]) := rfl
      rw [hzip, List.forall_mem_cons, ih]
      simp

/-- A path whose last node has an edge to its first node is a closed walk. -/
theorem Adjacency.closed_walk_of_chain {g : Adjacency} {path : List String}
    {first last : String} (hchain : List.IsChain g.HasEdge path)
    (hfirst : path.head? = some first) (hlast : path.getLast? = some last)
    (hedge : g.HasEdge last first) : g.ClosedWalk path := by
  cases path with
  | nil => simp at hfirst
  | cons node rest =>
      obtain rfl : node = first := by simpa using hfirst
      refine ⟨by simp, forall_mem_zip_iff_chain.2 ?_⟩
      rw [← List.cons_append, List.isChain_append]
      refine ⟨hchain, by simp, ?_⟩
      intro x hx y hy
      rw [hlast] at hx
      simp only [Option.mem_def, Option.some.injEq, List.head?_cons] at hx hy
      subst hx
      subst hy
      exact hedge

/-- The edge from the last node to the first one is an edge of the cycle. -/
theorem last_first_mem_cycle_edges {cycle : List String} {first last : String}
    (hfirst : cycle.head? = some first) (hlast : cycle.getLast? = some last) :
    (last, first) ∈ cycleEdges cycle := by
  obtain ⟨initial, rfl⟩ : ∃ initial, cycle = initial ++ [last] :=
    List.getLast?_eq_some_iff.mp hlast
  obtain ⟨rest, hrest⟩ : ∃ rest, initial ++ [last] = first :: rest :=
    List.head?_eq_some_iff.mp hfirst
  have hlength : initial.length = rest.length := by
    simpa using congrArg List.length hrest
  have hedges : cycleEdges (initial ++ [last]) = (initial ++ [last]).zip (rest ++ [first]) := by
    simp [cycleEdges, hrest]
  rw [hedges, List.zip_append hlength]
  simp

/-- Dropping what stands before a text of a list leaves that text first. -/
theorem head_drop_while_ne {x : String} {xs : List String} (h : x ∈ xs) :
    (xs.dropWhile (· != x)).head? = some x := by
  induction xs with
  | nil => simp at h
  | cons y ys ih =>
      by_cases hy : y = x
      · simp [hy]
      · rw [List.dropWhile_cons_of_pos (by simpa using hy)]
        exact ih ((List.mem_cons.mp h).resolve_left (Ne.symm hy))

/-- The smallest text of a list, by its first two texts. -/
theorem smallest_cons (x y : String) (ys : List String) :
    smallest x (y :: ys) = if y < x then smallest y ys else smallest x ys := by
  by_cases h : y < x <;> simp [smallest, h, -String.lt_iff_ltb]

/-- The smallest text of a list is one of its texts. -/
theorem smallest_mem (x : String) (xs : List String) : smallest x xs ∈ x :: xs := by
  induction xs generalizing x with
  | nil => exact List.mem_cons_self
  | cons y ys ih =>
      rw [smallest_cons]
      split
      · exact List.mem_cons_of_mem _ (ih y)
      · rcases List.mem_cons.mp (ih x) with h | h <;> simp [h]

/-- No text of a list is smaller than the smallest one. -/
theorem smallest_le {x y : String} {xs : List String} (hy : y ∈ x :: xs) :
    smallest x xs ≤ y := by
  induction xs generalizing x y with
  | nil =>
      obtain rfl := List.mem_singleton.mp hy
      exact le_refl _
  | cons z zs ih =>
      rw [smallest_cons]
      rcases List.mem_cons.mp hy with rfl | hy
      · split
        case isTrue h => exact (ih List.mem_cons_self).trans (le_of_lt h)
        case isFalse => exact ih List.mem_cons_self
      · rcases List.mem_cons.mp hy with rfl | hy
        · split
          case isTrue => exact ih List.mem_cons_self
          case isFalse h => exact (ih List.mem_cons_self).trans (not_lt.mp h)
        · split <;> exact ih (List.mem_cons_of_mem _ hy)

/-- Telling a cycle from its smallest node on turns it round. -/
theorem rotate_to_smallest_eq_rotate (cycle : List String) :
    ∃ n, rotateToSmallest cycle = cycle.rotate n := by
  cases cycle with
  | nil => exact ⟨0, rfl⟩
  | cons x xs =>
      refine ⟨((x :: xs).takeWhile (· != smallest x xs)).length, ?_⟩
      have h := List.rotate_append_length_eq ((x :: xs).takeWhile (· != smallest x xs))
        ((x :: xs).dropWhile (· != smallest x xs))
      rw [List.takeWhile_append_dropWhile] at h
      exact h.symm

/-- The first node of a cycle that is told from its smallest node on. -/
theorem head_rotate_to_smallest (x : String) (xs : List String) :
    (rotateToSmallest (x :: xs)).head? = some (smallest x xs) := by
  rw [rotateToSmallest, List.head?_append, head_drop_while_ne (smallest_mem x xs)]
  rfl

/-- A closed walk through distinct nodes becomes a told cycle with the same edges. -/
theorem Adjacency.told_cycle_rotate_to_smallest {g : Adjacency} {cycle : List String}
    (hclosed : g.ClosedWalk cycle) (hdistinct : cycle.Nodup) :
    g.ToldCycle (rotateToSmallest cycle) := by
  obtain ⟨n, hn⟩ := rotate_to_smallest_eq_rotate cycle
  refine ⟨⟨?_, ?_⟩, ?_, ?_⟩
  · rw [hn, Ne, List.rotate_eq_nil_iff]
    exact hclosed.nonempty
  · intro edge hedge
    rw [hn, mem_cycle_edges_rotate] at hedge
    exact hclosed.edges edge hedge
  · rw [hn, List.nodup_rotate]
    exact hdistinct
  · intro first hfirst node hnode
    rw [hn, List.mem_rotate] at hnode
    cases cycle with
    | nil => simp at hnode
    | cons x xs =>
        rw [head_rotate_to_smallest] at hfirst
        obtain rfl : smallest x xs = first := by simpa using hfirst
        exact text_le_iff.mpr (smallest_le hnode)

end ComponentMigration
