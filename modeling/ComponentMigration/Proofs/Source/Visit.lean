import Mathlib.Algebra.Ring.Nat
import ComponentMigration.Proofs.Assoc
import ComponentMigration.Proofs.Source.Sites
import ComponentMigration.Source.Visit

/-!
# What a visit calls

A visit with a stack does what a recursive walk in pre-order does (`visit_eq_descend`).  Seen from
outside, it calls handlers for nodes as they occur in the tree (`visit_calls`): in pre-order, each
with as many levels of depth as the node has nesting nodes above it, and for every node that has a
handler unless a call for a node above it said not to go on.
-/

namespace ComponentMigration

namespace Visitor

variable {σ : Type} {v : Visitor σ} {P : σ → Prop}

mutual

/-- Goes through a tree in pre-order by recursion, from a depth on. -/
def descend (v : Visitor σ) : Nat → Node → σ → σ
  | depth, .mk info children, s =>
    match v.handle depth (.mk info children) s with
    | (s, true) => descendAll v (v.depthBelow depth (.mk info children)) children s
    | (s, false) => s

/-- Goes through several trees of one depth, one after the other. -/
def descendAll (v : Visitor σ) : Nat → List Node → σ → σ
  | _, [], s => s
  | depth, c :: rest, s => descendAll v depth rest (descend v depth c s)

end

/-- What every handler keeps, a visitor keeps at every node. -/
theorem handle_keeps (hkeep : ∀ entry ∈ v.handlers, ∀ depth n s, P s → P (entry.2 depth n s).1)
    (depth : Nat) (n : Node) (s : σ) (h : P s) : P (v.handle depth n s).1 := by
  unfold handle
  split
  · next handler hget => exact hkeep _ (Assoc.mem_of_get? hget) depth n s h
  · exact h

theorem run_keeps (hkeep : ∀ entry ∈ v.handlers, ∀ depth n s, P s → P (entry.2 depth n s).1)
    (steps : Nat) (stack : List (Node × Nat)) (s : σ) (h : P s) : P (v.run steps stack s) := by
  induction steps generalizing stack s with
  | zero => exact h
  | succ steps ih =>
      cases stack with
      | nil => exact h
      | cons top stack =>
          have hown := handle_keeps hkeep top.2 top.1 s h
          rw [run]
          split
          all_goals
            next heq =>
              rw [heq] at hown
              exact ih _ _ hown

/-- What every handler keeps holds after a visit. -/
theorem visit_keeps (hkeep : ∀ entry ∈ v.handlers, ∀ depth n s, P s → P (entry.2 depth n s).1)
    (root : Node) (s : σ) (h : P s) : P (v.visit root s) :=
  run_keeps hkeep _ _ s h

/-- The first of the trees that are put on a stack lies on top. -/
theorem push_eq (trees : List Node) (depth : Nat) (stack : List (Node × Nat)) :
    push trees depth stack = trees.map (·, depth) ++ stack := by
  rw [push, List.foldl_reverse]
  induction trees with
  | nil => rfl
  | cons c trees ih => rw [List.foldr_cons, ih, List.map_cons, List.cons_append]

/-- The number of nodes of the trees on a stack. -/
def stackSize (stack : List (Node × Nat)) : Nat := (stack.map fun entry => entry.1.walk.length).sum

theorem stack_size_children (trees : List Node) (depth : Nat) :
    stackSize (trees.map (·, depth)) = (Node.walkAll trees).length := by
  induction trees with
  | nil => rfl
  | cons c rest ih =>
      rw [Node.walkAll, List.length_append, ← ih]
      rfl

/-- A node has one node more than its children. -/
theorem stack_size_push (n : Node) (below depth : Nat) (stack : List (Node × Nat)) :
    stackSize (push n.children below stack) + 1 = stackSize ((n, depth) :: stack) := by
  cases n with
  | mk info children =>
      have happend : stackSize (children.map (·, below) ++ stack) =
          (Node.walkAll children).length + stackSize stack := by
        rw [← stack_size_children children below, stackSize, List.map_append, List.sum_append]
        rfl
      rw [push_eq, Node.children, happend]
      simp only [stackSize, List.map_cons, List.sum_cons, Node.walk, List.length_cons]
      omega

theorem descend_all_eq_foldl (trees : List Node) (depth : Nat) (s : σ) :
    v.descendAll depth trees s =
      (trees.map (·, depth)).foldl (fun s entry => v.descend entry.2 entry.1 s) s := by
  induction trees generalizing s with
  | nil => rfl
  | cons c rest ih => exact ih _

/-- The trees on a stack are gone through from the top on, if there are steps enough. -/
theorem run_eq_descend (steps : Nat) (stack : List (Node × Nat)) (s : σ)
    (h : stackSize stack ≤ steps) :
    v.run steps stack s = stack.foldl (fun s entry => v.descend entry.2 entry.1 s) s := by
  induction steps generalizing stack s with
  | zero =>
      cases stack with
      | nil => rfl
      | cons top stack =>
          have hsize := stack_size_push top.1 0 top.2 stack
          change _ = stackSize (top :: stack) at hsize
          omega
  | succ steps ih =>
      cases stack with
      | nil => rfl
      | cons top stack =>
          obtain ⟨⟨info, children⟩, depth⟩ := top
          have hsize := stack_size_push (.mk info children) (v.depthBelow depth (.mk info children))
            depth stack
          have hrest : stackSize stack ≤
              stackSize (push children (v.depthBelow depth (.mk info children)) stack) := by
            simp [push_eq, stackSize]
          rw [run, List.foldl_cons, descend]
          cases hhandle : v.handle depth (.mk info children) s with
          | mk next goOn =>
              cases goOn with
              | true =>
                  dsimp only
                  rw [ih _ next (by omega), push_eq, List.foldl_append, descend_all_eq_foldl]
                  rfl
              | false =>
                  dsimp only [Node.children] at hsize ⊢
                  exact ih stack next (by omega)

/-- A visit is a walk in pre-order by recursion. -/
theorem visit_eq_descend (v : Visitor σ) (root : Node) (s : σ) :
    v.visit root s = v.descend 0 root s :=
  run_eq_descend _ _ s (by simp [stackSize])

end Visitor

namespace Node

/-- A node where it occurs in a tree: which child to take at each step from the root, and the nodes
that are passed. -/
structure Occurrence where
  place : List Nat
  above : List Node
  node : Node

/-- Whether an occurrence lies strictly below another one. -/
def Occurrence.isBelow (o other : Occurrence) : Bool :=
  other.place.isPrefixOf o.place && other.place != o.place

mutual

/-- The occurrences of the nodes of a tree that stands at a place, in pre-order. -/
def occurrencesAt (place : List Nat) (above : List Node) : Node → List Occurrence
  | .mk info children =>
    ⟨place, above, .mk info children⟩ ::
      occurrencesFrom place (above ++ [.mk info children]) 0 children

/-- The occurrences of the nodes of the children of a node, from one of them on. -/
def occurrencesFrom (place : List Nat) (above : List Node) : Nat → List Node → List Occurrence
  | _, [] => []
  | i, c :: rest => occurrencesAt (place ++ [i]) above c ++ occurrencesFrom place above (i + 1) rest

end

/-- The occurrences of the nodes of a tree, in pre-order. -/
def occurrences (root : Node) : List Occurrence := root.occurrencesAt [] []

mutual

/-- The occurrences tell the nodes of a walk. -/
theorem map_node_occurrences_at (place : List Nat) (above : List Node) (n : Node) :
    (n.occurrencesAt place above).map Occurrence.node = n.walk := by
  cases n with
  | mk info children =>
      rw [occurrencesAt, walk, List.map_cons, map_node_occurrences_from]

theorem map_node_occurrences_from (place : List Nat) (above : List Node) (i : Nat)
    (trees : List Node) :
    (occurrencesFrom place above i trees).map Occurrence.node = walkAll trees := by
  cases trees with
  | nil => rfl
  | cons c rest =>
      rw [occurrencesFrom, walkAll, List.map_append, map_node_occurrences_at,
        map_node_occurrences_from]

end

mutual

theorem prefix_of_mem_occurrences_at {place : List Nat} {above : List Node} {n : Node}
    {o : Occurrence} (h : o ∈ n.occurrencesAt place above) : place <+: o.place := by
  cases n with
  | mk info children =>
      rw [occurrencesAt] at h
      rcases List.mem_cons.mp h with rfl | h
      · exact List.prefix_refl _
      · obtain ⟨j, -, hj⟩ := prefix_of_mem_occurrences_from h
        exact (List.prefix_append place [j]).trans hj

/-- What is below a child has the child's number in its place. -/
theorem prefix_of_mem_occurrences_from {place : List Nat} {above : List Node} {i : Nat}
    {trees : List Node} {o : Occurrence} (h : o ∈ occurrencesFrom place above i trees) :
    ∃ j, i ≤ j ∧ place ++ [j] <+: o.place := by
  cases trees with
  | nil => cases h
  | cons c rest =>
      rw [occurrencesFrom] at h
      rcases List.mem_append.mp h with h | h
      · exact ⟨i, Nat.le_refl i, prefix_of_mem_occurrences_at h⟩
      · obtain ⟨j, hj, hprefix⟩ := prefix_of_mem_occurrences_from h
        exact ⟨j, Nat.le_of_succ_le hj, hprefix⟩

end

section Places

variable {place : List Nat} {above : List Node} {o : Occurrence}

theorem Occurrence.is_below_iff {o other : Occurrence} :
    o.isBelow other = true ↔ other.place <+: o.place ∧ other.place ≠ o.place := by
  simp [isBelow]

/-- What is below a node lies below its occurrence. -/
theorem is_below_of_mem_occurrences_from {i : Nat} {trees : List Node} {n : Node}
    {above' : List Node} (h : o ∈ occurrencesFrom place above i trees) :
    o.isBelow ⟨place, above', n⟩ = true ∧ Occurrence.isBelow ⟨place, above', n⟩ o = false := by
  obtain ⟨j, -, hj⟩ := prefix_of_mem_occurrences_from h
  have hlength : place.length < o.place.length :=
    Nat.lt_of_lt_of_le (by simp) hj.length_le
  constructor
  · refine Occurrence.is_below_iff.2 ⟨(List.prefix_append place [j]).trans hj, ?_⟩
    exact fun heq => absurd (congrArg List.length heq) (Nat.ne_of_lt hlength)
  · refine Bool.eq_false_iff.mpr fun hbelow => ?_
    exact absurd (Occurrence.is_below_iff.1 hbelow).1.length_le (by simpa using hlength)

/-- Nodes below different children do not lie below each other. -/
theorem not_is_below_of_ne {o other : Occurrence} {i j : Nat} (hne : i ≠ j)
    (ho : place ++ [i] <+: o.place) (hother : place ++ [j] <+: other.place) :
    o.isBelow other = false := by
  refine Bool.eq_false_iff.mpr fun hbelow => hne ?_
  have hprefix := hother.trans (Occurrence.is_below_iff.1 hbelow).1
  have heq : place ++ [i] = place ++ [j] :=
    (List.prefix_of_prefix_length_le ho hprefix (by simp)).eq_of_length (by simp)
  simpa using heq

end Places

end Node

namespace Visitor

variable {σ : Type} {v : Visitor σ} {s t : σ}

/-- The number of nesting nodes above an occurrence. -/
def depthOf (v : Visitor σ) (above : List Node) : Nat :=
  above.countP fun n => v.nestingKinds.contains n.kind

/-- Whether a visitor has a handler for a node. -/
def handles (v : Visitor σ) (n : Node) : Bool := (v.handlers.get? n.kind).isSome

/-- Calls of handlers, one after the other, from a state to another one: each is for an occurrence,
with its depth, and says whether to go on below it. -/
inductive Calls (v : Visitor σ) : List (Node.Occurrence × Bool) → σ → σ → Prop
  | nil (s : σ) : Calls v [] s s
  | cons {o : Node.Occurrence} {goOn : Bool} {calls : List (Node.Occurrence × Bool)}
      {handler : Handler σ} {s u t : σ} :
      v.handlers.get? o.node.kind = some handler →
      handler (v.depthOf o.above) o.node s = (u, goOn) →
      Calls v calls u t → Calls v ((o, goOn) :: calls) s t

/-- Whether one of some calls said not to go on above an occurrence. -/
def cutOff (calls : List (Node.Occurrence × Bool)) (o : Node.Occurrence) : Bool :=
  calls.any fun call => !call.2 && o.isBelow call.1

/-- The occurrences of which handlers are called, given the answers of the calls. -/
def reached (v : Visitor σ) (calls : List (Node.Occurrence × Bool))
    (occurrences : List Node.Occurrence) : List Node.Occurrence :=
  occurrences.filter fun o => v.handles o.node && !cutOff calls o

theorem Calls.append {first second : List (Node.Occurrence × Bool)} {u : σ}
    (h : v.Calls first s u) (h' : v.Calls second u t) : v.Calls (first ++ second) s t := by
  induction h with
  | nil => exact h'
  | cons hhandler hcall _ ih => exact .cons hhandler hcall (ih h')

/-- Calls for other occurrences cut nothing off. -/
theorem reached_congr {calls calls' : List (Node.Occurrence × Bool)}
    {occurrences : List Node.Occurrence}
    (h : ∀ o ∈ occurrences, cutOff calls o = cutOff calls' o) :
    v.reached calls occurrences = v.reached calls' occurrences :=
  List.filter_congr fun o ho => by rw [h o ho]

theorem mem_of_map_eq_reached {calls calls' : List (Node.Occurrence × Bool)}
    {occurrences : List Node.Occurrence} (h : calls.map Prod.fst = v.reached calls' occurrences)
    {call : Node.Occurrence × Bool} (hcall : call ∈ calls) : call.1 ∈ occurrences := by
  have hmem : call.1 ∈ calls.map Prod.fst := List.mem_map_of_mem hcall
  rw [h] at hmem
  exact (List.mem_filter.mp hmem).1

section Reached

variable {o : Node.Occurrence} {below : List Node.Occurrence}
  {calls : List (Node.Occurrence × Bool)}

theorem reached_of_unhandled (h : v.handles o.node = false) :
    v.reached calls (o :: below) = v.reached calls below := by
  unfold reached
  rw [List.filter_cons_of_neg (by simp [h])]

/-- A call that does not go on cuts off all that is below. -/
theorem reached_of_stop (h : v.handles o.node = true) (hself : o.isBelow o = false)
    (hbelow : ∀ b ∈ below, b.isBelow o = true) : v.reached [(o, false)] (o :: below) = [o] := by
  have hcut : ∀ b, cutOff [(o, false)] b = b.isBelow o := fun b => by simp [cutOff]
  unfold reached
  rw [List.filter_cons_of_pos (by simp [h, hcut, hself]), List.filter_eq_nil_iff.mpr]
  intro b hb
  simp [hcut, hbelow b hb]

/-- A call that goes on cuts off nothing, and calls for what is below do not cut off what is above. -/
theorem reached_of_going_on (h : v.handles o.node = true)
    (hcalls : ∀ call ∈ calls, o.isBelow call.1 = false) :
    v.reached ((o, true) :: calls) (o :: below) = o :: v.reached calls below := by
  have hcut : ∀ b, cutOff ((o, true) :: calls) b = cutOff calls b := fun b => by simp [cutOff]
  have hhere : cutOff calls o = false := by
    refine Bool.eq_false_iff.mpr fun hany => ?_
    obtain ⟨call, hcall, hstop⟩ := List.any_eq_true.mp hany
    simp [hcalls call hcall] at hstop
  rw [reached_congr fun b _ => hcut b]
  unfold reached
  rw [List.filter_cons_of_pos (by simp [h, hhere])]

end Reached

theorem depth_of_append (above : List Node) (n : Node) :
    v.depthOf (above ++ [n]) = v.depthBelow (v.depthOf above) n := by
  rw [depthOf, List.countP_append, List.countP_singleton, depthBelow]
  split <;> rfl

mutual

/-- What a walk calls below a place. -/
theorem descend_calls (place : List Nat) (above : List Node) (n : Node) (s : σ) :
    ∃ calls, v.Calls calls s (v.descend (v.depthOf above) n s) ∧
      calls.map Prod.fst = v.reached calls (n.occurrencesAt place above) := by
  cases n with
  | mk info children =>
      let here : Node.Occurrence := ⟨place, above, .mk info children⟩
      let below := Node.occurrencesFrom place (above ++ [.mk info children]) 0 children
      have hbelow : ∀ o ∈ below, o.isBelow here = true ∧ here.isBelow o = false :=
        fun o ho => Node.is_below_of_mem_occurrences_from ho
      have hself : here.isBelow here = false := by simp [Node.Occurrence.isBelow]
      rw [Node.occurrencesAt, descend]
      change ∃ calls, _ ∧ _ = v.reached calls (here :: below)
      cases hget : v.handlers.get? (Node.mk info children).kind with
      | none =>
          obtain ⟨calls, hcalls, hreached⟩ :=
            descend_all_calls place (above ++ [.mk info children]) 0 children s
          have hhandles : v.handles here.node = false := by simp [handles, here, hget]
          rw [handle, hget]
          exact ⟨calls, depth_of_append above (.mk info children) ▸ hcalls,
            hreached.trans (reached_of_unhandled hhandles).symm⟩
      | some handler =>
          have hhandles : v.handles here.node = true := by simp [handles, here, hget]
          rw [handle, hget]
          dsimp only
          cases hanswer : handler (v.depthOf above) (.mk info children) s with
          | mk u goOn =>
              cases goOn with
              | false =>
                  exact ⟨[(here, false)], .cons hget hanswer (.nil u),
                    (reached_of_stop hhandles hself fun o ho => (hbelow o ho).1).symm⟩
              | true =>
                  obtain ⟨calls, hcalls, hreached⟩ :=
                    descend_all_calls place (above ++ [.mk info children]) 0 children u
                  rw [depth_of_append] at hcalls
                  have hlies : ∀ call ∈ calls, here.isBelow call.1 = false := fun call hcall =>
                    (hbelow _ (mem_of_map_eq_reached hreached hcall)).2
                  refine ⟨(here, true) :: calls, .cons hget hanswer hcalls, ?_⟩
                  rw [reached_of_going_on hhandles hlies, ← hreached, List.map_cons]

theorem descend_all_calls (place : List Nat) (above : List Node) (i : Nat) (trees : List Node)
    (s : σ) :
    ∃ calls, v.Calls calls s (v.descendAll (v.depthOf above) trees s) ∧
      calls.map Prod.fst = v.reached calls (Node.occurrencesFrom place above i trees) := by
  cases trees with
  | nil => exact ⟨[], .nil s, rfl⟩
  | cons c rest =>
      obtain ⟨first, hfirst, hreached⟩ := descend_calls (place ++ [i]) above c s
      obtain ⟨later, hlater, hreached'⟩ := descend_all_calls place above (i + 1) rest
        (v.descend (v.depthOf above) c s)
      refine ⟨first ++ later, hfirst.append hlater, ?_⟩
      have happend : ∀ o, cutOff (first ++ later) o = (cutOff first o || cutOff later o) :=
        fun o => List.any_append
      -- What is below one child is not cut off by calls below another one.
      have hother : ∀ o ∈ Node.occurrencesAt (place ++ [i]) above c, cutOff later o = false := by
        intro o ho
        refine Bool.eq_false_iff.mpr fun hany => ?_
        obtain ⟨call, hcall, hstop⟩ := List.any_eq_true.mp hany
        obtain ⟨j, hj, hplace⟩ :=
          Node.prefix_of_mem_occurrences_from (mem_of_map_eq_reached hreached' hcall)
        have hlies := Node.not_is_below_of_ne (by omega : i ≠ j)
          (Node.prefix_of_mem_occurrences_at ho) hplace
        simp [hlies] at hstop
      have hother' : ∀ o ∈ Node.occurrencesFrom place above (i + 1) rest,
          cutOff first o = false := by
        intro o ho
        refine Bool.eq_false_iff.mpr fun hany => ?_
        obtain ⟨call, hcall, hstop⟩ := List.any_eq_true.mp hany
        obtain ⟨j, hj, hplace⟩ := Node.prefix_of_mem_occurrences_from ho
        have hlies := Node.not_is_below_of_ne (by omega : j ≠ i) hplace
          (Node.prefix_of_mem_occurrences_at (mem_of_map_eq_reached hreached hcall))
        simp [hlies] at hstop
      rw [Node.occurrencesFrom, reached, List.filter_append, List.map_append, hreached, hreached']
      congr 1
      · exact reached_congr fun o ho => by rw [happend, hother o ho, Bool.or_false]
      · exact reached_congr fun o ho => by rw [happend, hother' o ho, Bool.false_or]

end

/-- A visit calls the handlers for the nodes that have one, in pre-order, each with the number of
nesting nodes above it as its depth, and leaves out exactly what lies below a node whose handler said
not to go on. -/
theorem visit_calls (v : Visitor σ) (root : Node) (s : σ) :
    ∃ calls, v.Calls calls s (v.visit root s) ∧
      calls.map Prod.fst = v.reached calls root.occurrences := by
  rw [visit_eq_descend]
  exact descend_calls [] [] root s

end Visitor

end ComponentMigration
