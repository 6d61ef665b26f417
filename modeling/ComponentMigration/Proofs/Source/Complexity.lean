import ComponentMigration.Proofs.Source.Visit
import ComponentMigration.Source.Visit

/-!
# What the measures count

The measures of a tree are sums over its nodes (`complexity_eq`): every branch and every short-circuit
operation counts once in both, a jump counts once in the cognitive measure, and a branch that is no
case adds its depth there.
-/

namespace ComponentMigration

namespace Visitor

variable {σ : Type} {v : Visitor σ} {s t : σ}

/-- What calls come to is what the visitor does at their nodes, one after the other. -/
theorem Calls.eq_foldl {calls : List (Node.Occurrence × Bool)} (h : v.Calls calls s t) :
    t = (calls.map Prod.fst).foldl (fun s o => (v.handle (v.depthOf o.above) o.node s).1) s := by
  induction h with
  | nil => rfl
  | cons hhandler hcall _ ih =>
      rw [List.map_cons, List.foldl_cons, handle, hhandler]
      dsimp only
      rw [hcall]
      exact ih

theorem Calls.goes_on {calls : List (Node.Occurrence × Bool)} (h : v.Calls calls s t)
    (hnotes : ∀ entry ∈ v.handlers, ∃ note, entry.2 = .always note) :
    ∀ call ∈ calls, call.2 = true := by
  induction h with
  | nil => exact List.forall_mem_nil _
  | cons hhandler hcall _ ih =>
      refine List.forall_mem_cons.mpr ⟨?_, ih⟩
      obtain ⟨note, hnote⟩ := hnotes _ (Assoc.mem_of_get? hhandler)
      change _ = Handler.always note at hnote
      subst hnote
      exact (congrArg Prod.snd hcall).symm

/-- A visitor that always goes on comes to every node of the tree. -/
theorem visit_eq_foldl (hnotes : ∀ entry ∈ v.handlers, ∃ note, entry.2 = .always note)
    (root : Node) (s : σ) :
    v.visit root s =
      root.occurrences.foldl (fun s o => (v.handle (v.depthOf o.above) o.node s).1) s := by
  obtain ⟨calls, hcalls, hreached⟩ := visit_calls v root s
  have hcut : ∀ o, cutOff calls o = false := by
    intro o
    refine Bool.eq_false_iff.mpr fun hany => ?_
    obtain ⟨call, hcall, hstop⟩ := List.any_eq_true.mp hany
    simp [hcalls.goes_on hnotes call hcall] at hstop
  rw [hcalls.eq_foldl, hreached, reached, List.foldl_filter]
  congr 1
  funext s o
  cases hget : v.handlers.get? o.node.kind with
  | none => simp [handle, handles, hget, hcut]
  | some handler => simp [handles, hget, hcut]

end Visitor

namespace Assoc

variable {α : Type} {t : Assoc α} {k : String} {v : α}

/-- The same value under several keys, before another table. -/
theorem get?_map_append (keys : List String) :
    get? (keys.map (·, v) ++ t) k = if keys.contains k then some v else t.get? k := by
  induction keys with
  | nil => rfl
  | cons key keys ih =>
      rw [List.map_cons, List.cons_append, List.contains_cons]
      by_cases hkey : key = k
      · simp [get?, hkey]
      · simpa [get?, hkey, Ne.symm hkey] using ih

end Assoc

namespace Node

/-- Whether a path through the code divides at a node. -/
def isBranch (n : Node) : Bool := branchKinds.contains n.kind

/-- Whether a node is a case of a switch. -/
def isCase (n : Node) : Bool := n.kind == "switch_case" || n.kind == "switch_default"

/-- Whether a node is an operation that may leave out its second operand. -/
def isShortCircuit (n : Node) : Bool :=
  n.kind == "binary_expression" &&
    (n.child? "operator").any fun op => shortCircuitOperators.contains op.kind

/-- Whether a node leaves a loop or goes on with it. -/
def isJump (n : Node) : Bool := n.kind == "break_statement" || n.kind == "continue_statement"

/-- The number of nesting nodes that an occurrence is below. -/
def Occurrence.depth (o : Occurrence) : Nat :=
  o.above.countP fun n => nestingKinds.contains n.kind

/-- The depth by which an occurrence weighs more than one: that of a branch that is no case. -/
def Occurrence.extraWeight (o : Occurrence) : Nat :=
  if o.node.isBranch && !o.node.isCase then o.depth else 0

end Node

/-- Measures of which a node with some depth has been added. -/
def ComplexityMeasure.addNode (depth : Nat) (n : Node) (m : ComplexityMeasure) : ComplexityMeasure :=
  ⟨m.cyclomatic + n.isBranch.toNat + n.isShortCircuit.toNat,
    m.cognitive + n.isBranch.toNat + n.isShortCircuit.toNat + n.isJump.toNat +
      if n.isBranch && !n.isCase then depth else 0⟩

theorem complexity_visitor_notes :
    ∀ entry ∈ complexityVisitor.handlers, ∃ note, entry.2 = .always note := by
  intro entry hentry
  rcases List.mem_append.mp hentry with hbranch | hother
  · obtain ⟨kind, -, rfl⟩ := List.mem_map.mp hbranch
    exact ⟨_, rfl⟩
  · simp only [List.mem_cons, List.not_mem_nil, or_false] at hother
    rcases hother with rfl | rfl | rfl <;> exact ⟨_, rfl⟩

/-- The handler for a kind of nodes. -/
theorem complexity_handler (kind : String) :
    complexityVisitor.handlers.get? kind =
      if branchKinds.contains kind then some (.always fun depth n m => m.branch depth n)
      else if kind = "binary_expression" then some (.always fun _ n m => m.operation n)
      else if kind = "break_statement" ∨ kind = "continue_statement" then
        some (.always fun _ _ m => m.jump)
      else none := by
  rw [complexityVisitor, Assoc.get?_map_append]
  by_cases hoperation : kind = "binary_expression"
  · simp [Assoc.get?, hoperation]
  · by_cases hbreak : kind = "break_statement"
    · simp [Assoc.get?, hbreak]
    · by_cases hcontinue : kind = "continue_statement"
      · simp [Assoc.get?, hcontinue]
      · simp [Assoc.get?, hoperation, hbreak, hcontinue, Ne.symm]

/-- What the handler for a node adds to the measures. -/
theorem complexity_visitor_handle (depth : Nat) (n : Node) (m : ComplexityMeasure) :
    (complexityVisitor.handle depth n m).1 = m.addNode depth n := by
  rw [Visitor.handle, complexity_handler, ComplexityMeasure.addNode]
  by_cases hbranch : branchKinds.contains n.kind = true
  · have hne : ∀ kind, branchKinds.contains kind = false → n.kind ≠ kind := by
      rintro kind hnot rfl
      exact absurd hbranch (Bool.eq_false_iff.mp hnot)
    have hoperation : n.isShortCircuit = false := by
      simp [Node.isShortCircuit, hne "binary_expression" (by decide)]
    have hjump : n.isJump = false := by
      simp [Node.isJump, hne "break_statement" (by decide), hne "continue_statement" (by decide)]
    rw [if_pos hbranch, hoperation, hjump, show n.isBranch = true from hbranch]
    change ComplexityMeasure.mk _ (_ + if n.isCase then 1 else 1 + depth) = _
    cases n.isCase <;> simp [Nat.add_assoc]
  · have hnot : n.isBranch = false := Bool.eq_false_iff.mpr hbranch
    rw [if_neg hbranch, hnot]
    by_cases hoperation : n.kind = "binary_expression"
    · have hjump : n.isJump = false := by simp [Node.isJump, hoperation]
      have hshort : n.isShortCircuit =
          (n.child? "operator").any fun op => shortCircuitOperators.contains op.kind := by
        rw [Node.isShortCircuit, beq_iff_eq.mpr hoperation, Bool.true_and]
      rw [if_pos hoperation, hjump]
      change ComplexityMeasure.operation n m = _
      rw [ComplexityMeasure.operation, ← hshort]
      cases n.isShortCircuit <;> rfl
    · have hlong : n.isShortCircuit = false := by simp [Node.isShortCircuit, hoperation]
      rw [if_neg hoperation, hlong]
      by_cases hjump : n.kind = "break_statement" ∨ n.kind = "continue_statement"
      · have hleaves : n.isJump = true := by simpa [Node.isJump] using hjump
        rw [if_pos hjump, hleaves]
        rfl
      · have hstays : n.isJump = false := by simpa [Node.isJump] using hjump
        rw [if_neg hjump, hstays]
        rfl

theorem complexity_eq_foldl (n : Node) :
    n.complexity = n.occurrences.foldl (fun m o => m.addNode o.depth o.node) {} := by
  rw [Node.complexity, Visitor.visit_eq_foldl complexity_visitor_notes]
  congr 1
  funext m o
  exact complexity_visitor_handle o.depth o.node m

namespace Node

/-- Only the branches that are no case weigh more than one. -/
theorem sum_extra_weight (occurrences : List Occurrence) :
    (occurrences.map Occurrence.extraWeight).sum =
      ((occurrences.filter fun o => o.node.isBranch && !o.node.isCase).map Occurrence.depth).sum := by
  induction occurrences with
  | nil => rfl
  | cons o rest ih =>
      rw [List.map_cons, List.sum_cons, ih, Occurrence.extraWeight, List.filter_cons]
      split
      · rw [List.map_cons, List.sum_cons]
      · exact Nat.zero_add _

theorem complexity_foldl (occurrences : List Occurrence) (start : ComplexityMeasure) :
    occurrences.foldl (fun m o => m.addNode o.depth o.node) start =
      let nodes := occurrences.map Occurrence.node
      ⟨start.cyclomatic + (nodes.countP isBranch + nodes.countP isShortCircuit),
        start.cognitive + (nodes.countP isBranch + nodes.countP isShortCircuit +
          nodes.countP isJump + (occurrences.map Occurrence.extraWeight).sum)⟩ := by
  induction occurrences generalizing start with
  | nil => rfl
  | cons o rest ih =>
      have hone : ∀ b : Bool, b.toNat = if b then 1 else 0 := fun b => by cases b <;> rfl
      rw [List.foldl_cons, ih, ComplexityMeasure.addNode]
      simp only [List.map_cons, List.countP_cons, List.sum_cons, Occurrence.extraWeight,
        ComplexityMeasure.mk.injEq, hone]
      constructor <;> grind

/-- The branches and the short-circuit operations of a tree. -/
def decisions (n : Node) : Nat := n.walk.countP isBranch + n.walk.countP isShortCircuit

/-- The measures as sums over the nodes of a tree. -/
theorem complexity_eq (n : Node) :
    n.complexity =
      ⟨1 + n.decisions, n.decisions + n.walk.countP isJump +
        (n.occurrences.map Occurrence.extraWeight).sum⟩ := by
  rw [complexity_eq_foldl, complexity_foldl, decisions, ← map_node_occurrences_at [] [] n]
  simp only [occurrences, Nat.zero_add]

theorem walk_sublist_walk_all {c : Node} {trees : List Node} (h : c ∈ trees) :
    c.walk.Sublist (walkAll trees) := by
  induction trees with
  | nil => cases h
  | cons d rest ih =>
      rw [walkAll]
      rcases List.mem_cons.mp h with rfl | h
      · exact List.sublist_append_left _ _
      · exact (ih h).trans (List.sublist_append_right _ _)

/-- The walk over a tree has in it the walk over each of its parts. -/
theorem walk_sublist_of_mem {n m : Node} (h : m ∈ n.walk) : m.walk.Sublist n.walk := by
  rcases mem_walk_iff.mp h with rfl | ⟨c, hc, hm⟩
  · exact List.Sublist.refl _
  · refine (walk_sublist_of_mem hm).trans ?_
    cases n with
    | mk info children =>
        rw [walk]
        exact (walk_sublist_walk_all hc).trans (List.sublist_cons_self _ _)
termination_by sizeOf n
decreasing_by exact sizeOf_lt_of_mem_children hc

/-- A part of a tree decides no more often than the tree. -/
theorem decisions_le_of_mem {n m : Node} (h : m ∈ n.walk) : m.decisions ≤ n.decisions :=
  Nat.add_le_add (List.Sublist.countP_le (walk_sublist_of_mem h))
    (List.Sublist.countP_le (walk_sublist_of_mem h))

end Node

/-- A visit with a stack is the recursive walk in pre-order.  It calls the handlers for the nodes
that have one, in that order, each with the number of nesting nodes strictly above its node as the
depth, and leaves out exactly what lies below a node whose handler said not to go on.

So the cyclomatic complexity of a tree is one more than its branches and short-circuit operations, and
no part of the tree has more.  The cognitive complexity is one for each of those and for each jump,
and on top of that the depth of each branch that is no case. -/
theorem visit_walks_and_complexity_sums {σ : Type} (v : Visitor σ) (root : Node) (s : σ) (n : Node) :
    (v.visit root s = v.descend 0 root s ∧
      ∃ calls, v.Calls calls s (v.visit root s) ∧
        calls.map Prod.fst = v.reached calls root.occurrences) ∧
    n.cyclomatic = 1 + n.walk.countP Node.isBranch + n.walk.countP Node.isShortCircuit ∧
    (∀ m ∈ n.walk, m.cyclomatic ≤ n.cyclomatic) ∧
    n.cyclomatic - 1 ≤ n.complexity.cognitive ∧
    n.complexity.cognitive =
      n.cyclomatic - 1 + n.walk.countP Node.isJump +
        ((n.occurrences.filter fun o => o.node.isBranch && !o.node.isCase).map
          Node.Occurrence.depth).sum := by
  have hcyclomatic : ∀ m : Node, m.cyclomatic = 1 + m.decisions := fun m => by
    rw [Node.cyclomatic, Node.complexity_eq]
  have hcognitive : n.complexity.cognitive =
      n.cyclomatic - 1 + n.walk.countP Node.isJump +
        (n.occurrences.map Node.Occurrence.extraWeight).sum := by
    rw [hcyclomatic, Node.complexity_eq, Nat.add_sub_cancel_left]
  refine ⟨⟨v.visit_eq_descend root s, v.visit_calls root s⟩, ?_, ?_, ?_, ?_⟩
  · rw [hcyclomatic, Node.decisions, Nat.add_assoc]
  · intro m hm
    rw [hcyclomatic, hcyclomatic]
    exact Nat.add_le_add_left (Node.decisions_le_of_mem hm) 1
  · rw [hcognitive, Nat.add_assoc]
    exact Nat.le_add_right _ _
  · rw [hcognitive, Node.sum_extra_weight]

end ComponentMigration
