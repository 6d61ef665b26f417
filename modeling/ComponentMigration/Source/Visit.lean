import ComponentMigration.Assoc
import ComponentMigration.Source.Node

/-!
# Visits of trees and what they count

Visitors go through trees; the complexities of a unit are measured by them.
-/

namespace ComponentMigration

/-!
## Visits of trees

A visitor has handlers for nodes of certain kinds.  A visit keeps a stack of the trees that are still
to be looked at, each with its depth; it takes the tree on top, calls the handler for it, if there is
one, and puts the children on the stack, unless the handler says that nothing below is of interest.
Nodes of nesting kinds raise the depth of what is below them.
-/

/-- What is done at a node, given its depth: the new state, and whether to go on below the node. -/
abbrev Handler (σ : Type) := Nat → Node → σ → σ × Bool

/-- A handler that goes on below every node. -/
def Handler.always {σ : Type} (note : Nat → Node → σ → σ) : Handler σ := fun depth n s =>
  (note depth n s, true)

/-- Handlers by the kinds of their nodes, and the kinds that raise the depth of what is below. -/
structure Visitor (σ : Type) where
  handlers : Assoc (Handler σ)
  nestingKinds : List String := []

namespace Visitor

variable {σ : Type}

/-- What a visitor does at a node; without a handler it only goes on. -/
def handle (v : Visitor σ) (depth : Nat) (n : Node) (s : σ) : σ × Bool :=
  match v.handlers.get? n.kind with
  | some handler => handler depth n s
  | none => (s, true)

/-- The depth of what is below a node of a depth. -/
def depthBelow (v : Visitor σ) (depth : Nat) (n : Node) : Nat :=
  if v.nestingKinds.contains n.kind then depth + 1 else depth

/-- Puts trees on a stack, the last one first, so that the first one lies on top. -/
def push (trees : List Node) (depth : Nat) (stack : List (Node × Nat)) : List (Node × Nat) :=
  trees.reverse.foldl (fun stack c => (c, depth) :: stack) stack

/-- Goes on with the trees on a stack; `steps` bounds the number of nodes that are taken from it. -/
def run (v : Visitor σ) : Nat → List (Node × Nat) → σ → σ
  | 0, _, s => s
  | _ + 1, [], s => s
  | steps + 1, (n, depth) :: stack, s =>
    match v.handle depth n s with
    | (s, true) => v.run steps (push n.children (v.depthBelow depth n) stack) s
    | (s, false) => v.run steps stack s

/-- Visits a tree; no node of it is taken from the stack twice. -/
def visit (v : Visitor σ) (root : Node) (s : σ) : σ := v.run root.walk.length [(root, 0)] s

end Visitor

/-!
## Complexity

Cyclomatic complexity is one plus the branches and short-circuit operators.  Cognitive complexity
weighs a branch by its depth and counts jumps too.
-/

/-- The kinds of nodes at which a path through the code divides. -/
def branchKinds : List String :=
  ["if_statement", "for_statement", "for_in_statement", "while_statement", "do_statement",
    "switch_case", "switch_default", "catch_clause", "ternary_expression"]

/-- The kinds of nodes that raise the depth of what is below them. -/
def nestingKinds : List String :=
  ["if_statement", "for_statement", "for_in_statement", "while_statement", "do_statement",
    "switch_statement", "catch_clause", "ternary_expression"]

/-- The operators that may leave out their second operand. -/
def shortCircuitOperators : List String := ["&&", "||", "??"]

/-- The two complexity measures. -/
structure ComplexityMeasure where
  cyclomatic : Nat := 1
  cognitive : Nat := 0
  deriving DecidableEq, Repr

namespace ComplexityMeasure

/-- Adds a branch: a case weighs one, any other branch one more than its depth. -/
def branch (depth : Nat) (n : Node) (m : ComplexityMeasure) : ComplexityMeasure :=
  let weight := if n.kind == "switch_case" || n.kind == "switch_default" then 1 else 1 + depth
  ⟨m.cyclomatic + 1, m.cognitive + weight⟩

/-- Adds an operation with two operands, if it may leave out the second one. -/
def operation (n : Node) (m : ComplexityMeasure) : ComplexityMeasure :=
  if (n.child? "operator").any fun op => shortCircuitOperators.contains op.kind then
    ⟨m.cyclomatic + 1, m.cognitive + 1⟩
  else m

/-- Adds a jump. -/
def jump (m : ComplexityMeasure) : ComplexityMeasure := ⟨m.cyclomatic, m.cognitive + 1⟩

end ComplexityMeasure

/-- Measures what it visits. -/
def complexityVisitor : Visitor ComplexityMeasure :=
  { handlers :=
      branchKinds.map (fun kind => (kind, .always fun depth n m => m.branch depth n)) ++
        [("binary_expression", .always fun _ n m => m.operation n),
          ("break_statement", .always fun _ _ m => m.jump),
          ("continue_statement", .always fun _ _ m => m.jump)]
    nestingKinds := nestingKinds }

/-- The measures of a tree. -/
def Node.complexity (n : Node) : ComplexityMeasure := complexityVisitor.visit n {}

/-- The cyclomatic complexity of a tree. -/
def Node.cyclomatic (n : Node) : Nat := n.complexity.cyclomatic

end ComponentMigration
