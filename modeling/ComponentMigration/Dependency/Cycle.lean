import ComponentMigration.Assoc
import ComponentMigration.Number.Quantity
import ComponentMigration.Text.Basic

/-!
# Searches in a directed graph

A depth-first search finds cycles, a breadth-first search what can be come to.
-/

namespace ComponentMigration

/-!
## Cycles of a directed graph

A depth-first search goes through the nodes in order and reports a cycle whenever an edge leads back
to a node of the current path.  A cycle is told from its smallest node on, and no cycle is told
twice.
-/

/-- A directed graph: the targets of every node. -/
abbrev Adjacency := Assoc (List String)

namespace Adjacency

/-- The targets of a node, in order. -/
def targets (g : Adjacency) (node : String) : List String := Text.sorted ((g.get? node).getD [])

/-- All nodes: keys and targets. -/
def nodes (g : Adjacency) : List String := Text.unique (g.keys ++ g.flatMap (·.2))

end Adjacency

/-- The smallest text of a list. -/
def smallest (x : String) (xs : List String) : String :=
  xs.foldl (fun m y => if decide (y < m) then y else m) x

/-- A cycle told from its smallest node on. -/
def rotateToSmallest (cycle : List String) : List String :=
  match cycle with
  | [] => []
  | x :: xs =>
    let m := smallest x xs
    cycle.dropWhile (· != m) ++ cycle.takeWhile (· != m)

/-- What a search has found: the nodes whose search is complete, and the cycles. -/
structure CycleSearch where
  done : List String := []
  cycles : List (List String) := []

/-- Reports the cycle that an edge to a node of the path closes. -/
def CycleSearch.close (s : CycleSearch) (path : List String) (target : String) : CycleSearch :=
  let cycle := rotateToSmallest (path.dropWhile (· != target))
  if s.cycles.contains cycle then s else { s with cycles := s.cycles ++ [cycle] }

mutual

/-- Searches from the last node of a path on.  `fuel` bounds the length of paths. -/
def CycleSearch.visit (g : Adjacency) : Nat → List String → String → CycleSearch → CycleSearch
  | 0, _, _, s => s
  | fuel + 1, path, node, s =>
    let s := CycleSearch.follow g fuel path (g.targets node) s
    { s with done := node :: s.done }

/-- Follows the edges to a list of targets. -/
def CycleSearch.follow (g : Adjacency) : Nat → List String → List String → CycleSearch → CycleSearch
  | _, _, [], s => s
  | fuel, path, t :: rest, s =>
    let s :=
      if path.contains t then s.close path t
      else if s.done.contains t then s
      else CycleSearch.visit g fuel (path ++ [t]) t s
    CycleSearch.follow g fuel path rest s

end

/-- Searches from every start that no search before has come to. -/
def CycleSearch.searchAll (g : Adjacency) (fuel : Nat) (starts : List String) : CycleSearch :=
  starts.foldl (fun s start =>
    if s.done.contains start then s else CycleSearch.visit g fuel [start] start s) {}

/-- The cycles that the search reports.  No path is longer than there are nodes. -/
def detectCycles (g : Adjacency) : List (List String) :=
  (CycleSearch.searchAll g (g.nodes.length + 1) (Text.sorted g.keys)).cycles

/-!
## Reach in a directed graph

The reach of a node are the other nodes that can be come to before a limit of steps is reached, each
with the fewest steps that lead to it.  A breadth-first search finds them: the nodes that were found
wait in a queue, and the search goes on from the first of them.
-/

/-- What a search has come to: the nodes found so far with their distances, and those of them that
it has yet to go on from, in order. -/
structure ReachSearch where
  found : Assoc Nat := []
  queue : List (String × Nat) := []

namespace ReachSearch

/-- Comes to a node at a distance; it counts unless it is the start or was found before. -/
def come (start : String) (distance : Nat) (s : ReachSearch) (node : String) : ReachSearch :=
  if node == start || s.found.has node then s
  else { found := s.found ++ [(node, distance)], queue := s.queue ++ [(node, distance)] }

/-- Goes on from a node, unless its distance has come up to the limit. -/
def goOn (g : Adjacency) (start : String) (limit : Quantity) (s : ReachSearch) (node : String)
    (distance : Nat) : ReachSearch :=
  if limit.isAtMost (.whole distance) then s
  else (g.targets node).foldl (come start (distance + 1)) s

/-- Goes on from the first node of the queue for as long as there is one.  `fuel` bounds the number
of nodes. -/
def run (g : Adjacency) (start : String) (limit : Quantity) : Nat → ReachSearch → Assoc Nat
  | 0, s => s.found
  | _ + 1, ⟨found, []⟩ => found
  | fuel + 1, ⟨found, (node, distance) :: queue⟩ =>
    run g start limit fuel (goOn g start limit ⟨found, queue⟩ node distance)

end ReachSearch

/-- The number of edges of a graph. -/
def Adjacency.edgeCount (g : Adjacency) : Nat := (g.flatMap (·.2)).length

/-- The nodes that can be come to before a limit of steps is reached, with their distances.  No more
nodes are found than there are edges. -/
def reachableBefore (g : Adjacency) (start : String) (limit : Quantity) : Assoc Nat :=
  ReachSearch.run g start limit (g.edgeCount + 1) { queue := [(start, 0)] }

end ComponentMigration
