import ComponentMigration.Dependency.Basic
import ComponentMigration.Dependency.Cycle
import ComponentMigration.Number.Arithmetic

/-!
# Clusters of units

A cluster is a connected group of units with enough edges among them.

The density of a group is the number of its edges, taken without direction, divided by the number of
its pairs.  A group of at least two units whose density reaches the threshold is a cluster.
-/

namespace ComponentMigration

/-- The units that an edge of either direction joins to a unit. -/
def linkedUnits (units : List String) (g : Adjacency) (unit : String) : List String :=
  let out := ((g.filter (·.1 == unit)).flatMap (·.2)).filter fun t =>
    units.contains t && t != unit
  let into := (g.filter fun e => units.contains e.1 && e.1 != unit && e.2.contains unit).map (·.1)
  Text.sorted (Text.unique (out ++ into))

/-- The units of a list with their links. -/
def linkTable (units : List String) (g : Adjacency) : Adjacency :=
  units.map fun u => (u, linkedUnits units g u)

/-- What a search for a group has come to: the units visited so far, the members of the group that
it has gone on from, and those that it has yet to go on from, in order. -/
structure GroupSearch where
  visited : List String
  members : List String := []
  queue : List String

/-- Goes on from the first unit of the queue to those that were not visited, until the queue is
empty.  `fuel` bounds the number of members. -/
def GroupSearch.run (links : Adjacency) : Nat → GroupSearch → GroupSearch
  | 0, s => s
  | _ + 1, ⟨visited, members, []⟩ => ⟨visited, members, []⟩
  | fuel + 1, ⟨visited, members, unit :: queue⟩ =>
    let fresh := ((links.get? unit).getD []).filter fun t => !visited.contains t
    run links fuel ⟨visited ++ fresh, members ++ [unit], queue ++ fresh⟩

/-- Adds the group of a unit that was not visited to the visited units and the groups. -/
def addGroup (links : Adjacency) (fuel : Nat) :
    List String × List (List String) → String → List String × List (List String)
  | (visited, groups), start =>
    if visited.contains start then (visited, groups)
    else
      let s := GroupSearch.run links fuel { visited := visited ++ [start], queue := [start] }
      (s.visited, groups ++ [s.members])

/-- The groups of units, in the order of their smallest members. -/
def unitGroups (units : List String) (links : Adjacency) : List (List String) :=
  (units.foldl (addGroup links units.length) ([], [])).2

/-- How a cluster of a density is migrated. -/
def clusterStrategy (density : Float) (together staged : Usable Quantity) : Usable String := do
  if (← together).isAtMost (.real density) then return "together"
  else if (← staged).isAtMost (.real density) then return "staged"
  else return "individual"

/-- The density of a group of so many members with so many ends of edges among them: half of the
ends over half of the ordered pairs of members. -/
def densityOf {m : Type → Type} [Monad m] (α : Type) [Arithmetic m α] (ends members : Nat) :
    m α := do
  let edges ← Arithmetic.div (Arithmetic.real ends : α) (Arithmetic.real 2)
  let pairs ← Arithmetic.div (Arithmetic.real ((members : Int) * ((members : Int) - 1)) : α)
    (Arithmetic.real 2)
  Arithmetic.div edges pairs

/-- The ends that edges have at the members of a group. -/
def groupEnds (links : Adjacency) (members : List String) : Nat :=
  (members.flatMap fun m => (links.get? m).getD []).length

/-- The density of a group. -/
def groupDensity (links : Adjacency) (members : List String) : Float :=
  densityOf Float (groupEnds links members) members.length

/-- What decides on clusters: the density that makes one, and the densities from which it is
migrated together or in stages. -/
structure Cohesion where
  threshold : Usable Quantity
  together : Usable Quantity
  staged : Usable Quantity

/-- Adds the cluster of a group, if it is dense enough. -/
def addCluster (links : Adjacency) (cohesion : Cohesion) (members : List String)
    (clusters : List Cluster) : Usable (List Cluster) :=
  if members.length < 2 then .ok clusters
  else do
    let density := groupDensity links members
    if (Quantity.real density).isLess (← cohesion.threshold) then return clusters
    else
      let strategy ← clusterStrategy density cohesion.together cohesion.staged
      return clusters ++ [{ id := "cluster-" ++ toString (clusters.length + 1)
                            units := Text.sorted members
                            cohesion := Number.roundPlaces 3 density
                            strategy := strategy }]

/-- The clusters of a collection of units, in the order of their smallest members. -/
def findClusters (units : List String) (g : Adjacency) (cohesion : Cohesion) :
    Usable (List Cluster) :=
  let units := Text.sorted (Text.unique units)
  let links := linkTable units g
  (unitGroups units links).foldlM (fun clusters members =>
    addCluster links cohesion members clusters) []

end ComponentMigration
