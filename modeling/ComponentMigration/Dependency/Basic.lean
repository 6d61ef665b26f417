import ComponentMigration.Assoc
import ComponentMigration.Fault.Basic

/-!
# Dependencies

Units depend on other units, on files and on packages; the dependencies form a graph.
-/

namespace ComponentMigration

/-- How a unit uses what it imports. -/
inductive Relation where
  | plain
  | props
  | context
  | hook
  | higherOrder
  | renderProp
  | children
  | other (label : String)
  deriving DecidableEq, Repr

/-- The label of a relation. -/
def Relation.label : Relation → String
  | .plain => "import"
  | .props => "props"
  | .context => "context"
  | .hook => "hook"
  | .higherOrder => "higher-order"
  | .renderProp => "render-prop"
  | .children => "children"
  | .other label => label

/-- The relation with a label. -/
def Relation.ofLabel : String → Relation
  | "import" => .plain
  | "props" => .props
  | "context" => .context
  | "hook" => .hook
  | "higher-order" => .higherOrder
  | "render-prop" => .renderProp
  | "children" => .children
  | label => .other label

/-- Whether a dependency is a unit's own, comes through others, or closes a circle. -/
inductive DependencyLevel where
  | direct
  | transitive
  | circular
  | other (label : String)
  deriving DecidableEq, Repr

/-- The label of a level. -/
def DependencyLevel.label : DependencyLevel → String
  | .direct => "direct"
  | .transitive => "transitive"
  | .circular => "circular"
  | .other label => label

/-- The level with a label. -/
def DependencyLevel.ofLabel : String → DependencyLevel
  | "direct" => .direct
  | "transitive" => .transitive
  | "circular" => .circular
  | label => .other label

/-- How risky it is to separate a unit from what it uses. -/
inductive Risk where
  | low
  | medium
  | high
  | critical
  | other (label : String)
  deriving DecidableEq, Repr

/-- The label of a risk. -/
def Risk.label : Risk → String
  | .low => "low"
  | .medium => "medium"
  | .high => "high"
  | .critical => "critical"
  | .other label => label

/-- The risk with a label. -/
def Risk.ofLabel : String → Risk
  | "low" => .low
  | "medium" => .medium
  | "high" => .high
  | "critical" => .critical
  | label => .other label

/-- The place of a known risk in the order of risks. -/
def Risk.rank? : Risk → Option Nat
  | .low => some 0
  | .medium => some 1
  | .high => some 2
  | .critical => some 3
  | .other _ => none

/-- The greater of two risks, the first one if they are equal. -/
def Risk.max (a b : Risk) : Risk :=
  if (a.rank?.getD 0) < (b.rank?.getD 0) then b else a

/-- The greatest of several risks; all have to be known. -/
def Risk.greatest (risks : List Risk) : Except Trouble Risk :=
  if risks.any (·.rank?.isNone) then .error ⟨.badValue, "unknown risk", none⟩
  else
    match risks with
    | [] => .error ⟨.badValue, "no risks", none⟩
    | r :: rest => .ok (rest.foldl Risk.max r)

/-- A place at which an imported name is used. -/
structure UsageContext where
  line : Int
  column : Int
  usage : String
  deriving DecidableEq, Repr

/-- What one unit needs from another unit, file or package. -/
structure Detail where
  source : String
  target : String
  relation : Relation := .plain
  level : DependencyLevel := .direct
  importPath : String := ""
  bindings : List String := []
  usages : List UsageContext := []
  risk : Risk := .low
  isExternal : Bool := false
  deriving DecidableEq, Repr

/-- A package that units depend on. -/
structure ExternalPackage where
  name : String
  classification : String
  usageCount : Int := 0
  usedBy : List String := []
  disposition : String := "evaluate"
  isDev : Bool := false
  deriving DecidableEq, Repr

/-- A node of the dependency graph. -/
structure GraphNode where
  id : String
  nodeType : String
  inDegree : Int := 0
  outDegree : Int := 0
  centrality : Float := 0.0
  deriving Repr

/-- An edge of the dependency graph. -/
structure GraphEdge where
  source : String
  target : String
  relation : Relation := .plain
  weight : Int := 1
  isCyclic : Bool := false
  deriving DecidableEq, Repr

/-- Units that belong together. -/
structure Cluster where
  id : String
  units : List String
  cohesion : Float
  strategy : String
  deriving Repr

/-- The dependency graph with its cycles and clusters. -/
structure DependencyGraph where
  nodes : List GraphNode := []
  edges : List GraphEdge := []
  cycles : List (List String) := []
  clusters : List Cluster := []
  deriving Repr

/-- The edges that leave a node. -/
def DependencyGraph.outgoing (g : DependencyGraph) (id : String) : List GraphEdge :=
  g.edges.filter (·.source == id)

/-- The edges that enter a node. -/
def DependencyGraph.incoming (g : DependencyGraph) (id : String) : List GraphEdge :=
  g.edges.filter (·.target == id)

/-- Measures of a dependency graph. -/
structure DependencyMetrics where
  totalComponents : Int := 0
  totalDependencies : Int := 0
  externalDependencies : Int := 0
  internalDependencies : Int := 0
  circularDependencies : Int := 0
  averageCoupling : Float := 0.0
  graphDensity : Float := 0.0
  hubs : List String := []
  deriving Repr

/-- Advice on the order of extraction. -/
structure Recommendation where
  kind : String
  units : List String
  reason : String
  priority : String := "medium"
  deriving DecidableEq, Repr

/-- The result of a dependency analysis. -/
structure DependencyAnalysis where
  details : List Detail := []
  external : Assoc ExternalPackage := []
  graph : DependencyGraph := {}
  metrics : DependencyMetrics := {}
  recommendations : List Recommendation := []
  warnings : List String := []
  deriving Repr

/-- The dependencies of a unit, with or without those that come through others. -/
def DependencyAnalysis.forUnit (a : DependencyAnalysis) (id : String)
    (includeTransitive : Bool := false) : List Detail :=
  a.details.filter fun d => d.source == id && (includeTransitive || d.level != .transitive)

end ComponentMigration
