import ComponentMigration.Component.Basic
import ComponentMigration.Component.Discovery
import ComponentMigration.Dependency.Cluster
import ComponentMigration.Dependency.Cycle
import ComponentMigration.Dependency.Usage
import ComponentMigration.Number.Decimal
import ComponentMigration.Settings.Basic
import ComponentMigration.Text.Casing

/-!
# The dependency graph

The imports of a file belong to the units that use them, or to the file's main unit if none does.
All imports that lead a unit to one target are gathered in one detail; details make the edges of the
graph.  Cycles, clusters and links through other units follow from the edges.
-/

namespace ComponentMigration

/-- The main unit of a file: the one that is named like the file, else the first. -/
def primaryUnit : List Component → Option String
  | [] => none
  | first :: rest =>
    let stem := (Path.ofText first.filePath).stem
    some (((first :: rest).find? (·.name == stem)).getD first).id

/-- A table of units by file with one more unit. -/
def addUnit (byFile : Assoc (List Component)) (c : Component) : Assoc (List Component) :=
  byFile.set c.filePath ((byFile.get? c.filePath).getD [] ++ [c])

/-- The units of every file, in the order in which the files come up. -/
def unitsByFile (components : List Component) : Assoc (List Component) :=
  components.foldl addUnit []

/-- The main unit of every file. -/
def primaryUnits (byFile : Assoc (List Component)) : Assoc String :=
  byFile.filterMap fun (file, units) => (primaryUnit units).map (file, ·)

/-- The endings that an import may leave out. -/
def resolveExtensions : List String := [".tsx", ".ts", ".jsx", ".js"]

/-- The files that an import path may mean, in the order in which they are tried. -/
def resolveCandidates (target : String) : List String :=
  [target] ++ resolveExtensions.map (target ++ ·) ++
    resolveExtensions.map (target ++ "/index" ++ ·)

/-- The unit that a relative import means: the main unit of the first file that is there, else the
normalised path itself. -/
def resolveImport (filePath importPath : String) (primary : Assoc String) : String :=
  let target := Reference.normalize (Reference.join (Reference.directory filePath) importPath)
  ((resolveCandidates target).findSome? primary.get?).getD target

/-- The risk of separating a unit from what a detail says it uses. -/
def Detail.baseRisk (d : Detail) (highRiskBindings : Quantity) : Risk :=
  if highRiskBindings.isLess (.whole d.bindings.length) || d.relation == .context ||
      d.bindings.any fun b => Text.contains (Text.lowered b) "context" then .high
  else if Text.contains d.importPath ".." then .medium
  else .low

/-- The details and packages gathered so far. -/
structure Gathered where
  details : List Detail := []
  external : Assoc ExternalPackage := []

/-- One use of an import statement by a unit. -/
structure ImportUse where
  unit : Component
  importPath : String
  bindings : List String
  usages : List UsageContext
  kinds : String → List String

/-- Whether a detail is that of a source and a target. -/
def Detail.joins (d : Detail) (source target : String) : Bool :=
  d.source == source && d.target == target

/-- A detail extended by a use. -/
def Detail.extend (d : Detail) (use : ImportUse) (highRiskBindings : Quantity) : Detail :=
  let d := { d with
    bindings := use.bindings.foldl Text.appendUnique d.bindings
    usages := d.usages ++ use.usages }
  { d with risk := d.baseRisk highRiskBindings }

/-- Adds a use to what has been gathered. -/
def Gathered.add (g : Gathered) (highRiskBindings : Quantity) (primary : Assoc String)
    (use : ImportUse) : Gathered :=
  let external := !Text.startsWith use.importPath "."
  let target :=
    if external then packageName use.importPath
    else resolveImport use.unit.filePath use.importPath primary
  let relation := relationOf use.bindings use.kinds
  let merged := fun (d : Detail) =>
    if d.joins use.unit.id target then
      let relation := if d.relation == .plain then relation else d.relation
      ({ d with relation := relation } : Detail).extend use highRiskBindings
    else d
  if g.details.any (·.joins use.unit.id target) then
    { g with details := g.details.map merged }
  else
    let fresh : Detail :=
      { source := use.unit.id, target := target, relation := relation,
        importPath := use.importPath, isExternal := external }
    { details := g.details ++ [fresh.extend use highRiskBindings]
      external :=
        if external then registerExternal g.external target use.unit.id else g.external }

/-- The tree in which a unit's uses are looked for: its statement, or the whole file. -/
def unitScope (d : Document) (unit : Component) : Node :=
  ((findDeclaration d.root unit.name).map (·.statement.node)).getD d.root

/-- The uses of one import statement by the units of its file. -/
def importUses (d : Document) (units : List Component) (primary : Option String) (stmt : Node) :
    List ImportUse :=
  let bindings := importBindings stmt
  let noted := units.map fun u => (u, usageNotes bindings (unitScope d u))
  let consumers :=
    if units.length == 1 then noted
    else
      let used := noted.filter fun (_, notes) => !notes.usages.isEmpty
      if used.isEmpty then (noted.find? fun (u, _) => some u.id == primary).toList else used
  consumers.map fun (u, notes) =>
    { unit := u
      importPath := importSource stmt
      bindings := bindings
      usages := ⟨stmt.info.startLine, stmt.info.startColumn + 1, "import"⟩ ::
        bindings.flatMap notes.usagesOf
      kinds := notes.kindsOf }

/-- The uses of the imports of a file by its units. -/
def fileUses (primary : Assoc String) (d : Document) (units : List Component) : List ImportUse :=
  let main := units.head?.bind fun u => primary.get? u.filePath
  (importStatements d.root).flatMap (importUses d units main)

/-- Adds uses one after the other. -/
def Gathered.addUses (g : Gathered) (highRiskBindings : Quantity) (primary : Assoc String)
    (uses : List ImportUse) : Gathered :=
  uses.foldl (·.add highRiskBindings primary ·) g

/-- A node with the given sort unless it is there. -/
def addNode (nodes : List GraphNode) (id nodeType : String) : List GraphNode :=
  if nodes.any (·.id == id) then nodes else nodes ++ [{ id := id, nodeType := nodeType }]

/-- A node with one more edge counted if it leaves the node, and if it enters it. -/
def GraphNode.countEdge (n : GraphNode) (e : GraphEdge) : GraphNode :=
  { n with
    inDegree := if n.id == e.target then n.inDegree + 1 else n.inDegree
    outDegree := if n.id == e.source then n.outDegree + 1 else n.outDegree }

/-- The centrality of a node: the edges it has of those it could have. -/
def GraphNode.measured (n : GraphNode) (denominator : Nat) : GraphNode :=
  { n with
    centrality := Number.roundPlaces 4
      (Number.ofInt (n.inDegree + n.outDegree) / Number.ofInt denominator) }

/-- The edge that a detail makes. -/
def Detail.edge (d : Detail) : GraphEdge :=
  { source := d.source
    target := d.target
    relation := d.relation
    weight := if d.bindings.length < 1 then 1 else d.bindings.length }

/-- The graph with the edge of a detail; the target becomes a node unless it is one. -/
def DependencyGraph.addDetail (g : DependencyGraph) (d : Detail) : DependencyGraph :=
  let nodes := addNode g.nodes d.target (if d.isExternal then "external" else "internal")
  { g with
    nodes := nodes.map (·.countEdge d.edge)
    edges := g.edges ++ [d.edge] }

/-- The order of edges. -/
def GraphEdge.le (a b : GraphEdge) : Bool :=
  if a.source == b.source then Text.le a.target b.target else Text.le a.source b.source

/-- The graph of units alone. -/
def unitGraph (components : List Component) : DependencyGraph :=
  { nodes := components.foldl (fun ns c => addNode ns c.id "component") [] }

/-- The graph of units and details. -/
def buildGraph (components : List Component) (details : List Detail) : DependencyGraph :=
  let graph := details.foldl DependencyGraph.addDetail (unitGraph components)
  let denominator := if graph.nodes.length - 1 < 1 then 1 else graph.nodes.length - 1
  { graph with
    nodes := (graph.nodes.map (·.measured denominator)).mergeSort fun a b => Text.le a.id b.id
    edges := graph.edges.mergeSort GraphEdge.le }

/-- The graph's edges by node. -/
def DependencyGraph.adjacency (g : DependencyGraph) : Adjacency :=
  g.nodes.map fun n => (n.id, (g.outgoing n.id).map (·.target))

/-- The edges of a cycle. -/
def cycleEdges (cycle : List String) : List (String × String) :=
  cycle.zip (cycle.drop 1 ++ cycle.take 1)

/-- The length of the longest reported cycle through an edge. -/
def cyclicLength (cycles : List (List String)) (source target : String) : Option Nat :=
  (cycles.filter fun c => (cycleEdges c).contains (source, target)).foldl
    (fun longest c => some (max (longest.getD 0) c.length)) none

/-- Marks the edges that lie on reported cycles. -/
def DependencyGraph.markCycles (g : DependencyGraph) : DependencyGraph :=
  { g with edges := g.edges.map fun e =>
      if (cyclicLength g.cycles e.source e.target).isSome then { e with isCyclic := true } else e }

/-- Marks a detail that lies on a reported cycle; longer cycles are riskier. -/
def Detail.markCycle (d : Detail) (cycles : List (List String)) : Detail :=
  match cyclicLength cycles d.source d.target with
  | some length =>
    { d with
      level := .circular
      risk := d.risk.max (if length > 2 then .critical else .high) }
  | none => d

/-- The links of units through other units. -/
def transitiveDetails (g : DependencyGraph) (components : List Component) (maxDepth : Quantity) :
    List Detail :=
  let ids := Text.unique (components.map (·.id))
  let adjacency : Adjacency :=
    (g.adjacency.filter fun (s, _) => ids.contains s).map fun (s, ts) =>
      (s, ts.filter ids.contains)
  (Text.sorted ids).flatMap fun id =>
    let direct := (adjacency.get? id).getD []
    ((reachableBefore adjacency id maxDepth).sorted.filter fun (t, depth) =>
      2 ≤ depth && !direct.contains t).map fun (t, depth) =>
        { source := id, target := t, level := .transitive,
          risk := if depth > 2 then .medium else .low }

/-- Measures of the graph. -/
def graphMetrics (components : List Component) (g : DependencyGraph) (details : List Detail) :
    DependencyMetrics :=
  let direct := details.filter (·.level != .transitive)
  let unitNodes := components.filterMap fun c => g.nodes.find? (·.id == c.id)
  let n : Int := g.nodes.length
  let central := (g.nodes.filter fun node => node.centrality > 0.0).mergeSort fun a b =>
    if a.centrality == b.centrality then Text.le a.id b.id else b.centrality ≤ a.centrality
  { totalComponents := components.length
    totalDependencies := direct.length
    externalDependencies := (direct.filter (·.isExternal)).length
    internalDependencies := (direct.filter (!·.isExternal)).length
    circularDependencies := g.cycles.length
    averageCoupling :=
      if unitNodes.isEmpty then 0.0
      else Number.roundPlaces 2
        (Number.ofInt (unitNodes.foldl (fun n u => n + u.outDegree) 0) /
          Number.ofInt unitNodes.length)
    graphDensity :=
      if n > 1 then
        Number.roundPlaces 4 (Number.ofInt g.edges.length / Number.ofInt (n * (n - 1)))
      else 0.0
    hubs := (central.take 5).map (·.id) }

/-- Advice on the order of extraction. -/
def recommendations (components : List Component) (g : DependencyGraph) (details : List Detail) :
    List Recommendation :=
  let ids := components.map (·.id)
  let leaves := Text.sorted (ids.filter fun id =>
    !((g.outgoing id).any fun e => ids.contains e.target))
  let first : List Recommendation :=
    if leaves.isEmpty then []
    else [⟨"extract-first", leaves,
      "No dependencies on other components; can be migrated independently", "high"⟩]
  let together := (g.clusters.filter (·.strategy == "together")).map fun c =>
    (⟨"extract-together", c.units,
      "Tightly coupled group (cohesion " ++ Number.fixed 2 c.cohesion ++
        "); migrate as one unit", "medium"⟩ : Recommendation)
  let circular := g.cycles.map fun cycle =>
    (⟨"refactor-before-extract", cycle,
      "Circular import chain: " ++ String.intercalate " -> " (cycle ++ cycle.take 1),
      "high"⟩ : Recommendation)
  let risky := Assoc.count ((details.filter fun d =>
    d.level != .transitive && (d.risk == .high || d.risk == .critical)).map (·.source))
  let flagged := Text.sorted ((risky.filter fun (_, n) => n > 5).map (·.1))
  let review : List Recommendation :=
    if flagged.isEmpty then []
    else [⟨"high-risk-extract", flagged,
      "Depends on shared context, wide imports or circular chains; migrate with extra review",
      "high"⟩]
  first ++ together ++ circular ++ review

namespace AnalysisSettings

/-- The densities that decide on clusters. -/
def cohesion (options : AnalysisSettings) : Cohesion :=
  ⟨options.clusterThreshold, options.togetherCohesion, options.stagedCohesion⟩

/-- The graph with its cycles, if they are asked for. -/
def withCycles (options : AnalysisSettings) (g : DependencyGraph) : DependencyGraph :=
  if options.detectCycles then
    DependencyGraph.markCycles { g with cycles := ComponentMigration.detectCycles g.adjacency }
  else g

/-- The details with their places on cycles, if these are asked for. -/
def markDetails (options : AnalysisSettings) (g : DependencyGraph) (details : List Detail) :
    List Detail :=
  if options.detectCycles then details.map (·.markCycle g.cycles) else details

/-- The links through other units, if they are asked for. -/
def transitiveOf (options : AnalysisSettings) (g : DependencyGraph) (components : List Component) :
    Usable (List Detail) :=
  if options.includeTransitive && !components.isEmpty then do
    return transitiveDetails g components (← options.maxDepth)
  else return []

/-- The clusters of the graph, if they are asked for. -/
def clustersOf (options : AnalysisSettings) (g : DependencyGraph) (components : List Component) :
    Usable (List Cluster) :=
  if options.generateClusters then
    findClusters (components.map (·.id)) g.adjacency options.cohesion
  else return []

end AnalysisSettings

/-- The analysis that gathered details give. -/
def analysisOf (options : AnalysisSettings) (components : List Component) (g : Gathered)
    (warnings : List String) : Usable DependencyAnalysis := do
  let graph := options.withCycles (buildGraph components g.details)
  let transitive ← options.transitiveOf graph components
  let details := options.markDetails graph g.details ++ transitive
  let clusters ← options.clustersOf graph components
  let graph := { graph with clusters := clusters }
  return { details := details
           external := g.external.sorted
           graph := graph
           metrics := graphMetrics components graph details
           recommendations := recommendations components graph details
           warnings := warnings }

end ComponentMigration
