import ComponentMigration.Dependency.Cycle
import ComponentMigration.Json.Value
import ComponentMigration.Report.Markdown

/-!
# Records of dependencies

Details, graphs and analyses as tables of the data notation, and read back from tables in which
fields may be missing.
-/

namespace ComponentMigration

/-- A usage as a table. -/
def UsageContext.toJson (u : UsageContext) : Json :=
  .obj [("line", .int u.line), ("column", .int u.column), ("usage", .str u.usage)]

/-- The usage of a table. -/
def UsageContext.ofJson (v : Json) : UsageContext :=
  ⟨v.intAt "line", v.intAt "column", v.textAt "usage" ""⟩

/-- A detail as a table. -/
def Detail.toJson (d : Detail) : Json :=
  .obj [("source", .str d.source), ("target", .str d.target), ("type", .str d.relation.label),
    ("level", .str d.level.label), ("import_path", .str d.importPath),
    ("bindings", Json.texts d.bindings),
    ("usage_contexts", .arr (d.usages.map UsageContext.toJson)),
    ("extraction_risk", .str d.risk.label), ("is_external", .bool d.isExternal)]

/-- The detail of a table. -/
def Detail.ofJson (v : Json) : Detail :=
  { source := v.textAt "source" ""
    target := v.textAt "target" ""
    relation := .ofLabel (v.textAt "type" "import")
    level := .ofLabel (v.textAt "level" "direct")
    importPath := v.textAt "import_path" ""
    bindings := v.textsAt "bindings"
    usages := (v.itemsAt "usage_contexts").map UsageContext.ofJson
    risk := .ofLabel (v.textAt "extraction_risk" "low")
    isExternal := v.boolAt "is_external" }

/-- A node as a table. -/
def GraphNode.toJson (n : GraphNode) : Json :=
  .obj [("id", .str n.id), ("node_type", .str n.nodeType), ("in_degree", .int n.inDegree),
    ("out_degree", .int n.outDegree), ("centrality", .float n.centrality)]

/-- The node of a table. -/
def GraphNode.ofJson (v : Json) : GraphNode :=
  { id := v.textAt "id" ""
    nodeType := v.textAt "node_type" ""
    inDegree := v.intAt "in_degree"
    outDegree := v.intAt "out_degree"
    centrality := v.floatAt "centrality" }

/-- An edge as a table. -/
def GraphEdge.toJson (e : GraphEdge) : Json :=
  .obj [("source", .str e.source), ("target", .str e.target), ("type", .str e.relation.label),
    ("weight", .int e.weight), ("is_cyclic", .bool e.isCyclic)]

/-- The edge of a table. -/
def GraphEdge.ofJson (v : Json) : GraphEdge :=
  { source := v.textAt "source" ""
    target := v.textAt "target" ""
    relation := .ofLabel (v.textAt "type" "import")
    weight := v.intAt "weight" 1
    isCyclic := v.boolAt "is_cyclic" }

/-- The cluster of a table. -/
def Cluster.ofJson (v : Json) : Cluster :=
  { id := v.textAt "id" ""
    units := v.textsAt "units"
    cohesion := v.floatAt "cohesion"
    strategy := v.textAt "strategy" "" }

/-- A graph as a table; its nodes are a table by id. -/
def DependencyGraph.toJson (g : DependencyGraph) : Json :=
  .obj [("nodes", .obj (g.nodes.map fun n => (n.id, n.toJson))),
    ("edges", .arr (g.edges.map GraphEdge.toJson)), ("cycles", .arr (g.cycles.map Json.texts)),
    ("clusters", .arr (g.clusters.map Cluster.toJson))]

/-- The graph of a table; its nodes may be a table by id or a list. -/
def DependencyGraph.ofJson (v : Json) : DependencyGraph :=
  let nodes := v.field "nodes"
  { nodes := (nodes.fields.map Prod.snd ++ nodes.items).map GraphNode.ofJson
    edges := (v.itemsAt "edges").map GraphEdge.ofJson
    cycles := (v.itemsAt "cycles").map Json.textItems
    clusters := (v.itemsAt "clusters").map Cluster.ofJson }

/-- The measures of a table. -/
def DependencyMetrics.ofJson (v : Json) : DependencyMetrics :=
  { totalComponents := v.intAt "total_components"
    totalDependencies := v.intAt "total_dependencies"
    externalDependencies := v.intAt "external_dependencies"
    internalDependencies := v.intAt "internal_dependencies"
    circularDependencies := v.intAt "circular_dependencies"
    averageCoupling := v.floatAt "average_coupling"
    graphDensity := v.floatAt "graph_density"
    hubs := v.textsAt "hubs" }

/-- The package of a table. -/
def ExternalPackage.ofJson (v : Json) : ExternalPackage :=
  { name := v.textAt "name" ""
    classification := v.textAt "classification" ""
    usageCount := v.intAt "usage_count"
    usedBy := v.textsAt "used_by"
    disposition := v.textAt "disposition" "evaluate"
    isDev := v.boolAt "is_dev" }

/-- The advice of a table. -/
def Recommendation.ofJson (v : Json) : Recommendation :=
  { kind := v.textAt "kind" ""
    units := v.textsAt "units"
    reason := v.textAt "reason" ""
    priority := v.textAt "priority" "medium" }

/-- The fields of an analysis. -/
def DependencyAnalysis.fields (a : DependencyAnalysis) : Assoc Json :=
  [("dependencies", .arr (a.details.map Detail.toJson)),
    ("external_dependencies", .obj (a.external.map fun (name, e) => (name, e.toJson))),
    ("graph", a.graph.toJson), ("metrics", a.metrics.toJson),
    ("recommendations", .arr (a.recommendations.map Recommendation.toJson)),
    ("warnings", Json.texts a.warnings)]

/-- The packages of a list of tables, by name. -/
def externalPackages (items : List Json) : Assoc ExternalPackage :=
  items.foldl (fun acc v =>
    let p := ExternalPackage.ofJson v
    acc.set p.name p) []

/-- The analysis of a table, in which packages are a list. -/
def DependencyAnalysis.ofJson (v : Json) : DependencyAnalysis :=
  { details := (v.itemsAt "dependencies").map Detail.ofJson
    external := externalPackages (v.itemsAt "external")
    graph := .ofJson (v.field "graph")
    metrics := .ofJson (v.field "metrics")
    recommendations := (v.itemsAt "recommendations").map Recommendation.ofJson }

/-- The neighbours of a table: for every node the nodes that it leads to. -/
def Adjacency.ofJson (v : Json) : Adjacency :=
  v.fields.map fun (id, targets) => (id, targets.textItems)

/-- What an analysis says about single units: their order in the graph, the numbers of their
dependencies without and with the indirect ones, and those of their edges in and out. -/
def DependencyAnalysis.unitFields (a : DependencyAnalysis) (ids : List String) : Assoc Json :=
  let pair := fun (m n : Nat) => Json.arr [Json.nat m, Json.nat n]
  [("nodes_order", Json.texts (a.graph.nodes.map GraphNode.id)),
    ("for_unit", .obj (ids.map fun id =>
      (id, pair (a.forUnit id).length (a.forUnit id true).length))),
    ("degree", .obj (ids.map fun id =>
      (id, pair (a.graph.incoming id).length (a.graph.outgoing id).length)))]

end ComponentMigration
