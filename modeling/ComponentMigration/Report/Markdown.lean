import ComponentMigration.Json.Display
import ComponentMigration.Number.Binary64
import ComponentMigration.Readiness.Basic
import ComponentMigration.Text.Basic

/-!
# Reports

What reports say, as values and as pages and drawings.
-/

namespace ComponentMigration

/-!
## Reports as values

The inventory and the analysis are values of the data notation.
-/

/-- The version that reports and generated modules name. -/
def version : String := "0.3.0"

/-- Criteria as a value. -/
def Criteria.toJson (c : Criteria) : Json := .obj (c.fields.map fun (k, n) => (k, .ofQuantity n))

/-- The readiness of a unit as a value. -/
def Readiness.toJson (r : Readiness) : Json :=
  .obj [("unit_id", .str r.unitId), ("name", .str r.name), ("criteria", r.criteria.toJson),
    ("overall_score", .int r.overallScore), ("readiness_level", .str r.level.label),
    ("blockers", Json.texts r.blockers), ("prerequisites", Json.texts r.prerequisites),
    ("effort", .str r.effort.label), ("risk", .str r.risk.label)]

/-- A section as a value. -/
def InventorySection.toJson (s : InventorySection) : Json :=
  .obj [("level", .str s.level.label), ("title", .str s.title),
    ("description", .str s.description), ("units", Json.texts s.units),
    ("recommendations", Json.texts s.recommendations), ("average_score", .float s.averageScore)]

/-- A phase of the roadmap as a value. -/
def RoadmapPhase.toJson (p : RoadmapPhase) : Json :=
  .obj [("number", Json.nat p.number), ("name", .str p.name), ("units", Json.texts p.units),
    ("duration", .str p.duration), ("developers", .int p.developers),
    ("dependencies", Json.texts p.dependencies),
    ("success_criteria", Json.texts p.successCriteria), ("description", .str p.description)]

/-- The roadmap as a value. -/
def Roadmap.toJson (r : Roadmap) : Json :=
  .obj [("phases", .arr (r.phases.map RoadmapPhase.toJson)),
    ("total_duration", .str r.totalDuration), ("developers", .int r.developers),
    ("approach", .str r.approach), ("success_metrics", Json.texts r.successMetrics)]

/-- The summary as a value. -/
def InventorySummary.toJson (s : InventorySummary) : Json :=
  .obj [("total_components", .int s.totalComponents), ("by_level", Json.counts s.byLevel),
    ("by_kind", Json.counts s.byKind), ("by_complexity", Json.counts s.byComplexity),
    ("average_score", .float s.averageScore),
    ("estimated_person_months", .int s.estimatedPersonMonths),
    ("key_recommendations", Json.texts s.keyRecommendations),
    ("critical_risks", Json.texts s.criticalRisks)]

/-- The fields of an inventory. -/
def Inventory.fields (i : Inventory) : Assoc Json :=
  [("generated_at", .str i.generatedAt), ("threshold", .ofQuantity i.threshold),
    ("source", .str i.source), ("components", .arr (i.components.map Readiness.toJson)),
    ("sections", .arr (i.sections.map InventorySection.toJson)),
    ("roadmap", i.roadmap.toJson), ("summary", i.summary.toJson)]

/-- Measures of the graph as a value. -/
def DependencyMetrics.toJson (m : DependencyMetrics) : Json :=
  .obj [("total_components", .int m.totalComponents),
    ("total_dependencies", .int m.totalDependencies),
    ("external_dependencies", .int m.externalDependencies),
    ("internal_dependencies", .int m.internalDependencies),
    ("circular_dependencies", .int m.circularDependencies),
    ("average_coupling", .float m.averageCoupling), ("graph_density", .float m.graphDensity),
    ("hubs", Json.texts m.hubs)]

/-- A cluster as a value. -/
def Cluster.toJson (c : Cluster) : Json :=
  .obj [("id", .str c.id), ("units", Json.texts c.units), ("cohesion", .float c.cohesion),
    ("strategy", .str c.strategy)]

/-- A package as a value. -/
def ExternalPackage.toJson (e : ExternalPackage) : Json :=
  .obj [("name", .str e.name), ("classification", .str e.classification),
    ("usage_count", .int e.usageCount), ("used_by", Json.texts e.usedBy),
    ("disposition", .str e.disposition), ("is_dev", .bool e.isDev)]

/-- Advice as a value. -/
def Recommendation.toJson (r : Recommendation) : Json :=
  .obj [("kind", .str r.kind), ("units", Json.texts r.units), ("reason", .str r.reason),
    ("priority", .str r.priority)]

/-- What a report tells about dependencies. -/
def DependencyAnalysis.payload (a : DependencyAnalysis) : Json :=
  .obj [("metrics", a.metrics.toJson), ("cycles", .arr (a.graph.cycles.map Json.texts)),
    ("clusters", .arr (a.graph.clusters.map Cluster.toJson)),
    ("external", .obj (a.external.map fun (name, e) => (name, e.toJson))),
    ("recommendations", .arr (a.recommendations.map Recommendation.toJson))]

/-- What a report adds to the inventory. -/
def payloadExtras (analysis : Option DependencyAnalysis) : Assoc Json :=
  ("pipeline_version", .str version) ::
    match analysis with
    | some a => [("dependencies", a.payload)]
    | none => []

/-- The inventory report. -/
def inventoryPayload (i : Inventory) (analysis : Option DependencyAnalysis) : Json :=
  .obj (i.fields ++ payloadExtras analysis)

/-!
## Pages and drawings

The inventory is written as a page for people, the dependency graph as a drawing.
-/

/-- A percentage without decimal places. -/
def wholePercent (x : Float) : String := toString (Number.roundInt x) ++ "%"

/-- The page's part on one phase. -/
def phaseLines (names : List (String × Readiness)) (p : RoadmapPhase) : List String :=
  ["### " ++ p.name, "", p.description, "", "**Duration**: " ++ p.duration,
    "**Components**: " ++ toString p.units.length, ""] ++
    (p.units.map fun u => "- " ++ ((names.lookup u).map (·.name)).getD u) ++ [""]

/-- The page's part on one section. -/
def sectionLines (names : List (String × Readiness)) (s : InventorySection) : List String :=
  ["### " ++ s.title, "", s.description, "", "**Count**: " ++ toString s.units.length,
    "**Average Score**: " ++ wholePercent s.averageScore, ""] ++
    (s.units.filterMap fun u => (names.lookup u).map fun r =>
      "- **" ++ r.name ++ "** (" ++ toString r.overallScore ++ "%) - " ++ u) ++ [""]

/-- The inventory as a page. -/
def renderMarkdown (i : Inventory) : String :=
  let names := (i.components.map fun r => (r.unitId, r)).reverse
  let s := i.summary
  let head :=
    ["# Component Migration Inventory", "", "Generated on: " ++ i.generatedAt,
      "Source: " ++ i.source, "Pipeline Version: " ++ version, "", "## Executive Summary", "",
      "- **Total Components**: " ++ toString s.totalComponents,
      "- **Average Readiness**: " ++ wholePercent s.averageScore,
      "- **Estimated Effort**: " ++ toString s.estimatedPersonMonths ++ " person-months", "",
      "### Component Readiness Distribution", ""]
  let levels := s.byLevel.map fun (level, count) =>
    "- **" ++ level ++ "**: " ++ toString count ++ " components"
  let advice := ["", "### Key Recommendations", ""] ++ s.keyRecommendations.map ("- " ++ ·) ++ [""]
  let risks :=
    if s.criticalRisks.isEmpty then []
    else ["### Critical Risks", ""] ++ s.criticalRisks.map ("- " ++ ·) ++ [""]
  let roadmap :=
    ["## Migration Roadmap", "", "**Approach**: " ++ i.roadmap.approach,
      "**Timeline**: " ++ i.roadmap.totalDuration, ""] ++
      i.roadmap.phases.flatMap (phaseLines names)
  let sections := ["## Component Inventory", ""] ++ i.sections.flatMap (sectionLines names)
  String.intercalate "\n" (head ++ levels ++ advice ++ risks ++ roadmap ++ sections)

/-- A text inside double quotes. -/
def escapeQuotes (s : String) : String := Text.replace s "\"" "\\\""

/-- The drawing of a dependency graph; nodes as boxes or ellipses, edges of cycles in red. -/
def renderDot (g : DependencyGraph) : String :=
  let nodes := g.nodes.map fun n =>
    let id := escapeQuotes n.id
    "  \"" ++ id ++ "\" [shape=" ++ (if n.nodeType == "component" then "box" else "ellipse") ++
      ", label=\"" ++ id ++ "\"];"
  let edges := g.edges.map fun e =>
    "  \"" ++ escapeQuotes e.source ++ "\" -> \"" ++ escapeQuotes e.target ++ "\" [label=\"" ++
      e.relation.label ++ "\"" ++ (if e.isCyclic then ", color=red" else "") ++ "];"
  String.intercalate "\n"
    (["digraph Dependencies \x7b", "  rankdir=LR;"] ++ nodes ++ edges ++ ["\x7d"])

end ComponentMigration
