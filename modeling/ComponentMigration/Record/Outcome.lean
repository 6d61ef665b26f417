import ComponentMigration.Artifact.Bundle
import ComponentMigration.Json.Misuse
import ComponentMigration.Json.Value
import ComponentMigration.Project.Discovery
import ComponentMigration.Structure.Basic

/-!
# Units and outcomes as tables

Units, and what comes of their migration, as tables of the data notation.
-/

namespace ComponentMigration

/-!
## Records of units

Units and discoveries as tables of the data notation, and units read back from tables in which
fields may be missing.
-/

/-- A prop as a table. -/
def PropSpec.toJson (p : PropSpec) : Json :=
  .obj [("name", .str p.name), ("type", .str p.type), ("required", .bool p.required),
    ("description", .str p.description)]

/-- The prop of a table. -/
def PropSpec.ofJson (v : Json) : PropSpec :=
  { name := v.textAt "name" ""
    type := v.textAt "type" "string"
    required := v.boolAt "required" true
    description := v.textAt "description" "" }

/-- An import as a table. -/
def Dependency.toJson (d : Dependency) : Json :=
  .obj [("name", .str d.name), ("kind", .str d.origin.label), ("import_path", .str d.importPath),
    ("critical", .bool d.critical), ("bindings", Json.texts d.bindings)]

/-- The import of a table; without a path it is imported by its name. -/
def Dependency.ofJson (v : Json) : Dependency :=
  let name := v.textAt "name" ""
  { name := name
    origin := .ofLabel (v.textAt "kind" "external")
    importPath := v.textAt "import_path" name
    critical := v.boolAt "critical"
    bindings := v.textsAt "bindings" }

/-- An inner function as a table. -/
def LogicSpec.toJson (l : LogicSpec) : Json :=
  .obj [("name", .str l.name), ("complexity", .str l.complexity.label), ("line", .int l.line)]

/-- The inner function of a table. -/
def LogicSpec.ofJson (v : Json) : LogicSpec :=
  { name := v.textAt "name" ""
    complexity := .ofLabel (v.textAt "complexity" "simple")
    line := v.intAt "line" }

/-- Measures as a table. -/
def Metadata.toJson (m : Metadata) : Json :=
  .obj [("has_documentation", .bool m.hasDocumentation), ("test_coverage", .float m.testCoverage),
    ("bundle_size", .int m.bundleSize), ("line_count", .int m.lineCount),
    ("documentation", .str m.documentation)]

/-- The measures of a table; the coverage may be written in a text. -/
def Metadata.ofJson (v : Json) : Usable Metadata := do
  let coverage ← v.realAt "test_coverage"
  return {
    hasDocumentation := v.boolAt "has_documentation"
    testCoverage := coverage
    bundleSize := v.intAt "bundle_size"
    lineCount := v.intAt "line_count"
    documentation := v.textAt "documentation" "" }

/-- A unit as a table. -/
def Component.toJson (c : Component) : Json :=
  .obj [("id", .str c.id), ("name", .str c.name), ("file_path", .str c.filePath),
    ("absolute_path", .str c.absolutePath), ("kind", .str c.kind.label),
    ("complexity", .str c.complexity.label), ("props", .arr (c.props.map PropSpec.toJson)),
    ("dependencies", .arr (c.dependencies.map Dependency.toJson)),
    ("business_logic", .arr (c.businessLogic.map LogicSpec.toJson)),
    ("patterns", Json.texts c.patterns), ("metadata", c.metadata.toJson),
    ("start_line", .int c.startLine), ("end_line", .int c.endLine),
    ("complexity_score", .int c.complexityScore)]

/-- The unit of a table.  The file is named after the unit, and the id after both, unless the table
says otherwise. -/
def Component.ofJson (v : Json) : Usable Component := do
  let name := v.textAt "name" "A"
  let file := v.textAt "file_path" (name ++ ".tsx")
  let metadata ← Metadata.ofJson (v.field "metadata")
  return {
    id := v.textAt "id" (file ++ ":" ++ name)
    name := name
    filePath := file
    absolutePath := v.textAt "absolute_path" file
    kind := .ofLabel (v.textAt "kind" "functional")
    complexity := .ofLabel (v.textAt "complexity" "simple")
    props := (v.itemsAt "props").map PropSpec.ofJson
    dependencies := (v.itemsAt "dependencies").map Dependency.ofJson
    businessLogic := (v.itemsAt "business_logic").map LogicSpec.ofJson
    patterns := v.textsAt "patterns"
    metadata := metadata
    startLine := v.intAt "start_line" 1
    endLine := v.intAt "end_line" 1
    complexityScore := v.intAt "complexity_score" }

/-- An issue of a discovery as a table. -/
def DiscoveryIssue.toJson (i : DiscoveryIssue) : Json :=
  .obj [("file_path", .str i.filePath), ("message", .str i.message), ("severity", .str i.severity)]

/-- Discovered units in numbers as a table. -/
def DiscoveryStatistics.toJson (s : DiscoveryStatistics) : Json :=
  .obj [("total_files", .int s.totalFiles), ("total_components", .int s.totalComponents),
    ("by_kind", Json.counts s.byKind), ("by_complexity", Json.counts s.byComplexity),
    ("pattern_counts", Json.counts s.patternCounts),
    ("average_complexity", .float s.averageComplexity)]

/-- A discovery as a table. -/
def DiscoveryResult.toJson (r : DiscoveryResult) : Json :=
  .obj [("root", .str r.root), ("components", .arr (r.components.map Component.toJson)),
    ("issues", .arr (r.issues.map DiscoveryIssue.toJson)), ("statistics", r.statistics.toJson)]

/-!
## Records of outcomes

What parsing, transforming, validating and assessing a unit gives, as tables of the data notation
and read back from tables in which fields may be missing.
-/

/-- Groups of imports as a table. -/
def ImportGroups.toJson (g : ImportGroups) : Json :=
  .obj [("external", Json.texts g.external), ("internal", Json.texts g.internal),
    ("types", Json.texts g.types)]

/-- A composition as a table. -/
def Composition.toJson (c : Composition) : Json :=
  .obj [("forward_ref", .bool c.forwardRef), ("memo", .bool c.memo), ("hocs", Json.texts c.hocs),
    ("children", Json.texts c.children)]

/-- A structure as a table; what is not known is an empty table. -/
def ComponentStructure.toJson (s : ComponentStructure) : Json :=
  .obj [("props", Json.texts s.props), ("methods", Json.texts s.methods),
    ("hooks", .obj (s.hooks.map fun (sort, names) => (sort, Json.texts names))),
    ("lifecycle", Json.texts s.lifecycle),
    ("composition", (s.composition.map Composition.toJson).getD (.obj [])),
    ("exports", Json.texts s.exports),
    ("imports", (s.imports.map ImportGroups.toJson).getD (.obj []))]

/-- The outcome of parsing as a table. -/
def ParseOutcome.toJson (p : ParseOutcome) : Json :=
  .obj [("unit_id", .str p.unitId), ("success", .bool p.success),
    ("complexity", .ofQuantity p.complexity),
    ("cognitive_complexity", .int p.cognitive), ("documentation", Json.ofText? p.documentation),
    ("structure", p.componentStructure.toJson), ("errors", Json.texts p.errors),
    ("requires_manual_review", .bool p.requiresManualReview)]

/-- The outcome of parsing a unit by its table. -/
def ParseOutcome.ofJson (unitId : String) (v : Json) : ParseOutcome :=
  { unitId := v.textAt "unit_id" unitId
    success := v.boolAt "success" true
    complexity := ((v.get? "complexity").bind Json.quantity?).getD 1
    cognitive := v.intAt "cognitive_complexity"
    documentation := v.textAt? "documentation"
    errors := v.textsAt "errors"
    requiresManualReview := v.boolAt "requires_manual_review" }

/-- An extracted hook as a table. -/
def ExtractedHook.toJson (h : ExtractedHook) : Json :=
  .obj [("name", .str h.name), ("code", .str h.code),
    ("source_functions", Json.texts h.sourceFunctions),
    ("complexity_reduction", .int h.complexityReduction)]

/-- The extracted hook of a table. -/
def ExtractedHook.ofJson (v : Json) : ExtractedHook :=
  { name := v.textAt "name" ""
    code := v.textAt "code" ""
    sourceFunctions := v.textsAt "source_functions"
    complexityReduction := v.intAt "complexity_reduction" }

/-- Measures of a transformation as a table. -/
def TransformMetrics.toJson (m : TransformMetrics) : Json :=
  .obj [("loc_before", .int m.locBefore), ("loc_after", .int m.locAfter),
    ("complexity_before", .int m.complexityBefore), ("complexity_after", .int m.complexityAfter),
    ("quality_improvement", .int m.qualityImprovement),
    ("bundle_size_delta", .int m.bundleSizeDelta)]

/-- The fields of a transformation, without the unit itself. -/
def TransformOutcome.fields (t : TransformOutcome) : Assoc Json :=
  [("success", .bool t.success), ("code", .str t.code),
    ("hooks", .arr (t.hooks.map ExtractedHook.toJson)),
    ("type_definitions", .str t.typeDefinitions), ("imports", Json.texts t.imports),
    ("exports", Json.texts t.exports), ("warnings", Json.texts t.warnings),
    ("migration_effort", .str t.migrationEffort),
    ("compatibility_score", .int t.compatibilityScore), ("metrics", t.metrics.toJson),
    ("requires_manual_review", .bool t.requiresManualReview),
    ("transformed", Json.ofOption Component.toJson t.transformed),
    ("event_handlers", Json.texts t.eventHandlers)]

/-- The transformation of a table. -/
def TransformOutcome.ofJson (v : Json) : Usable TransformOutcome := do
  let component ← Component.ofJson (v.field "component")
  return {
    component := component
    success := v.boolAt "success" true
    code := v.textAt "code" ""
    hooks := (v.itemsAt "hooks").map ExtractedHook.ofJson
    typeDefinitions := v.textAt "type_definitions" ""
    imports := v.textsAt "imports"
    exports := v.textsAt "exports"
    warnings := v.textsAt "warnings"
    migrationEffort := v.textAt "migration_effort" "low"
    compatibilityScore := v.intAt "compatibility_score" 100
    requiresManualReview := v.boolAt "requires_manual_review"
    eventHandlers := v.textsAt "event_handlers" }

/-- A check of code as a table. -/
def CodeCheck.toJson (c : CodeCheck) : Json :=
  .obj [("passed", .bool c.passed), ("errors", Json.texts c.errors)]

/-- An issue of a validation as a table. -/
def Issue.toJson (i : Issue) : Json :=
  .obj [("code", .str i.code), ("message", .str i.message), ("severity", .str i.gravity.label),
    ("field", .str i.field)]

/-- The issue of a table. -/
def Issue.ofJson (v : Json) : Issue :=
  { code := v.textAt "code" ""
    message := v.textAt "message" ""
    gravity := .ofLabel (v.textAt "severity" "")
    field := v.textAt "field" "" }

/-- A difference as a table. -/
def Difference.toJson (d : Difference) : Json :=
  .obj [("category", .str d.category), ("description", .str d.description),
    ("severity", .str d.gravity.label), ("source_value", Json.nat d.sourceValue),
    ("target_value", Json.nat d.targetValue)]

/-- A comparison as a table. -/
def Comparison.toJson (c : Comparison) : Json :=
  .obj [("equivalent", .bool c.equivalent), ("valid", .bool c.valid),
    ("validation_score", .int c.score),
    ("business_logic_preservation", .float c.logicPreservation),
    ("type_safety", .float c.typeSafety), ("issues", .arr (c.issues.map Issue.toJson)),
    ("differences", .arr (c.differences.map Difference.toJson))]

/-- The comparison of a table. -/
def Comparison.ofJson (v : Json) : Comparison :=
  { equivalent := v.boolAt "equivalent"
    valid := v.boolAt "valid"
    score := v.intAt "validation_score"
    logicPreservation := v.floatAt "business_logic_preservation"
    typeSafety := v.floatAt "type_safety"
    issues := (v.itemsAt "issues").map Issue.ofJson }

/-- A quality as a table. -/
def Quality.toJson (q : Quality) : Json :=
  .obj [("overall_score", .float q.overall), ("business_logic", .float q.businessLogic),
    ("type_safety", .float q.typeSafety), ("structure", .float q.structureScore),
    ("performance", .float q.performance), ("maintainability", .float q.maintainability),
    ("production_ready", .bool q.productionReady)]

/-- The quality of a table. -/
def Quality.ofJson (v : Json) : Quality :=
  { overall := v.floatAt "overall_score"
    businessLogic := v.floatAt "business_logic"
    typeSafety := v.floatAt "type_safety"
    structureScore := v.floatAt "structure"
    performance := v.floatAt "performance"
    maintainability := v.floatAt "maintainability"
    productionReady := v.boolAt "production_ready" }

/-- A validation as a table. -/
def ValidationReport.toJson (r : ValidationReport) : Json :=
  .obj [("unit_id", .str r.unitId), ("comparison", r.comparison.toJson),
    ("quality", r.quality.toJson)]

/-- The validation of a table. -/
def ValidationReport.ofJson (v : Json) : ValidationReport :=
  { unitId := v.textAt "unit_id" ""
    comparison := .ofJson (v.field "comparison")
    quality := .ofJson (v.field "quality") }

/-- The criteria of a table. -/
def Criteria.ofJson (v : Json) : Criteria :=
  { codeQuality := .whole (v.intAt "code_quality")
    documentation := v.intAt "documentation"
    testCoverage := v.intAt "test_coverage"
    dependencyComplexity := v.intAt "dependency_complexity"
    propsClarity := v.intAt "props_clarity"
    logicSeparation := v.intAt "logic_separation"
    patternCompliance := v.intAt "pattern_compliance"
    migrationCompatibility := v.intAt "migration_compatibility" }

/-- The readiness of a table. -/
def Readiness.ofJson (v : Json) : Readiness :=
  { unitId := v.textAt "unit_id" ""
    name := v.textAt "name" ""
    criteria := .ofJson (v.field "criteria")
    overallScore := v.intAt "overall_score"
    level := .ofLabel (v.textAt "readiness_level" "")
    blockers := v.textsAt "blockers"
    prerequisites := v.textsAt "prerequisites"
    effort := .ofLabel (v.textAt "effort" "low")
    risk := .ofLabel (v.textAt "risk" "low") }

/-- The fields of a bundle, without its module. -/
def Bundle.fields (b : Bundle) : Assoc Json :=
  [("name", .str b.name), ("readme", .str b.readme), ("types", Json.ofText? b.types),
    ("test", Json.ofText? b.test)]

end ComponentMigration
