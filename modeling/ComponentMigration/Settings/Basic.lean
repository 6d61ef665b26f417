import ComponentMigration.Assoc
import ComponentMigration.Fault.Strategy

/-!
# Settings

The settings of a migration come in sections and have defaults.  A setting may hold a value that
cannot be used the way the migration uses it; the trouble with it arises where it is used.
-/

namespace ComponentMigration

/-- Which files are looked at. -/
structure DiscoverySettings where
  includePatterns : Usable (List (Usable String)) :=
    .ok [.ok "*.tsx", .ok "*.ts", .ok "*.jsx", .ok "*.js"]
  excludePatterns : Usable (List (Usable String)) :=
    .ok [.ok "*.test.*", .ok "*.spec.*", .ok "*.stories.*", .ok "*.d.ts"]
  skipDirs : Usable (List String) :=
    .ok [".cache", ".git", ".next", ".turbo", "build", "coverage", "dist", "node_modules", "out"]
  maxFiles : Usable Quantity := .ok 10000
  coverageReport : Usable (Option String) := .ok none
  deriving Repr

/-- Limits of parsing. -/
structure ParserSettings where
  maxFileSize : Usable Quantity := .ok 1048576
  deriving Repr

/-- What the dependency analysis looks for. -/
structure AnalysisSettings where
  includeTransitive : Bool := true
  maxDepth : Usable Quantity := .ok 5
  detectCycles : Bool := true
  generateClusters : Bool := true
  clusterThreshold : Usable Quantity := .ok (.real 0.3)
  togetherCohesion : Usable Quantity := .ok (.real 0.7)
  stagedCohesion : Usable Quantity := .ok (.real 0.4)
  highRiskBindings : Usable Quantity := .ok 5
  deriving Repr

/-- The criteria of readiness and their usual weights. -/
def defaultWeights : Assoc Quantity :=
  [("code_quality", .real 0.20), ("documentation", .real 0.10), ("test_coverage", .real 0.15),
    ("dependency_complexity", .real 0.20), ("props_clarity", .real 0.10),
    ("logic_separation", .real 0.10), ("pattern_compliance", .real 0.10),
    ("migration_compatibility", .real 0.05)]

/-- How readiness is scored and work is planned. -/
structure InventorySettings where
  readinessThreshold : Quantity := 75
  weights : Assoc Quantity := defaultWeights
  effortCutPoints : List (Usable Quantity) := [.ok 2, .ok 4, .ok 6]
  riskCutPoints : List (Usable Quantity) := [.ok 2, .ok 4, .ok 6]
  maxComponentsPerPhase : Usable Int := .ok 10
  weeksPerComponent : Usable Quantity := .ok (.real 0.5)
  effortMultipliers : Usable (Assoc Json) :=
    .ok [("low", .int 1), ("medium", .int 2), ("high", .int 4), ("very-high", .int 8)]

/-- How components are transformed. -/
structure TransformSettings where
  extractBusinessLogic : Bool := true
  compatLayer : Bool := false
  parallel : Bool := false
  maxConcurrency : Usable Quantity := .ok 4
  batchSize : Usable Quantity := .ok 8
  prioritizeByComplexity : Bool := true
  groupBySimilarity : Bool := false
  transformLevels : Usable (List String) := .ok ["ready"]
  deriving Repr

/-- How a run proceeds. -/
structure PipelineSettings where
  mode : String := "full-pipeline"
  parallel : Bool := false
  maxWorkers : Usable Quantity := .ok 4
  batchSize : Usable Quantity := .ok 8
  skipErrors : Bool := true
  generateReports : Bool := true
  outputDir : Usable String := .ok "migration-reports"
  transform : Bool := false
  dryRun : Bool := false
  phaseTimeout : Usable (Option Quantity) := .ok none
  deriving Repr

/-- All settings. -/
structure Settings where
  discovery : DiscoverySettings := {}
  parser : ParserSettings := {}
  analysis : AnalysisSettings := {}
  inventory : InventorySettings := {}
  transform : TransformSettings := {}
  pipeline : PipelineSettings := {}
  retry : RetryPolicy := {}

end ComponentMigration
