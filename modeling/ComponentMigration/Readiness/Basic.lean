import ComponentMigration.Assoc
import ComponentMigration.Dependency.Basic
import ComponentMigration.Json.Misuse
import ComponentMigration.Number.Quantity

/-!
# Readiness

Every unit has a readiness for migration; the inventory gathers those of all units.
-/

namespace ComponentMigration

/-- How ready a unit is. -/
inductive ReadinessLevel where
  | ready
  | needsWork
  | complex
  | highRisk
  | other (label : String)
  deriving DecidableEq, Repr

namespace ReadinessLevel

/-- The label of a level. -/
def label : ReadinessLevel → String
  | .ready => "ready"
  | .needsWork => "needs-work"
  | .complex => "complex"
  | .highRisk => "high-risk"
  | .other label => label

/-- The level with a label. -/
def ofLabel : String → ReadinessLevel
  | "ready" => .ready
  | "needs-work" => .needsWork
  | "complex" => .complex
  | "high-risk" => .highRisk
  | label => .other label

/-- The levels in the order of reports. -/
def all : List ReadinessLevel := [.ready, .needsWork, .complex, .highRisk]

/-- The level of a score; `threshold` is where readiness begins. -/
def ofScore (score threshold : Quantity) : ReadinessLevel :=
  if threshold.isAtMost score then .ready
  else if Quantity.isAtMost 60 score then .needsWork
  else if Quantity.isAtMost 40 score then .complex
  else .highRisk

/-- The level of a score that may be any value.  Values of one sort are compared with each other,
but only numbers with the limits of the other levels. -/
def ofValues (score threshold : Json) : Usable ReadinessLevel := do
  if ← threshold.isAtMost score then return .ready
  else if ← (Json.int 60).isAtMost score then return .needsWork
  else if ← (Json.int 40).isAtMost score then return .complex
  else return .highRisk

end ReadinessLevel

/-- The tiers of effort. -/
inductive Effort where
  | low
  | medium
  | high
  | veryHigh
  | other (label : String)
  deriving DecidableEq, Repr

/-- The label of a tier. -/
def Effort.label : Effort → String
  | .low => "low"
  | .medium => "medium"
  | .high => "high"
  | .veryHigh => "very-high"
  | .other label => label

/-- The tier with a label. -/
def Effort.ofLabel : String → Effort
  | "low" => .low
  | "medium" => .medium
  | "high" => .high
  | "very-high" => .veryHigh
  | label => .other label

/-- The criteria of readiness, each out of a hundred. -/
structure Criteria where
  codeQuality : Quantity := 0
  documentation : Int := 0
  testCoverage : Int := 0
  dependencyComplexity : Int := 0
  propsClarity : Int := 0
  logicSeparation : Int := 0
  patternCompliance : Int := 0
  migrationCompatibility : Int := 0
  deriving DecidableEq, Repr

/-- The criteria by name, in order. -/
def Criteria.fields (c : Criteria) : Assoc Quantity :=
  [("code_quality", c.codeQuality), ("documentation", .whole c.documentation),
    ("test_coverage", .whole c.testCoverage),
    ("dependency_complexity", .whole c.dependencyComplexity),
    ("props_clarity", .whole c.propsClarity), ("logic_separation", .whole c.logicSeparation),
    ("pattern_compliance", .whole c.patternCompliance),
    ("migration_compatibility", .whole c.migrationCompatibility)]

/-- The readiness of a unit. -/
structure Readiness where
  unitId : String
  name : String
  criteria : Criteria
  overallScore : Int
  level : ReadinessLevel
  blockers : List String := []
  prerequisites : List String := []
  effort : Effort := .low
  risk : Risk := .low
  deriving DecidableEq, Repr

/-- The units of one level. -/
structure InventorySection where
  level : ReadinessLevel
  title : String
  description : String
  units : List String := []
  recommendations : List String := []
  averageScore : Float := 0.0
  deriving Repr

/-- A phase of the roadmap. -/
structure RoadmapPhase where
  number : Nat
  name : String
  units : List String
  duration : String
  developers : Int
  dependencies : List String := []
  successCriteria : List String := []
  description : String := ""
  deriving DecidableEq, Repr

/-- The plan of a migration. -/
structure Roadmap where
  phases : List RoadmapPhase := []
  totalDuration : String := "0 weeks"
  developers : Int := 0
  approach : String := "incremental"
  successMetrics : List String := []
  deriving DecidableEq, Repr

/-- The inventory in numbers. -/
structure InventorySummary where
  totalComponents : Int := 0
  byLevel : Assoc Nat := []
  byKind : Assoc Nat := []
  byComplexity : Assoc Nat := []
  averageScore : Float := 0.0
  estimatedPersonMonths : Int := 0
  keyRecommendations : List String := []
  criticalRisks : List String := []
  deriving Repr

/-- The inventory of all units. -/
structure Inventory where
  generatedAt : String
  threshold : Quantity
  source : String := ""
  components : List Readiness := []
  sections : List InventorySection := []
  roadmap : Roadmap := {}
  summary : InventorySummary := {}
  deriving Repr

/-- The readiness of a unit in an inventory. -/
def Inventory.readinessFor (i : Inventory) (unitId : String) : Option Readiness :=
  i.components.find? (·.unitId == unitId)

end ComponentMigration
