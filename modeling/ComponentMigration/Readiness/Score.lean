import ComponentMigration.Readiness.Basic
import ComponentMigration.Structure.Basic
import ComponentMigration.Settings.Basic
import ComponentMigration.Number.Arithmetic

/-!
# Scores of readiness

The overall score is the weighted sum of the criteria, rounded half up and brought between zero and
a hundred; it can be computed in any arithmetic.  Effort and risk are tiers of points.
-/

namespace ComponentMigration

/-- Brings a number between zero and a hundred. -/
def clampScore (n : Int) : Int := if n < 0 then 0 else if 100 < n then 100 else n

/-- How well a unit's shape suits migration. -/
def migrationCompatibility (c : Component) : Int :=
  let score : Int := 80
  let score := match c.kind with
    | .functional => score + 10
    | .classBased => score - 10
    | _ => score
  let score := if c.patterns.contains "useState" then score + 5 else score
  let score := if c.patterns.contains "useEffect" then score + 5 else score
  let score := match c.complexity with
    | .complex => score - 15
    | .critical => score - 25
    | _ => score
  clampScore score

/-- How good the code of a unit is by its complexity, as far as that is known. -/
def codeQualityOf (parse : Option ParseOutcome) : Usable Quantity :=
  match parse with
  | some p =>
    if p.success then do
      return Quantity.greater 0 (← Quantity.sub 100 (← p.complexity.mul 5))
    else .ok 50
  | none => .ok 50

/-- The criteria of a unit. -/
def criteriaOf (c : Component) (parse : Option ParseOutcome) : Usable Criteria := do
  let codeQuality ← codeQualityOf parse
  let testCoverage ← (Quantity.real c.metadata.testCoverage).trunc
  return { codeQuality := codeQuality
           documentation := if c.metadata.hasDocumentation then 80 else 20
           testCoverage := testCoverage
           dependencyComplexity := max 0 (100 - (c.dependencies.length : Int) * 10)
           propsClarity :=
             if c.props.isEmpty then 80 else min 100 ((c.props.length : Int) * 20)
           logicSeparation := if c.businessLogic.isEmpty then 90 else 70
           patternCompliance := if c.patterns.isEmpty then 60 else 85
           migrationCompatibility := migrationCompatibility c }

section

variable {m : Type → Type} [Monad m]

/-- The weighted sum of criteria. -/
def weightedTotal {α : Type} [Arithmetic m α] (weights : Assoc Quantity) (c : Criteria) : m α :=
  Arithmetic.sum (weights.map fun (name, weight) => do
    Arithmetic.mul (← Arithmetic.of ((c.fields.get? name).getD 0)) (← Arithmetic.of weight))

/-- The overall score. -/
def overallScore (α : Type) [Arithmetic m α] (weights : Assoc Quantity) (c : Criteria) : m Int := do
  let total : α ← weightedTotal weights c
  return clampScore (← Arithmetic.roundHalfUp total)

end

/-- What stands in the way of migrating a unit. -/
def blockersOf (c : Component) (parse : Option ParseOutcome) : List String :=
  (if c.complexity == .critical then ["Critical complexity level requires refactoring"] else []) ++
    (if c.props.isEmpty && c.kind == .functional then
      ["Missing TypeScript props interface definition"] else []) ++
    (if parse.any (!·.success) then
      ["Component contains syntax errors or parse failures"] else []) ++
    (if parse.any (Quantity.isLess 15 ·.complexity) then
      ["High cyclomatic complexity requires simplification"] else []) ++
    (if c.metadata.hasDocumentation then [] else ["Missing component documentation"])

/-- What has to be done before migrating a unit. -/
def prerequisitesOf (blockers : List String) (c : Criteria) : List String :=
  (if blockers.isEmpty then [] else ["Resolve identified blockers"]) ++
    (if c.testCoverage < 50 then ["Improve test coverage to at least 50%"] else []) ++
    (if c.documentation < 50 then ["Add comprehensive component documentation"] else []) ++
    (if c.codeQuality.isLess 60 then ["Refactor to improve code quality"] else []) ++
    (if c.dependencyComplexity < 60 then ["Simplify dependency structure"] else [])

/-- The first tier whose upper limit is not exceeded, else the last tier; `within` says whether the
points do not exceed a limit. -/
def tierFor (within : β → Usable Bool) (limits : List β) (tiers : List α) : Usable (Option α) :=
  match limits, tiers with
  | limit :: limits, tier :: rest => do
    if ← within limit then return some tier
    else
      match rest with
      | [] => return some tier
      | _ => tierFor within limits rest
  | _, tiers => .ok tiers.getLast?

/-- Whether points do not exceed a limit, if that is a number. -/
def isWithin (points : Quantity) (limit : Usable Quantity) : Usable Bool :=
  limit.map points.isAtMost

/-- The effort of migrating a unit. -/
def effortOf (options : InventorySettings) (c : Component) (parse : Option ParseOutcome) :
    Usable Effort := do
  let kind : Int := match c.kind with
    | .functional => 1
    | .hook => 1
    | .classBased => 2
    | .higherOrder => 3
    | .other _ => 0
  let grade : Int := match c.complexity with
    | .moderate => 1
    | .complex => 2
    | .critical => 3
    | _ => 0
  let points := kind + grade + min 2 ((c.dependencies.length : Int) / 3) +
    min 2 ((c.businessLogic.length : Int) / 2)
  let points ← match parse with
    | some p =>
      if p.success then Quantity.add (.whole points) (Quantity.lesser 2 (p.complexity.floorDiv 10))
      else .ok (.whole points)
    | none => .ok (.whole points)
  let tier ← tierFor (isWithin points) options.effortCutPoints
    [Effort.low, .medium, .high, .veryHigh]
  return tier.getD .veryHigh

/-- The risk of migrating a unit. -/
def riskOf (options : InventorySettings) (c : Component) (parse : Option ParseOutcome)
    (dependencyCount : Int) : Usable Risk := do
  let grade : Int := match c.complexity with
    | .critical => 3
    | .complex => 2
    | _ => 0
  let points := grade + (if dependencyCount > 5 then 2 else 0) +
    (if dependencyCount > 10 then 3 else 0) +
    (if parse.any (!·.success) then 2 else 0) +
    (if parse.any (Quantity.isLess 20 ·.complexity) then 3 else 0) +
    (if c.metadata.testCoverage < 30.0 then 2 else 0)
  let tier ← tierFor (isWithin (.whole points)) options.riskCutPoints
    [Risk.low, .medium, .high, .critical]
  return tier.getD .critical

/-- The readiness of a unit. -/
def assess (options : InventorySettings) (c : Component) (parse : Option ParseOutcome)
    (analysis : Option DependencyAnalysis) : Usable Readiness := do
  let criteria ← criteriaOf c parse
  let score ← overallScore Quantity options.weights criteria
  let blockers := blockersOf c parse
  let count : Int := match analysis with
    | some a => (a.forUnit c.id).length
    | none => c.dependencies.length
  let effort ← effortOf options c parse
  let risk ← riskOf options c parse count
  return { unitId := c.id
           name := c.name
           criteria := criteria
           overallScore := score
           level := ReadinessLevel.ofScore (.whole score) options.readinessThreshold
           blockers := blockers
           prerequisites := prerequisitesOf blockers criteria
           effort := effort
           risk := risk }

end ComponentMigration
