import ComponentMigration.Component.Basic
import ComponentMigration.Module.Text
import ComponentMigration.Number.Arithmetic

/-!
# Outcomes of transformations

A transformation gives a module and what is told about it; scores say how well it went.
-/

namespace ComponentMigration

/-- A hook that was extracted from a unit. -/
structure ExtractedHook where
  name : String
  code : String
  sourceFunctions : List String := []
  complexityReduction : Int := 0
  deriving DecidableEq, Repr

/-- Measures of a transformation. -/
structure TransformMetrics where
  locBefore : Int := 0
  locAfter : Int := 0
  complexityBefore : Int := 0
  complexityAfter : Int := 0
  qualityImprovement : Int := 0
  bundleSizeDelta : Int := 0
  deriving DecidableEq, Repr

/-- The outcome of transforming a unit. -/
structure TransformOutcome where
  component : Component
  success : Bool
  code : String := ""
  hooks : List ExtractedHook := []
  typeDefinitions : String := ""
  imports : List String := []
  exports : List String := []
  warnings : List String := []
  migrationEffort : String := "low"
  compatibilityScore : Int := 100
  metrics : TransformMetrics := {}
  requiresManualReview : Bool := false
  transformed : Option Component := none
  eventHandlers : List String := []
  deriving Repr

/-- The component that a successful transformation came to. -/
def TransformOutcome.migrated? (outcome : TransformOutcome) : Option Component :=
  if outcome.success then outcome.transformed else none

/-- The outcome of a unit that could not be transformed. -/
def failedTransform (component : Component) (message : String) : TransformOutcome :=
  { component := component
    success := false
    warnings := [message]
    migrationEffort := "critical"
    compatibilityScore := 0
    requiresManualReview := true }

/-- What a grade takes from the compatibility score. -/
def Complexity.deduction : Complexity → Int
  | .critical => 30
  | .complex => 20
  | .moderate => 10
  | _ => 0

/-- What a grade adds to the effort. -/
def Complexity.factor : Complexity → Int
  | .moderate => 2
  | .complex => 3
  | .critical => 4
  | _ => 1

/-- By how much the extraction of a function with a grade reduces complexity. -/
def Complexity.reduction : Complexity → Int
  | .critical => 5
  | .complex => 5
  | .moderate => 3
  | _ => 1

/-- The patterns that the target shape has no counterpart for. -/
def incompatiblePatterns : List String := ["render-props", "children-as-function"]

/-- How well a unit fits the target shape, out of a hundred. -/
def compatibilityScore (c : Component) : Int :=
  let score : Int := 100 - c.complexity.deduction -
    15 * (c.patterns.filter incompatiblePatterns.contains).length -
    5 * (c.dependencies.filter (·.origin == .external)).length
  max 0 (min 100 score)

/-- The effort of migrating a unit with so many lines of code. -/
def migrationEffort (c : Component) (loc : Int) : String :=
  let size : Int := if loc > 1000 then 3 else if loc > 500 then 2 else if loc > 200 then 1 else 0
  let patterns := c.patterns.length
  let variety : Int := if patterns > 5 then 2 else if patterns > 3 then 1 else 0
  let total := c.complexity.factor + size + variety
  if total ≥ 7 then "critical" else if total ≥ 5 then "high"
  else if total ≥ 3 then "medium" else "low"

/-- The gain in quality, in percent, by complexity (seven tenths) and lines (three tenths).  The
lines before are asked for once the complexities are compared, the lines afterwards only if there
were lines before. -/
def qualityImprovement (α : Type) {m : Type → Type} [Monad m] [Arithmetic m α]
    (complexityBefore complexityAfter : Quantity) (locBefore locAfter : m Quantity) : m Int := do
  let zero : α ← Arithmetic.of 0
  let change ← Arithmetic.sub (← Arithmetic.of complexityBefore) (← Arithmetic.of complexityAfter)
  let lines ← Arithmetic.of (← locBefore)
  let shrink ←
    if Arithmetic.isLess zero lines then do
      Arithmetic.div (← Arithmetic.sub lines (← Arithmetic.of (← locAfter))) lines
    else pure (Arithmetic.real 0)
  let gain ← Arithmetic.mul (Arithmetic.greater zero change) (← Arithmetic.of (.real 0.7))
  let total ← Arithmetic.add gain (← Arithmetic.mul shrink (← Arithmetic.of (.real 0.3)))
  Arithmetic.roundHalfUp (← Arithmetic.mul total (← Arithmetic.of 100))

end ComponentMigration
