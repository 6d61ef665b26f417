import ComponentMigration.Component.Basic

/-!
# Findings of a comparison

A unit is compared with its migrated counterpart; the comparison finds issues and differences.
-/

namespace ComponentMigration

/-- How much a finding counts. -/
inductive Gravity where
  | info
  | warning
  | error
  | critical
  | other (label : String)
  deriving DecidableEq, Repr

/-- The label of a gravity. -/
def Gravity.label : Gravity → String
  | .info => "info"
  | .warning => "warning"
  | .error => "error"
  | .critical => "critical"
  | .other label => label

/-- The gravity with a label. -/
def Gravity.ofLabel : String → Gravity
  | "info" => .info
  | "warning" => .warning
  | "error" => .error
  | "critical" => .critical
  | label => .other label

/-- An issue of a migrated unit. -/
structure Issue where
  code : String
  message : String
  gravity : Gravity
  field : String := ""
  deriving DecidableEq, Repr

/-- A count that differs between a unit and its counterpart. -/
structure Difference where
  category : String
  description : String
  gravity : Gravity
  sourceValue : Nat
  targetValue : Nat
  deriving DecidableEq, Repr

/-- The comparison of a unit with its counterpart. -/
structure Comparison where
  equivalent : Bool
  valid : Bool
  score : Int
  logicPreservation : Float
  typeSafety : Float
  issues : List Issue := []
  differences : List Difference := []
  deriving DecidableEq, Repr

/-- The quality of a migrated unit. -/
structure Quality where
  overall : Float
  businessLogic : Float
  typeSafety : Float
  structureScore : Float
  performance : Float
  maintainability : Float
  productionReady : Bool
  deriving Repr

/-- The validation of a unit. -/
structure ValidationReport where
  unitId : String
  comparison : Comparison
  quality : Quality
  deriving Repr

/-- The outcome of a check on generated code. -/
structure CodeCheck where
  errors : List String := []
  passed : Bool := errors.isEmpty
  deriving DecidableEq, Repr

end ComponentMigration
