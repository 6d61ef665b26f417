import ComponentMigration.Equivalence.Basic
import ComponentMigration.Fault.Basic
import ComponentMigration.Number.Decimal
import ComponentMigration.Source.Document
import ComponentMigration.Text.Pattern
import ComponentMigration.Text.Quoted

/-!
# Comparisons and checks

A unit is compared with its counterpart, and generated code is checked by itself.
-/

namespace ComponentMigration

/-!
## Comparison with the migrated counterpart

A migrated unit is valid if it has no issue that counts as an error, and equivalent if, besides, no
count differs that must not.  Of props with one name the last counts.
-/

/-- The props by name: a repeated name keeps its first place and its last description. -/
def propTable (props : List PropSpec) : Assoc PropSpec :=
  props.foldl (fun acc p => acc.set p.name p) []

/-- The issue of a prop that the migrated unit does not have. -/
def missingProp (name : String) (required : Bool) : Issue :=
  if required then
    ⟨"MISSING_REQUIRED_PROP", "Required prop '" ++ name ++ "' is missing in migrated component",
      .error, "props." ++ name⟩
  else
    ⟨"MISSING_OPTIONAL_PROP", "Optional prop '" ++ name ++ "' is missing in migrated component",
      .warning, "props." ++ name⟩

/-- The issue of one prop of the source; types count if the comparison is strict. -/
def propIssue? (strict : Bool) (after : Assoc PropSpec) (name : String) (p : PropSpec) :
    Option Issue :=
  match after.get? name with
  | none => some (missingProp name p.required)
  | some q =>
    if strict && p.type != q.type then
      some ⟨"PROP_TYPE_CHANGED",
        "Prop '" ++ name ++ "' type changed from '" ++ p.type ++ "' to '" ++ q.type ++ "'",
        .warning, "props." ++ name ++ ".type"⟩
    else none

/-- The issues of the props. -/
def propIssues (strict : Bool) (source migrated : Component) : List Issue :=
  let before := propTable source.props
  let after := propTable migrated.props
  (before.filterMap fun (name, p) => propIssue? strict after name p) ++
    (after.keys.filter fun name => !before.has name).map fun name =>
      ⟨"NEW_PROP", "New prop '" ++ name ++ "' added in migrated component", .warning,
        "props." ++ name⟩

/-- The issue of a changed name. -/
def nameIssues (source migrated : Component) : List Issue :=
  if source.name == migrated.name then []
  else
    [⟨"NAME_MISMATCH",
      "Component names do not match: source=" ++ source.name ++ ", migrated=" ++ migrated.name,
      .error, "name"⟩]

/-- The issues of functions that the migrated unit does not have. -/
def logicIssues (source migrated : Component) : List Issue :=
  let kept := migrated.businessLogic.map LogicSpec.name
  (source.businessLogic.filter fun l => !kept.contains l.name).map fun l =>
    ⟨"MISSING_BUSINESS_LOGIC",
      "Business logic function '" ++ l.name ++ "' is missing in migrated component", .error,
      "business_logic." ++ l.name⟩

/-- The issue of a changed kind. -/
def kindIssues (source migrated : Component) : List Issue :=
  if source.kind == migrated.kind then []
  else
    [⟨"KIND_CHANGED",
      "Component kind changed from '" ++ source.kind.label ++ "' to '" ++ migrated.kind.label ++
        "'",
      .warning, "kind"⟩]

/-- The issues of critical dependencies that the migrated unit does not have. -/
def dependencyIssues (source migrated : Component) : List Issue :=
  let kept := migrated.dependencies.map Dependency.name
  (source.dependencies.filter fun d => d.critical && !kept.contains d.name).map fun d =>
    ⟨"MISSING_CRITICAL_DEPENDENCY",
      "Critical dependency '" ++ d.name ++ "' is missing in migrated component", .error,
      "dependencies." ++ d.name⟩

/-- The issues of patterns that the migrated unit does not show. -/
def patternIssues (source migrated : Component) : List Issue :=
  (source.patterns.filter fun p => !migrated.patterns.contains p).map fun p =>
    ⟨"MISSING_PATTERN", "Pattern '" ++ p ++ "' used in source but not in migrated component",
      .warning, "patterns." ++ p⟩

/-- All issues of a migrated unit, in the order of reports. -/
def issuesOf (strict : Bool) (source migrated : Component) : List Issue :=
  nameIssues source migrated ++ propIssues strict source migrated ++
    logicIssues source migrated ++ kindIssues source migrated ++
    dependencyIssues source migrated ++ patternIssues source migrated

/-- The difference of two counts. -/
def countDifference (category description : String) (gravity : Gravity) (before after : Nat) :
    List Difference :=
  if before == after then [] else [⟨category, description, gravity, before, after⟩]

/-- The counts that differ. -/
def differencesOf (source migrated : Component) : List Difference :=
  countDifference "props" "Props count differs" .warning source.props.length
      migrated.props.length ++
    countDifference "business-logic" "Business logic function count differs" .error
      source.businessLogic.length migrated.businessLogic.length ++
    countDifference "dependencies" "Dependency count differs" .info source.dependencies.length
      migrated.dependencies.length ++
    countDifference "patterns" "Pattern usage differs" .warning source.patterns.length
      migrated.patterns.length

/-- The score of issues: errors cost twenty points, warnings five. -/
def validationScore (gravities : List Gravity) : Int :=
  let errors : Int := (gravities.filter (· == .error)).length
  let warnings : Int := (gravities.filter (· == .warning)).length
  max 0 (min 100 (100 - 20 * errors - 5 * warnings))

/-- The percentage, with two places, of names that are kept; a hundred if there are no names. -/
def keptPercentage (before after : List String) : Float :=
  if before.isEmpty then 100.0
  else
    let kept := (before.filter after.contains).length
    Number.roundPlaces 2 (Number.ofFraction ⟨false, 100 * kept, before.length⟩)

/-- Compares a unit with its counterpart. -/
def compareUnits (strict : Bool) (source migrated : Component) : Comparison :=
  let issues := issuesOf strict source migrated
  let differences := differencesOf source migrated
  let valid := !issues.any (·.gravity == .error)
  { equivalent := valid &&
      !differences.any fun d => d.gravity == .error || d.gravity == .critical
    valid := valid
    score := validationScore (issues.map Issue.gravity)
    logicPreservation := keptPercentage (source.businessLogic.map LogicSpec.name)
      (migrated.businessLogic.map LogicSpec.name)
    typeSafety := keptPercentage (source.props.map PropSpec.name)
      (migrated.props.map PropSpec.name)
    issues := issues
    differences := differences }

/-- The rank of a grade, which has to be known. -/
def Complexity.rank (c : Complexity) : Except Trouble Nat :=
  match c.rank? with
  | some n => .ok n
  | none => .error ⟨.missingKey, Text.quoted c.label, none⟩

/-- The score of the structure: every step up in complexity and a change of kind cost ten points. -/
def structureScore (source migrated : Component) : Except Trouble Float := do
  let after ← migrated.complexity.rank
  let before ← source.complexity.rank
  let steps : Int := max 0 ((after : Int) - before)
  let score := 100.0 - Number.ofInt (steps * 10)
  let score := if source.kind == migrated.kind then score else score - 10.0
  return if 0.0 < score then score else 0.0

/-- The score of the expected performance by complexity. -/
def performanceScore (c : Complexity) : Except Trouble Float :=
  match c with
  | .simple => .ok 100.0
  | .moderate => .ok 85.0
  | .complex => .ok 70.0
  | .critical => .ok 50.0
  | .other label => .error ⟨.missingKey, Text.quoted label, none⟩

/-- The quality of a migrated unit: the mean of four scores. -/
def qualityOf (source migrated : Component) (c : Comparison) : Except Trouble Quality := do
  let structureScore ← structureScore source migrated
  let performance ← performanceScore migrated.complexity
  let logic := c.logicPreservation
  let types := c.typeSafety
  let overall := Number.roundPlaces 2 ((logic + types + structureScore + performance) / 4.0)
  return { overall := overall
           businessLogic := logic
           typeSafety := types
           structureScore := structureScore
           performance := performance
           maintainability := Number.roundPlaces 2 ((structureScore + logic) / 2.0)
           productionReady := overall ≥ 70.0 }

/-- Validates a migrated unit. -/
def validateUnit (strict : Bool) (source migrated : Component) :
    Except Trouble ValidationReport := do
  let comparison := compareUnits strict source migrated
  let quality ← qualityOf source migrated comparison
  return ⟨source.id, comparison, quality⟩

/-!
## Checks on generated code

Generated code has to be readable, and it has to declare what the unit declared.
-/

open Text.Pattern

/-- Reads generated code again; every unreadable place is an error. -/
def checkCompiles (grammar : Grammar) (code name : String) : CodeCheck :=
  let document := Document.parse grammar .tsx (name ++ ".tsx") code
  { errors := document.describeErrors 5, passed := !document.hasErrors }

/-- Whether a text declares a type with a name. -/
def declaresType (code name : String) : Bool :=
  (cat [.wordEdge, .either (lit "interface") (lit "type"), blanks1, lit name, .wordEdge]).occursIn
    code

/-- Whether a name stands in a text as a whole word. -/
def mentionsWord (code name : String) : Bool :=
  (cat [.wordEdge, lit name, .wordEdge]).occursIn code

/-- Checks that generated code declares the component, its props type, and every function. -/
def checkCompleteness (grammar : Grammar) (source : Component) (code : String) : CodeCheck :=
  let document := Document.parse grammar .tsx (source.name ++ ".tsx") code
  let propsType := source.name ++ "Props"
  { errors :=
      (if (findDeclaration document.root source.name).isSome then []
       else ["Component declaration '" ++ source.name ++ "' is missing"]) ++
      (if source.props.isEmpty || declaresType code propsType then []
       else ["Props declaration '" ++ propsType ++ "' is missing"]) ++
      (source.businessLogic.filter fun l => !mentionsWord code l.name).map fun l =>
        "Business logic '" ++ l.name ++ "' is missing from the generated code" }

end ComponentMigration
