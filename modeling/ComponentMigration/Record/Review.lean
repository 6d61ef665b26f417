import ComponentMigration.Equivalence.Compare
import ComponentMigration.Readiness.Score
import ComponentMigration.Record.Outcome

/-!
# Records of reviewed transformations

A transformed unit is reviewed by checks of its code and by a comparison with the unit it came from.
Its record has the outcome of the transformation, of the review, and the artifacts if they are asked
for.
-/

namespace ComponentMigration

/-- The checks of a unit's migrated code as fields. -/
def codeChecks (grammar : Grammar) (c : Component) (code : String) : Assoc Json :=
  [("compiles", (checkCompiles grammar code c.name).toJson),
    ("complete", (checkCompleteness grammar c code).toJson)]

namespace TransformOutcome

/-- The comparison of a unit with what it was transformed to, if it was. -/
def validation (t : TransformOutcome) : Usable (Option ValidationReport) :=
  match t.success, t.transformed with
  | true, some migrated => (validateUnit true t.component migrated).map some
  | _, _ => .ok none

/-- The artifacts of a transformed unit as fields: the bundle and where its files go. -/
def artifactFields (t : TransformOutcome) (settings : InventorySettings)
    (report : Option ValidationReport) (skipTests : Bool) (date : String) :
    Usable (Assoc Json) := do
  let readiness ← assess settings t.component none none
  let bundle := buildBundle t (some readiness) report skipTests date
  return [("artifacts", .obj bundle.fields), ("paths", Json.texts bundle.paths)]

/-- The record of a reviewed transformation.  Artifacts are asked for by whether they leave out
tests, and a date. -/
def review (t : TransformOutcome) (grammar : Grammar) (settings : InventorySettings)
    (artifacts : Option (Bool × String)) : Usable Json := do
  let checks := if t.success then codeChecks grammar t.component t.code else []
  let report ← t.validation
  let reported := report.toList.map fun r => ("report", r.toJson)
  let extra ← match artifacts with
    | some (skipTests, date) => t.artifactFields settings report skipTests date
    | none => .ok []
  return .obj (t.fields ++ [("id", .str t.component.id)] ++ checks ++ reported ++ extra)

end TransformOutcome

end ComponentMigration
