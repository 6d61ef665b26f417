import ComponentMigration.Equivalence.Basic
import ComponentMigration.Module.Outcome
import ComponentMigration.Number.Binary64
import ComponentMigration.Number.Decimal
import ComponentMigration.Readiness.Basic
import ComponentMigration.Report.Markdown
import ComponentMigration.Run.State

/-!
# Files of a migrated unit

A migrated unit has its module, a readme, its types and a test scaffold.  The files of migrated units
go below a directory of their own, the reports of a run into one.
-/

namespace ComponentMigration

/-- The files of a migrated unit; types and tests may be left out. -/
structure Bundle where
  name : String
  component : String
  readme : String
  types : Option String := none
  test : Option String := none
  deriving DecidableEq, Repr

/-- The files with their paths below the unit's directory. -/
def Bundle.files (b : Bundle) : List (String × String) :=
  [(b.name ++ ".tsx", b.component), ("README.md", b.readme)] ++
    (b.types.map fun text => (b.name ++ ".types.ts", text)).toList ++
    (b.test.map fun text => ("__tests__/" ++ b.name ++ ".test.tsx", text)).toList

/-- The paths of the files below the unit's directory. -/
def Bundle.paths (b : Bundle) : List String := b.files.map Prod.fst

namespace Readme

/-- The part on where the unit came from. -/
def provenance (result : TransformOutcome) (today : String) : List String :=
  let c := result.component
  ["## Provenance", "", "| Field | Value |", "|-------|-------|",
    "| Source | `" ++ c.filePath ++ "` |", "| Source kind | " ++ c.kind.label ++ " |",
    "| Complexity | " ++ c.complexity.label ++ " |",
    "| Migration effort | " ++ result.migrationEffort ++ " |",
    "| Compatibility score | " ++ toString result.compatibilityScore ++ " |",
    "| Generated | " ++ today ++ " |", ""]

/-- The part on the props. -/
def props (specs : List PropSpec) : List String :=
  if specs.isEmpty then []
  else
    ["## Props", "", "| Name | Type | Required | Description |",
      "|------|------|----------|-------------|"] ++
      (specs.map fun p =>
        "| `" ++ p.name ++ "` | `" ++ p.type ++ "` | " ++ (if p.required then "yes" else "no") ++
          " | " ++ p.description ++ " |") ++ [""]

/-- The part on extracted functions. -/
def hooks (name : String) (found : List ExtractedHook) : List String :=
  if found.isEmpty then []
  else
    ["## Extracted Logic", "", "Business logic now lives in `use" ++ name ++ "Logic`:", ""] ++
      (found.map fun h =>
        "- `" ++ h.name ++ "` (complexity reduction " ++ toString h.complexityReduction ++ ")") ++
      [""]

/-- The part on readiness. -/
def readiness (r : Readiness) : List String :=
  ["## Readiness", "",
    "- **Score**: " ++ toString r.overallScore ++ "% (" ++ r.level.label ++ ")",
    "- **Effort**: " ++ r.effort.label, "- **Risk**: " ++ r.risk.label] ++
    (r.blockers.map ("- Blocker: " ++ ·)) ++ [""]

/-- The part on validation. -/
def validation (v : ValidationReport) : List String :=
  let c := v.comparison
  ["## Validation", "", "- **Equivalent**: " ++ (if c.equivalent then "yes" else "no"),
    "- **Validation score**: " ++ toString c.score,
    "- **Business logic preserved**: " ++ Number.fixed 0 c.logicPreservation ++ "%",
    "- **Type safety**: " ++ Number.fixed 0 c.typeSafety ++ "%",
    "- **Quality**: " ++ Number.fixed 0 v.quality.overall ++ " (" ++
      (if v.quality.productionReady then "production ready" else "needs review") ++ ")"] ++
    (c.issues.map fun i => "- `" ++ i.code ++ "` (" ++ i.gravity.label ++ "): " ++ i.message) ++
    [""]

/-- The readme of a migrated unit. -/
def render (result : TransformOutcome) (assessed : Option Readiness)
    (validated : Option ValidationReport) (today : String) : String :=
  let c := result.component
  let doc := c.metadata.documentation
  String.intercalate "\n" <|
    ["# " ++ c.name, "",
      "> Migrated from `" ++ c.filePath ++ "` by uimigrate " ++ version ++ ".", ""] ++
    (if doc.isEmpty then [] else [doc, ""]) ++ provenance result today ++ props c.props ++
    ["## Usage", "", "```tsx", "import " ++ c.name ++ " from './" ++ c.name ++ "';", "```", ""] ++
    hooks c.name result.hooks ++ (assessed.map readiness).getD [] ++
    (validated.map validation).getD [] ++
    (if result.warnings.isEmpty then []
     else ["## Migration Notes", ""] ++ result.warnings.map ("- " ++ ·) ++ [""])

end Readme

/-- The test scaffold of a migrated unit. -/
def testScaffold (result : TransformOutcome) : String :=
  let name := result.component.name
  String.intercalate "\n" <|
    ["/**", " * " ++ name ++ " tests", " *",
      " * Generated scaffold for the migrated " ++ name ++ " component.", " */", "",
      "import React from 'react';", "import \x7b render \x7d from '@testing-library/react';",
      "import " ++ name ++ " from '../" ++ name ++ "';", "",
      "describe('" ++ name ++ "', () => \x7b", "  it('renders without crashing', () => \x7b",
      "    const props = \x7b\x7d as React.ComponentProps<typeof " ++ name ++ ">;",
      "    const \x7b container \x7d = render(<" ++ name ++ " \x7b...props\x7d />);",
      "    expect(container).toBeTruthy();", "  \x7d);"] ++
    (result.eventHandlers.map fun h => "  it.todo('handles " ++ h ++ "');") ++
    (result.hooks.map fun h => "  it.todo('preserves " ++ h.name ++ "');") ++ ["\x7d);", ""]

/-- The files of a migrated unit. -/
def buildBundle (result : TransformOutcome) (assessed : Option Readiness)
    (validated : Option ValidationReport) (skipTests : Bool) (today : String) : Bundle :=
  let name := result.component.name
  { name := name
    component := result.code
    readme := Readme.render result assessed validated today
    types :=
      if result.component.props.isEmpty || result.typeDefinitions.isEmpty then none
      else some ("// Prop types for " ++ name ++ ".\n\n" ++ result.typeDefinitions ++ "\n")
    test := if skipTests then none else some (testScaffold result) }

/-- Writes one file, with the directories it needs. -/
def Run.writeFile (path : Path) (text : String) : Run Unit := do
  Run.onDisk (·.makeDirectories path.parent)
  Run.onDisk (·.writeText path text)

/-- Writes files below a directory. -/
def Run.writeFiles (directory : Path) : List (String × String) → Run Unit
  | [] => return ()
  | (name, text) :: rest => do
    Run.writeFile (directory.child name) text
    Run.writeFiles directory rest

/-- Writes the files of a migrated unit into its own directory. -/
def Run.writeBundle (bundle : Bundle) (output : Path) : Run Unit := do
  let target := output.child bundle.name
  Run.onDisk (·.makeDirectories target)
  Run.writeFiles target bundle.files

/-- The reports of a run: names and texts. -/
def reportFiles (i : Inventory) (analysis : Option DependencyAnalysis) :
    List (String × String) :=
  [("component-inventory.json", (inventoryPayload i analysis).indented),
    ("component-inventory.md", renderMarkdown i)] ++
    (analysis.map fun a => ("dependency-graph.dot", renderDot a.graph)).toList

/-- Writes the reports of a run; the result are their paths. -/
def Run.writeReports (i : Inventory) (analysis : Option DependencyAnalysis) (output : Path) :
    Run (List Path) := do
  Run.onDisk (·.makeDirectories output)
  let files := reportFiles i analysis
  Run.writeFiles output files
  return files.map fun (name, _) => output.child name

end ComponentMigration
