import ComponentMigration.Component.Discovery
import ComponentMigration.Module.ClassParts
import ComponentMigration.Module.Outcome
import ComponentMigration.Report.Markdown
import ComponentMigration.Run.Batch
import ComponentMigration.Settings.Basic
import ComponentMigration.Structure.Parse

/-!
# Generated modules

Modules are put together as texts, and units are transformed into them within a run.
-/

namespace ComponentMigration

/-!
## Generated modules as text

The sections of a draft make the text of the module; the outcome tells its exports and measures.
-/

namespace Draft

/-- The import lines: the source's own, the framework if the source does not import it, and the
hooks that the conversion needs and the source does not import. -/
def importLines (d : Draft) : List String :=
  let missing := Text.sorted (d.neededHooks.filter fun h => !d.reactBindings.contains h)
  (if d.hasReactImport then [] else ["import React from \"react\";"]) ++ d.imports ++
    (if missing.isEmpty then [] else ["import " ++ braced missing ++ " from \"react\";"])

/-- The comment at the head of the module. -/
def headComment (d : Draft) : String :=
  let c := d.component
  String.intercalate "\n" (docComment
    (c.name ++ "\n\nMigrated from " ++ c.filePath ++ " by uimigrate " ++ version ++
      ".\nSource kind: " ++ c.kind.label ++ "; complexity: " ++ c.complexity.label ++ ".") "")

/-- The name of the alias for old callers. -/
def legacyName (d : Draft) : String := d.name ++ "Legacy"

/-- The alias for old callers. -/
def legacyAlias (d : Draft) : String :=
  "/** @deprecated Use " ++ d.name ++ " instead. */\nexport const " ++ d.legacyName ++ " = " ++
    d.name ++ ";"

/-- The sections of the module, in order. -/
def sections (d : Draft) (compat : Bool) : List String :=
  [d.headComment, String.intercalate "\n" d.importLines] ++
    (if d.types.isEmpty then [] else [String.intercalate "\n\n" d.types]) ++
    (if d.helpers.isEmpty then [] else [String.intercalate "\n\n" d.helpers]) ++
    (if d.hook.isEmpty then [] else [d.hook]) ++ [d.declaration] ++ d.trailer ++
    (if d.defaultExported then [] else ["export default " ++ d.name ++ ";"]) ++
    (if compat then [d.legacyAlias] else [])

/-- The text of the module. -/
def code (d : Draft) (compat : Bool) : String :=
  String.intercalate "\n\n" (d.sections compat) ++ "\n"

/-- The names that the module exports. -/
def exportedNames (d : Draft) (compat : Bool) : List String :=
  [d.name, "default", d.name ++ "Props"] ++ (if d.hook.isEmpty then [] else [d.hookName]) ++
    (if compat then [d.legacyName] else [])

/-- The hooks that were extracted, with the grades that the source's functions had. -/
def extractedHooks (d : Draft) : List ExtractedHook :=
  d.lifted.map fun (name, text) =>
    let grade := ((d.component.businessLogic.reverse.find? (·.name == name)).map
      LogicSpec.complexity).getD .simple
    ⟨name, text, [name], grade.reduction⟩

/-- A unit that is neither a class nor a function keeps its declaration. -/
def carryOver (d : Draft) (s : Statement) : Draft :=
  let d :=
    { d with
      declaration :=
        if s.node.kind == "export_statement" then s.node.text else "export " ++ s.node.text
      defaultExported := s.node.hasToken "default" }
  d.warn (d.component.kind.label ++ " units are carried over without structural changes") false

/-- The draft of the module of a unit that stands at a site of a file. -/
def ofSite (options : TransformSettings) (component : Component) (source : String) (root : Node)
    (site : Site) (context : FaultContext) : Except Failure Draft :=
  let start : Draft := { component := component, lines := Text.lines source }
  let d := (start.collect root site).declareProps site.node
  match component.kind, site.node.functionOf with
  | .classBased, _ => d.convertClass options.extractBusinessLogic site.node context
  | .functional, some fn =>
    .ok (d.convertFunction options.extractBusinessLogic site.node fn)
  | _, _ => .ok (d.carryOver site.statement)

end Draft

/-- The path under which a migrated unit is kept. -/
def migratedPath (name : String) : String := name ++ "/" ++ name ++ ".tsx"

/-- The last unit with a name. -/
def lastNamed (units : List Component) (name : String) : Option Component :=
  units.reverse.find? (·.name == name)

/-- The unit that a generated module holds: the component with the logic and the patterns of its
hook.  A module in which the component is not found stands for its source. -/
def transformedUnit (component : Component) (hookName : String) (generated : Document) :
    Component :=
  let units := generated.unitsIn (migratedPath component.name) "" 0.0
  match lastNamed units component.name with
  | none => { component with filePath := migratedPath component.name, absolutePath := "" }
  | some main =>
    match lastNamed units hookName with
    | none => { main with patterns := orderedPatterns main.patterns }
    | some hook =>
      { main with
        businessLogic := main.businessLogic ++ hook.businessLogic
        patterns := orderedPatterns (main.patterns ++ hook.patterns) }

/-- The measures of a transformation. -/
def transformMetrics (d : Draft) (code source : String) (site : Site) (generated : Document) :
    TransformMetrics :=
  let target := ((findDeclaration generated.root d.name).map Site.node).getD generated.root
  let before : Int := site.node.cyclomatic
  let after : Int := target.cyclomatic
  let locBefore : Int := countLoc site.statement.node.text
  let locAfter : Int := countLoc d.declaration
  { locBefore := locBefore
    locAfter := locAfter
    complexityBefore := before
    complexityAfter := after
    qualityImprovement := Id.run (qualityImprovement Float (.whole before) (.whole after)
      (pure (.whole locBefore)) (pure (.whole locAfter)))
    bundleSizeDelta := (Text.byteCount code : Int) - Text.byteCount source }

/-- The outcome of a transformation whose module is complete. -/
def Draft.outcome (d : Draft) (grammar : Grammar) (compat : Bool) (source : String)
    (site : Site) : TransformOutcome :=
  let code := d.code compat
  let generated := Document.parse grammar .tsx (d.name ++ ".tsx") code
  let d :=
    if generated.hasErrors then
      d.warn ("Generated code has syntax errors: " ++
        String.intercalate "; " (generated.describeErrors 2))
    else d
  { component := d.component
    success := true
    code := code
    hooks := d.extractedHooks
    typeDefinitions := String.intercalate "\n\n" d.types
    imports := (Text.lines code).filter (Text.startsWith · "import ")
    exports := d.exportedNames compat
    warnings := d.warnings
    migrationEffort := migrationEffort d.component (countLoc source)
    compatibilityScore := compatibilityScore d.component
    metrics := transformMetrics d code source site generated
    requiresManualReview := d.manualReview
    transformed := some (transformedUnit d.component d.hookName generated)
    eventHandlers := eventHandlers site.node }

/-!
## Transforming units within a run

A unit is transformed from the text of its file, which is given or read from disk.  Failures go
through the recovery strategies, which get the text anew, and end in an unsuccessful outcome; only
cancellation and an exceeded deadline leave the transformation.
-/

/-- The text of a unit's file, unless it is given. -/
def Run.unitText (component : Component) (source : Option String) : Run String :=
  match source with
  | some text => return text
  | none => Run.onDisk (·.readText (Path.ofText component.absolutePath))

/-- Transforms a unit by its declaration. -/
def Run.transformSite (component : Component) (text : String) (document : Document)
    (context : FaultContext) (site : Site) : Run TransformOutcome := do
  let options := (← read).settings.transform
  match Draft.ofSite options component text document.root site context with
  | .error failure => throw failure
  | .ok draft => return draft.outcome (← read).grammar options.compatLayer text site

/-- Transforms a unit from the text of its file. -/
def Run.transformText (component : Component) (text : String) : Run TransformOutcome := do
  let context ← Run.place component.id (some "transform") component.filePath none
  let document ← Run.parseAs (Path.ofText component.absolutePath) text
  if document.hasErrors then
    Run.fault (Fault.of .transformation
      ("Source has syntax errors: " ++ String.intercalate "; " (document.describeErrors 2))
      context)
  else
    match (findDeclaration document.root component.name).or (defaultExport document.root) with
    | none =>
      Run.fault (Fault.of .transformation
        ("Declaration of " ++ component.name ++ " not found in " ++ component.filePath) context)
    | some site => Run.transformSite component text document context site

/-- Transforms a unit once, from a text that is got first. -/
def Run.transformOnce (component : Component) (source : Run String) : Run TransformOutcome := do
  Run.transformText component (← source)

/-- Transforms a unit from a text that is got anew for each attempt; failures come back as an
unsuccessful outcome. -/
def Run.transformFrom (component : Component) (source : Run String) : Run TransformOutcome := do
  let context ← Run.place component.id (some "transform") component.filePath none
  Run.checkpoint context
  match ← Run.attempt (Run.withRecovery (Run.transformOnce component source) context
      fun f _ => failedTransform component f.message) with
  | .ok outcome => return outcome
  | .error (.fault f) =>
    if f.cls == .cancelled || f.cls == .phaseTimeout then Run.fault f
    else return failedTransform component f.message
  | .error failure => throw failure

/-- Transforms a unit, from a given text or else from its file. -/
def Run.transformUnit (component : Component) (source : Option String) : Run TransformOutcome :=
  Run.transformFrom component (Run.unitText component source)

/-- The place of a unit in the order of work: higher grades first, then by id. -/
def Component.priority (c : Component) : Usable Json :=
  match c.complexity.rank? with
  | some rank => .ok (.arr [.int (-(rank : Int)), .str c.id])
  | none => .error ⟨.missingKey, Text.quoted c.complexity.label, none⟩

/-- How units are arranged for the transformation. -/
def TransformSettings.arrangement (options : TransformSettings) : Arrangement Component :=
  { sortKey := if options.prioritizeByComplexity then some Component.priority else none
    groupKey :=
      if options.groupBySimilarity then
        some fun c =>
          Text.tupleText [Text.quoted c.kind.label, Text.quoted c.complexity.label]
      else none }

/-- The outcome of a unit by its result; the last unit with the result's key is meant. -/
def TaskResult.transformOutcome (components : List Component) (r : TaskResult TransformOutcome) :
    Option TransformOutcome :=
  match r.outcome with
  | .ok outcome => some outcome
  | .error f =>
    (components.reverse.find? (·.id == r.key)).map (failedTransform · f.message)

/-- The outcomes of units by their keys. -/
def outcomeTable (components : List Component) (results : List (TaskResult TransformOutcome)) :
    Assoc TransformOutcome :=
  results.foldl (fun table r =>
    match r.transformOutcome components with
    | some outcome => table.set r.key outcome
    | none => table) []

/-- Transforms many units, each from the text that is got for it; `onResult` is told of each
result. -/
def Run.transformAll (components : List Component) (source : Component → Run String)
    (onResult : TaskResult TransformOutcome → Run Unit) : Run (Assoc TransformOutcome) := do
  let options := (← read).settings.transform
  let job : BatchJob Component TransformOutcome :=
    { work := fun c => Run.transformFrom c (source c)
      key := Component.id
      checkpoint := Run.checkpoint {}
      onResult := onResult }
  let limits ← Run.use
    (BatchLimits.atLeastOne options.parallel options.maxConcurrency options.batchSize)
  return outcomeTable components (← job.run limits options.arrangement components)

/-- Transforms many units.  The sources of some may be given, the others are read from their files;
`onResult` is told of each result. -/
def Run.transformBatch (components : List Component) (sources : Assoc String)
    (onResult : TaskResult TransformOutcome → Run Unit) : Run (Assoc TransformOutcome) :=
  Run.transformAll components (fun c => Run.unitText c (sources.get? c.id)) onResult

end ComponentMigration
