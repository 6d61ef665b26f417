import ComponentMigration.Artifact.Bundle
import ComponentMigration.Dependency.Analyze
import ComponentMigration.Equivalence.Compare
import ComponentMigration.Module.Transform
import ComponentMigration.Pipeline.Phases
import ComponentMigration.Project.Discovery
import ComponentMigration.Readiness.Inventory
import ComponentMigration.Time.Instant

/-!
# A run of the pipeline

A run goes through discovery, parsing, dependency analysis, inventory, and output.

How far a run goes is told by its mode.  Results of single units are kept as they come, so that a
run that fails still shows them.
-/

namespace ComponentMigration

/-- What the phases of a run gave. -/
structure StageValues where
  discovery : Option DiscoveryResult := none
  analysis : Option DependencyAnalysis := none
  inventory : Option Inventory := none
  reports : List Path := []

/-- The discovered units. -/
def StageValues.units (v : StageValues) : List Component :=
  (v.discovery.map (·.components)).getD []

/-- The work of the phases: what each one does with what the phases before it gave. -/
structure PhaseWork where
  discover : Run DiscoveryResult
  parse : List Component → Run Unit
  analyze : List Component → Run DependencyAnalysis
  assess : StageValues → Run Inventory
  write : StageValues → Run (List Path)

/-- Numbers about a finished run. -/
structure RunMetrics where
  phases : List Phase
  unitsProcessed : Nat
  errors : Nat
  errorsByCategory : Assoc Nat
  errorsBySeverity : Assoc Nat
  transformed : Nat

/-- The outcome of a run. -/
structure PipelineOutcome where
  runId : String
  success : Bool
  phase : Phase
  values : StageValues
  results : UnitResults
  errors : List Fault
  warnings : List String
  metrics : RunMetrics
  progress : Progress

/-- The phases of the modes, apart from the first and the last one. -/
def modePhases : Assoc (List Phase) :=
  [("discovery-only", [.discovery]),
   ("analysis-only", [.discovery, .parsing, .dependencyAnalysis]),
   ("full-pipeline",
    [.discovery, .parsing, .dependencyAnalysis, .inventoryGeneration, .outputGeneration])]

/-- The phases of a run in a mode. -/
def phaseList (mode : String) : Usable (List Phase) :=
  match modePhases.get? mode with
  | some phases => .ok ([.initialization] ++ phases ++ [.cleanup])
  | none => .error ⟨.missingKey, Text.quoted mode, none⟩

/-- What a run is given besides its context. -/
structure RunRequest where
  root : Path
  now : Instant
  listener : Listener := fun _ => none

namespace RunRequest

/-- Changes progress. -/
def onProgress (change : Progress → Progress) : Run Unit :=
  modify fun s => { s with board := { s.board with progress := change s.board.progress } }

/-- Discovers the units. -/
def discoverPhase (q : RunRequest) : Run DiscoveryResult := do
  let found ← Run.discover q.root
  onProgress fun p => { p with discovered := found.components.length }
  found.issues.forM fun i =>
    modify (RunState.warn q.listener (i.filePath ++ ": " ++ i.message))
  return found

/-- The outcome that a unit's result stands for. -/
def parseOutcomeOf (r : TaskResult ParseOutcome) : ParseOutcome :=
  match r.outcome with
  | .ok outcome => outcome
  | .error f => { unitId := r.key, success := false, errors := [f.message] }

/-- Ends the run over a unit that could not be parsed, unless errors are to be skipped. -/
def requireParsed (id : String) (outcome : ParseOutcome) : Run Unit := do
  if !outcome.success && !(← read).settings.pipeline.skipErrors then
    Run.fault (Fault.of .parsing
      ("Parsing failed for " ++ id ++ ": " ++ String.intercalate "; " outcome.errors)
      (← Run.place (some id) none none (some "parsing")) none false)

/-- Tells of a parsed unit. -/
def tellParsed (q : RunRequest) (total : Nat) (id : String) : Run Unit := do
  let done := (← get).results.parses.length
  onProgress fun p => { p with parsed := done }
  modify (RunState.moveTo q.listener .parsing ⟨100, done, total⟩ none)
  modify (RunState.announce q.listener (.unit id .parsing))

/-- Keeps the result of parsing a unit; if errors are not to be skipped, one ends the run. -/
def keepParse (q : RunRequest) (total : Nat) (r : TaskResult ParseOutcome) : Run Unit := do
  let outcome := parseOutcomeOf r
  modify fun s =>
    { s with results := { s.results with parses := s.results.parses.set r.key outcome } }
  requireParsed r.key outcome
  tellParsed q total r.key

/-- Parses the units. -/
def parsePhase (q : RunRequest) (components : List Component) : Run Unit := do
  let options := (← read).settings.pipeline
  let job : BatchJob Component ParseOutcome :=
    { work := fun c => Run.parseUnit c none
      key := Component.id
      checkpoint := Run.checkpoint {}
      onResult := keepParse q (max components.length 1) }
  let limits ← Run.use
    (BatchLimits.atLeastOne options.parallel options.maxWorkers options.batchSize)
  let _ ← job.run limits {} components

/-- Analyses dependencies. -/
def analyzePhase (q : RunRequest) (components : List Component) : Run DependencyAnalysis := do
  let analysis ← Run.analyze components []
  onProgress fun p => { p with analyzed := components.length }
  analysis.warnings.forM fun w => modify (RunState.warn q.listener w)
  return analysis

/-- Announces an assessed unit. -/
def noteAssessed (q : RunRequest) (total : Nat) (c : Component) : Run Unit := do
  let before := (← get).board.announcements.filter fun a =>
    match a.event with
    | .unit _ .inventoryGeneration => true
    | _ => false
  modify (RunState.moveTo q.listener .inventoryGeneration
    ⟨100, before.length + 1, total⟩ none)
  modify (RunState.announce q.listener (.unit c.id .inventoryGeneration))

/-- Makes the inventory. -/
def inventoryPhase (q : RunRequest) (v : StageValues) : Run Inventory := do
  let root := (v.discovery.map (·.root)).getD ""
  Run.inventory q.now.text root v.units (← get).results.parses v.analysis
    (noteAssessed q (max v.units.length 1))

/-- Tells of a transformed unit. -/
def tellTransformed (q : RunRequest) (total : Nat) (id : String) : Run Unit := do
  let done := (← get).results.transforms.length
  modify (RunState.moveTo q.listener .outputGeneration ⟨90, done, total⟩ none)
  modify (RunState.announce q.listener (.unit id .outputGeneration))

/-- Keeps the result of transforming a unit. -/
def keepTransform (q : RunRequest) (candidates : List Component)
    (r : TaskResult TransformOutcome) : Run Unit := do
  match r.transformOutcome candidates with
  | none => Run.trouble ⟨.missingKey, Text.quoted r.key, none⟩
  | some outcome =>
    modify fun s =>
      { s with
        results := { s.results with transforms := s.results.transforms.set r.key outcome } }
    tellTransformed q candidates.length r.key

/-- Warns of a migrated unit that is not equivalent to its source. -/
def warnUnlessEquivalent (q : RunRequest) (id : String) (report : ValidationReport) : Run Unit := do
  if !report.comparison.equivalent then
    modify (RunState.warn q.listener
      (id ++ ": migrated component is not equivalent to its source"))

/-- Validates a transformed unit. -/
def validateOne (q : RunRequest) (c : Component) : Run Unit := do
  Run.checkpoint (← Run.place (some c.id) none none (some "output-generation"))
  match ((← get).results.transforms.get? c.id).bind TransformOutcome.migrated? with
  | none => return ()
  | some migrated =>
    let report ← Run.use (validateUnit true c migrated)
    modify fun s =>
      { s with
        results := { s.results with validations := s.results.validations.set c.id report } }
    warnUnlessEquivalent q c.id report

/-- Ends the run over units that could not be transformed, unless errors are to be skipped. -/
def requireTransformed : Run Unit := do
  let failed := ((← get).results.transforms.filter fun (_, t) => !t.success).map Prod.fst
  if !failed.isEmpty && !(← read).settings.pipeline.skipErrors then
    Run.fault (Fault.of .transformation
      ("Transformation failed for " ++ String.intercalate ", " (Text.sorted failed))
      (← Run.place none none none (some "output-generation")) none false)

/-- The units that are transformed: those whose level is wanted. -/
def transformCandidates (levels : List String) (inventory : Inventory)
    (components : List Component) : List Component :=
  let ready := (inventory.components.filter fun r => levels.contains r.level.label).map
    Readiness.unitId
  components.filter fun c => ready.contains c.id

/-- Transforms and validates the units that are ready. -/
def transformUnits (q : RunRequest) (components : List Component) (inventory : Inventory) :
    Run Unit := do
  let levels ← Run.use (← read).settings.transform.transformLevels
  let candidates := transformCandidates levels inventory components
  if candidates.isEmpty then return ()
  let _ ← Run.transformBatch candidates [] (keepTransform q candidates)
  requireTransformed
  candidates.forM (validateOne q)

/-- Writes the reports, if they are wanted; the result are their paths. -/
def reportPhase (options : PipelineSettings) (inventory : Inventory)
    (analysis : Option DependencyAnalysis) : Run (List Path) := do
  if options.generateReports && !options.dryRun then
    let directory ← Run.use options.outputDir
    Run.writeReports inventory analysis (Path.ofText directory)
  else return []

/-- Transforms units and writes reports, as the settings say. -/
def outputPhase (q : RunRequest) (v : StageValues) : Run (List Path) := do
  let options := (← read).settings.pipeline
  match v.inventory with
  | none => return []
  | some inventory =>
    if options.transform then transformUnits q v.units inventory
    reportPhase options inventory v.analysis

/-- The work of a run's phases. -/
def work (q : RunRequest) : PhaseWork :=
  { discover := q.discoverPhase
    parse := q.parsePhase
    analyze := q.analyzePhase
    assess := q.inventoryPhase
    write := q.outputPhase }

end RunRequest

/-- What a phase adds to what the phases before it gave. -/
def PhaseWork.body (work : PhaseWork) : Phase → StageValues → Run StageValues
  | .discovery, v => do return { v with discovery := some (← work.discover) }
  | .parsing, v => do
    work.parse v.units
    return v
  | .dependencyAnalysis, v => do return { v with analysis := some (← work.analyze v.units) }
  | .inventoryGeneration, v => do return { v with inventory := some (← work.assess v) }
  | .outputGeneration, v => do return { v with reports := ← work.write v }
  | _, v => return v

/-- Phases with their work. -/
def PhaseWork.stages (work : PhaseWork) (phases : List Phase) : List (Stage StageValues) :=
  phases.map fun phase => ⟨phase, work.body phase⟩

/-- The outcome of a run whose phases have ended. -/
def PipelineOutcome.ofStages (runId : String) (p : StageProgress StageValues)
    (warnings : List String) (s : RunState) : PipelineOutcome :=
  { runId := runId
    success := p.failure.isNone
    phase := s.board.progress.phase
    values := p.value
    results := s.results
    errors := s.log.history
    warnings := warnings
    metrics :=
      { phases := p.started
        unitsProcessed := p.value.units.length
        errors := s.board.progress.errors
        errorsByCategory := s.log.byCategory
        errorsBySeverity := s.log.bySeverity
        transformed := (s.results.transforms.filter fun (_, t) => t.success).length }
    progress := s.board.progress }

/-- Runs the pipeline with the given work of its phases. -/
def Run.pipelineBy (work : PhaseWork) (listener : Listener) : Run PipelineOutcome :=
  withReader (fun c : RunContext =>
      { c with observers := c.observers ++ [RunState.noteFault listener] }) do
    let context ← read
    let phases ← Run.use (phaseList context.settings.pipeline.mode)
    let (p, warnings) ← Run.stagesToEnd listener (work.stages phases) {}
    return PipelineOutcome.ofStages context.runId p warnings (← get)

/-- Runs the pipeline. -/
def Run.pipeline (q : RunRequest) : Run PipelineOutcome := Run.pipelineBy q.work q.listener

end ComponentMigration
