import ComponentMigration.Command.Migrate
import ComponentMigration.Pipeline.Run

/-!
# The command `analyze`

The command runs the pipeline over a source tree and tells what came out.
-/

namespace ComponentMigration

namespace AnalyzeRequest

/-- Sets a value of a table. -/
def override (t : SettingsTable) (sectionName key : String) (value : Option Json) :
    SettingsTable :=
  match value with
  | none => t
  | some v => t.set sectionName (((t.get? sectionName).getD []).set key v)

/-- The settings with what the command line says. -/
def settingsTable (q : AnalyzeRequest) (t : SettingsTable) : SettingsTable :=
  let t := override t "pipeline" "mode" (q.mode.map .str)
  let t := override t "pipeline" "output_dir" (q.output.map fun p => .str p.toText)
  let t := override t "inventory" "readiness_threshold" (q.threshold.map .int)
  let t := override t "pipeline" "dry_run" (if q.dryRun then some (.bool true) else none)
  override t "pipeline" "parallel" (if q.parallel then some (.bool true) else none)

/-- Loads the settings and checks them with what the command line says. -/
def loadTable (q : AnalyzeRequest) : Run SettingsTable := do
  let t := q.settingsTable (← MigrateRequest.loadSettings q.config q.root)
  match t.validate with
  | .ok () => return t
  | .error failure => throw failure

/-- What is told about an inventory. -/
def inventoryLine (i : Inventory) : String :=
  "Average readiness " ++ Number.fixed 0 i.summary.averageScore ++ "%, estimated " ++
    toString i.summary.estimatedPersonMonths ++ " person-month(s), " ++
    toString i.roadmap.phases.length ++ " roadmap phase(s)."

/-- Tells lines one after the other, up to the first that cannot be shown. -/
def printAll (console : Console) : List String → Console × Option Trouble
  | [] => (console, none)
  | line :: rest =>
    match console.print line with
    | .ok console => printAll console rest
    | .error t => (console, some t)

/-- The trouble with the first unit of an inventory whose name cannot be shown, since it is marked
up. -/
def nameTrouble? (i : Inventory) : Option Trouble :=
  i.components.findSome? fun r =>
    match Markup.shown r.name with
    | .ok _ => none
    | .error t => some t

/-- What is told about a finished run, and the trouble with a name or a line that cannot be shown.
-/
def consoleOf (o : PipelineOutcome) : Console × Option Trouble :=
  match o.values.inventory.bind nameTrouble? with
  | some t => ({}, some t)
  | none =>
    printAll { lines := (o.values.inventory.map inventoryLine).toList }
      (o.values.reports.map fun p => "[green]Wrote " ++ p.toText ++ "[/green]")

/-- How the command ends after a run: a failed one tells its last fault. -/
def outcomeOf (o : PipelineOutcome) : CommandOutcome :=
  match consoleOf o with
  | (console, some t) => CommandOutcome.crashed console (.trouble t)
  | (console, none) =>
    if o.success then { console := console }
    else
      match o.errors.getLast? with
      | some f => CommandOutcome.failed console f
      | none => { console := console, exit := 1 }

/-- The command `analyze`. -/
def run (q : AnalyzeRequest) (now : Instant) : Run CommandOutcome := do
  match ← Run.attempt q.loadTable with
  | .error (.fault f) => return CommandOutcome.failed {} f
  | .error failure => return CommandOutcome.crashed {} failure
  | .ok t =>
    match ← Run.attempt
        (Run.withSettings t.settings (Run.pipeline { root := q.root, now := now })) with
    | .ok o => return outcomeOf o
    | .error failure => return CommandOutcome.crashed {} failure

end AnalyzeRequest

/-- Runs what a command line asks for. -/
def Invocation.run (i : Invocation) (now : Instant) : Run CommandOutcome :=
  match i with
  | .version =>
    return { console := ({} : Console).say ("uimigrate v" ++ ComponentMigration.version) }
  | .help => return {}
  | .migrate q => q.run now
  | .analyze q => q.run now

/-- Runs a command line. -/
def Run.command (words : List String) (now : Instant) : Run CommandOutcome :=
  match Invocation.ofWords words with
  | .ok i => i.run now
  | .error _ => return CommandOutcome.unusable

end ComponentMigration
