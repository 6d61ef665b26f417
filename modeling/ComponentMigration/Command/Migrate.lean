import ComponentMigration.Artifact.Bundle
import ComponentMigration.Command.Arguments
import ComponentMigration.Command.Console
import ComponentMigration.Equivalence.Compare
import ComponentMigration.Manifest.Store
import ComponentMigration.Module.Transform
import ComponentMigration.Project.Discovery
import ComponentMigration.Readiness.Score
import ComponentMigration.Settings.File

/-!
# The command `migrate`

The command migrates single units by name and keeps the manifest of the output directory.
-/

namespace ComponentMigration

/-- Whether a text is a name of two to sixty-four letters, digits, dashes and low lines that starts
with a letter; a final line feed is let pass. -/
def isValidName (s : String) : Bool :=
  let cs := match s.toList.getLast? with
    | some '\n' => s.toList.dropLast
    | _ => s.toList
  match cs with
  | c :: rest =>
    c.isAlpha && 1 ≤ rest.length && rest.length ≤ 63 &&
      rest.all fun d => d.isAlphanum || d == '_' || d == '-'
  | [] => false

namespace MigrateRequest

/-- The settings that a manifest notes. -/
def noted (q : MigrateRequest) : Assoc Json :=
  [("source", .str q.source.toText), ("output", .str q.output.toText),
    ("dry_run", .bool q.dryRun), ("verbose", .bool q.verbose), ("skip_tests", .bool q.skipTests)]

/-- Loads the settings for sources in a directory: its own configuration file counts, or that of the
working directory if there is no such directory. -/
def loadSettings (config : Option Path) (source : Path) : Run SettingsTable := do
  let cwd := (← get).disk.cwd
  let directory := if ← Run.isDirectory? source then source else cwd
  Run.loadSettings (← Run.findSettings config directory none)

/-- Discovers the units of the source directory, which has to exist. -/
def discoverUnits (q : MigrateRequest) : Run DiscoveryResult := do
  if ← Run.isDirectory? q.source then Run.discover q.source
  else
    Run.fault (Fault.of .validation ("Source directory not found: " ++ q.source.toText)
      (← Run.place none (some "migrate") (some q.source.toText) none))

/-- The unit with a name: one that is no hook, or else any unit with that name or id. -/
def targetOf (found : DiscoveryResult) (name : String) : Option Component :=
  (found.components.find? fun c => c.name == name && c.kind != .hook).or (found.find? name)

/-- Checks a transformed unit. -/
def checkOutcome (component : Component) (result : TransformOutcome) : Run Unit := do
  let context ← Run.place component.id (some "migrate") component.filePath none
  let grammar := (← read).grammar
  if !result.success then
    let told := String.intercalate "; " result.warnings
    Run.fault (Fault.of .transformation (if told.isEmpty then "Transformation failed" else told)
      context)
  let completeness := checkCompleteness grammar component result.code
  if !completeness.passed then
    Run.fault (Fault.of .businessLogic
      ("Business logic incomplete: " ++ String.intercalate "; " completeness.errors) context)
  let compiled := checkCompiles grammar result.code component.name
  if !compiled.passed then
    Run.fault (Fault.of .generation
      ("Generated code does not compile: " ++ String.intercalate "; " compiled.errors) context)

/-- The validation of a transformed unit, if there is something to validate. -/
def validationOf (component : Component) (result : TransformOutcome) :
    Run (Option ValidationReport) :=
  match result.transformed with
  | none => return none
  | some migrated => do
    return some (← Run.use (validateUnit true component migrated))

/-- Writes the files of a migrated unit; a failure of the file system is told with the unit. -/
def writeArtifacts (q : MigrateRequest) (name : String) (component : Component)
    (bundle : Bundle) : Run Nat := do
  match ← Run.attempt (Run.writeBundle bundle q.output) with
  | .ok () => return bundle.files.length
  | .error (.trouble t) =>
    if t.isSystem then
      Run.fault (Fault.of .fileSystem ("Could not write artifacts for " ++ name ++ ": " ++ t.text)
        (← Run.place component.id (some "migrate") component.filePath none)
        (some (.trouble t.sort)))
    else Run.trouble t
  | .error failure => throw failure

/-- Migrates the unit with a name; the result is the number of files written. -/
def migrateOne (q : MigrateRequest) (now : Instant) (found : DiscoveryResult) (name : String) :
    Run Nat := do
  match targetOf found name with
  | none =>
    Run.fault (Fault.of .validation
      ("Baseline not found: no component named '" ++ name ++ "' under " ++ q.source.toText)
      (← Run.place (some name) (some "migrate") none none))
  | some component =>
    let parse ← Run.parseUnit component none
    let readiness ← Run.use (assess (← read).settings.inventory component (some parse) none)
    let result ← Run.transformUnit component none
    checkOutcome component result
    let report ← validationOf component result
    if q.dryRun then return 0
    else
      q.writeArtifacts name component
        (buildBundle result (some readiness) report q.skipTests now.dateText)

/-- What is to be migrated: the settings, the manifest, the targets, and whether units that were
migrated before are migrated again. -/
structure Plan where
  table : SettingsTable
  manifest : Manifest
  targets : List Json
  force : Bool

/-- How the preparation of a migration ends: with a plan, or with the command being done. -/
inductive Preparation where
  | ready (plan : Plan)
  | done (line : String)

/-- The line that tells of removed directories. -/
def removedLine (count : Nat) : String :=
  "Removed " ++ toString count ++ " orphaned director" ++ (if count == 1 then "y" else "ies") ++
    "."

/-- The targets of a migration. -/
def targets (q : MigrateRequest) (manifest : Manifest) : Run (List Json) := do
  if q.resume then
    if !(← Run.exists? (Run.manifestPath q.output)) then
      Run.fault (Fault.of .validation "No manifest found; nothing to resume")
    return manifest.failed.map FailedUnit.component
  else
    let target := (orElseText q.regenerate q.name).getD ""
    if target.isEmpty then
      Run.fault (Fault.of .validation
        "A component name is required (or use --resume/--rollback/--cleanup)")
    return [.str target]

/-- Prepares a migration, or does what is asked for in its place. -/
def prepare (q : MigrateRequest) (now : Instant) : Run Preparation := do
  if q.rollback then
    let removed ← Run.rollback q.output now
    return .done ("Rolled back " ++ toString removed.length ++ " component(s).")
  else if q.cleanup then
    let removed ← Run.cleanup q.output now
    return .done (removedLine removed.length)
  else
    let table ← loadSettings q.config q.source
    let manifest ← Run.loadOrCreateManifest q.output now q.noted
    let targets ← q.targets manifest
    if targets.isEmpty then return .done "No failed components to resume."
    else return .ready ⟨table, manifest, targets, q.resume || q.regenerate.isSome⟩

/-- The names of targets; the first that is no valid name, or no text at all, stops the command. -/
def checkNames : List Json → Except CommandOutcome (List String)
  | [] => .ok []
  | .str name :: rest =>
    if isValidName name then (checkNames rest).map (name :: ·)
    else
      match ({} : Console).print ("[red]Invalid component name '" ++ name ++ "'.[/red]") with
      | .ok console => .error { console := console, exit := 1 }
      | .error t => .error (CommandOutcome.crashed {} (.trouble t))
  | _ :: _ =>
    .error (CommandOutcome.crashed {}
      (.trouble ⟨.wrongType, "a name has to be a text", none⟩))

/-- How far a migration has got.  Units are discovered once. -/
structure MigrationState where
  manifest : Manifest
  found : Option DiscoveryResult := none
  console : Console := {}
  worst : Nat := 0
  crash : Option Failure := none

/-- Notes a unit that could not be migrated. -/
def MigrationState.fail (s : MigrationState) (dryRun : Bool) (now : Instant) (name : String)
    (f : Fault) : MigrationState :=
  { s with
    console := s.console.report f
    worst := max s.worst f.exitCode
    manifest :=
      if dryRun then s.manifest else s.manifest.addFailure (.str name) (.str f.message) now }

/-- Notes a migrated unit. -/
def MigrationState.succeed (s : MigrationState) (q : MigrateRequest) (name : String)
    (files : Nat) : MigrationState :=
  if q.dryRun then s
  else
    let line := "[green]✅ Migrated " ++ name ++ "[/green] [dim](" ++ toString files ++
      " files in " ++ (q.output.child name).toText ++ ")[/dim]"
    match s.console.print line with
    | .ok console => { s with manifest := s.manifest.addSuccess (.str name), console := console }
    | .error t => { s with crash := some (.trouble t) }

/-- Notes the outcome of one unit.  Faults are noted; any other failure stops the command. -/
def MigrationState.settle (s : MigrationState) (q : MigrateRequest) (now : Instant)
    (name : String) : Except Failure Nat → MigrationState
  | .ok files => s.succeed q name files
  | .error (.fault f) => s.fail q.dryRun now name f
  | .error failure => { s with crash := some failure }

/-- Migrates one unit, after the units have been discovered. -/
def migrateNext (q : MigrateRequest) (now : Instant) (name : String) (s : MigrationState) :
    Run MigrationState := do
  let found ← match s.found with
    | some found => pure (.ok found)
    | none => Run.attempt q.discoverUnits
  match found with
  | .error failure => return s.settle q now name (.error failure)
  | .ok found =>
    let outcome ← Run.attempt (q.migrateOne now found name)
    return ({ s with found := some found } : MigrationState).settle q now name outcome

/-- Migrates units one after the other. -/
def migrateAll (q : MigrateRequest) (now : Instant) (force : Bool) :
    List String → MigrationState → Run MigrationState
  | [], s => return s
  | name :: rest, s => do
    if !force && s.manifest.isSuccessful (.str name) then
      q.migrateAll now force rest
        { s with console := s.console.say (name ++ " was already migrated; use --regenerate " ++
            name ++ " to force.") }
    else
      let s ← q.migrateNext now name s
      if s.crash.isSome then return s else q.migrateAll now force rest s

/-- Finishes the manifest and saves it. -/
def finish (q : MigrateRequest) (now : Instant) (s : MigrationState) : Run CommandOutcome := do
  match s.manifest.finish now with
  | (.error t, _) => return CommandOutcome.crashed s.console (.trouble t)
  | (.ok (), manifest) =>
    match ← Run.attempt (Run.saveManifest q.output (some manifest)) with
    | .ok _ => return { console := s.console, exit := s.worst }
    | .error (.trouble t) =>
      if t.isSystem then
        return CommandOutcome.failed s.console
          (Fault.of .fileSystem ("Could not write manifest: " ++ t.text) {}
            (some (.trouble t.sort)))
      else return CommandOutcome.crashed s.console (.trouble t)
    | .error failure => return CommandOutcome.crashed s.console failure

/-- Carries out a plan. -/
def carryOut (q : MigrateRequest) (now : Instant) (plan : Plan) : Run CommandOutcome := do
  match checkNames plan.targets with
  | .error outcome => return outcome
  | .ok names =>
    let s ← Run.withSettings plan.table.settings
      (q.migrateAll now plan.force names { manifest := plan.manifest })
    match s.crash with
    | some failure => return CommandOutcome.crashed s.console failure
    | none =>
      if q.dryRun then return { console := s.console, exit := s.worst }
      else q.finish now s

/-- The command `migrate`. -/
def run (q : MigrateRequest) (now : Instant) : Run CommandOutcome := do
  match ← Run.attempt (q.prepare now) with
  | .ok (.done line) => return { console := ({} : Console).say line }
  | .ok (.ready plan) => q.carryOut now plan
  | .error (.fault f) => return CommandOutcome.failed {} f
  | .error (.trouble t) =>
    if t.isSystem then
      return CommandOutcome.failed {} (Fault.of .fileSystem t.text {} (some (.trouble t.sort)))
    else return CommandOutcome.crashed {} (.trouble t)

end MigrateRequest

end ComponentMigration
