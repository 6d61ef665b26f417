import ComponentMigration.Equivalence.Basic
import ComponentMigration.Fault.Basic
import ComponentMigration.Fault.Strategy
import ComponentMigration.Module.Outcome
import ComponentMigration.Run.Disk
import ComponentMigration.Run.Progress
import ComponentMigration.Run.Token
import ComponentMigration.Settings.Basic
import ComponentMigration.Source.Document
import ComponentMigration.Structure.Basic

/-!
# The state of a run

A run has settings, a grammar and a clock, which stay, and a state, which changes: the disk, the
error log, the token, the delays waited, the progress board, and the results of single units.  A
computation may fail; the state it has reached by then stays.
-/

namespace ComponentMigration

/-- The faults of a run: the latest ones, how many there were, and the strategies against them. -/
structure ErrorLog where
  history : List Fault := []
  capacity : Option Nat := some 100
  total : Nat := 0
  nextSerial : Nat := 0
  strategies : List Strategy := builtinStrategies {}

/-- Progress and announcements of a run. -/
structure Board where
  progress : Progress := {}
  announcements : List Announcement := []

/-- What has come out for single units so far, by id. -/
structure UnitResults where
  parses : Assoc ParseOutcome := []
  transforms : Assoc TransformOutcome := []
  validations : Assoc ValidationReport := []

/-- What changes during a run. -/
structure RunState where
  disk : Disk := {}
  log : ErrorLog := {}
  token : Token := {}
  slept : List Json := []
  board : Board := {}
  results : UnitResults := {}

/-- The state of a run with settings, on a disk. -/
def RunState.ofSettings (s : Settings) (disk : Disk) : RunState :=
  { disk := disk
    log := { strategies := builtinStrategies s.retry } }

/-- What stays during a run. -/
structure RunContext where
  settings : Settings := {}
  runId : String := ""
  grammar : Grammar
  clock : Clock := fun _ => 0.0
  observers : List (Fault → RunState → RunState) := []

/-- A computation of a run. -/
abbrev Run (α : Type) := ReaderT RunContext (ExceptT Failure (StateM RunState)) α

namespace Run

/-- Runs a computation. -/
def exec (x : Run α) (context : RunContext) (s : RunState) : Except Failure α × RunState :=
  (x context).run s

/-- Fails with a fault. -/
def fault (f : Fault) : Run α := throw (.fault f)

/-- Fails with a trouble. -/
def trouble (t : Trouble) : Run α := throw (.trouble t)

/-- A value that can be used, or else the trouble with it. -/
def use (value : Usable α) : Run α :=
  match value with
  | .ok a => return a
  | .error t => trouble t

/-- The outcome of a computation, which may be a failure. -/
def attempt (x : Run α) : Run (Except Failure α) := fun context s =>
  match x.exec context s with
  | (r, s') => (.ok r, s')

/-- A step on the disk. -/
def onDisk (step : Disk → Except Trouble α × Disk) : Run α := do
  let s ← get
  let (r, disk) := step s.disk
  set { s with disk := disk }
  use r

/-- Whether something stands at a path. -/
def exists? (p : Path) : Run Bool := do
  let entry ← use ((← get).disk.look p)
  return entry.isSome

/-- Whether a directory stands at a path. -/
def isDirectory? (p : Path) : Run Bool := do
  let entry ← use ((← get).disk.look p)
  return entry == some .directory

/-- Fails if the run is cancelled or its phase is past the deadline. -/
def checkpoint (context : FaultContext) : Run Unit := do
  let s ← get
  let (f, token) := s.token.check (← read).clock context
  set { s with token := token }
  match f with
  | some f => fault f
  | none => return ()

/-- A place in the run, with the run's id. -/
def place (unit operation filePath phase : Option String := none) : Run FaultContext := do
  return { unit := unit, operation := operation, correlationId := some (← read).runId,
           filePath := filePath, phase := phase }

end Run

end ComponentMigration
