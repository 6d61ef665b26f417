import ComponentMigration.Pipeline.Run

/-!
# Who runs the pipeline

An orchestrator has settings and runs the pipeline with them, as often as it is asked to but one run
at a time: a run takes the orchestrator's lock and gives it back however the run ends.  Every run
begins with a state of its own; only the disk is handed on.
-/

namespace ComponentMigration

/-- What a run is given from outside: its id, the grammar, the clock, the work of its phases and who
listens. -/
structure RunTask where
  runId : String
  grammar : Grammar
  clock : Clock
  work : PhaseWork
  listener : Listener

/-- Who runs the pipeline with some settings, with the progress of the current or the latest run. -/
structure Orchestrator where
  settings : Settings
  isLocked : Bool := false
  isRunning : Bool := false
  progress : Progress := {}

/-- What a run leaves: its outcome, its last state, and the orchestrator after it. -/
structure FinishedRun where
  outcome : Except Failure PipelineOutcome
  state : RunState
  orchestrator : Orchestrator

namespace Orchestrator

/-- The trouble of a second run at the same time. -/
def busy : Trouble := ⟨.busy, "Pipeline is already running", none⟩

/-- Takes the lock for a run, unless there is one going on. -/
def start (o : Orchestrator) : Usable Orchestrator :=
  if o.isLocked then .error busy
  else .ok { o with isLocked := true, isRunning := true, progress := {} }

/-- Gives the lock back after a run. -/
def stop (o : Orchestrator) (progress : Progress) : Orchestrator :=
  { o with isLocked := false, isRunning := false, progress := progress }

/-- The context of a run. -/
def contextOf (o : Orchestrator) (task : RunTask) : RunContext :=
  { settings := o.settings, runId := task.runId, grammar := task.grammar, clock := task.clock }

/-- Runs the pipeline on a disk. -/
def run (o : Orchestrator) (task : RunTask) (disk : Disk) : FinishedRun :=
  match o.start with
  | .error t => ⟨.error (.trouble t), RunState.ofSettings o.settings disk, o⟩
  | .ok o =>
    match (Run.pipelineBy task.work task.listener).exec (o.contextOf task)
        (RunState.ofSettings o.settings disk) with
    | (outcome, s) => ⟨outcome, s, o.stop s.board.progress⟩

end Orchestrator

end ComponentMigration
