import ComponentMigration.Fault.Recovery
import ComponentMigration.Run.State

/-!
# Announcing progress and running phases

Every change of progress, every phase, fault, warning and processed unit is announced with the
progress at its time.  The listener sees the announcements so far and may ask for cancellation.

A phase checks for cancellation, is announced, gets its deadline, does its work, and is announced as
complete.  The first failure ends the sequence; what earlier phases gave stays.
-/

namespace ComponentMigration

/-- The reason of a cancellation that gives none. -/
def defaultCancelReason : String := "Pipeline cancelled by user"

/-- Announces an event; the listener may cancel the run. -/
def RunState.announce (listener : Listener) (event : Event) (s : RunState) : RunState :=
  let announcements := s.board.announcements ++ [⟨event, s.board.progress⟩]
  let s := { s with board := { s.board with announcements := announcements } }
  match listener announcements with
  | some reason => { s with token := s.token.cancel (some (reason.getD defaultCancelReason)) }
  | none => s

/-- Progress at a percentage of a phase.  Overall progress never decreases, and a failed run keeps
what it had reached. -/
def Progress.moveTo (p : Progress) (phase : Phase) (share : Share) (message : Option String) :
    Progress :=
  { p with
    phase := phase
    share := share
    milestones := if phase == .failed then p.milestones else p.milestones ++ [⟨phase, share⟩]
    message := message.getD p.message }

/-- Moves progress and announces it. -/
def RunState.moveTo (listener : Listener) (phase : Phase) (share : Share)
    (message : Option String) (s : RunState) : RunState :=
  let board := { s.board with progress := s.board.progress.moveTo phase share message }
  RunState.announce listener .progress { s with board := board }

/-- Counts a warning and announces it. -/
def RunState.warn (listener : Listener) (message : String) (s : RunState) : RunState :=
  let p := s.board.progress
  RunState.announce listener (.warning message)
    { s with board := { s.board with progress := { p with warnings := p.warnings + 1 } } }

/-- Counts a recorded fault and announces it, with its own phase or else the current one. -/
def RunState.noteFault (listener : Listener) (f : Fault) (s : RunState) : RunState :=
  let p := s.board.progress
  let phase := (orElseText f.context.phase (some p.phase.label)).getD ""
  RunState.announce listener (.error f phase)
    { s with board := { s.board with progress := { p with errors := p.errors + 1 } } }

/-- A phase and its work, which extends what the phases before it gave. -/
structure Stage (σ : Type) where
  phase : Phase
  body : σ → Run σ

/-- How far a sequence of phases got: what they gave, the phases that were started, and the failure
that ended them. -/
structure StageProgress (σ : Type) where
  value : σ
  started : List Phase := []
  failure : Option Failure := none

/-- A fault with the phase in which it happened, unless it tells one. -/
def Fault.during (f : Fault) (phase : String) : Fault :=
  if f.context.phase.isNone then { f with context := { f.context with phase := some phase } }
  else f

namespace Run

/-- Sets the deadline of a phase, as the settings say. -/
def setDeadline (phase : Phase) : Run Unit := do
  let clock := (← read).clock
  let timeout ← use (← read).settings.pipeline.phaseTimeout
  let token ← use ((← get).token.setDeadline clock timeout phase.label)
  modify fun s => { s with token := token }

/-- Opens a phase, unless the run is cancelled. -/
def openPhase (listener : Listener) (phase : Phase) : Run Unit := do
  let context ← place none none none (some phase.label)
  checkpoint context
  modify (RunState.moveTo listener phase ⟨0, 1, 1⟩ (some ("Running " ++ phase.label)))
  modify (RunState.announce listener (.phaseStart phase))
  setDeadline phase

/-- Lifts the deadline of a phase. -/
def liftDeadline : Run Unit := modify fun s => { s with token := s.token.clearDeadline }

/-- Closes a phase. -/
def closePhase (listener : Listener) (phase : Phase) : Run Unit := do
  modify (RunState.moveTo listener phase ⟨100, 1, 1⟩ (some ("Completed " ++ phase.label)))
  modify (RunState.announce listener (.phaseComplete phase))

/-- How a phase ends: it could not be opened, its work failed, or it was completed. -/
inductive PhaseOutcome (σ : Type) where
  | unopened (failure : Failure)
  | failed (failure : Failure)
  | completed (value : σ)

/-- Runs a phase. -/
def runPhase (listener : Listener) (stage : Stage σ) (value : σ) : Run (PhaseOutcome σ) := do
  match ← attempt (openPhase listener stage.phase) with
  | .error failure => return .unopened failure
  | .ok () =>
    let outcome ← attempt (stage.body value)
    liftDeadline
    match outcome with
    | .error failure => return .failed failure
    | .ok value =>
      closePhase listener stage.phase
      return .completed value

/-- Runs phases until one fails. -/
def stages (listener : Listener) : List (Stage σ) → StageProgress σ → Run (StageProgress σ)
  | [], p => return p
  | stage :: rest, p => do
    let started := p.started ++ [stage.phase]
    match ← runPhase listener stage p.value with
    | .unopened failure => return { p with failure := some failure }
    | .failed failure => return { p with started := started, failure := some failure }
    | .completed value => stages listener rest { p with value := value, started := started }

/-- A failure as a fault: one that is none yet is classified. -/
def asFault (failure : Failure) (phase : String) : Run Fault :=
  match failure with
  | .fault f => return f
  | .trouble _ => do
    let context ← place none none none (some phase)
    classify failure (some context)

/-- Records a fault unless it is on record, which is brought up to date. -/
def recordOnce (f : Fault) : Run Unit := do
  modify fun s => { s with log := s.log.refresh f }
  if !(← get).log.retains f then
    let _ ← record f

/-- Ends a failed run: the failure learns the phase and is recorded unless it has been. -/
def failRun (listener : Listener) (failure : Failure) : Run (List String) := do
  let phase := (← get).board.progress.phase.label
  let f := (← asFault failure phase).during phase
  recordOnce f
  modify (RunState.moveTo listener .failed ⟨0, 1, 1⟩ (some f.message))
  return ["Pipeline stopped during " ++ phase ++ ": " ++ f.message]

/-- Runs phases to the end of the run; the result are the warnings of a failed run. -/
def stagesToEnd (listener : Listener) (list : List (Stage σ)) (start : σ) :
    Run (StageProgress σ × List String) := do
  let p ← stages listener list { value := start }
  match p.failure with
  | some failure =>
    let warnings ← failRun listener failure
    liftDeadline
    return (p, warnings)
  | none =>
    modify (RunState.moveTo listener .completed ⟨100, 1, 1⟩
      (some "Pipeline completed successfully"))
    liftDeadline
    return (p, [])

end Run

end ComponentMigration
