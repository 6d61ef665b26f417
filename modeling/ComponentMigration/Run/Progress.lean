import ComponentMigration.Assoc
import ComponentMigration.Fault.Basic
import ComponentMigration.Number.Arithmetic

/-!
# Phases and progress

Every phase has a weight; overall progress is the weight of the phases before the current one plus
its own weight scaled by its progress.  What has been reported is kept, and overall progress follows
from it in any arithmetic; it is shown with two places of floating-point numbers.
-/

namespace ComponentMigration

/-- The phases of a run and its two final states. -/
inductive Phase where
  | initialization
  | discovery
  | parsing
  | dependencyAnalysis
  | inventoryGeneration
  | outputGeneration
  | cleanup
  | completed
  | failed
  deriving DecidableEq, Repr

namespace Phase

/-- The label of a phase. -/
def label : Phase → String
  | .initialization => "initialization"
  | .discovery => "discovery"
  | .parsing => "parsing"
  | .dependencyAnalysis => "dependency-analysis"
  | .inventoryGeneration => "inventory-generation"
  | .outputGeneration => "output-generation"
  | .cleanup => "cleanup"
  | .completed => "completed"
  | .failed => "failed"

/-- The phases in the order in which they run. -/
def order : List Phase :=
  [.initialization, .discovery, .parsing, .dependencyAnalysis, .inventoryGeneration,
    .outputGeneration, .cleanup]

end Phase

section

variable {m : Type → Type} {α : Type} [Monad m] [Arithmetic m α]

/-- The weights of the phases. -/
def phaseWeights : Assoc (m α) :=
  [("initialization", Arithmetic.of 5), ("discovery", Arithmetic.of 20),
    ("parsing", Arithmetic.of 30), ("dependency-analysis", Arithmetic.of 25),
    ("inventory-generation", Arithmetic.of 15), ("output-generation", Arithmetic.of 5),
    ("cleanup", Arithmetic.of 0), ("completed", Arithmetic.of 0), ("failed", Arithmetic.of 0)]

/-- The weight under a label; zero if there is none. -/
def weightOf (weights : Assoc (m α)) (label : String) : m α :=
  (weights.get? label).getD (Arithmetic.of 0)

/-- A percentage brought between zero and a hundred. -/
def clampPercent (percent : α) : α :=
  Arithmetic.greater (Arithmetic.real 0) (Arithmetic.lesser (Arithmetic.real 100) percent)

/-- The phases before one. -/
def phasesBefore (phase : String) : List String :=
  let labels := Phase.order.map Phase.label
  if labels.contains phase then labels.takeWhile (· != phase) else []

/-- Overall progress at a percentage of a phase: the weights of the phases before it plus its own
weight scaled by the percentage, at most a hundred. -/
def overallProgress (weights : Assoc (m α)) (phase : String) (percent : m α) : m α :=
  if phase == "completed" then return Arithmetic.real 100
  else do
    let done ← Arithmetic.sum ((phasesBefore phase).map (weightOf weights))
    let weight ← weightOf weights phase
    let scaled ← Arithmetic.mul weight (clampPercent (← percent))
    let own ← Arithmetic.div scaled (Arithmetic.real 100)
    return Arithmetic.lesser (Arithmetic.real 100) (← Arithmetic.add done own)

/-- How much of a phase is done: so many of a number of steps, which together make `span` percent.
-/
structure Share where
  span : Nat
  done : Nat := 1
  total : Nat := 1
  deriving DecidableEq, Repr

/-- The percentage that a share is. -/
def Share.percent (s : Share) : m α := do
  let reached ← Arithmetic.mul (Arithmetic.real s.span) (← Arithmetic.of (.whole s.done))
  Arithmetic.div reached (← Arithmetic.of (.whole s.total))

/-- A share of a phase that a run has come to. -/
structure Milestone where
  phase : Phase
  share : Share
  deriving DecidableEq, Repr

/-- Overall progress at a milestone. -/
def Milestone.overall (r : Milestone) : m α :=
  overallProgress phaseWeights r.phase.label r.share.percent

/-- Overall progress after milestones: the greatest that one of them has come to. -/
def overallAfter (milestones : List Milestone) : m α :=
  milestones.foldlM (fun reached r => do return Arithmetic.greater reached (← r.overall))
    (Arithmetic.real 0)

end

/-- How far a run is.  The milestones are those that count for overall progress, which a failure
does not. -/
structure Progress where
  phase : Phase := .initialization
  share : Share := ⟨0, 1, 1⟩
  milestones : List Milestone := []
  discovered : Nat := 0
  parsed : Nat := 0
  analyzed : Nat := 0
  errors : Nat := 0
  warnings : Nat := 0
  message : String := ""

/-- The two progress values as they are shown. -/
def Progress.shown (p : Progress) : Float × Float :=
  (Number.roundPlaces 2 (Id.run p.share.percent),
    Number.roundPlaces 2 (Id.run (overallAfter p.milestones)))

/-- What listeners are told. -/
inductive Event where
  | phaseStart (phase : Phase)
  | phaseComplete (phase : Phase)
  | progress
  | error (fault : Fault) (phase : String)
  | warning (message : String)
  | unit (id : String) (phase : Phase)

/-- An event with the progress at its time. -/
structure Announcement where
  event : Event
  progress : Progress

/-- A listener: after every announcement it may ask for cancellation with a reason.  It is given the
announcements so far, the latest last. -/
abbrev Listener := List Announcement → Option (Option String)

end ComponentMigration
