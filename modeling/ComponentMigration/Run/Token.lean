import ComponentMigration.Fault.Basic

/-!
# The cancellation token

The token says whether the run has been cancelled and why, and until when the current phase may
last.  Time is read from a clock that is given by the number of readings so far.
-/

namespace ComponentMigration

/-- A clock: the time at each successive reading. -/
abbrev Clock := Nat → Float

/-- Cancellation and deadline of a run. -/
structure Token where
  isCancelled : Bool := false
  reason : Option String := none
  deadline : Option Float := none
  deadlinePhase : String := ""
  timeout : Float := 0.0
  readings : Nat := 0

namespace Token

/-- Cancels the run. -/
def cancel (t : Token) (reason : Option String) : Token :=
  { t with isCancelled := true, reason := reason }

/-- Lifts the deadline. -/
def clearDeadline (t : Token) : Token := { t with deadline := none, deadlinePhase := "" }

/-- A time in seconds, or nothing, that a value stands for. -/
def secondsOf (v : Json) : Usable (Option Quantity) :=
  match v with
  | .null => .ok none
  | _ =>
    match v.quantity? with
    | some q => .ok (some q)
    | none => .error (.incomparable "<=" v.sortName "int")

/-- Sets the deadline of a phase; without a positive time there is none. -/
def setDeadline (t : Token) (clock : Clock) (seconds : Option Quantity) (phase : String) :
    Usable Token :=
  match seconds with
  | some s =>
    if s.isAtMost 0 then .ok t.clearDeadline
    else do
      let seconds ← s.toFloat
      return { t with
        deadline := some (clock t.readings + seconds)
        deadlinePhase := phase
        timeout := seconds
        readings := t.readings + 1 }
  | none => .ok t.clearDeadline

/-- The fault of a cancelled run or of a phase past its deadline, if it has come to that; the clock
is read only if there is a deadline to look at. -/
def check (t : Token) (clock : Clock) (context : FaultContext) : Option Fault × Token :=
  if t.isCancelled then
    (some (Fault.cancelled ((orElseText t.reason (some "cancelled")).getD "") context), t)
  else
    match t.deadline with
    | none => (none, t)
    | some deadline =>
      let t' := { t with readings := t.readings + 1 }
      if deadline < clock t.readings then
        (some (Fault.of .phaseTimeout ("Phase '" ++ t.deadlinePhase ++ "' exceeded its " ++
          Number.general t.timeout ++ "s timeout") context none false), t')
      else (none, t')

end Token

end ComponentMigration
