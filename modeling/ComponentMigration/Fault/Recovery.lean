import ComponentMigration.Run.State

/-!
# Recording faults and recovering

`withRecovery` runs an operation.  A failure is classified and recorded; then the strategies are
tried in their order.  If one asks for another attempt the operation runs again, if another one
succeeds the failure is absorbed, and if none does the recorded fault is the failure of the whole.
Cancellation passes through untouched.
-/

namespace ComponentMigration

namespace ErrorLog

/-- Keeps the last items of a list. -/
def keepLast (n : Nat) (xs : List α) : List α := xs.drop (xs.length - n)

/-- The number of faults that a log is to retain: nothing for all of them. -/
def capacityOf (v : Json) : Usable (Option Nat) :=
  match v with
  | .null => .ok none
  | .int n =>
    if n ≥ Number.twoTo 63 || n < -(Number.twoTo 63 : Int) then
      .error ⟨.overflow, "the number is too large for a size", none⟩
    else if n < 0 then .error ⟨.badValue, "maxlen must be non-negative", none⟩
    else .ok (some n.toNat)
  | .bool b => .ok (some (if b then 1 else 0))
  | _ => .error ⟨.wrongType, "an integer is required", none⟩

/-- The latest faults of a list, as many as the log retains. -/
def retained (log : ErrorLog) (faults : List Fault) : List Fault :=
  match log.capacity with
  | some n => keepLast n faults
  | none => faults

/-- The log with a fault added; the fault gets a serial number unless it has one. -/
def add (log : ErrorLog) (f : Fault) : Fault × ErrorLog :=
  let serial := f.serial.getD log.nextSerial
  let f := { f with serial := some serial }
  (f, { log with
        history := log.retained (log.history ++ [f])
        total := log.total + 1
        nextSerial := if log.nextSerial ≤ serial then serial + 1 else log.nextSerial })

/-- Brings the records of a fault up to date. -/
def refresh (log : ErrorLog) (f : Fault) : ErrorLog :=
  match f.serial with
  | some serial =>
    { log with history := log.history.map fun g => if g.serial == some serial then f else g }
  | none => log

/-- Whether a fault is among the retained records. -/
def retains (log : ErrorLog) (f : Fault) : Bool :=
  f.serial.isSome && log.history.any (·.serial == f.serial)

/-- Forgets all faults. -/
def clear (log : ErrorLog) : ErrorLog := { log with history := [], total := 0 }

/-- The latest faults, at most ten. -/
def recent (log : ErrorLog) : List Fault := keepLast 10 log.history

/-- How many retained faults each category has. -/
def byCategory (log : ErrorLog) : Assoc Nat := Assoc.count (log.history.map (·.category.label))

/-- How many retained faults each severity has. -/
def bySeverity (log : ErrorLog) : Assoc Nat := Assoc.count (log.history.map (·.severity.label))

end ErrorLog

namespace Run

/-- Classifies a failure; if it is a recorded fault, its records are brought up to date. -/
def classify (failure : Failure) (context : Option FaultContext) : Run Fault := do
  let f := failure.classify context
  modify fun s => { s with log := s.log.refresh f }
  return f

/-- Records a fault and tells the observers. -/
def record (f : Fault) : Run Fault := do
  let observers := (← read).observers
  let s ← get
  let (f, log) := s.log.add f
  set (observers.foldl (fun s observe => observe f s) { s with log := log })
  return f

/-- Tries strategies in turn until one succeeds. -/
def recoverBy (f : Fault) : List Strategy → Run (Option Recovery)
  | [] => return none
  | s :: rest =>
    if s.canHandle f then do
      let attempt := s.recover f
      modify fun st => { st with slept := st.slept ++ attempt.waited.toList }
      let r ← use attempt.outcome
      if r.success then return some r else recoverBy f rest
    else recoverBy f rest

/-- Tries to recover from a fault. -/
def recover (f : Fault) : Run (Option Recovery) := do
  if f.recoverable then recoverBy f (← get).log.strategies else return none

/-- Classifies and records a failure and tries to recover from it. -/
def handle (failure : Failure) (context : Option FaultContext) : Run (Option Recovery) := do
  let f ← classify failure context
  let f ← record f
  recover f

/-- The number of the next attempt that a recovery asks for. -/
def nextAttempt (r : Recovery) : Run Int :=
  match r.data.get? "attempt" with
  | none => trouble ⟨.missingKey, "'attempt'", none⟩
  | some v =>
    match v.toInteger with
    | .ok n => return n
    | .error t => trouble t

/-- What an attempt comes to: a value, or another attempt after a fault. -/
inductive Attempted (α : Type) where
  | finished (value : α)
  | again (f : Fault) (next : Int)

/-- Runs an operation once.  A failure is recorded and goes through the strategies; one that is not
recovered from, and cancellation, is the failure of the whole. -/
def attemptOnce (operation : Run α) (base : FaultContext) (absorb : Fault → Recovery → α)
    (attempt : Int) : Run (Attempted α) := do
  match ← Run.attempt operation with
  | .ok a => return .finished a
  | .error failure =>
    if failure.isCancellation then throw failure
    else
      let f ← classify failure
        (some { base with data := base.data.set "attempt" (.int attempt) })
      let f ← record f
      match ← recover f with
      | none => fault f
      | some r =>
        if r.action == "retry" then return .again f (← nextAttempt r)
        else return .finished (absorb f r)

/-- Runs an operation from an attempt on, with a bound on the attempts. -/
def withRecovery.loop (operation : Run α) (base : FaultContext) (absorb : Fault → Recovery → α) :
    Nat → Int → Run α
  | 0, attempt => do
    match ← attemptOnce operation base absorb attempt with
    | .finished a => return a
    | .again f _ => fault f
  | fuel + 1, attempt => do
    match ← attemptOnce operation base absorb attempt with
    | .finished a => return a
    | .again _ next => loop operation base absorb fuel next

/-- The largest number of attempts that the strategies allow. -/
def attemptLimit (strategies : List Strategy) : Nat :=
  strategies.foldl (fun n s =>
    match s.action with
    | .retry policy => max n policy.attemptLimit
    | _ => n) 0

/-- Runs an operation; failures go through the recovery strategies. -/
def withRecovery (operation : Run α) (context : FaultContext)
    (absorb : Fault → Recovery → α) : Run α := do
  withRecovery.loop operation context absorb (attemptLimit (← get).log.strategies) 1

end Run

end ComponentMigration
