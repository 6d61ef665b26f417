import ComponentMigration.Fault.Basic
import ComponentMigration.Json.Display
import ComponentMigration.Json.Misuse
import ComponentMigration.Sorting
import ComponentMigration.Text.Numeral
import ComponentMigration.Text.Quoted

/-!
# Trying again and recovering

How often an operation is tried again, and what is done about the faults that remain.
-/

namespace ComponentMigration

/-!
## Retry policy

A policy says how often and how fast an operation is tried again.  Delays double from attempt to
attempt, up to a limit; whole numbers are computed with exactly.  The values of a policy may be of
any sort: a delay that is a text or a list is repeated instead of multiplied.
-/

/-- How often and how fast an operation is tried again; delays are in seconds. -/
structure RetryPolicy where
  maxAttempts : Json := .int 3
  baseDelay : Json := .float 1.0
  maxDelay : Json := .float 10.0

/-- Two to an integer power: exact from zero on, else a floating-point number. -/
def powerOfTwo (n : Int) : Usable Quantity :=
  if n ≥ 0 then .ok (.whole (Number.twoTo n.toNat))
  else if Number.isTooLarge n then .error Quantity.tooLarge
  else if n < -1100 then .ok (.real 0.0)
  else .ok (.real (Number.ofFraction ⟨false, 1, Number.twoTo (-n).toNat⟩))

/-- So many copies of a sequence, one after the other. -/
def copies (count : Nat) (xs : List α) : List α := (List.replicate count xs).flatten

/-- How often a sequence is repeated for a factor.  A count has to be an index, and what comes out
has to fit into memory. -/
def copyCount (size : Nat) (factor : Quantity) : Usable Nat :=
  match factor.int? with
  | none =>
    .error ⟨.wrongType,
      "can't multiply sequence by non-int of type '" ++ factor.sortName ++ "'", none⟩
  | some n =>
    if n ≥ Number.twoTo 63 then
      .error ⟨.overflow, "cannot fit 'int' into an index-sized integer", none⟩
    else if n.toNat * size ≥ Number.twoTo 32 then .error ⟨.outOfMemory, "", none⟩
    else .ok n.toNat

/-- A value multiplied: a number as such, a text or a list by repeating it. -/
def Json.times (v : Json) (factor : Quantity) : Usable Json :=
  match v.quantity?, v with
  | some q, _ => do return .ofQuantity (← q.mul factor)
  | none, .str s => do
    return .str (String.ofList (copies (← copyCount s.length factor) s.toList))
  | none, .arr items => do return .arr (copies (← copyCount items.length factor) items)
  | none, _ => .error (.unsupported "*" v.sortName factor.sortName)

namespace RetryPolicy

/-- Whether another attempt follows one. -/
def shouldRetry (p : RetryPolicy) (attempt : Int) : Usable Bool :=
  (Json.int attempt).isLess p.maxAttempts

/-- The delay after an attempt: the base delay doubled for every attempt before, up to a limit. -/
def delayFor (p : RetryPolicy) (attempt : Int) : Usable Json := do
  let delay ← p.baseDelay.times (← powerOfTwo (attempt - 1))
  return if ← p.maxDelay.isLess delay then p.maxDelay else delay

/-- The number of attempts that a policy allows at most. -/
def attemptLimit (p : RetryPolicy) : Nat :=
  match p.maxAttempts.quantity? with
  | some limit =>
    match limit.ceil with
    | .ok n => n.toNat
    | .error _ => 1025
  | none => 0

end RetryPolicy

/-- A value with two places, as messages show delays.  Only numbers have places. -/
def Json.twoPlaces (v : Json) : Usable String :=
  match v.quantity?, v with
  | some q, _ => do return Number.fixed 2 (← q.toFloat)
  | none, .str _ => .error ⟨.badValue, "Unknown format code 'f' for object of type 'str'", none⟩
  | none, _ =>
    .error ⟨.wrongType, "unsupported format string passed to " ++ v.sortName ++ ".__format__", none⟩

/-!
## Recovery strategies

A strategy applies to faults of its categories.  The three built-in strategies try an operation
again after a growing delay, mark a unit for manual review, or skip it.  Strategies that recover by
themselves come first, then those with the smaller priority number.
-/

/-- The outcome of a recovery. -/
structure Recovery where
  success : Bool
  action : String
  message : String := ""
  data : Assoc Json := []
  requiresManualReview : Bool := false

/-- What a strategy does. -/
inductive StrategyAction where
  /-- Waits and has the operation tried again. -/
  | retry (policy : RetryPolicy)
  /-- Marks the unit for manual review. -/
  | fallback
  /-- Leaves the unit out, unless the fault is critical. -/
  | skip
  /-- Any other way of recovering. -/
  | custom (recover : Fault → Recovery)

/-- A recovery strategy. -/
structure Strategy where
  name : String
  priority : Json
  autoRecoverable : Bool := false
  categories : List Category
  action : StrategyAction

/-- Whether a strategy applies to a fault. -/
def Strategy.canHandle (s : Strategy) (f : Fault) : Bool :=
  s.categories.contains f.category &&
    match s.action with
    | .skip => f.severity != .critical
    | _ => true

/-- The built-in strategy of trying again. -/
def Strategy.retry (policy : RetryPolicy) : Strategy :=
  ⟨"retry", .int 10, true, [.fileSystem, .network, .timeout], .retry policy⟩

/-- The built-in strategy of manual review. -/
def Strategy.fallback : Strategy :=
  ⟨"fallback", .int 50, false, [.parsing, .transformation, .businessLogic], .fallback⟩

/-- The built-in strategy of skipping. -/
def Strategy.skip : Strategy := ⟨"skip", .int 90, false, [.validation, .generation], .skip⟩

/-- Whether one strategy has to be tried before another: those that recover by themselves first,
then the smaller priority. -/
def Strategy.isBefore (a b : Strategy) : Usable Bool :=
  if a.autoRecoverable == b.autoRecoverable then
    if a.priority == b.priority then .ok false else a.priority.isLess b.priority
  else .ok a.autoRecoverable

/-- The strategies with one more, in the order in which they are tried.  If they have no order they
stay as they are, the new one last. -/
def registerStrategy (strategies : List Strategy) (s : Strategy) :
    List Strategy × Usable Unit :=
  match Sorting.sortBy Strategy.isBefore (strategies ++ [s]) with
  | .ok sorted => (sorted, .ok ())
  | .error t => (strategies ++ [s], .error t)

/-- The built-in strategies, in the order in which they are tried. -/
def builtinStrategies (policy : RetryPolicy) : List Strategy := [.retry policy, .fallback, .skip]

/-- An attempt at recovery: the delay that it waited, if it did, and what came of it. -/
structure RecoveryAttempt where
  waited : Option Json := none
  outcome : Usable Recovery

/-- The outcome of trying again after a delay. -/
def RetryPolicy.afterDelay (p : RetryPolicy) (attempt : Int) (delay : Json) : Usable Recovery := do
  let shown ← delay.twoPlaces
  return { success := true
           action := "retry"
           message := "Retrying after " ++ shown ++ "s (attempt " ++ toString (attempt + 1) ++
             "/" ++ p.maxAttempts.display ++ ")"
           data := [("attempt", .int (attempt + 1)), ("delay", .float (← delay.toReal))] }

/-- The outcome of trying no more. -/
def RetryPolicy.exhausted (p : RetryPolicy) (attempt : Int) : Recovery :=
  { success := false
    action := "retry"
    message := "Retry attempts exhausted (" ++ toString attempt ++ "/" ++ p.maxAttempts.display ++
      ")" }

/-- The delay to wait before trying again after a fault and the number of the attempt that failed,
or the outcome of trying no more. -/
def RetryPolicy.next (p : RetryPolicy) (f : Fault) : Usable (Except Recovery (Int × Json)) := do
  let attempt ← ((f.context.data.get? "attempt").getD (.int 1)).toInteger
  if ← p.shouldRetry attempt then return .ok (attempt, ← p.delayFor attempt)
  else return .error (p.exhausted attempt)

/-- Has an operation tried again after a fault, as far as the policy allows it. -/
def RetryPolicy.recover (p : RetryPolicy) (f : Fault) : RecoveryAttempt :=
  match p.next f with
  | .error t => { outcome := .error t }
  | .ok (.error r) => { outcome := .ok r }
  | .ok (.ok (attempt, delay)) => ⟨some delay, p.afterDelay attempt delay⟩

/-- What a strategy makes of a fault. -/
def Strategy.recover (s : Strategy) (f : Fault) : RecoveryAttempt :=
  match s.action with
  | .retry policy => policy.recover f
  | .fallback =>
    { outcome := .ok
        { success := true
          action := "fallback"
          message := "Marked for manual review: " ++ f.message
          data := [("fallback", .bool true)]
          requiresManualReview := true } }
  | .skip =>
    { outcome := .ok { success := true, action := "skip", message := "Skipped: " ++ f.message } }
  | .custom recover => { outcome := .ok (recover f) }

end ComponentMigration
