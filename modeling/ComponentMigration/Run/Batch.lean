import ComponentMigration.Fault.Recovery
import ComponentMigration.Sorting

/-!
# Work on many items

Items are worked on one after the other or in batches.

One after the other, a checkpoint comes before every item.  In batches, a checkpoint comes before
every batch and before every item is handed over; the items handed over are worked on even if a
later checkpoint fails, and results are reported when the whole batch is done.  A failure of an item
becomes its result, except for cancellation and an exceeded deadline, which end the work.
-/

namespace ComponentMigration

/-- How items are sorted and grouped. -/
structure Arrangement (α : Type) where
  sortKey : Option (α → Usable Json) := none
  groupKey : Option (α → String) := none

namespace Arrangement

/-- The items in the order of their sort keys; items with equal keys keep their order. -/
def sorted (a : Arrangement α) (items : List α) : Usable (List α) :=
  match a.sortKey with
  | none => .ok items
  | some key => do
    let pairs ← items.mapM fun x => do return (← key x, x)
    return (← Sorting.sortBy (fun p q => p.1.isLess q.1) pairs).map Prod.snd

/-- The sorted items in groups, which come in the order of their names. -/
def groups (a : Arrangement α) (sorted : List α) : List (List α) :=
  match a.groupKey with
  | none => [sorted]
  | some key => runsBy key (sorted.mergeSort fun x y => Text.le (key x) (key y))

/-- Cuts items into batches of at most `size`, none of which has items of two groups.  The size must
be an integer other than zero; with a negative size there are no batches. -/
def batches (a : Arrangement α) (size : Quantity) (items : List α) :
    Usable (List (List α)) := do
  let sorted ← a.sorted items
  let groups := a.groups sorted
  if groups.isEmpty then return []
  match size.int? with
  | none => .error (.notInteger size.sortName)
  | some n =>
    if n == 0 then .error ⟨.badValue, "range() arg 3 must not be zero", none⟩
    else if n < 0 then return []
    else return groups.flatMap (chunks n.toNat)

end Arrangement

/-- The result of one item. -/
structure TaskResult (β : Type) where
  key : String
  outcome : Except Fault β

/-- How many items are worked on at once, if any are, and how large batches are. -/
structure BatchLimits where
  parallel : Bool := false
  maxConcurrency : Quantity := 4
  batchSize : Quantity := 8
  deriving DecidableEq, Repr

/-- Limits as they are used: at least one. -/
def BatchLimits.atLeastOne (parallel : Bool) (maxConcurrency batchSize : Usable Quantity) :
    Usable BatchLimits := do
  let concurrency ← maxConcurrency
  let size ← batchSize
  return ⟨parallel, Quantity.greater 1 concurrency, Quantity.greater 1 size⟩

/-- Work on items: what is done with an item, its key, what comes before it, and who is told of its
result. -/
structure BatchJob (α β : Type) where
  work : α → Run β
  key : α → String
  checkpoint : Run Unit
  onResult : TaskResult β → Run Unit := fun _ => return ()

namespace BatchJob

/-- Works on one item through the recovery strategies. -/
def execute (job : BatchJob α β) (item : α) : Run (TaskResult β) := do
  let key := job.key item
  let outcome ← Run.attempt <|
    Run.withRecovery (do return ⟨key, .ok (← job.work item)⟩) { unit := some key }
      fun f _ => (⟨key, .error f⟩ : TaskResult β)
  match outcome with
  | .ok r => return r
  | .error (.fault f) =>
    if f.cls == .cancelled || f.cls == .phaseTimeout then Run.fault f
    else return ⟨key, .error f⟩
  | .error failure => throw failure

/-- Works on items one after the other. -/
def runSequential (job : BatchJob α β) : List α → Run (List (TaskResult β))
  | [] => return []
  | item :: rest => do
    job.checkpoint
    let r ← job.execute item
    job.onResult r
    let later ← job.runSequential rest
    return r :: later

/-- Hands items over until a checkpoint fails. -/
def submit (job : BatchJob α β) : List α → Run (List α × Option Failure)
  | [] => return ([], none)
  | item :: rest => do
    match ← Run.attempt job.checkpoint with
    | .error failure => return ([], some failure)
    | .ok () =>
      let (later, failure) ← job.submit rest
      return (item :: later, failure)

/-- Works on all items that were handed over; a failure of one does not keep the others from being
worked on. -/
def executeAll (job : BatchJob α β) : List α → Run (List (Except Failure (TaskResult β)))
  | [] => return []
  | item :: rest => do
    let r ← Run.attempt (job.execute item)
    let later ← job.executeAll rest
    return r :: later

/-- The results of a batch, or the first failure. -/
def collect : List (Except Failure (TaskResult β)) → Run (List (TaskResult β))
  | [] => return []
  | .ok r :: rest => do
    let later ← collect rest
    return r :: later
  | .error failure :: _ => throw failure

/-- Works on one batch. -/
def runBatch (job : BatchJob α β) (batch : List α) : Run (List (TaskResult β)) := do
  job.checkpoint
  let (submitted, failure) ← job.submit batch
  let outcomes ← job.executeAll submitted
  match failure with
  | some failure => throw failure
  | none =>
    let results ← collect outcomes
    results.forM job.onResult
    return results

/-- Works on batches. -/
def runBatches (job : BatchJob α β) : List (List α) → Run (List (TaskResult β))
  | [] => return []
  | batch :: rest => do
    let results ← job.runBatch batch
    let later ← job.runBatches rest
    return results ++ later

/-- Works on items as the limits and the arrangement say. -/
def run (job : BatchJob α β) (limits : BatchLimits) (arrangement : Arrangement α)
    (items : List α) : Run (List (TaskResult β)) := do
  if limits.parallel then job.runBatches (← Run.use (arrangement.batches limits.batchSize items))
  else job.runSequential (← Run.use (arrangement.sorted items))

end BatchJob

end ComponentMigration
