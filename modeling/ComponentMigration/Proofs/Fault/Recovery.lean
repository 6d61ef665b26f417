import ComponentMigration.Fault.Recovery
import ComponentMigration.Proofs.Assoc
import ComponentMigration.Proofs.Fault.RetryPolicy
import ComponentMigration.Proofs.Run.Exec

/-!
# Running an operation through the built-in strategies

An operation is seen as the outcomes of its successive calls.  `attempt_once_again` and
`attempt_once_settled` say what one attempt does with an outcome, and `loop_spec` carries it through
all attempts by induction on how many are left: every attempt but the last one ends in a fault after
which the operation is tried again, every failure is recorded once, and the delays waited are those
of the policy.
-/

namespace ComponentMigration

variable {α : Type}

namespace ErrorLog

/-- The log with faults recorded one after the other.  A fault that has been recorded before brings
its earlier records up to date. -/
def recordAll (log : ErrorLog) : List Fault → ErrorLog
  | [] => log
  | f :: rest => recordAll ((log.refresh f).add f).2 rest

/-- A fault as the log records it, with its serial number. -/
def stamp (log : ErrorLog) (f : Fault) : Fault :=
  { f with serial := some (f.serial.getD log.nextSerial) }

variable {log : ErrorLog} {f : Fault} {faults more : List Fault}

theorem record_all_cons :
    log.recordAll (f :: faults) = ((log.refresh f).add f).2.recordAll faults := rfl

theorem record_all_append :
    log.recordAll (faults ++ more) = (log.recordAll faults).recordAll more := by
  induction faults generalizing log with
  | nil => rfl
  | cons f rest ih => exact ih

@[simp] theorem refresh_strategies : (log.refresh f).strategies = log.strategies := by
  unfold refresh
  split <;> rfl

@[simp] theorem refresh_next_serial : (log.refresh f).nextSerial = log.nextSerial := by
  unfold refresh
  split <;> rfl

@[simp] theorem refresh_total : (log.refresh f).total = log.total := by
  unfold refresh
  split <;> rfl

theorem record_all_strategies : (log.recordAll faults).strategies = log.strategies := by
  induction faults generalizing log with
  | nil => rfl
  | cons f rest ih =>
      rw [record_all_cons, ih]
      exact refresh_strategies

/-- Every fault counts once. -/
theorem record_all_total : (log.recordAll faults).total = log.total + faults.length := by
  induction faults generalizing log with
  | nil => rfl
  | cons f rest ih =>
      rw [record_all_cons, ih, List.length_cons]
      show (log.refresh f).total + 1 + rest.length = _
      rw [refresh_total]
      omega

/-- Faults with serial numbers from one on. -/
def stampFrom (serial : Nat) : List Fault → List Fault
  | [] => []
  | f :: rest => { f with serial := some serial } :: stampFrom (serial + 1) rest

/-- What is cut off before more is added would have been cut off after it. -/
theorem keep_last_append (n : Nat) (kept added : List Fault) :
    keepLast n (keepLast n kept ++ added) = keepLast n (kept ++ added) := by
  simp only [keepLast, List.drop_append, List.drop_drop, List.length_append, List.length_drop]
  congr 2 <;> omega

theorem retained_append (log : ErrorLog) (kept added : List Fault) :
    log.retained (log.retained kept ++ added) = log.retained (kept ++ added) := by
  unfold retained
  split
  · exact keep_last_append _ kept added
  · rfl

/-- Faults that have not been recorded before are added to the history in order, each with a serial
number of its own; the history keeps the latest ones. -/
theorem record_all_history (hlog : log.retained log.history = log.history)
    (hfresh : ∀ f ∈ faults, f.serial = none) :
    (log.recordAll faults).history =
      log.retained (log.history ++ stampFrom log.nextSerial faults) := by
  induction faults generalizing log with
  | nil => simp [recordAll, stampFrom, hlog]
  | cons f rest ih =>
      have hserial : f.serial = none := hfresh f List.mem_cons_self
      have hrefresh : log.refresh f = log := by simp [refresh, hserial]
      have hadd : (log.add f).2 =
          { log with
            history := log.retained (log.history ++ [{ f with serial := some log.nextSerial }])
            total := log.total + 1
            nextSerial := log.nextSerial + 1 } := by
        simp [add, hserial]
      rw [record_all_cons, hrefresh, hadd, ih _ fun g hg => hfresh g (List.mem_cons_of_mem _ hg)]
      · show log.retained (log.retained _ ++ _) = _
        rw [retained_append, List.append_assoc]
        rfl
      · show log.retained (log.retained _) = log.retained _
        simpa using retained_append log (log.history ++ [{ f with serial := some log.nextSerial }]) []

end ErrorLog

/-- The fault that the failure of an attempt is classified as. -/
def Failure.classifiedAt (failure : Failure) (base : FaultContext) (i : Nat) : Fault :=
  failure.classify (some { base with data := base.data.set "attempt" (.int i) })

/-- A classified failure tells the attempt that it belongs to, whatever it told before. -/
theorem Failure.classified_at_is_of_attempt {failure : Failure} {base : FaultContext} {i : Nat}
    (hkeys : base.data.keys.Nodup) : (failure.classifiedAt base i).IsOfAttempt i := by
  unfold Fault.IsOfAttempt Failure.classifiedAt
  cases failure with
  | fault f =>
      exact Assoc.get?_update_of_get? (Assoc.nodup_keys_set hkeys) (Assoc.get?_set_self ..)
  | trouble t => exact Assoc.get?_set_self ..

/-- A fault after which the operation may be tried again. -/
def Fault.IsTransient (f : Fault) : Prop :=
  f.recoverable = true ∧ f.category ∈ [Category.fileSystem, .network, .timeout]

/-- What the built-in strategies make of a fault that is not tried again: a unit is marked for review
or skipped, or there is no recovery. -/
def Fault.absorption (f : Fault) : Option Recovery :=
  if f.recoverable = true then
    if f.category ∈ [Category.parsing, .transformation, .businessLogic] then
      some { success := true, action := "fallback",
             message := "Marked for manual review: " ++ f.message,
             data := [("fallback", .bool true)], requiresManualReview := true }
    else if f.category ∈ [Category.validation, .generation] ∧ f.severity ≠ .critical then
      some { success := true, action := "skip", message := "Skipped: " ++ f.message }
    else none
  else none

/-- The fault of an outcome that is to be recorded: cancellation is not. -/
def recordedFault (base : FaultContext) (i : Nat) : Except Failure α → Option Fault
  | .ok _ => none
  | .error failure =>
      if failure.isCancellation then none else some (failure.classifiedAt base i)

/-- The faults that are recorded for the calls from one on. -/
def recordedFaults (place : FaultContext) (outcomes : Nat → Except Failure α)
    (first count : Nat) : List Fault :=
  (List.range' first count).filterMap fun i => recordedFault place i (outcomes i)

/-- Whether another attempt may follow an outcome. -/
def MayRetry (base : FaultContext) (i : Nat) (outcome : Except Failure α) : Prop :=
  ∃ f ∈ recordedFault base i outcome, f.IsTransient

/-- What the outcome of the last attempt comes to.  `log` is the log before it. -/
def settle (base : FaultContext) (absorb : Fault → Recovery → α) (log : ErrorLog) (i : Nat) :
    Except Failure α → Except Failure α
  | .ok a => .ok a
  | .error failure =>
      if failure.isCancellation then .error failure
      else
        let f := log.stamp (failure.classifiedAt base i)
        match f.absorption with
        | some r => .ok (absorb f r)
        | none => .error (.fault f)

/-- An operation seen as the outcomes of its successive calls.  `After n` holds of the states in
which it has been called `n` times.  Neither the operation nor an observer touches the error log or
the delays waited. -/
structure OutcomeScript (operation : Run α) (context : RunContext)
    (outcomes : Nat → Except Failure α) (After : Nat → RunState → Prop) : Prop where
  call : ∀ n s, After n s → ∃ t, operation.exec context s = (outcomes (n + 1), t) ∧
    After (n + 1) t ∧ t.log = s.log ∧ t.slept = s.slept
  handled : ∀ n s log slept, After n s → After n { s with log := log, slept := slept }
  observed : ∀ observe ∈ context.observers, ∀ n f s, After n s →
    After n (observe f s) ∧ (observe f s).log = s.log ∧ (observe f s).slept = s.slept

namespace Run

variable {context : RunContext} {s : RunState} {f : Fault} {attempts i : Nat} {base cap : Float}

theorem exec_classify (failure : Failure) (place : Option FaultContext) :
    (classify failure place).exec context s =
      (.ok (failure.classify place), { s with log := s.log.refresh (failure.classify place) }) := by
  unfold classify
  simp only [exec_bind, exec_modify, exec_pure]

theorem exec_record (f : Fault) :
    (record f).exec context s =
      (.ok (s.log.stamp f), context.observers.foldl (fun t observe => observe (s.log.stamp f) t)
        { s with log := (s.log.add f).2 }) := by
  unfold record
  simp only [exec_bind, exec_read, exec_get]
  rfl

/-- Observers of a script leave the log, the delays and the number of calls alone. -/
theorem observers_spec {operation : Run α} {outcomes : Nat → Except Failure α}
    {After : Nat → RunState → Prop} (h : OutcomeScript operation context outcomes After)
    {n : Nat} (hafter : After n s) :
    let t := context.observers.foldl (fun t observe => observe f t) s
    After n t ∧ t.log = s.log ∧ t.slept = s.slept := by
  -- The induction runs over some of the observers, while the script speaks of all of them.
  obtain ⟨observers, hobservers⟩ : ∃ observers, observers = context.observers := ⟨_, rfl⟩
  have hsub : observers ⊆ context.observers := hobservers ▸ List.Subset.refl _
  rw [← hobservers]
  clear hobservers
  induction observers generalizing s with
  | nil => exact ⟨hafter, rfl, rfl⟩
  | cons observe rest ih =>
      obtain ⟨hnext, hlog, hslept⟩ := h.observed observe (hsub List.mem_cons_self) n f s hafter
      obtain ⟨hlast, hlog', hslept'⟩ := ih hnext fun o ho => hsub (List.mem_cons_of_mem _ ho)
      exact ⟨hlast, hlog'.trans hlog, hslept'.trans hslept⟩

/-- A strategy that does not apply is passed over. -/
theorem exec_recover_by_passed {strategy : Strategy} {rest : List Strategy}
    (h : strategy.canHandle f = false) :
    (recoverBy f (strategy :: rest)).exec context s = (recoverBy f rest).exec context s := by
  simp only [recoverBy, h, Bool.false_eq_true, if_false]

/-- A strategy that applies waits as long as it has to; if it succeeds, no other one is tried. -/
theorem exec_recover_by_applied {strategy : Strategy} {rest : List Strategy}
    {waited : Option Json} {r : Recovery} (h : strategy.canHandle f = true)
    (hrecover : strategy.recover f = ⟨waited, .ok r⟩) :
    (recoverBy f (strategy :: rest)).exec context s =
      if r.success = true then (.ok (some r), { s with slept := s.slept ++ waited.toList })
      else (recoverBy f rest).exec context { s with slept := s.slept ++ waited.toList } := by
  simp only [recoverBy, h, if_true, exec_bind, exec_modify, hrecover, exec_use_ok]
  split <;> rfl

/-- The retry strategy applies to the categories of transient faults. -/
theorem retry_can_handle {policy : RetryPolicy} :
    (Strategy.retry policy).canHandle f =
      decide (f.category ∈ [Category.fileSystem, .network, .timeout]) := by
  unfold Strategy.canHandle Strategy.retry
  simp

/-- A transient fault is waited after, unless it is that of the last attempt. -/
theorem exec_recover_again
    (hstrategies : s.log.strategies = builtinStrategies (.ofNumbers attempts base cap))
    (hf : f.IsTransient) (hattempt : f.IsOfAttempt i) (hpos : 1 ≤ i) (hle : i ≤ 1024)
    (hlt : i < attempts) :
    ∃ delay r, (RetryPolicy.ofNumbers attempts base cap).delayFor i = .ok delay ∧
      (recover f).exec context s = (.ok (some r), { s with slept := s.slept ++ [delay] }) ∧
      r.action = "retry" ∧ r.data.get? "attempt" = some (.int (i + 1)) := by
  obtain ⟨delay, r, hdelay, hrecover, hsuccess, haction, hdata⟩ :
      ∃ delay r, (RetryPolicy.ofNumbers attempts base cap).delayFor i = .ok delay ∧
        (RetryPolicy.ofNumbers attempts base cap).recover f = ⟨some delay, .ok r⟩ ∧
        r.success = true ∧ r.action = "retry" ∧ r.data.get? "attempt" = some (.int (i + 1)) :=
    RetryPolicy.recover_again hattempt hpos hle hlt
  refine ⟨delay, r, hdelay, ?_, haction, hdata⟩
  have hcan : (Strategy.retry (.ofNumbers attempts base cap)).canHandle f = true := by
    rw [retry_can_handle, decide_eq_true hf.2]
  unfold recover
  simp only [hf.1, if_true, exec_bind, exec_get, hstrategies, builtinStrategies]
  rw [exec_recover_by_applied hcan hrecover, if_pos hsuccess]
  rfl

/-- Review and skipping come to the absorption of a fault that is not transient. -/
theorem exec_recover_by_absorption (hrecoverable : f.recoverable = true) :
    (recoverBy f [.fallback, .skip]).exec context s = (.ok f.absorption, s) := by
  unfold Fault.absorption
  rw [if_pos hrecoverable]
  by_cases hreview : f.category ∈ [Category.parsing, .transformation, .businessLogic]
  · have hcan : Strategy.fallback.canHandle f = true := by
      simpa [Strategy.canHandle, Strategy.fallback] using hreview
    rw [exec_recover_by_applied hcan rfl, if_pos rfl, if_pos hreview]
    simp
  · have hcan : Strategy.fallback.canHandle f = false := by
      simpa [Strategy.canHandle, Strategy.fallback] using hreview
    rw [exec_recover_by_passed hcan, if_neg hreview]
    by_cases hskip : f.category ∈ [Category.validation, .generation] ∧ f.severity ≠ .critical
    · have hcan : Strategy.skip.canHandle f = true := by
        simpa [Strategy.canHandle, Strategy.skip] using hskip
      rw [exec_recover_by_applied hcan rfl, if_pos rfl, if_pos hskip]
      simp
    · have hcan : Strategy.skip.canHandle f = false := by
        simpa [Strategy.canHandle, Strategy.skip] using hskip
      rw [exec_recover_by_passed hcan, if_neg hskip]
      rfl

/-- A fault that is not tried again is absorbed or not, and nothing is waited for. -/
theorem exec_recover_absorption
    (hstrategies : s.log.strategies = builtinStrategies (.ofNumbers attempts base cap))
    (hattempt : f.IsOfAttempt i) (hf : ¬ f.IsTransient ∨ attempts ≤ i) :
    (recover f).exec context s = (.ok f.absorption, s) := by
  unfold recover
  by_cases hrecoverable : f.recoverable = true
  · simp only [hrecoverable, if_true, exec_bind, exec_get, hstrategies, builtinStrategies]
    by_cases hcategory : f.category ∈ [Category.fileSystem, .network, .timeout]
    -- The retry strategy applies but has given up, so the other strategies get their turn.
    · have hge : attempts ≤ i := hf.resolve_left fun hnot => hnot ⟨hrecoverable, hcategory⟩
      have hcan : (Strategy.retry (.ofNumbers attempts base cap)).canHandle f = true := by
        rw [retry_can_handle, decide_eq_true hcategory]
      have hrecover : (Strategy.retry (.ofNumbers attempts base cap)).recover f =
          { outcome := .ok ((RetryPolicy.ofNumbers attempts base cap).exhausted i) } :=
        RetryPolicy.recover_exhausted hattempt hge
      rw [exec_recover_by_applied hcan hrecover, if_neg (by simp [RetryPolicy.exhausted]),
        exec_recover_by_absorption hrecoverable]
      simp
    · have hcan : (Strategy.retry (.ofNumbers attempts base cap)).canHandle f = false := by
        rw [retry_can_handle, decide_eq_false hcategory]
      rw [exec_recover_by_passed hcan, exec_recover_by_absorption hrecoverable]
  · simp [hrecoverable, Fault.absorption]

theorem exec_next_attempt {r : Recovery} {k : Int} (h : r.data.get? "attempt" = some (.int k)) :
    (nextAttempt r).exec context s = (.ok k, s) := by
  simp only [nextAttempt, h, Json.toInteger, exec_pure]

section Attempts

variable {operation : Run α} {outcomes : Nat → Except Failure α} {After : Nat → RunState → Prop}
  {place : FaultContext} {absorb : Fault → Recovery → α} {n : Nat}

/-- What an attempt does with a failure before it looks for a recovery: the classified fault is
recorded and gets its serial number. -/
theorem exec_classify_record (h : OutcomeScript operation context outcomes After)
    (hafter : After n s) (place : FaultContext) (i : Nat) (failure : Failure) :
    ∃ t, (∀ next : Fault → Run (Attempted α),
      (classify failure (some { place with data := place.data.set "attempt" (.int i) }) >>=
        fun f => record f >>= next).exec context s =
          (next (s.log.stamp (failure.classifiedAt place i))).exec context t) ∧
      After n t ∧ t.log = s.log.recordAll [failure.classifiedAt place i] ∧ t.slept = s.slept := by
  have hbefore := h.handled n s ((s.log.refresh (failure.classifiedAt place i)).add
    (failure.classifiedAt place i)).2 s.slept hafter
  obtain ⟨hlast, hlog, hslept⟩ := observers_spec h hbefore
    (f := s.log.stamp (failure.classifiedAt place i))
  refine ⟨_, fun next => ?_, hlast, hlog, hslept⟩
  have hstamp : (s.log.refresh (failure.classifiedAt place i)).stamp (failure.classifiedAt place i) =
      s.log.stamp (failure.classifiedAt place i) := by
    simp [ErrorLog.stamp]
  simp only [exec_bind, exec_classify, exec_record]
  rw [← hstamp]
  rfl

/-- An attempt that may be followed by another one: its fault is recorded, the delay of the policy is
waited, and the next attempt is the one after it. -/
theorem attempt_once_again (h : OutcomeScript operation context outcomes After)
    (hkeys : place.data.keys.Nodup) (hafter : After n s)
    (hstrategies : s.log.strategies = builtinStrategies (.ofNumbers attempts base cap))
    (hretry : MayRetry place (n + 1) (outcomes (n + 1))) (hlt : n + 1 < attempts)
    (hattempts : attempts ≤ 1025) :
    ∃ t f delay, (RetryPolicy.ofNumbers attempts base cap).delayFor (n + 1 : Nat) = .ok delay ∧
      (attemptOnce operation place absorb (n + 1 : Nat)).exec context s =
        (.ok (.again f (n + 1 + 1 : Nat)), t) ∧
      After (n + 1) t ∧ t.slept = s.slept ++ [delay] ∧
      t.log = s.log.recordAll (recordedFault place (n + 1) (outcomes (n + 1))).toList := by
  obtain ⟨called, hcall, hcalled, hcalledLog, hcalledSlept⟩ := h.call n s hafter
  obtain ⟨f, hf, htransient⟩ := hretry
  cases houtcome : outcomes (n + 1) with
  | ok a => simp [houtcome, recordedFault] at hf
  | error failure =>
      by_cases hcancel : failure.isCancellation = true
      · simp [houtcome, recordedFault, hcancel] at hf
      · simp only [houtcome, recordedFault, hcancel, Bool.false_eq_true, if_false, Option.mem_def,
          Option.some.injEq] at hf
        subst hf
        obtain ⟨recorded, hexec, hlast, hlog, hslept⟩ :=
          exec_classify_record h hcalled place (n + 1) failure
        have hsame : recorded.log.strategies = builtinStrategies (.ofNumbers attempts base cap) := by
          rw [hlog, ErrorLog.record_all_strategies, hcalledLog, hstrategies]
        obtain ⟨delay, r, hdelay, hrecover, haction, hdata⟩ :=
          exec_recover_again hsame (f := called.log.stamp (failure.classifiedAt place (n + 1)))
            htransient (Failure.classified_at_is_of_attempt hkeys) (Nat.succ_pos n) (by omega) hlt
        refine ⟨{ recorded with slept := recorded.slept ++ [delay] },
          called.log.stamp (failure.classifiedAt place (n + 1)), delay, hdelay, ?_,
          h.handled _ _ recorded.log (recorded.slept ++ [delay]) hlast, ?_, ?_⟩
        · rw [attemptOnce, exec_bind, exec_attempt, hcall, houtcome]
          simp only [hcancel, Bool.false_eq_true, if_false]
          rw [hexec, exec_bind, hrecover]
          simp only [haction, beq_self_eq_true, if_true]
          rw [exec_bind, exec_next_attempt hdata]
          rfl
        · rw [hslept, hcalledSlept]
        · rw [hlog, hcalledLog]
          simp [recordedFault, hcancel]

/-- An absorbed fault is not tried again. -/
theorem action_of_absorption {r : Recovery} (h : f.absorption = some r) :
    (r.action == "retry") = false := by
  unfold Fault.absorption at h
  split at h
  · split at h
    · cases h
      rfl
    · split at h
      · cases h
        rfl
      · cases h
  · cases h

/-- An attempt that is the last one comes to what its outcome settles; nothing is waited for. -/
theorem attempt_once_settled (absorb : Fault → Recovery → α)
    (h : OutcomeScript operation context outcomes After)
    (hkeys : place.data.keys.Nodup) (hafter : After n s)
    (hstrategies : s.log.strategies = builtinStrategies (.ofNumbers attempts base cap))
    (hlast : ¬ MayRetry place (n + 1) (outcomes (n + 1)) ∨ attempts ≤ n + 1) :
    ∃ t, (attemptOnce operation place absorb (n + 1 : Nat)).exec context s =
        ((settle place absorb s.log (n + 1) (outcomes (n + 1))).map .finished, t) ∧
      After (n + 1) t ∧ t.slept = s.slept ∧
      t.log = s.log.recordAll (recordedFault place (n + 1) (outcomes (n + 1))).toList := by
  obtain ⟨called, hcall, hcalled, hcalledLog, hcalledSlept⟩ := h.call n s hafter
  cases houtcome : outcomes (n + 1) with
  | ok a =>
      refine ⟨called, ?_, hcalled, hcalledSlept, hcalledLog⟩
      rw [attemptOnce, exec_bind, exec_attempt, hcall, houtcome]
      rfl
  | error failure =>
      by_cases hcancel : failure.isCancellation = true
      · refine ⟨called, ?_, hcalled, hcalledSlept, ?_⟩
        · rw [attemptOnce, exec_bind, exec_attempt, hcall, houtcome]
          simp only [hcancel, if_true, exec_throw, settle]
          rfl
        · rw [hcalledLog]
          simp [recordedFault, hcancel, ErrorLog.recordAll]
      · obtain ⟨recorded, hexec, hrecorded, hlog, hslept⟩ :=
          exec_classify_record h hcalled place (n + 1) failure
        have hsame : recorded.log.strategies = builtinStrategies (.ofNumbers attempts base cap) := by
          rw [hlog, ErrorLog.record_all_strategies, hcalledLog, hstrategies]
        -- A serial number makes no difference to whether a fault is transient.
        have hnot : ¬ (called.log.stamp (failure.classifiedAt place (n + 1))).IsTransient ∨
            attempts ≤ n + 1 := by
          refine hlast.imp_left fun hno htransient =>
            hno ⟨failure.classifiedAt place (n + 1), ?_, htransient⟩
          simp [houtcome, recordedFault, hcancel]
        have hrecover : (recover (called.log.stamp (failure.classifiedAt place (n + 1)))).exec
            context recorded =
              (.ok (called.log.stamp (failure.classifiedAt place (n + 1))).absorption, recorded) :=
          exec_recover_absorption hsame (Failure.classified_at_is_of_attempt hkeys) hnot
        refine ⟨recorded, ?_, hrecorded, hslept.trans hcalledSlept, ?_⟩
        · rw [attemptOnce, exec_bind, exec_attempt, hcall, houtcome]
          simp only [hcancel, Bool.false_eq_true, if_false]
          rw [hexec, exec_bind, hrecover, hcalledLog]
          simp only [settle, hcancel, Bool.false_eq_true, if_false]
          cases habsorbed : (s.log.stamp (failure.classifiedAt place (n + 1))).absorption with
          | none => rfl
          | some r =>
              simp only [action_of_absorption habsorbed, Bool.false_eq_true, if_false]
              rfl
        · rw [hlog, hcalledLog]
          simp [recordedFault, hcancel]

theorem recorded_faults_succ (first count : Nat) :
    recordedFaults place outcomes first (count + 1) =
      (recordedFault place first (outcomes first)).toList ++
        recordedFaults place outcomes (first + 1) count := by
  unfold recordedFaults
  rw [List.range'_succ, List.filterMap_cons]
  cases recordedFault place first (outcomes first) <;> rfl

/-- How attempts went: `more` attempts followed the first one, each after a fault that may be tried
again, and the last one was the last allowed or ended otherwise.  The result is what its outcome
settles, every failure is recorded once, and the delays waited are those of the policy. -/
structure AttemptsRun (policy : RetryPolicy) (attempts : Nat) (place : FaultContext)
    (absorb : Fault → Recovery → α) (outcomes : Nat → Except Failure α) (first more : Nat)
    (s : RunState) (result : Except Failure α) (t : RunState) : Prop where
  retried : ∀ i, first ≤ i → i < first + more → MayRetry place i (outcomes i)
  ended : ¬ MayRetry place (first + more) (outcomes (first + more)) ∨ first + more = attempts
  result : result = settle place absorb
    (s.log.recordAll (recordedFaults place outcomes first more)) (first + more)
    (outcomes (first + more))
  log : t.log = s.log.recordAll (recordedFaults place outcomes first (more + 1))
  slept : ∃ delays, ((List.range' first more).mapM fun i : Nat => policy.delayFor i) = .ok delays ∧
    t.slept = s.slept ++ delays

/-- Attempts that follow one after which the operation is tried again. -/
theorem AttemptsRun.after_retry {policy : RetryPolicy} {first more : Nat} {u t : RunState}
    {result : Except Failure α} {delay : Json}
    (hretry : MayRetry place first (outcomes first))
    (hlog : u.log = s.log.recordAll (recordedFault place first (outcomes first)).toList)
    (hdelay : policy.delayFor first = .ok delay) (hslept : u.slept = s.slept ++ [delay])
    (h : AttemptsRun policy attempts place absorb outcomes (first + 1) more u result t) :
    AttemptsRun policy attempts place absorb outcomes first (more + 1) s result t := by
  have hlast : first + (more + 1) = first + 1 + more := by omega
  obtain ⟨delays, hdelays, hwaited⟩ := h.slept
  refine ⟨?_, by rw [hlast]; exact h.ended, ?_, ?_, delay :: delays, ?_, ?_⟩
  · intro i hi hlt
    rcases Nat.eq_or_lt_of_le hi with rfl | hi
    · exact hretry
    · exact h.retried i hi (by omega)
  · rw [h.result, hlast, recorded_faults_succ, ErrorLog.record_all_append, hlog]
  · rw [h.log, recorded_faults_succ first, ErrorLog.record_all_append, hlog]
  · rw [List.range'_succ, List.mapM_cons, hdelay, hdelays]
    rfl
  · rw [hwaited, hslept, List.append_assoc, List.singleton_append]

/-- An attempt that ends the attempts. -/
theorem loop_settled (absorb : Fault → Recovery → α)
    (h : OutcomeScript operation context outcomes After)
    (hkeys : place.data.keys.Nodup) (hafter : After n s) (fuel : Nat)
    (hstrategies : s.log.strategies = builtinStrategies (.ofNumbers attempts base cap))
    (hlast : ¬ MayRetry place (n + 1) (outcomes (n + 1)) ∨ n + 1 = attempts) :
    ∃ result t,
      (withRecovery.loop operation place absorb fuel (n + 1 : Nat)).exec context s = (result, t) ∧
      After (n + 1) t ∧
      AttemptsRun (.ofNumbers attempts base cap) attempts place absorb outcomes (n + 1) 0 s
        result t := by
  obtain ⟨t, hexec, hnext, hslept, hlog⟩ :=
    attempt_once_settled absorb h hkeys hafter hstrategies
      (hlast.imp_right fun heq => Nat.le_of_eq heq.symm)
  refine ⟨_, t, ?_, hnext, ⟨?_, hlast, rfl, ?_, [], rfl, ?_⟩⟩
  · show _ = (settle place absorb s.log (n + 1) (outcomes (n + 1)), t)
    generalize settle place absorb s.log (n + 1) (outcomes (n + 1)) = settled at hexec ⊢
    cases fuel <;> rw [withRecovery.loop, exec_bind, hexec] <;> cases settled <;> rfl
  · intro i hi hlt
    omega
  · rw [hlog, recorded_faults_succ]
    simp [recordedFaults]
  · simpa using hslept

/-- The attempts from one on, as many as are left, end with one of them. -/
theorem loop_spec (absorb : Fault → Recovery → α)
    (h : OutcomeScript operation context outcomes After)
    (hkeys : place.data.keys.Nodup) (hattempts : attempts ≤ 1025) (remaining fuel : Nat)
    (hremaining : n + 1 + remaining = attempts) (hfuel : remaining ≤ fuel) (hafter : After n s)
    (hstrategies : s.log.strategies = builtinStrategies (.ofNumbers attempts base cap)) :
    ∃ more result t, more ≤ remaining ∧
      (withRecovery.loop operation place absorb fuel (n + 1 : Nat)).exec context s = (result, t) ∧
      After (n + 1 + more) t ∧
      AttemptsRun (.ofNumbers attempts base cap) attempts place absorb outcomes (n + 1) more s
        result t := by
  -- The induction is on the attempts that are left; another one follows only if there are some.
  induction remaining generalizing n s fuel with
  | zero =>
      obtain ⟨result, t, hloop, hlast, hrun⟩ :=
        loop_settled absorb h hkeys hafter fuel hstrategies (Or.inr hremaining)
      exact ⟨0, result, t, Nat.le_refl 0, hloop, hlast, hrun⟩
  | succ remaining ih =>
      by_cases hretry : MayRetry place (n + 1) (outcomes (n + 1))
      · obtain ⟨u, f, delay, hdelay, hexec, hnext, hslept, hlog⟩ :=
          attempt_once_again h hkeys hafter hstrategies hretry (by omega) hattempts
        obtain ⟨fuel, rfl⟩ : ∃ fuel', fuel = fuel' + 1 := ⟨fuel - 1, by omega⟩
        have hsame : u.log.strategies = builtinStrategies (.ofNumbers attempts base cap) := by
          rw [hlog, ErrorLog.record_all_strategies, hstrategies]
        obtain ⟨more, result, t, hle, hloop, hlast, hrun⟩ :=
          ih fuel (by omega) (Nat.le_of_succ_le_succ hfuel) hnext hsame
        refine ⟨more + 1, result, t, by omega, ?_, ?_, hrun.after_retry hretry hlog hdelay hslept⟩
        · rw [withRecovery.loop, exec_bind, hexec]
          exact hloop
        · rw [show n + 1 + (more + 1) = n + 1 + 1 + more by omega]
          exact hlast
      · obtain ⟨result, t, hloop, hlast, hrun⟩ :=
          loop_settled absorb h hkeys hafter fuel hstrategies (Or.inl hretry)
        exact ⟨0, result, t, Nat.zero_le _, hloop, hlast, hrun⟩

/-- An operation under the built-in strategies is called as often as its attempts say. -/
theorem with_recovery_run (absorb : Fault → Recovery → α)
    (h : OutcomeScript operation context outcomes After) (hkeys : place.data.keys.Nodup)
    (hpos : 1 ≤ attempts) (hmax : attempts ≤ 1025) (hafter : After 0 s)
    (hstrategies : s.log.strategies = builtinStrategies (.ofNumbers attempts base cap)) :
    ∃ more result t, more + 1 ≤ attempts ∧
      (withRecovery operation place absorb).exec context s = (result, t) ∧ After (more + 1) t ∧
      AttemptsRun (.ofNumbers attempts base cap) attempts place absorb outcomes 1 more s
        result t := by
  have hlimit : attemptLimit s.log.strategies = attempts := by
    rw [hstrategies]
    simp [attemptLimit, builtinStrategies, Strategy.retry, Strategy.fallback, Strategy.skip]
  obtain ⟨more, result, t, hmore, hloop, hlast, hrun⟩ :=
    loop_spec absorb h hkeys hmax (attempts - 1) attempts (n := 0) (by omega) (by omega) hafter
      hstrategies
  refine ⟨more, result, t, by omega, ?_, ?_, hrun⟩
  · rw [withRecovery, exec_bind, exec_get]
    dsimp only
    rw [hlimit]
    exact hloop
  · rwa [Nat.zero_add, Nat.add_comm] at hlast

end Attempts

end Run

/-- A fault that review or skipping absorbs. -/
def Fault.IsAbsorbed (f : Fault) : Prop :=
  f.recoverable = true ∧ (f.category ∈ [Category.parsing, .transformation, .businessLogic] ∨
    f.category ∈ [Category.validation, .generation] ∧ f.severity ≠ .critical)

theorem Fault.absorption_of_is_absorbed {f : Fault} (h : f.IsAbsorbed) :
    ∃ r, f.absorption = some r ∧ r.success = true := by
  unfold Fault.absorption
  rw [if_pos h.1]
  split
  · exact ⟨_, rfl, rfl⟩
  · next hreview =>
      rw [if_pos (h.2.resolve_left hreview)]
      exact ⟨_, rfl, rfl⟩

theorem Fault.absorption_of_not_is_absorbed {f : Fault} (h : ¬ f.IsAbsorbed) :
    f.absorption = none := by
  unfold Fault.absorption
  split
  · next hrecoverable =>
      rw [if_neg fun hreview => h ⟨hrecoverable, Or.inl hreview⟩,
        if_neg fun hskip => h ⟨hrecoverable, Or.inr hskip⟩]
  · rfl

/-- An operation under the built-in strategies is called until its outcome is not a transient fault,
at most as often as the policy allows.  Every failure but cancellation is recorded, in order, and the
delays between the calls are those of the policy.  The last outcome is the result: its value, what
`fallback` or else `default` makes of a fault that is absorbed, or the failure. -/
theorem with_recovery_spec {operation : Run α} {context : RunContext}
    {outcomes : Nat → Except Failure α} {After : Nat → RunState → Prop}
    (h : OutcomeScript operation context outcomes After) (attempts : Nat) (hpos : 1 ≤ attempts)
    (hmax : attempts ≤ 1025) (base cap : Float) (place : FaultContext)
    (hkeys : place.data.keys.Nodup) (fallback : Option (Fault → Recovery → α)) (default : α)
    (s : RunState) (hstart : After 0 s)
    (hstrategies : s.log.strategies = builtinStrategies (.ofNumbers attempts base cap)) :
    ∃ k result t, 1 ≤ k ∧ k ≤ attempts ∧
      (Run.withRecovery operation place (fallback.getD fun _ _ => default)).exec context s =
        (result, t) ∧
      After k t ∧
      (∀ i, 1 ≤ i → i < k → MayRetry place i (outcomes i)) ∧
      (¬ MayRetry place k (outcomes k) ∨ k = attempts) ∧
      t.log = s.log.recordAll (recordedFaults place outcomes 1 k) ∧
      t.log.total = s.log.total + (recordedFaults place outcomes 1 k).length ∧
      (s.log.retained s.log.history = s.log.history →
        (∀ f ∈ recordedFaults place outcomes 1 k, f.serial = none) →
          t.log.history = s.log.retained (s.log.history ++
            ErrorLog.stampFrom s.log.nextSerial (recordedFaults place outcomes 1 k))) ∧
      (∃ delays, ((List.range' 1 (k - 1)).mapM fun i : Nat =>
          (RetryPolicy.ofNumbers attempts base cap).delayFor i) = .ok delays ∧
        t.slept = s.slept ++ delays) ∧
      (∀ a, outcomes k = .ok a → result = .ok a) ∧
      (∀ failure, outcomes k = .error failure → failure.isCancellation = true →
        result = .error failure) ∧
      (∀ failure, outcomes k = .error failure → failure.isCancellation = false →
        let f := (s.log.recordAll (recordedFaults place outcomes 1 (k - 1))).stamp
          (failure.classifiedAt place k)
        (f.IsAbsorbed → ∃ r, f.absorption = some r ∧
          result = .ok (match fallback with
            | some make => make f r
            | none => default)) ∧
        (¬ f.IsAbsorbed → result = .error (.fault f))) := by
  have hlimit : Run.attemptLimit s.log.strategies = attempts := by
    rw [hstrategies]
    simp [Run.attemptLimit, builtinStrategies, Strategy.retry, Strategy.fallback, Strategy.skip]
  obtain ⟨more, result, t, hle, hloop, hlast, hrun⟩ :=
    Run.loop_spec (fallback.getD fun _ _ => default) h hkeys hmax (attempts - 1) attempts
      (n := 0) (by omega) (by omega) hstart hstrategies
  have hk : more + 1 = 0 + 1 + more := by omega
  have hlog : t.log = s.log.recordAll (recordedFaults place outcomes 1 (more + 1)) := hrun.log
  have hresult : result = settle place (fallback.getD fun _ _ => default)
      (s.log.recordAll (recordedFaults place outcomes 1 more)) (more + 1) (outcomes (more + 1)) := by
    rw [hk]
    exact hrun.result
  refine ⟨more + 1, result, t, Nat.succ_pos more, by omega, ?_, hk ▸ hlast, ?_, ?_, hlog, ?_, ?_,
    hrun.slept, ?_, ?_, ?_⟩
  · rw [Run.withRecovery, Run.exec_bind, Run.exec_get]
    show (Run.withRecovery.loop _ _ _ (Run.attemptLimit s.log.strategies) 1).exec context s = _
    rw [hlimit]
    exact hloop
  · intro i hi hlt
    exact hrun.retried i hi (by omega)
  · rw [hk]
    exact hrun.ended
  · rw [hlog, ErrorLog.record_all_total]
  · intro hretained hfresh
    rw [hlog, ErrorLog.record_all_history hretained hfresh]
  · intro a ha
    rw [hresult, ha, settle]
  · intro failure hfailure hcancel
    rw [hresult, hfailure, settle, if_pos hcancel]
  · intro failure hfailure hcancel
    rw [hfailure, settle, if_neg (by simp [hcancel])] at hresult
    refine ⟨fun habsorbed => ?_, fun hnot => ?_⟩
    · obtain ⟨r, hr, -⟩ := Fault.absorption_of_is_absorbed habsorbed
      refine ⟨r, hr, ?_⟩
      simp only [Nat.add_sub_cancel] at hr
      simp only [hresult, hr]
      cases fallback <;> rfl
    · have hnone := Fault.absorption_of_not_is_absorbed hnot
      simp only [Nat.add_sub_cancel] at hnone
      simp only [hresult, hnone, Nat.add_sub_cancel]

/-- The outcomes of an operation that fails over a file and then over its notation.  The first fault
claims to be that of a ninth attempt. -/
def fileThenNotation : Nat → Except Failure String
  | 1 => .error (.fault (.of .fileSystem "locked" { data := [("attempt", .int 9)] }))
  | _ => .error (.fault (.of .parsing "garbled"))

/-- An operation with these outcomes, which counts its calls by the readings of the clock. -/
def runFileThenNotation : Run String := do
  let s ← get
  set { s with token := { s.token with readings := s.token.readings + 1 } }
  match fileThenNotation (s.token.readings + 1) with
  | .ok a => return a
  | .error failure => throw failure

theorem with_recovery_spec_file_then_notation :
    ∃ t, (Run.withRecovery runFileThenNotation {} fun f _ => f.message).exec
        { grammar := fun _ _ => default } {} = (.ok "garbled", t) ∧
      t.token.readings = 2 ∧ t.log.total = 2 ∧ t.slept.length = 1 := by
  have hscript : OutcomeScript runFileThenNotation { grammar := fun _ _ => default }
      fileThenNotation fun n s => s.token.readings = n := by
    refine ⟨fun n s hn => ?_, fun n s log slept hn => hn, fun observe hmem => by cases hmem⟩
    subst hn
    refine ⟨{ s with token := { s.token with readings := s.token.readings + 1 } }, ?_, rfl, rfl, rfl⟩
    simp only [runFileThenNotation, Run.exec_bind, Run.exec_get, Run.exec_set]
    cases fileThenNotation (s.token.readings + 1) <;> rfl
  have hfirst : MayRetry {} 1 (fileThenNotation 1) := ⟨_, rfl, rfl, by decide⟩
  have hsecond : ¬ MayRetry {} 2 (fileThenNotation 2) := by
    rintro ⟨f, hf, -, hcategory⟩
    cases hf
    exact absurd hcategory (by decide)
  obtain ⟨k, result, t, hpos, hle, hexec, hafter, hretried, hended, hlog, htotal, -, hslept, -, -,
      hfailed⟩ :=
    with_recovery_spec hscript 3 (by decide) (by decide) 1.0 10.0 {} List.nodup_nil
      (some fun f _ => f.message) "" {} rfl rfl
  have hk : k = 2 := by
    have hone : k ≠ 1 := by
      rintro rfl
      exact hended.elim (fun hnot => hnot hfirst) (by decide)
    have hthree : k ≠ 3 := by
      rintro rfl
      exact hsecond (hretried 2 (by decide) (by decide))
    omega
  subst hk
  obtain ⟨r, -, hresult⟩ := (hfailed _ rfl rfl).1 ⟨rfl, by decide⟩
  obtain ⟨delays, hdelays, hwaited⟩ := hslept
  obtain ⟨delay, hdelay⟩ : ∃ delay, (RetryPolicy.ofNumbers 3 1.0 10.0).delayFor (1 : Nat) =
      .ok (.float delay) := RetryPolicy.delay_for_of_numbers (by decide) (by decide)
  refine ⟨t, ?_, hafter, htotal, ?_⟩
  · rw [hresult] at hexec
    exact hexec
  · rw [show List.range' 1 (2 - 1) = [1] from rfl, List.mapM_cons, hdelay] at hdelays
    cases hdelays
    rw [hwaited]
    rfl

end ComponentMigration
