import ComponentMigration.Proofs.Run.Batch

/-!
# What has been done when a job ends

A job that is ended by a failure gives no results, but it has come to some, and some of them have
been told.  `BatchJob.ledger` writes both down in order.  An item has come to a result of its own
exactly if an attempt at it has returned a value (`execute_eq_ok_iff_returns`), and the results that
are told are those that the listener has been given (`Tracks.run`).

One after the other, every result is told before the next item is worked on.  In batches results are
told when the whole batch is done, so a failure keeps those of its batch from being told
(`BatchJob.run_interrupted`).
-/

namespace ComponentMigration

variable {α β γ δ : Type}

namespace Run

variable {operation : Run α} {place : FaultContext} {absorb : Fault → Recovery → α}
  {context : RunContext} {fuel : Nat} {i : Int} {s t u : RunState} {a : α}

/-- In the course of attempts from one state, an operation is called in another one. -/
inductive Calls (operation : Run α) (place : FaultContext) (absorb : Fault → Recovery → α)
    (context : RunContext) : Nat → Int → RunState → RunState → Prop where
  | first {fuel : Nat} {i : Int} {s : RunState} : Calls operation place absorb context fuel i s s
  | again {fuel : Nat} {i next : Int} {s t u : RunState} {f : Fault}
      (hexec : (attemptOnce operation place absorb i).exec context s = (.ok (.again f next), t))
      (hcalls : Calls operation place absorb context fuel next t u) :
      Calls operation place absorb context (fuel + 1) i s u

/-- An attempt at an operation that returns a value comes to that value. -/
theorem exec_attempt_once_of_ok (h : operation.exec context s = (.ok a, t)) :
    (attemptOnce operation place absorb i).exec context s = (.ok (.finished a), t) := by
  simp only [attemptOnce, exec_bind, exec_attempt, h, exec_pure]

/-- An attempt that is finished has returned a value, or a fault was absorbed. -/
theorem returned_of_finished
    (h : (attemptOnce operation place absorb i).exec context s = (.ok (.finished a), t)) :
    operation.exec context s = (.ok a, t) ∨ ∃ f r, a = absorb f r := by
  unfold attemptOnce at h
  obtain ⟨outcome, u, houtcome, h⟩ := exec_bind_eq_ok.mp h
  cases outcome with
  | ok value =>
      cases h
      rw [exec_attempt] at houtcome
      cases hexec : operation.exec context s with
      | mk result v =>
          rw [hexec] at houtcome
          cases houtcome
          exact Or.inl rfl
  | error failure =>
      dsimp only at h
      split at h
      · cases h
      · obtain ⟨f, _, _, h⟩ := exec_bind_eq_ok.mp h
        obtain ⟨f, _, _, h⟩ := exec_bind_eq_ok.mp h
        obtain ⟨recovery, _, _, h⟩ := exec_bind_eq_ok.mp h
        cases recovery with
        | none => cases h
        | some r =>
            dsimp only at h
            split at h
            · obtain ⟨next, _, _, h⟩ := exec_bind_eq_ok.mp h
              cases h
            · cases h
              exact Or.inr ⟨f, r, rfl⟩

/-- A value that a call returns is what the attempts come to. -/
theorem Calls.exec_loop (hcalls : Calls operation place absorb context fuel i s u)
    (h : operation.exec context u = (.ok a, t)) :
    (withRecovery.loop operation place absorb fuel i).exec context s = (.ok a, t) := by
  induction hcalls with
  | first =>
      next fuel i s =>
        cases fuel <;>
          rw [withRecovery.loop, exec_bind, exec_attempt_once_of_ok h] <;> rfl
  | again hexec _ ih =>
      rw [withRecovery.loop, exec_bind, hexec]
      exact ih h

/-- What the attempts come to has been returned by a call, or is made of a fault. -/
theorem calls_of_exec_loop
    (h : (withRecovery.loop operation place absorb fuel i).exec context s = (.ok a, t)) :
    (∃ u, Calls operation place absorb context fuel i s u ∧ operation.exec context u = (.ok a, t)) ∨
      ∃ f r, a = absorb f r := by
  induction fuel generalizing i s with
  | zero =>
      rw [withRecovery.loop] at h
      obtain ⟨attempted, u, hattempt, h⟩ := exec_bind_eq_ok.mp h
      cases attempted with
      | finished value =>
          cases h
          exact (returned_of_finished hattempt).imp_left fun hexec => ⟨s, .first, hexec⟩
      | again f next => cases h
  | succ fuel ih =>
      rw [withRecovery.loop] at h
      obtain ⟨attempted, u, hattempt, h⟩ := exec_bind_eq_ok.mp h
      cases attempted with
      | finished value =>
          cases h
          exact (returned_of_finished hattempt).imp_left fun hexec => ⟨s, .first, hexec⟩
      | again f next =>
          rcases ih h with ⟨v, hcalls, hexec⟩ | habsorbed
          · exact Or.inl ⟨v, .again hattempt hcalls, hexec⟩
          · exact Or.inr habsorbed

end Run

/-- What has been done on items: the results that they have come to and the results that have been
told. -/
@[ext]
structure Ledger (β : Type) where
  worked : List (TaskResult β) := []
  told : List (TaskResult β) := []

namespace Ledger

/-- What is done after something else. -/
def append (first second : Ledger β) : Ledger β :=
  ⟨first.worked ++ second.worked, first.told ++ second.told⟩

/-- What is done with the value of a computation; nothing is if it fails. -/
def after (x : Run γ) (context : RunContext) (s : RunState) (next : γ → RunState → Ledger β) :
    Ledger β :=
  match x.exec context s with
  | (.ok c, t) => next c t
  | (.error _, _) => {}

variable {x : Run γ} {context : RunContext} {s t : RunState} {next : γ → RunState → Ledger β}

theorem after_of_ok {c : γ} (h : x.exec context s = (.ok c, t)) :
    after x context s next = next c t := by
  rw [after, h]

theorem after_of_error {failure : Failure} (h : x.exec context s = (.error failure, t)) :
    after x context s next = {} := by
  rw [after, h]

/-- What holds of nothing and of what is done with a value holds after a computation. -/
theorem after_of_forall {P : Ledger β → Prop} (herror : P {})
    (hok : ∀ c t, x.exec context s = (.ok c, t) → P (next c t)) : P (after x context s next) := by
  unfold after
  split
  · next c t hexec => exact hok c t hexec
  · exact herror

/-- How a computation ends together with what is done after it. -/
theorem meets_after {f : γ → Run δ} {Q : Ledger β → δ → RunState → Prop}
    {E : Ledger β → RunState → Prop}
    (h : x.Meets context s (fun c t => (f c).Meets context t (Q (next c t)) (E (next c t)))
      (E {})) :
    (x >>= f).Meets context s (Q (after x context s next)) (E (after x context s next)) := by
  unfold Run.Meets at h
  rw [Run.Meets, Run.exec_bind]
  cases hexec : x.exec context s with
  | mk result t =>
      rw [hexec] at h
      cases result with
      | ok c =>
          rw [after_of_ok hexec]
          exact h
      | error failure =>
          rw [after_of_error hexec]
          exact h

end Ledger

/-- The items in the order in which they are worked on. -/
def BatchLimits.order (limits : BatchLimits) (arrangement : Arrangement α) (items : List α) :
    Usable (List α) :=
  if limits.parallel then List.flatten <$> arrangement.batches limits.batchSize items
  else arrangement.sorted items

namespace BatchJob

/-- Work on an item with the result that its value is. -/
def valueResult (job : BatchJob α β) (item : α) : Run (TaskResult β) := do
  return ⟨job.key item, .ok (← job.work item)⟩

/-- The result of an item whose fault is absorbed. -/
def faultResult (job : BatchJob α β) (item : α) (f : Fault) (_ : Recovery) : TaskResult β :=
  ⟨job.key item, .error f⟩

/-- Work on an item returns a value in one of the attempts at it, the first of them from a given
state. -/
def Returns (job : BatchJob α β) (item : α) (context : RunContext) (s : RunState) (b : β)
    (t : RunState) : Prop :=
  ∃ u, Run.Calls (job.valueResult item) { unit := some (job.key item) } (job.faultResult item)
      context (Run.attemptLimit s.log.strategies) 1 s u ∧
    (job.work item).exec context u = (.ok b, t)

/-- What is done with the results of a batch: they are told until that fails. -/
def tellLedger (job : BatchJob α β) (context : RunContext) :
    List (TaskResult β) → RunState → Ledger β
  | [], _ => {}
  | r :: rest, s => .append { told := [r] }
      (.after (job.onResult r) context s fun _ t => job.tellLedger context rest t)

/-- What is done on items one after the other. -/
def sequentialLedger (job : BatchJob α β) (context : RunContext) : List α → RunState → Ledger β
  | [], _ => {}
  | item :: rest, s =>
    .after job.checkpoint context s fun _ t =>
    .after (job.execute item) context t fun r u => .append ⟨[r], [r]⟩
      (.after (job.onResult r) context u fun _ v => job.sequentialLedger context rest v)

/-- What is done on a batch. -/
def batchLedger (job : BatchJob α β) (context : RunContext) (batch : List α) (s : RunState) :
    Ledger β :=
  .after job.checkpoint context s fun _ t =>
  .after (job.submit batch) context t fun handed u =>
  .after (job.executeAll handed.1) context u fun outcomes v =>
    .append { worked := outcomes.filterMap Except.toOption } <|
      match handed.2 with
      | some _ => {}
      | none => .after (collect outcomes) context v (job.tellLedger context)

/-- What is done on batches. -/
def batchesLedger (job : BatchJob α β) (context : RunContext) :
    List (List α) → RunState → Ledger β
  | [], _ => {}
  | batch :: rest, s => .append (job.batchLedger context batch s)
      (.after (job.runBatch batch) context s fun _ t => job.batchesLedger context rest t)

/-- What is done on items as the limits and the arrangement say. -/
def ledger (job : BatchJob α β) (limits : BatchLimits) (arrangement : Arrangement α)
    (items : List α) (context : RunContext) (s : RunState) : Ledger β :=
  if limits.parallel then
    .after (Run.use (arrangement.batches limits.batchSize items)) context s
      (job.batchesLedger context)
  else
    .after (Run.use (arrangement.sorted items)) context s (job.sequentialLedger context)

variable {job : BatchJob α β} {limits : BatchLimits} {arrangement : Arrangement α}
  {items list batch : List α} {batches : List (List α)} {context : RunContext} {s t : RunState}
  {results told : List (TaskResult β)} {failure : Failure}

/-- Work on an item comes to what its attempts come to, but for a fault that ends no job. -/
theorem exec_execute (item : α) :
    (job.execute item).exec context s =
      match (Run.withRecovery (job.valueResult item) { unit := some (job.key item) }
        (job.faultResult item)).exec context s with
      | (.ok r, t) => (.ok r, t)
      | (.error (.fault f), t) =>
        if f.cls == .cancelled || f.cls == .phaseTimeout then (.error (.fault f), t)
        else (.ok ⟨job.key item, .error f⟩, t)
      | (.error failure, t) => (.error failure, t) := by
  change (Run.attempt (Run.withRecovery (job.valueResult item) { unit := some (job.key item) }
    (job.faultResult item)) >>= _).exec context s = _
  rw [Run.exec_bind, Run.exec_attempt]
  cases (Run.withRecovery (job.valueResult item) { unit := some (job.key item) }
      (job.faultResult item)).exec context s with
  | mk result u =>
      cases result with
      | ok r => rfl
      | error failure =>
          cases failure with
          | trouble _ => rfl
          | fault f =>
              dsimp only
              split <;> rfl

/-- An item comes to a value exactly if work on it returns that value in one of the attempts. -/
theorem execute_eq_ok_iff_returns {item : α} {key : String} {b : β} :
    (job.execute item).exec context s = (.ok ⟨key, .ok b⟩, t) ↔
      key = job.key item ∧ job.Returns item context s b t := by
  rw [exec_execute]
  constructor
  · intro h
    split at h
    · next r u hexec =>
        cases h
        rcases Run.calls_of_exec_loop hexec with ⟨u, hcalls, hreturned⟩ | ⟨f, _, habsorbed⟩
        · obtain ⟨value, v, hwork, hvalue⟩ := Run.exec_bind_eq_ok.mp hreturned
          cases hvalue
          exact ⟨rfl, u, hcalls, hwork⟩
        · cases habsorbed
    · split at h <;> cases h
    · cases h
  · rintro ⟨rfl, u, hcalls, hwork⟩
    have hloop : (Run.withRecovery (job.valueResult item) { unit := some (job.key item) }
        (job.faultResult item)).exec context s = (.ok ⟨job.key item, .ok b⟩, t) :=
      hcalls.exec_loop (Run.exec_bind_of_ok hwork)
    rw [hloop]

/-- Nothing is asked of the parts of a job. -/
theorem conduct_trivial (job : BatchJob α β) (items : List α) (context : RunContext) :
    job.Conduct items context True (fun _ _ _ => True) fun _ => True where
  lasting _ _ _ := ⟨fun _ _ _ _ => trivial, fun _ _ _ _ _ => trivial⟩
  checkpoint _ := Run.meets_trivial.mono (fun _ _ h => h) fun _ _ => ⟨trivial, trivial⟩
  work _ _ _ := Run.meets_trivial.mono (fun _ _ h => h) fun _ _ => ⟨trivial, trivial⟩
  absorbed _ _ _ _ _ := trivial
  tell _ _ _ := Run.meets_trivial
  failed _ _ := trivial

/-- A result is that of the item worked on. -/
theorem key_of_execute {item : α} {r : TaskResult β}
    (h : (job.execute item).exec context s = (.ok r, t)) : r.key = job.key item := by
  have hmeets := @Conduct.execute α β job [item] context True _ _ [] [] s
    (job.conduct_trivial [item] context) item List.mem_cons_self trivial
  rw [Run.Meets, h] at hmeets
  exact hmeets.1

/-- The results of a batch are those of its items in order. -/
theorem keys_of_run_batch (h : (job.runBatch batch).exec context s = (.ok results, t)) :
    results.map (·.key) = batch.map job.key := by
  have hmeets := @Handles.run_batch α β job batch context True _ _ [] s
    (job.conduct_trivial batch context).handles batch (fun _ hitem => hitem) trivial
  rw [Run.Meets, h] at hmeets
  exact hmeets.1

/-- The results of batches are those of their items in order. -/
theorem keys_of_run_batches (h : (job.runBatches batches).exec context s = (.ok results, t)) :
    results.map (·.key) = batches.flatten.map job.key := by
  have hmeets := @Handles.run_batches α β job batches.flatten context True _ _ [] s
    (job.conduct_trivial batches.flatten context).handles batches (fun _ hitem => hitem) trivial
  rw [Run.Meets, h] at hmeets
  exact hmeets.1

section Telling

/-- Results that are told without a failure are all told. -/
theorem tell_ledger_of_ok (h : Run.exec (results.forM job.onResult) context s = (.ok (), t)) :
    job.tellLedger context results s = { told := results } := by
  induction results generalizing s with
  | nil => rfl
  | cons r rest ih =>
      obtain ⟨_, u, htell, h⟩ := Run.exec_bind_eq_ok.mp h
      rw [tellLedger, Ledger.after_of_ok htell, ih h]
      rfl

/-- If telling results fails, those up to the one that could not be told have been told. -/
theorem tell_ledger_of_error
    (h : Run.exec (results.forM job.onResult) context s = (.error failure, t)) :
    ∃ heard r unheard u, results = heard ++ r :: unheard ∧
      job.tellLedger context results s = { told := heard ++ [r] } ∧
      (job.onResult r).exec context u = (.error failure, t) := by
  induction results generalizing s with
  | nil => cases h
  | cons r rest ih =>
      rcases Run.exec_bind_eq_error.mp h with htell | ⟨_, u, htell, h⟩
      · refine ⟨[], r, rest, s, rfl, ?_, htell⟩
        rw [tellLedger, Ledger.after_of_error htell]
        rfl
      · obtain ⟨heard, r', unheard, v, rfl, hledger, hfailed⟩ := ih h
        refine ⟨r :: heard, r', unheard, v, rfl, ?_, hfailed⟩
        rw [tellLedger, Ledger.after_of_ok htell, hledger]
        rfl

end Telling

section Sequential

/-- The results that some items have come to are told already, in the order of the items. -/
structure ToldAtOnce (job : BatchJob α β) (list : List α) (done : Ledger β) : Prop where
  told : done.told = done.worked
  keys : done.told.map (·.key) <+: list.map job.key

theorem told_at_once_empty (job : BatchJob α β) (list : List α) : job.ToldAtOnce list {} :=
  ⟨rfl, List.nil_prefix⟩

/-- One after the other, results are told at once. -/
theorem sequential_ledger_told_at_once (job : BatchJob α β) (context : RunContext) (list : List α)
    (s : RunState) : job.ToldAtOnce list (job.sequentialLedger context list s) := by
  induction list generalizing s with
  | nil => exact job.told_at_once_empty []
  | cons item rest ih =>
      have hempty := job.told_at_once_empty (item :: rest)
      refine Ledger.after_of_forall hempty fun _ t _ => ?_
      refine Ledger.after_of_forall hempty fun r u hexecute => ?_
      have hkey : r.key = job.key item := key_of_execute hexecute
      obtain ⟨htold, hkeys⟩ : job.ToldAtOnce rest (.after (job.onResult r) context u
          fun _ v => job.sequentialLedger context rest v) :=
        Ledger.after_of_forall (job.told_at_once_empty rest) fun _ v _ => ih v
      exact ⟨congrArg (r :: ·) htold, List.cons_prefix_cons.mpr ⟨hkey, hkeys⟩⟩

end Sequential

section Batches

/-- The items handed over are the first of a batch. -/
theorem handed_first {handed : List α × Option Failure}
    (h : (job.submit batch).exec context s = (.ok handed, t)) : handed.1 <+: batch := by
  induction batch generalizing s handed with
  | nil =>
      cases h
      exact List.prefix_rfl
  | cons item rest ih =>
      obtain ⟨outcome, u, -, h⟩ := Run.exec_bind_eq_ok.mp h
      cases outcome with
      | error failure =>
          cases h
          exact List.nil_prefix
      | ok _ =>
          obtain ⟨later, v, hlater, h⟩ := Run.exec_bind_eq_ok.mp h
          cases h
          exact List.cons_prefix_cons.mpr ⟨rfl, ih hlater⟩

/-- The results that have come out are those of items that were worked on, in their order. -/
theorem worked_sublist {outcomes : List (Except Failure (TaskResult β))}
    (h : (job.executeAll list).exec context s = (.ok outcomes, t)) :
    ((outcomes.filterMap Except.toOption).map (·.key)).Sublist (list.map job.key) := by
  induction list generalizing s outcomes with
  | nil =>
      cases h
      exact List.Sublist.refl _
  | cons item rest ih =>
      obtain ⟨outcome, u, houtcome, h⟩ := Run.exec_bind_eq_ok.mp h
      obtain ⟨later, v, hlater, h⟩ := Run.exec_bind_eq_ok.mp h
      cases h
      rw [Run.exec_attempt] at houtcome
      cases outcome with
      | error failure => exact (ih hlater).cons _
      | ok r =>
          cases hexecute : (job.execute item).exec context s with
          | mk result w =>
              rw [hexecute] at houtcome
              cases houtcome
              rw [List.map_cons, ← key_of_execute hexecute]
              exact (ih hlater).cons_cons _

/-- Outcomes that are collected are results. -/
theorem eq_map_ok_of_collect {outcomes : List (Except Failure (TaskResult β))}
    (h : (collect outcomes).exec context s = (.ok results, t)) :
    outcomes = results.map .ok ∧ t = s := by
  induction outcomes generalizing results with
  | nil =>
      cases h
      exact ⟨rfl, rfl⟩
  | cons outcome rest ih =>
      cases outcome with
      | error failure => cases h
      | ok r =>
          obtain ⟨later, u, hlater, h⟩ := Run.exec_bind_eq_ok.mp h
          cases h
          obtain ⟨rfl, rfl⟩ := ih hlater
          exact ⟨rfl, rfl⟩

theorem filter_map_to_option_ok (results : List (TaskResult β)) :
    (results.map (Except.ok (ε := Failure))).filterMap Except.toOption = results := by
  simp [List.filterMap_map, Function.comp_def, Except.toOption]

/-- The results of a batch that is done have all been told. -/
theorem batch_ledger_of_ok (h : (job.runBatch batch).exec context s = (.ok results, t)) :
    job.batchLedger context batch s = ⟨results, results⟩ := by
  obtain ⟨_, u, hcheck, h⟩ := Run.exec_bind_eq_ok.mp h
  obtain ⟨⟨handed, stopped⟩, v, hhanded, h⟩ := Run.exec_bind_eq_ok.mp h
  obtain ⟨outcomes, w, houtcomes, h⟩ := Run.exec_bind_eq_ok.mp h
  cases stopped with
  | some failure => cases h
  | none =>
      obtain ⟨collected, x, hcollect, h⟩ := Run.exec_bind_eq_ok.mp h
      obtain ⟨_, y, htell, h⟩ := Run.exec_bind_eq_ok.mp h
      cases h
      rw [batchLedger, Ledger.after_of_ok hcheck, Ledger.after_of_ok hhanded,
        Ledger.after_of_ok houtcomes]
      dsimp only
      rw [Ledger.after_of_ok hcollect, tell_ledger_of_ok htell, (eq_map_ok_of_collect hcollect).1,
        filter_map_to_option_ok]
      exact Ledger.ext (List.append_nil results) rfl

/-- What an interrupted batch leaves: none of its results has been told, unless telling one of them
is what failed. -/
structure LeftUntold (job : BatchJob α β) (context : RunContext) (batch : List α)
    (failure : Failure) (t : RunState) (done : Ledger β) : Prop where
  worked : (done.worked.map (·.key)).Sublist (batch.map job.key)
  told : done.told = [] ∨ ∃ heard r unheard u, done.worked = heard ++ r :: unheard ∧
    done.worked.map (·.key) = batch.map job.key ∧ done.told = heard ++ [r] ∧
    (job.onResult r).exec context u = (.error failure, t)

theorem left_untold_of_untold {done : Ledger β}
    (hworked : (done.worked.map (·.key)).Sublist (batch.map job.key)) (htold : done.told = []) :
    job.LeftUntold context batch failure t done :=
  ⟨hworked, Or.inl htold⟩

/-- All items are handed over unless a checkpoint fails. -/
theorem handed_all {handed : List α}
    (h : (job.submit batch).exec context s = (.ok (handed, none), t)) : handed = batch := by
  have hmeets := @Handles.submit α β job batch context True _ _ [] [] s
    (job.conduct_trivial batch context).handles batch trivial
  rw [Run.Meets, h] at hmeets
  rcases hmeets.2.2 with hall | ⟨-, hfailed⟩
  · exact congrArg Prod.fst hall
  · cases hfailed

/-- If no item fails, each one has a result. -/
theorem keys_of_execute_all
    (h : (job.executeAll list).exec context s = (.ok (results.map .ok), t)) :
    results.map (·.key) = list.map job.key := by
  have hmeets := @Handles.execute_all α β job list context True _ _ [] [] s
    (job.conduct_trivial list context).handles list (fun _ hitem => hitem) trivial
  rw [Run.Meets, h] at hmeets
  rcases hmeets with ⟨results', heq, hkeys, -⟩ | ⟨-, ⟨failure, hmem⟩, -⟩
  · rw [List.map_injective_iff.mpr (fun _ _ => Except.ok.inj) heq]
    exact hkeys
  · obtain ⟨r, -, hr⟩ := List.mem_map.mp hmem
    cases hr

/-- A failure keeps the results of its batch from being told. -/
theorem batch_ledger_of_error (h : (job.runBatch batch).exec context s = (.error failure, t)) :
    job.LeftUntold context batch failure t (job.batchLedger context batch s) := by
  rw [batchLedger]
  rcases Run.exec_bind_eq_error.mp h with hcheck | ⟨_, u, hcheck, h⟩
  · rw [Ledger.after_of_error hcheck]
    exact left_untold_of_untold (List.nil_sublist _) rfl
  rw [Ledger.after_of_ok hcheck]
  rcases Run.exec_bind_eq_error.mp h with hhanded | ⟨⟨handed, stopped⟩, v, hhanded, h⟩
  · rw [Ledger.after_of_error hhanded]
    exact left_untold_of_untold (List.nil_sublist _) rfl
  rw [Ledger.after_of_ok hhanded]
  rcases Run.exec_bind_eq_error.mp h with houtcomes | ⟨outcomes, w, houtcomes, h⟩
  · rw [Ledger.after_of_error houtcomes]
    exact left_untold_of_untold (List.nil_sublist _) rfl
  rw [Ledger.after_of_ok houtcomes]
  have hworked : ((outcomes.filterMap Except.toOption ++ []).map TaskResult.key).Sublist
      (batch.map job.key) := by
    rw [List.append_nil]
    exact (worked_sublist houtcomes).trans ((handed_first hhanded).sublist.map _)
  cases stopped with
  | some stop => exact left_untold_of_untold hworked rfl
  | none =>
      dsimp only at h ⊢
      rcases Run.exec_bind_eq_error.mp h with hcollect | ⟨results, x, hcollect, h⟩
      · rw [Ledger.after_of_error hcollect]
        exact left_untold_of_untold hworked rfl
      rw [Ledger.after_of_ok hcollect]
      -- Everything has come out; what has failed is telling one of the results.
      rcases Run.exec_bind_eq_error.mp h with htell | ⟨_, y, _, h⟩
      · obtain ⟨rfl, rfl⟩ := eq_map_ok_of_collect hcollect
        cases handed_all hhanded
        obtain ⟨heard, r, unheard, z, hresults, hledger, hfailed⟩ := tell_ledger_of_error htell
        rw [hledger]
        have hall : (Ledger.append ⟨(results.map Except.ok).filterMap Except.toOption, []⟩
            ⟨[], heard ++ [r]⟩).worked = results :=
          (List.append_nil _).trans (filter_map_to_option_ok results)
        exact ⟨hworked, Or.inr ⟨heard, r, unheard, z, hall.trans hresults,
          (congrArg _ hall).trans (keys_of_execute_all houtcomes), rfl, hfailed⟩⟩
      · cases h

theorem batches_ledger_cons :
    job.batchesLedger context (batch :: batches) s = .append (job.batchLedger context batch s)
      (.after (job.runBatch batch) context s fun _ t => job.batchesLedger context batches t) := rfl

/-- Batches that are done have come to results that have all been told. -/
theorem batches_ledger_of_ok (h : (job.runBatches batches).exec context s = (.ok results, t)) :
    job.batchesLedger context batches s = ⟨results, results⟩ := by
  induction batches generalizing s results with
  | nil =>
      cases h
      rfl
  | cons batch rest ih =>
      obtain ⟨first, u, hbatch, h⟩ := Run.exec_bind_eq_ok.mp h
      obtain ⟨later, v, hlater, h⟩ := Run.exec_bind_eq_ok.mp h
      cases h
      rw [batches_ledger_cons, Ledger.after_of_ok hbatch, batch_ledger_of_ok hbatch, ih hlater]
      rfl

/-- Batches are interrupted in one of them, after all results of those before it have been told. -/
theorem batches_ledger_of_error
    (h : (job.runBatches batches).exec context s = (.error failure, t)) :
    ∃ before batch after finished current, batches = before ++ batch :: after ∧
      finished.map (·.key) = before.flatten.map job.key ∧
      job.LeftUntold context batch failure t current ∧
      job.batchesLedger context batches s = .append ⟨finished, finished⟩ current := by
  induction batches generalizing s with
  | nil => cases h
  | cons batch rest ih =>
      rcases Run.exec_bind_eq_error.mp h with hbatch | ⟨first, u, hbatch, h⟩
      · refine ⟨[], batch, rest, [], job.batchLedger context batch s, rfl, rfl,
          batch_ledger_of_error hbatch, ?_⟩
        rw [batches_ledger_cons, Ledger.after_of_error hbatch]
        exact Ledger.ext (List.append_nil _) (List.append_nil _)
      · rcases Run.exec_bind_eq_error.mp h with hlater | ⟨_, _, _, h⟩
        · obtain ⟨before, batch', after, finished, current, rfl, hkeys, hcurrent, hledger⟩ :=
            ih hlater
          refine ⟨batch :: before, batch', after, first ++ finished, current, rfl, ?_, hcurrent, ?_⟩
          · rw [List.map_append, List.flatten_cons, List.map_append, keys_of_run_batch hbatch,
              hkeys]
          · rw [batches_ledger_cons, Ledger.after_of_ok hbatch, batch_ledger_of_ok hbatch, hledger]
            exact Ledger.ext (List.append_assoc ..).symm (List.append_assoc ..).symm
        · cases h

/-- Whether batches are interrupted or not, results are told in the order of the items. -/
theorem batches_ledger_told (job : BatchJob α β) (context : RunContext) (batches : List (List α))
    (s : RunState) :
    (job.batchesLedger context batches s).told.map (·.key) <+: batches.flatten.map job.key := by
  cases hexec : (job.runBatches batches).exec context s with
  | mk result t =>
      cases result with
      | ok results =>
          rw [batches_ledger_of_ok hexec]
          exact keys_of_run_batches hexec ▸ List.prefix_rfl
      | error failure =>
          obtain ⟨before, batch, after, finished, current, rfl, hkeys, hcurrent, hledger⟩ :=
            batches_ledger_of_error hexec
          rw [hledger, List.flatten_append, List.flatten_cons, List.map_append, List.map_append,
            ← hkeys]
          show (finished ++ current.told).map (·.key) <+: _
          rw [List.map_append, List.prefix_append_right_inj]
          rcases hcurrent.told with htold | ⟨heard, r, unheard, u, hworked, hall, htold, -⟩
          · rw [htold]
            exact List.nil_prefix
          · rw [htold, ← hall, hworked]
            exact ⟨(unheard.map (·.key)) ++ after.flatten.map job.key, by simp⟩

end Batches

section Tracking

variable {Lapsed : RunState → Prop} {Inv E : List (TaskResult β) → RunState → Prop}

/-- What the parts of a job do to an invariant about the results that have been told.  Nothing but
telling fails until the run has lapsed, and nothing is said of a lapsed run; `E` holds of what has
been told when the job fails. -/
structure Tracks (job : BatchJob α β) (context : RunContext) (Lapsed : RunState → Prop)
    (Inv E : List (TaskResult β) → RunState → Prop) : Prop where
  lapsed : ∀ {told s}, Lapsed s → Inv told s ∧ E told s
  checkpoint : ∀ {told s}, Inv told s →
    job.checkpoint.Meets context s (fun _ => Inv told) Lapsed
  execute : ∀ {told s} item, Inv told s →
    (job.execute item).Meets context s (fun _ => Inv told) Lapsed
  execute_lapsed : ∀ {s} item, Lapsed s →
    (job.execute item).Meets context s (fun _ => Lapsed) Lapsed
  tell : ∀ {told s} r, Inv told s →
    (job.onResult r).Meets context s (fun _ => Inv (told ++ [r])) (E (told ++ [r]))

namespace Tracks

variable (h : job.Tracks context Lapsed Inv E)
include h

theorem run_sequential (list : List α) (hs : Inv told s) :
    (job.runSequential list).Meets context s
      (fun _ => Inv (told ++ (job.sequentialLedger context list s).told))
      (E (told ++ (job.sequentialLedger context list s).told)) := by
  induction list generalizing told s with
  | nil =>
      rw [← List.append_nil told] at hs
      exact hs
  | cons item rest ih =>
      rw [sequentialLedger]
      refine Ledger.meets_after (Q := fun done _ => Inv (told ++ done.told))
        (E := fun done => E (told ++ done.told))
        ((h.checkpoint hs).mono (fun _ t ht => ?_) fun _ ht => (h.lapsed ht).2)
      refine Ledger.meets_after (Q := fun done _ => Inv (told ++ done.told))
        (E := fun done => E (told ++ done.told))
        ((h.execute item ht).mono (fun r u hu => ?_) fun _ ht => (h.lapsed ht).2)
      have hassoc : ∀ done : Ledger β,
          told ++ (Ledger.append ⟨[r], [r]⟩ done).told = told ++ [r] ++ done.told :=
        fun done => (List.append_assoc ..).symm
      simp only [hassoc]
      refine Ledger.meets_after (Q := fun done _ => Inv (told ++ [r] ++ done.told))
        (E := fun done => E (told ++ [r] ++ done.told)) ((h.tell r hu).mono (fun _ v hv => ?_) ?_)
      · exact Run.meets_bind (ih hv) fun _ _ hlater => hlater
      · intro v hv
        rwa [List.append_nil]

theorem tell_all (results : List (TaskResult β)) (hs : Inv told s) :
    Run.Meets (results.forM job.onResult) context s
      (fun _ => Inv (told ++ (job.tellLedger context results s).told))
      (E (told ++ (job.tellLedger context results s).told)) := by
  induction results generalizing told s with
  | nil =>
      rw [← List.append_nil told] at hs
      exact hs
  | cons r rest ih =>
      have hassoc : ∀ done : Ledger β,
          told ++ (Ledger.append ⟨[], [r]⟩ done).told = told ++ [r] ++ done.told :=
        fun done => (List.append_assoc ..).symm
      rw [tellLedger]
      simp only [hassoc]
      refine Ledger.meets_after (Q := fun done _ => Inv (told ++ [r] ++ done.told))
        (E := fun done => E (told ++ [r] ++ done.told))
        ((h.tell r hs).mono (fun _ v hv => ih hv) ?_)
      intro v hv
      rwa [List.append_nil]

/-- Items are handed over until the run has lapsed. -/
theorem submit (list : List α) (hs : Inv told s) :
    (job.submit list).Meets context s
      (fun handed t => Inv told t ∧ (handed.2 ≠ none → Lapsed t)) fun _ => False := by
  induction list generalizing s with
  | nil => exact ⟨hs, absurd rfl⟩
  | cons item rest ih =>
      refine Run.meets_bind (Run.meets_attempt_outcome (h.checkpoint hs)) fun outcome t ht => ?_
      cases outcome with
      | error failure => exact ⟨(h.lapsed ht).1, fun _ => ht⟩
      | ok _ => exact Run.meets_bind (ih ht) fun handed u hu => hu

theorem execute_all_lapsed (list : List α) (hs : Lapsed s) :
    (job.executeAll list).Meets context s (fun _ => Lapsed) fun _ => False := by
  induction list generalizing s with
  | nil => exact hs
  | cons item rest ih =>
      refine Run.meets_bind (Q := fun _ => Lapsed)
        (Run.meets_attempt ((h.execute_lapsed item hs).mono (fun _ _ ht => ht) fun _ ht _ => ht))
        fun outcome t ht => Run.meets_bind (ih ht) fun _ _ hu => hu

/-- Every item comes to a result, or else the run has lapsed. -/
theorem execute_all (list : List α) (hs : Inv told s) :
    (job.executeAll list).Meets context s
      (fun outcomes t =>
        (∃ results : List (TaskResult β), outcomes = results.map .ok ∧ Inv told t) ∨
        Lapsed t ∧ ∃ failure, .error failure ∈ outcomes) fun _ => False := by
  induction list generalizing s with
  | nil => exact Or.inl ⟨[], rfl, hs⟩
  | cons item rest ih =>
      refine Run.meets_bind (Run.meets_attempt_outcome (h.execute item hs)) fun outcome t ht => ?_
      cases outcome with
      | error failure =>
          exact Run.meets_bind (h.execute_all_lapsed rest ht) fun _ _ hu =>
            Or.inr ⟨hu, failure, List.mem_cons_self⟩
      | ok r =>
          refine Run.meets_bind (ih ht) fun outcomes u hu => ?_
          rcases hu with ⟨results, rfl, hu⟩ | ⟨hu, failure, hmem⟩
          · exact Or.inl ⟨r :: results, rfl, hu⟩
          · exact Or.inr ⟨hu, failure, List.mem_cons_of_mem _ hmem⟩

theorem run_batch (batch : List α) (hs : Inv told s) :
    (job.runBatch batch).Meets context s
      (fun _ => Inv (told ++ (job.batchLedger context batch s).told))
      (E (told ++ (job.batchLedger context batch s).told)) := by
  rw [batchLedger]
  refine Ledger.meets_after (Q := fun done _ => Inv (told ++ done.told))
    (E := fun done => E (told ++ done.told))
    ((h.checkpoint hs).mono (fun _ t ht => ?_) fun _ ht => (h.lapsed ht).2)
  refine Ledger.meets_after (Q := fun done _ => Inv (told ++ done.told))
    (E := fun done => E (told ++ done.told))
    ((h.submit batch ht).mono (fun handed u hu => ?_) fun _ => False.elim)
  obtain ⟨submitted, stopped⟩ := handed
  cases stopped with
  | some failure =>
      -- What was handed over is worked on, although the run has lapsed.
      refine Ledger.meets_after (Q := fun done _ => Inv (told ++ done.told))
        (E := fun done => E (told ++ done.told))
        ((h.execute_all_lapsed submitted (hu.2 nofun)).mono (fun _ v hv => (h.lapsed hv).2)
          fun _ => False.elim)
  | none =>
      refine Ledger.meets_after (Q := fun done _ => Inv (told ++ done.told))
        (E := fun done => E (told ++ done.told))
        ((h.execute_all submitted hu.1).mono (fun outcomes v hv => ?_) fun _ => False.elim)
      rcases hv with ⟨results, rfl, hv⟩ | ⟨hv, failure, hmem⟩
      · refine Ledger.meets_after (Q := fun done _ => Inv (told ++ done.told))
          (E := fun done => E (told ++ done.told))
          (Run.meets_of_exec_ok (exec_collect_ok results) ?_)
        exact Run.meets_bind (h.tell_all results hv) fun _ _ htold => htold
      · obtain ⟨first, hfirst⟩ := exec_collect_error hmem context v
        dsimp only
        rw [Ledger.after_of_error hfirst, Run.Meets, Run.exec_bind, hfirst]
        exact (h.lapsed hv).2

theorem run_batches (batches : List (List α)) (hs : Inv told s) :
    (job.runBatches batches).Meets context s
      (fun _ => Inv (told ++ (job.batchesLedger context batches s).told))
      (E (told ++ (job.batchesLedger context batches s).told)) := by
  induction batches generalizing told s with
  | nil =>
      rw [← List.append_nil told] at hs
      exact hs
  | cons batch rest ih =>
      have hassoc : ∀ done : Ledger β,
          told ++ (Ledger.append (job.batchLedger context batch s) done).told =
            told ++ (job.batchLedger context batch s).told ++ done.told :=
        fun done => (List.append_assoc ..).symm
      rw [batches_ledger_cons]
      simp only [hassoc]
      refine Ledger.meets_after
        (Q := fun done _ => Inv (told ++ (job.batchLedger context batch s).told ++ done.told))
        (E := fun done => E (told ++ (job.batchLedger context batch s).told ++ done.told))
        ((h.run_batch batch hs).mono (fun _ t ht => ?_) ?_)
      · exact Run.meets_bind (ih ht) fun _ _ hlater => hlater
      · intro t ht
        rwa [List.append_nil]

end Tracks

end Tracking

/-- Results are told in the order in which their items are worked on. -/
theorem ledger_told_first (h : limits.order arrangement items = .ok list) :
    (job.ledger limits arrangement items context s).told.map (·.key) <+: list.map job.key := by
  unfold BatchLimits.order at h
  unfold ledger
  split at h
  · next hparallel =>
      rw [if_pos hparallel]
      cases hbatches : arrangement.batches limits.batchSize items with
      | error trouble => exact List.nil_prefix
      | ok batches =>
          rw [hbatches] at h
          cases h
          exact batches_ledger_told job context batches s
  · next hsequential =>
      rw [if_neg hsequential, h]
      exact (sequential_ledger_told_at_once job context list s).keys

/-- A job leaves what its parts do to an invariant about the results that have been told, whatever
those are. -/
theorem Tracks.run {Lapsed : RunState → Prop} {Inv E : List (TaskResult β) → RunState → Prop}
    (h : job.Tracks context Lapsed Inv E) (harranged : limits.order arrangement items = .ok list)
    (hs : Inv [] s) :
    (job.run limits arrangement items).Meets context s
      (fun _ => Inv (job.ledger limits arrangement items context s).told)
      (E (job.ledger limits arrangement items context s).told) := by
  unfold BatchLimits.order at harranged
  unfold BatchJob.run ledger
  split at harranged
  · next hparallel =>
      simp only [hparallel, if_true]
      cases hbatches : arrangement.batches limits.batchSize items with
      | error trouble => simp [hbatches] at harranged
      | ok batches => exact h.run_batches batches hs
  · next hsequential =>
      simp only [hsequential, Bool.false_eq_true, if_false, harranged]
      exact h.run_sequential list hs

/-- A job that is ended by a failure.  One after the other, every result that an item has come to
has been told.  In batches, the results of the batches before the interrupted one have been told,
and those of the interrupted one have not, unless what failed is telling one of them. -/
theorem run_interrupted
    (h : (job.run limits arrangement items).exec context s = (.error failure, t)) :
    (limits.parallel = false → (job.ledger limits arrangement items context s).told =
      (job.ledger limits arrangement items context s).worked) ∧
    (limits.parallel = true → job.ledger limits arrangement items context s = {} ∨
      ∃ batches before batch after finished current,
        arrangement.batches limits.batchSize items = .ok batches ∧
        batches = before ++ batch :: after ∧
        finished.map (·.key) = before.flatten.map job.key ∧
        job.LeftUntold context batch failure t current ∧
        job.ledger limits arrangement items context s = .append ⟨finished, finished⟩ current) := by
  refine ⟨fun hsequential => ?_, fun hparallel => ?_⟩
  · simp only [ledger, hsequential, Bool.false_eq_true, if_false]
    exact Ledger.after_of_forall (P := fun done => done.told = done.worked) rfl fun sorted u _ =>
      (job.sequential_ledger_told_at_once context sorted u).told
  · simp only [BatchJob.run, hparallel, if_true] at h
    simp only [ledger, hparallel, if_true]
    rcases Run.exec_bind_eq_error.mp h with hbatches | ⟨batches, u, hbatches, hrun⟩
    · exact Or.inl (Ledger.after_of_error hbatches)
    · obtain ⟨harranged, rfl⟩ := Run.exec_use_eq_ok.mp hbatches
      obtain ⟨before, batch, after, finished, current, hsplit, hkeys, hcurrent, hledger⟩ :=
        batches_ledger_of_error hrun
      exact Or.inr ⟨batches, before, batch, after, finished, current, harranged, hsplit, hkeys,
        hcurrent, (Ledger.after_of_ok hbatches).trans hledger⟩

/-- Work on units that is cancelled at the third checkpoint. -/
def cancelledAtThird : BatchJob String Nat :=
  { work := fun unit => return unit.length
    key := id
    checkpoint := do
      modify fun s => { s with board := { s.board with
        announcements := s.board.announcements ++ [⟨.progress, {}⟩] } }
      if (← get).board.announcements.length = 3 then Run.fault (Fault.cancelled "stop") }

/-- What it has done on some units when it ends. -/
def ledgerAtThird (parallel : Bool) (units : List String) : Ledger Nat :=
  cancelledAtThird.ledger ⟨parallel, 4, 2⟩ {} units { grammar := fun _ _ => default } {}

theorem run_interrupted_third_checkpoint :
    (∃ t, (cancelledAtThird.run ⟨false, 4, 2⟩ {} ["a", "b", "c"]).exec
        { grammar := fun _ _ => default } {} = (.error (.fault (Fault.cancelled "stop")), t)) ∧
      (ledgerAtThird false ["a", "b", "c"]).told = (ledgerAtThird false ["a", "b", "c"]).worked ∧
      (ledgerAtThird false ["a", "b", "c"]).worked = [⟨"a", .ok 1⟩, ⟨"b", .ok 1⟩] := by
  have hrun : ∃ t, (cancelledAtThird.run ⟨false, 4, 2⟩ {} ["a", "b", "c"]).exec
      { grammar := fun _ _ => default } {} = (.error (.fault (Fault.cancelled "stop")), t) :=
    ⟨_, rfl⟩
  obtain ⟨t, ht⟩ := hrun
  exact ⟨⟨t, ht⟩, (run_interrupted ht).1 rfl, rfl⟩

/-- In a batch, a unit has been worked on when the next one is not handed over any more, and nobody
is told of it. -/
theorem interrupted_batch_drops_unit :
    (∃ t, (cancelledAtThird.run ⟨true, 4, 2⟩ {} ["a", "b"]).exec
        { grammar := fun _ _ => default } {} = (.error (.fault (Fault.cancelled "stop")), t)) ∧
      (ledgerAtThird true ["a", "b"]).worked = [⟨"a", .ok 1⟩] ∧
      (ledgerAtThird true ["a", "b"]).told = [] :=
  ⟨⟨_, rfl⟩, rfl, rfl⟩

end BatchJob

end ComponentMigration
