import ComponentMigration.Proofs.Fault.Misuse
import ComponentMigration.Proofs.Run.Determined

/-!
# What attempts under the built-in strategies fail with

Whatever the values of the retry policy are, attempts at an operation fail with its own fault or
with a trouble of the policy.  A trouble of the policy is final, and it comes up only over a fault
that may be tried again (`Known.with_recovery_ends`).
-/

namespace ComponentMigration

/-- The categories of faults that may be tried again. -/
def retriedCategories : List Category := [.fileSystem, .network, .timeout]

theorem Failure.category_classify (failure : Failure) (context : Option FaultContext) :
    (failure.classify context).category = (failure.classify none).category := by
  cases failure with
  | fault f => cases context <;> rfl
  | trouble t => rfl

/-- How attempts at an operation end that fails in certain ways: with a fault that one of these
failures is classified as, or with a trouble of the retry policy. -/
inductive Failure.Ends (Fails : Failure → Prop) : Failure → Prop where
  | fault {failure : Failure} {f : Fault} (hfails : Fails failure)
      (hcls : f.cls = (failure.classify none).cls) : Ends Fails (.fault f)
  | trouble {failure : Failure} {t : Trouble} (hfails : Fails failure)
      (hretried : (failure.classify none).category ∈ retriedCategories) (hfinal : t.IsFinal) :
      Ends Fails (.trouble t)

namespace Run

variable {α ι : Type} {context : RunContext} {P : ι → RunState → Prop} {policy : RetryPolicy}
  {Fails : Failure → Prop} {operation : Run α} {base : FaultContext} {f : Fault} {n fuel : Nat}

/-- What follows a computation goes on from its value, or else the computation has failed. -/
theorem gives_bind_of {β : Type} {x : Run α} {f : α → Run β} {R : Except Failure α → Prop}
    {R' : Except Failure β → Prop} (hx : x.Gives context P R)
    (herror : ∀ failure, R (.error failure) → R' (.error failure))
    (hok : ∀ a, R (.ok a) → (f a).Gives context P R') : (x >>= f).Gives context P R' := by
  intro i s hs
  obtain ⟨hR, ht⟩ := hx i s hs
  rw [exec_bind]
  generalize x.exec context s = ended at hR ht
  obtain ⟨outcome, t⟩ := ended
  cases outcome with
  | error failure => exact ⟨herror failure hR, ht⟩
  | ok a => exact hok a hR i t ht

/-- What the built-in strategies make of a fault: a trouble comes from the retry policy, and so does
every wish for another attempt. -/
theorem Known.recover_gives (h : Known context (builtinStrategies policy) P) (hpos : 1 ≤ n)
    (hf : f.IsOfAttempt n) :
    (recover f).Gives context P fun outcome =>
      match outcome with
      | .error failure => ∃ t, failure = .trouble t ∧ t.IsFinal ∧ f.category ∈ retriedCategories
      | .ok answer => ∀ r, answer = some r → (r.action == "retry") = true →
          r.data.get? "attempt" = some (.int (n + 1)) := by
  refine h.gives (stays_recover f) fun i s hs => ?_
  have habsorbed : ∀ r, f.absorption = some r → (r.action == "retry") = true →
      r.data.get? "attempt" = some (.int (n + 1)) := by
    intro r hr haction
    rw [action_of_absorption hr] at haction
    cases haction
  unfold recover
  by_cases hrecoverable : f.recoverable = true
  · simp only [hrecoverable, if_true, exec_bind, exec_get, h.strategies i s hs, builtinStrategies]
    by_cases hcan : (Strategy.retry policy).canHandle f = true
    · have hretried : f.category ∈ retriedCategories := by
        simpa [retriedCategories] using of_decide_eq_true (retry_can_handle.symm.trans hcan)
      cases houtcome : (policy.recover f).outcome with
      | error t =>
          have hrecover : ((Strategy.retry policy).recover f).outcome = .error t := houtcome
          simp only [recoverBy, hcan, if_true, exec_bind, exec_modify, hrecover]
          exact ⟨t, rfl, RetryPolicy.recover_fails_finally hpos hf t houtcome, hretried⟩
      | ok r =>
          have hrecover :
              (Strategy.retry policy).recover f = ⟨(policy.recover f).waited, .ok r⟩ := by
            rw [← houtcome]
            rfl
          rw [exec_recover_by_applied hcan hrecover]
          by_cases hsuccess : r.success = true
          · rw [if_pos hsuccess]
            rintro _ ⟨⟩ -
            exact RetryPolicy.attempt_of_recover hf houtcome hsuccess
          · rw [if_neg hsuccess, exec_recover_by_absorption hrecoverable]
            exact habsorbed
    · rw [exec_recover_by_passed (by simpa using hcan), exec_recover_by_absorption hrecoverable]
      exact habsorbed
  · simp only [hrecoverable, Bool.false_eq_true, if_false]
    intro r hr
    cases hr

section Failing

variable (h : Known context (builtinStrategies policy) P) (hkeys : base.data.keys.Nodup)
  (hcancel : ∀ failure, Fails failure → failure.isCancellation = false)
  (hoperation : operation.Gives context P fun outcome =>
    ∀ failure, outcome = .error failure → Fails failure)
include h hkeys hcancel hoperation

/-- How an attempt ends: another one is numbered as the next. -/
theorem Known.attempt_once_ends (absorb : Fault → Recovery → α) (hpos : 1 ≤ n) :
    (attemptOnce operation base absorb n).Gives context P fun outcome =>
      match outcome with
      | .error failure => failure.Ends Fails
      | .ok (.again f next) => Failure.Ends Fails (.fault f) ∧ next = (n + 1 : Nat)
      | .ok (.finished _) => True := by
  unfold attemptOnce
  refine gives_bind (S := fun outcome => ∀ failure, outcome = .error failure → Fails failure)
    ((gives_attempt hoperation).mono fun _ ⟨inner, hinner, hfails⟩ => ⟨inner, hinner, hfails⟩)
    fun outcome hfails => ?_
  cases outcome with
  | ok a => exact (gives_pure _).mono fun _ ho => by rw [ho]; trivial
  | error failure =>
      replace hfails := hfails failure rfl
      simp only [hcancel failure hfails, Bool.false_eq_true, if_false]
      refine gives_bind_value (h.gives_classify failure _) (gives_bind (h.gives_record _) ?_)
      intro f hf
      have hends : Failure.Ends Fails (.fault f) :=
        .fault hfails ((congrArg Fault.cls hf).trans (failure.cls_classify _))
      have hcategory : f.category = (failure.classify none).category :=
        (congrArg Fault.category hf).trans (failure.category_classify _)
      have hattempt : f.IsOfAttempt n := by
        have hclassified : (failure.classifiedAt base n).IsOfAttempt n :=
          Failure.classified_at_is_of_attempt hkeys
        exact (congrArg (fun g : Fault => g.context.data.get? "attempt") hf).trans hclassified
      refine gives_bind_of (h.recover_gives hpos hattempt) ?_ fun answer hanswer => ?_
      · rintro _ ⟨t, rfl, hfinal, hretried⟩
        exact .trouble hfails (hcategory ▸ hretried) hfinal
      · cases answer with
        | none => exact fun i s hs => ⟨hends, hs⟩
        | some r =>
            dsimp only
            by_cases hagain : (r.action == "retry") = true
            · rw [if_pos hagain]
              exact gives_bind_value (h.gives_next_attempt (hanswer r rfl hagain))
                fun i s hs => ⟨⟨hends, rfl⟩, hs⟩
            · rw [if_neg hagain]
              exact fun i s hs => ⟨trivial, hs⟩

/-- How attempts end that do not come to a value. -/
theorem Known.with_recovery_ends (absorb : Fault → Recovery → α) :
    (withRecovery operation base absorb).Gives context P fun outcome =>
      ∀ failure, outcome = .error failure → failure.Ends Fails := by
  have hloop : ∀ (fuel n : Nat), 1 ≤ n →
      (withRecovery.loop operation base absorb fuel n).Gives context P fun outcome =>
        ∀ failure, outcome = .error failure → failure.Ends Fails := by
    have hfailed : ∀ failure : Failure, failure.Ends Fails →
        ∀ failure', (.error failure : Except Failure α) = .error failure' →
          failure'.Ends Fails := by
      rintro failure hends _ ⟨⟩
      exact hends
    have hvalue : ∀ a : α, Gives (pure a) context P fun outcome =>
        ∀ failure, outcome = .error failure → failure.Ends Fails := by
      refine fun a => (gives_pure a).mono ?_
      rintro _ rfl failure ⟨⟩
    intro fuel
    induction fuel with
    | zero =>
        intro n hpos
        rw [withRecovery.loop]
        refine gives_bind_of (h.attempt_once_ends hkeys hcancel hoperation absorb hpos) hfailed ?_
        rintro (a | ⟨f, next⟩) hends
        · exact hvalue a
        · exact fun i s hs => ⟨hfailed _ hends.1, hs⟩
    | succ fuel ih =>
        intro n hpos
        rw [withRecovery.loop]
        refine gives_bind_of (h.attempt_once_ends hkeys hcancel hoperation absorb hpos) hfailed ?_
        rintro (a | ⟨f, next⟩) hends
        · exact hvalue a
        · obtain ⟨-, rfl⟩ := hends
          exact ih (n + 1) (Nat.le_add_left 1 n)
  exact fun i s hs => hloop _ 1 (Nat.le_refl 1) i s hs

end Failing

end Run

end ComponentMigration
