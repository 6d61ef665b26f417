import ComponentMigration.Proofs.Run.Stays

/-!
# Operations with one outcome

An operation that fails with the same failure every time ends in the same way under reliable
strategies, whatever has been recorded before: with the same value made of its fault, or with the
same fault.  Faults get a serial number when they are recorded, so the same means: the same but for
that number (`Fault.plain`).

`Gives` says what a computation comes to from every state in which something known holds; there is
one lemma for each part of an attempt, and `with_recovery_settled` carries it through all attempts.
-/

namespace ComponentMigration

/-- A fault without the number under which it is on record. -/
def Fault.plain (f : Fault) : Fault := { f with serial := none }

/-- A failure without the number under which it is on record. -/
def Failure.plain : Failure → Failure
  | .fault f => .fault f.plain
  | .trouble t => .trouble t

/-- A failure that is neither cancellation nor an exceeded deadline, nor classified as one. -/
def Failure.IsOrdinary (failure : Failure) : Prop :=
  (failure.classify none).cls ≠ .cancelled ∧ (failure.classify none).cls ≠ .phaseTimeout

namespace Failure

variable {failure : Failure}

theorem cls_classify (failure : Failure) (context : Option FaultContext) :
    (failure.classify context).cls = (failure.classify none).cls := by
  cases failure with
  | fault f => cases context <;> rfl
  | trouble t => rfl

theorem cls_classify_plain :
    (failure.plain.classify none).cls = (failure.classify none).cls := by
  cases failure <;> rfl

/-- The number of a fault has no part in its classification. -/
theorem plain_classify (failure : Failure) (context : Option FaultContext) :
    (failure.classify context).plain = (failure.plain.classify context).plain := by
  cases failure with
  | fault f => cases context <;> rfl
  | trouble t => rfl

theorem is_cancellation_plain : failure.plain.isCancellation = failure.isCancellation := by
  cases failure <;> rfl

theorem IsOrdinary.is_cancellation (h : failure.IsOrdinary) : failure.isCancellation = false := by
  cases failure with
  | fault f => simpa [isCancellation, classify] using h.1
  | trouble t => rfl

end Failure

/-- Strategies that answer every fault they apply to, without a look at its number.  They ask for
another attempt only as long as there have been fewer than their limit, and number it. -/
structure Reliable (strategies : List Strategy) : Prop where
  blind : ∀ s ∈ strategies, ∀ f : Fault, (s.recover f).outcome = (s.recover f.plain).outcome
  answers : ∀ s ∈ strategies, ∀ (f : Fault) (i : Nat), 1 ≤ i → f.IsOfAttempt i →
    s.canHandle f = true → ∃ r, (s.recover f).outcome = .ok r ∧
      (r.action = "retry" → r.success = true →
        i < Run.attemptLimit strategies ∧ r.data.get? "attempt" = some (.int (i + 1)))

/-- The built-in strategies are reliable. -/
theorem reliable_builtin {attempts : Nat} (h : attempts ≤ 1025) (base cap : Float) :
    Reliable (builtinStrategies (.ofNumbers attempts base cap)) := by
  have hlimit : Run.attemptLimit (builtinStrategies (.ofNumbers attempts base cap)) = attempts := by
    simp [Run.attemptLimit, builtinStrategies, Strategy.retry, Strategy.fallback, Strategy.skip]
  refine ⟨?_, ?_⟩
  · simp only [builtinStrategies, List.forall_mem_cons]
    exact ⟨fun _ => rfl, fun _ => rfl, fun _ => rfl, List.forall_mem_nil _⟩
  · rw [hlimit]
    simp only [builtinStrategies, List.forall_mem_cons]
    -- Only the first of them ever asks for another attempt.
    have hreview : "fallback" ≠ "retry" := by decide
    have hskip : "skip" ≠ "retry" := by decide
    refine ⟨fun f i hpos hattempt _ => ?_, fun f i _ _ _ => ⟨_, rfl, fun h => absurd h hreview⟩,
      fun f i _ _ _ => ⟨_, rfl, fun h => absurd h hskip⟩, List.forall_mem_nil _⟩
    by_cases hlt : i < attempts
    · obtain ⟨delay, r, -, hrecover, -, -, hdata⟩ :=
        @RetryPolicy.recover_again attempts i base cap f hattempt hpos (by omega) hlt
      exact ⟨r, congrArg RecoveryAttempt.outcome hrecover, fun _ _ => ⟨hlt, hdata⟩⟩
    · have hexhausted := congrArg RecoveryAttempt.outcome
        (@RetryPolicy.recover_exhausted attempts i base cap f hattempt (Nat.not_lt.mp hlt))
      refine ⟨_, hexhausted, fun _ hsuccess => ?_⟩
      cases hsuccess

/-- The first recovery that succeeds. -/
def recoveryBy (f : Fault) : List Strategy → Option Recovery
  | [] => none
  | s :: rest =>
    match if s.canHandle f then (s.recover f).outcome.toOption.filter (·.success) else none with
    | some r => some r
    | none => recoveryBy f rest

theorem recovery_by_cons (f : Fault) (strategy : Strategy) (rest : List Strategy) :
    recoveryBy f (strategy :: rest) =
      match if strategy.canHandle f then
          (strategy.recover f).outcome.toOption.filter (·.success) else none with
      | some r => some r
      | none => recoveryBy f rest := rfl

/-- What strategies make of a fault. -/
def answerTo (strategies : List Strategy) (f : Fault) : Option Recovery :=
  if f.recoverable then recoveryBy f strategies else none

section Answers

variable {strategies : List Strategy} {f : Fault} {context : RunContext} {s : RunState} {i : Nat}

/-- The number of a fault has no part in what is made of it. -/
theorem Reliable.answer_to_plain (h : Reliable strategies) (f : Fault) :
    answerTo strategies f.plain = answerTo strategies f := by
  have hby : ∀ list ⊆ strategies, recoveryBy f.plain list = recoveryBy f list := by
    intro list hsub
    induction list with
    | nil => rfl
    | cons strategy rest ih =>
        rw [recovery_by_cons, recovery_by_cons, ih (List.subset_of_cons_subset hsub),
          h.blind strategy (hsub List.mem_cons_self) f]
        rfl
  unfold answerTo
  rw [hby strategies (List.Subset.refl _)]
  rfl

/-- A recovery that asks for another attempt numbers it. -/
theorem Reliable.answer_to_again (h : Reliable strategies) (hpos : 1 ≤ i) (hf : f.IsOfAttempt i)
    {r : Recovery} (hanswer : answerTo strategies f = some r) (hagain : r.action = "retry") :
    i < Run.attemptLimit strategies ∧ r.data.get? "attempt" = some (.int (i + 1)) := by
  have hby : ∀ list ⊆ strategies, recoveryBy f list = some r →
      i < Run.attemptLimit strategies ∧ r.data.get? "attempt" = some (.int (i + 1)) := by
    intro list hsub hr
    induction list with
    | nil => cases hr
    | cons strategy rest ih =>
        rw [recovery_by_cons] at hr
        split at hr
        · next r' hfirst =>
            cases hr
            split at hfirst
            · next hcan =>
                obtain ⟨r', houtcome, hretry⟩ :=
                  h.answers strategy (hsub List.mem_cons_self) f i hpos hf hcan
                rw [houtcome] at hfirst
                obtain ⟨hr, hsuccess⟩ := Option.filter_eq_some_iff.mp hfirst
                cases hr
                exact hretry hagain hsuccess
            · cases hfirst
        · exact ih (List.subset_of_cons_subset hsub) hr
  unfold answerTo at hanswer
  split at hanswer
  · exact hby strategies (List.Subset.refl _) hanswer
  · cases hanswer

/-- Reliable strategies come to their answer; they may have waited. -/
theorem Reliable.exec_recover (h : Reliable strategies) (hs : s.log.strategies = strategies)
    (hpos : 1 ≤ i) (hf : f.IsOfAttempt i) :
    ((Run.recover f).exec context s).1 = .ok (answerTo strategies f) := by
  have hby : ∀ list ⊆ strategies, ∀ u : RunState,
      ((Run.recoverBy f list).exec context u).1 = .ok (recoveryBy f list) := by
    intro list hsub
    induction list with
    | nil => exact fun _ => rfl
    | cons strategy rest ih =>
        intro u
        have hrest := ih (List.subset_of_cons_subset hsub)
        rw [recovery_by_cons]
        by_cases hcan : strategy.canHandle f = true
        · obtain ⟨r, houtcome, -⟩ :=
            h.answers strategy (hsub List.mem_cons_self) f i hpos hf hcan
          have hrecover : strategy.recover f = ⟨(strategy.recover f).waited, .ok r⟩ := by
            rw [← houtcome]
          rw [Run.exec_recover_by_applied hcan hrecover, if_pos hcan, houtcome]
          cases hsuccess : r.success with
          | true => simp [Except.toOption, Option.filter, hsuccess]
          | false => simp [Except.toOption, Option.filter, hsuccess, hrest]
        · have hcan : strategy.canHandle f = false := by simpa using hcan
          rw [Run.exec_recover_by_passed hcan, hrest]
          simp [hcan]
  unfold Run.recover answerTo
  split
  · rw [Run.exec_bind, Run.exec_get]
    dsimp only
    rw [hs]
    exact hby strategies (List.Subset.refl _) s
  · rfl

end Answers

/-- What a computation comes to from every state in which something known holds: an outcome with a
property, and what is known still holds. -/
def Run.Gives {ι : Type} (x : Run α) (context : RunContext) (P : ι → RunState → Prop)
    (R : Except Failure α → Prop) : Prop :=
  ∀ i s, P i s → R (x.exec context s).1 ∧ P i (x.exec context s).2

namespace Run

variable {α β ι : Type} {context : RunContext} {P : ι → RunState → Prop}
  {R : Except Failure α → Prop} {x : Run α}

theorem Gives.mono {R' : Except Failure α → Prop} (h : x.Gives context P R)
    (hR : ∀ outcome, R outcome → R' outcome) : x.Gives context P R' :=
  fun i s hs => ⟨hR _ (h i s hs).1, (h i s hs).2⟩

theorem gives_pure (a : α) : Gives (pure a) context P (· = .ok a) := fun _ _ hs => ⟨rfl, hs⟩

theorem gives_attempt (hx : x.Gives context P R) :
    Gives (attempt x) context P fun outcome => ∃ inner, outcome = .ok inner ∧ R inner :=
  fun i s hs => ⟨⟨_, rfl, (hx i s hs).1⟩, (hx i s hs).2⟩

/-- What follows a computation that succeeds goes on from its value. -/
theorem gives_bind {f : α → Run β} {S : α → Prop} {R' : Except Failure β → Prop}
    (hx : x.Gives context P fun outcome => ∃ a, outcome = .ok a ∧ S a)
    (hf : ∀ a, S a → (f a).Gives context P R') : (x >>= f).Gives context P R' := by
  intro i s hs
  obtain ⟨⟨a, ha, hS⟩, ht⟩ := hx i s hs
  rw [exec_bind]
  generalize x.exec context s = ended at ha ht
  obtain ⟨outcome, t⟩ := ended
  subst ha
  exact hf a hS i t ht

theorem gives_bind_value {f : α → Run β} {a : α} {R' : Except Failure β → Prop}
    (hx : x.Gives context P (· = .ok a)) (hf : (f a).Gives context P R') :
    (x >>= f).Gives context P R' :=
  gives_bind (hx.mono fun _ h => ⟨a, h, rfl⟩) fun _ ha => ha ▸ hf

theorem gives_bind_failed {f : α → Run β} {S : Failure → Prop}
    (hx : x.Gives context P fun outcome => ∃ failure, outcome = .error failure ∧ S failure) :
    (x >>= f).Gives context P fun outcome => ∃ failure, outcome = .error failure ∧ S failure := by
  intro i s hs
  obtain ⟨⟨failure, hfailure, hS⟩, ht⟩ := hx i s hs
  rw [exec_bind]
  generalize x.exec context s = ended at hfailure ht
  obtain ⟨outcome, t⟩ := ended
  subst hfailure
  exact ⟨⟨failure, rfl, hS⟩, ht⟩

/-- An attempt of an operation that succeeds. -/
theorem attempt_once_gives_value {a : α} (hoperation : x.Gives context P (· = .ok a))
    (base : FaultContext) (absorb : Fault → Recovery → α) (n : Int) :
    (attemptOnce x base absorb n).Gives context P (· = .ok (.finished a)) := by
  unfold attemptOnce
  refine gives_bind (gives_attempt hoperation) ?_
  rintro _ rfl
  exact gives_pure _

/-- An operation that succeeds is not tried again. -/
theorem with_recovery_gives_value {a : α} (hoperation : x.Gives context P (· = .ok a))
    (base : FaultContext) (absorb : Fault → Recovery → α) :
    (withRecovery x base absorb).Gives context P (· = .ok a) := by
  have hloop : ∀ fuel, (withRecovery.loop x base absorb fuel 1).Gives context P
      (· = .ok a) := fun fuel => by
    cases fuel <;>
      exact gives_bind_value (attempt_once_gives_value hoperation base absorb 1) (gives_pure a)
  exact fun i s hs => hloop _ i s hs

/-- What is known of the states in which an operation runs: it is lasting, and the strategies are
those given. -/
structure Known (context : RunContext) (strategies : List Strategy) (P : ι → RunState → Prop) :
    Prop where
  lasting : ∀ i, Lasting context (P i)
  strategies : ∀ i s, P i s → s.log.strategies = strategies

namespace Known

variable {strategies : List Strategy} {failure e : Failure} {f : Fault} {base : FaultContext}
  {absorb : Fault → Recovery → α} {operation : Run α} {n fuel : Nat}

/-- Whatever does nothing but what every computation may do keeps what is known. -/
theorem gives (h : Known context strategies P) (hx : ∀ {R} [RunState.IsLax R], Stays R x)
    (hR : ∀ i s, P i s → R (x.exec context s).1) : x.Gives context P R :=
  fun i s hs => ⟨hR i s hs, meets_iff_state.mp ((h.lasting i).meets hx hs)⟩

theorem gives_classify (h : Known context strategies P) (failure : Failure)
    (place : Option FaultContext) :
    Gives (classify failure place) context P (· = .ok (failure.classify place)) :=
  h.gives (stays_classify failure place) fun i s _ => by rw [exec_classify]

/-- A fault on record is the one that was recorded, but for its number. -/
theorem gives_record (h : Known context strategies P) (f : Fault) :
    Gives (record f) context P fun outcome => ∃ g, outcome = .ok g ∧ g.plain = f.plain := by
  refine h.gives (stays_record f) fun i s _ => ?_
  rw [exec_record]
  exact ⟨_, rfl, rfl⟩

theorem gives_recover (h : Known context strategies P) (hreliable : Reliable strategies)
    (hpos : 1 ≤ n) (hf : f.IsOfAttempt n) :
    Gives (recover f) context P (· = .ok (answerTo strategies f)) :=
  h.gives (stays_recover f) fun i s hs => hreliable.exec_recover (h.strategies i s hs) hpos hf

theorem gives_next_attempt (h : Known context strategies P) {r : Recovery} {k : Int}
    (hr : r.data.get? "attempt" = some (.int k)) :
    Gives (nextAttempt r) context P (· = .ok k) :=
  h.gives (stays_next_attempt r) fun i s _ => by rw [exec_next_attempt hr]

/-- What an attempt does with a failure: its fault, on record now, goes on to the strategies. -/
theorem attempt_once_gives (h : Known context strategies P) (hreliable : Reliable strategies)
    (hkeys : base.data.keys.Nodup) (hcancel : e.isCancellation = false)
    (hoperation : operation.Gives context P fun outcome =>
      ∃ failure, outcome = .error failure ∧ failure.plain = e)
    (absorb : Fault → Recovery → α) (hpos : 1 ≤ n) :
    (attemptOnce operation base absorb n).Gives context P fun outcome =>
      ∃ f, f.plain = (e.classifiedAt base n).plain ∧
        match answerTo strategies (e.classifiedAt base n) with
        | none => outcome = .error (.fault f)
        | some r =>
          if r.action = "retry" then outcome = .ok (.again f (n + 1 : Nat))
          else outcome = .ok (.finished (absorb f r)) := by
  unfold attemptOnce
  refine gives_bind (gives_attempt hoperation) ?_
  rintro _ ⟨failure, rfl, rfl⟩
  rw [Failure.is_cancellation_plain] at hcancel
  simp only [hcancel, Bool.false_eq_true, if_false]
  refine gives_bind_value (h.gives_classify failure _) (gives_bind (h.gives_record _) ?_)
  intro f hf
  -- The fault on record differs from the one that is known at most in its number, of which neither
  -- the count of attempts nor the strategies take notice.
  have hplain : f.plain = (failure.plain.classifiedAt base n).plain :=
    hf.trans (Failure.plain_classify failure _)
  have hattempt : f.IsOfAttempt n := by
    have hclassified : (failure.plain.classifiedAt base n).IsOfAttempt n :=
      Failure.classified_at_is_of_attempt hkeys
    have hcontext := congrArg Fault.context hplain
    exact (congrArg (fun c : FaultContext => c.data.get? "attempt") hcontext).trans hclassified
  have hanswer : answerTo strategies f = answerTo strategies (failure.plain.classifiedAt base n) := by
    rw [← hreliable.answer_to_plain f, hplain, hreliable.answer_to_plain]
  refine gives_bind_value (h.gives_recover hreliable hpos hattempt) ?_
  rw [← hanswer]
  generalize hr : answerTo strategies f = answer
  cases answer with
  | none => exact fun i s hs => ⟨⟨f, hplain, rfl⟩, hs⟩
  | some r =>
      by_cases hagain : r.action = "retry"
      · obtain ⟨-, hdata⟩ := hreliable.answer_to_again hpos hattempt hr hagain
        simp only [hagain, beq_self_eq_true, if_true]
        exact gives_bind_value (h.gives_next_attempt hdata)
          fun i s hs => ⟨⟨f, hplain, rfl⟩, hs⟩
      · simp only [hagain, beq_iff_eq, if_false]
        exact fun i s hs => ⟨⟨f, hplain, rfl⟩, hs⟩

/-- The one way in which attempts end: with the same fault but for its number, which either is the
failure of all of them or is made into a value by the same recovery. -/
def Settled (context : RunContext) (P : ι → RunState → Prop) (absorb : Fault → Recovery → α)
    (cls : FaultClass) (x : Run α) : Prop :=
  ∃ g : Fault, g.cls = cls ∧
    (x.Gives context P (fun outcome =>
        ∃ failure, outcome = .error failure ∧ ∃ f, f.plain = g ∧ failure = .fault f) ∨
      ∃ r, x.Gives context P fun outcome =>
        ∃ a, outcome = .ok a ∧ ∃ f, f.plain = g ∧ a = absorb f r)

section Failing

variable (h : Known context strategies P) (hreliable : Reliable strategies)
  (hkeys : base.data.keys.Nodup) (hcancel : e.isCancellation = false)
  (hoperation : operation.Gives context P fun outcome =>
    ∃ failure, outcome = .error failure ∧ failure.plain = e)
include h hreliable hkeys hcancel hoperation

/-- An attempt that no other one follows. -/
theorem loop_settled_of_last (hpos : 1 ≤ n)
    (hlast : ∀ r, answerTo strategies (e.classifiedAt base n) = some r → r.action ≠ "retry")
    (fuel : Nat) :
    Settled context P absorb (e.classify none).cls
      (withRecovery.loop operation base absorb fuel n) := by
  have honce := h.attempt_once_gives hreliable hkeys hcancel hoperation absorb hpos
  -- The loop ends with this attempt whether or not others are left, hence the cases on `fuel`.
  refine ⟨(e.classifiedAt base n).plain, e.cls_classify _, ?_⟩
  generalize answerTo strategies (e.classifiedAt base n) = answer at honce hlast
  cases answer with
  | none =>
      refine Or.inl ?_
      have hfailed : (attemptOnce operation base absorb n).Gives context P fun outcome =>
          ∃ failure, outcome = .error failure ∧
            ∃ f, f.plain = (e.classifiedAt base n).plain ∧ failure = .fault f :=
        honce.mono fun _ ⟨f, hf, houtcome⟩ => ⟨_, houtcome, f, hf, rfl⟩
      cases fuel <;> exact gives_bind_failed hfailed
  | some r =>
      refine Or.inr ⟨r, ?_⟩
      simp only [if_neg (hlast r rfl)] at honce
      have hfinished : (attemptOnce operation base absorb n).Gives context P fun outcome =>
          ∃ attempted, outcome = .ok attempted ∧
            ∃ f, f.plain = (e.classifiedAt base n).plain ∧ attempted = .finished (absorb f r) :=
        honce.mono fun outcome ⟨f, hf, houtcome⟩ => ⟨_, houtcome, f, hf, rfl⟩
      cases fuel
      all_goals
        refine gives_bind hfinished ?_
        rintro _ ⟨f, hf, rfl⟩
        exact (gives_pure _).mono fun _ houtcome => ⟨_, houtcome, f, hf, rfl⟩

/-- However many attempts there are, they end in one way. -/
theorem loop_settled (absorb : Fault → Recovery → α) (hpos : 1 ≤ n)
    (hfuel : attemptLimit strategies < n + fuel) :
    Settled context P absorb (e.classify none).cls
      (withRecovery.loop operation base absorb fuel n) := by
  -- The induction is on the attempts that are left; the limit comes before they are used up.
  induction fuel generalizing n with
  | zero =>
      refine h.loop_settled_of_last hreliable hkeys hcancel hoperation hpos (fun r hr hagain => ?_) 0
      have hlt := (hreliable.answer_to_again hpos
        (Failure.classified_at_is_of_attempt hkeys) hr hagain).1
      omega
  | succ fuel ih =>
      by_cases hlast : ∀ r, answerTo strategies (e.classifiedAt base n) = some r →
          r.action ≠ "retry"
      · exact h.loop_settled_of_last hreliable hkeys hcancel hoperation hpos hlast (fuel + 1)
      · simp only [not_forall, not_not] at hlast
        obtain ⟨r, hr, hagain⟩ := hlast
        have honce := h.attempt_once_gives hreliable hkeys hcancel hoperation absorb hpos
        rw [hr] at honce
        simp only [hagain, if_true] at honce
        -- The attempt asks for the next one, so that the loop comes to what that one comes to.
        have hstep : ∀ R : Except Failure α → Prop,
            (withRecovery.loop operation base absorb fuel (n + 1 : Nat)).Gives context P R →
              (withRecovery.loop operation base absorb (fuel + 1) n).Gives context P R := by
          intro R hrest
          refine gives_bind (S := fun attempted => ∃ f, attempted = .again f (n + 1 : Nat))
            (honce.mono fun _ ⟨f, _, houtcome⟩ => ⟨_, houtcome, f, rfl⟩) ?_
          rintro _ ⟨f, rfl⟩
          exact hrest
        obtain ⟨g, hcls, hend⟩ := ih (Nat.le_add_left 1 n) (by omega)
        exact ⟨g, hcls, hend.imp (hstep _) fun ⟨r, hr⟩ => ⟨r, hstep _ hr⟩⟩

/-- An operation that always fails alike ends in one way. -/
theorem with_recovery_settled (absorb : Fault → Recovery → α) :
    Settled context P absorb (e.classify none).cls (withRecovery operation base absorb) := by
  have hstart : ∀ R : Except Failure α → Prop,
      (withRecovery.loop operation base absorb (attemptLimit strategies) (1 : Nat)).Gives
        context P R → (withRecovery operation base absorb).Gives context P R := by
    intro R hloop i s hs
    rw [withRecovery, exec_bind, exec_get]
    dsimp only
    rw [h.strategies i s hs]
    exact hloop i s hs
  have hfuel : attemptLimit strategies < 1 + attemptLimit strategies := by omega
  obtain ⟨g, hcls, hend⟩ :=
    h.loop_settled hreliable hkeys hcancel hoperation absorb (Nat.le_refl 1) hfuel
  exact ⟨g, hcls, hend.imp (hstart _) (Exists.imp fun _ => hstart _)⟩

end Failing

end Known

end Run

end ComponentMigration
