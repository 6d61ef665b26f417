import ComponentMigration.Proofs.Pipeline.Stages
import ComponentMigration.Proofs.Pipeline.Work

/-!
# What a run carries from phase to phase

A sequence of phases keeps what the work of each of them keeps, as long as announcements and lifted
deadlines leave it alone; the first failure ends the sequence, and what the failed phase leaves is
what the run leaves.  `stages_cons_meets` is one step of that, `stages_meets` goes through all
phases, and `pipeline_by_meets` adds the end of the run.
-/

namespace ComponentMigration

variable {σ : Type} {context : RunContext} {listener : Listener} {s : RunState}

/-- A property of states that announcements and a lifted deadline leave alone. -/
structure Listener.Spares (listener : Listener) (P : RunState → Prop) : Prop where
  announce : ∀ s event, P s → P (s.announce listener event)
  moveTo : ∀ s phase share message, P s → P (s.moveTo listener phase share message)
  deadline : ∀ s, P s → P { s with token := s.token.clearDeadline }

/-- How phases have ended: what holds of the last value and the state if all were completed, and
what holds if one of them failed. -/
def StageProgress.Ends (Inv E : σ → RunState → Prop) (p : StageProgress σ) (t : RunState) : Prop :=
  match p.failure with
  | none => Inv p.value t
  | some _ => E p.value t

namespace Run

/-- A computation with a changed context ends as it does in that context. -/
theorem meets_with_reader {α : Type} {change : RunContext → RunContext} {x : Run α}
    {Q : α → RunState → Prop} {E : RunState → Prop} (h : x.Meets (change context) s Q E) :
    Meets (withReader change x) context s Q E := h

/-- What holds of the values that a computation can come to. -/
theorem meets_of_values {α : Type} {x : Run α} {Q : α → RunState → Prop}
    (h : ∀ a t, x.exec context s = (.ok a, t) → Q a t) : x.Meets context s Q fun _ => True := by
  unfold Meets
  split
  · next a t hexec => exact h a t hexec
  · trivial

theorem Meets.of_exec_ok {α : Type} {x : Run α} {a : α} {t : RunState} {Q : α → RunState → Prop}
    {E : RunState → Prop} (hexec : x.exec context s = (.ok a, t)) (h : x.Meets context s Q E) :
    Q a t := by
  rw [Meets, hexec] at h
  exact h

section Parts

variable {R : RunState → RunState → Prop} [RunState.IsLax R]

theorem stays_as_fault (failure : Failure) (phase : String) : (asFault failure phase).Stays R := by
  unfold asFault
  cases failure with
  | fault f => exact stays_pure f
  | trouble t => exact stays_bind (stays_place ..) fun _ => stays_classify _ _

theorem stays_record_once (f : Fault) : (recordOnce f).Stays R := by
  refine stays_bind (stays_modify_of_alike fun _ =>
    ⟨ErrorLog.refresh_strategies, rfl, rfl, rfl, rfl, rfl⟩) fun _ =>
      stays_bind stays_get fun s => ?_
  split
  · exact stays_bind (stays_record f) fun _ => stays_pure ()
  · exact stays_pure ()

end Parts

/-- A phase leaves what its work does, or what its failure leaves. -/
theorem run_phase_meets {stage : Stage σ} {value : σ} {P E : RunState → Prop}
    {Q : σ → RunState → Prop} (hQ : ∀ v, listener.Spares (Q v)) (hE : listener.Spares E)
    (hopen : (openPhase listener stage.phase).Meets context s (fun _ => P) E)
    (hbody : ∀ u, P u → (stage.body value).Meets context u Q E) :
    (runPhase listener stage value).Meets context s
      (fun outcome t => match outcome with
        | .completed v => Q v t
        | _ => E t) fun _ => False := by
  refine meets_bind (meets_attempt_outcome hopen) fun opened u hu => ?_
  cases opened with
  | error failure => exact hu
  | ok _ =>
      refine meets_bind (meets_attempt_outcome (hbody u hu)) fun outcome v hv => ?_
      cases outcome with
      | error failure => exact hE.deadline v hv
      | ok value' =>
          exact (hQ value').announce _ _ ((hQ value').moveTo _ _ _ _ ((hQ value').deadline v hv))

/-- Phases go on from what the first of them leaves, or end with what its failure leaves. -/
theorem stages_cons_meets {stage : Stage σ} {rest : List (Stage σ)} {p : StageProgress σ}
    {P E : RunState → Prop} {Q : σ → RunState → Prop} {Q' : StageProgress σ → RunState → Prop}
    (hQ : ∀ v, listener.Spares (Q v)) (hE : listener.Spares E)
    (hopen : (openPhase listener stage.phase).Meets context s (fun _ => P) E)
    (hbody : ∀ u, P u → (stage.body p.value).Meets context u Q E)
    (hfailed : ∀ t started failure, E t → Q' ⟨p.value, started, some failure⟩ t)
    (hrest : ∀ v started t, Q v t →
      (stages listener rest ⟨v, started, p.failure⟩).Meets context t Q' fun _ => False) :
    (stages listener (stage :: rest) p).Meets context s Q' fun _ => False := by
  refine meets_bind (run_phase_meets hQ hE hopen hbody) fun outcome t ht => ?_
  cases outcome with
  | unopened failure => exact hfailed t p.started failure ht
  | failed failure => exact hfailed t (p.started ++ [stage.phase]) failure ht
  | completed value => exact hrest value (p.started ++ [stage.phase]) t ht

section Sequences

variable {Inv E : σ → RunState → Prop} (hInv : ∀ v, listener.Spares (Inv v))
  (hE : ∀ v, listener.Spares (E v))
include hInv hE

/-- Phases keep what opening each of them and the work of each of them keeps. -/
theorem stages_meets {list : List (Stage σ)} {p : StageProgress σ} (hstart : p.failure = none)
    (hopen : ∀ phase v s, Inv v s →
      (openPhase listener phase).Meets context s (fun _ => Inv v) (E v))
    (hbody : ∀ stage ∈ list, ∀ v s, Inv v s → (stage.body v).Meets context s Inv (E v))
    (hs : Inv p.value s) :
    (stages listener list p).Meets context s (StageProgress.Ends Inv E) fun _ => False := by
  induction list generalizing p s with
  | nil =>
      show StageProgress.Ends Inv E p s
      rw [StageProgress.Ends, hstart]
      exact hs
  | cons stage rest ih =>
      refine stages_cons_meets hInv (hE p.value) (hopen stage.phase p.value s hs)
        (fun u hu => hbody stage List.mem_cons_self p.value u hu) (fun _ _ _ h => h) ?_
      intro v started t ht
      exact ih hstart (fun stage' hstage' => hbody stage' (List.mem_cons_of_mem _ hstage')) ht

omit hInv in
/-- What a failed run leaves is left when its failure has been noted. -/
theorem fail_run_meets (hlasting : ∀ v, Lasting context (E v)) (failure : Failure) {v : σ}
    (hs : E v s) : (failRun listener failure).Meets context s (fun _ => E v) (E v) :=
  meets_get_bind (meets_bind ((hlasting v).meets (stays_as_fault _ _) hs) fun _ _ ht =>
    meets_bind ((hlasting v).meets (stays_record_once _) ht) fun _ _ hu => (hE v).moveTo _ _ _ _ hu)

/-- The end of a run leaves what its phases do. -/
theorem stages_to_end_meets {list : List (Stage σ)} {start : σ}
    (hlasting : ∀ v, Lasting context (E v))
    (hstages : (stages listener list { value := start }).Meets context s
      (StageProgress.Ends Inv E) fun _ => False) :
    (stagesToEnd listener list start).Meets context s
      (fun ended t => ended.1.Ends Inv E t) fun t => ∃ v, E v t := by
  refine meets_bind (hstages.mono (fun _ _ h => h) fun _ => False.elim) fun p t ht => ?_
  unfold StageProgress.Ends at ht
  cases hfailure : p.failure with
  | none =>
      rw [hfailure] at ht
      show StageProgress.Ends Inv E p _
      rw [StageProgress.Ends, hfailure]
      exact (hInv p.value).deadline _ ((hInv p.value).moveTo _ _ _ _ ht)
  | some failure =>
      rw [hfailure] at ht
      refine meets_bind ((fail_run_meets hE hlasting failure ht).mono (fun _ _ h => h)
        fun _ h => ⟨p.value, h⟩) fun warnings u hu => ?_
      show StageProgress.Ends Inv E p _
      rw [StageProgress.Ends, hfailure]
      exact (hE p.value).deadline u hu

end Sequences

/-- A run of the pipeline leaves what its phases do. -/
theorem pipeline_by_meets {work : PhaseWork} {Inv E : StageValues → RunState → Prop}
    (hInv : ∀ v, listener.Spares (Inv v)) (hE : ∀ v, listener.Spares (E v))
    (hlasting : ∀ v, Lasting
      { context with observers := context.observers ++ [RunState.noteFault listener] } (E v))
    (hstages : ∀ phases, phaseList context.settings.pipeline.mode = .ok phases →
      (stages listener (work.stages phases) { value := {} }).Meets
        { context with observers := context.observers ++ [RunState.noteFault listener] } s
        (StageProgress.Ends Inv E) fun _ => False) :
    (pipelineBy work listener).Meets context s
      (fun outcome t => outcome.results = t.results ∧
        if outcome.success then Inv outcome.values t else E outcome.values t)
      fun t => t = s ∨ ∃ v, E v t := by
  refine meets_with_reader (meets_read_bind (meets_use_bind (fun _ _ => Or.inl rfl)
    fun phases hphases => ?_))
  have hended := stages_to_end_meets hInv hE hlasting (hstages phases hphases)
  refine meets_bind (hended.mono (fun _ _ h => h) fun _ h => Or.inr h) fun ended t ht => ?_
  obtain ⟨p, warnings⟩ := ended
  refine ⟨rfl, ?_⟩
  show if p.failure.isNone then Inv p.value t else E p.value t
  unfold StageProgress.Ends at ht
  cases hfailure : p.failure with
  | none =>
      rw [hfailure] at ht
      exact ht
  | some failure =>
      rw [hfailure] at ht
      exact ht

end Run

end ComponentMigration
