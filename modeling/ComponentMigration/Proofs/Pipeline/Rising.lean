import ComponentMigration.Proofs.Pipeline.Coverage
import ComponentMigration.Proofs.Pipeline.Orchestrator
import ComponentMigration.Proofs.Pipeline.Updates

/-!
# Overall progress of a run

A phase takes a board that rises to its beginning to one that rises to its end, and no phase after
it begins lower than that (`stages_rise`).  So each update of a run comes to at least what the
updates before it have come to, and the greatest of them is the latest (`run_progress_rises`).  Only
a failure is no update of its own: it is the last one, and repeats what was reached.
-/

namespace ComponentMigration

/-- Updates of progress as listeners are to see them: overall progress never goes back and stays
between zero and a hundred, whether it is exact or shown with two decimal places.  Until the run
fails it is what the phase and its percentage come to. -/
structure RisingUpdates (updates : List Progress) : Prop where
  ascending : updates.Pairwise fun p next => p.overall ≤ next.overall
  ascending_shown : updates.Pairwise fun p next => p.overallShown ≤ next.overallShown
  bounded : ∀ p ∈ updates, 0 ≤ p.overall ∧ p.overall ≤ 100
  bounded_shown : ∀ p ∈ updates, 0 ≤ p.overallShown ∧ p.overallShown ≤ 100
  failed_last : ∀ p ∈ updates.dropLast, p.phase ≠ .failed
  due : ∀ p ∈ updates, p.phase ≠ .failed → p.overall = p.due

section Updates

variable {p next : Progress} {updates : List Progress}

theorem Progress.overall_nonneg (p : Progress) : 0 ≤ p.overall := overall_after_nonneg p.milestones

theorem Progress.due_le_hundred (p : Progress) : p.due ≤ 100 := by
  rw [due_eq]
  exact p.phase.overall_at_le_hundred p.share.exact

/-- What is shown does not go back if overall progress does not. -/
theorem Progress.overall_shown_mono (h : p.overall ≤ next.overall) :
    p.overallShown ≤ next.overallShown := Number.round_rat_places_mono 2 h

theorem Progress.overall_shown_nonneg (p : Progress) : 0 ≤ p.overallShown := by
  have hzero : Number.roundRatPlaces 2 0 = 0 :=
    Number.round_rat_places_of_whole (n := 0) (by norm_num)
  have hround := Number.round_rat_places_mono 2 p.overall_nonneg
  rwa [hzero] at hround

theorem round_hundred : Number.roundRatPlaces 2 100 = 100 :=
  Number.round_rat_places_of_whole (n := 10000) (by norm_num [Number.tenTo])

theorem Progress.overall_shown_le_hundred (h : p.overall ≤ 100) : p.overallShown ≤ 100 := by
  have hround := Number.round_rat_places_mono 2 h
  rwa [round_hundred] at hround

/-- What is shown follows from what is exact. -/
theorem RisingUpdates.of_exact
    (hascending : updates.Pairwise fun p next => p.overall ≤ next.overall)
    (hbounded : ∀ p ∈ updates, p.overall ≤ 100)
    (hfailed : ∀ p ∈ updates.dropLast, p.phase ≠ .failed)
    (hdue : ∀ p ∈ updates, p.phase ≠ .failed → p.overall = p.due) : RisingUpdates updates where
  ascending := hascending
  ascending_shown := hascending.imp Progress.overall_shown_mono
  bounded p hp := ⟨p.overall_nonneg, hbounded p hp⟩
  bounded_shown p hp := ⟨p.overall_shown_nonneg, Progress.overall_shown_le_hundred (hbounded p hp)⟩
  failed_last := hfailed
  due := hdue

end Updates

section Boards

variable {b : Board} {limit : Rat} {s : RunState} {listener : Listener} {share : Share}
  {message : Option String}

theorem Board.Rises.le_hundred (h : b.Rises limit) {p : Progress} (hp : p ∈ b.updates) :
    p.overall ≤ 100 := by
  rw [(h.due p hp).2]
  exact p.due_le_hundred

theorem Board.Rises.rising_updates (h : b.Rises limit) : RisingUpdates b.updates :=
  .of_exact h.ascending (fun _ hp => h.le_hundred hp)
    (fun p hp => (h.due p (List.dropLast_subset _ hp)).1) fun p hp _ => (h.due p hp).2

/-- A failure repeats what was reached. -/
theorem Board.Rises.rising_updates_failed (h : s.board.Rises limit) (hlimit : limit ≤ 100) :
    RisingUpdates (s.moveTo listener .failed share message).board.updates := by
  rw [RunState.updates_move_to]
  refine .of_exact ?_ ?_ ?_ ?_
  · rw [List.pairwise_append]
    refine ⟨h.ascending, List.pairwise_singleton _ _, fun p hp next hnext => ?_⟩
    rw [List.mem_singleton.mp hnext, RunState.overall_move_to_failed]
    exact h.reached p hp
  · rw [List.forall_mem_append, List.forall_mem_singleton, RunState.overall_move_to_failed]
    exact ⟨fun p hp => h.le_hundred hp, h.limited.trans hlimit⟩
  · rw [List.dropLast_concat]
    exact fun p hp => (h.due p hp).1
  · rw [List.forall_mem_append, List.forall_mem_singleton, RunState.phase_move_to]
    exact ⟨fun p hp _ => (h.due p hp).2, fun hne => absurd rfl hne⟩

/-- The last update of a completed run is at a hundred. -/
theorem Board.Rises.completed (h : s.board.Rises limit) (hlimit : limit ≤ 100)
    (listener : Listener) (share : Share) (message : Option String) :
    RisingUpdates (s.moveTo listener .completed share message).board.updates ∧
      ∃ last ∈ (s.moveTo listener .completed share message).board.updates.getLast?,
        last.phase = .completed ∧ last.overall = 100 := by
  have hmoved : (s.moveTo listener .completed share message).board.Rises 100 :=
    h.move_to (by decide) hlimit
  refine ⟨hmoved.rising_updates, ?_⟩
  refine ⟨(s.moveTo listener .completed share message).board.progress, ?_,
    RunState.phase_move_to _ _ _, ?_⟩
  · rw [RunState.updates_move_to, List.getLast?_concat]
    rfl
  · have hlast : (s.moveTo listener .completed share message).board.progress ∈
        (s.moveTo listener .completed share message).board.updates := by
      rw [RunState.updates_move_to]
      exact List.mem_append_right _ List.mem_cons_self
    rw [(hmoved.due _ hlast).2, RunState.due_move_to, Phase.overall_at_completed]

end Boards

namespace Run

section Phases

variable {σ : Type} {context : RunContext} {s : RunState} {limit : Rat} {phase : Phase}
  {stage : Stage σ} (listener : Listener)

theorem stays_open_phase_within (hphase : phase ≠ .failed) :
    (openPhase listener phase).Stays (RunState.Keeping (RunState.Within phase Gauge.begun)) :=
  stays_open_phase listener (fun _ _ hs => hs)
    (fun _ _ hs => Board.Rises.move_to hs hphase (le_refl _))
    fun _ hs => RunState.Within.announce hs rfl rfl

theorem stays_close_phase_within (hphase : phase ≠ .failed) :
    (closePhase listener phase).Stays (RunState.Keeping (RunState.Within phase Gauge.done)) :=
  stays_close_phase listener (fun _ _ hs => Board.Rises.move_to hs hphase (le_refl _))
    fun _ hs => RunState.Within.announce hs rfl rfl

variable (hobservers : context.ObserversRemark)
include hobservers

/-- A phase goes up from its beginning to its end at most. -/
theorem run_phase_rises {value : σ} (hphase : stage.phase ≠ .failed)
    (hbody : Rises context stage.phase (stage.body value)) :
    Rises context stage.phase (runPhase listener stage value) := by
  intro s hs
  have hopen := (stays_open_phase_within listener hphase).meets_within hobservers (.begin hs)
  refine meets_bind (Q := fun _ t => t.board.Rises (stage.phase.overallAt 0))
    (meets_attempt (hopen.mono (fun _ _ ht => ht.at_begin) fun _ ht _ => ht.at_begin))
    fun opened t ht => ?_
  cases opened with
  | error failure => exact ht.to_end
  | ok _ =>
      refine meets_bind (Q := fun _ u => u.board.Rises (stage.phase.overallAt 100))
        (meets_attempt ((hbody t ht).mono (fun _ _ hu => hu) fun _ hu _ => hu))
        fun outcome u hu => ?_
      refine meets_bind (Q := fun _ v => v.board.Rises (stage.phase.overallAt 100)) hu
        fun _ v hv => ?_
      cases outcome with
      | error failure => exact hv
      | ok value' =>
          have hclose := stays_close_phase_within listener hphase
          exact meets_bind (hclose.meets_rises hobservers (.at_end hv)) fun _ _ hw => hw

/-- Phases of which each one begins no lower than those before it end go up one after the other. -/
theorem stages_rise {list : List (Stage σ)}
    (hphases : ∀ stage ∈ list, stage.phase ≠ .failed)
    (hbody : ∀ stage ∈ list, ∀ value, Rises context stage.phase (stage.body value))
    (hfollow : list.Pairwise fun first next =>
      first.phase.overallAt 100 ≤ next.phase.overallAt 0)
    (hlimit : ∀ stage ∈ list, limit ≤ stage.phase.overallAt 0) (hhundred : limit ≤ 100)
    (hs : s.board.Rises limit) (p : StageProgress σ) :
    (stages listener list p).Meets context s (fun _ t => t.board.Rises 100)
      fun t => t.board.Rises 100 := by
  -- The limit is the end of the phase before, and whatever follows does not begin below it; the
  -- work of a phase that fails has not gone beyond the end of the phase either.
  induction list generalizing s p limit with
  | nil => exact hs.mono hhundred
  | cons stage rest ih =>
      rw [List.forall_mem_cons] at hphases hbody hlimit
      rw [List.pairwise_cons] at hfollow
      have hend : stage.phase.overallAt 100 ≤ 100 := stage.phase.overall_at_le_hundred 100
      have hphase := run_phase_rises listener hobservers hphases.1 (hbody.1 p.value) s
        (hs.mono hlimit.1)
      refine meets_bind (hphase.mono (fun _ _ ht => ht) fun _ ht => ht.mono hend)
        fun outcome t ht => ?_
      cases outcome with
      | unopened failure => exact ht.mono hend
      | failed failure => exact ht.mono hend
      | completed value => exact ih hphases.2 hbody.2 hfollow.2 hfollow.1 hend ht _

/-- A failed run ends with an update that repeats what was reached. -/
theorem fail_run_rises (failure : Failure) (hs : s.board.Rises 100) :
    (failRun listener failure).Meets context s (fun _ t => RisingUpdates t.board.updates)
      fun t => RisingUpdates t.board.updates := by
  -- Until then nothing is done but what every computation may do, at the end of the last phase.
  have hlax : ∀ {α : Type} {x : Run α} {t : RunState},
      x.Stays (RunState.Keeping (RunState.Within .completed Gauge.done)) →
        t.Within .completed Gauge.done →
          x.Meets context t (fun _ u => u.Within .completed Gauge.done)
            fun u => RisingUpdates u.board.updates := fun hx ht =>
    (hx.meets_within hobservers ht).mono (fun _ _ hu => hu) fun _ hu => hu.rising_updates
  have hfault : ∀ phase, (asFault failure phase).Stays
      (RunState.Keeping (RunState.Within .completed Gauge.done)) := by
    intro phase
    unfold asFault
    cases failure with
    | fault f => exact stays_pure f
    | trouble t => exact stays_bind (stays_place ..) fun _ => stays_classify _ _
  have hrecord : ∀ f, (recordOnce f).Stays
      (RunState.Keeping (RunState.Within .completed Gauge.done)) := by
    intro f
    have hrefresh : ∀ s : RunState, s.Alike { s with log := s.log.refresh f } := fun _ =>
      ⟨ErrorLog.refresh_strategies, rfl, rfl, rfl, rfl, rfl⟩
    refine stays_bind (stays_modify_of_alike hrefresh) fun _ => stays_bind stays_get fun s => ?_
    split
    · exact stays_bind (stays_record f) fun _ => stays_pure ()
    · exact stays_pure ()
  refine meets_get_bind (meets_bind (hlax (hfault _) hs) fun f t ht => ?_)
  refine meets_bind (hlax (hrecord _) ht) fun _ u hu => ?_
  exact Board.Rises.rising_updates_failed hu (le_refl _)

/-- However phases end, their updates go up; completed ones end at a hundred. -/
theorem stages_to_end_rises {list : List (Stage σ)}
    (hphases : ∀ stage ∈ list, stage.phase ≠ .failed)
    (hbody : ∀ stage ∈ list, ∀ value, Rises context stage.phase (stage.body value))
    (hfollow : list.Pairwise fun first next =>
      first.phase.overallAt 100 ≤ next.phase.overallAt 0)
    (hs : s.board.Rises 0) (start : σ) :
    (stagesToEnd listener list start).Meets context s
      (fun ended t => RisingUpdates t.board.updates ∧ (ended.1.failure = none →
        ∃ last ∈ t.board.updates.getLast?, last.phase = .completed ∧ last.overall = 100))
      fun t => RisingUpdates t.board.updates := by
  have hstages := stages_rise listener hobservers hphases hbody hfollow
    (fun stage _ => stage.phase.overall_at_nonneg 0) (by norm_num) hs { value := start }
  refine meets_bind (hstages.mono (fun _ _ ht => ht) fun _ ht => ht.rising_updates) fun p t ht => ?_
  cases hfailure : p.failure with
  | some failure =>
      refine meets_bind (fail_run_rises listener hobservers failure ht) fun warnings u hu => ?_
      refine meets_bind (Q := fun _ v => RisingUpdates v.board.updates) hu fun _ v hv => ?_
      exact ⟨hv, fun hnone => absurd (hfailure.symm.trans hnone) (Option.some_ne_none failure)⟩
  | none =>
      have hended := Board.Rises.completed ht (le_refl 100) listener ⟨100, 1, 1⟩
        (some "Pipeline completed successfully")
      exact ⟨hended.1, fun _ => hended.2⟩

end Phases

end Run

/-- The phases of a run are some of all phases, in their order. -/
theorem phase_list_sublist {mode : String} {phases : List Phase}
    (h : phaseList mode = .ok phases) : phases.Sublist Phase.order := by
  unfold phaseList at h
  split at h
  · next between hbetween =>
      cases h
      have hmodes : ∀ entry ∈ modePhases,
          ([Phase.initialization] ++ entry.2 ++ [Phase.cleanup]).Sublist Phase.order := by decide
      exact hmodes _ (Assoc.mem_of_get? hbetween)
  · cases h

/-- The updates of the pipeline go up; those of a run that succeeds end at a hundred. -/
theorem Run.pipeline_rises {context : RunContext} {s : RunState} (q : RunRequest)
    (hobservers : context.observers = []) (hs : s.board.Rises 0) :
    (Run.pipelineBy q.work q.listener).Meets context s
      (fun outcome t => RisingUpdates t.board.updates ∧ (outcome.success = true →
        ∃ last ∈ t.board.updates.getLast?, last.phase = .completed ∧ last.overall = 100))
      fun t => RisingUpdates t.board.updates := by
  have hremark := observers_remark_note_fault hobservers q.listener
  rw [Run.Meets, Run.pipelineBy, Run.exec_with_reader]
  -- In a mode that does not exist nothing is announced.
  refine Run.meets_read_bind
    (Run.meets_use_bind (fun _ _ => hs.rising_updates) fun phases hphases => ?_)
  have hsublist := phase_list_sublist hphases
  have hfollow : (q.work.stages phases).Pairwise fun first next =>
      first.phase.overallAt 100 ≤ next.phase.overallAt 0 := by
    rw [PhaseWork.stages, List.pairwise_map]
    exact phases_follow_on.sublist hsublist
  have hranked : ∀ stage ∈ q.work.stages phases, stage.phase ≠ .failed := by
    intro stage hstage
    obtain ⟨phase, hphase, rfl⟩ := List.mem_map.mp hstage
    have horder : ∀ phase ∈ Phase.order, phase ≠ .failed := by decide
    exact horder phase (hsublist.subset hphase)
  have hended := Run.stages_to_end_rises q.listener hremark hranked
    (fun _ hstage => RunRequest.stage_body_rises hremark hstage) hfollow hs {}
  refine Run.meets_bind hended fun ended t ht => ?_
  exact Run.meets_get_bind ⟨ht.1, fun hsuccess => ht.2 (Option.isNone_iff_eq_none.mp hsuccess)⟩

theorem RunState.of_settings_rises (settings : Settings) (disk : Disk) :
    (RunState.ofSettings settings disk).board.Rises 0 where
  ascending := List.Pairwise.nil
  due := List.forall_mem_nil _
  reached := List.forall_mem_nil _
  limited := le_refl (0 : Rat)

/-- Whatever is run in whichever mode, wherever it fails, and whenever the listener asks for
cancellation: overall progress as the updates tell it never goes back, stays between zero and a
hundred, and is what the phase and its percentage come to, until a failure repeats what was reached.
A run that succeeds ends at a hundred. -/
theorem run_progress_rises (o : Orchestrator) (q : RunRequest) (runId : String) (grammar : Grammar)
    (clock : Clock) (disk : Disk) :
    RisingUpdates
      (o.run ⟨runId, grammar, clock, q.work, q.listener⟩ disk).state.board.updates ∧
    ∀ outcome, (o.run ⟨runId, grammar, clock, q.work, q.listener⟩ disk).outcome = .ok outcome →
      outcome.success = true →
      ∃ last ∈ (o.run ⟨runId, grammar, clock, q.work, q.listener⟩ disk).state.board.updates.getLast?,
        last.phase = .completed ∧ last.overall = 100 ∧ last.overallShown = 100 := by
  have hinitial := RunState.of_settings_rises o.settings disk
  cases hlocked : o.isLocked with
  | true =>
      rw [Orchestrator.run_of_locked hlocked]
      exact ⟨hinitial.rising_updates, fun _ houtcome => nomatch houtcome⟩
  | false =>
      have hmeets := Run.pipeline_rises q (rfl : (o.contextOf ⟨runId, grammar, clock, q.work,
        q.listener⟩).observers = []) hinitial
      unfold Run.Meets at hmeets
      cases hexec : (Run.pipelineBy q.work q.listener).exec (o.contextOf ⟨runId, grammar, clock,
          q.work, q.listener⟩) (RunState.ofSettings o.settings disk) with
      | mk result s =>
          have hrun : o.run ⟨runId, grammar, clock, q.work, q.listener⟩ disk =
              ⟨result, s, { settings := o.settings, progress := s.board.progress }⟩ :=
            Orchestrator.run_of_free hlocked disk hexec
          rw [hexec] at hmeets
          rw [hrun]
          cases result with
          | error failure => exact ⟨hmeets, fun _ houtcome => nomatch houtcome⟩
          | ok outcome =>
              refine ⟨hmeets.1, ?_⟩
              rintro _ ⟨⟩ hsuccess
              obtain ⟨last, hlast, hphase, hoverall⟩ := hmeets.2 hsuccess
              refine ⟨last, hlast, hphase, hoverall, ?_⟩
              rw [Progress.overallShown, hoverall]
              exact round_hundred

theorem run_progress_rises_card :
    cardRun.state.board.updates.map Progress.overall =
      [0, 5, 5, 25, 25, 55, 55, 55, 80, 80, 95, 95, 95, 199 / 2, 100, 100, 100, 100] ∧
    ∃ outcome, cardRun.outcome = .ok outcome ∧ outcome.success = true ∧
      RisingUpdates cardRun.state.board.updates ∧
      ∃ last ∈ cardRun.state.board.updates.getLast?,
        last.phase = .completed ∧ last.overall = 100 ∧ last.overallShown = 100 := by
  have hrun : (cardRun.state.board.updates.map Progress.overall,
      cardRun.outcome.toOption.map PipelineOutcome.success) =
        ([0, 5, 5, 25, 25, 55, 55, 55, 80, 80, 95, 95, 95, 199 / 2, 100, 100, 100, 100],
          some true) := by
    decide +kernel
  obtain ⟨hvalues, hsuccess⟩ := Prod.ext_iff.mp hrun
  cases houtcome : cardRun.outcome with
  | error failure =>
      rw [houtcome] at hsuccess
      cases hsuccess
  | ok outcome =>
      rw [houtcome] at hsuccess
      obtain ⟨hrises, hlast⟩ := run_progress_rises transformingOrchestrator
        ⟨⟨"", ["src"]⟩, ⟨0⟩, fun _ => none⟩ "run" (fun _ _ => cardTree) (fun _ => 0.0) cardDisk
      exact ⟨hvalues, outcome, rfl, Option.some.inj hsuccess, hrises,
        hlast outcome houtcome (Option.some.inj hsuccess)⟩

end ComponentMigration
