import ComponentMigration.Pipeline.Phases
import ComponentMigration.Proofs.Fault.Recovery
import ComponentMigration.Proofs.Run.Stays

/-!
# Sequences of phases

What a run announces of its phases, and what is left when they have run one after the other.
-/

namespace ComponentMigration

/-!
## Phases as they are announced

Among the announcements of a run, those of phases are its marks: a phase starts, a phase is complete.
A run that goes through phases one after the other leaves the marks `told completed interrupted`: a
start and a completion for each phase that was completed, and possibly the start of one more.
Whatever does not announce phases is quiet: it leaves the marks as they are.
-/

/-- The announcement that a phase starts or is complete. -/
inductive PhaseMark where
  | start (phase : Phase)
  | complete (phase : Phase)
  deriving DecidableEq, Repr

/-- The mark that an event sets. -/
def Event.mark? : Event → Option PhaseMark
  | .phaseStart phase => some (.start phase)
  | .phaseComplete phase => some (.complete phase)
  | _ => none

/-- The marks of a board, in order. -/
def Board.marks (b : Board) : List PhaseMark := b.announcements.filterMap (·.event.mark?)

/-- The phases that started. -/
def startedPhases (marks : List PhaseMark) : List Phase :=
  marks.filterMap fun
    | .start phase => some phase
    | .complete _ => none

/-- The phases that are complete. -/
def completedPhases (marks : List PhaseMark) : List Phase :=
  marks.filterMap fun
    | .start _ => none
    | .complete phase => some phase

/-- The marks of phases that were completed one after the other, and of one that was interrupted. -/
def told (completed : List Phase) (interrupted : Option Phase) : List PhaseMark :=
  completed.flatMap (fun phase => [.start phase, .complete phase]) ++
    (interrupted.map PhaseMark.start).toList

section Told

variable {completed : List Phase} {interrupted : Option Phase} {phase : Phase}
  {before after : List PhaseMark}

theorem told_cons : told (phase :: completed) interrupted =
    .start phase :: .complete phase :: told completed interrupted := rfl

theorem started_phases_told :
    startedPhases (told completed interrupted) = completed ++ interrupted.toList := by
  induction completed with
  | nil => cases interrupted <;> rfl
  | cons phase rest ih =>
      rw [told_cons, List.cons_append, ← ih]
      rfl

theorem completed_phases_told : completedPhases (told completed interrupted) = completed := by
  induction completed with
  | nil => cases interrupted <;> rfl
  | cons phase rest ih =>
      rw [told_cons]
      exact congrArg (phase :: ·) ih

/-- A phase that another one starts after is complete at once. -/
theorem complete_of_told (h : told completed interrupted = before ++ .start phase :: after)
    (hafter : startedPhases after ≠ []) : ∃ rest, after = .complete phase :: rest := by
  -- The mark in question is the first one, or the two marks of a completed phase stand before it.
  induction completed generalizing before with
  | nil =>
      cases interrupted with
      | none => cases before <;> cases h
      | some other =>
          cases before with
          | nil =>
              cases h
              exact absurd rfl hafter
          | cons mark before => cases before <;> cases h
  | cons first rest ih =>
      rw [told_cons] at h
      cases before with
      | nil =>
          cases h
          exact ⟨_, rfl⟩
      | cons mark before =>
          cases before with
          | nil => cases h
          | cons mark' before =>
              obtain ⟨-, htail⟩ := List.cons.inj h
              obtain ⟨-, hrest⟩ := List.cons.inj htail
              exact ih hrest

end Told

/-- Boards with the same marks. -/
def Board.SameMarks (b c : Board) : Prop := c.marks = b.marks

instance : IsPreorder Board Board.SameMarks where
  refl _ := rfl
  trans _ _ _ hfirst hsecond := Eq.trans hsecond hfirst

/-- A computation that announces no phase. -/
abbrev Run.Quiet (x : Run α) : Prop := x.Keeps Board.SameMarks

namespace RunState

variable {listener : Listener} {s : RunState}

theorem board_announce (listener : Listener) (event : Event) (s : RunState) :
    (s.announce listener event).board = { s.board with
      announcements := s.board.announcements ++ [⟨event, s.board.progress⟩] } := by
  unfold announce
  dsimp only
  split <;> rfl

/-- Announcements do not touch the results of units. -/
theorem results_announce (listener : Listener) (event : Event) (s : RunState) :
    (s.announce listener event).results = s.results := by
  unfold announce
  dsimp only
  split <;> rfl

theorem marks_announce (event : Event) :
    (s.announce listener event).board.marks = s.board.marks ++ event.mark?.toList := by
  rw [board_announce, Board.marks, List.filterMap_append]
  cases hmark : event.mark? <;> simp [Board.marks, hmark]

@[simp] theorem marks_move_to (phase : Phase) (share : Share) (message : Option String) :
    (s.moveTo listener phase share message).board.marks = s.board.marks := by
  rw [moveTo, marks_announce]
  exact List.append_nil _

theorem phase_move_to (phase : Phase) (share : Share) (message : Option String) :
    (s.moveTo listener phase share message).board.progress.phase = phase := by
  rw [moveTo, board_announce]
  rfl

@[simp] theorem marks_warn (message : String) :
    (s.warn listener message).board.marks = s.board.marks := by
  rw [warn, marks_announce]
  exact List.append_nil _

@[simp] theorem marks_note_fault (f : Fault) :
    (s.noteFault listener f).board.marks = s.board.marks := by
  rw [noteFault, marks_announce]
  exact List.append_nil _

end RunState

end ComponentMigration

namespace ComponentMigration.Run

/-!
## Running phases one after the other

A sequence of phases never fails as a whole: its outcome says how far it got.  `stages_spec` says
what it leaves behind, whatever the work of the phases does besides announcing phases: the marks of
the completed phases in order, and what holds of the values after them.  `stages_to_end_spec` adds
the state in which the run ends.
-/

variable {σ : Type} {context : RunContext} {s : RunState} (listener : Listener)

/-- The observers of faults announce no phases. -/
def QuietObservers (context : RunContext) : Prop :=
  ∀ observe ∈ context.observers, ∀ f s, (observe f s).board.marks = s.board.marks

/-- The marks that a quiet computation leaves. -/
theorem Quiet.marks {x : Run σ} (h : x.Quiet) (hobservers : QuietObservers context) :
    (x.exec context s).2.board.marks = s.board.marks :=
  h.board context s hobservers

section Parts

variable {R : RunState → RunState → Prop} [RunState.IsLax R]
  (htoken : ∀ (s : RunState) token, R s { s with token := token })
include htoken

theorem stays_set_deadline (phase : Phase) : (setDeadline phase).Stays R :=
  stays_bind stays_read fun _ => stays_bind stays_read fun _ => stays_bind (stays_use _) fun _ =>
    stays_bind stays_get fun _ => stays_bind (stays_use _) fun _ =>
      stays_modify fun s => htoken s _

/-- Opening a phase is the update of progress and the announcement, besides the token. -/
theorem stays_open_phase {phase : Phase}
    (hmove : ∀ (s : RunState) message, R s (s.moveTo listener phase ⟨0, 1, 1⟩ message))
    (hstart : ∀ s : RunState, R s (s.announce listener (.phaseStart phase))) :
    (openPhase listener phase).Stays R :=
  stays_bind (stays_place ..) fun _ => stays_bind (stays_checkpoint _) fun _ =>
    stays_bind (stays_modify fun s => hmove s _) fun _ =>
      stays_bind (stays_modify hstart) fun _ => stays_set_deadline htoken phase

end Parts

theorem quiet_set_deadline (phase : Phase) : (setDeadline phase).Quiet :=
  (stays_set_deadline (fun _ _ => rfl) phase).keeps

/-- Closing a phase is the update of progress and the announcement. -/
theorem stays_close_phase {R : RunState → RunState → Prop} [RunState.IsLax R] {phase : Phase}
    (hmove : ∀ (s : RunState) message, R s (s.moveTo listener phase ⟨100, 1, 1⟩ message))
    (hcomplete : ∀ s : RunState, R s (s.announce listener (.phaseComplete phase))) :
    (closePhase listener phase).Stays R :=
  stays_bind (stays_modify fun s => hmove s _) fun _ => stays_modify hcomplete

/-- Opening a phase announces it, unless the run is cancelled; it may fail afterwards. -/
theorem open_phase_spec (hobservers : QuietObservers context) (phase : Phase) :
    ∃ result t, (openPhase listener phase).exec context s = (result, t) ∧
      (t.board.marks = s.board.marks ++ [.start phase] ∨
        t.board.marks = s.board.marks ∧ ∃ failure, result = .error failure) := by
  obtain ⟨place, hplace⟩ : ∃ place, (Run.place none none none (some phase.label)).exec context s =
      (.ok place, s) := ⟨_, rfl⟩
  have hmarks : ((checkpoint place).exec context s).2.board.marks = s.board.marks :=
    Quiet.marks (stays_checkpoint place).keeps hobservers
  rw [openPhase, exec_bind, hplace]
  dsimp only
  rw [exec_bind]
  -- Cancellation comes before the announcement, a deadline that cannot be set comes after it.
  cases hcheck : (checkpoint place).exec context s with
  | mk checked t =>
      rw [hcheck] at hmarks
      cases checked with
      | error failure => exact ⟨_, t, rfl, Or.inr ⟨hmarks, failure, rfl⟩⟩
      | ok _ =>
          refine ⟨_, _, rfl, Or.inl ?_⟩
          show ((setDeadline phase).exec context (RunState.announce listener (.phaseStart phase)
            (RunState.moveTo listener phase _ _ t))).2.board.marks = _
          rw [Quiet.marks (quiet_set_deadline phase) hobservers, RunState.marks_announce,
            RunState.marks_move_to, hmarks]
          rfl

/-- Closing a phase announces that it is complete. -/
theorem close_phase_spec (phase : Phase) :
    ∃ t, (closePhase listener phase).exec context s = (.ok (), t) ∧
      t.board.marks = s.board.marks ++ [.complete phase] := by
  refine ⟨_, rfl, ?_⟩
  show (RunState.announce listener (.phaseComplete phase)
    (RunState.moveTo listener phase _ _ s)).board.marks = _
  rw [RunState.marks_announce, RunState.marks_move_to]
  rfl

/-- How the marks of a phase show its end. -/
def PhaseOutcome.Marked (phase : Phase) (s t : RunState) : PhaseOutcome σ → Prop
  | .unopened _ => t.board.marks = s.board.marks ∨ t.board.marks = s.board.marks ++ [.start phase]
  | .failed _ => t.board.marks = s.board.marks ++ [.start phase]
  | .completed _ => t.board.marks = s.board.marks ++ [.start phase, .complete phase]

/-- A phase never fails as a whole, and its marks show how it ended.  Its value is that of its
work. -/
theorem run_phase_spec (hobservers : QuietObservers context) {stage : Stage σ} {value : σ}
    (hquiet : (stage.body value).Quiet) :
    ∃ outcome t, (runPhase listener stage value).exec context s = (.ok outcome, t) ∧
      outcome.Marked stage.phase s t ∧
      ∀ value', outcome = .completed value' →
        ∃ u v, (stage.body value).exec context u = (.ok value', v) := by
  obtain ⟨opened, u, hopen, hopenMarks⟩ := open_phase_spec listener hobservers stage.phase (s := s)
  rw [runPhase, exec_bind, exec_attempt, hopen]
  cases opened with
  | error failure =>
      refine ⟨.unopened failure, u, rfl, ?_, fun _ hcompleted => nomatch hcompleted⟩
      exact hopenMarks.elim Or.inr fun hmarks => Or.inl hmarks.1
  | ok _ =>
      have hopened : u.board.marks = s.board.marks ++ [.start stage.phase] :=
        hopenMarks.resolve_right (by rintro ⟨-, -, ⟨⟩⟩)
      have hworked : ((stage.body value).exec context u).2.board.marks = u.board.marks :=
        Quiet.marks hquiet hobservers
      dsimp only
      rw [exec_bind, exec_attempt]
      cases hbody : (stage.body value).exec context u with
      | mk result v =>
          rw [hbody] at hworked
          dsimp only
          rw [exec_bind]
          -- The deadline is lifted however the work has ended.
          cases result with
          | error failure =>
              exact ⟨.failed failure, { v with token := v.token.clearDeadline }, rfl,
                hworked.trans hopened, fun _ hcompleted => nomatch hcompleted⟩
          | ok value' =>
              obtain ⟨w, hclose, hclosed⟩ : ∃ w, (closePhase listener stage.phase).exec context
                  { v with token := v.token.clearDeadline } = (.ok (), w) ∧
                    w.board.marks = v.board.marks ++ [.complete stage.phase] :=
                close_phase_spec listener stage.phase
              refine ⟨.completed value', w, ?_, ?_, ?_⟩
              · show (closePhase listener stage.phase >>= _).exec context _ = _
                rw [exec_bind, hclose]
                rfl
              · show w.board.marks = _
                rw [hclosed, hworked, hopened, List.append_assoc]
                rfl
              · rintro _ ⟨⟩
                exact ⟨u, v, hbody⟩

/-- What a sequence of phases leaves behind: some of them completed in order, possibly one more
started, and a value of which `Holds` is true after the completed ones. -/
structure StagesRun (Holds : List Phase → σ → Prop) (earlier phases completed : List Phase)
    (interrupted : Option Phase) (s t : RunState) (p : StageProgress σ) : Prop where
  sequence : completed ++ interrupted.toList <+: phases
  marks : t.board.marks = s.board.marks ++ told completed interrupted
  value : Holds (earlier ++ completed) p.value
  failure : p.failure = none ↔ completed = phases

namespace StagesRun

variable {Holds : List Phase → σ → Prop} {earlier phases completed : List Phase} {phase : Phase}
  {interrupted : Option Phase} {t u : RunState} {p : StageProgress σ}

/-- Phases of which the first one failed, after it was announced or before. -/
theorem of_failure (hphase : ∀ started ∈ interrupted, started = phase)
    (hmarks : t.board.marks = s.board.marks ++ (interrupted.map PhaseMark.start).toList)
    (hvalue : Holds earlier p.value) (hfailure : p.failure ≠ none) :
    StagesRun Holds earlier (phase :: phases) [] interrupted s t p := by
  refine ⟨?_, hmarks, ?_, ?_⟩
  · cases interrupted with
    | none => exact List.nil_prefix
    | some started =>
        obtain rfl := hphase started rfl
        exact ⟨phases, rfl⟩
  · rwa [List.append_nil]
  · exact iff_of_false hfailure (List.cons_ne_nil _ _).symm

/-- Phases that follow one that was completed. -/
theorem after_complete
    (hmarks : u.board.marks = s.board.marks ++ [.start phase, .complete phase])
    (h : StagesRun Holds (earlier ++ [phase]) phases completed interrupted u t p) :
    StagesRun Holds earlier (phase :: phases) (phase :: completed) interrupted s t p := by
  refine ⟨?_, ?_, ?_, ?_⟩
  · rw [List.cons_append, List.cons_prefix_cons]
    exact ⟨rfl, h.sequence⟩
  · rw [h.marks, hmarks, told_cons, List.append_assoc]
    rfl
  · have hvalue := h.value
    rwa [List.append_assoc] at hvalue
  · rw [h.failure, List.cons_inj_right]

end StagesRun

/-- A sequence of phases leaves its marks and values behind, whatever its work does besides
announcing phases. -/
theorem stages_spec {Holds : List Phase → σ → Prop} {list : List (Stage σ)}
    (hquiet : ∀ stage ∈ list, ∀ v, (stage.body v).Quiet)
    (hholds : ∀ stage ∈ list, ∀ earlier v v' context s t, Holds earlier v →
      (stage.body v).exec context s = (.ok v', t) → Holds (earlier ++ [stage.phase]) v')
    (hobservers : QuietObservers context) {earlier : List Phase} {p : StageProgress σ}
    (hstart : p.failure = none) (hvalue : Holds earlier p.value) :
    ∃ p' t completed interrupted, (stages listener list p).exec context s = (.ok p', t) ∧
      StagesRun Holds earlier (list.map (·.phase)) completed interrupted s t p' := by
  -- What holds of the values is told by all phases so far, hence `earlier` grows on the way.
  induction list generalizing s p earlier with
  | nil =>
      refine ⟨p, s, [], none, rfl, ⟨List.nil_prefix, ?_, ?_, ?_⟩⟩
      · exact (List.append_nil _).symm
      · rwa [List.append_nil]
      · exact iff_of_true hstart rfl
  | cons stage rest ih =>
      obtain ⟨outcome, u, hphase, hmarked, hcompleted⟩ :=
        run_phase_spec listener hobservers (hquiet stage List.mem_cons_self p.value) (s := s)
      rw [stages, exec_bind, hphase]
      cases outcome with
      | unopened failure =>
          rcases hmarked with hmarks | hmarks
          · exact ⟨_, u, [], none, rfl, .of_failure (by simp)
              (hmarks.trans (List.append_nil _).symm) hvalue (Option.some_ne_none failure)⟩
          · exact ⟨_, u, [], some stage.phase, rfl, .of_failure (by simp) hmarks hvalue
              (Option.some_ne_none failure)⟩
      | failed failure =>
          exact ⟨_, u, [], some stage.phase, rfl, .of_failure (by simp) hmarked hvalue
            (Option.some_ne_none failure)⟩
      | completed value =>
          obtain ⟨v, w, hbody⟩ := hcompleted value rfl
          obtain ⟨p', t, completed, interrupted, hrest, hrun⟩ :=
            ih (fun stage' hstage' => hquiet stage' (List.mem_cons_of_mem _ hstage'))
              (fun stage' hstage' => hholds stage' (List.mem_cons_of_mem _ hstage'))
              (p := { p with value := value, started := p.started ++ [stage.phase] }) hstart
              (hholds stage List.mem_cons_self earlier p.value value context v w hvalue hbody)
          exact ⟨p', t, stage.phase :: completed, interrupted, hrest, hrun.after_complete hmarked⟩

theorem as_fault_spec (hobservers : QuietObservers context) (failure : Failure) (phase : String) :
    ∃ f t, (asFault failure phase).exec context s = (.ok f, t) ∧
      t.board.marks = s.board.marks := by
  have hquiet : (asFault failure phase).Quiet := by
    unfold asFault
    cases failure with
    | fault f => exact keeps_pure f
    | trouble t => exact (stays_bind (stays_place ..) fun _ => stays_classify _ _).keeps
  have hmarks := Quiet.marks hquiet hobservers (s := s)
  cases failure with
  | fault f => exact ⟨f, s, rfl, rfl⟩
  | trouble t => exact ⟨_, _, rfl, hmarks⟩

/-- Recording the fault of a failed run always succeeds. -/
theorem record_once_spec (hobservers : QuietObservers context) (f : Fault) :
    ∃ t, (recordOnce f).exec context s = (.ok (), t) ∧ t.board.marks = s.board.marks := by
  rw [recordOnce, exec_bind, exec_modify]
  dsimp only
  rw [exec_bind, exec_get]
  dsimp only
  split
  · have hmarks := Quiet.marks (stays_record f).keeps hobservers
      (s := { s with log := s.log.refresh f })
    rw [exec_bind, exec_record] at *
    exact ⟨_, rfl, hmarks⟩
  · exact ⟨_, rfl, rfl⟩

/-- A failed run ends in the failed state. -/
theorem fail_run_spec (hobservers : QuietObservers context) (failure : Failure) :
    ∃ warnings t, (failRun listener failure).exec context s = (.ok warnings, t) ∧
      t.board.marks = s.board.marks ∧ t.board.progress.phase = .failed := by
  obtain ⟨f, u, hfault, hfaultMarks⟩ :=
    as_fault_spec hobservers failure s.board.progress.phase.label (s := s)
  obtain ⟨v, hrecord, hrecordMarks⟩ :=
    record_once_spec hobservers (f.during s.board.progress.phase.label) (s := u)
  rw [failRun, exec_bind, exec_get]
  dsimp only
  rw [exec_bind, hfault]
  dsimp only
  rw [exec_bind, hrecord]
  refine ⟨_, _, rfl, ?_, RunState.phase_move_to _ _ _⟩
  rw [RunState.marks_move_to, hrecordMarks, hfaultMarks]

/-- A sequence of phases ends in the completed state if all of them were completed, and in the failed
state otherwise. -/
theorem stages_to_end_spec {Holds : List Phase → σ → Prop} {list : List (Stage σ)} {start : σ}
    (hquiet : ∀ stage ∈ list, ∀ v, (stage.body v).Quiet)
    (hholds : ∀ stage ∈ list, ∀ earlier v v' context s t, Holds earlier v →
      (stage.body v).exec context s = (.ok v', t) → Holds (earlier ++ [stage.phase]) v')
    (hobservers : QuietObservers context) (hstart : Holds [] start) :
    ∃ p warnings t completed interrupted,
      (stagesToEnd listener list start).exec context s = (.ok (p, warnings), t) ∧
      StagesRun Holds [] (list.map (·.phase)) completed interrupted s t p ∧
      t.board.progress.phase = if p.failure.isNone then .completed else .failed := by
  obtain ⟨p, u, completed, interrupted, hstages, hrun⟩ :=
    stages_spec listener hquiet hholds hobservers (p := { value := start }) rfl hstart (s := s)
  rw [stagesToEnd, exec_bind, hstages]
  dsimp only
  cases hfailure : p.failure with
  | none =>
      refine ⟨p, [], _, completed, interrupted, rfl, { hrun with marks := ?_ }, ?_⟩
      · exact (RunState.marks_move_to _ _ _).trans hrun.marks
      · rw [hfailure]
        exact RunState.phase_move_to _ _ _
  | some failure =>
      obtain ⟨warnings, v, hfail, hmarks, hphase⟩ :=
        fail_run_spec listener hobservers failure (s := u)
      dsimp only
      rw [exec_bind, hfail]
      refine ⟨p, warnings, _, completed, interrupted, rfl, { hrun with marks := ?_ }, ?_⟩
      · exact hmarks.trans hrun.marks
      · rw [hfailure]
        exact hphase

end ComponentMigration.Run
