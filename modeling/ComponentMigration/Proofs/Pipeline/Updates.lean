import ComponentMigration.Proofs.Pipeline.Overall
import ComponentMigration.Proofs.Pipeline.Work

/-!
# Updates of progress

While a run goes through a phase, how far it has come is told by a gauge: by how many units have a
parse, have been assessed, or have an outcome of transformation.  A board rises to a limit if its
updates go up and none of them is above it; a state is within a phase up to a gauge if its board
rises to what the gauge shows.  Whatever announces no progress keeps that, and so does an update to
the share that the gauge shows.  The work of every phase does nothing else (`RunRequest.body_rises`):
in each of them the unit is counted by the time at which its share is announced.
-/

namespace ComponentMigration

/-- Whether an event is an update of progress. -/
def Event.isUpdate : Event → Bool
  | .progress => true
  | _ => false

/-- Whether an event tells of an assessed unit. -/
def Event.isAssessed : Event → Bool
  | .unit _ .inventoryGeneration => true
  | _ => false

namespace Board

/-- The updates of progress, in order. -/
def updates (b : Board) : List Progress :=
  (b.announcements.filter (·.event.isUpdate)).map (·.progress)

/-- How many units were announced as assessed. -/
def assessed (b : Board) : Nat := (b.announcements.filter (·.event.isAssessed)).length

/-- Updates that go up to at most a limit, each of them at what its phase and its percentage come
to. -/
structure Rises (b : Board) (limit : Rat) : Prop where
  ascending : b.updates.Pairwise fun p next => p.overall ≤ next.overall
  due : ∀ p ∈ b.updates, p.phase ≠ .failed ∧ p.overall = p.due
  reached : ∀ p ∈ b.updates, p.overall ≤ b.progress.overall
  limited : b.progress.overall ≤ limit

theorem Rises.mono {b : Board} {limit limit' : Rat} (h : b.Rises limit) (hle : limit ≤ limit') :
    b.Rises limit' :=
  { h with limited := h.limited.trans hle }

theorem Rises.to_end {b : Board} {phase : Phase} (h : b.Rises (phase.overallAt 0)) :
    b.Rises (phase.overallAt 100) := h.mono (phase.overall_at_le_end 0)

end Board

section Announcing

variable {listener : Listener} {event : Event} {s : RunState} {phase : Phase} {share : Share}
  {message : Option String} {limit : Rat}

theorem RunState.updates_announce :
    (s.announce listener event).board.updates =
      s.board.updates ++ if event.isUpdate then [s.board.progress] else [] := by
  rw [board_announce, Board.updates, List.filter_append, List.map_append]
  cases hevent : event.isUpdate <;> simp [Board.updates, hevent]

theorem RunState.assessed_announce :
    (s.announce listener event).board.assessed =
      s.board.assessed + if event.isAssessed then 1 else 0 := by
  rw [board_announce, Board.assessed, List.filter_append, List.length_append]
  cases hevent : event.isAssessed <;> simp [Board.assessed, hevent]

/-- The new update is the progress that the board is left with. -/
theorem RunState.updates_move_to :
    (s.moveTo listener phase share message).board.updates =
      s.board.updates ++ [(s.moveTo listener phase share message).board.progress] := by
  unfold moveTo
  rw [updates_announce, board_announce]
  rfl

theorem RunState.due_move_to :
    (s.moveTo listener phase share message).board.progress.due =
      phase.overallAt share.exact := by
  unfold moveTo
  rw [board_announce]
  rfl

/-- A failure counts for nothing. -/
theorem RunState.overall_move_to_failed :
    (s.moveTo listener .failed share message).board.progress.overall =
      s.board.progress.overall := by
  unfold moveTo
  rw [board_announce]
  rfl

theorem RunState.overall_move_to (hphase : phase ≠ .failed) :
    (s.moveTo listener phase share message).board.progress.overall =
      max s.board.progress.overall (phase.overallAt share.exact) := by
  have hcounts : (phase == .failed) = false := beq_eq_false_iff_ne.mpr hphase
  rw [moveTo, board_announce]
  dsimp only [Progress.moveTo, Progress.overall]
  rw [hcounts]
  exact overall_after_concat _ _

/-- What announces no progress leaves what was reached. -/
theorem Board.Rises.announce (h : s.board.Rises limit) (hupdate : event.isUpdate = false) :
    (s.announce listener event).board.Rises limit := by
  have hupdates : (s.announce listener event).board.updates = s.board.updates := by
    rw [RunState.updates_announce, hupdate]
    exact List.append_nil _
  have hprogress : (s.announce listener event).board.progress = s.board.progress := by
    rw [RunState.board_announce]
  refine ⟨?_, ?_, ?_, ?_⟩
  · rw [hupdates]
    exact h.ascending
  · rw [hupdates]
    exact h.due
  · rw [hupdates, hprogress]
    exact h.reached
  · rw [hprogress]
    exact h.limited

/-- A milestone that is no lower than the limit so far is reached, and becomes the limit. -/
theorem Board.Rises.move_to (h : s.board.Rises limit) (hphase : phase ≠ .failed)
    (hlimit : limit ≤ phase.overallAt share.exact) :
    (s.moveTo listener phase share message).board.Rises (phase.overallAt share.exact) := by
  have hbelow : s.board.progress.overall ≤ phase.overallAt share.exact := h.limited.trans hlimit
  have hmoved : (s.moveTo listener phase share message).board.progress.overall =
      phase.overallAt share.exact := by
    rw [RunState.overall_move_to hphase, max_eq_right hbelow]
  refine ⟨?_, ?_, ?_, hmoved.le⟩
  · rw [RunState.updates_move_to, List.pairwise_append]
    refine ⟨h.ascending, List.pairwise_singleton _ _, fun p hp next hnext => ?_⟩
    rw [List.mem_singleton.mp hnext, hmoved]
    exact (h.reached p hp).trans hbelow
  · rw [RunState.updates_move_to, List.forall_mem_append, List.forall_mem_singleton,
      RunState.phase_move_to]
    exact ⟨h.due, hphase, hmoved.trans RunState.due_move_to.symm⟩
  · rw [RunState.updates_move_to, List.forall_mem_append, List.forall_mem_singleton, hmoved]
    exact ⟨fun p hp => (h.reached p hp).trans hbelow, le_refl _⟩

end Announcing

/-- How much of a phase is done, as the number of assessed units and the results of units tell. -/
abbrev Gauge := Nat → UnitResults → Share

namespace Gauge

/-- Of a phase that has only begun. -/
def begun : Gauge := fun _ _ => ⟨0, 1, 1⟩

/-- Of a phase that is done. -/
def done : Gauge := fun _ _ => ⟨100, 1, 1⟩

/-- Of parsing some units. -/
def parsed (total : Nat) : Gauge := fun _ results => ⟨100, results.parses.length, total⟩

/-- Of assessing some units. -/
def assessed (total : Nat) : Gauge := fun units _ => ⟨100, units, total⟩

/-- Of transforming some units. -/
def transformed (total : Nat) : Gauge := fun _ results => ⟨90, results.transforms.length, total⟩

end Gauge

theorem share_exact_begun : (Share.exact ⟨0, 1, 1⟩) = 0 := by
  rw [Share.exact_eq, Nat.cast_zero, zero_mul, zero_div]

theorem share_exact_done : (Share.exact ⟨100, 1, 1⟩) = 100 := by
  rw [Share.exact_eq, Nat.cast_one, mul_one, div_one]
  rfl

/-- A state in which no more of a phase was reached than its gauge shows. -/
def RunState.Within (phase : Phase) (gauge : Gauge) (s : RunState) : Prop :=
  s.board.Rises (phase.overallAt (gauge s.board.assessed s.results).exact)

/-- States that are alike are within the same phase, up to the same gauge. -/
instance (phase : Phase) (gauge : Gauge) :
    RunState.IsLax (RunState.Keeping (RunState.Within phase gauge)) := by
  refine RunState.is_lax_keeping fun s t halike hs => ?_
  unfold RunState.Within at hs ⊢
  rwa [halike.board, halike.results]

namespace RunState.Within

variable {phase : Phase} {gauge : Gauge} {listener : Listener} {event : Event} {s : RunState}

theorem begin (h : s.board.Rises (phase.overallAt 0)) : s.Within phase gauge :=
  h.mono (phase.overall_at_mono (Share.exact_nonneg _))

theorem finish (h : s.Within phase gauge) : s.board.Rises (phase.overallAt 100) :=
  h.mono (phase.overall_at_le_end _)

theorem at_begin (h : s.Within phase Gauge.begun) : s.board.Rises (phase.overallAt 0) := by
  unfold Within Gauge.begun at h
  rwa [share_exact_begun] at h

theorem at_end (h : s.board.Rises (phase.overallAt 100)) : s.Within phase Gauge.done := by
  unfold Within Gauge.done
  rwa [share_exact_done]

/-- An announcement of anything but progress and an assessed unit. -/
theorem announce (h : s.Within phase gauge) (hupdate : event.isUpdate = false)
    (hassessed : event.isAssessed = false) : (s.announce listener event).Within phase gauge := by
  unfold Within
  rw [assessed_announce, hassessed, results_announce]
  exact Board.Rises.announce h hupdate

/-- An update to a share that the gauge shows once the unit of that share was announced. -/
theorem tell (event : Event) (h : s.Within phase gauge) (hphase : phase ≠ .failed) {share : Share}
    (hshare : (gauge s.board.assessed s.results).exact ≤ share.exact) (message : Option String)
    (hupdate : event.isUpdate = false)
    (hgauge : share.exact ≤
      (gauge (s.board.assessed + if event.isAssessed then 1 else 0) s.results).exact) :
    ((s.moveTo listener phase share message).announce listener event).Within phase gauge := by
  have hmoved : (s.moveTo listener phase share message).board.Rises
      (phase.overallAt share.exact) :=
    Board.Rises.move_to h hphase (phase.overall_at_mono hshare)
  have hassessed : (s.moveTo listener phase share message).board.assessed = s.board.assessed := by
    unfold moveTo
    rw [assessed_announce]
    rfl
  have hresults : (s.moveTo listener phase share message).results = s.results := by
    unfold moveTo
    rw [results_announce]
  unfold Within
  rw [assessed_announce, hassessed, results_announce, hresults]
  exact (hmoved.announce hupdate).mono (phase.overall_at_mono hgauge)

/-- A change of progress apart from its milestones. -/
theorem change (h : s.Within phase gauge) {p : Progress}
    (hp : p.milestones = s.board.progress.milestones) :
    RunState.Within phase gauge { s with board := { s.board with progress := p } } := by
  have hoverall : p.overall = s.board.progress.overall := by
    rw [Progress.overall, hp]
    rfl
  exact ⟨h.ascending, h.due, fun q hq => (h.reached q hq).trans hoverall.ge,
    hoverall.le.trans h.limited⟩

/-- More results of units. -/
theorem more (h : s.Within phase gauge) {results : UnitResults}
    (hmore : (gauge s.board.assessed s.results).exact ≤ (gauge s.board.assessed results).exact) :
    RunState.Within phase gauge { s with results := results } :=
  Board.Rises.mono h (phase.overall_at_mono hmore)

/-- A fault is noted. -/
theorem note_fault (h : s.Within phase gauge) (f : Fault) :
    (s.noteFault listener f).Within phase gauge :=
  announce (change h rfl) rfl rfl

end RunState.Within

section Staying

variable {phase : Phase} {gauge : Gauge} {listener : Listener} {α : Type} {x : Run α}
  {context : RunContext} {s : RunState}

/-- Warnings and counts leave what was reached. -/
theorem Listener.remarks_stay_within (listener : Listener) (phase : Phase) (gauge : Gauge) :
    listener.RemarksStay (RunState.Keeping (RunState.Within phase gauge)) where
  warn _ _ hs := RunState.Within.announce (hs.change rfl) rfl rfl
  progress s _ hchange hs := RunState.Within.change hs (hchange s.board.progress)

/-- The observers of faults leave what was reached. -/
def RunContext.ObserversRemark (context : RunContext) : Prop :=
  ∀ phase gauge, context.ObserversStay (RunState.Keeping (RunState.Within phase gauge))

theorem observers_remark_note_fault (hobservers : context.observers = []) (listener : Listener) :
    RunContext.ObserversRemark
      { context with observers := context.observers ++ [RunState.noteFault listener] } :=
  fun _ _ => (RunContext.observers_stay_of_nil hobservers _).note_fault fun f _ hs => hs.note_fault f

/-- A computation from the beginning of a phase to its end, or to a failure in it. -/
def Run.Rises (context : RunContext) (phase : Phase) (x : Run α) : Prop :=
  ∀ s : RunState, s.board.Rises (phase.overallAt 0) →
    x.Meets context s (fun _ t => t.board.Rises (phase.overallAt 100))
      fun t => t.board.Rises (phase.overallAt 100)

theorem Run.Stays.meets_within (hx : x.Stays (RunState.Keeping (RunState.Within phase gauge)))
    (hobservers : context.ObserversRemark) (hs : s.Within phase gauge) :
    x.Meets context s (fun _ t => t.Within phase gauge) fun t => t.Within phase gauge := by
  rw [Run.meets_iff_state]
  exact hx.state context s (hobservers phase gauge) hs

/-- What stays within a phase leaves no more than the end of the phase. -/
theorem Run.Stays.meets_rises (hx : x.Stays (RunState.Keeping (RunState.Within phase gauge)))
    (hobservers : context.ObserversRemark) (hs : s.Within phase gauge) :
    x.Meets context s (fun _ t => t.board.Rises (phase.overallAt 100))
      fun t => t.board.Rises (phase.overallAt 100) :=
  (hx.meets_within hobservers hs).mono (fun _ _ ht => ht.finish) fun _ ht => ht.finish

theorem Run.Stays.rises (hx : x.Stays (RunState.Keeping (RunState.Within phase gauge)))
    (hobservers : context.ObserversRemark) : Run.Rises context phase x :=
  fun _ hs => hx.meets_rises hobservers (.begin hs)

end Staying

namespace RunRequest

variable {q : RunRequest} {context : RunContext} {total : Nat}

/-- A parse is kept before its share is announced. -/
theorem stays_keep_parse_within (total : Nat) (r : TaskResult ParseOutcome) :
    (q.keepParse total r).Stays
      (RunState.Keeping (RunState.Within .parsing (Gauge.parsed total))) := by
  have htell : (q.tellParsed total r.key).Stays
      (RunState.Keeping (RunState.Within .parsing (Gauge.parsed total))) := by
    refine ⟨fun context s _ hs => ?_⟩
    have hcounted : RunState.Within .parsing (Gauge.parsed total) { s with board := { s.board with
        progress := { s.board.progress with parsed := s.results.parses.length } } } := hs.change rfl
    exact RunState.Within.tell (.unit r.key .parsing) hcounted (by decide) (le_refl _) none rfl
      (le_refl _)
  refine Run.stays_bind (Run.stays_modify fun s hs => hs.more ?_) fun _ =>
    Run.stays_bind (stays_require_parsed _ _) fun _ => htell
  exact Share.exact_mono 100 total (Assoc.length_le_length_set _ _ _)

/-- The unit that is announced with a share has been counted in it. -/
theorem stays_note_assessed_within (total : Nat) (c : Component) :
    (q.noteAssessed total c).Stays
      (RunState.Keeping (RunState.Within .inventoryGeneration (Gauge.assessed total))) := by
  refine ⟨fun context s _ hs => ?_⟩
  exact RunState.Within.tell (.unit c.id .inventoryGeneration) hs (by decide)
    (Share.exact_mono 100 total (Nat.le_succ _)) none rfl (le_refl _)

/-- An outcome of transformation is kept before its share is announced. -/
theorem stays_keep_transform_within (candidates : List Component)
    (r : TaskResult TransformOutcome) :
    (q.keepTransform candidates r).Stays (RunState.Keeping
      (RunState.Within .outputGeneration (Gauge.transformed candidates.length))) := by
  have htell : (q.tellTransformed candidates.length r.key).Stays (RunState.Keeping
      (RunState.Within .outputGeneration (Gauge.transformed candidates.length))) := by
    refine ⟨fun context s _ hs => ?_⟩
    exact RunState.Within.tell (.unit r.key .outputGeneration) hs (by decide) (le_refl _) none rfl
      (le_refl _)
  unfold keepTransform
  cases r.transformOutcome candidates with
  | none => exact Run.stays_trouble _
  | some outcome =>
      refine Run.stays_bind (Run.stays_modify fun s hs => hs.more ?_) fun _ => htell
      exact Share.exact_mono 90 candidates.length (Assoc.length_le_length_set _ _ _)

variable (hobservers : context.ObserversRemark)
include hobservers

theorem transform_units_rises (components : List Component) (inventory : Inventory) :
    Run.Rises context .outputGeneration (q.transformUnits components inventory) := by
  intro s hs
  have hend : s.board.Rises (Phase.outputGeneration.overallAt 100) := hs.to_end
  refine Run.meets_read_bind (Run.meets_use_bind (fun _ _ => hend) fun levels _ => ?_)
  dsimp only
  split
  · exact hend
  · refine Run.meets_bind ((stays_transform_batch _ _ (stays_keep_transform_within _)).rises
      hobservers s hs) fun _ t ht => ?_
    -- What follows announces no progress any more.
    have hlater : Run.Stays (RunState.Keeping (RunState.Within .outputGeneration Gauge.done)) (do
        requireTransformed
        (transformCandidates levels inventory components).forM q.validateOne) :=
      Run.stays_bind stays_require_transformed fun _ => Run.stays_for_m
        (stays_validate_one (q.listener.remarks_stay_within _ _) fun _ _ hs => .at_end hs.finish) _
    exact hlater.meets_rises hobservers (.at_end ht)

theorem output_phase_rises (v : StageValues) :
    Run.Rises context .outputGeneration (q.outputPhase v) := by
  intro s hs
  have hend : s.board.Rises (Phase.outputGeneration.overallAt 100) := hs.to_end
  have hreport : ∀ (inventory : Inventory) (t : RunState),
      t.board.Rises (Phase.outputGeneration.overallAt 100) →
      (reportPhase context.settings.pipeline inventory v.analysis).Meets context t
        (fun _ u => u.board.Rises (Phase.outputGeneration.overallAt 100))
        fun u => u.board.Rises (Phase.outputGeneration.overallAt 100) := fun inventory t ht =>
    (stays_report_phase (R := RunState.Keeping (RunState.Within .outputGeneration Gauge.done))
      (fun _ _ hs => .at_end hs.finish) _ inventory v.analysis).meets_rises hobservers (.at_end ht)
  refine Run.meets_read_bind ?_
  cases v.inventory with
  | none => exact hend
  | some inventory =>
      dsimp only
      split
      · exact Run.meets_bind (transform_units_rises hobservers _ _ s hs) fun _ t ht =>
          hreport inventory t ht
      · exact hreport inventory s hend

/-- The work of every phase leaves no more than the end of the phase, however it ends. -/
theorem body_rises (phase : Phase) (v : StageValues) :
    Run.Rises context phase (q.work.body phase v) := by
  have hbegun : ∀ phase : Phase, q.listener.RemarksStay
      (RunState.Keeping (RunState.Within phase Gauge.begun)) := fun phase =>
    q.listener.remarks_stay_within phase Gauge.begun
  cases phase with
  | discovery =>
      exact (Run.stays_bind (stays_discover_phase (hbegun .discovery)) fun _ =>
        Run.stays_pure _).rises hobservers
  | parsing =>
      exact (Run.stays_bind (stays_parse_phase (stays_keep_parse_within _)) fun _ =>
        Run.stays_pure _).rises hobservers
  | dependencyAnalysis =>
      exact (Run.stays_bind (stays_analyze_phase (hbegun .dependencyAnalysis) v.units) fun _ =>
        Run.stays_pure _).rises hobservers
  | inventoryGeneration =>
      exact (Run.stays_bind (stays_inventory_phase (stays_note_assessed_within _)) fun _ =>
        Run.stays_pure _).rises hobservers
  | outputGeneration =>
      exact fun s hs => Run.meets_bind (output_phase_rises hobservers v s hs) fun _ _ ht => ht
  | initialization | cleanup | completed | failed => exact fun s hs => hs.to_end

theorem stage_body_rises {phases : List Phase} {stage : Stage StageValues}
    (hstage : stage ∈ q.work.stages phases) (v : StageValues) :
    Run.Rises context stage.phase (stage.body v) := by
  obtain ⟨phase, -, rfl⟩ := List.mem_map.mp hstage
  exact body_rises hobservers phase v

end RunRequest

end ComponentMigration
