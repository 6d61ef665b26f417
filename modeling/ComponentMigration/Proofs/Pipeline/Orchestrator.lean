import Mathlib.Data.List.Perm.Subperm
import ComponentMigration.Pipeline.Orchestrator
import ComponentMigration.Proofs.Pipeline.Stages
import ComponentMigration.Proofs.Pipeline.Work
import ComponentMigration.Proofs.Settings.Validation

/-!
# What a run tells of its phases

The announcements of a run and its outcome tell the same story, whatever the phases do besides
announcing phases, wherever they fail, and whenever the listener asks for cancellation.
`pipeline_by_spec` says so for one run from a state without announcements; `run_reports_phases` adds
the orchestrator, which is free again after every run.
-/

namespace ComponentMigration

/-- Values that the completed phases gave, and no others. -/
structure StageValues.GivenBy (completed : List Phase) (v : StageValues) : Prop where
  discovery : v.discovery.isSome ↔ .discovery ∈ completed
  analysis : v.analysis.isSome ↔ .dependencyAnalysis ∈ completed
  inventory : v.inventory.isSome ↔ .inventoryGeneration ∈ completed

/-- An outcome that agrees with the marks of a run through phases. -/
structure PipelineOutcome.Fits (phases : List Phase) (marks : List PhaseMark)
    (outcome : PipelineOutcome) : Prop where
  started : startedPhases marks <+: phases
  completed_before_next : ∀ before phase after, marks = before ++ .start phase :: after →
    startedPhases after ≠ [] → ∃ rest, after = .complete phase :: rest
  success : outcome.success = true ↔ ∀ phase ∈ phases, phase ∈ completedPhases marks
  phase_completed : outcome.success = true ↔ outcome.phase = .completed
  phase_failed : outcome.success = false ↔ outcome.phase = .failed
  values : outcome.values.GivenBy (completedPhases marks)

namespace PhaseWork

variable {work : PhaseWork}

theorem Quiet.body (hwork : work.Quiet) (phase : Phase) (v : StageValues) :
    (work.body phase v).Quiet := by
  unfold PhaseWork.body
  split
  · exact Run.keeps_bind hwork.discover fun _ => Run.keeps_pure _
  · exact Run.keeps_bind (hwork.parse _) fun _ => Run.keeps_pure _
  · exact Run.keeps_bind (hwork.analyze _) fun _ => Run.keeps_pure _
  · exact Run.keeps_bind (hwork.assess _) fun _ => Run.keeps_pure _
  · exact Run.keeps_bind (hwork.write _) fun _ => Run.keeps_pure _
  · exact Run.keeps_pure _

/-- A phase sets its own value if it succeeds, and no other. -/
theorem given_by_body {earlier : List Phase} {v v' : StageValues} {phase : Phase}
    {context : RunContext} {s t : RunState} (hvalues : v.GivenBy earlier)
    (hbody : (work.body phase v).exec context s = (.ok v', t)) :
    v'.GivenBy (earlier ++ [phase]) := by
  obtain ⟨hdiscovery, hanalysis, hinventory⟩ := hvalues
  unfold PhaseWork.body at hbody
  split at hbody
  · obtain ⟨found, u, -, ⟨⟩⟩ := Run.exec_bind_eq_ok.mp hbody
    constructor <;> simp [hanalysis, hinventory]
  · obtain ⟨_, u, -, ⟨⟩⟩ := Run.exec_bind_eq_ok.mp hbody
    constructor <;> simp [hdiscovery, hanalysis, hinventory]
  · obtain ⟨analysis, u, -, ⟨⟩⟩ := Run.exec_bind_eq_ok.mp hbody
    constructor <;> simp [hdiscovery, hinventory]
  · obtain ⟨inventory, u, -, ⟨⟩⟩ := Run.exec_bind_eq_ok.mp hbody
    constructor <;> simp [hdiscovery, hanalysis]
  · obtain ⟨reports, u, -, ⟨⟩⟩ := Run.exec_bind_eq_ok.mp hbody
    constructor <;> simp [hdiscovery, hanalysis, hinventory]
  -- The remaining phases set nothing, and they are none of those that do.
  · cases hbody
    constructor <;> grind

@[simp] theorem map_phase_stages (phases : List Phase) :
    (work.stages phases).map (·.phase) = phases := by
  rw [stages, List.map_map]
  exact List.map_id phases

end PhaseWork

/-- Every mode has its phases, all of them different. -/
theorem phases_of_mode {mode : String} (hmode : mode ∈ SettingsTable.modes) :
    ∃ between, modePhases.get? mode = some between ∧
      (Phase.initialization :: between ++ [Phase.cleanup]).Nodup := by
  simp only [SettingsTable.modes, List.mem_cons, List.not_mem_nil, or_false] at hmode
  obtain rfl | rfl | rfl := hmode
  · exact ⟨_, rfl, by decide⟩
  · exact ⟨_, rfl, by decide⟩
  · exact ⟨_, rfl, by decide⟩

/-- Some first ones of different phases are all of them if they contain all of them. -/
theorem completed_eq_iff {completed phases : List Phase} (hfirst : completed <+: phases)
    (hnodup : phases.Nodup) : completed = phases ↔ ∀ phase ∈ phases, phase ∈ completed := by
  constructor
  · rintro rfl phase hphase
    exact hphase
  · intro hall
    exact hfirst.eq_of_length_le (hnodup.subperm hall).length_le

namespace Run

variable {context : RunContext} {s : RunState} {work : PhaseWork} {phases : List Phase}

theorem quiet_observers_append (hobservers : QuietObservers context) (listener : Listener) :
    QuietObservers { context with
      observers := context.observers ++ [RunState.noteFault listener] } := by
  have hquiet : context.ObserversStay (InvImage Board.SameMarks RunState.board) := hobservers
  exact hquiet.note_fault fun f _ => RunState.marks_note_fault f

/-- The outcome of phases that have ended agrees with their marks. -/
theorem StagesRun.fits {completed : List Phase} {interrupted : Option Phase} {t : RunState}
    {p : StageProgress StageValues} (runId : String) (warnings : List String)
    (h : StagesRun StageValues.GivenBy [] phases completed interrupted s t p)
    (hmarks : s.board.marks = [])
    (hphase : t.board.progress.phase = if p.failure.isNone then .completed else .failed)
    (hnodup : phases.Nodup) :
    (PipelineOutcome.ofStages runId p warnings t).Fits phases t.board.marks := by
  have htold : t.board.marks = told completed interrupted := by
    rw [h.marks, hmarks, List.nil_append]
  rw [htold]
  refine ⟨?_, ?_, ?_, ?_, ?_, ?_⟩
  · rw [started_phases_told]
    exact h.sequence
  · intro before phase after heq hafter
    exact complete_of_told heq hafter
  -- There was no failure exactly if the completed phases are all of them.
  · have hfirst : completed <+: phases := (List.prefix_append _ _).trans h.sequence
    rw [completed_phases_told, ← completed_eq_iff hfirst hnodup, ← h.failure]
    exact Option.isNone_iff_eq_none
  · show p.failure.isNone = true ↔ t.board.progress.phase = .completed
    rw [hphase]
    cases p.failure.isNone <;> simp
  · show p.failure.isNone = false ↔ t.board.progress.phase = .failed
    rw [hphase]
    cases p.failure.isNone <;> simp
  · rw [completed_phases_told]
    exact h.value

/-- The pipeline never fails as a whole: from a state without marks it comes to an outcome that agrees
with the marks of the run. -/
theorem pipeline_by_spec (listener : Listener) (hwork : work.Quiet)
    (hobservers : QuietObservers context) (hmarks : s.board.marks = [])
    (hphases : phaseList context.settings.pipeline.mode = .ok phases) (hnodup : phases.Nodup) :
    ∃ outcome t, (pipelineBy work listener).exec context s = (.ok outcome, t) ∧
      outcome.Fits phases t.board.marks := by
  have hquiet : ∀ stage ∈ work.stages phases, ∀ v, (stage.body v).Quiet := by
    intro stage hstage v
    obtain ⟨phase, -, rfl⟩ := List.mem_map.mp hstage
    exact hwork.body phase v
  have hgiven : ∀ stage ∈ work.stages phases, ∀ earlier v v' context s t,
      StageValues.GivenBy earlier v → (stage.body v).exec context s = (.ok v', t) →
        StageValues.GivenBy (earlier ++ [stage.phase]) v' := by
    intro stage hstage earlier v v' context s t hvalues hbody
    obtain ⟨phase, -, rfl⟩ := List.mem_map.mp hstage
    exact work.given_by_body hvalues hbody
  have hempty : StageValues.GivenBy [] {} := by
    constructor <;> simp
  obtain ⟨p, warnings, t, completed, interrupted, hexec, hrun, hphase⟩ :=
    stages_to_end_spec listener hquiet hgiven (quiet_observers_append hobservers listener) hempty
      (s := s)
  rw [work.map_phase_stages] at hrun
  refine ⟨PipelineOutcome.ofStages context.runId p warnings t, t, ?_,
    hrun.fits context.runId warnings hmarks hphase hnodup⟩
  rw [pipelineBy, exec_with_reader, exec_bind, exec_read]
  dsimp only
  rw [exec_bind, hphases, exec_use_ok]
  dsimp only
  rw [exec_bind, hexec]
  rfl

end Run

theorem marks_of_settings (settings : Settings) (disk : Disk) :
    (RunState.ofSettings settings disk).board.marks = [] := rfl

namespace Orchestrator

variable {o : Orchestrator} {task : RunTask}

theorem quiet_context_of (o : Orchestrator) (task : RunTask) :
    Run.QuietObservers (o.contextOf task) :=
  fun _ hobserve => (List.not_mem_nil hobserve).elim

/-- A free orchestrator starts a run. -/
theorem start_of_free (hfree : o.isLocked = false) :
    o.start = .ok { o with isLocked := true, isRunning := true, progress := {} } := by
  rw [start, hfree]
  rfl

/-- The run of a free orchestrator is one of the pipeline, after which the orchestrator is free. -/
theorem run_of_free (hfree : o.isLocked = false) (disk : Disk)
    {result : Except Failure PipelineOutcome} {s : RunState}
    (hexec : (Run.pipelineBy task.work task.listener).exec (o.contextOf task)
      (RunState.ofSettings o.settings disk) = (result, s)) :
    o.run task disk = ⟨result, s, { settings := o.settings, progress := s.board.progress }⟩ := by
  unfold contextOf at hexec
  rw [run, start_of_free hfree]
  simp only [contextOf, hexec]
  rfl

/-- An orchestrator that is not free starts no run. -/
theorem run_of_locked (hlocked : o.isLocked = true) (disk : Disk) :
    o.run task disk = ⟨.error (.trouble busy), RunState.ofSettings o.settings disk, o⟩ := by
  rw [run, start, hlocked]
  rfl

/-- A run of a free orchestrator ends with an outcome that fits its announcements, and the
orchestrator is free again. -/
theorem run_spec (disk : Disk) (hfree : o.isLocked = false)
    (hmode : o.settings.pipeline.mode ∈ SettingsTable.modes) (hwork : task.work.Quiet) :
    ∃ between outcome s, modePhases.get? o.settings.pipeline.mode = some between ∧
      outcome.Fits (.initialization :: between ++ [.cleanup]) s.board.marks ∧
      o.run task disk = ⟨.ok outcome, s,
        { settings := o.settings, progress := s.board.progress }⟩ := by
  obtain ⟨between, hbetween, hnodup⟩ := phases_of_mode hmode
  have hphases : phaseList o.settings.pipeline.mode =
      .ok (.initialization :: between ++ [.cleanup]) := by
    rw [phaseList, hbetween]
    rfl
  obtain ⟨outcome, s, hexec, hfits⟩ := Run.pipeline_by_spec task.listener hwork
    (quiet_context_of o task) (marks_of_settings o.settings disk) hphases hnodup
  exact ⟨between, outcome, s, hbetween, hfits, run_of_free hfree disk hexec⟩

end Orchestrator

/-- For every accepted mode, whatever the work of the phases does besides announcing phases, and
whatever the listener does: the run gives an outcome that fits its announcements, and the
orchestrator can be run again.  Accepted settings have such a mode, and the work of the pipeline is
such work. -/
theorem run_reports_phases :
    (∀ t : SettingsTable, t.validate = .ok () → t.settings.pipeline.mode ∈ SettingsTable.modes) ∧
    (∀ q : RunRequest, q.work.Quiet) ∧
    ∀ (o : Orchestrator) (task : RunTask) (disk : Disk), o.isLocked = false →
      o.settings.pipeline.mode ∈ SettingsTable.modes → task.work.Quiet →
      ∃ between outcome, modePhases.get? o.settings.pipeline.mode = some between ∧
        (o.run task disk).outcome = .ok outcome ∧
        outcome.Fits (.initialization :: between ++ [.cleanup])
          (o.run task disk).state.board.marks ∧
        (o.run task disk).orchestrator.isRunning = false ∧
        ∀ (again : RunTask) (disk' : Disk), again.work.Quiet →
          ∃ outcome', ((o.run task disk).orchestrator.run again disk').outcome = .ok outcome' := by
  refine ⟨fun t ht => (SettingsTable.validate_eq_ok_iff.mp ht).mode_mem, RunRequest.work_quiet,
    fun o task disk hfree hmode hwork => ?_⟩
  obtain ⟨between, outcome, s, hbetween, hfits, hrun⟩ := Orchestrator.run_spec disk hfree hmode hwork
  rw [hrun]
  refine ⟨between, outcome, hbetween, rfl, hfits, rfl, fun again disk' hagain => ?_⟩
  obtain ⟨_, outcome', _, _, _, hrun'⟩ := Orchestrator.run_spec disk' rfl hmode hagain
    (o := ⟨o.settings, false, false, s.board.progress⟩)
  exact ⟨outcome', congrArg FinishedRun.outcome hrun'⟩

/-- A run on nothing, which is cancelled as soon as parsing is complete. -/
def cancelledAfterParsing : RunTask where
  runId := "run"
  grammar := fun _ _ => default
  clock := fun _ => 0.0
  work :=
    { discover := return { root := "/", components := [] }
      parse := fun _ => return ()
      analyze := fun _ => return {}
      assess := fun _ => Run.trouble Orchestrator.busy
      write := fun _ => return [] }
  listener := fun seen =>
    if seen.any (·.event.mark? == some (.complete .parsing)) then some none else none

theorem run_reports_phases_cancelled_after_parsing :
    ∃ outcome, (Orchestrator.run ⟨{}, false, false, {}⟩ cancelledAfterParsing {}).outcome =
        .ok outcome ∧
      (Orchestrator.run ⟨{}, false, false, {}⟩ cancelledAfterParsing {}).state.board.marks =
        told [.initialization, .discovery, .parsing] none ∧
      outcome.success = false ∧ outcome.phase = .failed ∧
      outcome.values.discovery.isSome ∧ ¬ outcome.values.analysis.isSome := by
  have hmarks : (Orchestrator.run ⟨{}, false, false, {}⟩ cancelledAfterParsing
      {}).state.board.marks = told [.initialization, .discovery, .parsing] none := rfl
  have hquiet : cancelledAfterParsing.work.Quiet :=
    ⟨Run.keeps_pure _, fun _ => Run.keeps_pure _, fun _ => Run.keeps_pure _,
      fun _ => Run.keeps_trouble _, fun _ => Run.keeps_pure _⟩
  obtain ⟨between, outcome, -, houtcome, hfits, -, -⟩ := run_reports_phases.2.2
    ⟨{}, false, false, {}⟩ cancelledAfterParsing {} rfl (by decide) hquiet
  rw [hmarks] at hfits
  have hsuccess : outcome.success = false := by
    refine Bool.eq_false_iff.mpr fun hsuccess => ?_
    have hcleanup : Phase.cleanup ∈ Phase.initialization :: between ++ [.cleanup] := by simp
    exact absurd (hfits.success.mp hsuccess .cleanup hcleanup) (by decide)
  refine ⟨outcome, houtcome, hmarks, hsuccess, hfits.phase_failed.mp hsuccess, ?_, ?_⟩
  · exact hfits.values.discovery.mpr (by decide)
  · rw [hfits.values.analysis]
    decide

end ComponentMigration
