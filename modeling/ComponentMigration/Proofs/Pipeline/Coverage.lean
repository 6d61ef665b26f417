import ComponentMigration.Pipeline.Orchestrator
import ComponentMigration.Proofs.Pipeline.Stages
import ComponentMigration.Proofs.Pipeline.UnitResults

/-!
# What a completed run has for each unit

A run that ends with success has gone through the work of all its phases, and between them nothing
touches the results of units (`stages_cons_completed`).  `run_covers_units` puts together what the
phases have: every collection of a full run is about the discovered units.
-/

namespace ComponentMigration

section Stages

variable {σ : Type} {context : RunContext} {s t : RunState} {listener : Listener}
  (hobservers : context.ObserversStay RunState.SameResults)
include hobservers

/-- The results of a completed phase are those of its work. -/
theorem Run.run_phase_results (listener : Listener) (stage : Stage σ) (value : σ) (s : RunState) :
    (Run.runPhase listener stage value).Meets context s
      (fun outcome t => ∀ value', outcome = .completed value' →
        ∃ u v, (stage.body value).exec context u = (.ok value', v) ∧
          u.results = s.results ∧ t.results = v.results) fun _ => True := by
  have hopen : (Run.openPhase listener stage.phase).Stays RunState.SameResults :=
    Run.stays_open_phase listener (fun _ _ => rfl) (fun _ _ => listener.results_stay.moveTo _ _ _ _)
      fun s => RunState.results_announce listener _ s
  refine Run.meets_bind ((Run.stays_attempt hopen).meets_results hobservers s)
    fun opened u hu => ?_
  cases opened with
  | error failure => exact nofun
  | ok _ =>
      refine Run.meets_bind (Q := fun result v => (stage.body value).exec context u = (result, v))
        rfl fun result v hbody => ?_
      refine Run.meets_bind (Q := fun _ w => w.results = v.results) rfl fun _ w hw => ?_
      cases result with
      | error failure => exact nofun
      | ok value' =>
          have hclose : (Run.closePhase listener stage.phase).Stays RunState.SameResults :=
            Run.stays_close_phase listener (fun _ _ => listener.results_stay.moveTo _ _ _ _)
              fun s => RunState.results_announce listener _ s
          refine Run.meets_bind (hclose.meets_results hobservers w) fun _ x hx => ?_
          rintro _ ⟨⟩
          exact ⟨u, v, hbody, hu, hx.trans hw⟩

/-- A sequence of phases that was completed went through the work of the first one, and then through
the others. -/
theorem Run.stages_cons_completed {stage : Stage σ} {rest : List (Stage σ)}
    {p p' : StageProgress σ}
    (hexec : (Run.stages listener (stage :: rest) p).exec context s = (.ok p', t))
    (hdone : p'.failure = none) :
    ∃ u v w value started, (stage.body p.value).exec context u = (.ok value, v) ∧
      u.results = s.results ∧ w.results = v.results ∧
      (Run.stages listener rest { p with value := value, started := started }).exec context w =
        (.ok p', t) := by
  unfold Run.stages at hexec
  obtain ⟨outcome, w, hphase, hexec⟩ := Run.exec_bind_eq_ok.mp hexec
  have hresults := Run.run_phase_results hobservers listener stage p.value s
  rw [Run.Meets, hphase] at hresults
  cases outcome with
  | unopened failure =>
      cases hexec
      cases hdone
  | failed failure =>
      cases hexec
      cases hdone
  | completed value =>
      obtain ⟨u, v, hbody, hu, hw⟩ := hresults value rfl
      exact ⟨u, v, w, value, _, hbody, hu, hw, hexec⟩

end Stages

/-- What a run has for the discovered units: a parse, a node and an entry of the inventory for each,
and, if units are transformed, an outcome for those whose level is wanted and a report for those that
succeeded. -/
structure CoversUnits (settings : Settings) (found : DiscoveryResult)
    (analysis : DependencyAnalysis) (inventory : Inventory) (results : UnitResults) : Prop where
  distinct : DistinctUnits found.components
  parses : results.parses.keys.Perm (found.components.map Component.id)
  graph : analysis.graph.unitIds.Perm (found.components.map Component.id)
  entries : (inventory.components.map (·.unitId)).Perm (found.components.map Component.id)
  transforms : settings.pipeline.transform = true →
    ∃ levels, settings.transform.transformLevels = .ok levels ∧
      ∀ id, id ∈ results.transforms.keys ↔
        ∃ r ∈ inventory.components, r.unitId = id ∧ r.level.label ∈ levels
  validations : settings.pipeline.transform = true →
    ∀ id, id ∈ results.validations.keys ↔ results.succeeded id = true

section Candidates

variable {levels : List String} {inventory : Inventory} {components : List Component}
  {results : UnitResults} {id : String}

/-- The units that are transformed are those whose level is wanted. -/
theorem mem_ids_transform_candidates
    (hids : (inventory.components.map (·.unitId)).Perm (components.map Component.id)) :
    id ∈ (RunRequest.transformCandidates levels inventory components).map Component.id ↔
      ∃ r ∈ inventory.components, r.unitId = id ∧ r.level.label ∈ levels := by
  unfold RunRequest.transformCandidates
  constructor
  · intro h
    obtain ⟨c, hc, rfl⟩ := List.mem_map.mp h
    obtain ⟨r, hr, hid⟩ := List.mem_map.mp (List.contains_iff_mem.mp (List.mem_filter.mp hc).2)
    obtain ⟨hr, hlevel⟩ := List.mem_filter.mp hr
    exact ⟨r, hr, hid, List.contains_iff_mem.mp hlevel⟩
  · rintro ⟨r, hr, rfl, hlevel⟩
    obtain ⟨c, hc, hid⟩ := List.mem_map.mp (hids.mem_iff.mp (List.mem_map_of_mem hr))
    refine List.mem_map.mpr ⟨c, List.mem_filter.mpr ⟨hc, List.contains_iff_mem.mpr ?_⟩, hid⟩
    rw [hid]
    exact List.mem_map_of_mem (List.mem_filter.mpr ⟨hr, List.contains_iff_mem.mpr hlevel⟩)

/-- The units with a report are those that were transformed with success. -/
theorem UnitResults.OfCandidates.mem_validations
    (h : results.OfCandidates components) :
    id ∈ results.validations.keys ↔ results.succeeded id = true := by
  rw [h.validations.mem_iff]
  constructor
  · intro hid
    obtain ⟨c, hc, rfl⟩ := List.mem_map.mp hid
    exact (List.mem_filter.mp hc).2
  · intro hsucceeded
    obtain ⟨outcome, hget, -⟩ := (Option.any_eq_true _ _).mp hsucceeded
    have hkey : id ∈ results.transforms.keys := List.mem_map_of_mem (Assoc.mem_of_get? hget)
    obtain ⟨c, hc, rfl⟩ := List.mem_map.mp ((h.transforms.mem_iff id).mp hkey)
    exact List.mem_map_of_mem (List.mem_filter.mpr ⟨hc, hsucceeded⟩)

end Candidates

/-- A run that gave an outcome was one of the pipeline. -/
theorem Orchestrator.exec_of_run {o : Orchestrator} {task : RunTask} {disk : Disk}
    {outcome : PipelineOutcome} (h : (o.run task disk).outcome = .ok outcome) :
    ∃ s, (Run.pipelineBy task.work task.listener).exec (o.contextOf task)
      (RunState.ofSettings o.settings disk) = (.ok outcome, s) := by
  unfold Orchestrator.run Orchestrator.start at h
  cases hlocked : o.isLocked with
  | true => simp [hlocked] at h
  | false =>
      simp only [hlocked, Bool.false_eq_true, if_false] at h
      exact ⟨_, Prod.ext h rfl⟩

theorem observers_stay_note_fault {context : RunContext} (hobservers : context.observers = [])
    (listener : Listener) :
    RunContext.ObserversStay RunState.SameResults
      { context with observers := context.observers ++ [RunState.noteFault listener] } :=
  (RunContext.observers_stay_of_nil hobservers _).note_fault fun _ _ =>
    RunState.results_announce listener _ _

/-- A run of the pipeline that ends with success has completed its phases. -/
theorem Run.stages_of_pipeline {context : RunContext} {s t : RunState} {work : PhaseWork}
    {listener : Listener} {outcome : PipelineOutcome} {phases : List Phase}
    (hphases : phaseList context.settings.pipeline.mode = .ok phases)
    (hexec : (Run.pipelineBy work listener).exec context s = (.ok outcome, t))
    (hsuccess : outcome.success = true) :
    ∃ p u, (Run.stages listener (work.stages phases) { value := {} }).exec
        { context with observers := context.observers ++ [RunState.noteFault listener] } s =
          (.ok p, u) ∧
      p.failure = none ∧ outcome.values = p.value ∧ outcome.results = u.results := by
  unfold Run.pipelineBy at hexec
  rw [Run.exec_with_reader] at hexec
  obtain ⟨_, _, hread, hexec⟩ := Run.exec_bind_eq_ok.mp hexec
  cases hread
  obtain ⟨phases', _, huse, hexec⟩ := Run.exec_bind_eq_ok.mp hexec
  obtain ⟨hphases', rfl⟩ := Run.exec_use_eq_ok.mp huse
  obtain rfl : phases = phases' := Except.ok.inj (hphases.symm.trans hphases')
  obtain ⟨⟨p, warnings⟩, v, hend, hexec⟩ := Run.exec_bind_eq_ok.mp hexec
  obtain ⟨_, _, hget, hexec⟩ := Run.exec_bind_eq_ok.mp hexec
  cases hget
  obtain rfl : PipelineOutcome.ofStages _ p warnings v = outcome :=
    Except.ok.inj (congrArg Prod.fst hexec)
  have hfailure : p.failure = none := Option.isNone_iff_eq_none.mp hsuccess
  unfold Run.stagesToEnd at hend
  obtain ⟨p', u, hstages, hend⟩ := Run.exec_bind_eq_ok.mp hend
  cases hfailed : p'.failure with
  | some failure =>
      rw [hfailed] at hend
      dsimp only at hend
      obtain ⟨_, _, -, hend⟩ := Run.exec_bind_eq_ok.mp hend
      obtain ⟨_, _, -, hend⟩ := Run.exec_bind_eq_ok.mp hend
      cases hend
      rw [hfailure] at hfailed
      cases hfailed
  | none =>
      rw [hfailed] at hend
      cases hend
      exact ⟨p, u, hstages, hfailure, rfl, RunState.results_announce listener _ _⟩

/-- A full run that ends with success covers every discovered unit, whatever went wrong with single
units and whoever listens. -/
theorem run_covers_units {o : Orchestrator} {q : RunRequest} {runId : String} {grammar : Grammar}
    {clock : Clock} {disk : Disk} {outcome : PipelineOutcome}
    (hmode : o.settings.pipeline.mode = "full-pipeline")
    (houtcome : (o.run ⟨runId, grammar, clock, q.work, q.listener⟩ disk).outcome = .ok outcome)
    (hsuccess : outcome.success = true) :
    ∃ found analysis inventory, outcome.values.discovery = some found ∧
      outcome.values.analysis = some analysis ∧ outcome.values.inventory = some inventory ∧
      CoversUnits o.settings found analysis inventory outcome.results := by
  obtain ⟨_, hexec⟩ := Orchestrator.exec_of_run houtcome
  have hphases : phaseList o.settings.pipeline.mode = .ok [.initialization, .discovery, .parsing,
      .dependencyAnalysis, .inventoryGeneration, .outputGeneration, .cleanup] := by
    rw [hmode]
    rfl
  obtain ⟨p, t, hstages, hdone, hvalues, hresults⟩ :=
    Run.stages_of_pipeline hphases hexec hsuccess
  rw [hvalues, hresults]
  have hobservers := observers_stay_note_fault (rfl : (o.contextOf ⟨runId, grammar, clock, q.work,
    q.listener⟩).observers = []) q.listener
  obtain ⟨_, _, _, _, _, hbody, hs, ht, hstages⟩ :=
    Run.stages_cons_completed hobservers hstages hdone
  cases hbody
  have hinitial := ht.trans hs
  obtain ⟨_, _, _, _, _, hbody, hs, ht, hstages⟩ :=
    Run.stages_cons_completed hobservers hstages hdone
  obtain ⟨found, rfl, hdistinct, hsame⟩ := PhaseWork.body_discovery hobservers hbody
  have hdiscovered := ((ht.trans hsame).trans hs).trans hinitial
  obtain ⟨_, _, _, _, _, hbody, hs, ht, hstages⟩ :=
    Run.stages_cons_completed hobservers hstages hdone
  obtain ⟨rfl, hparsed⟩ := PhaseWork.body_parsing hobservers (hs.trans hdiscovered) hbody
  rw [← ht] at hparsed
  obtain ⟨_, _, _, _, _, hbody, hs, ht, hstages⟩ :=
    Run.stages_cons_completed hobservers hstages hdone
  have hunits : DistinctUnits (StageValues.units { discovery := some found }) := hdistinct
  obtain ⟨analysis, rfl, hgraph, hsame⟩ :=
    PhaseWork.body_dependency_analysis hobservers hunits hbody
  rw [← hs, ← hsame, ← ht] at hparsed
  obtain ⟨_, _, _, _, _, hbody, hs, ht, hstages⟩ :=
    Run.stages_cons_completed hobservers hstages hdone
  obtain ⟨inventory, rfl, hentries, hsame⟩ := PhaseWork.body_inventory_generation hobservers hbody
  rw [← hs, ← hsame, ← ht] at hparsed
  obtain ⟨_, _, _, _, _, hbody, hs, ht, hstages⟩ :=
    Run.stages_cons_completed hobservers hstages hdone
  rw [← hs] at hparsed
  obtain ⟨hparses, htransforms, hvalidations⟩ := hparsed
  obtain ⟨reports, rfl, hsame, htransformed⟩ :=
    PhaseWork.body_output_generation hobservers htransforms hvalidations hbody
  obtain ⟨_, _, _, _, _, hbody, hs, ht', hstages⟩ :=
    Run.stages_cons_completed hobservers hstages hdone
  cases hbody
  cases hstages
  have hlast := ht'.trans (hs.trans ht)
  have hentries' := List.Perm.of_eq hentries
  refine ⟨found, analysis, inventory, rfl, rfl, rfl, hdistinct, ?_, hgraph, hentries', ?_, ?_⟩
  · rw [hlast, hsame]
    exact hparses.perm hdistinct
  · intro hon
    obtain ⟨levels, hlevels, hcandidates⟩ := htransformed inventory rfl hon
    refine ⟨levels, hlevels, fun id => ?_⟩
    rw [hlast, hcandidates.transforms.mem_iff]
    exact mem_ids_transform_candidates hentries'
  · intro hon id
    obtain ⟨levels, -, hcandidates⟩ := htransformed inventory rfl hon
    rw [hlast]
    exact hcandidates.mem_validations

/-- Who transforms units that are ready or need some work. -/
def transformingOrchestrator : Orchestrator :=
  { settings :=
      { pipeline := { transform := true, generateReports := false }
        transform := { transformLevels := .ok ["ready", "needs-work"] } } }

/-- A run on the project of one card. -/
def cardRun : FinishedRun :=
  transformingOrchestrator.run
    ⟨"run", fun _ _ => cardTree, fun _ => 0.0, RunRequest.work ⟨⟨"", ["src"]⟩, ⟨0⟩, fun _ => none⟩,
      fun _ => none⟩ cardDisk

theorem run_covers_units_card :
    ∃ outcome found analysis inventory, cardRun.outcome = .ok outcome ∧
      outcome.values.discovery = some found ∧ outcome.values.analysis = some analysis ∧
      outcome.values.inventory = some inventory ∧
      outcome.results.validations.keys = ["Card.tsx:Card"] ∧
      CoversUnits transformingOrchestrator.settings found analysis inventory outcome.results := by
  have hrun : (cardRun.outcome.toOption.map fun o => (o.success, o.results.validations.keys)) =
      some (true, ["Card.tsx:Card"]) := by
    decide +kernel
  cases houtcome : cardRun.outcome with
  | error failure =>
      rw [houtcome] at hrun
      cases hrun
  | ok outcome =>
      rw [houtcome] at hrun
      obtain ⟨hsuccess, hkeys⟩ := Prod.ext_iff.mp (Option.some.inj hrun)
      obtain ⟨found, analysis, inventory, hfound, hanalysis, hinventory, hcovers⟩ :=
        run_covers_units rfl houtcome hsuccess
      exact ⟨outcome, found, analysis, inventory, rfl, hfound, hanalysis, hinventory, hkeys,
        hcovers⟩

end ComponentMigration
