import ComponentMigration.Proofs.Pipeline.Coverage
import ComponentMigration.Proofs.Pipeline.Orchestrator
import ComponentMigration.Proofs.Pipeline.Parsing

/-!
# Runs that skip no errors

A run that is not to skip errors ends with success only if nothing went wrong on the way: each phase
either keeps the results clean or fails (`body_clean`).  If it is neither cancelled nor has a
deadline, the first unit that cannot be parsed ends it, and nothing is done with any unit after that
(`stages_undisturbed`).  `run_fails_fast` has both.
-/

namespace ComponentMigration

section Discovery

variable {context : RunContext} {s t : RunState}

/-- Issues that are no errors. -/
def NoErrors (issues : List DiscoveryIssue) : Prop := ∀ i ∈ issues, i.severity ≠ "error"

theorem no_errors_nil : NoErrors [] := List.forall_mem_nil _

theorem take_files_no_errors {options : DiscoverySettings} {root : Path}
    {candidates : List (Path × Path)} {count : Nat} {found : List Path × List DiscoveryIssue}
    (h : takeFiles options root candidates count = .ok found) : NoErrors found.2 := by
  induction candidates generalizing count found with
  | nil =>
      cases h
      exact no_errors_nil
  | cons candidate rest ih =>
      unfold takeFiles at h
      obtain ⟨included, -, h⟩ := bind_eq_ok.mp h
      cases included with
      | false => exact ih h
      | true =>
          obtain ⟨limit, -, h⟩ := bind_eq_ok.mp h
          dsimp only at h
          split at h
          · cases h
            exact List.forall_mem_singleton.mpr (by simp [limitIssue])
          · obtain ⟨later, hlater, h⟩ := bind_eq_ok.mp h
            cases h
            exact (ih hlater : NoErrors later.2)

namespace Run

theorem document_issues_no_errors (d : Document) (rel : String) (components : List Component) :
    NoErrors (documentIssues d rel components) := by
  intro i hi
  unfold documentIssues at hi
  rcases List.mem_append.mp hi with hi | hi
  all_goals
    split at hi
    · obtain rfl := List.mem_singleton.mp hi
      simp
    · cases hi

/-- A file that cannot be read ends the discovery, so nothing is told of it. -/
theorem analyze_file_no_errors (hskip : context.settings.pipeline.skipErrors = false)
    {path root : Path} {coverage : Assoc Float} {result : List Component × List DiscoveryIssue}
    (h : (analyzeFile path root coverage).exec context s = (.ok result, t)) :
    NoErrors result.2 := by
  unfold analyzeFile at h
  obtain ⟨read, u, -, h⟩ := exec_bind_eq_ok.mp h
  cases read with
  | error f =>
      obtain ⟨_, _, hread, h⟩ := exec_bind_eq_ok.mp h
      cases hread
      rw [hskip] at h
      cases h
  | ok source =>
      obtain ⟨document, v, -, h⟩ := exec_bind_eq_ok.mp h
      cases h
      exact document_issues_no_errors _ _ _

theorem analyze_sources_no_errors (hskip : context.settings.pipeline.skipErrors = false)
    {root : Path} {coverage : Assoc Float} {paths : List Path} {units : List Component}
    {issues : List DiscoveryIssue} {result : List Component × List DiscoveryIssue}
    (hissues : NoErrors issues)
    (h : (analyzeSources root coverage paths units issues).exec context s = (.ok result, t)) :
    NoErrors result.2 := by
  induction paths generalizing units issues s with
  | nil =>
      cases h
      exact hissues
  | cons path rest ih =>
      unfold analyzeSources at h
      obtain ⟨_, _, -, h⟩ := exec_bind_eq_ok.mp h
      obtain ⟨_, _, -, h⟩ := exec_bind_eq_ok.mp h
      obtain ⟨result', _, hfile, h⟩ := exec_bind_eq_ok.mp h
      exact ih (List.forall_mem_append.mpr ⟨hissues, analyze_file_no_errors hskip hfile⟩) h

theorem scan_files_no_errors {root : Path} {found : List Path × List DiscoveryIssue}
    (h : (scanFiles root).exec context s = (.ok found, t)) : NoErrors found.2 := by
  unfold scanFiles at h
  obtain ⟨directory, _, -, h⟩ := exec_bind_eq_ok.mp h
  cases directory with
  | true =>
      obtain ⟨_, _, -, h⟩ := exec_bind_eq_ok.mp h
      obtain ⟨_, _, -, h⟩ := exec_bind_eq_ok.mp h
      obtain ⟨_, _, -, h⟩ := exec_bind_eq_ok.mp h
      exact take_files_no_errors (exec_use_eq_ok.mp h).1
  | false =>
      obtain ⟨_, _, -, h⟩ := exec_bind_eq_ok.mp h
      cases h

/-- A discovery that is not to skip errors comes to units without errors, or fails. -/
theorem discover_no_errors (hskip : context.settings.pipeline.skipErrors = false) {root : Path}
    {found : DiscoveryResult} (h : (discover root).exec context s = (.ok found, t)) :
    found.errors = [] := by
  unfold discover at h
  obtain ⟨_, _, -, h⟩ := exec_bind_eq_ok.mp h
  obtain ⟨_, _, -, h⟩ := exec_bind_eq_ok.mp h
  obtain ⟨⟨files, issues⟩, _, hscan, h⟩ := exec_bind_eq_ok.mp h
  obtain ⟨_, _, -, h⟩ := exec_bind_eq_ok.mp h
  obtain ⟨⟨components, issues'⟩, _, hsources, h⟩ := exec_bind_eq_ok.mp h
  obtain ⟨_, _, -, h⟩ := exec_bind_eq_ok.mp h
  cases h
  have hnone : NoErrors issues' :=
    analyze_sources_no_errors hskip (scan_files_no_errors hscan) hsources
  exact List.filter_eq_nil_iff.mpr fun i hi => by simpa using hnone i hi

end Run

theorem RunRequest.discover_phase_no_errors {q : RunRequest}
    (hskip : context.settings.pipeline.skipErrors = false) {found : DiscoveryResult}
    (h : q.discoverPhase.exec context s = (.ok found, t)) : found.errors = [] := by
  unfold RunRequest.discoverPhase at h
  obtain ⟨found', _, hdiscover, h⟩ := Run.exec_bind_eq_ok.mp h
  obtain ⟨_, _, -, h⟩ := Run.exec_bind_eq_ok.mp h
  obtain ⟨_, _, -, h⟩ := Run.exec_bind_eq_ok.mp h
  cases h
  exact Run.discover_no_errors hskip hdiscover

end Discovery

/-- Results of units without a failure. -/
structure UnitResults.IsClean (results : UnitResults) : Prop where
  parses : ∀ entry ∈ results.parses, entry.2.success = true
  transforms : ∀ entry ∈ results.transforms, entry.2.success = true

/-- States whose results of units look the same in a view of them. -/
def RunState.SameIn {β : Type} (view : UnitResults → β) (s t : RunState) : Prop :=
  view t.results = view s.results

instance {β : Type} (view : UnitResults → β) : RunState.IsLax (RunState.SameIn view) where
  refl _ := rfl
  trans _ _ _ hfirst hsecond := Eq.trans hsecond hfirst
  of_alike halike := congrArg view halike.results

theorem RunState.Quieter.same_in {β : Type} {s t : RunState} (h : s.Quieter t)
    (view : UnitResults → β) : s.SameIn view t := congrArg view h.results

section Quieter

variable {context : RunContext} {s t : RunState} {P : RunState → Prop}

/-- Announcements and lifted deadlines spare what quieter states have. -/
theorem Listener.spares_of_quieter (listener : Listener)
    (h : ∀ s t, s.Quieter t → P s → P t) : listener.Spares P where
  announce s event := h s _ (RunState.Quieter.announce listener event s)
  moveTo s phase share message := h s _ (RunState.Quieter.moveTo listener phase share message s)
  deadline s := h s _ ⟨id, fun _ => rfl, rfl, rfl⟩

theorem Listener.spares_and_of_quieter (listener : Listener) (p : Prop)
    (h : ∀ s t, s.Quieter t → P s → P t) : listener.Spares fun s => p ∧ P s :=
  listener.spares_of_quieter fun s t hst hs => ⟨hs.1, h s t hst hs.2⟩

theorem Run.lasting_of_quieter (hobservers : context.ObserversStay RunState.Quieter)
    (h : ∀ s t, s.Quieter t → P s → P t) : Run.Lasting context P where
  alike s t halike := h s t (RunState.IsLax.of_alike halike)
  observed := hobservers.mono h

end Quieter

section Clean

variable {q : RunRequest} {context : RunContext} {s t : RunState} {components : List Component}
  {inventory : Inventory} (hobservers : context.ObserversStay RunState.Quieter)
  (hskip : context.settings.pipeline.skipErrors = false)
include hobservers hskip

theorem RunRequest.keep_parse_clean (total : Nat) (r : TaskResult ParseOutcome)
    (hs : s.results.IsClean) :
    (q.keepParse total r).Meets context s (fun _ t => t.results.IsClean) fun _ => True := by
  refine Run.meets_bind (Q := fun _ u => u.results = { s.results with
    parses := s.results.parses.set r.key (RunRequest.parseOutcomeOf r) }) rfl fun _ u hu => ?_
  refine Run.meets_bind ((require_parsed_meets hskip r.key _).mono (fun _ _ h => h)
    fun _ _ => trivial) ?_
  rintro _ v ⟨rfl, hparsed⟩
  have htell := stays_tell_parsed q.listener.results_stay total r.key
  refine (htell.meets_results (hobservers.mono fun _ _ h => h.results) v).mono
    (fun _ t ht => ?_) fun _ h => h
  rw [ht, hu]
  refine ⟨fun entry hentry => ?_, hs.transforms⟩
  rcases Assoc.mem_or_eq_of_mem_set hentry with hentry | rfl
  · exact hs.parses entry hentry
  · exact hparsed

theorem RunRequest.parse_phase_clean (hs : s.results.IsClean) :
    (q.parsePhase components).Meets context s (fun _ t => t.results.IsClean) fun _ => True := by
  refine Run.meets_read_bind (Run.meets_use_bind (fun _ _ => trivial) fun limits hlimits => ?_)
  have hconduct := BatchJob.results_conduct (q.parseJob (max components.length 1)) components
    (fun _ => True) (fun _ results => results.IsClean) (hobservers.mono fun _ _ h => h.results)
    (fun c => stays_parse_unit c none) (fun _ _ => Run.meets_trivial) (Run.stays_checkpoint {})
    fun _ r u _ hu => keep_parse_clean hobservers hskip _ r hu
  exact Run.meets_bind (hconduct.run (fun n => BatchLimits.batch_size_pos hlimits) {}
    (Or.inl trivial) ⟨List.forall_mem_nil _, hs⟩) fun _ _ ht => ht.2.2

omit hobservers in
/-- Failed transformations end the run. -/
theorem RunRequest.require_transformed_meets :
    RunRequest.requireTransformed.Meets context s
      (fun _ t => t = s ∧ ∀ entry ∈ s.results.transforms, entry.2.success = true)
      fun _ => True := by
  refine Run.meets_get_bind (Run.meets_read_bind ?_)
  dsimp only
  rw [hskip]
  split
  · exact trivial
  · next hnone =>
      have hsuccess : ∀ unit outcome, (unit, outcome) ∈ s.results.transforms →
          outcome.success = true := by simpa using hnone
      exact ⟨rfl, fun entry => hsuccess entry.1 entry.2⟩

/-- Units are only transformed without failure, or the run ends. -/
theorem RunRequest.transform_units_clean (hs : s.results.IsClean) :
    (q.transformUnits components inventory).Meets context s (fun _ t => t.results.IsClean)
      fun _ => True := by
  refine Run.meets_read_bind (Run.meets_use_bind (fun _ _ => trivial) fun levels _ => ?_)
  dsimp only
  split
  · exact hs
  · have hbatch := stays_transform_batch (transformCandidates levels inventory components) []
      (stays_keep_transform (R := RunState.SameIn (·.parses)) (q := q)
        (q.listener.quieter.mono fun _ _ h => h.same_in _) (fun _ _ _ => rfl)
        (transformCandidates levels inventory components))
    have hvalidate := Run.stays_for_m (R := RunState.SameIn fun r => (r.parses, r.transforms))
      (stays_validate_one (q := q) (q.listener.quieter.mono fun _ _ h => h.same_in _).remarks
        fun _ _ => rfl) (transformCandidates levels inventory components)
    refine Run.meets_bind ((hbatch.meets (hobservers.mono fun _ _ h => h.same_in _)
      (refl s)).mono (fun _ _ h => h) fun _ _ => trivial) fun _ t ht => ?_
    refine Run.meets_bind (require_transformed_meets hskip) ?_
    rintro _ u ⟨rfl, hsuccess⟩
    refine (hvalidate.meets (hobservers.mono fun _ _ h => h.same_in _) (refl u)).mono
      (fun _ v hv => ?_) fun _ _ => trivial
    obtain ⟨hparses, htransforms⟩ := Prod.ext_iff.mp hv
    refine ⟨?_, ?_⟩
    · rw [show v.results.parses = s.results.parses from hparses.trans ht]
      exact hs.parses
    · rw [show v.results.transforms = u.results.transforms from htransforms]
      exact hsuccess

theorem RunRequest.output_phase_clean {v : StageValues} (hs : s.results.IsClean) :
    (q.outputPhase v).Meets context s (fun _ t => t.results.IsClean) fun _ => True := by
  refine Run.meets_read_bind ?_
  cases v.inventory with
  | none => exact hs
  | some inventory =>
      have hreport : ∀ u : RunState, u.results.IsClean →
          (reportPhase context.settings.pipeline inventory v.analysis).Meets context u
            (fun _ t => t.results.IsClean) fun _ => True := fun u hu =>
        ((stays_report_phase (R := RunState.SameResults) (fun _ _ => rfl) _ inventory
          v.analysis).meets_results (hobservers.mono fun _ _ h => h.results) u).mono
            (fun _ t ht => ht ▸ hu) fun _ h => h
      dsimp only
      split
      · exact Run.meets_bind (transform_units_clean hobservers hskip hs) fun _ t ht => hreport t ht
      · exact hreport s hs

/-- What a run that skips no errors has as long as it goes on: units without errors, and results
without a failure. -/
def StageValues.Clean (v : StageValues) (s : RunState) : Prop :=
  (∀ found, v.discovery = some found → found.errors = []) ∧ s.results.IsClean

/-- The work of a phase keeps everything clean, or it fails. -/
theorem PhaseWork.body_clean (phase : Phase) {v : StageValues} (hs : v.Clean s) :
    (q.work.body phase v).Meets context s StageValues.Clean fun _ => True := by
  have hresults : context.ObserversStay RunState.SameResults :=
    hobservers.mono fun _ _ h => h.results
  obtain ⟨hfound, hclean⟩ := hs
  unfold PhaseWork.body
  split
  · have hstays := RunRequest.stays_discover_phase (q := q) q.listener.results_stay.remarks
    refine Run.meets_bind (Q := fun found t => found.errors = [] ∧ t.results = s.results)
      (Run.meets_of_values fun found t hexec => ?_) ?_
    · exact ⟨RunRequest.discover_phase_no_errors hskip hexec,
        hstays.results_of_exec hresults hexec⟩
    · rintro found t ⟨herrors, ht⟩
      refine ⟨?_, ht ▸ hclean⟩
      rintro _ ⟨⟩
      exact herrors
  · refine Run.meets_bind (RunRequest.parse_phase_clean hobservers hskip hclean) fun _ t ht => ?_
    exact ⟨hfound, ht⟩
  · have hstays := RunRequest.stays_analyze_phase (q := q) q.listener.results_stay.remarks v.units
    exact Run.meets_bind (hstays.meets_results hresults s) fun _ t ht => ⟨hfound, ht ▸ hclean⟩
  · have hstays := RunRequest.stays_inventory_phase (q := q) (v := v)
      (RunRequest.stays_note_assessed q.listener.results_stay _)
    exact Run.meets_bind (hstays.meets_results hresults s) fun _ t ht => ⟨hfound, ht ▸ hclean⟩
  · exact Run.meets_bind (RunRequest.output_phase_clean hobservers hskip hclean) fun _ t ht =>
      ⟨hfound, ht⟩
  · exact ⟨hfound, hclean⟩

omit hobservers hskip in
theorem StageValues.clean_spared (listener : Listener) (v : StageValues) :
    listener.Spares v.Clean :=
  listener.spares_and_of_quieter _ fun _ _ h ht => by rwa [h.results]

/-- Phases keep everything clean, or one of them fails. -/
theorem stages_clean {phases : List Phase} (hs : StageValues.Clean {} s) :
    (Run.stages q.listener (q.work.stages phases) { value := {} }).Meets context s
      (StageProgress.Ends StageValues.Clean fun _ _ => True) fun _ => False := by
  refine Run.stages_meets (StageValues.clean_spared q.listener)
    (fun _ => q.listener.spares_of_quieter fun _ _ _ h => h) rfl (fun phase v u hu => ?_)
    (fun stage hstage v u hu => ?_) hs
  · have hopen : (Run.openPhase q.listener phase).Stays RunState.SameResults :=
      Run.stays_open_phase q.listener (fun _ _ => rfl)
        (fun _ _ => q.listener.results_stay.moveTo _ _ _ _)
        fun s => RunState.results_announce q.listener _ s
    exact (hopen.meets_results (hobservers.mono fun _ _ h => h.results) u).mono
      (fun _ t ht => ⟨hu.1, ht ▸ hu.2⟩) fun _ h => h
  · obtain ⟨phase, -, rfl⟩ := List.mem_map.mp hstage
    exact PhaseWork.body_clean hobservers hskip phase hu

end Clean

section Undisturbed

variable {listener : Listener} {context : RunContext} {s t : RunState} {policy : RetryPolicy}
  {Holds : UnitResults → Prop}

/-- The settings give phases a time that can be used, but none that passes. -/
def PipelineSettings.SetsNoDeadline (options : PipelineSettings) : Prop :=
  ∀ seconds, options.phaseTimeout = .ok (some seconds) → seconds.isAtMost 0 = true

/-- Opening a phase sets no deadline. -/
theorem Run.open_phase_undisturbed (hnone : context.settings.pipeline.SetsNoDeadline)
    (phase : Phase) (hs : s.Undisturbed policy Holds) :
    (Run.openPhase listener phase).Meets context s
      (fun _ t => (∃ time, context.settings.pipeline.phaseTimeout = .ok time) ∧
        t.Undisturbed policy Holds)
      fun t => (∃ time, context.settings.pipeline.phaseTimeout = .ok time) →
        t.token.isCancelled = true := by
  refine Run.meets_bind (Q := fun _ u => u = s) rfl ?_
  rintro place u rfl
  refine Run.meets_bind ((checkpoint_undisturbed hs place).mono (fun _ _ h => h) fun _ h _ => h)
    fun _ v hv => ?_
  refine Run.meets_bind (Q := fun _ w => w.Undisturbed policy Holds)
    ((RunState.Quieter.moveTo listener _ _ _ v).undisturbed hv) fun _ w hw => ?_
  refine Run.meets_bind (Q := fun _ x => x.Undisturbed policy Holds)
    ((RunState.Quieter.announce listener _ w).undisturbed hw) fun _ x hx => ?_
  refine Run.meets_read_bind (Run.meets_read_bind (Run.meets_use_bind ?_ fun time htime => ?_))
  · rintro trouble htrouble ⟨time, htime⟩
    cases htrouble.symm.trans htime
  · have hcleared : x.token.setDeadline context.clock time phase.label =
        .ok x.token.clearDeadline := by
      unfold Token.setDeadline
      cases time with
      | none => rfl
      | some seconds =>
          dsimp only
          rw [if_pos (hnone seconds htime)]
    refine Run.meets_get_bind ?_
    rw [hcleared]
    have hlifted : x.Quieter { x with token := x.token.clearDeadline } :=
      ⟨id, fun _ => rfl, rfl, rfl⟩
    exact ⟨⟨time, htime⟩, hlifted.undisturbed hx⟩

end Undisturbed

section Phases

variable {q : RunRequest} {context : RunContext} {s t : RunState} {policy : RetryPolicy}
  {v : StageValues} {found : DiscoveryResult}

/-- Each of the discovered units has been parsed with success, unless the run is cancelled. -/
def StageValues.Parsed (policy : RetryPolicy) (v : StageValues) (s : RunState) : Prop :=
  ∀ found, v.discovery = some found → s.Undisturbed policy (·.EachParsed found.components)

/-- The discovered units, each of which has been parsed with success unless the run is cancelled. -/
def StageValues.Carries (policy : RetryPolicy) (found : DiscoveryResult) (v : StageValues)
    (s : RunState) : Prop :=
  v.discovery = some found ∧ s.Undisturbed policy (·.EachParsed found.components)

theorem StageValues.Carries.parsed (h : v.Carries policy found s) : v.Parsed policy s := by
  intro found' hfound
  cases h.1.symm.trans hfound
  exact h.2

/-- What a failed run leaves, unless it is cancelled: either each of the discovered units has been
parsed with success, or parsing has ended the run, and nothing has come after it. -/
def StageValues.Stopped (policy : RetryPolicy) (options : PipelineSettings) (v : StageValues)
    (s : RunState) : Prop :=
  ∀ found, v.discovery = some found → s.Undisturbed policy fun results =>
    results.EachParsed found.components ∨
      v.analysis = none ∧ v.inventory = none ∧ ParsingFailed options found.components results

variable (hobservers : context.ObserversStay RunState.Quieter)
include hobservers

/-- The phases after parsing leave the parses alone. -/
theorem PhaseWork.body_after_parsing {phase : Phase}
    (hphase : phase ≠ .discovery ∧ phase ≠ .parsing) (hs : v.Carries policy found s) :
    (q.work.body phase v).Meets context s (StageValues.Carries policy found)
      (v.Carries policy found) := by
  obtain ⟨hv, hs⟩ := hs
  let P : RunState → Prop := (·.Undisturbed policy (·.EachParsed found.components))
  have hlax : RunState.IsLax (RunState.Keeping P) := RunState.is_lax_keeping fun _ _ halike =>
    (RunState.IsLax.of_alike (R := RunState.Quieter) halike).undisturbed
  have hlistener : q.listener.StaysWithin (RunState.Keeping P) :=
    q.listener.quieter.mono fun _ _ h => h.undisturbed
  have hkept : ∀ {α : Type} {x : Run α}, x.Stays (RunState.Keeping P) →
      x.Meets context s (fun _ => v.Carries policy found) (v.Carries policy found) := fun hx =>
    (Run.meets_iff_state.mpr (hx.state context s
      (hobservers.mono fun _ _ h => h.undisturbed) hs)).mono (fun _ _ ht => ⟨hv, ht⟩)
        fun _ ht => ⟨hv, ht⟩
  unfold PhaseWork.body
  split
  · exact absurd rfl hphase.1
  · exact absurd rfl hphase.2
  · exact Run.meets_bind (hkept (RunRequest.stays_analyze_phase hlistener.remarks v.units))
      fun _ _ ht => ht
  · exact Run.meets_bind (hkept (RunRequest.stays_inventory_phase
      (RunRequest.stays_note_assessed hlistener _))) fun _ _ ht => ht
  · have hresults : ∀ (s : RunState) transforms validations, RunState.Keeping P s { s with
        results := { s.results with transforms := transforms, validations := validations } } :=
      fun _ _ _ hs => hs.imp id fun hs => ⟨hs.deadline, hs.strategies, hs.results⟩
    have hdisk : ∀ (s : RunState) disk, RunState.Keeping P s { s with disk := disk } :=
      fun _ _ hs => hs.imp id fun hs => ⟨hs.deadline, hs.strategies, hs.results⟩
    exact Run.meets_bind (hkept (RunRequest.stays_output_phase hlistener hresults hdisk v))
      fun _ _ ht => ht
  · exact ⟨hv, hs⟩

/-- What the phases after parsing leave. -/
theorem stages_after_parsing (hnone : context.settings.pipeline.SetsNoDeadline)
    (htime : ∃ time, context.settings.pipeline.phaseTimeout = .ok time) {rest : List Phase}
    (hrest : ∀ phase ∈ rest, phase ≠ .discovery ∧ phase ≠ .parsing) {started : List Phase}
    (hs : v.Carries policy found s) :
    (Run.stages q.listener (q.work.stages rest) ⟨v, started, none⟩).Meets context s
      (StageProgress.Ends (StageValues.Parsed policy)
        (StageValues.Stopped policy context.settings.pipeline)) fun _ => False := by
  have hspares : ∀ v, q.listener.Spares (StageValues.Carries policy found v) := fun v =>
    q.listener.spares_and_of_quieter _ fun _ _ h => h.undisturbed
  refine (Run.stages_meets hspares hspares rfl ?_ ?_ hs).mono ?_ fun _ h => h
  · rintro phase v u ⟨hv, hu⟩
    exact (Run.open_phase_undisturbed hnone phase hu).mono (fun _ _ ht => ⟨hv, ht.2⟩)
      fun _ ht => ⟨hv, Or.inl (ht htime)⟩
  · intro stage hstage v u hu
    obtain ⟨phase, hphase, rfl⟩ := List.mem_map.mp hstage
    exact PhaseWork.body_after_parsing hobservers (hrest phase hphase) hu
  · rintro ⟨v, started, failure⟩ t ht
    cases failure with
    | none => exact ht.parsed
    | some failure => exact fun found hfound => (ht.parsed found hfound).mono fun _ => Or.inl

/-- A state before parsing in which the time of phases can be used, as is known once the first of
them has been opened. -/
def RunState.Timed (policy : RetryPolicy) (options : PipelineSettings) (s : RunState) : Prop :=
  (∃ time, options.phaseTimeout = .ok time) ∧ s.Undisturbed policy (· = {})

omit hobservers in
theorem RunState.Quieter.timed {options : PipelineSettings} (h : s.Quieter t)
    (hs : s.Timed policy options) : t.Timed policy options := ⟨hs.1, h.undisturbed hs.2⟩

omit hobservers in
theorem Run.open_phase_timed (hnone : context.settings.pipeline.SetsNoDeadline) (phase : Phase)
    (hs : s.Timed policy context.settings.pipeline) :
    (Run.openPhase q.listener phase).Meets context s
      (fun _ => RunState.Timed policy context.settings.pipeline)
      fun t => t.token.isCancelled = true :=
  (Run.open_phase_undisturbed hnone phase hs.2).mono (fun _ _ ht => ht) fun _ ht => ht hs.1

/-- Parsing either gets through the discovered units, or it ends the run. -/
theorem stages_from_parsing (hskip : context.settings.pipeline.skipErrors = false)
    (hnone : context.settings.pipeline.SetsNoDeadline) {rest started : List Phase}
    (hrest : ∀ phase ∈ rest, phase ≠ .discovery ∧ phase ≠ .parsing)
    (hdistinct : DistinctUnits found.components)
    (hs : s.Timed policy context.settings.pipeline) :
    (Run.stages q.listener (q.work.stages (.parsing :: rest))
      ⟨{ discovery := some found }, started, none⟩).Meets context s
      (StageProgress.Ends (StageValues.Parsed policy)
        (StageValues.Stopped policy context.settings.pipeline)) fun _ => False := by
  refine Run.stages_cons_meets (P := RunState.Timed policy context.settings.pipeline)
    (E := RunState.Undisturbed policy (ParsingFailed context.settings.pipeline found.components))
    (Q := StageValues.Carries policy found)
    (fun v => q.listener.spares_and_of_quieter _ fun _ _ h => h.undisturbed)
    (q.listener.spares_of_quieter fun _ _ h hs => h.undisturbed hs)
    ((Run.open_phase_timed hnone .parsing hs).mono (fun _ _ ht => ht) fun _ ht => Or.inl ht) ?_ ?_
    fun v started u hu => stages_after_parsing hobservers hnone hs.1 hrest hu
  · intro u hu
    exact Run.meets_bind (parse_phase_undisturbed hobservers hskip hdistinct hu.2)
      fun _ v hv => ⟨rfl, hv⟩
  · rintro t started failure ht _ ⟨⟩
    exact ht.mono fun _ hfailed => Or.inr ⟨rfl, rfl, hfailed⟩

/-- How far a run gets that is neither cancelled nor has a deadline, if errors are not to be
skipped. -/
theorem stages_undisturbed (hskip : context.settings.pipeline.skipErrors = false)
    (hnone : context.settings.pipeline.SetsNoDeadline) {rest : List Phase}
    (hrest : ∀ phase ∈ rest, phase ≠ .discovery ∧ phase ≠ .parsing)
    (hs : s.Undisturbed policy (· = {})) :
    (Run.stages q.listener (q.work.stages (.initialization :: .discovery :: .parsing :: rest))
      { value := {} }).Meets context s
      (StageProgress.Ends (StageValues.Parsed policy)
        (StageValues.Stopped policy context.settings.pipeline)) fun _ => False := by
  refine Run.stages_cons_meets (P := RunState.Timed policy context.settings.pipeline)
    (E := fun _ => True) (Q := fun v t => v = {} ∧ t.Timed policy context.settings.pipeline)
    (fun v => q.listener.spares_and_of_quieter _ fun _ _ h => h.timed)
    (q.listener.spares_of_quieter fun _ _ _ h => h)
    ((Run.open_phase_undisturbed hnone _ hs).mono (fun _ _ ht => ht) fun _ _ => trivial)
    (fun u hu => ⟨rfl, hu⟩) (fun t started failure _ => nofun) ?_
  rintro _ started t ⟨rfl, ht⟩
  refine Run.stages_cons_meets (P := RunState.Timed policy context.settings.pipeline)
    (E := fun _ => True)
    (Q := fun v t => (∃ found, v = { discovery := some found } ∧ DistinctUnits found.components) ∧
      t.Timed policy context.settings.pipeline)
    (fun v => q.listener.spares_and_of_quieter _ fun _ _ h => h.timed)
    (q.listener.spares_of_quieter fun _ _ _ h => h)
    ((Run.open_phase_timed hnone .discovery ht).mono (fun _ _ ht => ht) fun _ _ => trivial) ?_
    (fun t started failure _ => nofun) ?_
  · intro u hu
    have hstays := RunRequest.stays_discover_phase (q := q) q.listener.quieter.remarks
    refine Run.meets_bind (Q := fun found t => DistinctUnits found.components ∧
      t.Timed policy context.settings.pipeline)
      (((Run.meets_of_values fun found t hexec =>
        RunRequest.discover_phase_distinct hexec).and
          (hstays.meets hobservers (refl u))).mono ?_ fun _ _ => trivial) ?_
    · exact fun found t ht => ⟨ht.1, ht.2.timed hu⟩
    · exact fun found t ht => ⟨⟨found, rfl, ht.1⟩, ht.2⟩
  · rintro _ started t ⟨⟨found, rfl, hdistinct⟩, ht⟩
    exact stages_from_parsing hobservers hskip hnone hrest hdistinct ht

end Phases

/-- The modes in which units are parsed. -/
theorem phases_of_parsing_mode {mode : String} (hmode : mode ∈ SettingsTable.modes)
    (hparses : mode ≠ "discovery-only") :
    ∃ rest, phaseList mode = .ok (.initialization :: .discovery :: .parsing :: rest) ∧
      ∀ phase ∈ rest, phase ≠ .discovery ∧ phase ≠ .parsing := by
  simp only [SettingsTable.modes, List.mem_cons, List.not_mem_nil, or_false] at hmode
  obtain rfl | rfl | rfl := hmode
  · exact absurd rfl hparses
  · exact ⟨_, rfl, by decide⟩
  · exact ⟨_, rfl, by decide⟩

theorem discovery_mem_of_mode {mode : String} {between : List Phase}
    (hmode : mode ∈ SettingsTable.modes) (h : modePhases.get? mode = some between) :
    .discovery ∈ between := by
  simp only [SettingsTable.modes, List.mem_cons, List.not_mem_nil, or_false] at hmode
  obtain rfl | rfl | rfl := hmode
  all_goals
    cases h
    exact List.mem_cons_self

section Run

variable {q : RunRequest} {context : RunContext} {s : RunState} {policy : RetryPolicy}
  (hcontext : context.observers = []) (hskip : context.settings.pipeline.skipErrors = false)
include hcontext

theorem observers_stay_quieter (listener : Listener) :
    RunContext.ObserversStay RunState.Quieter
      { context with observers := context.observers ++ [RunState.noteFault listener] } :=
  (RunContext.observers_stay_of_nil hcontext _).note_fault fun f s =>
    RunState.Quieter.note_fault listener f s

include hskip

/-- A run that skips no errors ends with success only if everything is clean. -/
theorem pipeline_clean (hs : s.results = {}) :
    (Run.pipelineBy q.work q.listener).Meets context s
      (fun outcome t => outcome.results = t.results ∧
        if outcome.success then outcome.values.Clean t else True) fun _ => True := by
  have hobservers := observers_stay_quieter hcontext q.listener
  have hclean : StageValues.Clean {} s := by
    refine ⟨nofun, ?_⟩
    rw [hs]
    exact ⟨List.forall_mem_nil _, List.forall_mem_nil _⟩
  refine (Run.pipeline_by_meets (E := fun _ _ => True) (StageValues.clean_spared q.listener)
    (fun _ => q.listener.spares_of_quieter fun _ _ _ h => h)
    (fun _ => Run.lasting_of_quieter hobservers fun _ _ _ h => h) fun phases _ => ?_).mono
      (fun _ _ h => h) fun _ _ => trivial
  exact stages_clean hobservers hskip hclean

/-- A run that skips no errors stops with the first unit that it cannot parse, unless it is
cancelled or has a deadline. -/
theorem pipeline_undisturbed (hnone : context.settings.pipeline.SetsNoDeadline)
    (hmode : context.settings.pipeline.mode ∈ SettingsTable.modes)
    (hparses : context.settings.pipeline.mode ≠ "discovery-only")
    (hs : s.Undisturbed policy (· = {})) :
    (Run.pipelineBy q.work q.listener).Meets context s
      (fun outcome t => outcome.results = t.results ∧
        if outcome.success then outcome.values.Parsed policy t
        else outcome.values.Stopped policy context.settings.pipeline t) fun _ => True := by
  have hobservers := observers_stay_quieter hcontext q.listener
  have hstopped : ∀ (v : StageValues) s t, s.Quieter t →
      v.Stopped policy context.settings.pipeline s →
        v.Stopped policy context.settings.pipeline t :=
    fun _ _ _ h hs found hfound => h.undisturbed (hs found hfound)
  refine (Run.pipeline_by_meets
    (fun v => q.listener.spares_of_quieter fun _ _ h hs found hfound =>
      h.undisturbed (hs found hfound))
    (fun v => q.listener.spares_of_quieter (hstopped v))
    (fun v => Run.lasting_of_quieter hobservers (hstopped v)) fun phases hphases => ?_).mono
      (fun _ _ h => h) fun _ _ => trivial
  obtain ⟨rest, hlist, hrest⟩ := phases_of_parsing_mode hmode hparses
  cases hphases.symm.trans hlist
  exact stages_undisturbed hobservers hskip hnone hrest hs

end Run

/-- What a run ends with that could not parse one of the discovered units: it has failed, nothing
has come after parsing, and the parses end with the first unit that could not be parsed.  There are
none only if the units cannot be put in order, so that no parsing was begun. -/
structure PipelineOutcome.FailedParsing (options : PipelineSettings) (units : List Component)
    (outcome : PipelineOutcome) : Prop where
  success : outcome.success = false
  phase : outcome.phase = .failed
  analysis : outcome.values.analysis = none
  inventory : outcome.values.inventory = none
  transforms : outcome.results.transforms = []
  validations : outcome.results.validations = []
  parses : outcome.results.parses ≠ [] → outcome.results.UpToFailure units
  nothing : outcome.results.parses = [] → options.Unordered units

/-- A run in one of the modes, which are those of accepted settings, that skips no errors always
comes to an outcome.  If it ends with success, the discovered units have no issue that is an error,
and all their parses and transformations were successful.  If it is not cancelled and its phases
have no deadline, a unit that could not be parsed ends it: it fails with the parses of the units up
to the first such unit. -/
theorem run_fails_fast :
    (∀ t : SettingsTable, t.validate = .ok () → t.settings.pipeline.mode ∈ SettingsTable.modes) ∧
    ∀ (o : Orchestrator) (q : RunRequest) (runId : String) (grammar : Grammar) (clock : Clock)
      (disk : Disk), o.isLocked = false → o.settings.pipeline.mode ∈ SettingsTable.modes →
      o.settings.pipeline.skipErrors = false →
      ∃ outcome s, (o.run ⟨runId, grammar, clock, q.work, q.listener⟩ disk).outcome = .ok outcome ∧
        (o.run ⟨runId, grammar, clock, q.work, q.listener⟩ disk).state = s ∧
        (outcome.success = true →
          ∃ found, outcome.values.discovery = some found ∧
            (∀ i ∈ found.issues, i.severity ≠ "error") ∧
            (∀ entry ∈ outcome.results.parses, entry.2.success = true) ∧
            ∀ entry ∈ outcome.results.transforms, entry.2.success = true) ∧
        (s.token.isCancelled = false → o.settings.pipeline.SetsNoDeadline →
          o.settings.pipeline.mode ≠ "discovery-only" →
            ∀ found, outcome.values.discovery = some found →
              ∀ c ∈ found.components, outcome.results.parsed c.id = false →
                outcome.FailedParsing o.settings.pipeline found.components) := by
  refine ⟨fun t ht => (SettingsTable.validate_eq_ok_iff.mp ht).mode_mem,
    fun o q runId grammar clock disk hfree hmode hskip => ?_⟩
  let task : RunTask := ⟨runId, grammar, clock, q.work, q.listener⟩
  obtain ⟨between, outcome, s, hbetween, hfits, hrun⟩ :
      ∃ between outcome s, modePhases.get? o.settings.pipeline.mode = some between ∧
        outcome.Fits (.initialization :: between ++ [.cleanup]) s.board.marks ∧
        o.run task disk = ⟨.ok outcome, s,
          { settings := o.settings, progress := s.board.progress }⟩ :=
    Orchestrator.run_spec disk hfree hmode q.work_quiet
  obtain ⟨t, hexec⟩ := Orchestrator.exec_of_run (congrArg FinishedRun.outcome hrun)
  obtain rfl : s = t := congrArg FinishedRun.state
    (hrun.symm.trans (Orchestrator.run_of_free hfree disk hexec))
  refine ⟨outcome, s, congrArg FinishedRun.outcome hrun, congrArg FinishedRun.state hrun,
    fun hsuccess => ?_, fun hcalm hnone hparses found hfound c hc hbad => ?_⟩
  · obtain ⟨hresults, hclean⟩ := Run.Meets.of_exec_ok hexec (pipeline_clean rfl hskip rfl)
    rw [hsuccess] at hclean
    have hdiscovered : .discovery ∈ completedPhases s.board.marks :=
      hfits.success.mp hsuccess _ (by simp [discovery_mem_of_mode hmode hbetween])
    obtain ⟨found, hfound⟩ := Option.isSome_iff_exists.mp (hfits.values.discovery.mpr hdiscovered)
    refine ⟨found, hfound, fun i hi => ?_, ?_, ?_⟩
    · simpa using List.filter_eq_nil_iff.mp (hclean.1 found hfound) i hi
    · rw [hresults]
      exact hclean.2.parses
    · rw [hresults]
      exact hclean.2.transforms
  · obtain ⟨hresults, hended⟩ := Run.Meets.of_exec_ok hexec
      (pipeline_undisturbed rfl hskip hnone hmode hparses (Or.inr ⟨rfl, rfl, rfl⟩))
    have hmissed : ¬ outcome.results.EachParsed found.components := fun h => by
      rw [h c hc] at hbad
      cases hbad
    have hkept : ∀ {Holds : UnitResults → Prop}, s.Undisturbed o.settings.retry Holds →
        Holds outcome.results := fun h =>
      hresults ▸ (h.resolve_left (by simp [hcalm])).results
    cases hsuccess : outcome.success with
    | true =>
        rw [hsuccess] at hended
        exact absurd (hkept (hended found hfound)) hmissed
    | false =>
        rw [hsuccess] at hended
        obtain ⟨hanalysis, hinventory, htransforms, hvalidations, hends⟩ :=
          (hkept (hended found hfound)).resolve_left hmissed
        exact
          { success := hsuccess
            phase := hfits.phase_failed.mp hsuccess
            analysis := hanalysis
            inventory := hinventory
            transforms := htransforms
            validations := hvalidations
            parses := fun hsome => hends.resolve_right fun h => hsome h.2
            nothing := fun hempty => (hends.resolve_left fun h => h.parses_ne_nil hempty).1 }

/-- Who skips no errors, and parses no file of more than sixty bytes. -/
def strictOrchestrator : Orchestrator :=
  { settings :=
      { pipeline := { skipErrors := false, generateReports := false }
        parser := { maxFileSize := .ok 60 } } }

/-- The text of an exported function component that returns one element. -/
def exportedText (name : String) : String :=
  "export function " ++ name ++ "() \x7b return <p/>; \x7d"

/-- The tree of this text. -/
def exportedTree (name : String) : Node :=
  .mk { kind := "export_statement", text := exportedText name }
    [.mk { kind := "function_declaration", field := "declaration" }
      [.mk { kind := "identifier", field := "name", text := name } [],
        .mk { kind := "formal_parameters", field := "parameters", text := "()" } [],
        .mk { kind := "statement_block", field := "body" }
          [.mk { kind := "return_statement", text := "return <p/>;" }
            [.mk { kind := "jsx_self_closing_element", text := "<p/>" } []]]]]

/-- A project of one file with two components. -/
def pairDisk : Disk :=
  { entries := [(⟨"/", ["proj"]⟩, .directory), (⟨"/", ["proj", "src"]⟩, .directory),
      (⟨"/", ["proj", "src", "Pair.tsx"]⟩,
        .file (Text.encodeUtf8 (exportedText "Card" ++ "\n" ++ exportedText "Panel")))] }

/-- A run on this project. -/
def pairRun : FinishedRun :=
  strictOrchestrator.run
    ⟨"run", fun _ text => .mk { kind := "program", text := text }
        [exportedTree "Card", exportedTree "Panel"], fun _ => 0.0,
      RunRequest.work ⟨⟨"", ["src"]⟩, ⟨0⟩, fun _ => none⟩, fun _ => none⟩ pairDisk

theorem run_fails_fast_pair :
    ∃ outcome found, pairRun.outcome = .ok outcome ∧ outcome.values.discovery = some found ∧
      found.components.map Component.id = ["Pair.tsx:Card", "Pair.tsx:Panel"] ∧
      outcome.results.parses.keys = ["Pair.tsx:Card"] ∧
      outcome.FailedParsing strictOrchestrator.settings.pipeline found.components := by
  have hrun : (pairRun.outcome.toOption.map fun o =>
      (o.values.discovery.map fun found => found.components.map Component.id,
        o.results.parses.keys, o.results.parsed "Pair.tsx:Card")) =
      some (some ["Pair.tsx:Card", "Pair.tsx:Panel"], ["Pair.tsx:Card"], false) := by
    decide +kernel
  have hcalm : pairRun.state.token.isCancelled = false := by decide +kernel
  obtain ⟨outcome, s, houtcome, rfl, -, hfailed⟩ := run_fails_fast.2 strictOrchestrator
    ⟨⟨"", ["src"]⟩, ⟨0⟩, fun _ => none⟩ "run" _ (fun _ => 0.0) pairDisk rfl (by decide) rfl
  change pairRun.outcome = _ at houtcome
  rw [houtcome] at hrun
  obtain ⟨hdiscovery, hresults⟩ := Prod.ext_iff.mp (Option.some.inj hrun)
  obtain ⟨hkeys, hcard⟩ := Prod.ext_iff.mp hresults
  obtain ⟨found, hfound, hids⟩ := Option.map_eq_some_iff.mp hdiscovery
  have hmem : "Pair.tsx:Card" ∈ found.components.map Component.id := by
    rw [hids]
    exact List.mem_cons_self
  obtain ⟨c, hc, hid⟩ := List.mem_map.mp hmem
  exact ⟨outcome, found, houtcome, hfound, hids, hkeys,
    hfailed hcalm nofun (by decide) found hfound c hc (hid ▸ hcard)⟩

end ComponentMigration
