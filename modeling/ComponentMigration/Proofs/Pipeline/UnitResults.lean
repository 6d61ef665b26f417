import ComponentMigration.Proofs.Dependency.Graph
import ComponentMigration.Proofs.Module.Transform
import ComponentMigration.Proofs.Pipeline.Work

/-!
# What the phases have for each unit

Every phase makes a collection of its own from the discovered units: the parses, the graph, the
inventory, the outcomes of transformation and the reports of validation.  Results of units are only
kept when they are told, so a batch that comes to its end has kept one for each unit
(`BatchJob.results_conduct`).  One lemma for each phase says which units it has when its work is done,
whatever went wrong with single units on the way.
-/

namespace ComponentMigration

/-- States with the same results of units. -/
def RunState.SameResults (s t : RunState) : Prop := t.results = s.results

instance : RunState.IsLax RunState.SameResults where
  refl _ := rfl
  trans _ _ _ hfirst hsecond := Eq.trans hsecond hfirst
  of_alike halike := halike.results

/-- A computation that does not touch the results of units. -/
theorem Run.Stays.meets_results {α : Type} {x : Run α} {context : RunContext}
    (hx : x.Stays RunState.SameResults)
    (hobservers : context.ObserversStay RunState.SameResults) (s : RunState) :
    x.Meets context s (fun _ t => t.results = s.results) fun _ => True :=
  (hx.meets hobservers (rfl : s.SameResults s)).mono (fun _ _ h => h) fun _ _ => trivial

theorem Run.Stays.results_of_exec {α : Type} {x : Run α} {context : RunContext}
    {result : Except Failure α} {s t : RunState} (hx : x.Stays RunState.SameResults)
    (hobservers : context.ObserversStay RunState.SameResults)
    (hexec : x.exec context s = (result, t)) : t.results = s.results := by
  have hsame : (x.exec context s).2.results = s.results := hx.state context s hobservers
  rwa [hexec] at hsame

theorem Listener.results_stay (listener : Listener) :
    listener.StaysWithin RunState.SameResults where
  moveTo _ _ _ _ := RunState.results_announce listener _ _
  warn _ _ := RunState.results_announce listener _ _
  unit _ _ _ := RunState.results_announce listener _ _
  progress _ _ := rfl

section Discovery

variable {context : RunContext} {s t : RunState} {units found : List Component}

/-- Units with distinct ids. -/
def DistinctUnits (units : List Component) : Prop := (units.map Component.id).Nodup

theorem Run.add_units_distinct (h : DistinctUnits units) (found : List Component) :
    DistinctUnits (Run.addUnits units found) := by
  unfold Run.addUnits
  induction found generalizing units with
  | nil => exact h
  | cons c rest ih =>
      rw [List.foldl_cons]
      split
      · exact ih h
      · next hnew =>
          refine ih ?_
          rw [DistinctUnits, List.map_append, List.map_singleton, List.nodup_append]
          refine ⟨h, List.pairwise_singleton _ _, ?_⟩
          intro id hid id' hid' heq
          obtain ⟨u, hu, rfl⟩ := List.mem_map.mp hid
          rw [List.mem_singleton.mp hid'] at heq
          exact hnew (List.any_eq_true.mpr ⟨u, hu, beq_iff_eq.mpr heq⟩)

theorem Run.analyze_sources_distinct {root : Path} {coverage : Assoc Float} {paths : List Path}
    {issues : List DiscoveryIssue} {result : List Component × List DiscoveryIssue}
    (h : DistinctUnits units)
    (hexec : (Run.analyzeSources root coverage paths units issues).exec context s =
      (.ok result, t)) : DistinctUnits result.1 := by
  induction paths generalizing units issues s with
  | nil =>
      cases hexec
      exact h
  | cons path rest ih =>
      unfold Run.analyzeSources at hexec
      obtain ⟨_, _, -, hexec⟩ := Run.exec_bind_eq_ok.mp hexec
      obtain ⟨_, _, -, hexec⟩ := Run.exec_bind_eq_ok.mp hexec
      obtain ⟨⟨found, told⟩, _, -, hexec⟩ := Run.exec_bind_eq_ok.mp hexec
      exact ih (Run.add_units_distinct h found) hexec

/-- Discovered units have distinct ids. -/
theorem Run.discover_distinct {root : Path} {found : DiscoveryResult}
    (hexec : (Run.discover root).exec context s = (.ok found, t)) :
    DistinctUnits found.components := by
  unfold Run.discover at hexec
  obtain ⟨_, _, -, hexec⟩ := Run.exec_bind_eq_ok.mp hexec
  obtain ⟨_, _, -, hexec⟩ := Run.exec_bind_eq_ok.mp hexec
  obtain ⟨⟨files, issues⟩, _, -, hexec⟩ := Run.exec_bind_eq_ok.mp hexec
  obtain ⟨_, _, -, hexec⟩ := Run.exec_bind_eq_ok.mp hexec
  obtain ⟨⟨components, issues⟩, _, hsources, hexec⟩ := Run.exec_bind_eq_ok.mp hexec
  obtain ⟨_, _, -, hexec⟩ := Run.exec_bind_eq_ok.mp hexec
  cases hexec
  have hnone : DistinctUnits [] := List.nodup_nil
  exact Run.analyze_sources_distinct hnone hsources

end Discovery

section Phases

variable {q : RunRequest} {context : RunContext} {s t : RunState} {components : List Component}

theorem RunRequest.discover_phase_distinct {found : DiscoveryResult}
    (hexec : q.discoverPhase.exec context s = (.ok found, t)) :
    DistinctUnits found.components := by
  unfold RunRequest.discoverPhase at hexec
  obtain ⟨found', _, hdiscover, hexec⟩ := Run.exec_bind_eq_ok.mp hexec
  obtain ⟨_, _, -, hexec⟩ := Run.exec_bind_eq_ok.mp hexec
  obtain ⟨_, _, -, hexec⟩ := Run.exec_bind_eq_ok.mp hexec
  cases hexec
  exact Run.discover_distinct hdiscover

/-- The nodes of an analysis that are told to be units are the units. -/
theorem RunRequest.analyze_phase_unit_ids {analysis : DependencyAnalysis}
    (h : DistinctUnits components)
    (hexec : (q.analyzePhase components).exec context s = (.ok analysis, t)) :
    analysis.graph.unitIds.Perm (components.map Component.id) := by
  unfold RunRequest.analyzePhase at hexec
  obtain ⟨analysis', _, hanalyze, hexec⟩ := Run.exec_bind_eq_ok.mp hexec
  obtain ⟨_, _, -, hexec⟩ := Run.exec_bind_eq_ok.mp hexec
  obtain ⟨_, _, -, hexec⟩ := Run.exec_bind_eq_ok.mp hexec
  cases hexec
  unfold Run.analyze at hanalyze
  obtain ⟨state, _, -, hanalyze⟩ := Run.exec_bind_eq_ok.mp hanalyze
  obtain ⟨_, _, -, hanalyze⟩ := Run.exec_bind_eq_ok.mp hanalyze
  obtain ⟨hof, -⟩ := Run.exec_use_eq_ok.mp hanalyze
  rw [DependencyGraph.unitIds, nodes_of_analysis_of hof]
  exact unit_ids_build_graph h _

theorem assess_unit_id {options : InventorySettings} {c : Component} {parse : Option ParseOutcome}
    {analysis : Option DependencyAnalysis} {r : Readiness}
    (h : assess options c parse analysis = .ok r) : r.unitId = c.id := by
  unfold assess at h
  obtain ⟨_, -, h⟩ := bind_eq_ok.mp h
  obtain ⟨_, -, h⟩ := bind_eq_ok.mp h
  obtain ⟨_, -, h⟩ := bind_eq_ok.mp h
  obtain ⟨_, -, h⟩ := bind_eq_ok.mp h
  cases h
  rfl

theorem Run.assess_all_unit_ids {parses : Assoc ParseOutcome}
    {analysis : Option DependencyAnalysis} {onUnit : Component → Run Unit}
    {readiness : List Readiness}
    (hexec : (Run.assessAll parses analysis onUnit components).exec context s =
      (.ok readiness, t)) : readiness.map (·.unitId) = components.map Component.id := by
  induction components generalizing readiness s t with
  | nil =>
      cases hexec
      rfl
  | cons c rest ih =>
      unfold Run.assessAll at hexec
      obtain ⟨_, _, -, hexec⟩ := Run.exec_bind_eq_ok.mp hexec
      obtain ⟨_, _, -, hexec⟩ := Run.exec_bind_eq_ok.mp hexec
      obtain ⟨_, _, -, hexec⟩ := Run.exec_bind_eq_ok.mp hexec
      obtain ⟨r, _, huse, hexec⟩ := Run.exec_bind_eq_ok.mp hexec
      obtain ⟨_, _, -, hexec⟩ := Run.exec_bind_eq_ok.mp hexec
      obtain ⟨later, _, hlater, hexec⟩ := Run.exec_bind_eq_ok.mp hexec
      cases hexec
      rw [List.map_cons, List.map_cons, ih hlater, assess_unit_id (Run.exec_use_eq_ok.mp huse).1]

theorem components_of_inventory_of {options : InventorySettings} {generatedAt source : String}
    {readiness : List Readiness} {analysis : Option DependencyAnalysis} {inventory : Inventory}
    (h : inventoryOf options generatedAt source components readiness analysis = .ok inventory) :
    inventory.components = readiness := by
  obtain ⟨_, -, h⟩ := bind_eq_ok.mp h
  obtain ⟨_, -, h⟩ := bind_eq_ok.mp h
  exact (congrArg Inventory.components (Except.ok.inj h)).symm

/-- An inventory has one entry for each unit, in their order. -/
theorem RunRequest.inventory_phase_unit_ids {v : StageValues} {inventory : Inventory}
    (hexec : (q.inventoryPhase v).exec context s = (.ok inventory, t)) :
    inventory.components.map (·.unitId) = v.units.map Component.id := by
  unfold RunRequest.inventoryPhase at hexec
  obtain ⟨_, _, -, hexec⟩ := Run.exec_bind_eq_ok.mp hexec
  unfold Run.inventory at hexec
  obtain ⟨readiness, _, hassess, hexec⟩ := Run.exec_bind_eq_ok.mp hexec
  obtain ⟨_, _, -, hexec⟩ := Run.exec_bind_eq_ok.mp hexec
  obtain ⟨hinventory, -⟩ := Run.exec_use_eq_ok.mp hexec
  rw [components_of_inventory_of hinventory]
  exact Run.assess_all_unit_ids hassess

end Phases

section Tables

variable {α β : Type} {context : RunContext} {s : RunState}

/-- Work that does not touch the results of units while each of its own results is kept when it is
told: what is kept is about the results that have been told, and the values that come out are good. -/
theorem BatchJob.results_conduct (job : BatchJob α β) (items : List α) (Good : β → Prop)
    (Kept : List (TaskResult β) → UnitResults → Prop)
    (hobservers : context.ObserversStay RunState.SameResults)
    (hwork : ∀ item, (job.work item).Stays RunState.SameResults)
    (hgood : ∀ item s, (job.work item).Meets context s (fun b _ => Good b) fun _ => True)
    (hcheckpoint : job.checkpoint.Stays RunState.SameResults)
    (htell : ∀ told r s, (∀ b, r.outcome = .ok b → Good b) → Kept told s.results →
      (job.onResult r).Meets context s (fun _ t => Kept (told ++ [r]) t.results) fun _ => True) :
    job.Conduct items context True
      (fun worked told s => (∀ r ∈ worked, ∀ b, r.outcome = .ok b → Good b) ∧ Kept told s.results)
      fun _ => True where
  lasting _ worked told :=
    { alike := fun s t halike hs => ⟨hs.1, halike.results ▸ hs.2⟩
      observed := fun observe hobserve f s hs =>
        ⟨hs.1, (hobservers observe hobserve f s : _ = _) ▸ hs.2⟩ }
  checkpoint {worked told s} hs :=
    (hcheckpoint.meets hobservers (rfl : s.SameResults s)).mono
      (fun _ t (ht : t.results = s.results) => ⟨hs.1, ht ▸ hs.2⟩)
      fun t (ht : t.results = s.results) => ⟨trivial, hs.1, ht ▸ hs.2⟩
  work {worked told s} item _ hs := by
    have hsame := (hwork item).meets hobservers (rfl : s.SameResults s)
    refine (hsame.and (hgood item s)).mono ?_ ?_
    · rintro b t ⟨ht : t.results = s.results, hb⟩
      refine ⟨?_, ht ▸ hs.2⟩
      rw [List.forall_mem_append]
      refine ⟨hs.1, List.forall_mem_singleton.mpr ?_⟩
      rintro _ ⟨⟩
      exact hb
    · rintro t ⟨ht : t.results = s.results, -⟩
      exact ⟨trivial, hs.1, ht ▸ hs.2⟩
  absorbed item _ f _ hs := by
    refine ⟨?_, hs.2⟩
    rw [List.forall_mem_append]
    exact ⟨hs.1, List.forall_mem_singleton.mpr fun b hb => nomatch hb⟩
  tell {worked told s} r hr hs :=
    (htell told r s (hs.1 r hr) hs.2).mono (fun _ _ ht => ⟨hs.1, ht⟩) fun _ _ => trivial
  failed _ _ := trivial

end Tables

section Parsing

variable {q : RunRequest} {context : RunContext} {s t : RunState} {components : List Component}
  (hobservers : context.ObserversStay RunState.SameResults)
include hobservers

/-- A result of parsing is kept under its key, unless it ends the run. -/
theorem RunRequest.keep_parse_meets (total : Nat) (r : TaskResult ParseOutcome) :
    (q.keepParse total r).Meets context s
      (fun _ t => t.results = { s.results with
        parses := s.results.parses.set r.key (RunRequest.parseOutcomeOf r) }) fun _ => True := by
  have hrest : Run.Stays RunState.SameResults (do
      RunRequest.requireParsed r.key (RunRequest.parseOutcomeOf r)
      q.tellParsed total r.key) :=
    Run.stays_bind (stays_require_parsed _ _) fun _ =>
      RunRequest.stays_tell_parsed q.listener.results_stay total r.key
  refine Run.meets_bind (Q := fun _ u => u.results = { s.results with
    parses := s.results.parses.set r.key (RunRequest.parseOutcomeOf r) }) rfl fun _ u hu => ?_
  exact (hrest.meets_results hobservers u).mono (fun _ _ ht => ht.trans hu) fun _ h => h

/-- A completed phase of parsing has a parse for each unit. -/
theorem RunRequest.parse_phase_meets (hs : s.results = {}) :
    (q.parsePhase components).Meets context s
      (fun _ t => t.results.parses.HasKeys (components.map Component.id) ∧
        t.results.transforms = [] ∧ t.results.validations = []) fun _ => True := by
  refine Run.meets_read_bind (Run.meets_use_bind (fun _ _ => trivial) fun limits hlimits => ?_)
  have hpos : ∀ n, limits.batchSize.int? = some n → 0 < n := fun n =>
    BatchLimits.batch_size_pos hlimits
  have htell : ∀ (told : List (TaskResult ParseOutcome)) r (u : RunState),
      (u.results.parses.HasKeys (told.map (·.key)) ∧ u.results.transforms = [] ∧
        u.results.validations = []) →
      (q.keepParse (max components.length 1) r).Meets context u
        (fun _ t => t.results.parses.HasKeys ((told ++ [r]).map (·.key)) ∧
          t.results.transforms = [] ∧ t.results.validations = []) fun _ => True := by
    rintro told r u ⟨hkeys, hothers⟩
    refine (RunRequest.keep_parse_meets hobservers _ r).mono (fun _ t ht => ?_) fun _ _ => trivial
    rw [ht, List.map_append]
    exact ⟨hkeys.set r.key _, hothers⟩
  have hconduct := BatchJob.results_conduct
    ⟨fun c => Run.parseUnit c none, Component.id, Run.checkpoint {},
      q.keepParse (max components.length 1)⟩ components (fun _ => True)
    (fun told r => r.parses.HasKeys (told.map (·.key)) ∧ r.transforms = [] ∧ r.validations = [])
    hobservers (fun c => stays_parse_unit c none) (fun _ _ => Run.meets_trivial)
    (Run.stays_checkpoint {}) fun told r u _ => htell told r u
  refine Run.meets_bind (hconduct.run hpos {} (Or.inl trivial) ⟨List.forall_mem_nil _, ?_⟩)
    fun results t ⟨hkeys, _, hkept, hothers⟩ => ⟨hkept.of_perm hkeys, hothers⟩
  rw [hs]
  exact ⟨.nil, rfl, rfl⟩

end Parsing

/-- Whether the transformation of a unit succeeded. -/
def UnitResults.succeeded (r : UnitResults) (id : String) : Bool :=
  (r.transforms.get? id).any (·.success)

/-- Results in which successful transformations have a transformed component. -/
def UnitResults.IsWhole (r : UnitResults) : Prop := ∀ entry ∈ r.transforms, entry.2.IsWhole

/-- Results of units some of which were candidates for transformation: each of these has an outcome,
and each of these that succeeded has a report. -/
structure UnitResults.OfCandidates (r : UnitResults) (candidates : List Component) : Prop where
  transforms : r.transforms.HasKeys (candidates.map Component.id)
  validations : r.validations.HasKeys
    ((candidates.filter fun c => r.succeeded c.id).map Component.id)

theorem UnitResults.IsWhole.succeeded_eq {r : UnitResults} (h : r.IsWhole) (id : String) :
    r.succeeded id = ((r.transforms.get? id).bind TransformOutcome.migrated?).isSome := by
  unfold UnitResults.succeeded
  cases hget : r.transforms.get? id with
  | none => rfl
  | some outcome =>
      have hwhole := h _ (Assoc.mem_of_get? hget)
      show outcome.success = (TransformOutcome.migrated? outcome).isSome
      unfold TransformOutcome.migrated?
      split
      · next hsuccess => rw [hwhole hsuccess, hsuccess]
      · next hsuccess => simpa using hsuccess

theorem TaskResult.transform_outcome_is_whole {components : List Component}
    {r : TaskResult TransformOutcome} {outcome : TransformOutcome}
    (hr : ∀ o, r.outcome = .ok o → o.IsWhole) (h : r.transformOutcome components = some outcome) :
    outcome.IsWhole := by
  unfold TaskResult.transformOutcome at h
  split at h
  · next value hvalue =>
      cases h
      exact hr _ hvalue
  · obtain ⟨c, -, rfl⟩ := Option.map_eq_some_iff.mp h
    exact failed_transform_is_whole c _

section Transforming

variable {q : RunRequest} {context : RunContext} {s t : RunState} {components : List Component}
  {inventory : Inventory} (hobservers : context.ObserversStay RunState.SameResults)
include hobservers

/-- An outcome of transformation is kept under its key. -/
theorem RunRequest.keep_transform_meets (r : TaskResult TransformOutcome) :
    (q.keepTransform components r).Meets context s
      (fun _ t => ∃ outcome, r.transformOutcome components = some outcome ∧
        t.results = { s.results with transforms := s.results.transforms.set r.key outcome })
      fun _ => True := by
  unfold RunRequest.keepTransform
  cases r.transformOutcome components with
  | none => exact trivial
  | some outcome =>
      refine Run.meets_bind (Q := fun _ u => u.results = { s.results with
        transforms := s.results.transforms.set r.key outcome }) rfl fun _ u hu => ?_
      have htell := stays_tell_transformed q.listener.results_stay components.length r.key
      exact (htell.meets_results hobservers u).mono
        (fun _ _ ht => ⟨outcome, rfl, ht.trans hu⟩) fun _ h => h

/-- What is kept when units have been transformed: an outcome for each, and no report yet. -/
theorem RunRequest.transform_batch_meets (hs : s.results.transforms = [])
    (hvalidations : s.results.validations = []) :
    (Run.transformBatch components [] (q.keepTransform components)).Meets context s
      (fun _ t => t.results.transforms.HasKeys (components.map Component.id) ∧ t.results.IsWhole ∧
        t.results.parses = s.results.parses ∧ t.results.validations = []) fun _ => True := by
  refine Run.meets_read_bind (Run.meets_use_bind (fun _ _ => trivial) fun limits hlimits => ?_)
  have hpos : ∀ n, limits.batchSize.int? = some n → 0 < n := fun n =>
    BatchLimits.batch_size_pos hlimits
  have htell : ∀ (told : List (TaskResult TransformOutcome)) r (u : RunState),
      (∀ o, r.outcome = .ok o → o.IsWhole) →
      (u.results.transforms.HasKeys (told.map (·.key)) ∧ u.results.IsWhole ∧
        u.results.parses = s.results.parses ∧ u.results.validations = []) →
      (q.keepTransform components r).Meets context u
        (fun _ t => t.results.transforms.HasKeys ((told ++ [r]).map (·.key)) ∧ t.results.IsWhole ∧
          t.results.parses = s.results.parses ∧ t.results.validations = []) fun _ => True := by
    rintro told r u hr ⟨hkeys, hwhole, hothers⟩
    refine (RunRequest.keep_transform_meets hobservers r).mono ?_ fun _ _ => trivial
    rintro _ t ⟨outcome, houtcome, ht⟩
    rw [ht, List.map_append]
    refine ⟨hkeys.set r.key outcome, fun entry hentry => ?_, hothers⟩
    rcases Assoc.mem_or_eq_of_mem_set hentry with hentry | rfl
    · exact hwhole entry hentry
    · exact TaskResult.transform_outcome_is_whole hr houtcome
  have hconduct := BatchJob.results_conduct
    ⟨fun c => Run.transformFrom c (Run.unitText c none), Component.id, Run.checkpoint {},
      q.keepTransform components⟩ components TransformOutcome.IsWhole
    (fun told r => r.transforms.HasKeys (told.map (·.key)) ∧ r.IsWhole ∧
      r.parses = s.results.parses ∧ r.validations = []) hobservers
    (fun c => stays_transform_from c (stays_unit_text c none))
    (fun c u => Run.transform_from_whole context u c _) (Run.stays_checkpoint {}) htell
  refine Run.meets_bind (hconduct.run hpos context.settings.transform.arrangement (Or.inl trivial)
    ⟨List.forall_mem_nil _, ?_⟩) fun results t ⟨hkeys, _, hkept, hothers⟩ =>
      ⟨hkept.of_perm hkeys, hothers⟩
  rw [UnitResults.IsWhole, hs]
  exact ⟨.nil, List.forall_mem_nil _, rfl, hvalidations⟩

/-- A unit has a report exactly if its transformation succeeded. -/
theorem RunRequest.validate_one_meets (c : Component) {keys : List String}
    (hwhole : s.results.IsWhole) (hkeys : s.results.validations.HasKeys keys) :
    (q.validateOne c).Meets context s
      (fun _ t => t.results.parses = s.results.parses ∧
        t.results.transforms = s.results.transforms ∧
        t.results.validations.HasKeys (keys ++ if s.results.succeeded c.id then [c.id] else []))
      fun _ => True := by
  refine Run.meets_bind (Q := fun _ u => u = s) rfl fun place u hu => ?_
  subst hu
  refine Run.meets_bind ((Run.stays_checkpoint place).meets_results hobservers u) fun _ v hv => ?_
  refine Run.meets_get_bind ?_
  rw [hv, hwhole.succeeded_eq]
  cases (u.results.transforms.get? c.id).bind TransformOutcome.migrated? with
  | none =>
      show v.results.parses = _ ∧ v.results.transforms = _ ∧ v.results.validations.HasKeys _
      rw [hv]
      exact ⟨rfl, rfl, by simpa using hkeys⟩
  | some migrated =>
      refine Run.meets_use_bind (fun _ _ => trivial) fun report _ => ?_
      refine Run.meets_bind (Q := fun _ w => w.results = { u.results with
        validations := u.results.validations.set c.id report }) ?_ fun _ w hw => ?_
      · exact congrArg (fun r : UnitResults =>
          { r with validations := r.validations.set c.id report }) hv
      · have hwarn := stays_warn_unless_equivalent q.listener.results_stay.remarks c.id report
        refine (hwarn.meets_results hobservers w).mono (fun _ x hx => ?_) fun _ h => h
        rw [hx, hw]
        exact ⟨rfl, rfl, hkeys.set c.id report⟩

theorem RunRequest.validate_all_meets (units : List Component) {keys : List String}
    (hwhole : s.results.IsWhole) (hkeys : s.results.validations.HasKeys keys) :
    Run.Meets (units.forM q.validateOne) context s
      (fun _ t => t.results.parses = s.results.parses ∧
        t.results.transforms = s.results.transforms ∧
        t.results.validations.HasKeys
          (keys ++ (units.filter fun c => s.results.succeeded c.id).map Component.id))
      fun _ => True := by
  induction units generalizing s keys with
  | nil => exact ⟨rfl, rfl, by rwa [List.filter_nil, List.map_nil, List.append_nil]⟩
  | cons c rest ih =>
      refine Run.meets_bind (validate_one_meets hobservers c hwhole hkeys)
        fun _ t ⟨hparses, htransforms, hkept⟩ => ?_
      have hwhole' : t.results.IsWhole := by
        rw [UnitResults.IsWhole, htransforms]
        exact hwhole
      have hsame : t.results.succeeded = s.results.succeeded := by
        funext id
        rw [UnitResults.succeeded, htransforms]
        rfl
      refine (ih hwhole' hkept).mono ?_ fun _ _ => trivial
      rintro _ u ⟨hparses', htransforms', hkept'⟩
      refine ⟨hparses'.trans hparses, htransforms'.trans htransforms, ?_⟩
      rw [hsame, List.append_assoc] at hkept'
      rw [List.filter_cons]
      split at hkept' <;> simp_all

/-- Of the units whose level is wanted, each has an outcome, and those that succeeded have a report. -/
theorem RunRequest.transform_units_meets (hs : s.results.transforms = [])
    (hvalidations : s.results.validations = []) :
    (q.transformUnits components inventory).Meets context s
      (fun _ t => t.results.parses = s.results.parses ∧
        ∃ levels, context.settings.transform.transformLevels = .ok levels ∧
          t.results.OfCandidates (transformCandidates levels inventory components))
      fun _ => True := by
  refine Run.meets_read_bind (Run.meets_use_bind (fun _ _ => trivial) fun levels hlevels => ?_)
  dsimp only
  split
  · next hempty =>
      refine ⟨rfl, levels, hlevels, ?_⟩
      rw [List.isEmpty_iff.mp hempty]
      exact ⟨hs ▸ .nil, hvalidations ▸ .nil⟩
  · refine Run.meets_bind (transform_batch_meets hobservers hs hvalidations)
      fun _ t ⟨htransforms, hwhole, hparses, hreports⟩ => ?_
    refine Run.meets_bind (stays_require_transformed.meets_results hobservers t) fun _ u hu => ?_
    rw [← hu] at htransforms hwhole hparses hreports
    have hnone : u.results.validations.HasKeys [] := hreports ▸ .nil
    refine (validate_all_meets hobservers _ hwhole hnone).mono ?_ fun _ h => h
    rintro _ v ⟨hparses', htransforms', hvalidated⟩
    refine ⟨hparses'.trans hparses, levels, hlevels, ?_, ?_⟩
    · rw [htransforms']
      exact htransforms
    · have hsame : v.results.succeeded = u.results.succeeded := by
        funext id
        rw [UnitResults.succeeded, htransforms']
        rfl
      rw [hsame]
      exact hvalidated

theorem RunRequest.output_phase_meets {v : StageValues} (hs : s.results.transforms = [])
    (hvalidations : s.results.validations = []) :
    (q.outputPhase v).Meets context s
      (fun _ t => t.results.parses = s.results.parses ∧
        ∀ inventory, v.inventory = some inventory → context.settings.pipeline.transform = true →
          ∃ levels, context.settings.transform.transformLevels = .ok levels ∧
            t.results.OfCandidates (transformCandidates levels inventory v.units))
      fun _ => True := by
  refine Run.meets_read_bind ?_
  cases v.inventory with
  | none => exact ⟨rfl, nofun⟩
  | some inventory =>
      have hreport : ∀ u : RunState, (reportPhase context.settings.pipeline inventory
          v.analysis).Meets context u (fun _ t => t.results = u.results) fun _ => True := fun u =>
        (stays_report_phase (fun _ _ => rfl) _ inventory v.analysis).meets_results hobservers u
      dsimp only
      split
      · refine Run.meets_bind (transform_units_meets hobservers hs hvalidations)
          fun _ t ⟨hparses, hcandidates⟩ => (hreport t).mono ?_ fun _ _ => trivial
        rintro _ u hu
        rw [hu]
        refine ⟨hparses, ?_⟩
        rintro _ ⟨⟩ _
        exact hcandidates
      · next hoff =>
          refine (hreport s).mono (fun _ u hu => ⟨?_, fun _ _ hon => absurd hon hoff⟩)
            fun _ _ => trivial
          rw [hu]

end Transforming

section Bodies

variable {q : RunRequest} {context : RunContext} {s t : RunState} {v v' : StageValues}
  (hobservers : context.ObserversStay RunState.SameResults)
include hobservers

theorem PhaseWork.body_discovery
    (h : (q.work.body .discovery v).exec context s = (.ok v', t)) :
    ∃ found, v' = { v with discovery := some found } ∧ DistinctUnits found.components ∧
      t.results = s.results := by
  obtain ⟨found, _, hdiscover, h⟩ := Run.exec_bind_eq_ok.mp h
  cases h
  exact ⟨found, rfl, RunRequest.discover_phase_distinct hdiscover,
    (RunRequest.stays_discover_phase q.listener.results_stay.remarks).results_of_exec hobservers
      hdiscover⟩

theorem PhaseWork.body_parsing (hs : s.results = {})
    (h : (q.work.body .parsing v).exec context s = (.ok v', t)) :
    v' = v ∧ t.results.parses.HasKeys (v.units.map Component.id) ∧ t.results.transforms = [] ∧
      t.results.validations = [] := by
  obtain ⟨_, _, hparse, h⟩ := Run.exec_bind_eq_ok.mp h
  cases h
  have hmeets : (q.parsePhase v.units).Meets context s _ _ :=
    RunRequest.parse_phase_meets hobservers hs
  change (q.parsePhase v.units).exec context s = _ at hparse
  rw [Run.Meets, hparse] at hmeets
  exact ⟨rfl, hmeets⟩

theorem PhaseWork.body_dependency_analysis (hunits : DistinctUnits v.units)
    (h : (q.work.body .dependencyAnalysis v).exec context s = (.ok v', t)) :
    ∃ analysis, v' = { v with analysis := some analysis } ∧
      analysis.graph.unitIds.Perm (v.units.map Component.id) ∧ t.results = s.results := by
  obtain ⟨analysis, _, hanalyze, h⟩ := Run.exec_bind_eq_ok.mp h
  cases h
  exact ⟨analysis, rfl, RunRequest.analyze_phase_unit_ids hunits hanalyze,
    (RunRequest.stays_analyze_phase q.listener.results_stay.remarks v.units).results_of_exec
      hobservers hanalyze⟩

theorem PhaseWork.body_inventory_generation
    (h : (q.work.body .inventoryGeneration v).exec context s = (.ok v', t)) :
    ∃ inventory, v' = { v with inventory := some inventory } ∧
      inventory.components.map (·.unitId) = v.units.map Component.id ∧
      t.results = s.results := by
  obtain ⟨inventory, _, hassess, h⟩ := Run.exec_bind_eq_ok.mp h
  cases h
  exact ⟨inventory, rfl, RunRequest.inventory_phase_unit_ids hassess,
    (RunRequest.stays_inventory_phase
      (RunRequest.stays_note_assessed q.listener.results_stay _)).results_of_exec hobservers hassess⟩

theorem PhaseWork.body_output_generation (hs : s.results.transforms = [])
    (hvalidations : s.results.validations = [])
    (h : (q.work.body .outputGeneration v).exec context s = (.ok v', t)) :
    ∃ reports, v' = { v with reports := reports } ∧ t.results.parses = s.results.parses ∧
      ∀ inventory, v.inventory = some inventory → context.settings.pipeline.transform = true →
        ∃ levels, context.settings.transform.transformLevels = .ok levels ∧
          t.results.OfCandidates (RunRequest.transformCandidates levels inventory v.units) := by
  obtain ⟨reports, _, hwrite, h⟩ := Run.exec_bind_eq_ok.mp h
  cases h
  have hmeets : (q.outputPhase v).Meets context s _ _ :=
    RunRequest.output_phase_meets hobservers hs hvalidations
  change (q.outputPhase v).exec context s = _ at hwrite
  rw [Run.Meets, hwrite] at hmeets
  exact ⟨reports, rfl, hmeets⟩

end Bodies

end ComponentMigration
