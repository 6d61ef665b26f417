import ComponentMigration.Proofs.Readiness.Sections
import ComponentMigration.Proofs.Settings.Validation
import ComponentMigration.Proofs.Text.Order

/-!
# The roadmap

The roadmap takes all units, sorts them by score and id, and cuts them into phases of one size.
`phases_schedule` says what the phases of a roadmap are.  A roadmap is made exactly if units can be
counted by the size of the phases and the duration of each phase can be told (`exists_roadmap`): the
checks of settings do not look at the weeks that a unit takes, so they may be too many for that.
-/

namespace ComponentMigration

variable {readiness : List Readiness} {options : InventorySettings}

/-! ### The order of units -/

/-- A unit comes before another one if its score is higher, or as high and its id the lesser one. -/
def Readiness.Precedes (a b : Readiness) : Prop :=
  b.overallScore < a.overallScore ∨ a.overallScore = b.overallScore ∧ a.unitId < b.unitId

theorem Readiness.before_iff {a b : Readiness} : a.before b ↔
    b.overallScore < a.overallScore ∨ a.overallScore = b.overallScore ∧ a.unitId ≤ b.unitId := by
  unfold before
  split
  · next heq =>
      rw [beq_iff_eq] at heq
      rw [text_le_iff]
      exact ⟨fun h => .inr ⟨heq, h⟩, fun h => h.elim (by omega) (·.2)⟩
  · next hne =>
      rw [beq_iff_eq] at hne
      rw [decide_eq_true_eq]
      omega

theorem pairwise_before (readiness : List Readiness) :
    (readiness.mergeSort Readiness.before).Pairwise fun a b => a.before b := by
  refine List.pairwise_mergeSort (fun a b c hab hbc => ?_) (fun a b => ?_) readiness
  · rw [Readiness.before_iff] at hab hbc ⊢
    rcases hab with hab | ⟨hab, hle⟩ <;> rcases hbc with hbc | ⟨hbc, hle'⟩
    · exact .inl (by omega)
    · exact .inl (by omega)
    · exact .inl (by omega)
    · exact .inr ⟨by omega, hle.trans hle'⟩
  · rw [Bool.or_eq_true, Readiness.before_iff, Readiness.before_iff]
    rcases Int.lt_trichotomy a.overallScore b.overallScore with hlt | heq | hgt
    · exact .inr (.inl hlt)
    · exact (le_total a.unitId b.unitId).imp (.inr ⟨heq, ·⟩) (.inr ⟨heq.symm, ·⟩)
    · exact .inl (.inl hgt)

/-- Units with distinct ids are sorted strictly. -/
theorem pairwise_precedes (hids : (readiness.map (·.unitId)).Nodup) :
    (readiness.mergeSort Readiness.before).Pairwise Readiness.Precedes := by
  have hids' : (readiness.mergeSort Readiness.before).Pairwise fun a b => a.unitId ≠ b.unitId :=
    List.pairwise_map.mp (((List.mergeSort_perm readiness _).map _).nodup_iff.mpr hids)
  refine (pairwise_before readiness).imp₂ (fun a b hbefore hne => ?_) hids'
  exact (Readiness.before_iff.1 hbefore).imp_right fun h => ⟨h.1, lt_of_le_of_ne h.2 hne⟩

/-! ### The phases -/

/-- What a phase waits for: the one before it, if there is one. -/
def phaseBefore (number : Nat) : List String :=
  if 1 < number then ["Phase " ++ toString (number - 1) ++ " completion"] else []

theorem fields_of_roadmap_phase {number : Nat} {units : List String} {p : RoadmapPhase}
    (h : roadmapPhase options number units = .ok p) :
    p.number = number ∧ p.units = units ∧ p.dependencies = phaseBefore number := by
  obtain ⟨duration, -, h⟩ := bind_eq_ok.mp h
  cases h
  exact ⟨rfl, rfl, rfl⟩

theorem exists_roadmap_phase {number : Nat} {units : List String} :
    (∃ p, roadmapPhase options number units = .ok p) ↔
      ∃ duration, phaseDuration options units.length = .ok duration := by
  constructor
  · rintro ⟨p, h⟩
    obtain ⟨duration, hduration, -⟩ := bind_eq_ok.mp h
    exact ⟨duration, hduration⟩
  · rintro ⟨duration, h⟩
    exact ⟨_, bind_eq_ok.mpr ⟨duration, h, rfl⟩⟩

/-- The phases of a roadmap for units, so many of them in a phase. -/
structure Schedules (phases : List RoadmapPhase) (size : Int) (readiness : List Readiness) :
    Prop where
  numbered : phases.map (·.number) = List.range' 1 phases.length
  within_size : ∀ p ∈ phases, 1 ≤ p.units.length ∧ (p.units.length : Int) ≤ size
  full : ∀ p ∈ phases.dropLast, (p.units.length : Int) = size
  in_order : ∃ sorted : List Readiness, sorted.Perm readiness ∧ sorted.Pairwise Readiness.Precedes ∧
    phases.flatMap (·.units) = sorted.map (·.unitId)
  best_first : phases.Pairwise fun p q => ∀ a ∈ readiness, ∀ b ∈ readiness,
    a.unitId ∈ p.units → b.unitId ∈ q.units → b.overallScore ≤ a.overallScore
  chained : ∀ p ∈ phases, p.dependencies = phaseBefore p.number

/-- The units of the phases come in the order of units. -/
theorem flatten_phase_units {size : Nat} (hsize : 0 < size) (readiness : List Readiness) :
    (phaseUnits size readiness).flatten =
      (readiness.mergeSort Readiness.before).map (·.unitId) :=
  flatten_chunks hsize _

/-- Units that come in order stay where they are. -/
theorem phase_units_of_pairwise {size : Nat} (h : readiness.Pairwise fun a b => a.before b) :
    phaseUnits size readiness = chunks size (readiness.map (·.unitId)) := by
  rw [phaseUnits, List.mergeSort_of_pairwise h]

/-- A unit's score is not below that of a unit whose id comes later. -/
theorem pairwise_scores (hids : (readiness.map (·.unitId)).Nodup) :
    ((readiness.mergeSort Readiness.before).map (·.unitId)).Pairwise fun x y =>
      ∀ a ∈ readiness, ∀ b ∈ readiness, a.unitId = x → b.unitId = y →
        b.overallScore ≤ a.overallScore := by
  refine List.pairwise_map.mpr ((pairwise_precedes hids).imp_of_mem ?_)
  intro a b ha hb hprecedes a' ha' b' hb' hida hidb
  have hmem : ∀ {r}, r ∈ readiness.mergeSort Readiness.before → r ∈ readiness := List.mem_mergeSort.mp
  obtain rfl : a' = a := List.inj_on_of_nodup_map hids ha' (hmem ha) hida
  obtain rfl : b' = b := List.inj_on_of_nodup_map hids hb' (hmem hb) hidb
  rcases hprecedes with hlt | ⟨heq, -⟩
  · exact Int.le_of_lt hlt
  · exact Int.le_of_eq heq.symm

theorem phases_schedule {size : Int} (hsize : 1 ≤ size) (hids : (readiness.map (·.unitId)).Nodup)
    {phases : List RoadmapPhase}
    (h : ((phaseUnits size.toNat readiness).zipIdx.mapM fun (units, i) =>
      roadmapPhase options (i + 1) units) = .ok phases) : Schedules phases size readiness := by
  have hnumbers : phases.map (·.number) =
      (phaseUnits size.toNat readiness).zipIdx.map fun piece => 1 + piece.2 :=
    map_eq_of_map_m (fun piece p hp => (fields_of_roadmap_phase hp).1.trans (Nat.add_comm _ _)) h
  have hunits : phases.map (·.units) = phaseUnits size.toNat readiness :=
    (map_eq_of_map_m (fun piece p hp => (fields_of_roadmap_phase hp).2.1) h).trans
      (List.zipIdx_map_fst _ _)
  have hlength : (phaseUnits size.toNat readiness).length = phases.length := by
    rw [← hunits, List.length_map]
  have hordered : phases.flatMap (·.units) =
      (readiness.mergeSort Readiness.before).map (·.unitId) := by
    rw [List.flatMap_def, hunits, flatten_phase_units (by omega)]
  have hscores := pairwise_scores hids
  rw [← hordered, List.pairwise_flatMap] at hscores
  refine ⟨?numbered, ?within_size, ?full, ?in_order, ?best_first, ?chained⟩
  case numbered =>
    have hadd := congrArg (List.map (1 + ·)) (List.zipIdx_map_snd 0 (phaseUnits size.toNat readiness))
    rw [List.map_map, List.map_add_range', hlength] at hadd
    exact hnumbers.trans hadd
  case within_size =>
    intro p hp
    have hpiece : p.units ∈ phaseUnits size.toNat readiness := hunits ▸ List.mem_map_of_mem hp
    obtain ⟨hpos, hle⟩ := length_of_mem_chunks_within (by omega) hpiece
    exact ⟨hpos, by omega⟩
  case full =>
    intro p hp
    have hpiece : p.units ∈ (phaseUnits size.toNat readiness).dropLast := by
      rw [← hunits, ← List.map_dropLast]
      exact List.mem_map_of_mem hp
    have hlength := length_of_mem_drop_last_chunks_within hpiece
    omega
  case in_order =>
    exact ⟨_, List.mergeSort_perm _ _, pairwise_precedes hids, hordered⟩
  case best_first =>
    exact hscores.2.imp fun h a ha b hb hp hq => h _ hp _ hq a ha b hb rfl rfl
  case chained =>
    have hdependencies : phases.map (·.dependencies) =
        (phaseUnits size.toNat readiness).zipIdx.map fun piece => phaseBefore (1 + piece.2) :=
      map_eq_of_map_m (fun piece p hp => Nat.add_comm piece.2 1 ▸ (fields_of_roadmap_phase hp).2.2) h
    have hbefore := congrArg (List.map phaseBefore) hnumbers
    rw [List.map_map, List.map_map] at hbefore
    exact List.map_inj_left.mp (hdependencies.trans hbefore.symm)

theorem roadmap_eq_ok {roadmap : Roadmap} (h : roadmapOf options readiness = .ok roadmap) :
    ∃ size, options.maxComponentsPerPhase = .ok size ∧
      ((phaseUnits size.toNat readiness).zipIdx.mapM fun (units, i) =>
        roadmapPhase options (i + 1) units) = .ok roadmap.phases := by
  obtain ⟨size, hsize, h⟩ := bind_eq_ok.mp h
  obtain ⟨phases, hphases, h⟩ := bind_eq_ok.mp h
  cases h
  exact ⟨size, hsize, hphases⟩

/-- A roadmap is made exactly if the phases have a size and the duration of each can be told. -/
theorem exists_roadmap : (∃ roadmap, roadmapOf options readiness = .ok roadmap) ↔
    ∃ size, options.maxComponentsPerPhase = .ok size ∧
      ∀ units ∈ phaseUnits size.toNat readiness,
        ∃ duration, phaseDuration options units.length = .ok duration := by
  have hsteps : ∀ pieces : List (List String),
      (∃ phases, (pieces.zipIdx.mapM fun (units, i) => roadmapPhase options (i + 1) units) =
        .ok phases) ↔
      ∀ units ∈ pieces, ∃ duration, phaseDuration options units.length = .ok duration := by
    intro pieces
    rw [exists_map_m_eq_ok]
    simp only [exists_roadmap_phase]
    conv_rhs => rw [← List.zipIdx_map_fst 0 pieces, List.forall_mem_map]
  constructor
  · rintro ⟨roadmap, h⟩
    obtain ⟨size, hsize, hphases⟩ := roadmap_eq_ok h
    exact ⟨size, hsize, (hsteps _).mp ⟨_, hphases⟩⟩
  · rintro ⟨size, hsize, hdurations⟩
    obtain ⟨phases, hphases⟩ := (hsteps _).mpr hdurations
    exact ⟨_, bind_eq_ok.mpr ⟨size, hsize, bind_eq_ok.mpr ⟨phases, hphases, rfl⟩⟩⟩

/-! ### The inventory -/

theorem summary_eq_ok {components : List Component} {analysis : Option DependencyAnalysis}
    {summary : InventorySummary} (h : summaryOf options components readiness analysis = .ok summary) :
    summary.byLevel = Assoc.count (readiness.map (·.level.label)) := by
  obtain ⟨months, -, h⟩ := bind_eq_ok.mp h
  cases h
  rfl

theorem exists_summary {components : List Component} {analysis : Option DependencyAnalysis} :
    (∃ summary, summaryOf options components readiness analysis = .ok summary) ↔
      ∃ months, personMonths options readiness = .ok months := by
  constructor
  · rintro ⟨summary, h⟩
    obtain ⟨months, hmonths, -⟩ := bind_eq_ok.mp h
    exact ⟨months, hmonths⟩
  · rintro ⟨months, h⟩
    exact ⟨_, bind_eq_ok.mpr ⟨months, h, rfl⟩⟩

/-- With accepted settings, assessed units with distinct ids are partitioned by the sections, counted
by the summary and scheduled by the roadmap.  There is a summary exactly if the effort can be told,
and a roadmap exactly if units can be counted by the size of the phases and each duration can be
told. -/
theorem inventory_arranges_units {t : SettingsTable} (ht : t.validate = .ok ())
    {readiness : List Readiness}
    (hassessed : ∀ r ∈ readiness,
      ∃ c parse analysis, assess t.settings.inventory c parse analysis = .ok r)
    (hids : (readiness.map (·.unitId)).Nodup) :
    Partitions (sectionsOf readiness) readiness ∧
    (∀ components analysis summary,
      summaryOf t.settings.inventory components readiness analysis = .ok summary →
        summary.byLevel.Perm
          ((sectionsOf readiness).map fun x => (x.level.label, x.units.length))) ∧
    (∀ roadmap, roadmapOf t.settings.inventory readiness = .ok roadmap →
      ∃ size, t.settings.inventory.maxComponentsPerPhase = .ok size ∧ 1 ≤ size ∧
        Schedules roadmap.phases size readiness) ∧
    (∀ components analysis,
      (∃ summary, summaryOf t.settings.inventory components readiness analysis = .ok summary) ↔
        ∃ months, personMonths t.settings.inventory readiness = .ok months) ∧
    ((∃ roadmap, roadmapOf t.settings.inventory readiness = .ok roadmap) ↔
      ∃ size, t.settings.inventory.maxComponentsPerPhase = .ok size ∧
        ∀ units ∈ phaseUnits size.toNat readiness,
          ∃ duration, phaseDuration t.settings.inventory units.length = .ok duration) := by
  have haccepted := SettingsTable.validate_eq_ok_iff.mp ht
  have hlevels : ∀ r ∈ readiness, r.level ∈ ReadinessLevel.all := by
    intro r hr
    obtain ⟨c, parse, analysis, h⟩ := hassessed r hr
    exact level_of_assess h ▸ ReadinessLevel.of_score_mem_all _ _
  refine ⟨sections_partition hids hlevels, ?_, ?_, fun _ _ => exists_summary, exists_roadmap⟩
  · intro components analysis summary h
    exact summary_eq_ok h ▸ by_level_perm hlevels
  · intro roadmap h
    obtain ⟨size, hsize, hphases⟩ := roadmap_eq_ok h
    have hpos := haccepted.one_le_max_components_per_phase hsize
    exact ⟨size, hsize, hpos, phases_schedule hpos hids hphases⟩

/-- A unit with nothing but an id, documented or not. -/
def bareUnit (id : String) (documented : Bool) : Component :=
  { id := id
    name := id
    filePath := id
    absolutePath := "/" ++ id
    metadata := { hasDocumentation := documented } }

/-- The readiness of units that are assessed on their own. -/
def readinessOf (options : InventorySettings) (components : List Component) : List Readiness :=
  components.filterMap fun c => (assess options c none none).toOption

theorem assessed_of_mem {components : List Component} {r : Readiness}
    (h : r ∈ readinessOf options components) :
    ∃ c parse analysis, assess options c parse analysis = .ok r := by
  obtain ⟨c, -, hr⟩ := List.mem_filterMap.mp h
  exact ⟨c, none, none, eq_ok_of_to_option hr⟩

/-- Three units in the order of the roadmap. -/
def threeUnits : List Component := [bareUnit "B" true, bareUnit "A" false, bareUnit "C" false]

/-- Three units are planned in two pieces; and two units are not planned with weeks too long. -/
theorem plans_of_examples :
    ((SettingsTable.merge
      [("inventory", .obj [("max_components_per_phase", .int 2)])]).toOption.map fun t =>
        let readiness := readinessOf t.settings.inventory threeUnits
        (readiness.map (·.unitId), decide (readiness.Pairwise fun a b => a.before b),
          t.settings.inventory.maxComponentsPerPhase.toOption,
          [["B", "A"], ["C"]].all fun units =>
            (phaseDuration t.settings.inventory units.length).toOption.isSome)) =
      some (["B", "A", "C"], true, some 2, true) ∧
    ((SettingsTable.merge
      [("inventory", .obj [("weeks_per_component", .float 1e308)])]).toOption.map fun t =>
        let readiness := readinessOf t.settings.inventory [bareUnit "A" false, bareUnit "B" false]
        (readiness.map (·.unitId), decide (readiness.Pairwise fun a b => a.before b),
          t.settings.inventory.maxComponentsPerPhase.toOption,
          (phaseDuration t.settings.inventory 2).toOption)) =
      some (["A", "B"], true, some 10, none) :=
  ⟨by decide +kernel, by decide +kernel⟩

theorem inventory_arranges_units_three :
    ∃ t readiness roadmap,
      SettingsTable.merge [("inventory", .obj [("max_components_per_phase", .int 2)])] = .ok t ∧
      readiness = readinessOf t.settings.inventory threeUnits ∧
      readiness.map (·.unitId) = ["B", "A", "C"] ∧
      roadmapOf t.settings.inventory readiness = .ok roadmap ∧
      Schedules roadmap.phases 2 readiness ∧ Partitions (sectionsOf readiness) readiness := by
  obtain ⟨t, hmerge, hrun⟩ := exists_of_to_option_map plans_of_examples.1
  simp only [Prod.mk.injEq, decide_eq_true_eq] at hrun
  obtain ⟨hids, hsorted, hsize, hdurations⟩ := hrun
  have hnodup : ((readinessOf t.settings.inventory threeUnits).map (·.unitId)).Nodup := by
    rw [hids]
    decide
  obtain ⟨hpartitions, -, hschedules, -, hreturns⟩ := inventory_arranges_units
    (SettingsTable.validate_of_merge hmerge) (fun r hr => assessed_of_mem hr) hnodup
  have hphases : phaseUnits (2 : Int).toNat (readinessOf t.settings.inventory threeUnits) =
      [["B", "A"], ["C"]] := by
    rw [phase_units_of_pairwise hsorted, hids]
    decide
  obtain ⟨roadmap, hroadmap⟩ := hreturns.mpr ⟨2, eq_ok_of_to_option hsize, by
    intro units hunits
    rw [hphases] at hunits
    obtain ⟨duration, hduration⟩ :=
      Option.isSome_iff_exists.mp (List.all_eq_true.mp hdurations units hunits)
    exact ⟨duration, eq_ok_of_to_option hduration⟩⟩
  obtain ⟨size, hsize', -, hschedule⟩ := hschedules roadmap hroadmap
  obtain rfl : 2 = size := Except.ok.inj ((eq_ok_of_to_option hsize).symm.trans hsize')
  exact ⟨t, _, roadmap, hmerge, rfl, hids, hroadmap, hschedule, hpartitions⟩

/-- Settings are accepted though a unit takes more weeks than two units can be planned with: their
roadmap fails. -/
theorem roadmap_fails_on_long_weeks :
    ∃ t readiness,
      SettingsTable.merge [("inventory", .obj [("weeks_per_component", .float 1e308)])] = .ok t ∧
      t.validate = .ok () ∧ readiness.map (·.unitId) = ["A", "B"] ∧
      (∀ r ∈ readiness, ∃ c parse analysis,
        assess t.settings.inventory c parse analysis = .ok r) ∧
      ¬∃ roadmap, roadmapOf t.settings.inventory readiness = .ok roadmap := by
  obtain ⟨t, hmerge, hrun⟩ := exists_of_to_option_map plans_of_examples.2
  simp only [Prod.mk.injEq, decide_eq_true_eq] at hrun
  obtain ⟨hids, hsorted, hsize, hduration⟩ := hrun
  refine ⟨t, _, hmerge, SettingsTable.validate_of_merge hmerge, hids,
    fun r hr => assessed_of_mem hr, fun hmade => ?_⟩
  obtain ⟨size, hsize', hdurations⟩ := exists_roadmap.1 hmade
  obtain rfl : 10 = size := Except.ok.inj ((eq_ok_of_to_option hsize).symm.trans hsize')
  have hpiece : ["A", "B"] ∈ phaseUnits (10 : Int).toNat
      (readinessOf t.settings.inventory [bareUnit "A" false, bareUnit "B" false]) := by
    rw [phase_units_of_pairwise hsorted, hids]
    decide
  obtain ⟨text, htext⟩ := hdurations _ hpiece
  rw [show ["A", "B"].length = 2 from rfl] at htext
  rw [htext] at hduration
  cases hduration

end ComponentMigration
