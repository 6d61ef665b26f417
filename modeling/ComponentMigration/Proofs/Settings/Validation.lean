import ComponentMigration.Proofs.Text.Order
import ComponentMigration.Settings.Table

/-!
# Which settings are accepted

A table of settings is accepted exactly if all its checks succeed: `validate_eq_ok_iff` names them.
What a run relies on follows from single ones.
-/

namespace ComponentMigration

/-- Quantities that are integers compare as such. -/
theorem Quantity.is_less_whole {q : Quantity} {n : Int} (hq : q.int? = some n) (m : Int) :
    q.isLess (.whole m) = decide (n < m) := by
  have hcompare : q.compare (.whole m) = some (Ord.compare n m) := by
    cases q with
    | real x => cases hq
    | whole k | truth b =>
        cases hq
        rfl
  rw [isLess, hcompare, Bool.eq_iff_iff, beq_iff_eq, decide_eq_true_eq, Option.some.injEq,
    Int.compare_eq_lt]

namespace SettingsTable

variable {t : SettingsTable}

@[simp] theorem require_eq_ok {holds : Bool} {complaint : String} {u : Unit} :
    require holds complaint = .ok u ↔ holds = true := by
  cases holds <;> simp [require]

theorem need_eq_ok {α : Type} {v : Usable α} {a : α} : need v = .ok a ↔ v = .ok a := by
  cases v <;> simp [need]

/-- A table of settings that passes all checks. -/
structure Accepted (t : SettingsTable) : Prop where
  weights : checkWeights (t.value "inventory" "weights") = .ok ()
  readinessThreshold : between 0 100 (t.value "inventory" "readiness_threshold") = .ok true
  effortCutPoints :
    checkCutPoints "effort_cut_points" (t.value "inventory" "effort_cut_points") = .ok ()
  riskCutPoints : checkCutPoints "risk_cut_points" (t.value "inventory" "risk_cut_points") = .ok ()
  maxComponentsPerPhase :
    belowOne (t.value "inventory" "max_components_per_phase") = .ok false
  mode : (t.value "pipeline" "mode").text?.any modes.contains = true
  maxWorkers : belowOne (t.value "pipeline" "max_workers") = .ok false
  maxConcurrency : belowOne (t.value "transform" "max_concurrency") = .ok false
  maxAttempts : belowOne (t.value "retry" "max_attempts") = .ok false
  clusterThreshold : between 0 1 (t.value "analysis" "cluster_threshold") = .ok true

theorem validate_eq_ok_iff : t.validate = .ok () ↔ t.Accepted := by
  simp only [validate, checkMode, bind_eq_ok, require_eq_ok, Bool.not_eq_true', exists_const,
    exists_eq_right]
  constructor
  · rintro ⟨⟨⟩, hweights, _, hthreshold, rfl, ⟨⟩, heffort, ⟨⟩, hrisk, _, hphase, rfl, hmode, _,
      hworkers, rfl, _, hconcurrency, rfl, _, hattempts, rfl, hcluster⟩
    exact ⟨hweights, hthreshold, heffort, hrisk, hphase, hmode, hworkers, hconcurrency, hattempts,
      hcluster⟩
  · intro h
    exact ⟨(), h.weights, true, h.readinessThreshold, rfl, (), h.effortCutPoints, (),
      h.riskCutPoints, false, h.maxComponentsPerPhase, rfl, h.mode, false, h.maxWorkers, rfl, false,
      h.maxConcurrency, rfl, false, h.maxAttempts, rfl, h.clusterThreshold⟩

theorem validate_of_merge {overrides : Assoc Json} (h : merge overrides = .ok t) :
    t.validate = .ok () := by
  obtain ⟨t', -, h⟩ := bind_eq_ok.mp h
  obtain ⟨⟨⟩, hvalid, h⟩ := bind_eq_ok.mp h
  cases h
  exact hvalid

/-- The mode of accepted settings is one of the modes. -/
theorem Accepted.mode_mem (h : t.Accepted) : t.settings.pipeline.mode ∈ modes := by
  obtain ⟨mode, htext, hmode⟩ := (Option.any_eq_true _ _).mp h.mode
  show (t.value "pipeline" "mode").text?.getD "" ∈ modes
  rw [htext]
  exact List.contains_iff_mem.mp hmode

/-- An integer that is not below one is at least one. -/
theorem one_le_of_below_one {v : Json} {n : Int} (h : belowOne v = .ok false)
    (hn : stepOf v = .ok n) : 1 ≤ n := by
  obtain ⟨q, hneed, hbelow⟩ := bind_eq_ok.mp h
  have hquantity : v.quantity? = some q := by
    rw [need_eq_ok] at hneed
    unfold comparedWith at hneed
    cases hv : v.quantity? with
    | none =>
        rw [hv] at hneed
        cases hneed
    | some q' =>
        rw [hv] at hneed
        exact congrArg some (Except.ok.inj hneed)
  have hint : q.int? = some n := by
    unfold stepOf at hn
    rw [hquantity, Option.bind_some] at hn
    split at hn
    · next hint =>
        cases hn
        exact hint
    · cases hn
  have hless : q.isLess 1 = decide (n < 1) := Quantity.is_less_whole hint 1
  have hbelow : q.isLess 1 = false := Except.ok.inj hbelow
  rw [hless, decide_eq_false_iff_not] at hbelow
  omega

/-- The phases of accepted settings have room for a unit. -/
theorem Accepted.one_le_max_components_per_phase (h : t.Accepted) {size : Int}
    (hsize : t.settings.inventory.maxComponentsPerPhase = .ok size) : 1 ≤ size :=
  one_le_of_below_one h.maxComponentsPerPhase hsize

theorem weight_names_known {fields : Assoc Json} {name : String}
    (h : checkWeightNames (.obj fields) = .ok ()) (hname : name ∈ fields.keys) :
    name ∈ defaultWeights.keys := by
  obtain ⟨found, hfound, h⟩ := bind_eq_ok.mp h
  have hmem : Json.str name ∈ found := by
    obtain ⟨entry, hentry, rfl⟩ := List.mem_map.mp hname
    rw [← Except.ok.inj (need_eq_ok.1 hfound)]
    exact List.mem_map.mpr ⟨entry, hentry, rfl⟩
  by_contra hunknown
  have hother : Json.str name ∈ found.filter fun v => !v.text?.any defaultWeights.keys.contains :=
    List.mem_filter.mpr ⟨hmem, by simpa [Json.text?] using hunknown⟩
  have hlisted := mem_unique.mpr
    (List.mem_filterMap.mpr ⟨_, hother, (rfl : Json.text? _ = some name)⟩)
  dsimp only at h
  -- Whatever comes first, a name that is listed as unknown is refused in the end.
  split at h
  · cases h
  · split at h
    · cases h
    · split at h
      · cases h
      · rw [if_pos] at h
        · cases h
        · rw [Bool.not_eq_true', List.isEmpty_eq_false_iff]
          exact List.ne_nil_of_mem hlisted

theorem sum_of_eq {values : List Json} {start total : Quantity}
    (h : values.foldlM (fun total v =>
      match v.quantity? with
      | some q => total.add q
      | none => .error (.unsupported "+" total.sortName v.sortName)) start = .ok total) :
    (values.filterMap Json.quantity?).foldlM Quantity.add start = .ok total := by
  induction values generalizing start with
  | nil => exact h
  | cons v values ih =>
      rw [List.foldlM_cons] at h
      obtain ⟨next, hnext, h⟩ := bind_eq_ok.mp h
      cases hv : v.quantity? with
      | none =>
          rw [hv] at hnext
          cases hnext
      | some q =>
          rw [hv] at hnext
          rw [List.filterMap_cons_some hv, List.foldlM_cons]
          exact bind_eq_ok.mpr ⟨next, hnext, ih h⟩

/-- The weights of accepted settings have known names, and their sum passes for one. -/
theorem Accepted.weights_sum (h : t.Accepted) :
    (∀ entry ∈ t.settings.inventory.weights, entry.1 ∈ defaultWeights.keys) ∧
      ∃ total, Quantity.sum (t.settings.inventory.weights.map (·.2)) = .ok total ∧
        isAboutOne total = .ok true := by
  have hchecked := h.weights
  have hweights : t.settings.inventory.weights =
      (t.value "inventory" "weights").fields.filterMap fun entry =>
        entry.2.quantity?.map fun w => (entry.1, w) := rfl
  generalize t.value "inventory" "weights" = weights at *
  unfold checkWeights at hchecked
  obtain ⟨⟨⟩, hnames, hchecked⟩ := bind_eq_ok.mp hchecked
  obtain ⟨total, htotal, hchecked⟩ := bind_eq_ok.mp hchecked
  obtain ⟨one, hone, hchecked⟩ := bind_eq_ok.mp hchecked
  cases weights with
  | obj fields =>
      rw [hweights]
      constructor
      · intro entry hentry
        obtain ⟨⟨name, v⟩, hv, heq⟩ := List.mem_filterMap.mp hentry
        obtain ⟨w, -, rfl⟩ := Option.map_eq_some_iff.mp heq
        exact weight_names_known hnames (List.mem_map_of_mem (f := Prod.fst) hv)
      · have hvalues : ((fields.filterMap fun entry =>
            entry.2.quantity?.map fun w => (entry.1, w)).map (·.2)) =
              (fields.map Prod.snd).filterMap Json.quantity? := by
          rw [List.map_filterMap, List.filterMap_map]
          refine List.filterMap_congr fun entry _ => ?_
          show Option.map _ (entry.2.quantity?.map _) = entry.2.quantity?
          rw [Option.map_map]
          exact Option.map_id'
        refine ⟨total, ?_, ?_⟩
        · show Quantity.sum ((fields.filterMap _).map _) = _
          rw [hvalues]
          exact sum_of_eq (need_eq_ok.1 htotal)
        · cases one with
          | true => exact need_eq_ok.1 hone
          | false =>
              obtain ⟨shown, -, hchecked⟩ := bind_eq_ok.mp hchecked
              cases hchecked
  | _ => cases htotal

end SettingsTable

end ComponentMigration
