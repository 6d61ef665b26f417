import ComponentMigration.Proofs.Assoc
import ComponentMigration.Proofs.Number.Addition
import ComponentMigration.Proofs.Settings.Validation
import ComponentMigration.Readiness.Score

/-!
# Weights and overall scores

Weights are accepted if their sum passes for one.  If none of them is negative, they come to nearly
one when they are added exactly (`Accepted.exact_weights_ge`), so that criteria of a hundred each
are scored a hundred, and a criterion that is raised never lowers the score
(`score_follows_criteria`).  Nothing keeps a weight from being negative, however: then the score
falls as the criterion is raised (`negative_weight_lowers_score`).
-/

namespace ComponentMigration

open Number

/-!
## Sums that pass for one
-/

namespace SettingsTable

theorem is_about_one_eq (total : Quantity) :
    isAboutOne total = total.toFloat.map fun x => !((x - 1.0).abs > 1e-6) := by
  have hsub : total.sub (.real 1.0) = total.toFloat.map fun x => .real (x - 1.0) := by
    rw [Quantity.sub, Quantity.combine]
    split
    · next hn => cases hn
    · cases total.toFloat <;> rfl
  rw [isAboutOne, hsub]
  cases total.toFloat <;> rfl

theorem not_lt_of_about_one {total : Quantity} {x : Float} (h : isAboutOne total = .ok true)
    (hx : total.toFloat = .ok x) : ¬(1e-6 : Float) < (x - 1.0).abs := by
  rw [is_about_one_eq, hx] at h
  simpa using Except.ok.inj h

/-- A number that passes for one is nearly one. -/
theorem near_one_of_about_one {total : Quantity} {x : Float} (h : isAboutOne total = .ok true)
    (hx : total.Stands x) (hle : |total.exact - 1| ≤ 2) : 1 - 3 / 10 ^ 6 < total.exact := by
  have hslack := slack_le
  have hlarge : (2 : Rat) ^ (-19 : Int) ≤ 2 / 10 ^ 6 := by norm_num
  rw [← hx.value] at hle ⊢
  rw [← one_value.2] at hle
  obtain ⟨hfinite, hnear⟩ := hx.finite.sub_near one_value.1 hle
  obtain ⟨hfinite', habs⟩ := hfinite.abs
  rw [one_value.2] at hnear
  obtain ⟨-, habove⟩ := abs_le.mp hnear
  by_contra hlt
  rw [not_lt] at hlt
  refine not_lt_of_about_one h hx.float (lt_of_large hfinite' ?_)
  rw [habs, abs_of_neg (by linarith)]
  linarith

/-- Numbers whose sum passes for one come to at least nearly one if they are added exactly. -/
theorem exact_sum_ge {qs : List Quantity} {total : Quantity}
    (hqs : ∀ q ∈ qs, (0 : Quantity).isAtMost q = true) (hfew : qs.length ≤ 8)
    (hsum : Quantity.sum qs = .ok total) (hone : isAboutOne total = .ok true) :
    1 - 4 / 10 ^ 6 ≤ (qs.map Quantity.exact).sum := by
  by_contra hlt
  rw [not_le] at hlt
  obtain ⟨x, hx⟩ := Quantity.exists_stands (q := 0) rfl
  have hstart : |(0 : Quantity).exact - 0| ≤ (0 : Nat) * slack := by
    show |(0 : Rat) - 0| ≤ (0 : Nat) * slack
    simp
  rcases Quantity.sum_near hx hstart le_rfl hqs (by linarith) (by omega) hsum with
    ⟨z, hz, hnear⟩ | ⟨z, rfl, hz⟩
  · have hslack := slack_le
    have hexact := Quantity.sum_exact_nonneg hqs
    obtain ⟨hbelow, habove⟩ := abs_le.mp hnear
    have hnearly := near_one_of_about_one hone hz (abs_le.mpr ⟨by linarith, by linarith⟩)
    linarith
  · exact not_lt_of_about_one hone rfl (lt_of_infinite (hz.sub one_value.1).abs)

variable {t : SettingsTable}

/-- The weights of accepted settings come to at least nearly one, if each name has one weight and
none of them is negative. -/
theorem Accepted.exact_weights_ge (h : t.Accepted)
    (hdistinct : t.settings.inventory.weights.keys.Nodup)
    (hweights : ∀ entry ∈ t.settings.inventory.weights, Quantity.isAtMost 0 entry.2 = true) :
    1 - 4 / 10 ^ 6 ≤ (t.settings.inventory.weights.map (·.2.exact)).sum := by
  obtain ⟨hnames, total, hsum, hone⟩ := h.weights_sum
  generalize t.settings.inventory.weights = weights at *
  have hfew : weights.length ≤ 8 := by
    have hsubset : weights.keys ⊆ defaultWeights.keys := by
      intro name hname
      obtain ⟨entry, hentry, rfl⟩ := List.mem_map.mp hname
      exact hnames entry hentry
    have hlength := (hdistinct.subperm hsubset).length_le
    rwa [Assoc.keys, List.length_map] at hlength
  have hqs : ∀ q ∈ weights.map (·.2), (0 : Quantity).isAtMost q = true := by
    intro q hq
    obtain ⟨entry, hentry, rfl⟩ := List.mem_map.mp hq
    exact hweights entry hentry
  have hge := exact_sum_ge hqs (by rwa [List.length_map]) hsum hone
  rwa [List.map_map] at hge

end SettingsTable

/-!
## Scores
-/

/-- A criterion by its name; zero if there is none. -/
def Criteria.criterion (c : Criteria) (name : String) : Quantity := (c.fields.get? name).getD 0

/-- The weighted sum of criteria, computed exactly. -/
def exactTotal (weights : Assoc Quantity) (c : Criteria) : Rat :=
  (weights.map fun entry => (c.criterion entry.1).exact * entry.2.exact).sum

/-- The overall score, computed exactly. -/
def exactScore (weights : Assoc Quantity) (c : Criteria) : Int :=
  Id.run (overallScore Rat weights c)

/-- Criteria that others are raised from: only those may differ whose weights are not negative. -/
def RaisedTo (weights : Assoc Quantity) (c d : Criteria) : Prop :=
  ∀ entry ∈ weights, (c.criterion entry.1).exact = (d.criterion entry.1).exact ∨
    (c.criterion entry.1).exact ≤ (d.criterion entry.1).exact ∧
      Quantity.isAtMost 0 entry.2 = true

section Scores

variable {weights : Assoc Quantity} {c d : Criteria}

theorem exact_fold_add {α : Type} (f : α → Rat) (xs : List α) (start : Rat) :
    Id.run ((xs.map fun x => (pure (f x) : Id Rat)).foldlM
      (fun total term => do Arithmetic.add total (← term)) start) = start + (xs.map f).sum := by
  induction xs generalizing start with
  | nil => exact (add_zero start).symm
  | cons x xs ih =>
      rw [List.map_cons, List.map_cons, List.sum_cons, ← add_assoc]
      exact ih (start + f x)

theorem weighted_total_eq : Id.run (weightedTotal weights c) = exactTotal weights c :=
  (exact_fold_add (fun entry : String × Quantity =>
    (c.criterion entry.1).exact * entry.2.exact) weights 0).trans (zero_add _)

theorem exact_score_eq :
    exactScore weights c = clampScore (roundRatPlaces 6 (exactTotal weights c) + 1 / 2).floor := by
  rw [← weighted_total_eq]
  rfl

theorem clamp_score_mono {m n : Int} (h : m ≤ n) : clampScore m ≤ clampScore n := by
  unfold clampScore
  split <;> split <;> omega

/-- The score does not fall as the weighted sum grows. -/
theorem exact_score_mono (h : exactTotal weights c ≤ exactTotal weights d) :
    exactScore weights c ≤ exactScore weights d := by
  rw [exact_score_eq, exact_score_eq]
  exact clamp_score_mono (Rat.floor_monotone (add_le_add_left (round_rat_places_mono 6 h) (1 / 2)))

theorem exact_score_of_large (h : 199 / 2 ≤ exactTotal weights c) : exactScore weights c = 100 := by
  have hplaces : roundRatPlaces 6 (199 / 2) = 199 / 2 :=
    round_rat_places_of_whole (n := 99500000) (by norm_num [tenTo])
  have hrounded := round_rat_places_mono 6 h
  rw [hplaces] at hrounded
  have hfloor : (100 : Int) ≤ (roundRatPlaces 6 (exactTotal weights c) + 1 / 2).floor := by
    rw [Rat.le_floor_iff]
    push_cast
    linarith
  rw [exact_score_eq]
  unfold clampScore
  split
  · omega
  · split <;> omega

theorem exact_total_mono (h : RaisedTo weights c d) :
    exactTotal weights c ≤ exactTotal weights d := by
  refine List.sum_le_sum fun entry hentry => ?_
  rcases h entry hentry with heq | ⟨hle, hweight⟩
  · rw [heq]
  · exact mul_le_mul_of_nonneg_right hle (Quantity.exact_nonneg hweight)

theorem exact_total_of_hundreds (hnames : ∀ entry ∈ weights, entry.1 ∈ defaultWeights.keys)
    (hc : ∀ entry ∈ c.fields, entry.2.exact = 100) :
    exactTotal weights c = 100 * (weights.map (·.2.exact)).sum := by
  have hkeys : c.fields.keys = defaultWeights.keys := rfl
  rw [exactTotal, ← List.sum_map_mul_left]
  refine congrArg List.sum (List.map_congr_left fun entry hentry => ?_)
  have hname := hnames entry hentry
  rw [← hkeys] at hname
  obtain ⟨field, hfield, heq⟩ := List.mem_map.mp hname
  have hnodup : c.fields.keys.Nodup := by
    rw [hkeys]
    decide
  have hget : c.fields.get? entry.1 = some field.2 :=
    (Assoc.get?_eq_some_iff hnodup).mpr (heq ▸ hfield)
  rw [Criteria.criterion, hget, Option.getD_some, hc field hfield]

end Scores

variable {t : SettingsTable}

/-- With weights that are accepted, raising criteria whose weights are not negative does not lower
the score, and if no weight is negative, criteria of a hundred each are scored a hundred. -/
theorem score_follows_criteria (hvalid : t.validate = .ok ())
    (hdistinct : t.settings.inventory.weights.keys.Nodup) :
    (∀ c d, RaisedTo t.settings.inventory.weights c d →
      exactScore t.settings.inventory.weights c ≤ exactScore t.settings.inventory.weights d) ∧
      ((∀ entry ∈ t.settings.inventory.weights, Quantity.isAtMost 0 entry.2 = true) →
        ∀ c : Criteria, (∀ entry ∈ c.fields, entry.2.exact = 100) →
          exactScore t.settings.inventory.weights c = 100) := by
  have haccepted := SettingsTable.validate_eq_ok_iff.mp hvalid
  refine ⟨fun c d h => exact_score_mono (exact_total_mono h), fun hweights c hc => ?_⟩
  have hge := haccepted.exact_weights_ge hdistinct hweights
  refine exact_score_of_large ?_
  rw [exact_total_of_hundreds haccepted.weights_sum.1 hc]
  linarith

/-- The weights that apply without settings are known ones and not negative; and with a negative one
a unit is scored less for being documented. -/
theorem scores_of_examples :
    ((SettingsTable.merge []).toOption.map fun t =>
      (t.settings.inventory.weights.keys,
        t.settings.inventory.weights.all fun entry => Quantity.isAtMost 0 entry.2)) =
      some (defaultWeights.keys, true) ∧
    ((SettingsTable.merge [("inventory", .obj [("weights", .obj [("code_quality", .int 2),
        ("documentation", .int (-1)), ("test_coverage", .int 0), ("dependency_complexity", .int 0),
        ("props_clarity", .int 0), ("logic_separation", .int 0), ("pattern_compliance", .int 0),
        ("migration_compatibility", .int 0)])])]).toOption.map fun t =>
      (exactScore t.settings.inventory.weights { codeQuality := 50, documentation := 20 },
        exactScore t.settings.inventory.weights { codeQuality := 50, documentation := 80 })) =
      some (80, 20) :=
  ⟨by decide +kernel, by decide +kernel⟩

theorem score_follows_criteria_default :
    ∃ t, SettingsTable.merge [] = .ok t ∧
      exactScore t.settings.inventory.weights { codeQuality := 50, documentation := 20 } ≤
        exactScore t.settings.inventory.weights { codeQuality := 50, documentation := 80 } ∧
      exactScore t.settings.inventory.weights ⟨100, 100, 100, 100, 100, 100, 100, 100⟩ = 100 := by
  obtain ⟨t, hmerge, hrun⟩ := exists_of_to_option_map scores_of_examples.1
  obtain ⟨hkeys, hall⟩ := Prod.mk.inj hrun
  have hweights := List.all_eq_true.mp hall
  obtain ⟨hraised, hhundred⟩ := score_follows_criteria (SettingsTable.validate_of_merge hmerge)
    (hkeys ▸ (by decide : defaultWeights.keys.Nodup))
  refine ⟨t, hmerge, hraised _ _ fun entry hentry => .inr ⟨?_, hweights entry hentry⟩,
    hhundred hweights _ (by decide)⟩
  have hname : entry.1 ∈ defaultWeights.keys := hkeys ▸ List.mem_map_of_mem hentry
  revert hname
  generalize entry.1 = name
  revert name
  decide

/-- Settings are accepted though a weight is negative: a unit scores less for being documented. -/
theorem negative_weight_lowers_score :
    ∃ t, SettingsTable.merge [("inventory", .obj [("weights", .obj [("code_quality", .int 2),
        ("documentation", .int (-1)), ("test_coverage", .int 0), ("dependency_complexity", .int 0),
        ("props_clarity", .int 0), ("logic_separation", .int 0), ("pattern_compliance", .int 0),
        ("migration_compatibility", .int 0)])])] = .ok t ∧ t.validate = .ok () ∧
      exactScore t.settings.inventory.weights { codeQuality := 50, documentation := 20 } = 80 ∧
      exactScore t.settings.inventory.weights { codeQuality := 50, documentation := 80 } = 20 := by
  obtain ⟨t, hmerge, hrun⟩ := exists_of_to_option_map scores_of_examples.2
  obtain ⟨hplain, hdocumented⟩ := Prod.mk.inj hrun
  exact ⟨t, hmerge, SettingsTable.validate_of_merge hmerge, hplain, hdocumented⟩

end ComponentMigration
