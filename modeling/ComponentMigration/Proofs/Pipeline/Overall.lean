import Mathlib.Data.List.Induction
import ComponentMigration.Proofs.Number.Rounding
import ComponentMigration.Run.State

/-!
# Overall progress

Computed exactly, overall progress is a number between zero and a hundred that grows with the
percentage of a phase, and each phase begins no lower than the phases before it end
(`phases_follow_on`).  The overall progress of a run is the greatest that a milestone has come to:
a further milestone sets it if it is no lower than that (`overall_after_concat`).
-/

namespace ComponentMigration

namespace Arithmetic

theorem lesser_eq_min (a b : Rat) : lesser a b = min a b := by
  rw [min_comm, min_def_lt]
  exact if_congr decide_eq_true_iff rfl rfl

theorem greater_eq_max (a b : Rat) : greater a b = max a b := by
  rw [max_def_lt]
  exact if_congr decide_eq_true_iff rfl rfl

theorem sum_concat (terms : List (Id Rat)) (term : Id Rat) :
    (Id.run (sum (terms ++ [term])) : Rat) = Id.run (sum terms) + Id.run term := by
  unfold sum
  simp only [List.foldlM_append]
  rfl

theorem sum_nonneg {terms : List (Id Rat)} (h : ∀ term ∈ terms, 0 ≤ Id.run term) :
    0 ≤ (Id.run (sum terms) : Rat) := by
  induction terms using List.reverseRecOn with
  | nil => exact le_refl (0 : Rat)
  | append_singleton terms term ih =>
      obtain ⟨hterms, hterm⟩ := List.forall_mem_append.mp h
      rw [sum_concat]
      exact add_nonneg (ih hterms) (List.forall_mem_singleton.mp hterm)

end Arithmetic

/-- A percentage brought between zero and a hundred is the nearest number there. -/
theorem clamp_percent_eq (x : Rat) : clampPercent x = max 0 (min 100 x) := by
  rw [clampPercent, Arithmetic.greater_eq_max, Arithmetic.lesser_eq_min]
  rfl

namespace Phase

/-- Overall progress at a percentage of a phase, computed exactly. -/
def overallAt (phase : Phase) (percent : Rat) : Rat :=
  Id.run (overallProgress phaseWeights phase.label (pure percent))

/-- The weights of the phases before one. -/
def before (phase : Phase) : Rat :=
  Id.run (Arithmetic.sum ((phasesBefore phase.label).map (weightOf phaseWeights)))

/-- The weight of a phase. -/
def weight (phase : Phase) : Rat := Id.run (weightOf phaseWeights phase.label)

theorem weight_nonneg (phase : Phase) : 0 ≤ phase.weight := by
  cases phase <;> decide

theorem before_nonneg (phase : Phase) : 0 ≤ phase.before := by
  refine Arithmetic.sum_nonneg fun term hterm => ?_
  obtain ⟨label, hlabel, rfl⟩ := List.mem_map.mp hterm
  unfold phasesBefore at hlabel
  dsimp only at hlabel
  split at hlabel
  · obtain ⟨earlier, -, rfl⟩ := List.mem_map.mp ((List.takeWhile_sublist _).subset hlabel)
    exact earlier.weight_nonneg
  · cases hlabel

variable {phase : Phase} {x y : Rat}

theorem overall_at_completed : Phase.completed.overallAt x = 100 := rfl

theorem overall_at_of_ne (h : phase ≠ .completed) :
    phase.overallAt x =
      min 100 (phase.before + phase.weight * max 0 (min 100 x) / 100) := by
  have hlabel : (phase.label == "completed") = false := by
    cases phase <;> first | rfl | exact absurd rfl h
  rw [← clamp_percent_eq, ← Arithmetic.lesser_eq_min]
  unfold overallAt overallProgress
  rw [hlabel]
  rfl

theorem overall_at_le_hundred (phase : Phase) (x : Rat) : phase.overallAt x ≤ 100 := by
  by_cases h : phase = .completed
  · rw [h, overall_at_completed]
  · rw [overall_at_of_ne h]
    exact min_le_left _ _

theorem overall_at_nonneg (phase : Phase) (x : Rat) : 0 ≤ phase.overallAt x := by
  by_cases h : phase = .completed
  · rw [h, overall_at_completed]
    decide
  · rw [overall_at_of_ne h]
    have hown : 0 ≤ phase.weight * max 0 (min 100 x) / 100 :=
      div_nonneg (mul_nonneg phase.weight_nonneg (le_max_left _ _)) (by norm_num)
    exact le_min (by norm_num) (add_nonneg phase.before_nonneg hown)

/-- Overall progress grows with the percentage of a phase. -/
theorem overall_at_mono (phase : Phase) (h : x ≤ y) : phase.overallAt x ≤ phase.overallAt y := by
  by_cases hphase : phase = .completed
  · rw [hphase, overall_at_completed, overall_at_completed]
  · rw [overall_at_of_ne hphase, overall_at_of_ne hphase]
    have hclamp : max 0 (min 100 x) ≤ max 0 (min 100 y) :=
      max_le_max_left 0 (min_le_min_left 100 h)
    have hown := mul_le_mul_of_nonneg_left hclamp phase.weight_nonneg
    have hhundred : (0 : Rat) ≤ 100 := by norm_num
    exact min_le_min_left 100 (add_le_add_right (div_le_div_of_nonneg_right hown hhundred) _)

/-- A percentage counts for no more than the end of the phase. -/
theorem overall_at_le_end (phase : Phase) (x : Rat) : phase.overallAt x ≤ phase.overallAt 100 := by
  by_cases h : phase = .completed
  · rw [h, overall_at_completed, overall_at_completed]
  · have hclamp : max 0 (min 100 x) = max 0 (min 100 (min 100 x)) := by
      rw [← min_assoc, min_self]
    rw [overall_at_of_ne h, hclamp, ← overall_at_of_ne h]
    exact phase.overall_at_mono (min_le_left _ _)

end Phase

/-- Where a phase begins, those before it have ended. -/
theorem phases_follow_on :
    Phase.order.Pairwise fun first next => first.overallAt 100 ≤ next.overallAt 0 := by
  decide +kernel

namespace Share

/-- The percentage that a share is, computed exactly. -/
def exact (s : Share) : Rat := Id.run s.percent

theorem exact_eq (span done total : Nat) :
    (Share.exact ⟨span, done, total⟩) = span * done / total := rfl

/-- With every step more of a phase is done. -/
theorem exact_mono (span total : Nat) {done next : Nat} (h : done ≤ next) :
    (Share.exact ⟨span, done, total⟩) ≤ Share.exact ⟨span, next, total⟩ := by
  rw [exact_eq, exact_eq]
  have hdone : (done : Rat) ≤ next := Nat.cast_le.mpr h
  have hreached := mul_le_mul_of_nonneg_left hdone (Nat.cast_nonneg span)
  exact div_le_div_of_nonneg_right hreached (Nat.cast_nonneg total)

theorem exact_nonneg (s : Share) : 0 ≤ s.exact := by
  have hreached : (0 : Rat) ≤ s.span * s.done :=
    mul_nonneg (Nat.cast_nonneg s.span) (Nat.cast_nonneg s.done)
  exact div_nonneg hreached (Nat.cast_nonneg s.total)

end Share

namespace Progress

/-- Overall progress, computed exactly. -/
def overall (p : Progress) : Rat := Id.run (overallAfter p.milestones)

/-- Overall progress as it is shown, computed exactly. -/
def overallShown (p : Progress) : Rat := Arithmetic.roundPlaces 2 p.overall

/-- What overall progress has to be at the percentage of the current phase, computed exactly. -/
def due (p : Progress) : Rat :=
  Id.run (overallProgress phaseWeights p.phase.label p.share.percent)

theorem due_eq (p : Progress) : p.due = p.phase.overallAt p.share.exact := rfl

end Progress

/-- A further milestone counts if it is the greatest. -/
theorem overall_after_concat (milestones : List Milestone) (r : Milestone) :
    (Id.run (overallAfter (milestones ++ [r])) : Rat) =
      max (Id.run (overallAfter milestones)) (r.phase.overallAt r.share.exact) := by
  rw [← Arithmetic.greater_eq_max]
  unfold overallAfter
  rw [List.foldlM_append]
  rfl

theorem overall_after_nonneg (milestones : List Milestone) :
    0 ≤ (Id.run (overallAfter milestones) : Rat) := by
  induction milestones using List.reverseRecOn with
  | nil => exact le_refl (0 : Rat)
  | append_singleton rest r ih =>
      rw [overall_after_concat]
      exact le_max_of_le_left ih

end ComponentMigration
