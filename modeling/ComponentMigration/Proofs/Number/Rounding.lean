import Mathlib.Algebra.Order.Field.Basic
import Mathlib.Algebra.Order.Group.Int
import Mathlib.Algebra.Order.Ring.Rat
import Mathlib.Tactic.Linarith
import ComponentMigration.Number.Binary64
import ComponentMigration.Number.Quantity

/-!
# Rounded numbers and limits

Rounding keeps the order of fractions, and beyond a limit all greater numbers are.
-/

namespace ComponentMigration.Number

/-!
## Rounding to decimal places

A fraction is at most a half away from the integer that it is rounded to.  Of two fractions the
lesser one is therefore not rounded to the greater integer, unless both are the same
(`round_rat_mono`), and so it is with decimal places (`round_rat_places_mono`).
-/

/-- A quotient is rounded to an integer that is at most a half away from it. -/
theorem div_round_near (num : Nat) {den : Nat} (hden : 0 < den) :
    2 * (divRound num den * den) ≤ 2 * num + den ∧
      2 * num ≤ 2 * (divRound num den * den) + den := by
  have hnum := Nat.div_add_mod num den
  have hrest := Nat.mod_lt num hden
  have hdown : num / den * den = den * (num / den) := Nat.mul_comm _ _
  have hup : (num / den + 1) * den = den * (num / den) + den := by
    rw [Nat.add_mul, Nat.one_mul, hdown]
  unfold divRound
  dsimp only
  split
  · omega
  · split
    · omega
    · split <;> omega

theorem abs_div_round_sub_le (num : Nat) {den : Nat} (hden : 0 < den) :
    |(divRound num den : Rat) - num / den| ≤ 1 / 2 := by
  have hpos : (0 : Rat) < den := Nat.cast_pos.mpr hden
  obtain ⟨hnear, hnear'⟩ := div_round_near num hden
  have habove : 2 * ((divRound num den : Rat) * den) ≤ 2 * num + den := by exact_mod_cast hnear
  have hbelow : 2 * (num : Rat) ≤ 2 * (divRound num den * den) + den := by exact_mod_cast hnear'
  have hquotient : (num : Rat) / den * den = num := div_mul_cancel₀ _ hpos.ne'
  -- Multiplied by the denominator, both bounds are those of the integers.
  rw [abs_le]
  constructor
  · refine le_of_mul_le_mul_right ?_ hpos
    rw [sub_mul, hquotient]
    linarith
  · refine le_of_mul_le_mul_right ?_ hpos
    rw [sub_mul, hquotient]
    linarith

/-- A fraction is at most a half away from the integer that it is rounded to. -/
theorem abs_round_rat_sub_le (r : Rat) : |(roundRat r : Rat) - r| ≤ 1 / 2 := by
  have hnear := abs_div_round_sub_le r.num.natAbs r.den_pos
  have hfraction : r = (r.num : Rat) / r.den := (Rat.num_div_den r).symm
  unfold roundRat
  dsimp only
  split
  case isTrue hnegative =>
    have hnum : (r.num : Rat) = -(r.num.natAbs : Rat) := by
      rw [Nat.cast_natAbs, abs_of_neg hnegative, Int.cast_neg, neg_neg]
    rw [hnum, neg_div] at hfraction
    rw [Int.cast_neg, Int.cast_natCast]
    rw [← abs_neg] at hnear
    convert hnear using 2
    linarith
  case isFalse hpositive =>
    have hnum : (r.num : Rat) = (r.num.natAbs : Rat) := by
      rw [Nat.cast_natAbs, abs_of_nonneg (not_lt.mp hpositive)]
    rw [hnum] at hfraction
    rw [Int.cast_natCast]
    convert hnear using 2
    linarith

/-- Rounding keeps the order of fractions. -/
theorem round_rat_mono {a b : Rat} (h : a ≤ b) : roundRat a ≤ roundRat b := by
  by_contra hcontra
  have hstep : roundRat b + 1 ≤ roundRat a := not_le.mp hcontra
  have hstep' : (roundRat b : Rat) + 1 ≤ roundRat a := by exact_mod_cast hstep
  have hfirst := abs_le.mp (abs_round_rat_sub_le a)
  have hsecond := abs_le.mp (abs_round_rat_sub_le b)
  -- Both lie half-way between the two integers, so that they are the same fraction.
  obtain rfl : a = b := by linarith
  exact hcontra le_rfl

/-- Rounding to decimal places keeps the order of fractions. -/
theorem round_rat_places_mono (places : Nat) {a b : Rat} (h : a ≤ b) :
    roundRatPlaces places a ≤ roundRatPlaces places b := by
  have hscale : (0 : Rat) ≤ tenTo places := Nat.cast_nonneg _
  have hround : roundRat (a * tenTo places) ≤ roundRat (b * tenTo places) :=
    round_rat_mono (mul_le_mul_of_nonneg_right h hscale)
  unfold roundRatPlaces
  rw [Rat.mkRat_eq_div, Rat.mkRat_eq_div]
  exact div_le_div_of_nonneg_right (Int.cast_le.mpr hround) hscale

/-- Integers are rounded to themselves. -/
theorem round_rat_int (n : Int) : roundRat n = n := by
  obtain ⟨hbelow, habove⟩ := abs_le.mp (abs_round_rat_sub_le n)
  have hle : (roundRat n : Rat) < n + 1 := by linarith
  have hge : (n : Rat) < roundRat n + 1 := by linarith
  exact le_antisymm (Int.lt_add_one_iff.mp (by exact_mod_cast hle))
    (Int.lt_add_one_iff.mp (by exact_mod_cast hge))

/-- A fraction with no more than so many decimal places is rounded to itself. -/
theorem round_rat_places_of_whole {places : Nat} {r : Rat} {n : Int}
    (h : r * tenTo places = n) : roundRatPlaces places r = r := by
  have hscale : (tenTo places : Rat) ≠ 0 := Nat.cast_ne_zero.mpr (Nat.pow_pos (by decide)).ne'
  unfold roundRatPlaces
  rw [h, round_rat_int, Rat.mkRat_eq_div, ← h]
  exact mul_div_cancel_right₀ r hscale

end ComponentMigration.Number

namespace ComponentMigration.Quantity

/-!
## Limits that whole numbers come up to

A quantity is at most a whole number if the fraction that it stands for is (`is_at_most_whole_cases`),
so beyond a limit all greater numbers are (`is_at_most_whole_mono`).
-/

variable {limit : Quantity}

theorem compare_at_most_iff (i j : Int) :
    (some (Ord.compare i j) == some .lt || some (Ord.compare i j) == some .eq) = true ↔ i ≤ j := by
  rw [Bool.or_eq_true, beq_iff_eq, beq_iff_eq, Option.some.injEq, Option.some.injEq,
    compare_lt_iff_lt, compare_eq_iff_eq, le_iff_lt_or_eq]

/-- Integers are at most a whole number as usual. -/
theorem is_at_most_whole_of_int {k : Int} (h : limit.int? = some k) (n : Int) :
    limit.isAtMost (.whole n) = true ↔ k ≤ n := by
  cases limit with
  | whole => cases h; exact compare_at_most_iff _ n
  | truth => cases h; exact compare_at_most_iff _ n
  | real => cases h

/-- Whether a quantity is at most a whole number is a matter of its fraction, unless it is so of all
whole numbers alike. -/
theorem is_at_most_whole_cases (limit : Quantity) :
    (∃ reached : Bool, ∀ n : Int, limit.isAtMost (.whole n) = reached) ∨
      ∃ (k : Int) (scale : Nat), ∀ n : Int, limit.isAtMost (.whole n) = true ↔ k ≤ n * scale := by
  cases hint : limit.int? with
  | some k =>
      refine .inr ⟨k, 1, fun n => ?_⟩
      rw [is_at_most_whole_of_int hint, Int.natCast_one, Int.mul_one]
  | none =>
      obtain ⟨x, rfl⟩ : ∃ x, limit = .real x := by
        cases limit with
        | real x => exact ⟨x, rfl⟩
        | whole => cases hint
        | truth => cases hint
      simp only [isAtMost, compare, compareInt, int?, Option.bind_some]
      split
      · exact .inl ⟨false, fun n => rfl⟩
      · split
        · exact .inl ⟨_, fun n => rfl⟩
        · next f _ =>
            refine .inr ⟨if f.negative then -(f.num : Int) else f.num, f.den, fun n => ?_⟩
            rw [← compare_at_most_iff, Option.map_some, Int.compare_swap]

/-- A whole number greater than one that a limit has come up to is beyond the limit as well. -/
theorem is_at_most_whole_mono {m n : Nat} (h : limit.isAtMost (.whole m) = true)
    (hle : m ≤ n) : limit.isAtMost (.whole n) = true := by
  rcases limit.is_at_most_whole_cases with ⟨reached, hsame⟩ | ⟨k, scale, hiff⟩
  · rw [hsame] at h ⊢
    exact h
  · rw [hiff] at h ⊢
    exact h.trans (Int.mul_le_mul_of_nonneg_right (by omega) (by omega))

end ComponentMigration.Quantity
