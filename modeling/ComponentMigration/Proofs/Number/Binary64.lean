import Mathlib.Algebra.Group.Nat.Defs
import ComponentMigration.Number.Quantity

/-!
# Nearest floating-point numbers

A power of two is its own nearest floating-point number as long as its exponent is below 1024, which
is the first that is too large (`is_too_large_two_pow`).  The number nearest to a fraction does not
depend on how the fraction is written: it need not be reduced (`nearest_bits_mul_right`).
-/

namespace ComponentMigration.Number

@[simp] theorem two_to_eq (n : Nat) : twoTo n = 2 ^ n := rfl

/-- Powers of two divide without a remainder. -/
theorem div_round_two_pow (m n : Nat) : divRound (2 ^ (m + n)) (2 ^ n) = 2 ^ m := by
  have hdiv : 2 ^ (m + n) / 2 ^ n = 2 ^ m := by
    rw [Nat.pow_add, Nat.mul_div_cancel _ (Nat.two_pow_pos n)]
  have hmod : 2 ^ (m + n) % 2 ^ n = 0 := by
    rw [Nat.pow_add, Nat.mul_mod_left]
  simp [divRound, hdiv, hmod, Nat.two_pow_pos n]

/-- An exponent fits a power of two if the significand has to hold at most 53 bits of it. -/
theorem fits_two_pow (k : Nat) (e : Int) : fits (2 ^ k) 1 e = decide ((k : Int) < e + 53) := by
  unfold fits
  split
  case isTrue he =>
    have hlt : 2 ^ k < 1 * twoTo (e.toNat + 53) ↔ k < e.toNat + 53 := by
      rw [Nat.one_mul, two_to_eq, Nat.pow_lt_pow_iff_right (by decide)]
    rw [decide_eq_decide, hlt]
    omega
  case isFalse he =>
    have hlt : 2 ^ k * twoTo (-e).toNat < 1 * twoTo 53 ↔ k + (-e).toNat < 53 := by
      rw [Nat.one_mul, two_to_eq, two_to_eq, ← Nat.pow_add,
        Nat.pow_lt_pow_iff_right (by decide)]
    rw [decide_eq_decide, hlt]
    omega

theorem least_exponent_two_pow (k : Nat) : leastExponent (2 ^ k) 1 = k - 52 := by
  have hlog : Nat.log2 1 = 0 := by decide
  simp only [leastExponent, Nat.log2_two_pow, hlog, fits_two_pow, decide_eq_true_eq,
    Int.ofNat_eq_natCast]
  rw [if_neg (by omega), if_pos (by omega), if_neg (by omega)]
  omega

theorem significand_at_two_pow (k : Nat) : significandAt (2 ^ k) 1 (k - 52) = 2 ^ 52 := by
  unfold significandAt
  split
  case isTrue he =>
    have hk : 52 + (k - 52) = k := by omega
    have hround := div_round_two_pow 52 (k - 52)
    rw [hk] at hround
    rw [Nat.one_mul, two_to_eq, show ((k : Int) - 52).toNat = k - 52 by omega, hround]
  case isFalse he =>
    have hround := div_round_two_pow 52 0
    rw [two_to_eq, ← Nat.pow_add, show k + (-((k : Int) - 52)).toNat = 52 by omega]
    exact hround

/-- Powers of two up to the largest exponent are numbers of their own. -/
theorem nearest_bits_two_pow {k : Nat} (hk : k < 1024) :
    nearestBits (2 ^ k) 1 = (k + 1023) * 2 ^ 52 := by
  have hbiased : ((k : Int) - 52 + 1075).toNat = k + 1023 := by omega
  have hne : ((2 : Nat) ^ 52 == 2 ^ 53) = false := by decide
  have hbits : bitsOf (2 ^ 52) (k - 52) = (k + 1023) * 2 ^ 52 := by
    simp only [bitsOf, two_to_eq, hne, Bool.false_eq_true, if_false, hbiased]
    rw [if_neg (Nat.lt_irrefl _), if_neg (by omega), Nat.sub_self, Nat.add_zero]
  have hpos : ((2 : Nat) ^ k == 0) = false := by
    rw [beq_eq_false_iff_ne]
    exact Nat.ne_of_gt (Nat.two_pow_pos k)
  simp only [nearestBits, hpos, Bool.false_eq_true, if_false, least_exponent_two_pow,
    significand_at_two_pow, hbits]

/-- Powers of two up to the largest exponent are not too large. -/
theorem is_too_large_two_pow {k : Nat} (hk : k < 1024) :
    isTooLarge ((2 ^ k : Nat) : Int) = false := by
  have hlt : (k + 1023) * 2 ^ 52 < 2047 * 2 ^ 52 :=
    Nat.mul_lt_mul_of_pos_right (by omega) (Nat.two_pow_pos 52)
  simp only [isTooLarge, Int.natAbs_natCast, nearest_bits_two_pow hk, two_to_eq]
  rw [decide_eq_false_iff_not]
  omega

section Fractions

variable {num den : Nat} {e : Int}

theorem fits_eq (num den : Nat) (e : Int) :
    fits num den e = decide (num * 2 ^ (-e).toNat < den * 2 ^ (53 + e.toNat)) := by
  unfold fits
  split
  case isTrue he =>
    rw [show (-e).toNat = 0 by omega, Nat.pow_zero, Nat.mul_one, Nat.add_comm 53]
    rfl
  case isFalse he =>
    rw [show e.toNat = 0 by omega]
    rfl

theorem fits_mono {e e' : Int} (hle : e ≤ e') (h : fits num den e = true) :
    fits num den e' = true := by
  rw [fits_eq, decide_eq_true_eq] at h ⊢
  have hnum : num * 2 ^ (-e').toNat ≤ num * 2 ^ (-e).toNat :=
    Nat.mul_le_mul_left num (Nat.pow_le_pow_right (by decide) (by omega))
  have hden : den * 2 ^ (53 + e.toNat) ≤ den * 2 ^ (53 + e'.toNat) :=
    Nat.mul_le_mul_left den (Nat.pow_le_pow_right (by decide) (by omega))
  omega

/-- The exponent that the first bits of a fraction's parts tell is too small by one at most. -/
theorem fits_log_bounds (hnum : 0 < num) (hden : 0 < den) :
    fits num den (num.log2 - den.log2 - 52) = true ∧
      fits num den (num.log2 - den.log2 - 54) = false := by
  have hnum' := Nat.log2_self_le (Nat.ne_of_gt hnum)
  have hden' := Nat.log2_self_le (Nat.ne_of_gt hden)
  have hnum'' : num < 2 ^ (num.log2 + 1) := Nat.lt_log2_self
  have hden'' : den < 2 ^ (den.log2 + 1) := Nat.lt_log2_self
  generalize num.log2 = p at *
  generalize den.log2 = q at *
  simp only [fits_eq, decide_eq_true_eq, decide_eq_false_iff_not, Nat.not_lt]
  constructor
  · generalize he : (p : Int) - q - 52 = e
    calc num * 2 ^ (-e).toNat
        < 2 ^ (p + 1) * 2 ^ (-e).toNat := Nat.mul_lt_mul_of_pos_right hnum'' (Nat.two_pow_pos _)
      _ = 2 ^ q * 2 ^ (53 + e.toNat) := by
          rw [← Nat.pow_add, ← Nat.pow_add, show p + 1 + (-e).toNat = q + (53 + e.toNat) by omega]
      _ ≤ den * 2 ^ (53 + e.toNat) := Nat.mul_le_mul_right _ hden'
  · generalize he : (p : Int) - q - 54 = e
    calc den * 2 ^ (53 + e.toNat)
        ≤ 2 ^ (q + 1) * 2 ^ (53 + e.toNat) := Nat.mul_le_mul_right _ (Nat.le_of_lt hden'')
      _ = 2 ^ p * 2 ^ (-e).toNat := by
          rw [← Nat.pow_add, ← Nat.pow_add, show q + 1 + (53 + e.toNat) = p + (-e).toNat by omega]
      _ ≤ num * 2 ^ (-e).toNat := Nat.mul_le_mul_right _ hnum'

/-- The exponent is the least that fits, or that of the smallest number. -/
theorem least_exponent_eq (hnum : 0 < num) (hden : 0 < den) (h : fits num den e = true)
    (h' : fits num den (e - 1) = false) :
    leastExponent num den = if e < -1074 then -1074 else e := by
  obtain ⟨hfits, hnot⟩ := fits_log_bounds hnum hden
  have hle : e ≤ num.log2 - den.log2 - 52 := by
    refine Int.not_lt.mp fun hlt => ?_
    exact absurd (fits_mono (by omega) hfits) (Bool.eq_false_iff.mp h')
  have hge : (num.log2 : Int) - den.log2 - 53 ≤ e := by
    refine Int.not_lt.mp fun hlt => ?_
    exact absurd (fits_mono (by omega) h) (Bool.eq_false_iff.mp hnot)
  have hfirst : (num.log2 : Int) - den.log2 - 53 = e ∨ (num.log2 : Int) - den.log2 - 53 = e - 1 := by
    omega
  simp only [leastExponent, Int.ofNat_eq_natCast]
  rcases hfirst with hfirst | hfirst
  · rw [hfirst, h, if_pos rfl, h, if_pos rfl]
  · rw [hfirst, h', if_neg Bool.false_ne_true, Int.sub_add_cancel, h, if_pos rfl]

theorem exists_first_fit (hnum : 0 < num) (hden : 0 < den) :
    ∃ e, fits num den e = true ∧ fits num den (e - 1) = false := by
  obtain ⟨hfits, hnot⟩ := fits_log_bounds hnum hden
  cases hfirst : fits num den ((num.log2 : Int) - den.log2 - 53) with
  | true => exact ⟨_, hfirst, hnot ▸ by congr 1; omega⟩
  | false => exact ⟨_, hfits, hfirst ▸ by congr 1; omega⟩

variable {c : Nat}

theorem div_round_mul_right (hc : 0 < c) (num den : Nat) :
    divRound (num * c) (den * c) = divRound num den := by
  have hlt : 2 * (num % den * c) < den * c ↔ 2 * (num % den) < den := by
    rw [← Nat.mul_assoc, Nat.mul_lt_mul_right hc]
  have hgt : den * c < 2 * (num % den * c) ↔ den < 2 * (num % den) := by
    rw [← Nat.mul_assoc, Nat.mul_lt_mul_right hc]
  simp only [divRound, Nat.mul_div_mul_right _ _ hc, Nat.mul_mod_mul_right, hlt, hgt]

theorem fits_mul_right (hc : 0 < c) (num den : Nat) (e : Int) :
    fits (num * c) (den * c) e = fits num den e := by
  rw [fits_eq, fits_eq, Nat.mul_right_comm num, Nat.mul_right_comm den, decide_eq_decide,
    Nat.mul_lt_mul_right hc]

theorem significand_at_mul_right (hc : 0 < c) (num den : Nat) (e : Int) :
    significandAt (num * c) (den * c) e = significandAt num den e := by
  unfold significandAt
  split
  · rw [Nat.mul_right_comm, div_round_mul_right hc]
  · rw [Nat.mul_right_comm, div_round_mul_right hc]

/-- A fraction need not be reduced. -/
theorem nearest_bits_mul_right (hden : 0 < den) (hc : 0 < c) (num : Nat) :
    nearestBits (num * c) (den * c) = nearestBits num den := by
  rcases Nat.eq_zero_or_pos num with rfl | hnum
  · simp [nearestBits]
  · obtain ⟨e, hfits, hnot⟩ := exists_first_fit hnum hden
    have hexponent : leastExponent (num * c) (den * c) = leastExponent num den := by
      rw [least_exponent_eq hnum hden hfits hnot]
      exact least_exponent_eq (Nat.mul_pos hnum hc) (Nat.mul_pos hden hc)
        ((fits_mul_right hc _ _ _).trans hfits) ((fits_mul_right hc _ _ _).trans hnot)
    have hne : (num == 0) = false := beq_eq_false_iff_ne.mpr (Nat.ne_of_gt hnum)
    have hne' : (num * c == 0) = false := beq_eq_false_iff_ne.mpr (Nat.ne_of_gt (Nat.mul_pos hnum hc))
    simp only [nearestBits, hne, hne', hexponent, significand_at_mul_right hc]

end Fractions

end ComponentMigration.Number
