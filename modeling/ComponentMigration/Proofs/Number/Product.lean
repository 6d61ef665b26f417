import ComponentMigration.Proofs.Number.Rounding
import ComponentMigration.Proofs.Number.Significand

/-!
# Nearest numbers and products

The number that is made of a fraction and the product of two numbers are the nearest ones to their
exact values (`of_fraction_nearest`, `IsFinite.mul_nearest`): at most half a unit of the last place
away, where a unit is told by the exponent at which the exact value takes 53 bits.
-/

namespace ComponentMigration.Number

open Float.Model

/-- A number that is nearest to a positive fraction of 53 bits at an exponent. -/
structure IsNearest (x : Float) (q : Rat) (e : Int) : Prop where
  finite : IsFinite x
  grid : ∃ r : Nat, ratOf x = r * 2 ^ e
  near : |ratOf x - q| ≤ 2 ^ e / 2
  least : 2 ^ (e + 52) ≤ q
  below : q < 2 ^ (e + 53)

section Exponents

variable {x : Float} {q : Rat} {e k : Int}

theorem IsNearest.lt_of_lt (h : IsNearest x q e) (hlt : q < 2 ^ k) : e + 52 < k :=
  (zpow_lt_zpow_iff_right₀ one_lt_two).mp (h.least.trans_lt hlt)

theorem IsNearest.le_of_le (h : IsNearest x q e) (hle : 2 ^ k ≤ q) : k < e + 53 :=
  (zpow_lt_zpow_iff_right₀ one_lt_two).mp (hle.trans_lt h.below)

/-- A number nearest to a fraction below a power of two is near by what that power tells. -/
theorem IsNearest.near_of_lt (h : IsNearest x q e) (hlt : q < 2 ^ k) :
    |ratOf x - q| ≤ 2 ^ (k - 54) := by
  have hexponent := h.lt_of_lt hlt
  have hhalf : (2 : Rat) ^ e / 2 = 2 ^ (e - 1) := (zpow_sub_one₀ two_ne_zero e).symm
  refine h.near.trans ?_
  rw [hhalf]
  exact (zpow_le_zpow_iff_right₀ one_lt_two).mpr (by omega)

/-- A nearest number is near to its fraction in proportion. -/
theorem IsNearest.bounds (h : IsNearest x q e) : q / 2 ≤ ratOf x ∧ ratOf x ≤ 2 * q := by
  have hunit : (2 : Rat) ^ e ≤ 2 ^ (e + 52) := zpow_le_zpow_right₀ one_le_two (by omega)
  have hpos : (0 : Rat) < 2 ^ e := zpow_pos two_pos e
  obtain ⟨hlow, hhigh⟩ := abs_le.mp h.near
  have hleast := h.least
  constructor <;> linarith

/-- With a unit of one or less all whole numbers are multiples of it, so that a nearest number does
not miss one that is less than a unit above. -/
theorem IsNearest.whole_le (h : IsNearest x q e) (he : e ≤ 0) {w : Nat}
    (hw : (w : Rat) < ratOf x + 2 ^ e) : (w : Rat) ≤ ratOf x := by
  obtain ⟨r, hr⟩ := h.grid
  have hpos : (0 : Rat) < 2 ^ e := zpow_pos two_pos e
  have hunit : ((2 ^ (-e).toNat : Nat) : Rat) * 2 ^ e = 1 := by
    rw [Nat.cast_pow, Nat.cast_ofNat, ← zpow_natCast, ← zpow_add₀ two_ne_zero,
      show ((-e).toNat : Int) + e = 0 by omega, zpow_zero]
  have hmultiple : ((w * 2 ^ (-e).toNat : Nat) : Rat) * 2 ^ e = w := by
    rw [Nat.cast_mul, mul_assoc, hunit, mul_one]
  have hless : ((w * 2 ^ (-e).toNat : Nat) : Rat) < (r + 1 : Nat) := by
    refine lt_of_mul_lt_mul_right ?_ hpos.le
    rwa [hmultiple, Nat.cast_add_one, add_one_mul, ← hr]
  have hle : ((w * 2 ^ (-e).toNat : Nat) : Rat) ≤ r :=
    Nat.cast_le.mpr (Nat.lt_succ_iff.mp (Nat.cast_lt.mp hless))
  rw [← hmultiple, hr]
  exact mul_le_mul_of_nonneg_right hle hpos.le

end Exponents

/-!
## Fractions
-/

section Fractions

variable {num den m : Nat} {e : Int}

/-- The parts of the bits that a significand and an exponent are put in. -/
theorem of_bits_value (hfull : 2 ^ 52 ≤ m) (hm : m < 2 ^ 53) (he : -1074 ≤ e) (he' : e ≤ 971) :
    IsFinite (Float.ofBits (UInt64.ofNat (bitsOf m e))) ∧
      ratOf (Float.ofBits (UInt64.ofNat (bitsOf m e))) = m * 2 ^ e := by
  obtain ⟨biased, hbiased⟩ : ∃ biased : Nat, (biased : Int) = e + 1075 :=
    ⟨(e + 1075).toNat, by omega⟩
  have hbits : bitsOf m e = biased * 2 ^ 52 + (m - 2 ^ 52) := by
    have hne : (m == 2 ^ 53) = false := beq_eq_false_iff_ne.mpr hm.ne
    simp only [bitsOf, two_to_eq, hne, Bool.false_eq_true, if_false, ← hbiased, Int.toNat_natCast]
    rw [if_neg (by omega), if_neg (by omega)]
  have hnat : (UInt64.ofNat (bitsOf m e)).toBitVec.toNat = biased * 2 ^ 52 + (m - 2 ^ 52) := by
    rw [UInt64.toNat_toBitVec, UInt64.toNat_ofNat', hbits, Nat.mod_eq_of_lt (by omega)]
  have hparts : UnpackedFloat.unpack .binary64 (UInt64.ofNat (bitsOf m e)).toBitVec =
      .finite .positive m e (by omega) := by
    rw [unpack_eq hnat, if_neg (by omega), if_neg (by omega), UnpackedFloat.finite.injEq]
    have hsign : (biased * 2 ^ 52 + (m - 2 ^ 52)) / 2 ^ 63 = 0 := by omega
    refine ⟨?_, by omega, by omega⟩
    rw [hsign]
    rfl
  have hvalue : HasValue (.finite .positive m e (by omega)) :=
    .finite _ _ ⟨hm, he, he', .inl hfull⟩
  refine hvalue.of_unpack ?_
  rw [← hparts]
  rfl

/-- A fraction takes at most 53 bits at an exponent. -/
theorem fits_iff_lt (num : Nat) (hden : 0 < den) (e : Int) :
    fits num den e = true ↔ (num : Rat) / den < 2 ^ (e + 53) := by
  have hpos : (0 : Rat) < den := Nat.cast_pos.mpr hden
  have hdown : (0 : Rat) < 2 ^ (-e).toNat := pow_pos two_pos _
  have hsplit : (2 : Rat) ^ (e + 53) = 2 ^ (53 + e.toNat) / 2 ^ (-e).toNat := by
    rw [← zpow_natCast, ← zpow_natCast, ← zpow_sub₀ two_ne_zero]
    congr 1
    omega
  rw [fits_eq, decide_eq_true_eq, hsplit, div_lt_div_iff₀ hpos hdown, mul_comm (2 ^ _) (den : Rat)]
  exact_mod_cast Iff.rfl

/-- The significand of a fraction at an exponent is at most a half away from its exact value. -/
theorem significand_at_near (num : Nat) (hden : 0 < den) (e : Int) :
    |(significandAt num den e : Rat) * 2 ^ e - num / den| ≤ 2 ^ e / 2 := by
  have hpos : (0 : Rat) < 2 ^ e := zpow_pos two_pos e
  have hscaled : |(significandAt num den e : Rat) - num / den / 2 ^ e| ≤ 1 / 2 := by
    unfold significandAt
    split
    case isTrue he =>
      have hdivisor : (2 : Rat) ^ e = 2 ^ e.toNat := by
        rw [← zpow_natCast, Int.toNat_of_nonneg he]
      have hnear := abs_div_round_sub_le num (Nat.mul_pos hden (Nat.two_pow_pos e.toNat))
      rw [hdivisor, div_div]
      exact_mod_cast hnear
    case isFalse he =>
      have hfactor : (2 : Rat) ^ e = (2 ^ (-e).toNat)⁻¹ := by
        rw [← zpow_natCast, ← zpow_neg, Int.toNat_of_nonneg (by omega), neg_neg]
      have hnear := abs_div_round_sub_le (num * 2 ^ (-e).toNat) hden
      rw [hfactor, div_inv_eq_mul, div_mul_eq_mul_div]
      exact_mod_cast hnear
  have hfactor : (significandAt num den e : Rat) * 2 ^ e - num / den =
      (significandAt num den e - num / den / 2 ^ e) * 2 ^ e := by
    rw [sub_mul, div_mul_cancel₀ _ hpos.ne']
  have hunit : (2 : Rat) ^ e / 2 = 1 / 2 * 2 ^ e := by ring
  rw [hfactor, hunit, abs_mul, abs_of_pos hpos]
  exact mul_le_mul_of_nonneg_right hscaled hpos.le

/-- The significand at the first exponent that fits uses all 53 bits, and may come to one more. -/
theorem significand_at_bounds (hden : 0 < den) (hleast : 2 ^ (e + 52) ≤ (num : Rat) / den)
    (hbelow : (num : Rat) / den < 2 ^ (e + 53)) :
    2 ^ 52 ≤ significandAt num den e ∧ significandAt num den e ≤ 2 ^ 53 := by
  have hpos : (0 : Rat) < 2 ^ e := zpow_pos two_pos e
  obtain ⟨hlow, hhigh⟩ := abs_le.mp (significand_at_near num hden e)
  rw [zpow_add₀ two_ne_zero] at hleast hbelow
  have hlow' : ((2 : Rat) ^ 52 - 1) < significandAt num den e := by
    refine lt_of_mul_lt_mul_right ?_ hpos.le
    norm_num at hleast ⊢
    linarith
  have hhigh' : (significandAt num den e : Rat) < 2 ^ 53 + 1 := by
    refine lt_of_mul_lt_mul_right ?_ hpos.le
    norm_num at hbelow ⊢
    linarith
  have hlow'' : (2 : Rat) ^ 52 < significandAt num den e + 1 := by linarith
  have hlow''' : 2 ^ 52 < significandAt num den e + 1 := by exact_mod_cast hlow''
  have hhigh'' : significandAt num den e < 2 ^ 53 + 1 := by exact_mod_cast hhigh'
  exact ⟨Nat.lt_succ_iff.mp hlow''', Nat.lt_succ_iff.mp hhigh''⟩

/-- The number made of a fraction is nearest to it. -/
theorem of_fraction_nearest (hnum : 0 < num) (hden : 0 < den)
    (hsmall : 2 ^ (-1022 : Int) ≤ (num : Rat) / den)
    (hlarge : (num : Rat) / den < 2 ^ (1023 : Int)) :
    ∃ e, IsNearest (ofFraction ⟨false, num, den⟩) (num / den) e := by
  obtain ⟨e, hfits, hnot⟩ := exists_first_fit hnum hden
  have hbelow := (fits_iff_lt num hden e).mp hfits
  have hleast : (2 : Rat) ^ (e + 52) ≤ num / den := by
    rw [← not_lt, show e + 52 = e - 1 + 53 by omega, ← fits_iff_lt num hden, hnot]
    exact Bool.false_ne_true
  have he : -1022 < e + 53 := (zpow_lt_zpow_iff_right₀ one_lt_two).mp (hsmall.trans_lt hbelow)
  have he' : e + 52 < 1023 := (zpow_lt_zpow_iff_right₀ one_lt_two).mp (hleast.trans_lt hlarge)
  have hbits : nearestBits num den = bitsOf (significandAt num den e) e := by
    have hne : (num == 0) = false := beq_eq_false_iff_ne.mpr hnum.ne'
    have hexponent : leastExponent num den = e := by
      rw [least_exponent_eq hnum hden hfits hnot, if_neg (by omega)]
    simp only [nearestBits, hne, Bool.false_eq_true, if_false, hexponent]
  have hnear := significand_at_near num hden e
  obtain ⟨hfull, hle⟩ := significand_at_bounds hden hleast hbelow
  have hvalue : IsFinite (ofFraction ⟨false, num, den⟩) ∧
      ratOf (ofFraction ⟨false, num, den⟩) = significandAt num den e * 2 ^ e := by
    simp only [ofFraction, Bool.false_eq_true, if_false, hbits]
    rcases Nat.lt_or_eq_of_le hle with hlt | heq
    · exact of_bits_value hfull hlt (by omega) (by omega)
    · -- One bit more is the least significand at the next exponent.
      have hcarry : bitsOf (2 ^ 53) e = bitsOf (2 ^ 52) (e + 1) := rfl
      obtain ⟨hfinite, hrat⟩ := of_bits_value (m := 2 ^ 52) (e := e + 1) le_rfl (by norm_num)
        (by omega) (by omega)
      rw [heq, hcarry]
      refine ⟨hfinite, hrat.trans ?_⟩
      rw [zpow_add_one₀ two_ne_zero]
      push_cast
      ring
  exact ⟨e, hvalue.1, ⟨_, hvalue.2⟩, by rwa [hvalue.2], hleast, hbelow⟩

end Fractions

/-!
## Products
-/

section Products

variable {x y : Float}

/-- Positive numbers have a positive sign. -/
theorem IsFinite.parts_of_pos (hx : IsFinite x) (hpos : 0 < ratOf x) :
    ∃ (m : Nat) (e : Int) (hm : 0 < m), x.toModel.unpack = .finite .positive m e hm ∧
      IsCanonical m e ∧ ratOf x = m * 2 ^ e := by
  rw [hx.rat_of] at hpos ⊢
  unfold IsFinite at hx
  generalize x.toModel.unpack = u at hx hpos
  cases hx with
  | zero s => exact absurd hpos (lt_irrefl 0)
  | finite s hm h =>
      obtain ⟨rfl, hvalue⟩ := positive_of_pos hpos
      exact ⟨_, _, hm, rfl, h, hvalue⟩

theorem log_bounds {m : Nat} (hm : 0 < m) (e : Int) :
    (2 : Rat) ^ (m.log2 + e) ≤ m * 2 ^ e ∧ (m : Rat) * 2 ^ e < 2 ^ (m.log2 + e + 1) := by
  have hpos : (0 : Rat) < 2 ^ e := zpow_pos two_pos e
  have hle : (2 : Rat) ^ m.log2 ≤ m := by exact_mod_cast Nat.log2_self_le hm.ne'
  have hlt : (m : Rat) < 2 ^ (m.log2 + 1) := by exact_mod_cast Nat.lt_log2_self
  constructor
  · rw [zpow_add₀ two_ne_zero, zpow_natCast]
    exact mul_le_mul_of_nonneg_right hle hpos.le
  · rw [show (m.log2 : Int) + e + 1 = (m.log2 + 1 : Nat) + e by push_cast; ring,
      zpow_add₀ two_ne_zero, zpow_natCast]
    exact mul_lt_mul_of_pos_right hlt hpos

/-- A product that is not among the smallest numbers has no bits too few. -/
theorem full_of_canonical {m n : Nat} {e f : Int} (hm : IsCanonical m e) (hn : IsCanonical n f)
    (hm' : 0 < m) (hn' : 0 < n) (hleast : -1022 ≤ ((m * n).log2 : Int) + (e + f)) :
    2 ^ 52 ≤ m * n := by
  rcases hm.full with hfull | rfl
  · exact hfull.trans (Nat.le_mul_of_pos_right m hn')
  · rcases hn.full with hfull | rfl
    · exact hfull.trans (Nat.le_mul_of_pos_left n hm')
    · have hlog : 52 ≤ (m * n).log2 := by omega
      exact (Nat.le_log2 (Nat.mul_pos hm' hn').ne').mp hlog

/-- The product of two numbers is nearest to the exact product. -/
theorem IsFinite.mul_nearest (hx : IsFinite x) (hy : IsFinite y) (hxpos : 0 < ratOf x)
    (hypos : 0 < ratOf y) (hsmall : 2 ^ (-1022 : Int) ≤ ratOf x * ratOf y)
    (hlarge : ratOf x * ratOf y < 2 ^ (1023 : Int)) :
    ∃ e, IsNearest (x * y) (ratOf x * ratOf y) e := by
  obtain ⟨m, e, hm, hxparts, hxcanonical, hxvalue⟩ := hx.parts_of_pos hxpos
  obtain ⟨n, f, hn, hyparts, hycanonical, hyvalue⟩ := hy.parts_of_pos hypos
  have hproduct : ratOf x * ratOf y = (m * n : Nat) * 2 ^ (e + f) := by
    rw [hxvalue, hyvalue, zpow_add₀ two_ne_zero]
    push_cast
    ring
  rw [hproduct] at hsmall hlarge ⊢
  have hpos := Nat.mul_pos hm hn
  obtain ⟨hlow, hhigh⟩ := log_bounds hpos (e + f)
  have hleast : -1022 < ((m * n).log2 : Int) + (e + f) + 1 :=
    (zpow_lt_zpow_iff_right₀ one_lt_two).mp (hsmall.trans_lt hhigh)
  have hgreatest : ((m * n).log2 : Int) + (e + f) < 1023 :=
    (zpow_lt_zpow_iff_right₀ one_lt_two).mp (hlow.trans_lt hlarge)
  have hfull := full_of_canonical hxcanonical hycanonical hm hn (by omega)
  have hlog := (Nat.le_log2 hpos.ne').mpr hfull
  have htarget : targetOf (m * n) (e + f) = (m * n).log2 + (e + f) - 52 := by
    rw [targetOf]
    omega
  obtain ⟨hvalue, r, heq, hnear⟩ := round_with_accuracy_nearest (k := (m * n).log2 - 52) .positive
    hpos (by rw [htarget]; omega) (by rw [htarget]; omega)
  obtain ⟨hfinite, hrat⟩ := hvalue.of_unpack (x := x * y) (by
    show pack (UnpackedFloat.mul .binary64 x.toModel.unpack y.toModel.unpack) = _
    rw [hxparts, hyparts]
    rfl)
  rw [htarget] at heq hnear
  refine ⟨(m * n).log2 + (e + f) - 52, hfinite, ⟨r, hrat.trans heq⟩, ?_, ?_, ?_⟩
  · rw [hrat, heq]
    exact hnear
  · rwa [show ((m * n).log2 : Int) + (e + f) - 52 + 52 = (m * n).log2 + (e + f) by omega]
  · rwa [show ((m * n).log2 : Int) + (e + f) - 52 + 53 = (m * n).log2 + (e + f) + 1 by omega]

/-- The integer part of a number that is not negative. -/
theorem IsFinite.trunc_int (hx : IsFinite x) (hpos : 0 ≤ ratOf x) : truncInt x = ⌊ratOf x⌋ := by
  rcases fraction_of_cases x with ⟨⟨negative, num, den⟩, hf, -, -⟩ | ⟨-, hnone | ⟨s, hinfinite⟩⟩
  · rw [rat_of_eq_value hf, Fraction.value, Rat.mkRat_eq_div] at hpos ⊢
    rw [truncInt, hf]
    cases negative with
    | false =>
        show ((num / den : Nat) : Int) = ⌊((num : Int) : Rat) / den⌋
        rw [Rat.floor_intCast_div_natCast, Int.natCast_div]
    | true =>
        -- Zero is the only fraction with a sign that is not negative.
        have hnonpos : (num : Rat) / den ≤ 0 := by simpa [neg_div] using hpos
        have hzero : (num : Rat) / den = 0 := le_antisymm hnonpos (by positivity)
        rcases div_eq_zero_iff.mp hzero with hnum | hden
        · obtain rfl : num = 0 := by exact_mod_cast hnum
          simp
        · obtain rfl : den = 0 := by exact_mod_cast hden
          simp
  · rw [IsFinite, hnone] at hx
    cases hx
  · rw [IsFinite, hinfinite] at hx
    cases hx

end Products

end ComponentMigration.Number
