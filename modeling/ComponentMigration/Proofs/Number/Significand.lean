import ComponentMigration.Proofs.Number.Parts

/-!
# Rounded significands

A significand with too many bits loses its last ones, and what it loses is remembered well enough to
round it to the nearest one that is left (`rounded_mantissa_near`).  So a number that is made of an
exact significand and exponent is at most half a unit of its last place away from the exact value
(`round_with_accuracy_nearest`).
-/

namespace ComponentMigration.Number

open Float.Model

/-!
## Bits that are lost
-/

section Bits

variable (m k : Nat)

theorem shift_right_mantissa (r : UnpackedFloat.ExtendedMantissa) :
    (r >>> k).mantissa = r.mantissa / 2 ^ k := by
  induction k with
  | zero => exact (Nat.div_one _).symm
  | succ k ih =>
      show (r >>> k).mantissa / 2 = r.mantissa / 2 ^ (k + 1)
      rw [ih, Nat.div_div_eq_div_mul, Nat.pow_succ]

/-- The two bits that are kept of the lost ones tell whether these come to half a unit, and whether
they are neither nothing nor just that half. -/
theorem shift_right_residue :
    (((⟨m, false, false⟩ : UnpackedFloat.ExtendedMantissa) >>> k).roundBit = true ↔
        2 ^ k ≤ 2 * (m % 2 ^ k)) ∧
      (((⟨m, false, false⟩ : UnpackedFloat.ExtendedMantissa) >>> k).stickyBit = true ↔
        m % 2 ^ k ≠ 0 ∧ 2 * (m % 2 ^ k) ≠ 2 ^ k) := by
  induction k with
  | zero =>
      rw [Nat.pow_zero, Nat.mod_one]
      exact ⟨iff_of_false Bool.false_ne_true (by decide), iff_of_false Bool.false_ne_true (by simp)⟩
  | succ k ih =>
      obtain ⟨hround, hsticky⟩ := ih
      have hmantissa := shift_right_mantissa k ⟨m, false, false⟩
      dsimp only at hmantissa
      have hlast : m % 2 ^ (k + 1) = m % 2 ^ k + 2 ^ k * (m / 2 ^ k % 2) := Nat.mod_pow_succ
      have hmod := Nat.mod_lt m (Nat.two_pow_pos k)
      have hpow : 2 ^ (k + 1) = 2 * 2 ^ k := Nat.pow_succ'
      generalize hshifted : (⟨m, false, false⟩ : UnpackedFloat.ExtendedMantissa) >>> k = r at *
      have hnext : (⟨m, false, false⟩ : UnpackedFloat.ExtendedMantissa) >>> (k + 1) =
          r.shiftRightOne := by
        rw [← hshifted]
        rfl
      rw [hnext]
      show (((r.mantissa % 2 != 0) = true) ↔ _) ∧ (((r.roundBit || r.stickyBit) = true) ↔ _)
      rw [Bool.or_eq_true, hround, hsticky, hmantissa, hlast, hpow, bne_iff_ne]
      generalize m % 2 ^ k = low at *
      generalize 2 ^ k = unit at *
      rcases Nat.mod_two_eq_zero_or_one (m / unit) with hbit | hbit <;> rw [hbit] <;> omega

theorem rounded_mantissa_bounds (r : UnpackedFloat.ExtendedMantissa) :
    r.mantissa ≤ r.roundedMantissa ∧ r.roundedMantissa ≤ r.mantissa + 1 := by
  obtain ⟨n, first, rest⟩ := r
  have hparity := Nat.mod_lt n (by decide : 0 < 2)
  cases first <;> cases rest
  · exact ⟨le_rfl, Nat.le_succ n⟩
  · exact ⟨le_rfl, Nat.le_succ n⟩
  · show n ≤ n + n % 2 ∧ n + n % 2 ≤ n + 1
    omega
  · exact ⟨Nat.le_succ n, le_rfl⟩

/-- A significand is rounded to the nearest one without its last bits. -/
theorem rounded_mantissa_near :
    2 * (((⟨m, false, false⟩ : UnpackedFloat.ExtendedMantissa) >>> k).roundedMantissa * 2 ^ k) ≤
        2 * m + 2 ^ k ∧
      2 * m ≤ 2 * (((⟨m, false, false⟩ : UnpackedFloat.ExtendedMantissa) >>> k).roundedMantissa *
        2 ^ k) + 2 ^ k := by
  obtain ⟨hround, hsticky⟩ := shift_right_residue m k
  have hmantissa := shift_right_mantissa k ⟨m, false, false⟩
  have hdiv := Nat.div_add_mod m (2 ^ k)
  have hmod := Nat.mod_lt m (Nat.two_pow_pos k)
  generalize (⟨m, false, false⟩ : UnpackedFloat.ExtendedMantissa) >>> k = r at *
  obtain ⟨n, first, rest⟩ := r
  dsimp only at hround hsticky hmantissa
  subst hmantissa
  generalize m / 2 ^ k = n at *
  generalize m % 2 ^ k = low at *
  generalize 2 ^ k = unit at *
  have hup : (n + 1) * unit = unit * n + unit := by rw [Nat.add_mul, Nat.one_mul, Nat.mul_comm]
  have hdown : n * unit = unit * n := Nat.mul_comm n unit
  cases first <;> cases rest <;>
    simp only [Bool.false_eq_true, false_iff, true_iff] at hround hsticky
  · show 2 * (n * unit) ≤ 2 * m + unit ∧ 2 * m ≤ 2 * (n * unit) + unit
    omega
  · show 2 * (n * unit) ≤ 2 * m + unit ∧ 2 * m ≤ 2 * (n * unit) + unit
    omega
  · -- A half is rounded up or down.
    show 2 * ((n + n % 2) * unit) ≤ 2 * m + unit ∧ 2 * m ≤ 2 * ((n + n % 2) * unit) + unit
    rcases Nat.mod_two_eq_zero_or_one n with hparity | hparity <;> rw [hparity]
    · rw [Nat.add_zero]
      omega
    · omega
  · show 2 * ((n + 1) * unit) ≤ 2 * m + unit ∧ 2 * m ≤ 2 * ((n + 1) * unit) + unit
    omega

end Bits

/-!
## Exponents that significands are rounded at
-/

/-- The exponent that a significand is rounded at. -/
def targetOf (m : Nat) (e : Int) : Int := max (m.log2 + e - 52) (-1074)

theorem target_exponent_eq (m : Nat) (e : Int) :
    Format.binary64.targetExponent (totalExponent m e) = targetOf m e := by
  show max ((m.log2 : Int) + 1 + e - 53) (-1074) = max (m.log2 + e - 52) (-1074)
  omega

/-- A significand that fits stays as it is. -/
theorem shift_of_fits {m : Nat} {e : Int} (hm : m < 2 ^ 53) (he : -1074 ≤ e) :
    UnpackedFloat.shiftToTargetExponent .binary64 m e .exact = (⟨m, false, false⟩, e) := by
  have hlog : m.log2 ≤ 52 := by
    rcases Nat.eq_zero_or_pos m with rfl | hpos
    · decide
    · have := (Nat.log2_lt hpos.ne').mpr hm
      omega
  have hshift : (Format.binary64.targetExponent (totalExponent m e) - e).toNat = 0 := by
    rw [target_exponent_eq]
    unfold targetOf
    omega
  unfold UnpackedFloat.shiftToTargetExponent UnpackedFloat.shiftToExponent
  dsimp only
  rw [hshift, Int.natCast_zero, Int.add_zero]
  rfl

/-- A significand that has become too large by one bit loses its last bit, which is zero. -/
theorem shift_of_carry {e : Int} (he : -1074 ≤ e) :
    UnpackedFloat.shiftToTargetExponent .binary64 (2 ^ 53) e .exact =
      (⟨2 ^ 52, false, false⟩, e + 1) := by
  have hshift : (Format.binary64.targetExponent (totalExponent (2 ^ 53) e) - e).toNat = 1 := by
    rw [target_exponent_eq]
    unfold targetOf
    rw [Nat.log2_two_pow]
    omega
  unfold UnpackedFloat.shiftToTargetExponent UnpackedFloat.shiftToExponent
  dsimp only
  rw [hshift]
  rfl

/-- The parts with a rounded significand. -/
theorem round_with_accuracy_eq (s : UnpackedFloat.Sign) {m : Nat} {e : Int}
    {r : UnpackedFloat.ExtendedMantissa} {t : Int}
    (hfirst : UnpackedFloat.shiftToTargetExponent .binary64 m e .exact = (r, t))
    (hr : r.roundedMantissa ≤ 2 ^ 53) (ht : -1074 ≤ t) (ht' : t ≤ 970)
    (hfull : 2 ^ 52 ≤ r.roundedMantissa ∨ t = -1074) :
    HasValue (UnpackedFloat.roundWithAccuracy .binary64 s m e .exact) ∧
      partsValue (UnpackedFloat.roundWithAccuracy .binary64 s m e .exact) =
        s.apply r.roundedMantissa * 2 ^ t := by
  rw [UnpackedFloat.roundWithAccuracy, hfirst]
  dsimp only
  generalize r.roundedMantissa = n at *
  rcases Nat.lt_or_eq_of_le hr with hlt | rfl
  · rw [shift_of_fits hlt ht]
    dsimp only
    split
    · next hzero =>
        refine ⟨.zero s, ?_⟩
        rw [hzero]
        show (0 : Rat) = _
        cases s <;> simp [UnpackedFloat.Sign.apply]
    · exact ⟨.finite _ _ ⟨hlt, ht, by omega, hfull⟩, rfl⟩
  · rw [shift_of_carry ht]
    have hbelow : 2 ^ 52 < 2 ^ 53 := Nat.pow_lt_pow_right (by decide) (by decide)
    refine ⟨.finite _ _ ⟨hbelow, by omega, by omega, .inl le_rfl⟩, ?_⟩
    have hvalue : (2 : Rat) ^ (t + 1) = 2 ^ t * 2 := zpow_add_one₀ two_ne_zero t
    show (s.apply (2 ^ 52 : Nat) : Rat) * 2 ^ (t + 1) = s.apply (2 ^ 53 : Nat) * 2 ^ t
    rw [hvalue]
    cases s <;> simp only [UnpackedFloat.Sign.apply] <;> push_cast <;> ring

section Target

variable {m : Nat} {e : Int} {k : Nat}

theorem first_shift (hk : e + k = targetOf m e) :
    UnpackedFloat.shiftToTargetExponent .binary64 m e .exact =
      ((⟨m, false, false⟩ : UnpackedFloat.ExtendedMantissa) >>> k, targetOf m e) := by
  unfold UnpackedFloat.shiftToTargetExponent UnpackedFloat.shiftToExponent
  dsimp only
  rw [target_exponent_eq, ← hk, show (e + (k : Int) - e).toNat = k by omega]
  rfl

theorem quotient_lt (hk : e + k = targetOf m e) : m / 2 ^ k < 2 ^ 53 := by
  unfold targetOf at hk
  rw [Nat.div_lt_iff_lt_mul (Nat.two_pow_pos k), ← Nat.pow_add]
  refine Nat.lt_log2_self.trans_le (Nat.pow_le_pow_right (by decide) ?_)
  omega

/-- Above the exponent of the smallest numbers all 53 bits are used. -/
theorem quotient_full (hm : 0 < m) (hk : e + k = targetOf m e) :
    2 ^ 52 ≤ m / 2 ^ k ∨ targetOf m e = -1074 := by
  by_cases hleast : targetOf m e = -1074
  · exact .inr hleast
  · unfold targetOf at hk hleast
    refine .inl ?_
    rw [Nat.le_div_iff_mul_le (Nat.two_pow_pos k), ← Nat.pow_add]
    refine le_trans (Nat.pow_le_pow_right (by decide) ?_) (Nat.log2_self_le hm.ne')
    omega

/-- A nearest significand is at most half a unit of the last place away. -/
theorem rounded_near {r : Nat} (hr : 2 * (r * 2 ^ k) ≤ 2 * m + 2 ^ k ∧
    2 * m ≤ 2 * (r * 2 ^ k) + 2 ^ k) :
    |(r : Rat) * 2 ^ (e + k) - m * 2 ^ e| ≤ 2 ^ (e + k) / 2 := by
  have habove : 2 * ((r : Rat) * 2 ^ k) ≤ 2 * m + 2 ^ k := by exact_mod_cast hr.1
  have hbelow : 2 * (m : Rat) ≤ 2 * (r * 2 ^ k) + 2 ^ k := by exact_mod_cast hr.2
  have hpos : (0 : Rat) < 2 ^ e := zpow_pos two_pos e
  have hfactor : (r : Rat) * 2 ^ (e + k) - m * 2 ^ e = (r * 2 ^ k - m) * 2 ^ e := by
    rw [zpow_add₀ two_ne_zero, zpow_natCast]
    ring
  have hunit : (2 : Rat) ^ (e + k) / 2 = 2 ^ k / 2 * 2 ^ e := by
    rw [zpow_add₀ two_ne_zero, zpow_natCast]
    ring
  have hbound : |(r : Rat) * 2 ^ k - m| ≤ 2 ^ k / 2 := by
    rw [abs_le]
    constructor <;> linarith
  rw [hfactor, hunit, abs_mul, abs_of_pos hpos]
  exact mul_le_mul_of_nonneg_right hbound hpos.le

/-- A number is rounded to a nearest one among those with its exponent. -/
theorem round_with_accuracy_nearest (s : UnpackedFloat.Sign) (hm : 0 < m)
    (hk : e + k = targetOf m e) (hlarge : targetOf m e ≤ 970) :
    HasValue (UnpackedFloat.roundWithAccuracy .binary64 s m e .exact) ∧
      ∃ r : Nat, partsValue (UnpackedFloat.roundWithAccuracy .binary64 s m e .exact) =
          s.apply r * 2 ^ targetOf m e ∧
        |(s.apply r : Rat) * 2 ^ targetOf m e - s.apply m * 2 ^ e| ≤ 2 ^ targetOf m e / 2 := by
  have hfirst := first_shift hk
  have hmantissa : ((⟨m, false, false⟩ : UnpackedFloat.ExtendedMantissa) >>> k).mantissa =
      m / 2 ^ k := shift_right_mantissa k _
  have hnearest := rounded_mantissa_near m k
  generalize (⟨m, false, false⟩ : UnpackedFloat.ExtendedMantissa) >>> k = r at *
  have hbounds := rounded_mantissa_bounds r
  rw [hmantissa] at hbounds
  have hlt := quotient_lt hk
  have hleast : -1074 ≤ targetOf m e := le_max_right _ _
  obtain ⟨hvalue, heq⟩ := round_with_accuracy_eq s hfirst (by omega) hleast hlarge
    ((quotient_full hm hk).imp_left fun hfull => hfull.trans hbounds.1)
  have hnear := rounded_near (e := e) hnearest
  refine ⟨hvalue, r.roundedMantissa, heq, ?_⟩
  rw [← hk]
  cases s with
  | positive => exact hnear
  | negative =>
      have hneg : (UnpackedFloat.Sign.negative.apply r.roundedMantissa : Rat) * 2 ^ (e + k) -
          UnpackedFloat.Sign.negative.apply m * 2 ^ e =
            -((r.roundedMantissa : Rat) * 2 ^ (e + k) - m * 2 ^ e) := by
        simp only [UnpackedFloat.Sign.apply]
        push_cast
        ring
      rw [hneg, abs_neg]
      exact hnear

end Target

end ComponentMigration.Number
