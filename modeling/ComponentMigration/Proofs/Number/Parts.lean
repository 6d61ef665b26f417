import Mathlib
import ComponentMigration.Proofs.Number.Binary64

/-!
# Floating-point numbers in parts

A floating-point number comes in parts: a sign, a significand and an exponent, unless it is zero,
infinite or not-a-number.  Packing a number and taking it apart again gives the same parts as long
as they are those of a number (`HasValue.unpack_pack`), and the fraction that is told of a number is
the exact value of its parts (`fraction_of_cases`).
-/

namespace ComponentMigration.Number

open Float.Model

/-- The exact value of a number in parts; the infinities and not-a-number count as zero. -/
def partsValue : UnpackedFloat → Rat
  | .finite s m e _ => s.apply m * 2 ^ e
  | _ => 0

/-- A significand and an exponent as a number has them: all 53 bits are used, unless the exponent is
that of the smallest numbers. -/
structure IsCanonical (m : Nat) (e : Int) : Prop where
  below : m < 2 ^ 53
  least : -1074 ≤ e
  greatest : e ≤ 971
  full : 2 ^ 52 ≤ m ∨ e = -1074

/-- The parts of a number that is neither infinite nor not-a-number. -/
inductive HasValue : UnpackedFloat → Prop
  | zero (s : UnpackedFloat.Sign) : HasValue (.zero s)
  | finite (s : UnpackedFloat.Sign) {m : Nat} {e : Int} (hm : 0 < m) (h : IsCanonical m e) :
      HasValue (.finite s m e hm)

/-- Only numbers that are written without a sign are above zero. -/
theorem positive_of_pos {s : UnpackedFloat.Sign} {m : Nat} {e : Int} {hm : 0 < m}
    (h : 0 < partsValue (.finite s m e hm)) :
    s = .positive ∧ partsValue (.finite s m e hm) = m * 2 ^ e := by
  cases s with
  | positive => exact ⟨rfl, rfl⟩
  | negative =>
      have hvalue : partsValue (.finite .negative m e hm) = -(m : Rat) * 2 ^ e := by
        rw [partsValue, UnpackedFloat.Sign.apply, Int.cast_neg, Int.cast_natCast]
      have hneg : -(m : Rat) * 2 ^ e ≤ 0 :=
        mul_nonpos_of_nonpos_of_nonneg (by simp) (zpow_pos two_pos e).le
      exact absurd h (hvalue ▸ hneg).not_gt

/-!
## Bits and parts
-/

section Bits

variable {b : BitVec Format.binary64.numBits}

theorem exponent_to_nat :
    (UnpackedFloat.unpackExponent b).toNat = b.toNat / 2 ^ 52 % 2 ^ 11 := by
  rw [UnpackedFloat.unpackExponent_def, BitVec.extractLsb'_toNat, Nat.shiftRight_eq_div_pow]

theorem significand_to_nat : (UnpackedFloat.unpackMantissa b).toNat = b.toNat % 2 ^ 52 := by
  rw [UnpackedFloat.unpackMantissa_def, BitVec.extractLsb'_toNat]
  rfl

theorem sign_to_nat : (UnpackedFloat.unpackSign b).toNat = b.toNat / 2 ^ 63 := by
  have hlt : b.toNat < 2 ^ 64 := b.isLt
  rw [UnpackedFloat.unpackSign_def, BitVec.extractLsb'_toNat, Nat.shiftRight_eq_div_pow]
  show b.toNat / 2 ^ 63 % 2 = b.toNat / 2 ^ 63
  omega

theorem first_bit_append (significand : BitVec 52) :
    (1#1 ++ significand).toNat = 2 ^ 52 + significand.toNat := by
  rw [BitVec.toNat_append, ← Nat.shiftLeft_add_eq_or_of_lt significand.isLt]
  rfl

/-- The sign of a number that is negative or not. -/
def signOf (negative : Bool) : UnpackedFloat.Sign := if negative then .negative else .positive

theorem sign_eq {bits : Nat} (h : b.toNat = bits) :
    UnpackedFloat.Sign.ofBitVec (UnpackedFloat.unpackSign b) = signOf (bits / 2 ^ 63 == 1) := by
  have hlt : b.toNat < 2 ^ 64 := b.isLt
  have hnone : UnpackedFloat.unpackSign b = 0#1 ↔ ¬bits / 2 ^ 63 = 1 := by
    rw [← BitVec.toNat_inj, sign_to_nat, h]
    show bits / 2 ^ 63 = 0 ↔ _
    omega
  rw [UnpackedFloat.Sign.ofBitVec, signOf]
  simp only [hnone, ite_not, beq_iff_eq]

/-- The parts of a number by its bits. -/
theorem unpack_eq {bits : Nat} (h : b.toNat = bits) :
    UnpackedFloat.unpack .binary64 b =
      if bits / 2 ^ 52 % 2 ^ 11 = 2047 then
        if bits % 2 ^ 52 = 0 then .infinity (signOf (bits / 2 ^ 63 == 1)) else .notANumber
      else if bits / 2 ^ 52 % 2 ^ 11 = 0 then
        if h : bits % 2 ^ 52 = 0 then .zero (signOf (bits / 2 ^ 63 == 1))
        else .finite (signOf (bits / 2 ^ 63 == 1)) (bits % 2 ^ 52) (-1074) (Nat.pos_of_ne_zero h)
      else
        .finite (signOf (bits / 2 ^ 63 == 1)) (2 ^ 52 + bits % 2 ^ 52)
          ((bits / 2 ^ 52 % 2 ^ 11 : Nat) - 1075) (by omega) := by
  have hexponent : ∀ n < 2 ^ 11, UnpackedFloat.unpackExponent b = BitVec.ofNat 11 n ↔
      bits / 2 ^ 52 % 2 ^ 11 = n := by
    intro n hn
    rw [← BitVec.toNat_inj, exponent_to_nat, h, BitVec.toNat_ofNat, Nat.mod_eq_of_lt hn]
  have hones : UnpackedFloat.unpackExponent b = -1#11 ↔ bits / 2 ^ 52 % 2 ^ 11 = 2047 :=
    hexponent 2047 (by decide)
  have hzero := hexponent 0 (by decide)
  have hsignificand : UnpackedFloat.unpackMantissa b = 0#52 ↔ bits % 2 ^ 52 = 0 := by
    rw [← BitVec.toNat_inj, significand_to_nat, h]
    rfl
  unfold UnpackedFloat.unpack
  simp only [sign_eq h, hsignificand, first_bit_append, exponent_to_nat, significand_to_nat, h]
  by_cases h2047 : bits / 2 ^ 52 % 2 ^ 11 = 2047
  · rw [if_pos (hones.mpr h2047), if_pos h2047]
  · rw [if_neg (mt hones.mp h2047), if_neg h2047]
    by_cases h0 : bits / 2 ^ 52 % 2 ^ 11 = 0
    · rw [if_pos (hzero.mpr h0), if_pos h0]
      simp only [h0]
      rfl
    · rw [if_neg (mt hzero.mp h0), if_neg h0]
      rfl

end Bits

section Packing

/-- The parts that a biased exponent and the other bits of a significand tell. -/
theorem unpack_components (s : UnpackedFloat.Sign) {n m : Nat} (hn : n < 2047) (hm : m < 2 ^ 52)
    (hpos : 0 < n ∨ 0 < m) :
    UnpackedFloat.unpack .binary64 (UnpackedFloat.packComponents .binary64 s (BitVec.ofNat 11 n)
        (BitVec.ofNat 52 m)) =
      if h : 0 < n then .finite s (2 ^ 52 + m) (n - 1075) (by omega)
      else .finite s m (-1074) (by omega) := by
  have hexponent : (BitVec.ofNat 11 n).toNat = n := Nat.mod_eq_of_lt (by omega)
  have hsignificand : (BitVec.ofNat 52 m).toNat = m := Nat.mod_eq_of_lt hm
  have hones : BitVec.ofNat 11 n ≠ -1#11 := by
    rw [ne_eq, ← BitVec.toNat_inj, hexponent]
    exact Nat.ne_of_lt hn
  have hzero : BitVec.ofNat 11 n = 0#11 ↔ n = 0 := by
    rw [← BitVec.toNat_inj, hexponent]
    rfl
  have hnone : BitVec.ofNat 52 m = 0#52 ↔ m = 0 := by
    rw [← BitVec.toNat_inj, hsignificand]
    rfl
  unfold UnpackedFloat.unpack
  simp only [UnpackedFloat.unpackExponent_packComponents,
    UnpackedFloat.unpackMantissa_packComponents, UnpackedFloat.unpackSign_packComponents,
    UnpackedFloat.Sign.ofBitVec_toBitVec, hones, if_false, hzero, hnone, first_bit_append,
    hexponent, hsignificand]
  rcases Nat.eq_zero_or_pos n with rfl | hpositive
  · rw [if_pos rfl, dif_neg (by omega), dif_neg (by omega)]
    rfl
  · rw [if_neg (by omega), dif_pos hpositive]
    rfl

/-- Packing a number keeps its parts. -/
theorem HasValue.unpack_pack {u : UnpackedFloat} (h : HasValue u) : (pack u).unpack = u := by
  cases h with
  | zero s => cases s <;> rfl
  | @finite s m e hm h =>
    have hbelow := h.below
    have hleast := h.least
    have hgreatest := h.greatest
    have hdef : (pack (.finite s m e hm)).unpack = UnpackedFloat.unpack .binary64
        (if 2 ^ 11 ≤ (e + 1023 + 52).toNat + 1 then UnpackedFloat.packedInfinity .binary64 s
        else if m.log2 + 1 = 53 then UnpackedFloat.packComponents .binary64 s
          (BitVec.ofNat 11 (e + 1023 + 52).toNat) (BitVec.ofNat 52 m)
        else UnpackedFloat.packComponents .binary64 s (BitVec.ofNat 11 0) (BitVec.ofNat 52 m)) :=
      rfl
    have hlog : m.log2 + 1 = 53 ↔ 2 ^ 52 ≤ m := by
      rw [← Nat.le_log2 (by omega)]
      have := (Nat.log2_lt (by omega)).mpr hbelow
      omega
    rw [hdef, if_neg (by omega)]
    by_cases hfull : 2 ^ 52 ≤ m
    · have hsignificand : BitVec.ofNat 52 m = BitVec.ofNat 52 (m - 2 ^ 52) := by
        rw [← BitVec.toNat_inj, BitVec.toNat_ofNat, BitVec.toNat_ofNat]
        omega
      rw [if_pos (hlog.mpr hfull), hsignificand,
        unpack_components s (by omega) (by omega) (.inl (by omega)), dif_pos (by omega),
        UnpackedFloat.finite.injEq]
      exact ⟨rfl, by omega, by omega⟩
    · rw [if_neg (by omega), unpack_components s (by decide) (by omega) (.inr hm),
        dif_neg (by decide), UnpackedFloat.finite.injEq]
      exact ⟨rfl, rfl, (h.full.resolve_left hfull).symm⟩

theorem unpack_pack_infinity (s : UnpackedFloat.Sign) :
    (pack (.infinity s)).unpack = .infinity s := by
  cases s <;> rfl

end Packing

/-!
## Fractions and parts
-/

/-- The fraction with a significand and a biased exponent. -/
def fractionAt (negative : Bool) (m n : Nat) : Fraction :=
  if n ≥ 1075 then ⟨negative, m * twoTo (n - 1075), 1⟩ else ⟨negative, m, twoTo (1075 - n)⟩

/-- The exact value of a fraction with a sign. -/
def Fraction.value (f : Fraction) : Rat :=
  mkRat (if f.negative then -(f.num : Int) else f.num) f.den

theorem rat_of_eq_value {x : Float} {f : Fraction} (h : fractionOf x = some f) :
    ratOf x = f.value := by
  rw [ratOf, h]
  rfl

theorem fraction_at_value (negative : Bool) (m n : Nat) :
    (fractionAt negative m n).value = (signOf negative).apply m * 2 ^ ((n : Int) - 1075) := by
  have hsign : (if negative then -(m : Int) else m) = (signOf negative).apply m := by
    cases negative <;> rfl
  unfold fractionAt
  split
  · next hle =>
      have hexponent : (n : Int) - 1075 = (n - 1075 : Nat) := by omega
      have hscaled : (if negative then -((m * twoTo (n - 1075) : Nat) : Int)
          else ((m * twoTo (n - 1075) : Nat) : Int)) =
            (if negative then -(m : Int) else m) * 2 ^ (n - 1075) := by
        rw [two_to_eq, Nat.cast_mul, Nat.cast_pow, Nat.cast_ofNat]
        cases negative with
        | true => exact (Int.neg_mul _ _).symm
        | false => rfl
      rw [Fraction.value, hscaled, hsign, hexponent, zpow_natCast, Rat.mkRat_one]
      push_cast
      rfl
  · next hlt =>
      have hexponent : (n : Int) - 1075 = -((1075 - n : Nat) : Int) := by omega
      rw [Fraction.value, hsign, hexponent, zpow_neg, zpow_natCast, Rat.mkRat_eq_div, two_to_eq,
        ← div_eq_mul_inv]
      push_cast
      rfl

theorem fraction_of_eq (x : Float) {bits : Nat} (h : x.toModel.toBits.toBitVec.toNat = bits) :
    fractionOf x =
      if bits / 2 ^ 52 % 2 ^ 11 = 2047 then none
      else if bits / 2 ^ 52 % 2 ^ 11 = 0 then
        some (fractionAt (bits / 2 ^ 63 == 1) (bits % 2 ^ 52) 1)
      else some (fractionAt (bits / 2 ^ 63 == 1) (2 ^ 52 + bits % 2 ^ 52)
        (bits / 2 ^ 52 % 2 ^ 11)) := by
  have hbits : x.toBits.toNat = bits := h
  unfold fractionOf fractionAt
  simp only [hbits, two_to_eq, beq_iff_eq, Nat.add_comm]
  split
  · rfl
  · split <;> split <;> rfl

theorem fraction_of_cases (x : Float) :
    (∃ f, fractionOf x = some f ∧ HasValue x.toModel.unpack ∧
        f.value = partsValue x.toModel.unpack) ∨
      fractionOf x = none ∧
        (x.toModel.unpack = .notANumber ∨ ∃ s, x.toModel.unpack = .infinity s) := by
  obtain ⟨bits, hbits⟩ : ∃ bits, x.toModel.toBits.toBitVec.toNat = bits := ⟨_, rfl⟩
  have hunpack : x.toModel.unpack = _ := unpack_eq hbits
  rw [fraction_of_eq x hbits, hunpack]
  by_cases h2047 : bits / 2 ^ 52 % 2 ^ 11 = 2047
  · simp only [if_pos h2047]
    refine .inr ⟨trivial, ?_⟩
    split
    · exact .inr ⟨_, rfl⟩
    · exact .inl rfl
  · simp only [if_neg h2047]
    refine .inl ?_
    by_cases h0 : bits / 2 ^ 52 % 2 ^ 11 = 0
    · simp only [if_pos h0]
      refine ⟨_, rfl, ?_, ?_⟩
      · split
        · exact .zero _
        · exact .finite _ _ ⟨by omega, le_rfl, by decide, .inr rfl⟩
      · rw [fraction_at_value]
        split
        · next hm =>
            rw [hm]
            show _ = (0 : Rat)
            cases signOf _ <;> simp [UnpackedFloat.Sign.apply]
        · rfl
    · simp only [if_neg h0]
      refine ⟨_, rfl, .finite _ _ ⟨by omega, by omega, by omega, .inl (by omega)⟩, ?_⟩
      rw [fraction_at_value]
      rfl

section Floats

variable {x : Float}

/-- A number that is neither infinite nor not-a-number. -/
def IsFinite (x : Float) : Prop := HasValue x.toModel.unpack

theorem IsFinite.rat_of (h : IsFinite x) : ratOf x = partsValue x.toModel.unpack := by
  rcases fraction_of_cases x with ⟨f, hf, -, hvalue⟩ | ⟨-, hnone | ⟨s, hinfinite⟩⟩
  · rw [rat_of_eq_value hf, hvalue]
  · unfold IsFinite at h
    rw [hnone] at h
    cases h
  · unfold IsFinite at h
    rw [hinfinite] at h
    cases h

theorem HasValue.of_unpack {u : UnpackedFloat} (h : HasValue u) (hx : x.toModel = pack u) :
    IsFinite x ∧ ratOf x = partsValue u := by
  have hunpack : x.toModel.unpack = u := by rw [hx, h.unpack_pack]
  have hfinite : IsFinite x := by
    unfold IsFinite
    rw [hunpack]
    exact h
  exact ⟨hfinite, by rw [hfinite.rat_of, hunpack]⟩

theorem IsFinite.is_nan (h : IsFinite x) : x.isNaN = false := by
  show x.toModel.unpack.isNaN = false
  unfold IsFinite at h
  generalize x.toModel.unpack = u at h
  cases h <;> rfl

theorem finite_of_zero {s : UnpackedFloat.Sign} (h : x.toModel.unpack = .zero s) :
    IsFinite x ∧ ratOf x = 0 := by
  have hfinite : IsFinite x := by
    rw [IsFinite, h]
    exact .zero s
  exact ⟨hfinite, by rw [hfinite.rat_of, h]; rfl⟩

/-- The positive infinity. -/
def IsInfinite (x : Float) : Prop := x.toModel.unpack = .infinity .positive

end Floats

end ComponentMigration.Number
