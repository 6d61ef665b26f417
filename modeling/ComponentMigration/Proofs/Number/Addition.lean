import ComponentMigration.Number.Arithmetic
import ComponentMigration.Proofs.Number.Rounding
import ComponentMigration.Proofs.Number.Significand

/-!
# Sums of floating-point numbers

A sum is first made exactly, and its significand is then rounded to 53 bits, so that a sum which is
not large is missed by little (`IsFinite.add_near`); the same goes for differences.  Infinity stays
what it is whatever is added that is not negative (`IsInfinite.add`).
-/

namespace ComponentMigration.Number

open Float.Model

/-- By how much rounding may miss a sum that is not large. -/
def slack : Rat := 2 ^ (-51 : Int)

theorem slack_pos : 0 < slack := zpow_pos two_pos _

theorem slack_le : slack ≤ 1 / 10 ^ 7 := by
  norm_num [slack]

section Rounding

theorem log_shift_left {m : Nat} (hm : 0 < m) (k : Nat) : (m * 2 ^ k).log2 = m.log2 + k := by
  rw [Nat.log2_eq_iff (Nat.mul_pos hm (Nat.two_pow_pos k)).ne']
  have hle := Nat.log2_self_le hm.ne'
  have hlt : m < 2 ^ (m.log2 + 1) := Nat.lt_log2_self
  constructor
  · rw [Nat.pow_add]
    exact Nat.mul_le_mul_right _ hle
  · rw [show m.log2 + k + 1 = m.log2 + 1 + k by omega, Nat.pow_add]
    exact Nat.mul_lt_mul_of_pos_right hlt (Nat.two_pow_pos k)

/-- Moving the bits of a significand keeps the exponent that it is rounded at. -/
theorem target_of_shift {m : Nat} (hm : 0 < m) (e : Int) (k : Nat) :
    targetOf (m * 2 ^ k) (e - k) = targetOf m e := by
  rw [targetOf, targetOf, log_shift_left hm]
  omega

theorem value_of_shift (m k : Nat) (e : Int) :
    ((m * 2 ^ k : Nat) : Rat) * 2 ^ (e - k) = m * 2 ^ e := by
  push_cast
  rw [mul_assoc, ← zpow_natCast, ← zpow_add₀ two_ne_zero, show (k : Int) + (e - k) = e by omega]

theorem apply_value_of_shift (s : UnpackedFloat.Sign) (m k : Nat) (e : Int) :
    (s.apply (m * 2 ^ k : Nat) : Rat) * 2 ^ (e - k) = s.apply m * 2 ^ e := by
  cases s with
  | positive => exact value_of_shift m k e
  | negative =>
      simp only [UnpackedFloat.Sign.apply, Int.cast_neg, Int.cast_natCast, neg_mul]
      rw [value_of_shift]

section Target

variable {m : Nat} {e : Int} {k : Nat}

theorem round_with_accuracy_near (s : UnpackedFloat.Sign) (hm : 0 < m)
    (hk : e + k = targetOf m e) (hsmall : targetOf m e ≤ -51) :
    HasValue (UnpackedFloat.roundWithAccuracy .binary64 s m e .exact) ∧
      |partsValue (UnpackedFloat.roundWithAccuracy .binary64 s m e .exact) - s.apply m * 2 ^ e| ≤
        slack := by
  obtain ⟨hvalue, r, heq, hnear⟩ := round_with_accuracy_nearest s hm hk (by omega)
  have hpos : (0 : Rat) < 2 ^ targetOf m e := zpow_pos two_pos _
  have hunit : (2 : Rat) ^ targetOf m e ≤ slack := (zpow_le_zpow_iff_right₀ one_lt_two).mpr hsmall
  refine ⟨hvalue, ?_⟩
  rw [heq]
  exact hnear.trans ((half_le_self hpos.le).trans hunit)

theorem target_of_le (hm : 0 < m) (hv : (m : Rat) * 2 ^ e ≤ 2) : targetOf m e ≤ -51 := by
  have hle : (2 : Rat) ^ m.log2 ≤ m := by exact_mod_cast Nat.log2_self_le hm.ne'
  have hpow : (2 : Rat) ^ ((m.log2 : Int) + e) ≤ 2 ^ (1 : Int) := by
    rw [zpow_add₀ two_ne_zero, zpow_natCast, zpow_one]
    exact (mul_le_mul_of_nonneg_right hle (zpow_pos two_pos e).le).trans hv
  have hlog := (zpow_le_zpow_iff_right₀ one_lt_two).mp hpow
  rw [targetOf]
  omega

theorem round_near (s : UnpackedFloat.Sign) (hm : 0 < m) (hv : (m : Rat) * 2 ^ e ≤ 2) :
    HasValue (UnpackedFloat.round .binary64 s m e) ∧
      |partsValue (UnpackedFloat.round .binary64 s m e) - s.apply m * 2 ^ e| ≤ slack := by
  -- The significand is first given enough bits, and then loses those after the target exponent.
  obtain ⟨up, hup⟩ : ∃ up : Nat, up = (e - targetOf m e).toNat := ⟨_, rfl⟩
  have hround : UnpackedFloat.round .binary64 s m e =
      UnpackedFloat.roundWithAccuracy .binary64 s (m * 2 ^ up) (e - up) .exact := by
    unfold UnpackedFloat.round UnpackedFloat.decreaseExponent
    dsimp only
    rw [target_exponent_eq, ← hup, Nat.shiftLeft_eq]
  have htarget := target_of_shift hm e up
  have hk : e - up + (targetOf m e - (e - up)).toNat = targetOf (m * 2 ^ up) (e - up) := by
    rw [htarget]
    omega
  have hnear := round_with_accuracy_near s (Nat.mul_pos hm (Nat.two_pow_pos up)) hk
    (htarget ▸ target_of_le hm hv)
  have hvalue := apply_value_of_shift s m up e
  rw [hround, ← hvalue]
  exact hnear

end Target

end Rounding

section Sums

variable {u v : UnpackedFloat}

theorem normalize_near {m e : Int} (hv : |(m : Rat) * 2 ^ e| ≤ 2) :
    HasValue (UnpackedFloat.normalize .binary64 m e .positive) ∧
      |partsValue (UnpackedFloat.normalize .binary64 m e .positive) - m * 2 ^ e| ≤ slack := by
  have hpos : (0 : Rat) < 2 ^ e := zpow_pos two_pos e
  rw [abs_mul, abs_of_pos hpos] at hv
  unfold UnpackedFloat.normalize
  rcases lt_trichotomy m 0 with hneg | rfl | hpositive
  · obtain ⟨n, rfl⟩ : ∃ n : Nat, m = -n := ⟨(-m).toNat, by omega⟩
    rw [Int.cast_neg, abs_neg, Int.cast_natCast, Nat.abs_cast] at hv
    rw [Int.compare_eq_lt.mpr hneg]
    dsimp only
    rw [Int.neg_neg, Int.toNat_natCast]
    exact round_near .negative (by omega) hv
  · refine ⟨.zero _, ?_⟩
    show |(0 : Rat) - (0 : Int) * 2 ^ e| ≤ _
    rw [Int.cast_zero, zero_mul, sub_zero, abs_zero]
    exact slack_pos.le
  · obtain ⟨n, rfl⟩ : ∃ n : Nat, m = n := ⟨m.toNat, by omega⟩
    rw [Int.cast_natCast, Nat.abs_cast] at hv
    rw [Int.compare_eq_gt.mpr hpositive]
    dsimp only
    rw [Int.toNat_natCast]
    exact round_near .positive (by omega) hv

theorem decrease_exponent_value (s : UnpackedFloat.Sign) (m : Nat) {e t : Int} (h : t ≤ e) :
    (s.apply (UnpackedFloat.decreaseExponent m e t).1 : Rat) * 2 ^ t = s.apply m * 2 ^ e := by
  obtain ⟨k, rfl⟩ : ∃ k : Nat, t = e - k := ⟨(e - t).toNat, by omega⟩
  show (s.apply (m <<< (e - (e - k)).toNat : Nat) : Rat) * 2 ^ (e - k) = _
  rw [show (e - (e - (k : Int))).toNat = k by omega, Nat.shiftLeft_eq]
  exact apply_value_of_shift s m k e

theorem HasValue.add_near (hu : HasValue u) (hv : HasValue v)
    (hle : |partsValue u + partsValue v| ≤ 2) :
    HasValue (UnpackedFloat.add .binary64 u v) ∧
      |partsValue (UnpackedFloat.add .binary64 u v) - (partsValue u + partsValue v)| ≤ slack := by
  have hexact : ∀ {q : Rat}, |q - q| ≤ slack := by
    intro q
    rw [sub_self, abs_zero]
    exact slack_pos.le
  cases hu with
  | zero s =>
      cases hv with
      | zero s' =>
          have hzero : |(0 : Rat) - (0 + 0)| ≤ slack := by
            rw [add_zero]
            exact hexact
          cases s <;> cases s' <;> exact ⟨.zero _, hzero⟩
      | finite s' hm h =>
          refine ⟨.finite s' hm h, ?_⟩
          show |_ - (0 + _)| ≤ _
          rw [zero_add]
          exact hexact
  | finite s hm h =>
      cases hv with
      | zero s' =>
          refine ⟨.finite s hm h, ?_⟩
          show |_ - (_ + 0)| ≤ _
          rw [add_zero]
          exact hexact
      | finite s' hm' h' =>
          rename_i m e m' e'
          have hsum : partsValue (.finite s m e hm) + partsValue (.finite s' m' e' hm') =
              ((s.apply (UnpackedFloat.decreaseExponent m e (min e e')).1 +
                s'.apply (UnpackedFloat.decreaseExponent m' e' (min e e')).1 : Int) : Rat) *
                  2 ^ min e e' := by
            rw [Int.cast_add, add_mul, decrease_exponent_value s m (min_le_left e e'),
              decrease_exponent_value s' m' (min_le_right e e')]
            rfl
          rw [hsum] at hle ⊢
          exact normalize_near hle

theorem apply_neg (s : UnpackedFloat.Sign) (n : Int) : (-s).apply n = -s.apply n := by
  cases s with
  | negative => exact (Int.neg_neg n).symm
  | positive => rfl

/-- Subtracting is adding the number with the other sign. -/
theorem parts_sub_eq (u v : UnpackedFloat) :
    UnpackedFloat.sub .binary64 u v = UnpackedFloat.add .binary64 u v.neg := by
  cases u with
  | finite s m e =>
      cases v with
      | finite s' m' e' =>
          show UnpackedFloat.normalize .binary64 (_ - _) _ _ =
            UnpackedFloat.normalize .binary64 (_ + (-s').apply _) _ _
          rw [apply_neg, Int.sub_eq_add_neg]
      | _ => rfl
  | _ => cases v <;> rfl

theorem HasValue.neg (h : HasValue u) : HasValue u.neg := by
  cases h with
  | zero s => exact .zero _
  | finite s hm h => exact .finite _ hm h

theorem parts_value_neg (u : UnpackedFloat) : partsValue u.neg = -partsValue u := by
  cases u with
  | finite s m e =>
      show ((-s).apply m : Rat) * 2 ^ e = -(s.apply m * 2 ^ e)
      rw [apply_neg, Int.cast_neg, neg_mul]
  | _ => exact neg_zero.symm

theorem HasValue.abs (h : HasValue u) : HasValue u.abs ∧ partsValue u.abs = |partsValue u| := by
  cases h with
  | zero s => exact ⟨.zero _, abs_zero.symm⟩
  | @finite s m e hm h =>
      refine ⟨.finite _ hm h, ?_⟩
      have hpos : (0 : Rat) < 2 ^ e := zpow_pos two_pos e
      show (m : Rat) * 2 ^ e = |(s.apply m : Rat) * 2 ^ e|
      rw [abs_mul, abs_of_pos hpos]
      cases s <;> simp [UnpackedFloat.Sign.apply]

theorem HasValue.infinity_add (h : HasValue u) (s : UnpackedFloat.Sign) :
    UnpackedFloat.add .binary64 (.infinity s) u = .infinity s := by
  cases h <;> rfl

theorem HasValue.add_infinity (h : HasValue u) (s : UnpackedFloat.Sign) :
    UnpackedFloat.add .binary64 u (.infinity s) = .infinity s := by
  cases h <;> rfl

end Sums

section Floats

variable {x y : Float}

/-- A sum that is not large is rounded by little. -/
theorem IsFinite.add_near (hx : IsFinite x) (hy : IsFinite y) (hle : |ratOf x + ratOf y| ≤ 2) :
    IsFinite (x + y) ∧ |ratOf (x + y) - (ratOf x + ratOf y)| ≤ slack := by
  rw [hx.rat_of, hy.rat_of] at hle ⊢
  obtain ⟨hvalue, hnear⟩ := HasValue.add_near hx hy hle
  obtain ⟨hfinite, heq⟩ := hvalue.of_unpack (x := x + y) rfl
  exact ⟨hfinite, by rwa [heq]⟩

theorem IsFinite.sub_near (hx : IsFinite x) (hy : IsFinite y) (hle : |ratOf x - ratOf y| ≤ 2) :
    IsFinite (x - y) ∧ |ratOf (x - y) - (ratOf x - ratOf y)| ≤ slack := by
  have hdifference : ratOf x - ratOf y = partsValue x.toModel.unpack +
      partsValue y.toModel.unpack.neg := by
    rw [hx.rat_of, hy.rat_of, parts_value_neg, sub_eq_add_neg]
  rw [hdifference] at hle ⊢
  obtain ⟨hvalue, hnear⟩ := HasValue.add_near hx (HasValue.neg hy) hle
  rw [← parts_sub_eq] at hvalue hnear
  obtain ⟨hfinite, heq⟩ := hvalue.of_unpack (x := x - y) rfl
  exact ⟨hfinite, by rwa [heq]⟩

theorem IsFinite.abs (hx : IsFinite x) : IsFinite x.abs ∧ ratOf x.abs = |ratOf x| := by
  obtain ⟨hvalue, habs⟩ := HasValue.abs hx
  obtain ⟨hfinite, heq⟩ := hvalue.of_unpack (x := x.abs) rfl
  exact ⟨hfinite, by rw [heq, habs, hx.rat_of]⟩

theorem lt_of_large (h : IsFinite x) (hle : 2 ^ (-19 : Int) ≤ ratOf x) : (1e-6 : Float) < x := by
  rw [h.rat_of] at hle
  have hsmall : (1e-6 : Float).toModel.unpack =
      .finite .positive 4722366482869645 (-72) (by decide) := rfl
  refine decide_eq_true ?_
  show (1e-6 : Float).toModel.unpack.lt x.toModel.unpack = true
  rw [hsmall]
  unfold IsFinite at h
  generalize x.toModel.unpack = u at h hle
  have hpos : (0 : Rat) < 2 ^ (-19 : Int) := zpow_pos two_pos _
  cases h with
  | zero s => exact absurd hle hpos.not_ge
  | @finite s m e hm h =>
      obtain ⟨rfl, hvalue⟩ := positive_of_pos (hpos.trans_le hle)
      have hbelow : (m : Rat) < 2 ^ 53 := by exact_mod_cast h.below
      have hlt : (2 : Rat) ^ (-19 : Int) < 2 ^ (53 + e) := by
        rw [zpow_add₀ two_ne_zero]
        rw [hvalue] at hle
        exact hle.trans_lt (mul_lt_mul_of_pos_right hbelow (zpow_pos two_pos e))
      have hexponent := (zpow_lt_zpow_iff_right₀ one_lt_two).mp hlt
      show (some ((compare (-72 : Int) e).then (compare 4722366482869645 m)) == some .lt) = true
      rw [Int.compare_eq_lt.mpr (by omega)]
      rfl

theorem one_value : IsFinite 1.0 ∧ ratOf 1.0 = 1 := by
  have hparts : (1.0 : Float).toModel.unpack =
      .finite .positive 4503599627370496 (-52) (by decide) := rfl
  refine ⟨?_, rfl⟩
  rw [IsFinite, hparts]
  exact .finite _ _ ⟨by decide, by decide, by decide, .inl (by decide)⟩

theorem unpack_add (x y : Float) :
    (x + y).toModel.unpack =
      (pack (UnpackedFloat.add .binary64 x.toModel.unpack y.toModel.unpack)).unpack := rfl

theorem unpack_sub (x y : Float) :
    (x - y).toModel.unpack =
      (pack (UnpackedFloat.sub .binary64 x.toModel.unpack y.toModel.unpack)).unpack := rfl

theorem IsInfinite.add (hx : IsInfinite x) (hy : IsFinite y ∨ IsInfinite y) :
    IsInfinite (x + y) := by
  have hsum : UnpackedFloat.add .binary64 (.infinity .positive) y.toModel.unpack =
      .infinity .positive := by
    rcases hy with hy | hy
    · exact HasValue.infinity_add hy _
    · rw [hy]
      rfl
  unfold IsInfinite
  rw [unpack_add, hx, hsum, unpack_pack_infinity]

theorem IsFinite.add_infinite (hx : IsFinite x) (hy : IsInfinite y) : IsInfinite (x + y) := by
  unfold IsInfinite
  rw [unpack_add, hy, HasValue.add_infinity hx, unpack_pack_infinity]

theorem IsInfinite.sub (hx : IsInfinite x) (hy : IsFinite y) : IsInfinite (x - y) := by
  rw [IsInfinite, unpack_sub, hx, parts_sub_eq, HasValue.infinity_add (HasValue.neg hy),
    unpack_pack_infinity]

theorem IsInfinite.abs (hx : IsInfinite x) : IsInfinite x.abs := by
  show (pack x.toModel.unpack.abs).unpack = _
  rw [hx]
  exact unpack_pack_infinity _

theorem lt_of_infinite (hx : IsInfinite x) : (1e-6 : Float) < x := by
  refine decide_eq_true ?_
  show (1e-6 : Float).toModel.unpack.lt x.toModel.unpack = true
  rw [hx]
  rfl

end Floats

end ComponentMigration.Number

namespace ComponentMigration.Quantity

open Number

/-- The exact value of a quantity; the infinities and not-a-number count as zero. -/
def exact (q : Quantity) : Rat := Id.run (Arithmetic.of q)

section Values

variable {q r : Quantity} {x y : Float} {n : Int}

theorem exact_of_int (h : q.int? = some n) : q.exact = n := by
  cases q with
  | whole k =>
      cases h
      rfl
  | truth b =>
      cases h
      cases b <;> rfl
  | real x => cases h

/-- A quantity stands for a floating-point number of the same value; of the integers only zero
does. -/
structure Stands (q : Quantity) (x : Float) : Prop where
  float : q.toFloat = .ok x
  finite : IsFinite x
  value : ratOf x = q.exact
  whole : ∀ n, q.int? = some n → n = 0

theorem stands_real (h : IsFinite x) : (Quantity.real x).Stands x := ⟨rfl, h, rfl, nofun⟩

theorem exists_stands (h : q.int? = some 0) : ∃ x, q.Stands x := by
  have hexact : q.exact = 0 := exact_of_int h
  have hwhole : ∀ n, q.int? = some n → n = 0 := fun n hn => Option.some.inj (hn.symm.trans h)
  obtain ⟨x, hx, hzero⟩ : ∃ x, q.toFloat = .ok x ∧ x.toModel.unpack = .zero .positive := by
    cases q with
    | whole k =>
        cases h
        exact ⟨Number.ofInt 0, rfl, rfl⟩
    | truth b =>
        cases b with
        | true => cases h
        | false => exact ⟨0.0, rfl, rfl⟩
    | real x => cases h
  obtain ⟨hfinite, hvalue⟩ := finite_of_zero hzero
  exact ⟨x, hx, hfinite, hvalue.trans hexact.symm, hwhole⟩

theorem Stands.add (hq : q.Stands x) (hr : r.Stands y) (hle : |q.exact + r.exact| ≤ 2) :
    ∃ s z, q.add r = .ok s ∧ s.Stands z ∧ |s.exact - (q.exact + r.exact)| ≤ slack := by
  by_cases hints : ∃ m n, q.int? = some m ∧ r.int? = some n
  · obtain ⟨m, n, hm, hn⟩ := hints
    obtain rfl := hq.whole m hm
    obtain rfl := hr.whole n hn
    obtain ⟨z, hz⟩ := exists_stands (q := .whole 0) rfl
    refine ⟨.whole 0, z, ?_, hz, ?_⟩
    · rw [Quantity.add, combine, hm, hn]
      rfl
    · rw [exact_of_int hm, exact_of_int hn]
      show |(0 : Rat) - (0 + 0)| ≤ _
      rw [add_zero, sub_zero, abs_zero]
      exact slack_pos.le
  · have hadd : q.add r = .ok (.real (x + y)) := by
      rw [Quantity.add, combine]
      split
      · next m n hm hn => exact absurd ⟨m, n, hm, hn⟩ hints
      · rw [hq.float, hr.float]
        rfl
    rw [← hq.value, ← hr.value] at hle ⊢
    obtain ⟨hfinite, hnear⟩ := hq.finite.add_near hr.finite hle
    exact ⟨.real (x + y), x + y, hadd, stands_real hfinite, hnear⟩

/-- What is not less than zero is an integer, a number with a value, or infinity. -/
theorem nonneg_cases (h : (0 : Quantity).isAtMost q = true) :
    (∃ n, q.int? = some n ∧ 0 ≤ n) ∨ (∃ x, q = .real x ∧ IsFinite x ∧ 0 ≤ ratOf x) ∨
      ∃ x, q = .real x ∧ IsInfinite x := by
  cases q with
  | whole k =>
      have hzero : (0 : Quantity).int? = some 0 := rfl
      exact .inl ⟨k, rfl, (is_at_most_whole_of_int hzero k).mp h⟩
  | truth b => exact .inl ⟨_, rfl, by cases b <;> decide⟩
  | real x =>
      refine .inr ?_
      have hcompare : (compareInt 0 x == some .lt || compareInt 0 x == some .eq) = true := h
      rcases fraction_of_cases x with ⟨f, hf, hfinite, -⟩ | ⟨hnone, hnan | ⟨s, hinfinite⟩⟩
      · refine .inl ⟨x, rfl, hfinite, ?_⟩
        rw [compareInt, IsFinite.is_nan hfinite, hf] at hcompare
        simp only [Bool.false_eq_true, if_false, Int.zero_mul] at hcompare
        rw [compare_at_most_iff] at hcompare
        rw [rat_of_eq_value hf, Fraction.value, Rat.mkRat_eq_div]
        exact div_nonneg (Int.cast_nonneg hcompare) (Nat.cast_nonneg _)
      · have hx : x.isNaN = true := by
          show x.toModel.unpack.isNaN = true
          rw [hnan]
          rfl
        rw [compareInt, hx] at hcompare
        cases hcompare
      · refine .inr ⟨x, rfl, ?_⟩
        cases s with
        | positive => exact hinfinite
        | negative =>
            have hx : x.isNaN = false := by
              show x.toModel.unpack.isNaN = false
              rw [hinfinite]
              rfl
            have hless : x < 0.0 := by
              refine decide_eq_true ?_
              show x.toModel.unpack.lt (0.0 : Float).toModel.unpack = true
              rw [hinfinite]
              rfl
            rw [compareInt, hx, hnone] at hcompare
            simp [hless] at hcompare

theorem exact_nonneg (h : (0 : Quantity).isAtMost q = true) : 0 ≤ q.exact := by
  rcases nonneg_cases h with ⟨n, hn, hnonneg⟩ | ⟨x, rfl, -, hnonneg⟩ | ⟨x, rfl, hinfinite⟩
  · rw [exact_of_int hn]
    exact Int.cast_nonneg hnonneg
  · exact hnonneg
  · rcases fraction_of_cases x with ⟨f, -, hfinite, -⟩ | ⟨hnone, -⟩
    · rw [hinfinite] at hfinite
      cases hfinite
    · show (0 : Rat) ≤ ratOf x
      rw [ratOf, hnone]

end Values

section Sums

variable {q : Quantity} {qs : List Quantity} {total : Quantity} {x y : Float}

theorem stands_or_infinite (h : (0 : Quantity).isAtMost q = true) (hlt : q.exact < 1) :
    (∃ x, q.Stands x) ∨ ∃ x, q = .real x ∧ IsInfinite x := by
  rcases nonneg_cases h with ⟨n, hn, hnonneg⟩ | ⟨x, rfl, hfinite, -⟩ | hinfinite
  · rw [exact_of_int hn] at hlt
    have hlt : n < 1 := by exact_mod_cast hlt
    obtain rfl : n = 0 := by omega
    exact .inl (exists_stands hn)
  · exact .inl ⟨x, stands_real hfinite⟩
  · exact .inr hinfinite

theorem add_infinite (hx : IsInfinite x)
    (hq : (∃ y, q.Stands y) ∨ ∃ y, q = .real y ∧ IsInfinite y) :
    ∃ z, (Quantity.real x).add q = .ok (.real z) ∧ IsInfinite z := by
  obtain ⟨y, hfloat, hy⟩ : ∃ y, q.toFloat = .ok y ∧ (IsFinite y ∨ IsInfinite y) := by
    rcases hq with ⟨y, hy⟩ | ⟨y, rfl, hy⟩
    · exact ⟨y, hy.float, .inl hy.finite⟩
    · exact ⟨y, rfl, .inr hy⟩
  refine ⟨x + y, ?_, hx.add hy⟩
  show (do return Quantity.real (x + (← q.toFloat)) : Usable Quantity) = _
  rw [hfloat]
  rfl

theorem Stands.add_infinite (hq : q.Stands x) (hy : IsInfinite y) :
    ∃ z, q.add (.real y) = .ok (.real z) ∧ IsInfinite z := by
  refine ⟨x + y, ?_, hq.finite.add_infinite hy⟩
  rw [Quantity.add, combine]
  split
  · next hn => cases hn
  · rw [hq.float]
    rfl

/-- Infinity stays what it is in a sum. -/
theorem sum_infinite (hx : IsInfinite x)
    (hqs : ∀ q ∈ qs, (∃ y, q.Stands y) ∨ ∃ y, q = .real y ∧ IsInfinite y)
    (hsum : qs.foldlM add (.real x) = .ok total) : ∃ z, total = .real z ∧ IsInfinite z := by
  induction qs generalizing x with
  | nil =>
      cases hsum
      exact ⟨x, rfl, hx⟩
  | cons q qs ih =>
      obtain ⟨hq, hqs⟩ := List.forall_mem_cons.mp hqs
      obtain ⟨z, hadd, hz⟩ := add_infinite hx hq
      rw [List.foldlM_cons, hadd] at hsum
      exact ih hz hqs hsum

theorem sum_exact_nonneg (hqs : ∀ q ∈ qs, (0 : Quantity).isAtMost q = true) :
    0 ≤ (qs.map exact).sum := by
  refine List.sum_nonneg fun e he => ?_
  obtain ⟨q, hq, rfl⟩ := List.mem_map.mp he
  exact exact_nonneg (hqs q hq)

theorem exact_le_sum (hqs : ∀ q ∈ qs, (0 : Quantity).isAtMost q = true) (hq : q ∈ qs) :
    q.exact ≤ (qs.map exact).sum := by
  refine List.single_le_sum (fun e he => ?_) _ (List.mem_map_of_mem hq)
  obtain ⟨q, hq, rfl⟩ := List.mem_map.mp he
  exact exact_nonneg (hqs q hq)

/-- One more addition misses the exact sum by at most one more unit of slack. -/
theorem Stands.add_step {start : Quantity} {e : Rat} {k : Nat} (hstart : start.Stands x)
    (hnear : |start.exact - e| ≤ k * slack) (hq : q.Stands y) (hk : k ≤ 8)
    (he : 0 ≤ e + q.exact) (hlt : e + q.exact < 1) :
    ∃ s z, start.add q = .ok s ∧ s.Stands z ∧
      |s.exact - (e + q.exact)| ≤ (k + 1 : Nat) * slack := by
  have hk : (k : Rat) ≤ 8 := by exact_mod_cast hk
  have hmissed : (k : Rat) * slack ≤ 8 * (1 / 10 ^ 7) :=
    mul_le_mul hk slack_le slack_pos.le (by norm_num)
  obtain ⟨hbelow, habove⟩ := abs_le.mp hnear
  obtain ⟨s, z, hadd, hz, hstep⟩ := hstart.add hq (abs_le.mpr ⟨by linarith, by linarith⟩)
  refine ⟨s, z, hadd, hz, ?_⟩
  calc |s.exact - (e + q.exact)|
      = |(s.exact - (start.exact + q.exact)) + (start.exact - e)| := by congr 1; ring
    _ ≤ |s.exact - (start.exact + q.exact)| + |start.exact - e| := abs_add_le _ _
    _ ≤ slack + k * slack := add_le_add hstep hnear
    _ = (k + 1 : Nat) * slack := by push_cast; ring

/-- A sum of few numbers that comes to less than one misses the exact sum by little, unless one of
the numbers is infinite. -/
theorem sum_near {start : Quantity} {e : Rat} {k : Nat} (hstart : start.Stands x)
    (hnear : |start.exact - e| ≤ k * slack) (he : 0 ≤ e)
    (hqs : ∀ q ∈ qs, (0 : Quantity).isAtMost q = true) (hlt : e + (qs.map exact).sum < 1)
    (hfew : k + qs.length ≤ 8) (hsum : qs.foldlM add start = .ok total) :
    (∃ z, total.Stands z ∧ |total.exact - (e + (qs.map exact).sum)| ≤ 8 * slack) ∨
      ∃ z, total = .real z ∧ IsInfinite z := by
  induction qs generalizing start x e k with
  | nil =>
      cases hsum
      refine .inl ⟨x, hstart, ?_⟩
      have hk : (k : Rat) ≤ 8 := by exact_mod_cast hfew
      rw [List.map_nil, List.sum_nil, add_zero]
      exact hnear.trans (mul_le_mul_of_nonneg_right hk slack_pos.le)
  | cons q qs ih =>
      obtain ⟨hq, hrest⟩ := List.forall_mem_cons.mp hqs
      have hq0 := exact_nonneg hq
      have hrest0 := sum_exact_nonneg hrest
      rw [List.map_cons, List.sum_cons] at hlt ⊢
      rw [List.length_cons] at hfew
      rw [List.foldlM_cons] at hsum
      rcases stands_or_infinite hq (by linarith) with ⟨y, hy⟩ | ⟨y, rfl, hy⟩
      · obtain ⟨next, z, hadd, hz, hnext⟩ :=
          hstart.add_step hnear hy (by omega) (by linarith) (by linarith)
        rw [hadd] at hsum
        rw [← add_assoc] at hlt ⊢
        exact ih hz hnext (by linarith) hrest hlt (by omega) hsum
      · obtain ⟨z, hadd, hz⟩ := hstart.add_infinite hy
        rw [hadd] at hsum
        refine .inr (sum_infinite hz (fun q hq => ?_) hsum)
        have hle := exact_le_sum hrest hq
        exact stands_or_infinite (hrest q hq) (by linarith)

end Sums

end ComponentMigration.Quantity
