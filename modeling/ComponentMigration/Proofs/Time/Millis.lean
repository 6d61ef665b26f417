import ComponentMigration.Proofs.Number.Product
import ComponentMigration.Time.Instant

/-!
# Milliseconds of instants

The milliseconds of an instant are counted by way of its seconds as a floating-point number, so that
both the seconds and their product with a thousand are rounded (`exists_counts`).  From 1970 on this
misses the milliseconds by one at most (`millis_near`), and it misses none that have ten binary
digits more than the seconds (`millis_eq`).
-/

namespace ComponentMigration.Instant

open Number

variable {n : Nat} {x y : Float} {e t : Int}

/-- The instants that there are from 1970 on. -/
theorem of_micros_ok {i : Instant} (h : ofMicros n = .ok i) :
    i = ⟨n⟩ ∧ n < 253402300800000000 := by
  have hlast : Calendar.dayNumber 10000 1 1 * 86400000000 = 253402300800000000 := by decide
  unfold ofMicros at h
  rw [hlast] at h
  split at h
  case isTrue hbounds =>
    simp only [Bool.and_eq_true, decide_eq_true_eq] at hbounds
    exact ⟨(Except.ok.inj h).symm, by omega⟩
  case isFalse => cases h

theorem thousand_value : IsFinite 1000.0 ∧ ratOf 1000.0 = 1000 := by
  have hparts : (1000.0 : Float).toModel.unpack =
      .finite .positive 8796093022208000 (-43) (by decide) := rfl
  refine ⟨?_, rfl⟩
  rw [IsFinite, hparts]
  exact .finite _ _ ⟨by decide, by decide, by decide, .inl (by decide)⟩

/-- How the milliseconds of an instant come about: its seconds are rounded, and so is their product
with a thousand, whose integer part they are. -/
structure Counts (n : Nat) (x y : Float) (e t : Int) : Prop where
  seconds : IsNearest x (n / 1000000) e
  product : IsNearest y (ratOf x * 1000) t
  millis : ((⟨n⟩ : Instant).millis : Int) = ⌊ratOf y⌋

theorem millis_of_nat (n : Nat) : (⟨n⟩ : Instant).millis =
    (truncInt (ofFraction ⟨false, n, 1000000⟩ * 1000.0)).toNat := by
  have hsign : decide ((n : Int) < 0) = false := decide_eq_false (by omega)
  show (truncInt (ofFraction ⟨decide ((n : Int) < 0), n, 1000000⟩ * 1000.0)).toNat = _
  rw [hsign]

theorem exists_counts (hpos : 0 < n) (hlt : n < 253402300800000000) :
    ∃ x y e t, Counts n x y e t := by
  have hone : (1 : Rat) ≤ n := by exact_mod_cast hpos
  have hlast : (n : Rat) < 253402300800000000 := by exact_mod_cast hlt
  have hleast : (2 : Rat) ^ (-1022 : Int) ≤ 1 / 1048576 :=
    (zpow_le_zpow_right₀ one_le_two (by decide : (-1022 : Int) ≤ -20)).trans_eq (by norm_num)
  have hgreatest : (1125899906842624 : Rat) ≤ 2 ^ (1023 : Int) :=
    (by norm_num : (1125899906842624 : Rat) = 2 ^ (50 : Int)).trans_le
      (zpow_le_zpow_right₀ one_le_two (by decide))
  have hden : ((1000000 : Nat) : Rat) = 1000000 := Nat.cast_ofNat
  obtain ⟨e, hseconds⟩ : ∃ e, IsNearest (ofFraction ⟨false, n, 1000000⟩) (n / 1000000) e := by
    rw [← hden]
    refine of_fraction_nearest hpos (by decide) (hleast.trans ?_) (lt_of_lt_of_le ?_ hgreatest) <;>
      rw [hden] <;> linarith
  obtain ⟨hlow, hhigh⟩ := hseconds.bounds
  obtain ⟨hthousand, hvalue⟩ := thousand_value
  obtain ⟨t, hproduct⟩ := hseconds.finite.mul_nearest hthousand (by linarith)
    (by rw [hvalue]; norm_num) (hleast.trans (by rw [hvalue]; linarith))
    (lt_of_lt_of_le (by rw [hvalue]; linarith) hgreatest)
  rw [hvalue] at hproduct
  have hnonneg : 0 ≤ ratOf (ofFraction ⟨false, n, 1000000⟩ * 1000.0) := by
    have hbounds := hproduct.bounds.1
    linarith
  refine ⟨_, _, e, t, hseconds, hproduct, ?_⟩
  rw [millis_of_nat, hproduct.finite.trunc_int hnonneg,
    Int.toNat_of_nonneg (Int.floor_nonneg.mpr hnonneg)]

theorem millis_zero : (⟨(0 : Nat)⟩ : Instant).millis = 0 := by decide +kernel

/-- The rounded product is off the exact milliseconds by what both roundings may miss. -/
theorem Counts.product_near {k l : Int} (h : Counts n x y e t)
    (hseconds : (n : Rat) / 1000000 < 2 ^ k) (hproduct : ratOf x * 1000 < 2 ^ l) :
    |ratOf y - n / 1000| ≤ 1000 * 2 ^ (k - 54) + 2 ^ (l - 54) := by
  obtain ⟨hlow, hhigh⟩ := abs_le.mp (h.seconds.near_of_lt hseconds)
  obtain ⟨hlow', hhigh'⟩ := abs_le.mp (h.product.near_of_lt hproduct)
  rw [abs_le]
  constructor <;> linarith

theorem Counts.millis_bounds (h : Counts n x y e t) :
    ((⟨n⟩ : Instant).millis : Rat) ≤ ratOf y ∧ ratOf y < (⟨n⟩ : Instant).millis + 1 := by
  obtain ⟨hle, hlt⟩ := Int.floor_eq_iff.mp h.millis.symm
  exact ⟨by exact_mod_cast hle, by exact_mod_cast hlt⟩

/-- The milliseconds of an instant from 1970 on are missed by one at most. -/
theorem millis_near (hlt : n < 253402300800000000) :
    (⟨n⟩ : Instant).millis ≤ n / 1000 + 1 ∧ n / 1000 ≤ (⟨n⟩ : Instant).millis + 1 := by
  rcases Nat.eq_zero_or_pos n with rfl | hpos
  · rw [millis_zero]
    decide
  · obtain ⟨x, y, e, t, h⟩ := exists_counts hpos hlt
    obtain ⟨hle, hlt'⟩ := h.millis_bounds
    have hlast : (n : Rat) < 253402300800000000 := by exact_mod_cast hlt
    have hseconds : (n : Rat) / 1000000 < 2 ^ (38 : Int) := by norm_num; linarith
    have hproduct : ratOf x * 1000 < 2 ^ (48 : Int) := by
      have hhigh := (abs_le.mp (h.seconds.near_of_lt hseconds)).2
      norm_num at hhigh ⊢
      linarith
    have hnear := h.product_near hseconds hproduct
    norm_num [abs_le] at hnear
    generalize (⟨n⟩ : Instant).millis = millis at *
    have hbelow : (1000 * millis : Rat) ≤ n + 999 := by linarith
    have habove : (n : Rat) < 1000 * millis + 1999 := by linarith
    have hbelow' : 1000 * millis ≤ n + 999 := by exact_mod_cast hbelow
    have habove' : n < 1000 * millis + 1999 := by exact_mod_cast habove
    omega

example : (⟨1001000⟩ : Instant).millis = 1000 := by decide

/-- If the milliseconds have ten binary digits more than the seconds, both roundings together miss
them by less than a unit of the product's last place. -/
theorem Counts.near_in_binade {k : Int} (h : Counts n x y e t) (hk : k ≤ 32)
    (hfirst : 2 ^ (k + 10) + 1 ≤ (n : Rat) / 1000) (hlast : (n : Rat) / 1000000 < 2 ^ (k + 1)) :
    t = k - 42 ∧ |ratOf y - n / 1000| ≤ 253 / 256 * 2 ^ (k - 42) := by
  -- All powers of two are told as multiples of half a unit of the seconds.
  obtain ⟨c, hc⟩ : ∃ c : Rat, c = 2 ^ (k - 53) := ⟨_, rfl⟩
  have hscale : ∀ (l : Nat) {j : Int}, j = k - 53 + l → (2 : Rat) ^ j = c * 2 ^ l := by
    rintro l _ rfl
    rw [zpow_add₀ two_ne_zero, zpow_natCast, hc]
  have hpos : 0 < c := hc ▸ zpow_pos two_pos _
  have hle : c ≤ 2 ^ (-21 : Int) := by
    rw [hc]
    exact zpow_le_zpow_right₀ one_le_two (by omega)
  norm_num at hle
  obtain ⟨hlow, hhigh⟩ := abs_le.mp (h.seconds.near_of_lt hlast)
  have hlast' := hlast
  rw [hscale 0 (by omega)] at hlow hhigh
  rw [hscale 63 (by omega)] at hfirst
  rw [hscale 54 (by omega)] at hlast'
  have hless : ratOf x * 1000 < 2 ^ (k + 11) := by
    rw [hscale 64 (by omega)]
    linarith
  have hmore : 2 ^ (k + 10) ≤ ratOf x * 1000 := by
    rw [hscale 63 (by omega)]
    linarith
  have hless' := h.product.lt_of_lt hless
  have hmore' := h.product.le_of_le hmore
  have hnear := h.product_near hlast hless
  rw [hscale 0 (by omega), hscale 10 (by omega)] at hnear
  refine ⟨by omega, ?_⟩
  rw [hscale 11 (by omega)]
  refine hnear.trans_eq ?_
  ring

/-- The milliseconds of an instant are exact if they have ten binary digits more than its seconds, up
to the year 2242.  With 31 digits of seconds these are the instants from November 2004 to January
2038. -/
theorem millis_eq {k : Nat} (hk : k ≤ 32) (hfirst : 2 ^ (k + 10) < n / 1000)
    (hlast : n / 1000000 < 2 ^ (k + 1)) : (⟨n⟩ : Instant).millis = n / 1000 := by
  have hpow : 2 ^ (k + 1) ≤ 2 ^ 33 := Nat.pow_le_pow_right (by decide) (by omega)
  have hpos := Nat.zero_lt_of_lt hfirst
  have hlow : ((2 ^ (k + 10) + 1 : Nat) * 1000 : Rat) ≤ n := by
    exact_mod_cast (by omega : (2 ^ (k + 10) + 1) * 1000 ≤ n)
  have hhigh : (n : Rat) < (2 ^ (k + 1) : Nat) * 1000000 := by
    exact_mod_cast (by omega : n < 2 ^ (k + 1) * 1000000)
  obtain ⟨x, y, e, t, h⟩ := exists_counts (n := n) (by omega) (by omega)
  obtain ⟨hle, hlt⟩ := h.millis_bounds
  obtain ⟨rfl, hnear⟩ := h.near_in_binade (k := k) (by omega)
    (by rw [le_div_iff₀ (by norm_num)]; exact_mod_cast hlow)
    (by rw [div_lt_iff₀ (by norm_num)]; exact_mod_cast hhigh)
  obtain ⟨hnear, hnear'⟩ := abs_le.mp hnear
  have hpos' : (0 : Rat) < 2 ^ ((k : Int) - 42) := zpow_pos two_pos _
  have hunit : (2 : Rat) ^ ((k : Int) - 42) ≤ 1 / 1024 :=
    (zpow_le_zpow_right₀ one_le_two (by omega : (k : Int) - 42 ≤ -10)).trans_eq (by norm_num)
  have hwhole : (1000 * (n / 1000 : Nat) : Rat) ≤ n := by exact_mod_cast Nat.mul_div_le n 1000
  -- The whole milliseconds are reached, and a product that is near by cannot reach the next ones.
  have hreached : ((n / 1000 : Nat) : Rat) ≤ ratOf y :=
    h.product.whole_le (by omega) (by linarith)
  have habove : ((n / 1000 : Nat) : Rat) < ((⟨n⟩ : Instant).millis + 1 : Nat) := by
    rw [Nat.cast_add_one]
    exact hreached.trans_lt hlt
  have hbelow : ((1000 * (⟨n⟩ : Instant).millis : Nat) : Rat) < (n + 1 : Nat) := by
    push_cast
    linarith
  have habove' := Nat.cast_lt.mp habove
  have hbelow' := Nat.cast_lt.mp hbelow
  omega

end ComponentMigration.Instant
