/-!
# Binary floating-point numbers

A floating-point number is told by an exact fraction, and a fraction is rounded to one.
-/

namespace ComponentMigration.Number

/-!
## Binary floating-point numbers as fractions

A finite number is a fraction whose denominator is a power of two.  `ofFraction` is the number
nearest to a fraction, and of two equally near ones the one with an even significand.
-/

/-- A power of two. -/
def twoTo (n : Nat) : Nat := Nat.pow 2 n

/-- A power of ten. -/
def tenTo (n : Nat) : Nat := Nat.pow 10 n

/-- A fraction with a sign; zero has a sign too. -/
structure Fraction where
  negative : Bool
  num : Nat
  den : Nat
  deriving DecidableEq, Repr

/-- The exact value of a finite number; nothing for infinities and not-a-number. -/
def fractionOf (x : Float) : Option Fraction :=
  let bits := x.toBits.toNat
  let negative := bits / twoTo 63 == 1
  let exponent := bits / twoTo 52 % twoTo 11
  let significand := bits % twoTo 52
  if exponent == 2047 then none
  else
    let (m, e) := if exponent == 0 then (significand, 1) else (significand + twoTo 52, exponent)
    if e ≥ 1075 then some ⟨negative, m * twoTo (e - 1075), 1⟩
    else some ⟨negative, m, twoTo (1075 - e)⟩

/-- The quotient rounded to the nearest integer, a half to the even neighbour. -/
def divRound (num den : Nat) : Nat :=
  let q := num / den
  let r := num % den
  if 2 * r < den then q
  else if den < 2 * r then q + 1
  else if q % 2 == 0 then q else q + 1

/-- Whether an exponent leaves at most 53 bits of significand for a quotient. -/
def fits (num den : Nat) (e : Int) : Bool :=
  if e ≥ 0 then num < den * twoTo (e.toNat + 53) else num * twoTo (-e).toNat < den * twoTo 53

/-- The least exponent that leaves at most 53 bits of significand for a quotient, but none below that
of the smallest number. -/
def leastExponent (num den : Nat) : Int :=
  let first := Int.ofNat (Nat.log2 num) - Int.ofNat (Nat.log2 den) - 53
  let e := if fits num den first then first else first + 1
  let e := if fits num den e then e else e + 1
  if e < -1074 then -1074 else e

/-- The significand of a quotient at an exponent, rounded. -/
def significandAt (num den : Nat) (e : Int) : Nat :=
  if e ≥ 0 then divRound num (den * twoTo e.toNat) else divRound (num * twoTo (-e).toNat) den

/-- The bits of the number with a significand and an exponent; numbers too large become infinite. -/
def bitsOf (m : Nat) (e : Int) : Nat :=
  let (m, e) := if m == twoTo 53 then (twoTo 52, e + 1) else (m, e)
  if m < twoTo 52 then m
  else
    let biased := (e + 1075).toNat
    if biased ≥ 2047 then 2047 * twoTo 52 else biased * twoTo 52 + (m - twoTo 52)

/-- The bits of the number nearest to `num / den`, for a positive denominator. -/
def nearestBits (num den : Nat) : Nat :=
  if num == 0 then 0
  else
    let e := leastExponent num den
    bitsOf (significandAt num den e) e

/-- The number nearest to a fraction. -/
def ofFraction (f : Fraction) : Float :=
  let bits := nearestBits f.num f.den
  Float.ofBits (UInt64.ofNat (if f.negative then bits + twoTo 63 else bits))

/-- The number nearest to an integer. -/
def ofInt (n : Int) : Float := ofFraction ⟨decide (n < 0), n.natAbs, 1⟩

/-- Whether an integer is beyond the finite numbers. -/
def isTooLarge (n : Int) : Bool := nearestBits n.natAbs 1 ≥ 2047 * twoTo 52

/-- The number nearest to `digits * 10 ^ exponent`.  Exponents are cut off where the result is
infinite or zero anyway. -/
def ofDecimal (negative : Bool) (digits : Nat) (exponent : Int) : Float :=
  let exponent := min 400 (max (-400 - Int.ofNat (Nat.log2 digits)) exponent)
  if exponent ≥ 0 then ofFraction ⟨negative, digits * tenTo exponent.toNat, 1⟩
  else ofFraction ⟨negative, digits, tenTo (-exponent).toNat⟩

/-- The greatest integer not above a finite number. -/
def floorInt (x : Float) : Int :=
  match fractionOf x with
  | some f => Int.fdiv (if f.negative then -(f.num : Int) else f.num) f.den
  | none => 0

/-- The least integer not below a finite number. -/
def ceilInt (x : Float) : Int :=
  match fractionOf x with
  | some f => -(Int.fdiv (if f.negative then (f.num : Int) else -(f.num : Int)) f.den)
  | none => 0

/-- The integer part of a finite number. -/
def truncInt (x : Float) : Int :=
  match fractionOf x with
  | some f => if f.negative then -((f.num / f.den : Nat) : Int) else ((f.num / f.den : Nat) : Int)
  | none => 0

/-- A finite number rounded to so many decimal places, a half to the even neighbour. -/
def roundPlaces (places : Nat) (x : Float) : Float :=
  match fractionOf x with
  | some f => ofDecimal f.negative (divRound (f.num * tenTo places) f.den) (-(places : Int))
  | none => x

/-- A finite number rounded to an integer, a half to the even neighbour. -/
def roundInt (x : Float) : Int :=
  match fractionOf x with
  | some f =>
    let n : Int := divRound f.num f.den
    if f.negative then -n else n
  | none => 0

/-!
## Exact fractions

Exact fractions for measures: conversion from and to binary floating-point numbers, and rounding to
decimal places.
-/

/-- The exact value of a finite number; zero for the others. -/
def ratOf (x : Float) : Rat :=
  match fractionOf x with
  | some f => mkRat (if f.negative then -(f.num : Int) else f.num) f.den
  | none => 0

/-- The number nearest to a fraction. -/
def floatOf (r : Rat) : Float := ofFraction ⟨decide (r < 0), r.num.natAbs, r.den⟩

/-- The fraction rounded to an integer, a half to the even neighbour. -/
def roundRat (r : Rat) : Int :=
  let n : Int := divRound r.num.natAbs r.den
  if r.num < 0 then -n else n

/-- The fraction rounded to so many decimal places, a half to the even neighbour. -/
def roundRatPlaces (places : Nat) (r : Rat) : Rat :=
  mkRat (roundRat (r * tenTo places)) (tenTo places)

end ComponentMigration.Number
