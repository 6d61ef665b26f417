import ComponentMigration.Number.Decimal
import ComponentMigration.Trouble

/-!
# Quantities

A quantity is a whole number, a floating-point number or a truth value, which counts as one or zero.
Whole numbers are computed with exactly and have no bounds; as soon as a floating-point number takes
part the result is one.  Comparisons are exact in any case, and nothing compares with not-a-number.
-/

namespace ComponentMigration

/-- A number as it was given. -/
inductive Quantity where
  | whole (n : Int)
  | real (x : Float)
  | truth (b : Bool)
  deriving DecidableEq, Repr, Inhabited

namespace Quantity

instance : OfNat Quantity n := ⟨.whole n⟩

/-- The integer of a quantity that is not a floating-point number. -/
def int? : Quantity → Option Int
  | .whole n => some n
  | .truth b => some (if b then 1 else 0)
  | .real _ => none

/-- The trouble with an integer beyond the floating-point numbers. -/
def tooLarge : Trouble := ⟨.overflow, "int too large to convert to float", none⟩

/-- The floating-point number nearest to an integer. -/
def floatOfInt (n : Int) : Usable Float :=
  if Number.isTooLarge n then .error tooLarge else .ok (Number.ofInt n)

/-- The quantity as a floating-point number. -/
def toFloat : Quantity → Usable Float
  | .whole n => floatOfInt n
  | .real x => .ok x
  | .truth b => .ok (if b then 1.0 else 0.0)

/-- The quantity as a floating-point number, for showing it; integers too large are infinite. -/
def nearest : Quantity → Float
  | .whole n => Number.ofInt n
  | .real x => x
  | .truth b => if b then 1.0 else 0.0

/-- The text of a quantity. -/
def text : Quantity → String
  | .whole n => toString n
  | .real x => Number.shortest x
  | .truth b => if b then "True" else "False"

/-- Where an integer stands beside a floating-point number. -/
def compareInt (n : Int) (x : Float) : Option Ordering :=
  if x.isNaN then none
  else
    match Number.fractionOf x with
    | none => some (if x < 0.0 then .gt else .lt)
    | some f => some (Ord.compare (n * f.den) (if f.negative then -(f.num : Int) else f.num))

/-- Where a floating-point number stands beside another one. -/
def compareFloat (x y : Float) : Option Ordering :=
  if x < y then some .lt else if x == y then some .eq else if y < x then some .gt else none

/-- Where a quantity stands beside another one; nothing if one of them is not-a-number. -/
def compare (a b : Quantity) : Option Ordering :=
  match a, b with
  | .real x, .real y => compareFloat x y
  | .real x, b => b.int?.bind fun n => (compareInt n x).map Ordering.swap
  | a, .real y => a.int?.bind fun n => compareInt n y
  | a, b => (a.int?).bind fun m => (b.int?).map fun n => Ord.compare m n

/-- Whether a quantity is less than another one. -/
def isLess (a b : Quantity) : Bool := a.compare b == some .lt

/-- Whether a quantity is at most another one. -/
def isAtMost (a b : Quantity) : Bool := a.compare b == some .lt || a.compare b == some .eq

/-- Whether two quantities are the same number. -/
def isSame (a b : Quantity) : Bool := a.compare b == some .eq

/-- The lesser of two quantities; the first one unless the second is less. -/
def lesser (a b : Quantity) : Quantity := if b.isLess a then b else a

/-- The greater of two quantities; the first one unless the second is greater. -/
def greater (a b : Quantity) : Quantity := if a.isLess b then b else a

/-- Whether a quantity is zero. -/
def isZero (a : Quantity) : Bool := a.isSame (.whole 0)

/-- Integers combined as such, anything else as floating-point numbers. -/
def combine (onInts : Int → Int → Int) (onFloats : Float → Float → Float) (a b : Quantity) :
    Usable Quantity :=
  match a.int?, b.int? with
  | some m, some n => .ok (.whole (onInts m n))
  | _, _ => do return .real (onFloats (← a.toFloat) (← b.toFloat))

/-- The sum of two quantities. -/
def add (a b : Quantity) : Usable Quantity := combine (· + ·) (· + ·) a b

/-- The difference of two quantities. -/
def sub (a b : Quantity) : Usable Quantity := combine (· - ·) (· - ·) a b

/-- The product of two quantities. -/
def mul (a b : Quantity) : Usable Quantity := combine (· * ·) (· * ·) a b

/-- The quotient of two integers, rounded once. -/
def divInts (m n : Int) : Usable Quantity :=
  if n == 0 then .error ⟨.divisionByZero, "division by zero", none⟩
  else
    let bits := Number.nearestBits m.natAbs n.natAbs
    if bits ≥ 2047 * Number.twoTo 52 then
      .error ⟨.overflow, "integer division result too large for a float", none⟩
    else .ok (.real (Number.ofFraction ⟨decide (m < 0) != decide (n < 0), m.natAbs, n.natAbs⟩))

/-- The quotient of two quantities, which is always a floating-point number. -/
def div (a b : Quantity) : Usable Quantity :=
  match a.int?, b.int? with
  | some m, some n => divInts m n
  | _, _ => do
    let x ← a.toFloat
    let y ← b.toFloat
    if y == 0.0 then .error ⟨.divisionByZero, "float division by zero", none⟩
    else return .real (x / y)

/-- Refuses floating-point numbers that no integer is near to. -/
def needFinite (x : Float) : Usable Unit :=
  if x.isNaN then .error ⟨.badValue, "cannot convert float NaN to integer", none⟩
  else if x.isInf then .error ⟨.overflow, "cannot convert float infinity to integer", none⟩
  else .ok ()

/-- The integer that a quantity is brought to by a rule for finite floating-point numbers. -/
def toIntBy (rule : Float → Int) : Quantity → Usable Int
  | .whole n => .ok n
  | .truth b => .ok (if b then 1 else 0)
  | .real x => do
    needFinite x
    return rule x

/-- The greatest integer not above a quantity. -/
def floor (a : Quantity) : Usable Int := a.toIntBy Number.floorInt

/-- The least integer not below a quantity. -/
def ceil (a : Quantity) : Usable Int := a.toIntBy Number.ceilInt

/-- The least integer not below a quantity; a bound stands for infinity and for not-a-number. -/
def ceilWithin (bound : Int) (a : Quantity) : Int :=
  match a.ceil with
  | .ok n => n
  | .error _ => if a.isLess 0 then -bound else bound

/-- The integer part of a quantity. -/
def trunc (a : Quantity) : Usable Int := a.toIntBy Number.truncInt

/-- The quotient by a positive integer without its fraction, rounded down. -/
def floorDiv (a : Quantity) (n : Nat) : Quantity :=
  match a with
  | .real x =>
    match Number.fractionOf x with
    | none => .real (0.0 / 0.0)
    | some f =>
      .real (Number.ofInt (Int.fdiv (if f.negative then -(f.num : Int) else f.num) (f.den * n)))
  | a => .whole (Int.fdiv (a.int?.getD 0) n)

/-- A quantity rounded to so many decimal places, a half to the even neighbour. -/
def roundPlaces (places : Nat) : Quantity → Quantity
  | .whole n => .whole n
  | .truth b => .whole (if b then 1 else 0)
  | .real x => .real (Number.roundPlaces places x)

/-- The sum of quantities, from zero on. -/
def sum (qs : List Quantity) : Usable Quantity := qs.foldlM add (.whole 0)

end Quantity

end ComponentMigration
