import ComponentMigration.Number.Binary64
import ComponentMigration.Number.Quantity

/-!
# Ways of computing

The same formula can be computed exactly, with floating-point numbers, or with quantities as they
were given, where a step may fail.  `m` says how a step may fail.
-/

namespace ComponentMigration

/-- Numbers of a type with the steps of computing with them. -/
class Arithmetic (m : outParam (Type → Type)) (α : Type) where
  /-- A quantity as a number of the type. -/
  of : Quantity → m α
  /-- An integer as a number that fractions are computed with. -/
  real : Int → α
  add : α → α → m α
  sub : α → α → m α
  mul : α → α → m α
  div : α → α → m α
  isLess : α → α → Bool
  /-- A number rounded to so many decimal places. -/
  roundPlaces : Nat → α → α
  /-- The greatest integer not above a number. -/
  floor : α → m Int

namespace Arithmetic

/-- Exact computation; not-a-number and the infinities count as zero. -/
instance : Arithmetic Id Rat where
  of
    | .whole n => (n : Rat)
    | .real x => Number.ratOf x
    | .truth b => if b then (1 : Rat) else 0
  real n := n
  add a b := a + b
  sub a b := a - b
  mul a b := a * b
  div a b := a / b
  isLess a b := a < b
  roundPlaces := Number.roundRatPlaces
  floor a := a.floor

/-- Computation with floating-point numbers. -/
instance : Arithmetic Id Float where
  of := Quantity.nearest
  real := Number.ofInt
  add a b := a + b
  sub a b := a - b
  mul a b := a * b
  div a b := a / b
  isLess a b := a < b
  roundPlaces := Number.roundPlaces
  floor := Number.floorInt

/-- Computation with quantities as they were given. -/
instance : Arithmetic (Except Trouble) Quantity where
  of q := .ok q
  real n := .real (Number.ofInt n)
  add := Quantity.add
  sub := Quantity.sub
  mul := Quantity.mul
  div := Quantity.div
  isLess := Quantity.isLess
  roundPlaces := Quantity.roundPlaces
  floor := Quantity.floor

variable {m : Type → Type} {α : Type} [Arithmetic m α]

/-- The lesser of two numbers; the first one unless the second is less. -/
def lesser (a b : α) : α := if isLess b a then b else a

/-- The greater of two numbers; the first one unless the second is greater. -/
def greater (a b : α) : α := if isLess a b then b else a

variable [Monad m]

/-- The sum of numbers, from zero on. -/
def sum (terms : List (m α)) : m α := do
  let start ← of (.whole 0)
  terms.foldlM (fun total term => do add total (← term)) start

/-- The nearest integer, a half going up.  The number is first brought to six decimal places, so
that a sum of decimal weights that misses a half by a rounding error counts as that half. -/
def roundHalfUp (x : α) : m Int := do
  let half ← div (real 1) (real 2)
  floor (← add (roundPlaces 6 x) half)

end Arithmetic

end ComponentMigration
