import ComponentMigration.Number.Binary64

/-!
# Decimal texts of numbers

`fixed` writes a given number of decimal places, `general` a given number of significant digits
without trailing zeros, and `shortest` the fewest significant digits that read back as the same
number; of two such digit strings the nearer one counts.
-/

namespace ComponentMigration.Number

/-- The decimal digits of a natural number. -/
def digitsText (n : Nat) : String := String.ofList (Nat.toDigits 10 n)

/-- Digits padded on the left with zeros. -/
def padLeft (width : Nat) (s : String) : String :=
  String.ofList (List.replicate (width - s.length) '0') ++ s

/-- Puts the decimal point before the last `places` digits. -/
def withPoint (places n : Nat) : String :=
  if places == 0 then digitsText n
  else
    digitsText (n / tenTo places) ++ "." ++ padLeft places (digitsText (n % tenTo places))

/-- The text of an infinity or of not-a-number. -/
def specialText (x : Float) : String :=
  if x.isNaN then "nan" else if x < 0 then "-inf" else "inf"

/-- A number with a fixed count of decimal places, a half going to the even neighbour. -/
def fixed (places : Nat) (x : Float) : String :=
  match fractionOf x with
  | none => specialText x
  | some f =>
    (if f.negative then "-" else "") ++ withPoint places (divRound (f.num * tenTo places) f.den)

/-- The decimal exponent of a positive fraction: the greatest `e` with `10 ^ e ≤ num / den`, looked
for downwards from `start`. -/
def decimalExponent (num den : Nat) : Nat → Int → Int
  | 0, e => e
  | fuel + 1, e =>
    let reached := if e ≥ 0 then den * tenTo e.toNat ≤ num else den ≤ num * tenTo (-e).toNat
    if reached then e else decimalExponent num den fuel (e - 1)

/-- The decimal exponent of a positive fraction. -/
def exponentOf (num den : Nat) : Int :=
  let bits : Int := Int.ofNat (Nat.log2 num) - Int.ofNat (Nat.log2 den)
  decimalExponent num den 8 (bits * 30103 / 100000 + 2)

/-- A positive fraction divided by a power of ten. -/
def scaleDown (num den : Nat) (e : Int) : Nat × Nat :=
  if e ≥ 0 then (num, den * tenTo e.toNat) else (num * tenTo (-e).toNat, den)

/-- A positive fraction rounded to `count` significant digits: the digits as a number and the
decimal exponent of the first of them. -/
def significant (count num den : Nat) : Nat × Int :=
  let e := exponentOf num den
  let (n, d) := scaleDown num den (e - (count : Int) + 1)
  let digits := divRound n d
  if digits == tenTo count then (tenTo (count - 1), e + 1) else (digits, e)

/-- Drops trailing zeros of a digit string. -/
def dropZeros (s : String) : String :=
  String.ofList (s.toList.reverse.dropWhile (· == '0')).reverse

/-- Digits after the point, with the point if there are any. -/
def afterPoint (digits : String) : String := if digits.isEmpty then "" else "." ++ digits

/-- An exponent with its sign and at least two digits. -/
def exponentText (e : Int) : String :=
  (if e < 0 then "e-" else "e+") ++ padLeft 2 (digitsText e.natAbs)

/-- Digits with a decimal exponent in positional notation; `digits` has no trailing zeros. -/
def positional (digits : String) (e : Int) : String :=
  if e < 0 then
    "0." ++ String.ofList (List.replicate ((-e).toNat - 1) '0') ++ digits
  else
    let whole := e.toNat + 1
    let cs := digits.toList
    if cs.length ≤ whole then
      digits ++ String.ofList (List.replicate (whole - cs.length) '0')
    else String.ofList (cs.take whole) ++ "." ++ String.ofList (cs.drop whole)

/-- Digits with a decimal exponent in exponent notation; `digits` has no trailing zeros. -/
def scientific (digits : String) (e : Int) : String :=
  String.ofList (digits.toList.take 1) ++
    afterPoint (String.ofList (digits.toList.drop 1)) ++ exponentText e

/-- A number with six significant digits and no trailing zeros; positional from 10⁻⁴ up to below
10⁶. -/
def general (x : Float) : String :=
  match fractionOf x with
  | none => specialText x
  | some f =>
    let sign := if f.negative then "-" else ""
    if f.num == 0 then sign ++ "0"
    else
      let (n, e) := significant 6 f.num f.den
      let digits := dropZeros (digitsText n)
      sign ++ if -4 ≤ e && e < 6 then positional digits e else scientific digits e

/-- The two neighbours of a positive fraction among the numbers with `count` significant digits,
the nearer first. -/
def neighbours (count num den : Nat) : List (Nat × Int) :=
  let e := exponentOf num den
  let (n, d) := scaleDown num den (e - (count : Int) + 1)
  let below := n / d
  let pair := fun (k : Nat) => if k == tenTo count then (tenTo (count - 1), e + 1) else (k, e)
  if divRound n d == below then [pair below, pair (below + 1)] else [pair (below + 1), pair below]

/-- The fewest significant digits of a positive number that read back as it, and their decimal
exponent, tried from `count` digits on. -/
def shortestDigits (x : Float) (num den : Nat) : Nat → Nat → Nat × Int
  | 0, count => significant count num den
  | fuel + 1, count =>
    let readsBack := fun (p : Nat × Int) =>
      (ofDecimal false p.1 (p.2 - (count : Int) + 1)).toBits == x.toBits
    match (neighbours count num den).find? readsBack with
    | some p => p
    | none => shortestDigits x num den fuel (count + 1)

/-- The shortest text that reads back as the number: positional from 10⁻⁴ up to below 10¹⁶, with at
least one digit after the point there. -/
def shortest (x : Float) : String :=
  match fractionOf x with
  | none => specialText x
  | some f =>
    let sign := if f.negative then "-" else ""
    if f.num == 0 then sign ++ "0.0"
    else
      let (n, e) := shortestDigits x.abs f.num f.den 17 1
      let digits := dropZeros (digitsText n)
      sign ++
        if -4 ≤ e && e < 16 then
          let text := positional digits e
          if text.toList.contains '.' then text else text ++ ".0"
        else scientific digits e

end ComponentMigration.Number
