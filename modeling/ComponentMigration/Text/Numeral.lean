import ComponentMigration.Number.Binary64
import ComponentMigration.Text.Basic

/-!
# Numerals

Every script with decimal digits has ten of them in a row, from its zero on.  A numeral is a row of
such digits, in which single low lines may stand between two digits, with a sign in front and white
space around, but no separator controls.  A real numeral may have a point among its digits and an
exponent after them.
-/

namespace ComponentMigration.Text

/-- The zeros of the scripts with decimal digits. -/
def digitZeros : List Nat :=
  [0x30, 0x660, 0x6f0, 0x7c0, 0x966, 0x9e6, 0xa66, 0xae6, 0xb66, 0xbe6, 0xc66, 0xce6, 0xd66,
    0xde6, 0xe50, 0xed0, 0xf20, 0x1040, 0x1090, 0x17e0, 0x1810, 0x1946, 0x19d0, 0x1a80, 0x1a90,
    0x1b50, 0x1bb0, 0x1c40, 0x1c50, 0xa620, 0xa8d0, 0xa900, 0xa9d0, 0xa9f0, 0xaa50, 0xabf0,
    0xff10, 0x104a0, 0x10d30, 0x11066, 0x110f0, 0x11136, 0x111d0, 0x112f0, 0x11450, 0x114d0,
    0x11650, 0x116c0, 0x11730, 0x118e0, 0x11950, 0x11c50, 0x11d50, 0x11da0, 0x16a60, 0x16ac0,
    0x16b50, 0x1d7ce, 0x1d7d8, 0x1d7e2, 0x1d7ec, 0x1d7f6, 0x1e140, 0x1e2f0, 0x1e950, 0x1fbf0]

/-- The value of a decimal digit of any script. -/
def digitValue? (c : Char) : Option Nat :=
  let n := c.toNat
  if n < 128 then if 48 ≤ n && n ≤ 57 then some (n - 48) else none
  else (digitZeros.find? fun first => first ≤ n && n < first + 10).map (n - ·)

/-- The digits of a numeral in which single low lines may stand between digits. -/
def digitValues? : List Char → Option (List Nat)
  | [] => none
  | [c] => (digitValue? c).map ([·])
  | c :: '_' :: rest =>
    match digitValue? c, digitValues? rest with
    | some d, some ds => some (d :: ds)
    | _, _ => none
  | c :: rest =>
    match digitValue? c, digitValues? rest with
    | some d, some ds => some (d :: ds)
    | _, _ => none

/-- The number with these decimal digits, the highest first. -/
def ofDigits (digits : List Nat) : Nat := digits.foldl (fun n d => n * 10 + d) 0

/-- Drops the sign of a numeral: whether it was negative, and the rest. -/
def numeralSign (cs : List Char) : Bool × List Char :=
  match cs with
  | '-' :: rest => (true, rest)
  | '+' :: rest => (false, rest)
  | _ => (false, cs)

/-- The number of digits that a decimal numeral may have. -/
def digitLimit : Nat := 4300

/-- The number with these decimal digits, unless they are too many. -/
def ofDigits? (digits : List Nat) : Option Nat :=
  if digits.length > digitLimit then none else some (ofDigits digits)

/-- White space without the separator controls. -/
def isSpacing (c : Char) : Bool := isBlank c && !(28 ≤ c.toNat && c.toNat ≤ 31)

/-- The integer that a numeral stands for. -/
def integer? (s : String) : Option Int :=
  let (negative, digits) := numeralSign (trimWhile isSpacing s.toList)
  ((digitValues? digits).bind ofDigits?).map fun n => if negative then -(n : Int) else n

/-- Whether a character is one of the ten plain digits. -/
def isPlainDigit (c : Char) : Bool := 48 ≤ c.toNat && c.toNat ≤ 57

/-- A plain numeral without its leading zeros, of which one stays if nothing but a fraction follows.
-/
def dropZeros? (cs : List Char) : Option (List Char) :=
  match cs with
  | [] => none
  | c :: rest =>
    let isZero := fun d => d == '0' || d == '_'
    if c != '0' then if isPlainDigit c then some cs else none
    else
      let last := ((c :: rest.takeWhile isZero).getLast?).toList
      match rest.dropWhile isZero with
      | [] => some last
      | '.' :: fraction => some (last ++ '.' :: fraction)
      | d :: more => if isPlainDigit d then some (d :: more) else none

/-- A plain numeral without a fraction that holds zeros only. -/
def dropFraction? (cs : List Char) : Option (List Char) :=
  let whole := cs.takeWhile (· != '.')
  match cs.drop whole.length with
  | [] => some cs
  | _ :: places => if !places.isEmpty && places.all (· == '0') then some whole else none

/-- A plain numeral without the single low lines in it. -/
def dropLines? (cs : List Char) : Option (List Char) :=
  if cs.getLast? == some '_' || containsPair cs then none else some (cs.filter (· != '_'))
where
  containsPair : List Char → Bool
    | '_' :: '_' :: _ => true
    | _ :: rest => containsPair rest
    | [] => false

/-- The number of plain digits without a leading zero. -/
def plainNatural? (cs : List Char) : Option Nat :=
  if cs.isEmpty || !cs.all isPlainDigit || (cs.length > 1 && cs.head? == some '0') then none
  else ofDigits? (cs.map fun c => c.toNat - 48)

/-- The integer that a plain numeral stands for: digits of the common script with a sign, spacing
around, low lines between digits, leading zeros unless it is negative, and zeros as its fraction. -/
def plainInteger? (s : String) : Option Int := do
  match trimWhile isSpacing s.toList with
  | '-' :: cs =>
    let n ← plainNatural? (← dropLines? (← dropFraction? cs))
    return -(n : Int)
  | cs =>
    let cs := match cs with
      | '+' :: rest => rest
      | _ => cs
    let digits ← dropFraction? (← dropZeros? cs)
    if digits.head? == some '_' then none
    else plainNatural? (← dropLines? digits)

/-- The digits at the start of a text and what follows them.  A low line is passed over if a digit
stands on both sides of it; `afterDigit` says whether one stands before the text. -/
def takeDigits (afterDigit : Bool) : List Char → List Nat × List Char
  | [] => ([], [])
  | c :: rest =>
    match digitValue? c with
    | some d =>
      let (ds, after) := takeDigits true rest
      (d :: ds, after)
    | none =>
      if afterDigit && c == '_' && rest.head?.any fun next => (digitValue? next).isSome then
        takeDigits false rest
      else ([], c :: rest)

/-- The exponent that makes up the rest of a real numeral; zero if nothing is left. -/
def exponent? (cs : List Char) : Option Int :=
  match cs with
  | [] => some 0
  | e :: rest =>
    let (negative, cs) := numeralSign rest
    match takeDigits false cs with
    | ([], _) => none
    | (ds, []) =>
      if e == 'e' || e == 'E' then some (if negative then -(ofDigits ds : Int) else ofDigits ds)
      else none
    | _ => none

/-- The floating-point number that a real numeral, or a word for an infinity or for not-a-number,
stands for. -/
def real? (s : List Char) : Option Float :=
  let (negative, cs) := numeralSign (trimWhile isSpacing s)
  let word := String.ofList (cs.map Char.toLower)
  if word == "inf" || word == "infinity" then some (if negative then -1.0 / 0.0 else 1.0 / 0.0)
  else if word == "nan" then some (0.0 / 0.0)
  else
    let (whole, rest) := takeDigits false cs
    let (places, rest) := match rest with
      | '.' :: more => takeDigits false more
      | _ => ([], rest)
    if whole.isEmpty && places.isEmpty then none
    else (exponent? rest).map fun e =>
      Number.ofDecimal negative (ofDigits (whole ++ places)) (e - (places.length : Int))

end ComponentMigration.Text
