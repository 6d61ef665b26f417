import ComponentMigration.Json.Reader
import ComponentMigration.Json.Value
import ComponentMigration.Text.Numeral
import ComponentMigration.Time.Instant
import ComponentMigration.Toml.Scan

/-!
# Single values in configuration files

Texts between quotes, numbers and times.
-/

namespace ComponentMigration.Toml

/-!
## Quotes in configuration files

A line is cut at its quotes to find a mark that stands outside of them.  A text in double quotes has
escapes; one in apostrophes has none.  Three quotes on both sides are as good as one.
-/

/-- A text without blanks at both ends. -/
def trim (cs : List Char) : List Char := Text.trimWhile Text.isBlank cs

/-- A text without its first and last character. -/
def inner (cs : List Char) : List Char := (cs.drop 1).dropLast

/-- Whether a text ends in an odd number of backslashes. -/
def endsEscaping (cs : List Char) : Bool := (cs.reverse.takeWhile (· == '\\')).length % 2 == 1

/-! ### Cutting at quotes -/

/-- Goes on with pieces between double quotes as long as an apostrophe is open. -/
def joinQuotes : List (List Char) → List (List Char) → List (List Char) × List (List Char)
  | singles, [] => (singles, [])
  | singles, piece :: rest =>
    if singles.length % 2 == 0 then
      let last := singles.getLast?.getD [] ++ '"' :: piece
      joinQuotes (singles.dropLast ++ Text.splitChars ['\''] last) rest
    else (singles, piece :: rest)

/-- The first piece cut at apostrophes, the others as they are. -/
def cutFirst : List (List Char) → List (List Char)
  | [] => []
  | piece :: rest => Text.splitChars ['\''] piece ++ rest

/-- The pieces of a line between its quotes: one outside, one inside, and so on. -/
def cutAtQuotes (line : List Char) : List (List Char) :=
  match Text.splitChars ['"'] line with
  | first :: second :: rest =>
    if first.contains '\'' then
      let (singles, doubles) := joinQuotes (Text.splitChars ['\''] first) (second :: rest)
      singles ++ cutFirst doubles
    else cutFirst (first :: second :: rest)
  | pieces => cutFirst pieces

/-- The number of marks in front of the first one outside of quotes. -/
def marksBefore (mark : List Char) (quoted : Bool) : List (List Char) → Nat
  | [] => 0
  | piece :: rest =>
    if !quoted && Text.containsChars mark piece then 0
    else (Text.splitChars mark piece).length - 1 + marksBefore mark (!quoted) rest

/-- Pieces with a mark between them. -/
def joinBy (mark : List Char) (pieces : List (List Char)) : List Char :=
  mark.intercalate pieces

/-- A text cut at its first `count` marks. -/
def cutAt (mark : List Char) (count : Nat) (cs : List Char) : List (List Char) :=
  let pieces := Text.splitChars mark cs
  if pieces.length ≤ count + 1 then pieces
  else pieces.take count ++ [joinBy mark (pieces.drop count)]

/-! ### Texts -/

/-- Checks that nothing stands behind the closing quote.  The pieces are those between quotes, `run`
counts the quotes in a row, and `closed` says whether the text has ended. -/
def checkClosed (triple closed : Bool) (run : Nat) : List (List Char) → Usable Unit
  | [] => .ok ()
  | piece :: rest =>
    if piece.isEmpty then
      if triple then checkClosed triple closed (run + 1) rest else checkClosed triple true run rest
    else if endsEscaping piece then checkClosed triple closed run rest
    else if closed then .error malformed
    else if !triple || run > 1 then checkClosed triple true run rest
    else checkClosed triple closed 0 rest

/-- Checks that nothing stands behind the closing quote of a text. -/
def checkEnd (quote : Char) (v : List Char) : Usable Unit :=
  match Text.splitChars [quote] (v.drop 1) with
  | [] :: [] :: rest => checkClosed true false 0 rest
  | pieces => checkClosed false false 0 pieces

/-- The character that a short escape stands for. -/
def shortEscape? : Char → Option Char
  | '0' => some (Char.ofNat 0)
  | 'b' => some (Char.ofNat 8)
  | 'f' => some (Char.ofNat 12)
  | 'n' => some '\n'
  | 'r' => some '\r'
  | 't' => some '\t'
  | '"' => some '"'
  | _ => none

/-- Whether a character begins an escape by number. -/
def isNumbered (c : Char) : Bool := c == 'u' || c == 'U'

/-- Checks that only known escapes are used.  The pieces are those behind backslashes; `escaped`
says whether a backslash of its own stands in front. -/
def checkEscapes (escaped : Bool) : List (List Char) → Usable Unit
  | [] => .ok ()
  | [] :: rest => checkEscapes (!escaped) rest
  | (c :: _) :: rest =>
    if (shortEscape? c).isSome || isNumbered c || escaped then checkEscapes false rest
    else .error malformed

/-- The character with a hexadecimal number. -/
def numbered (digits : List Char) : Usable Char := do
  let values := digits.filterMap Json.hexValue?
  if values.length != digits.length then throw malformed
  match digits with
  | [] => throw endsEarly
  | [d] => if d.toLower == 'd' then throw endsEarly
  | d :: e :: _ =>
    if d.toLower == 'd' && !('0' ≤ e && e ≤ '7') then throw malformed
  let n := values.foldl (fun n d => n * 16 + d) 0
  if n ≥ 0x80000000 then throw ⟨.overflow, "the number is too large for a character", none⟩
  if n > 0x10FFFF then throw malformed
  return Char.ofNat n

/-- Puts characters for escapes by number.  The pieces are those between the marks of such escapes;
a mark whose backslash is escaped itself stays, which `escaped` says of the first one. -/
def putNumbered (mark : List Char) (width : Nat) (escaped : Bool) :
    List (List Char) → Usable (List Char)
  | [] => .ok []
  | piece :: rest => do
    if escaped then
      return mark ++ piece ++ (← putNumbered mark width (endsEscaping piece) rest)
    else
      let c ← numbered (piece.take width)
      return c :: piece.drop width ++ (← putNumbered mark width false rest)

/-- Puts characters for the escapes by number that a letter begins. -/
def numberEscapes (letter : Char) (width : Nat) (v : List Char) : Usable (List Char) :=
  let mark := ['\\', letter]
  match Text.splitChars mark v with
  | [] => .ok v
  | first :: rest => do return first ++ (← putNumbered mark width (endsEscaping first) rest)

/-- Puts characters for short escapes. -/
def unescape : List Char → Usable (List Char)
  | [] => .ok []
  | '\\' :: c :: rest => do
    let after ← unescape rest
    match shortEscape? c with
    | some d => return d :: after
    | none =>
      if c == '\\' then return '\\' :: after
      else if isNumbered c then return '\\' :: c :: after
      else .error malformed
  | c :: rest => do return c :: (← unescape rest)

/-- The characters of a text in double quotes, the quotes still around them. -/
def readEscapes (v : List Char) : Usable (List Char) := do
  checkEscapes false ((Text.splitChars ['\\'] v).drop 1)
  unescape (← numberEscapes 'U' 8 (← numberEscapes 'u' 4 v))

/-- The text that stands in quotes. -/
def quotedText (quote : Char) (v : List Char) : Usable String := do
  checkEnd quote v
  let v ← if quote == '"' then readEscapes v else pure v
  let tripled := v[1]? == some quote && (v.length < 3 || v[2]? == some quote)
  let v := if tripled then inner (inner v) else v
  return String.ofList (inner v)

/-!
## Numbers and times in configuration files

Integers may have another base, and floating-point numbers have digits on both sides of their point.
Low lines may stand among digits.  Dates and times of day are taken as they are written.
-/

/-- The number that a text of decimal digits stands for, in one of the bases that a mark after a
leading zero gives.  Ten has no mark and no leading zero. -/
def natural? (cs : List Char) : Option Nat :=
  let based := fun (base : Nat) (digits : List Char) =>
    let values := digits.filterMap fun c => (Text.digitValue? c).or (Json.hexValue? c)
    if !digits.isEmpty && values.length == digits.length && values.all (· < base) then
      some (values.foldl (fun n d => n * base + d) 0)
    else none
  let values := cs.filterMap Text.digitValue?
  let decimal :=
    if !cs.isEmpty && values.length == cs.length && (values.head? != some 0 || values.all (· == 0))
    then Text.ofDigits? values else none
  match cs with
  | zero :: mark :: digits =>
    if Text.digitValue? zero != some 0 then decimal
    else if mark == 'x' || mark == 'X' then based 16 digits
    else if mark == 'o' || mark == 'O' then based 8 digits
    else if mark == 'b' || mark == 'B' then based 2 digits
    else decimal
  | _ => decimal

/-- The integer that a text stands for. -/
def integer? (cs : List Char) : Option Int :=
  let (negative, cs) := Text.numeralSign (Text.trimWhile Text.isSpacing cs)
  (natural? cs).map fun n => if negative then -(n : Int) else n

/-- Whether zeros and low lines of a number stand where they may. -/
def isStrict (cs : List Char) : Bool :=
  let n := trim cs
  match n with
  | [] => false
  | [c] => c != '_'
  | c :: d :: _ =>
    let signed := c == '+' || c == '-'
    let digits := if signed then n.drop 1 else n
    c != '_' && n.getLast? != some '_' && !Text.containsChars ['_', '.'] n &&
      !Text.containsChars ['.', '_'] n && !(c == '0' && !(['.', 'o', 'b', 'x'].contains d)) &&
      !(signed && digits.length > 1 && digits[0]? == some '0' && digits[1]? != some '.') &&
      !Text.containsChars ['_', '_'] digits

/-- Whether a text is written like a floating-point number. -/
def isReal (v : List Char) : Bool :=
  v.contains '.' || (!v.contains 'x' && (v.contains 'e' || v.contains 'E'))

/-- The number without a sign that a text stands for. -/
def unsigned (v : List Char) : Usable Quantity :=
  let read := fun (r : Option Quantity) => match r with
    | some q => .ok q
    | none => .error malformed
  let word := String.ofList (v.map Char.toLower)
  if isReal v then
    if v.getLast? == some '.' && !v.dropLast.contains '.' then .error malformed
    else if !v.head?.any Char.isDigit then .error malformed
    else read ((Text.real? v).map Quantity.real)
  else if word == "inf" || word == "nan" then read ((Text.real? v).map Quantity.real)
  else read ((integer? v).map Quantity.whole)

/-- The number that a text stands for; a minus sign takes it from zero. -/
def number (v : List Char) : Usable Quantity := do
  let (negative, digits) := Text.numeralSign v
  let q ← unsigned (digits.filter (· != '_'))
  if negative then Quantity.sub 0 q else return q

/-- The integer in some places of a text. -/
def integerAt (v : List Char) (start width : Nat) : Option Int :=
  Text.integer? (String.ofList ((v.drop start).take width))

/-- Whether the first ten characters are a date. -/
def startsWithDate (v : List Char) : Bool :=
  match integerAt v 0 4, integerAt v 5 2, integerAt v 8 2 with
  | some year, some month, some day =>
    1 ≤ year && year ≤ 9999 && 1 ≤ month && month ≤ 12 && 1 ≤ day &&
      day ≤ Calendar.daysInMonth year month.toNat
  | _, _, _ => false

/-- Whether a text is a date, alone or with a time of day behind it. -/
def isDate (v : List Char) : Bool :=
  let within := fun (n : Option Int) (limit : Int) => n.any fun n => 0 ≤ n && n < limit
  (v.drop 1).contains '-' && startsWithDate v &&
    (v.length == 10 || (within (integerAt v 11 2) 24 && within (integerAt v 14 2) 60 &&
      within (integerAt v 17 2) 60))

/-- Whether a text starts like a time of day. -/
def isTime (v : List Char) : Bool :=
  match v.take 8 with
  | [a, b, ':', c, d, ':', e, f] => [a, b, c, d, e, f].all Char.isDigit
  | _ => false

/-- Whether the time of day at the start of a text is one that a clock shows. -/
def isClockTime (v : List Char) : Bool :=
  match integerAt v 0 2, integerAt v 3 2, integerAt v 6 2 with
  | some hour, some minute, some second => hour < 24 && minute < 60 && second < 60
  | _, _, _ => false

end ComponentMigration.Toml
