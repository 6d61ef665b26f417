import ComponentMigration.Json.Value
import ComponentMigration.Text.Numeral

/-!
# Reading the data notation

A document is one value between blanks.  Tables keep the order of their keys; a key that comes again
replaces the value at its first place.  Besides numbers in the usual form the three names `NaN`,
`Infinity` and `-Infinity` are read.  A document is read from its start on, and the first flaw that
is met ends the reading; integers may be too long, and values may stand too deep in lists and
tables.
-/

namespace ComponentMigration.Json

/-- What ends the reading of a document. -/
inductive Flaw where
  | malformed
  | tooDeep
  | tooManyDigits (count : Nat)
  deriving DecidableEq, Repr

/-- What has been read, and what follows it. -/
abbrev Reading (α : Type) := Except Flaw (α × List Char)

/-- The number of lists and tables that may stand in one another. -/
def depthLimit : Nat := 990

/-- Drops the blanks that may stand between tokens. -/
def skipBlanks (cs : List Char) : List Char :=
  cs.dropWhile fun c => c == ' ' || c == '\t' || c == '\n' || c == '\r'

/-- The value of a hexadecimal digit. -/
def hexValue? (c : Char) : Option Nat :=
  if c.isDigit then some (c.toNat - 48)
  else if 'a' ≤ c && c ≤ 'f' then some (c.toNat - 87)
  else if 'A' ≤ c && c ≤ 'F' then some (c.toNat - 55)
  else none

/-- Four hexadecimal digits. -/
def hex4? : List Char → Option (Nat × List Char)
  | a :: b :: c :: d :: rest => do
    let a ← hexValue? a
    let b ← hexValue? b
    let c ← hexValue? c
    let d ← hexValue? d
    return (((a * 16 + b) * 16 + c) * 16 + d, rest)
  | _ => none

/-- The character after a backslash, for the escapes of one letter. -/
def shortEscape? : Char → Option Char
  | '"' => some '"'
  | '\\' => some '\\'
  | '/' => some '/'
  | 'b' => some (Char.ofNat 8)
  | 'f' => some (Char.ofNat 12)
  | 'n' => some '\n'
  | 'r' => some '\r'
  | 't' => some '\t'
  | _ => none

/-- A character given by one unit or by a pair of them. -/
def unitEscape? (cs : List Char) : Option (Char × List Char) := do
  let (high, rest) ← hex4? cs
  if 0xD800 ≤ high && high < 0xDC00 then
    match rest with
    | '\\' :: 'u' :: more =>
      match hex4? more with
      | some (low, after) =>
        if 0xDC00 ≤ low && low < 0xE000 then
          return (Char.ofNat (0x10000 + (high - 0xD800) * 0x400 + (low - 0xDC00)), after)
        else return (Char.ofNat 0xFFFD, rest)
      | none => return (Char.ofNat 0xFFFD, rest)
    | _ => return (Char.ofNat 0xFFFD, rest)
  else if 0xDC00 ≤ high && high < 0xE000 then return (Char.ofNat 0xFFFD, rest)
  else return (Char.ofNat high, rest)

/-- The characters of a text value after its opening quote; `acc` holds them in reverse. -/
def readChars : Nat → List Char → List Char → Reading String
  | 0, _, _ => .error .malformed
  | _ + 1, acc, '"' :: rest => .ok (String.ofList acc.reverse, rest)
  | fuel + 1, acc, '\\' :: 'u' :: rest =>
    match unitEscape? rest with
    | some (c, after) => readChars fuel (c :: acc) after
    | none => .error .malformed
  | fuel + 1, acc, '\\' :: c :: rest =>
    match shortEscape? c with
    | some d => readChars fuel (d :: acc) rest
    | none => .error .malformed
  | fuel + 1, acc, c :: rest =>
    if c == '\\' || c.toNat < 32 then .error .malformed else readChars fuel (c :: acc) rest
  | _ + 1, _, [] => .error .malformed

/-- The natural number of a digit string. -/
def digitsValue (cs : List Char) : Nat := cs.foldl (fun n c => n * 10 + (c.toNat - 48)) 0

/-- The exponent part of a number: its value and what follows it. -/
def readExponent (cs : List Char) : Option (Int × List Char) :=
  match cs with
  | e :: rest =>
    if e == 'e' || e == 'E' then
      let (negative, digits) := match rest with
        | '-' :: more => (true, more)
        | '+' :: more => (false, more)
        | _ => (false, rest)
      let ds := digits.takeWhile Char.isDigit
      if ds.isEmpty then none
      else
        let n : Int := digitsValue ds
        some (if negative then -n else n, digits.dropWhile Char.isDigit)
    else none
  | [] => none

/-- The digits before the point of a number, and what follows them; a leading zero stands alone. -/
def readWhole (cs : List Char) : List Char × List Char :=
  match cs.takeWhile Char.isDigit with
  | '0' :: _ => (['0'], cs.drop 1)
  | whole => (whole, cs.dropWhile Char.isDigit)

/-- The digits after the point of a number, and what follows them. -/
def readPlaces (cs : List Char) : List Char × List Char :=
  match cs with
  | '.' :: more =>
    let ds := more.takeWhile Char.isDigit
    if ds.isEmpty then ([], cs) else (ds, more.dropWhile Char.isDigit)
  | _ => ([], cs)

/-- A number without its sign. -/
def readNumber (negative : Bool) (cs : List Char) : Reading Json :=
  let (whole, afterWhole) := readWhole cs
  if whole.isEmpty then .error .malformed
  else
    let (places, afterPlaces) := readPlaces afterWhole
    match readExponent afterPlaces with
    | some (e, after) =>
      .ok (.float (Number.ofDecimal negative (digitsValue (whole ++ places))
        (e - (places.length : Int))), after)
    | none =>
      if !places.isEmpty then
        .ok (.float (Number.ofDecimal negative (digitsValue (whole ++ places))
          (-(places.length : Int))), afterPlaces)
      else if whole.length > Text.digitLimit then .error (.tooManyDigits whole.length)
      else
        let n : Int := digitsValue whole
        .ok (.int (if negative then -n else n), afterPlaces)

/-- Drops a word at the start of a text. -/
def dropWord? (word : String) (cs : List Char) : Option (List Char) :=
  if word.toList.isPrefixOf cs then some (cs.drop word.length) else none

/-- A number that is no finite one, or a word value. -/
def readWord (cs : List Char) : Reading Json :=
  let word := fun (w : String) (v : Json) => (dropWord? w cs).map (v, ·)
  match word "null" .null <|> word "true" (.bool true) <|> word "false" (.bool false) <|>
    word "NaN" (.float (0.0 / 0.0)) <|> word "Infinity" (.float (1.0 / 0.0)) <|>
    word "-Infinity" (.float (-1.0 / 0.0)) with
  | some r => .ok r
  | none => .error .malformed

mutual

/-- One value at the start of a text; `depth` more lists and tables may stand in one another. -/
def readValue : Nat → Nat → List Char → Reading Json
  | 0, _, _ => .error .malformed
  | fuel + 1, depth, cs =>
    match cs, depth with
    | '"' :: rest, _ => (readChars (rest.length + 1) [] rest).map fun (s, after) => (.str s, after)
    | '[' :: _, 0 => .error .tooDeep
    | '[' :: rest, depth + 1 =>
      match skipBlanks rest with
      | ']' :: after => .ok (.arr [], after)
      | inner => (readItems fuel depth inner []).map fun (items, after) => (.arr items, after)
    | '\x7b' :: _, 0 => .error .tooDeep
    | '\x7b' :: rest, depth + 1 =>
      match skipBlanks rest with
      | '\x7d' :: after => .ok (.obj [], after)
      | inner => (readFields fuel depth inner []).map fun (fields, after) => (.obj fields, after)
    | '-' :: rest, _ =>
      if rest.head?.any Char.isDigit then readNumber true rest else readWord cs
    | c :: _, _ => if c.isDigit then readNumber false cs else readWord cs
    | [], _ => .error .malformed

/-- The items of a list up to its closing bracket; `acc` holds them in reverse. -/
def readItems : Nat → Nat → List Char → List Json → Except Flaw (List Json × List Char)
  | 0, _, _, _ => .error .malformed
  | fuel + 1, depth, cs, acc => do
    let (v, rest) ← readValue fuel depth cs
    match skipBlanks rest with
    | ',' :: more => readItems fuel depth (skipBlanks more) (v :: acc)
    | ']' :: after => .ok ((v :: acc).reverse, after)
    | _ => .error .malformed

/-- The fields of a table up to its closing brace. -/
def readFields : Nat → Nat → List Char → List (String × Json) →
    Except Flaw (List (String × Json) × List Char)
  | 0, _, _, _ => .error .malformed
  | fuel + 1, depth, cs, acc =>
    match cs with
    | '"' :: rest => do
      let (key, afterKey) ← readChars (rest.length + 1) [] rest
      match skipBlanks afterKey with
      | ':' :: more =>
        let (v, afterValue) ← readValue fuel depth (skipBlanks more)
        let acc := if Assoc.has acc key then Assoc.set acc key v else (key, v) :: acc
        match skipBlanks afterValue with
        | ',' :: next => readFields fuel depth (skipBlanks next) acc
        | '\x7d' :: after => .ok (acc.reverse, after)
        | _ => .error .malformed
      | _ => .error .malformed
    | _ => .error .malformed

end

/-- Reads a document. -/
def read (s : String) : Except Flaw Json := do
  let cs := s.toList
  let (v, rest) ← readValue (cs.length + 1) depthLimit (skipBlanks cs)
  if (skipBlanks rest).isEmpty then return v else .error .malformed

/-- The value of a document. -/
def parse? (s : String) : Option Json := (read s).toOption

/-- The trouble with a flaw of a document. -/
def Flaw.trouble : Flaw → Trouble
  | .malformed => ⟨.malformedJson, "", none⟩
  | .tooDeep => ⟨.tooDeep, "maximum recursion depth exceeded", none⟩
  | .tooManyDigits count =>
    ⟨.badValue, "Exceeds the limit (" ++ toString Text.digitLimit ++
      " digits) for integer string conversion: value has " ++ toString count ++
      " digits; use sys.set_int_max_str_digits() to increase the limit", none⟩

/-- The value of a document, or the trouble with it. -/
def parse (s : String) : Usable Json :=
  match read s with
  | .ok v => .ok v
  | .error flaw => .error flaw.trouble

end ComponentMigration.Json
