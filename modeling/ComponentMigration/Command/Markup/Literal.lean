import ComponentMigration.Json.Reader
import ComponentMigration.Text.Basic
import ComponentMigration.Text.Letters
import ComponentMigration.Text.Numeral

/-!
# Literals

The parameters of an action are literals: numbers, texts, words for constants, and sequences in
parentheses or braces.  Only whether a text is a literal matters, and of its parts, whether they may
stand behind a sign, in a sum, or as a key.
-/

namespace ComponentMigration.Markup

/-- What a part of a literal is good for. -/
inductive Shape where
  /-- A number without a sign. -/
  | real
  /-- An imaginary number without a sign. -/
  | imaginary
  /-- A number with a sign. -/
  | signed
  /-- Anything else that may be a key. -/
  | fixed
  /-- A collection, which may not be a key. -/
  | changing
  /-- The name of the empty set, which is nothing by itself. -/
  | setName
  deriving DecidableEq, Repr

/-- A way of reading the start of a text: the shape of what stands there, and the rest. -/
abbrev Reader := List Char → Option (Shape × List Char)

/-- A text without the blanks and comments at its start. -/
def dropGap (inComment : Bool) : List Char → List Char
  | [] => []
  | c :: rest =>
    if inComment then dropGap (c != '\n') rest
    else if [9, 10, 12, 13, 32].contains c.toNat then dropGap false rest
    else if c == '#' then dropGap true rest
    else c :: rest

/-- A text without the spaces at its start; inside brackets also without lines and comments. -/
def dropSpace (bracketed : Bool) (cs : List Char) : List Char :=
  if bracketed then dropGap false cs else cs.dropWhile fun c => [9, 12, 32].contains c.toNat

/-! ### Numbers -/

/-- The digits at the start of a text, in which single low lines may stand, and the rest; `behind`
says whether a low line may come first. -/
def takeRow (isDigit : Char → Bool) (behind : Bool) : List Char → List Char × List Char
  | [] => ([], [])
  | c :: rest =>
    if isDigit c then
      let (digits, after) := takeRow isDigit true rest
      (c :: digits, after)
    else if behind && c == '_' && rest.head?.any isDigit then takeRow isDigit false rest
    else ([], c :: rest)

/-- The digits that a number may have behind a zero and a mark. -/
def markedDigit? (mark : Char) : Option (Char → Bool) :=
  if mark == 'x' || mark == 'X' then some fun c => (Json.hexValue? c).isSome
  else if mark == 'o' || mark == 'O' then some fun c => '0' ≤ c && c ≤ '7'
  else if mark == 'b' || mark == 'B' then some fun c => c == '0' || c == '1'
  else none

/-- The rest behind the exponent of a number, if it has one, and whether it has. -/
def dropExponent (cs : List Char) : Bool × List Char :=
  match cs with
  | e :: rest =>
    let (digits, after) := takeRow Text.isPlainDigit false (Text.numeralSign rest).2
    if (e == 'e' || e == 'E') && !digits.isEmpty then (true, after) else (false, cs)
  | [] => (false, [])

/-- Whether digits are an integer: no zero leads others, and there are not too many. -/
def isIntegerRow (digits : List Char) : Bool :=
  (digits.head? != some '0' || digits.all (· == '0')) && digits.length ≤ Text.digitLimit

/-- A number of the decimal system at the start of a text. -/
def decimal : Reader := fun cs =>
  let (whole, rest) := takeRow Text.isPlainDigit false cs
  let (places, after) := match rest with
    | '.' :: more => takeRow Text.isPlainDigit false more
    | _ => ([], rest)
  let pointed := rest.head? == some '.'
  let (raised, after) := dropExponent after
  if whole.isEmpty && places.isEmpty then none
  else
    match after with
    | 'j' :: rest => some (.imaginary, rest)
    | 'J' :: rest => some (.imaginary, rest)
    | _ => if pointed || raised || isIntegerRow whole then some (.real, after) else none

/-- A number at the start of a text; no letter may follow it. -/
def numeral : Reader := fun cs => do
  let (shape, rest) ← match cs with
    | '0' :: mark :: rest =>
      match markedDigit? mark with
      | some isDigit =>
        let (digits, after) := takeRow isDigit true rest
        if digits.isEmpty then none else some (.real, after)
      | none => decimal cs
    | _ => decimal cs
  if rest.head?.any Text.isWordChar then none else some (shape, rest)

/-! ### Texts -/

/-- The characters of a text up to its closing quotes, and the rest.  A text in single quotes ends
with its line. -/
def takeQuoted (quote : Char) (long : Bool) : List Char → Option (List Char × List Char)
  | [] => none
  | '\\' :: c :: rest =>
    (takeQuoted quote long rest).map fun (body, after) => ('\\' :: c :: body, after)
  | c :: rest =>
    if c == quote && (!long || rest.take 2 == [quote, quote]) then
      some ([], if long then rest.drop 2 else rest)
    else if c == '\n' && !long then none
    else (takeQuoted quote long rest).map fun (body, after) => (c :: body, after)

/-- Whether so many hexadecimal digits stand at the start of a text. -/
def startsWithHex (count : Nat) (cs : List Char) : Bool :=
  (cs.take count).length == count && (cs.take count).all fun c => (Json.hexValue? c).isSome

/-- Whether eight hexadecimal digits at the start of a text are the number of a character. -/
def startsWithLongHex (cs : List Char) : Bool :=
  startsWithHex 8 cs &&
    (cs.take 8).foldl (fun n c => n * 16 + (Json.hexValue? c).getD 0) 0 ≤ 0x10FFFF

/-- Whether the name of a character stands in braces at the start of a text. -/
def startsWithName (cs : List Char) : Bool :=
  match cs with
  | '{' :: rest =>
    let name := rest.takeWhile fun c => c.isAlphanum || c == ' ' || c == '-'
    !name.isEmpty && (rest.drop name.length).head? == some '}'
  | _ => false

/-- Whether the escapes of a text are complete; bytes have fewer escapes and plain characters only.
-/
def hasFullEscapes (bytes : Bool) : List Char → Bool
  | [] => true
  | '\\' :: c :: rest =>
    (c != 'x' || startsWithHex 2 rest) &&
      (bytes || (c != 'u' || startsWithHex 4 rest) && (c != 'U' || startsWithLongHex rest) &&
        (c != 'N' || startsWithName rest)) &&
      (!bytes || c.toNat < 128) && hasFullEscapes bytes rest
  | c :: rest => (!bytes || c.toNat < 128) && hasFullEscapes bytes rest

/-- Whether letters before a quote are known, and if so, whether escapes count and whether the text
is one of bytes. -/
def quoteLetters? (letters : List Char) : Option (Bool × Bool) :=
  match letters.map Char.toLower with
  | [] => some (true, false)
  | ['u'] => some (true, false)
  | ['r'] => some (false, false)
  | ['b'] => some (true, true)
  | ['b', 'r'] => some (false, true)
  | ['r', 'b'] => some (false, true)
  | _ => none

/-- One quoted text at the start of a text: whether it is one of bytes, and the rest. -/
def quotedPart (cs : List Char) : Option (Bool × List Char) := do
  let letters := cs.takeWhile Char.isAlpha
  let (escaped, bytes) ← quoteLetters? letters
  match cs.drop letters.length with
  | [] => none
  | quote :: rest =>
    if quote != '"' && quote != '\'' then none
    let long := rest.take 2 == [quote, quote]
    let (body, after) ← takeQuoted quote long (if long then rest.drop 2 else rest)
    let sound := if escaped then hasFullEscapes bytes body
      else !bytes || body.all fun c => c.toNat < 128
    if sound then some (bytes, after) else none

/-- Quoted texts in a row at the start of a text; all or none are of bytes. -/
def quotedRow (bracketed : Bool) (bytes : Option Bool) : Nat → List Char → Option (List Char)
  | 0, _ => none
  | fuel + 1, cs =>
    match quotedPart cs with
    | none => if bytes.isSome then some cs else none
    | some (found, after) =>
      if bytes.any (· != found) then none
      else quotedRow bracketed (some found) fuel (dropSpace bracketed after)

/-! ### Collections -/

/-- A value: all but the name of the empty set. -/
def valueBy (read : Reader) : Reader := fun cs => do
  let (shape, rest) ← read cs
  if shape == .setName then none else some (shape, rest)

/-- The shape of a sequence of values that stays as it is. -/
def sequenceOf (shapes : List Shape) : Shape :=
  if shapes.contains .changing then .changing else .fixed

/-- The values behind a comma in parentheses, up to the closing one. -/
def tupleRest (read : Reader) : Nat → List Shape → List Char → Option (Shape × List Char)
  | 0, _, _ => none
  | fuel + 1, shapes, cs =>
    match dropGap false cs with
    | ')' :: rest => some (sequenceOf shapes, rest)
    | cs => do
      let (shape, rest) ← valueBy read cs
      match dropGap false rest with
      | ',' :: rest => tupleRest read fuel (shape :: shapes) rest
      | ')' :: rest => some (sequenceOf (shape :: shapes), rest)
      | _ => none

/-- What stands in parentheses: nothing, one expression, or a sequence. -/
def parenthesised (read : Reader) : Reader := fun cs =>
  match dropGap false cs with
  | ')' :: rest => some (.fixed, rest)
  | cs => do
    let (shape, rest) ← read cs
    match dropGap false rest with
    | ')' :: rest => some (shape, rest)
    | ',' :: rest => if shape == .setName then none else tupleRest read rest.length [shape] rest
    | _ => none

/-- A member in braces: a key, with its value if `paired`. -/
def member (read : Reader) (paired : Bool) (cs : List Char) : Option (List Char) := do
  let (shape, rest) ← valueBy read cs
  if shape == .changing then none
  if paired then
    match dropGap false rest with
    | ':' :: rest => do
      let (_, rest) ← valueBy read (dropGap false rest)
      some rest
    | _ => none
  else some rest

/-- The members in braces, up to the closing brace. -/
def members (read : Reader) (paired : Bool) : Nat → List Char → Option (List Char)
  | 0, _ => none
  | fuel + 1, cs => do
    let rest ← member read paired (dropGap false cs)
    match dropGap false rest with
    | '}' :: rest => some rest
    | ',' :: rest =>
      match dropGap false rest with
      | '}' :: rest => some rest
      | rest => members read paired fuel rest
    | _ => none

/-- What stands in braces: a table or a set. -/
def braced (read : Reader) : Reader := fun cs =>
  match dropGap false cs with
  | '}' :: rest => some (.changing, rest)
  | cs => ((members read true cs.length cs).or (members read false cs.length cs)).map (.changing, ·)

/-! ### Expressions -/

/-- A word at the start of a text: a constant, or the name of the empty set. -/
def constant : Reader := fun cs =>
  let word := cs.takeWhile Text.isWordChar
  let rest := cs.drop word.length
  if ["True", "False", "None"].contains (String.ofList word) then some (.fixed, rest)
  else if String.ofList word == "set" then some (.setName, rest)
  else none

/-- An expression without signs; `read` reads what stands in brackets. -/
def atom (read : Reader) (bracketed : Bool) : Reader := fun cs =>
  match cs with
  | '(' :: rest => parenthesised read rest
  | '{' :: rest => braced read rest
  | '.' :: '.' :: '.' :: rest => some (.fixed, rest)
  | _ =>
    (numeral cs).or <| ((quotedRow bracketed none (cs.length + 1) cs).map (Shape.fixed, ·)).or <|
      constant cs

/-- An expression without signs; the name of the empty set may have parentheses behind it. -/
def primary (read : Reader) (bracketed : Bool) : Reader := fun cs => do
  let (shape, rest) ← atom read bracketed cs
  if shape != .setName then some (shape, rest)
  else
    match dropSpace bracketed rest with
    | '(' :: more =>
      match dropGap false more with
      | ')' :: after => some (.changing, after)
      | _ => none
    | _ => some (shape, rest)

/-- Whether a character is a sign. -/
def isSign (c : Char) : Bool := c == '+' || c == '-'

/-- An expression that may have a sign, which only a number has. -/
def unary (read : Reader) (bracketed : Bool) : Reader := fun cs =>
  match cs with
  | [] => none
  | c :: rest =>
    if isSign c then do
      let (shape, rest) ← primary read bracketed (dropSpace bracketed rest)
      match shape with
      | .real => some (.signed, rest)
      | .imaginary => some (.fixed, rest)
      | _ => none
    else primary read bracketed cs

/-- An expression, which may be the sum of a number and an imaginary one. -/
def sum (read : Reader) (bracketed : Bool) : Reader := fun cs => do
  let (left, rest) ← unary read bracketed cs
  match dropSpace bracketed rest with
  | c :: more =>
    if isSign c then do
      let (right, rest) ← primary read bracketed (dropSpace bracketed more)
      if (left == .real || left == .signed) && right == .imaginary then some (.fixed, rest)
      else none
    else some (left, rest)
  | [] => some (left, [])

/-- An expression in brackets that are nested at most so deep. -/
def nested : Nat → Reader
  | 0 => fun _ => none
  | depth + 1 => sum (nested depth) true

/-- How deep brackets may be nested. -/
def nestingLimit : Nat := 200

/-- Whether a text is a list of expressions with commas between them, and nothing else. -/
def isExpressions : Nat → List Char → Bool
  | 0, _ => false
  | fuel + 1, cs =>
    match valueBy (sum (nested nestingLimit) false) (dropSpace false cs) with
    | none => false
    | some (_, rest) =>
      match dropSpace false rest with
      | ',' :: more => (dropGap false more).isEmpty || isExpressions fuel more
      | rest => (dropGap false rest).isEmpty

/-- Whether a text is a literal. -/
def isLiteral (s : String) : Bool := isExpressions (s.length + 1) s.toList

end ComponentMigration.Markup
