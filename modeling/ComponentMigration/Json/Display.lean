import ComponentMigration.Json.Value
import ComponentMigration.Number.Decimal
import ComponentMigration.Text.Quoted

/-!
# Values as texts

Values are shown in running text, or written in the data notation.
-/

namespace ComponentMigration.Json

/-!
## Values in running text

Texts stand as they are, everything else in the notation of literals.
-/

mutual

/-- A value as a literal. -/
def literal : Json → String
  | .null => "None"
  | .bool b => if b then "True" else "False"
  | .int n => toString n
  | .float x => Number.shortest x
  | .str s => Text.quoted s
  | .arr items => "[" ++ String.intercalate ", " (literals items) ++ "]"
  | .obj fields => "\x7b" ++ String.intercalate ", " (literalFields fields) ++ "\x7d"

/-- Several values as literals. -/
def literals : List Json → List String
  | [] => []
  | v :: rest => literal v :: literals rest

/-- Fields as literals. -/
def literalFields : List (String × Json) → List String
  | [] => []
  | (k, v) :: rest => (Text.quoted k ++ ": " ++ literal v) :: literalFields rest

end

/-- A value in running text. -/
def display : Json → String
  | .str s => s
  | v => literal v

/-!
## Writing the data notation

All characters outside the basic printable ones are escaped; floating-point numbers get the shortest
text that reads back.  `compact` writes no spaces, `indented` puts every item on a line of its own.
-/

/-- One unit of an escaped character. -/
def unitEscape (n : Nat) : List Char := '\\' :: 'u' :: Text.hexDigits 4 n

/-- A character inside a text value. -/
def escapeChar (c : Char) : List Char :=
  if c == '"' then ['\\', '"']
  else if c == '\\' then ['\\', '\\']
  else if c == '\n' then ['\\', 'n']
  else if c == '\r' then ['\\', 'r']
  else if c == '\t' then ['\\', 't']
  else if c.toNat == 8 then ['\\', 'b']
  else if c.toNat == 12 then ['\\', 'f']
  else if 32 ≤ c.toNat && c.toNat ≤ 126 then [c]
  else if c.toNat < 0x10000 then unitEscape c.toNat
  else
    let n := c.toNat - 0x10000
    unitEscape (0xD800 + n / 0x400) ++ unitEscape (0xDC00 + n % 0x400)

/-- A text value in its written form. -/
def quoteText (s : String) : String :=
  String.ofList ('"' :: s.toList.flatMap escapeChar ++ ['"'])

/-- A floating-point number in its written form. -/
def floatText (x : Float) : String :=
  if x.isNaN then "NaN"
  else if x.isInf then (if x < 0 then "-Infinity" else "Infinity")
  else Number.shortest x

mutual

/-- The written form without spaces. -/
def compact : Json → String
  | .null => "null"
  | .bool b => if b then "true" else "false"
  | .int n => toString n
  | .float x => floatText x
  | .str s => quoteText s
  | .arr items => "[" ++ String.intercalate "," (compactItems items) ++ "]"
  | .obj fields => "\x7b" ++ String.intercalate "," (compactFields fields) ++ "\x7d"

/-- The written forms of items. -/
def compactItems : List Json → List String
  | [] => []
  | v :: rest => compact v :: compactItems rest

/-- The written forms of fields. -/
def compactFields : List (String × Json) → List String
  | [] => []
  | (k, v) :: rest => (quoteText k ++ ":" ++ compact v) :: compactFields rest

end

/-- A line break followed by the indentation of a level. -/
def newline (level : Nat) : String := String.ofList ('\n' :: List.replicate (2 * level) ' ')

mutual

/-- The written form with two spaces of indentation per level. -/
def indentedAt (level : Nat) : Json → String
  | .arr (v :: rest) =>
    "[" ++ newline (level + 1) ++
      String.intercalate ("," ++ newline (level + 1)) (indentedItems (level + 1) (v :: rest)) ++
      newline level ++ "]"
  | .obj (f :: rest) =>
    "\x7b" ++ newline (level + 1) ++
      String.intercalate ("," ++ newline (level + 1)) (indentedFields (level + 1) (f :: rest)) ++
      newline level ++ "\x7d"
  | .arr [] => "[]"
  | .obj [] => "\x7b\x7d"
  | v => compact v

/-- The written forms of items at a level. -/
def indentedItems (level : Nat) : List Json → List String
  | [] => []
  | v :: rest => indentedAt level v :: indentedItems level rest

/-- The written forms of fields at a level. -/
def indentedFields (level : Nat) : List (String × Json) → List String
  | [] => []
  | (k, v) :: rest => (quoteText k ++ ": " ++ indentedAt level v) :: indentedFields level rest

end

/-- The written form with one item per line. -/
def indented (v : Json) : String := indentedAt 0 v

end ComponentMigration.Json
