import ComponentMigration.Text.Quoted
import ComponentMigration.Toml.Reader

/-!
# Writing configuration files

Tables come in rounds: first those at the top, then the tables inside them, and so on.  A table has
a header with all names on the way to it, and one assignment a line; lists of tables follow its
other assignments.  A blank line stands before each header.
-/

namespace ComponentMigration.Toml

/-! ### Texts -/

/-- Whether an escape of two hexadecimal digits behind a text comes back in its long form: behind an
even number of backslashes, or an odd number if there is nothing else. -/
def comesBackLong (text : List Char) : Bool :=
  let backslashes := (text.reverse.takeWhile (· == '\\')).length
  backslashes > 0 && (backslashes % 2 == 0) != (backslashes == text.length)

/-- Joins two pieces of a text that was cut at an escape of two hexadecimal digits. -/
def joinEscape (text next : List Char) : Usable (List Char) :=
  if text.isEmpty then .error endsEarly
  else
    let text := (Text.replace (String.ofList text) "\\\\" "\\").toList
    .ok (text ++ (if comesBackLong text then "u00".toList else ['x']) ++ next)

/-- Joins the pieces of a text that was cut at the escapes of two hexadecimal digits; one at the
very start is lost. -/
def joinEscapes (text : List Char) : List (List Char) → Usable (List Char)
  | [] => .ok text
  | next :: rest =>
    if text.isEmpty then
      match rest with
      | [] => .error endsEarly
      | after :: rest => do joinEscapes (← joinEscape next after) rest
    else do joinEscapes (← joinEscape text next) rest

/-- A text in double quotes. -/
def printText (s : String) : Usable String := do
  let literal := (Text.quoted s).toList
  let content := String.ofList (inner literal)
  let content :=
    if literal.head? == some '\'' then Text.replace (Text.replace content "\\'" "'") "\"" "\\\""
    else content
  match Text.splitChars ['\\', 'x'] content.toList with
  | [] => return "\"\""
  | first :: rest => return String.ofList ('"' :: (← joinEscapes first rest) ++ ['"'])

/-- Whether a key is written without quotes: if it is a plain name, which a line feed may follow. -/
def isBareKey (key : List Char) : Bool :=
  isPlainName (if key.getLast? == some '\n' then key.dropLast else key)

/-- A key, in quotes if it needs them. -/
def printKey (key : String) : Usable String :=
  if isBareKey key.toList then .ok key else printText key

/-- An integer, which may not have too many digits. -/
def printInteger (n : Int) : Usable String :=
  let digits := toString n
  if (toString n.natAbs).length > Text.digitLimit then
    .error ⟨.badValue, "the integer has too many digits", none⟩
  else .ok digits

/-- A floating-point number: exponents lose a leading zero. -/
def printFloat (x : Float) : String :=
  Text.replace (Text.replace (Number.shortest x) "e+0" "e+") "e-0" "e-"

mutual

/-- A value; a table inside a list is told by its keys. -/
def printValue : Json → Usable String
  | .null => .ok "\"None\""
  | .bool b => .ok (if b then "true" else "false")
  | .int n => printInteger n
  | .float x => .ok (printFloat x)
  | .str s => printText s
  | .arr items => do return "[" ++ String.join (← printItems items) ++ "]"
  | .obj fields => do
    let keys ← fields.mapM fun (k, _) => do return " " ++ (← printText k) ++ ","
    return "[" ++ String.join keys ++ "]"

/-- The items of a list, each with its comma. -/
def printItems : List Json → Usable (List String)
  | [] => .ok []
  | v :: rest => do return (" " ++ (← printValue v) ++ ",") :: (← printItems rest)

end

/-! ### Tables -/

/-- A table with its full name. -/
structure Section where
  name : String
  fields : Assoc Json

/-- Whether a value is a table. -/
def isTable : Json → Bool
  | .obj _ => true
  | _ => false

/-- The fields of an item of a list of tables. -/
def itemFields : Json → Usable (Assoc Json)
  | .obj fields => .ok fields
  | .arr [] => .ok []
  | .str "" => .ok []
  | _ => .error notTable

/-- What a table is written as: its own lines, its lists of tables, and the tables inside it. -/
structure Printed where
  lines : String := ""
  lists : String := ""
  sections : List Section := []

/-- All lines of a table. -/
def Printed.text (p : Printed) : String := p.lines ++ p.lists

/-- A name below another one. -/
def below (above name : String) : String := if above.isEmpty then name else above ++ "." ++ name

/-- The tables inside an item of a list of tables, round by round; empty ones are left out. -/
def printRounds (print : String → Assoc Json → Usable Printed) :
    Nat → List Section → Usable String
  | 0, _ => .ok ""
  | _ + 1, [] => .ok ""
  | rounds + 1, sections => do
    let printed ← sections.mapM fun s => do return (s.name, ← print s.name s.fields)
    let texts := printed.map fun (name, p) =>
      if p.text.isEmpty then "" else "[" ++ name ++ "]\n" ++ p.text
    return String.join texts ++
      (← printRounds print rounds (printed.flatMap fun (_, p) => p.sections))

/-- An item of a list of tables. -/
def printItem (print : String → Assoc Json → Usable Printed) (depth : Nat) (name : String)
    (v : Json) : Usable String := do
  let p ← print name (← itemFields v)
  let (own, later) := if Text.startsWith p.text "[" then ("", p.text) else (p.text, "")
  return "[[" ++ name ++ "]]\n" ++ own ++ "\n" ++ later ++
    (← printRounds print depth p.sections)

/-- Adds a field to what a table is written as. -/
def addField (print : String → Assoc Json → Usable Printed) (depth : Nat) (above key : String)
    (v : Json) (p : Printed) : Usable Printed := do
  let name ← printKey key
  match v with
  | .null => return p
  | .obj fields => return { p with sections := p.sections ++ [⟨below above name, fields⟩] }
  | .arr items =>
    if items.any isTable then
      let texts ← items.mapM (printItem print depth (below above name))
      return { p with lists := p.lists ++ String.join texts }
    else return { p with lines := p.lines ++ name ++ " = " ++ (← printValue v) ++ "\n" }
  | v => return { p with lines := p.lines ++ name ++ " = " ++ (← printValue v) ++ "\n" }

/-- What a table is written as, below a name and nested at most `depth` deep. -/
def printTable : Nat → String → Assoc Json → Usable Printed
  | 0, _, _ => .ok {}
  | depth + 1, above, fields =>
    fields.foldlM (fun p (key, v) => addField (printTable depth) depth above key v p) {}

/-- Adds a table to the text so far. -/
def addSection (text name : String) (p : Printed) : String :=
  if p.text.isEmpty && !p.sections.isEmpty then text
  else
    (if text.isEmpty || Text.endsWith text "\n\n" then text else text ++ "\n") ++
      "[" ++ name ++ "]\n" ++ p.text

/-- Adds tables to the text so far, round by round. -/
def addRounds (depth : Nat) : Nat → String → List Section → Usable String
  | 0, text, _ => .ok text
  | _ + 1, text, [] => .ok text
  | rounds + 1, text, sections => do
    let printed ← sections.mapM fun s => do return (s.name, ← printTable depth s.name s.fields)
    addRounds depth rounds (printed.foldl (fun text (name, p) => addSection text name p) text)
      (printed.flatMap fun (_, p) => p.sections)

mutual

/-- How deep a value is nested. -/
def depthOf : Json → Nat
  | .arr items => depthOfItems items + 1
  | .obj fields => depthOfFields fields + 1
  | _ => 1

/-- How deep the items of a list are nested. -/
def depthOfItems : List Json → Nat
  | [] => 0
  | v :: rest => max (depthOf v) (depthOfItems rest)

/-- How deep the values of a table are nested. -/
def depthOfFields : List (String × Json) → Nat
  | [] => 0
  | (_, v) :: rest => max (depthOf v) (depthOfFields rest)

end

/-- A configuration file with these tables. -/
def print (fields : Assoc Json) : Usable String := do
  let depth := depthOfFields fields + 1
  let top ← printTable depth "" fields
  addRounds depth depth top.text top.sections

end ComponentMigration.Toml
