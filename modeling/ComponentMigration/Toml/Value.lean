import ComponentMigration.Toml.Scalar

/-!
# Values of configuration files

A value is a truth value, a text, a number, a time, a list of values of one kind, or a table in
braces, which holds assignments.  An assignment puts a value under a key of a table, or of a table
inside it if the key has dots; no key may be assigned twice.  The text of a value may be left open,
to be continued on the lines that follow.
-/

namespace ComponentMigration.Toml

/-- The kinds of values; a list holds values of one kind. -/
inductive Kind where
  | truth
  | text
  | list
  | table
  | time
  | date
  | whole
  | real
  deriving DecidableEq, Repr

/-- The kind and value of a number. -/
def ofNumber (q : Quantity) : Kind × Json :=
  (match q with
    | .real _ => .real
    | _ => .whole, Json.ofQuantity q)

/-! ### Cutting lists and tables -/

/-- Whether a list holds texts, by its first item. -/
def isTextList (a : List Char) : Bool := (trim (inner a)).head?.any isQuote

/-- Whether an item of a list of texts is complete: it begins and ends with the same quote, which is
not escaped, or with three of them. -/
def isComplete (item : List Char) : Bool :=
  match item with
  | [] => true
  | c :: _ =>
    let fromEnd := item.reverse
    fromEnd.head? == some c && !endsEscaping (inner item) &&
      !(item.length > 2 && item.take 3 == [c, c, c] && fromEnd[1]? != some c &&
        fromEnd[2]? != some c)

/-- Joins the pieces of texts that have commas in them.  The last piece counts as complete unless
something was `joined` to it. -/
def joinTexts (joined : Bool) (item : List Char) : List (List Char) → Usable (List (List Char))
  | [] => if joined && !isComplete (trim item) then .error endsEarly else .ok [item]
  | next :: rest => do
    if isComplete (trim item) then return item :: (← joinTexts false next rest)
    else joinTexts true (item ++ ',' :: next) rest

/-- The items of a list of lists: cut at commas outside of inner brackets. -/
def cutLists (depth : Int) (item : List Char) : List Char → List (List Char)
  | [] => [item.reverse]
  | c :: rest =>
    if c == ',' && depth == 0 then item.reverse :: cutLists 0 [] rest
    else if c == '[' then cutLists (depth + 1) (c :: item) rest
    else if c == ']' then cutLists (depth - 1) (c :: item) rest
    else cutLists depth (c :: item) rest

/-- How far the cutting of a list of tables has come: in a table, right behind one, or before the
next one. -/
inductive TableCut where
  | within (item : List Char) (depth : Nat) (quoted : Bool)
  | behind (depth : Nat) (quoted : Bool)
  | before (depth : Nat) (quoted : Bool)

/-- The items of a list of tables: each ends with the brace that closes it. -/
def cutTables : TableCut → List Char → List (List Char)
  | _, [] => []
  | .behind depth quoted, _ :: rest => cutTables (.before depth quoted) rest
  | .before depth quoted, c :: rest =>
    if c == '{' then cutTables (.within [c] depth quoted) rest
    else cutTables (.before depth quoted) rest
  | .within item depth quoted, c :: rest =>
    let escaped := quoted && (item.takeWhile (· == '\\')).length % 2 == 1
    let quoted := if isQuote c && !escaped then !quoted else quoted
    let depth := if !quoted && c == '{' then depth + 1 else depth
    if quoted || c != '}' then cutTables (.within (c :: item) depth quoted) rest
    else if depth > 1 then cutTables (.within (c :: item) (depth - 1) quoted) rest
    else (c :: item).reverse :: cutTables (.behind depth quoted) rest

/-- The texts of the items of a list. -/
def listItems (a : List Char) : Usable (List (List Char)) :=
  let content := inner a
  if content.contains '[' && (content.takeWhile (· != '[')).all Text.isBlank then
    .ok (cutLists 0 [] content)
  else
    match content with
    | [] => .ok []
    | c :: rest =>
      if (trim content).head? == some '{' then
        .ok (cutTables (.within [c] (if c == '{' then 1 else 0) false) rest)
      else
        match Text.splitChars [','] content with
        | first :: pieces =>
          if isTextList a then joinTexts false first pieces else .ok (first :: pieces)
        | [] => .ok []

/-- Whether a text may be the whole value of an assignment in a table in braces. -/
def isWholeValue (value : List Char) : Usable Bool :=
  match value, value.getLast? with
  | c :: _, some d =>
    .ok ((c == d && isQuote c) || c == '-' || c.isDigit || value == "true".toList ||
      value == "false".toList || (c == '[' && d == ']') || (c == '{' && d == '}'))
  | _, _ => .error endsEarly

/-- The assignments of a table in braces: pieces between commas, joined until each has a whole
value. -/
def joinAssignments (piece : List Char) : List (List Char) → Usable (List (List Char))
  | [] => do
    if !piece.contains '=' then throw malformed
    if ← isWholeValue (trim ((piece.dropWhile (· != '=')).drop 1)) then return [piece]
    else throw malformed
  | next :: rest => do
    if !piece.contains '=' then throw malformed
    if ← isWholeValue (trim ((piece.dropWhile (· != '=')).drop 1)) then
      return piece :: (← joinAssignments next rest)
    else joinAssignments (piece ++ ',' :: next) rest

/-- The assignments in a table in braces. -/
def tableItems (v : List Char) : Usable (List (List Char)) :=
  match Text.splitChars [','] (inner v) with
  | [] => .ok []
  | [only] => if (trim only).isEmpty then .ok [] else joinAssignments only []
  | first :: rest => joinAssignments first rest

/-! ### Keys and values of assignments -/

/-- An assignment cut in two. -/
structure Assignment where
  key : List Char
  value : List Char
  strict : Bool

/-- Whether a text can be the value of an assignment, as far as its start tells. -/
def isValueStart (v : List Char) : Bool :=
  match v with
  | [] => true
  | c :: _ =>
    c == ' ' || c == '\t' || isQuote c || c == '[' || c == '{' || trim v == "true".toList ||
      trim v == "false".toList || (Text.real? v).isSome || isDate v || isTime v

/-- Finds the equality sign that divides an assignment: the first one outside of quotes, or a later
one if what follows cannot be a value. -/
def divide (pieces : List (List Char)) : Nat → Nat → List Char → Bool → Usable Assignment
  | tries, count, value, strict =>
    if isValueStart value then
      .ok ⟨trim (joinBy ['='] (pieces.take count)), trim value, strict⟩
    else
      match tries with
      | 0 => .error malformed
      | tries + 1 =>
        let value := joinBy ['='] (pieces.drop (count + 1))
        divide pieces tries (count + 1) value (strict && isStrict value)

/-- The key and value of an assignment. -/
def assignmentOf (line : List Char) : Usable Assignment :=
  let pieces := Text.splitChars ['='] line
  let most := pieces.length - 1
  let count := min most (1 + marksBefore ['='] false (cutAtQuotes line))
  let value := joinBy ['='] (pieces.drop count)
  let strict := isStrict value
  let plain := if value.head?.any Char.isDigit then value.filter (· != '_') else value
  divide pieces (most - count) count plain strict

/-- The parts of a key with dots and quotes. -/
def quotedLevels (quoted : Bool) : List (List Char) → List (List Char)
  | [] => []
  | piece :: rest =>
    (if quoted then [piece] else (Text.splitChars ['.'] piece).map trim) ++
      quotedLevels (!quoted) rest

/-- The tables that a key goes through, and the key in the last of them. -/
def keyPath (key : List Char) : Usable (List String × String) :=
  if key.contains '.' then
    let levels :=
      if key.any isQuote then quotedLevels false (cutAtQuotes key)
      else Text.splitChars ['.'] key
    match levels.reverse.dropWhile List.isEmpty with
    | [] => .error endsEarly
    | last :: above =>
      .ok ((above.reverse.filter (!·.isEmpty)).map String.ofList, String.ofList (trim last))
  else
    match key with
    | [] => .error endsEarly
    | c :: _ => do
      if isQuote c && key.getLast? == some c then
        return ([], String.ofList (← unescape (inner key)))
      else return ([], String.ofList key)

/-- Opens the tables that a path goes through. -/
def openTables : List String → Json → Usable Json
  | [], level => .ok level
  | key :: rest, .obj fields => do
    let opened ← openTables rest ((Assoc.get? fields key).getD (.obj []))
    return .obj (Assoc.set fields key opened)
  | _ :: _, _ => .error notTable

/-- Puts a value under a new key of the table at the end of a path. -/
def put (key : String) (value : Json) : List String → Json → Usable Json
  | [], .obj fields =>
    if Assoc.has fields key then .error malformed else .ok (.obj (Assoc.set fields key value))
  | step :: rest, .obj fields => do
    let changed ← put key value rest ((Assoc.get? fields step).getD (.obj []))
    return .obj (Assoc.set fields step changed)
  | _, _ => .error malformed

/-- The last piece of an open list that begins with a quote, joined with what follows. -/
def lastText (last : List Char) : List (List Char) → Usable (List Char)
  | [] => .ok last
  | before :: rest =>
    match last with
    | [] => .error endsEarly
    | c :: _ => if isQuote c then .ok last else lastText (before ++ ',' :: last) rest

/-- Whether a text opens with three quotes that are not closed. -/
def opensLong (p : List Char) : Usable Bool :=
  match p with
  | [] => .error endsEarly
  | c :: rest =>
    if !isQuote c then .ok false
    else
      match rest with
      | [] => .error endsEarly
      | d :: more =>
        if d != c then .ok false
        else
          match more with
          | [] => .error endsEarly
          | e :: _ => .ok (e == c && !(p.length > 5 && (p.reverse.take 3).all (· == c)))

/-- Whether a value goes on in the next line. -/
def isOpen (p : List Char) : Usable Bool :=
  if p.length < 3 then .ok false
  else if p.head? == some '[' && p.getLast? != some ']' && isTextList p then do
    match (Text.splitChars [','] (trim (p.drop 1))).reverse with
    | [] => return false
    | last :: rest => opensLong (← lastText last rest)
  else opensLong p

/-- A value that goes on in the next lines: its key and its text so far; a line that is `joined`
ends in a backslash. -/
structure Pending where
  key : String
  text : List Char
  joined : Bool

/-- What an open value is after a line. -/
def Pending.after (key : String) (text : List Char) : Pending :=
  if endsEscaping text then ⟨key, text.dropLast, true⟩ else ⟨key, text ++ ['\n'], false⟩

/-- A way of reading the text of a value; the truth value says whether a number is well-formed. -/
abbrev ValueReader := Bool → List Char → Usable (Kind × Json)

/-- The values of a list, which have one kind; empty items count for nothing. -/
def readItems (read : ValueReader) : List (List Char) → Option Kind → Usable (List Json)
  | [], _ => .ok []
  | item :: rest, kind =>
    let item := trim item
    if item.isEmpty then readItems read rest kind
    else do
      let (found, v) ← read true item
      if kind.any (· != found) then throw malformed
      return v :: (← readItems read rest (some found))

/-- Carries out an assignment in a table: the table with its value, or the value that is still
open. -/
def assignBy (read : ValueReader) (line : List Char) (table : Json) :
    Usable (Json × Option Pending) := do
  let a ← assignmentOf line
  let (path, key) ← keyPath a.key
  let table ← openTables path table
  if ← isOpen a.value then
    let _ ← put key .null path table
    return (table, some (Pending.after key a.value))
  else
    let (_, v) ← read a.strict a.value
    return (← put key v path table, none)

/-- Carries out assignments until one is left open. -/
def assignAll (read : ValueReader) : List (List Char) → Json → Usable Json
  | [], table => .ok table
  | line :: rest, table => do
    match ← assignBy read line table with
    | (table, none) => assignAll read rest table
    | (table, some _) => return table

/-- The value that a text stands for, nested at most `depth` deep. -/
def readNested : Nat → ValueReader
  | 0, _, _ => .error malformed
  | depth + 1, strict, v =>
    match v with
    | [] => .error malformed
    | c :: _ =>
      if v == "true".toList then .ok (.truth, .bool true)
      else if v == "false".toList then .ok (.truth, .bool false)
      else if isQuote c then do return (.text, .str (← quotedText c v))
      else if c == '[' then do
        return (.list, .arr (← readItems (readNested depth) (← listItems v) none))
      else if c == '{' then do
        return (.table, ← assignAll (readNested depth) (← tableItems v) (.obj []))
      else if isTime v then
        if isClockTime v then .ok (.time, .str (String.ofList v)) else .error malformed
      else if isDate v then .ok (.date, .str (String.ofList v))
      else if !strict then .error malformed
      else do return ofNumber (← number v)

/-- The value that a text stands for.  Values inside it are shorter, so its length bounds how deep
they are nested. -/
def readValue (strict : Bool) (v : List Char) : Usable (Kind × Json) :=
  readNested (v.length + 1) strict v

end ComponentMigration.Toml
