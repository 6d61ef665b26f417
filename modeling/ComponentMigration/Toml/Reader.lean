import ComponentMigration.Toml.Value

/-!
# Reading configuration files

A header in brackets opens a table, and the assignments on the lines after it go into that table.
No table may be opened twice, except for one that came to be only as the way to another one.  A
header in double brackets adds a table to a list of tables; a way through such a list leads into its
last table.
-/

namespace ComponentMigration.Toml

/-- A step into a value: to a key of a table, or to the last item of a list. -/
inductive Step where
  | key (name : String)
  | last
  deriving DecidableEq, Repr

/-- Changes what stands at the end of a way, and tells something of the change. -/
def changeAt (change : Json → Usable (Json × α)) : List Step → Json → Usable (Json × α)
  | [], v => change v
  | .key name :: rest, .obj fields => do
    let (changed, a) ← changeAt change rest ((Assoc.get? fields name).getD .null)
    return (.obj (Assoc.set fields name changed), a)
  | .last :: rest, .arr items =>
    match items.getLast? with
    | none => .error endsEarly
    | some v => do
      let (changed, a) ← changeAt change rest v
      return (.arr (items.dropLast ++ [changed]), a)
  | _ :: _, _ => .error notTable

/-! ### Headers -/

/-- Whether a name ends with the quote that it begins with. -/
def isQuotedName (name : List Char) : Bool := name.length > 1 && name.head? == name.getLast?

/-- Joins the parts of a quoted name that has dots in it: the name without its quotes, and the parts
behind it. -/
def joinName (name : List Char) : List (List Char) → Usable (List Char × List (List Char))
  | [] => if isQuotedName (trim name) then .ok (inner (trim name), []) else .error malformed
  | next :: rest =>
    if isQuotedName (trim name) then .ok (inner (trim name), next :: rest)
    else joinName (name ++ '.' :: next) rest

/-- Whether a name needs no quotes. -/
def isPlainName (name : List Char) : Bool :=
  !name.isEmpty && name.all fun c => c.isAlphanum || c == '_' || c == '-'

/-- The names in a header, whose parts between dots are given; `count` bounds their number. -/
def headerNames : Nat → List (List Char) → Usable (List String)
  | 0, _ => .ok []
  | _ + 1, [] => .ok []
  | count + 1, part :: rest => do
    let name := trim part
    if name.head?.any isQuote then
      let (name, rest) ← joinName name rest
      return String.ofList name :: (← headerNames count rest)
    else if isPlainName name then return String.ofList name :: (← headerNames count rest)
    else throw malformed

/-- A header: whether it adds to a list of tables, and the names on the way to its table. -/
structure Header where
  double : Bool
  names : List String

/-- The header on a line that begins with a bracket. -/
def Header.ofLine (line : List Char) : Usable Header := do
  let double := (line.drop 1).head? == some '['
  let mark := if double then [']', ']'] else [']']
  let content := line.drop mark.length
  let count := 1 + marksBefore mark false (cutAtQuotes content)
  let pieces := cutAt mark count content
  if pieces.length ≤ count || !(pieces.getLast?.any (·.all Text.isBlank)) then throw malformed
  let parts := Text.splitChars ['.'] (joinBy mark pieces.dropLast)
  return ⟨double, ← headerNames parts.length parts⟩

/-- A new table, or a list of one new table at the end of a header in double brackets. -/
def fresh (double isEnd : Bool) : Json := if double && isEnd then .arr [.obj []] else .obj []

/-- What a header finds under a name: the value there, and the names of tables that are only the way
to another one. -/
def meet (double isEnd : Bool) (name : String) (passed : List String) (found : Option Json) :
    Usable (Json × List String) :=
  match found with
  | none => .ok (fresh double isEnd, if isEnd then passed else passed ++ [name])
  | some v =>
    if !isEnd then .ok (v, passed)
    else if passed.contains name then
      if double then .error malformed else .ok (v, passed.erase name)
    else if double then
      match v with
      | .arr items => .ok (.arr (items ++ [.obj []]), passed)
      | _ => .error notTable
    else .error malformed

/-- Where a header goes on from a value: a header in double brackets goes into the last item of a
list. -/
def onward (double : Bool) (v : Json) : Usable (List Step) :=
  match double, v with
  | true, .arr [] => .error endsEarly
  | true, .arr _ => .ok [.last]
  | true, .obj _ => .ok []
  | true, _ => .error notTable
  | false, _ => .ok []

/-- Opens the table of a header below a value: the changed value, the way to the table, and the
names of tables that are only the way to another one. -/
def enter (double : Bool) : List String → List String → Json →
    Usable (Json × List Step × List String)
  | [], passed, level => .ok (level, [], passed)
  | name :: rest, passed, level => do
    if name.isEmpty then throw malformed
    let isEnd := rest.isEmpty
    let goOn := fun (v : Json) (passed : List String) => do
      let steps ← onward double v
      match steps, v with
      | [.last], .arr items =>
        let (changed, way, passed) ← enter double rest passed (items.getLast?.getD .null)
        return (Json.arr (items.dropLast ++ [changed]), Step.last :: way, passed)
      | _, _ => enter double rest passed v
    match level with
    | .obj fields =>
      let (v, passed) ← meet double isEnd name passed (Assoc.get? fields name)
      let (changed, way, passed) ← goOn v passed
      return (.obj (Assoc.set fields name changed), .key name :: way, passed)
    | .arr items =>
      match items.getLast? with
      | none => throw endsEarly
      | some (.obj fields) =>
        let (changed, way, passed) ←
          goOn ((Assoc.get? fields name).getD (fresh double isEnd)) passed
        return (.arr (items.dropLast ++ [.obj (Assoc.set fields name changed)]),
          .last :: .key name :: way, passed)
      | some _ => throw notTable
    | .str "" => throw endsEarly
    | _ => throw notTable

/-! ### Lines -/

/-- What has been read of a file: its tables, the way to the open one, the names of tables that are
only the way to another one, and a value that is still open. -/
structure Reading where
  root : Json := .obj []
  way : List Step := []
  passed : List String := []
  pending : Option Pending := none

namespace Reading

/-- Whether a line ends a value that is open. -/
def isClosing (text line : List Char) : Usable Bool :=
  match text with
  | '[' :: _ =>
    match line.getLast? with
    | some c => .ok (c == ']')
    | none => .error endsEarly
  | q :: _ => .ok (line.length > 2 && (line.reverse.take 3).all (· == q))
  | [] => .error endsEarly

/-- Goes on with an open value. -/
def goOn (r : Reading) (p : Pending) (line : List Char) : Usable Reading := do
  let text := p.text ++ line
  if ← isClosing text line then
    let (_, v) ← readValue true text
    let (root, ()) ← changeAt (fun level => match level with
      | .obj fields => .ok (.obj (Assoc.set fields p.key v), ())
      | _ => .error notTable) r.way r.root
    return { r with root := root, pending := none }
  else return { r with pending := some (Pending.after p.key text) }

/-- Opens the table of a header. -/
def openTable (r : Reading) (line : List Char) : Usable Reading := do
  let header ← Header.ofLine line
  let (root, way, passed) ← enter header.double header.names r.passed r.root
  return { r with root := root, way := way, passed := passed }

/-- Carries out an assignment. -/
def assign (r : Reading) (line : List Char) : Usable Reading := do
  let (root, pending) ←
    changeAt (assignBy (readNested (line.length + 1)) line) r.way r.root
  return { r with root := root, pending := pending }

/-- Carries out the assignments in braces on a line. -/
def assignInBraces (r : Reading) (line : List Char) : Usable Reading := do
  if line.getLast? != some '}' then throw malformed
  let items ← tableItems line
  let (root, ()) ← changeAt (fun level => do
    return (← assignAll (readNested (line.length + 1)) items level, ())) r.way r.root
  return { r with root := root }

/-- Reads a line. -/
def line (r : Reading) (text : List Char) : Usable Reading :=
  match r.pending with
  | some p =>
    let text := if p.joined || !p.text.contains '\n' then trim text else text
    if text.isEmpty && p.joined then .ok r else r.goOn p text
  | none =>
    let text := trim text
    match text.head? with
    | none => .ok r
    | some '[' => r.openTable text
    | some '{' => r.assignInBraces text
    | some _ => if text.contains '=' then r.assign text else .ok r

end Reading

/-- The tables of a configuration file. -/
def parse (s : String) : Usable (Assoc Json) := do
  let r ← (← scanLines s).foldlM Reading.line {}
  return r.root.fields

end ComponentMigration.Toml
