import ComponentMigration.Source.Node
import ComponentMigration.Text.Basic
import ComponentMigration.Text.Letters

/-!
# Texts of generated modules

Texts of generated modules: lines of code, indentation, documentation comments, and the passage from
members of an instance to local names.
-/

namespace ComponentMigration

/-- The lines that are neither blank nor line comments. -/
def countLoc (code : String) : Nat :=
  ((Text.lines code).filter fun line =>
    let s := Text.strip line
    !s.isEmpty && !Text.startsWith s "//").length

/-- The indentation of generated code. -/
def indentUnit : String := "  "

/-- Drops the first `n` characters; a negative number counts from the end. -/
def dropInt (n : Int) (s : String) : String :=
  if n ≥ 0 then Text.drop n.toNat s else Text.drop (s.length - (-n).toNat) s

/-- A line of a re-indented text. -/
def reindentLine (anchor : Int) (indent : String) (first : Bool) (line : String) : String :=
  let line := if first then line else dropInt (min anchor (Text.leadingSpaces line)) line
  if Text.isBlankText line then "" else indent ++ line

/-- A text moved onto an indentation: lines after the first lose `anchor` columns. -/
def reindent (text : String) (anchor : Int) (indent : String) : String :=
  match Text.lines text with
  | [] => ""
  | line :: rest =>
    String.intercalate "\n"
      (reindentLine anchor indent true line :: rest.map (reindentLine anchor indent false))

/-- The indentation of the source line on which a node starts. -/
def lineIndent (lines : List String) (n : Node) : Nat :=
  match n.info.startLine with
  | 0 => ((lines.getLast?).map Text.leadingSpaces).getD 0
  | k + 1 => ((lines[k]?).map Text.leadingSpaces).getD 0

/-- A documentation comment.  An end mark inside the text is broken up. -/
def docComment (text indent : String) : List String :=
  [indent ++ "/**"] ++
    ((Text.lines (Text.replace text "*/" "* /")).map fun line =>
      Text.stripEnd (indent ++ " * " ++ line)) ++
    [indent ++ " */"]

/-- Replaces, from left to right, every place that `find` recognises.  `find` is given the character
before the place and the text from it on, and tells how many characters the place has and what comes
instead. -/
def substitute (find : Option Char → List Char → Option (Nat × List Char)) :
    Option Char → Nat → List Char → List Char
  | _, _, [] => []
  | _, skip + 1, c :: rest => substitute find (some c) skip rest
  | before, 0, c :: rest =>
    match find before (c :: rest) with
    | some (n, new) => new ++ substitute find (some c) (n - 1) rest
    | none => c :: substitute find (some c) 0 rest

/-- Whether a word starts here: the character before is none of a word. -/
def startsWord (before : Option Char) : Bool := !(before.any Text.isWordChar)

/-- Whether a word ends here: the next character is none of a word. -/
def endsWord (rest : List Char) : Bool := !(rest.head?.any Text.isWordChar)

/-- An access to the props of an instance. -/
def findProps (before : Option Char) (cs : List Char) : Option (Nat × List Char) :=
  let part := "this.props".toList
  if startsWord before && part.isPrefixOf cs && endsWord (cs.drop part.length) then
    some (part.length, "props".toList)
  else none

/-- An access to a field of an instance's state, with its dot. -/
def findStateField (before : Option Char) (cs : List Char) : Option (Nat × List Char) :=
  let part := "this.state".toList
  if startsWord before && part.isPrefixOf cs then
    let rest := cs.drop part.length
    match rest.dropWhile Text.isBlank with
    | '.' :: after => some (cs.length - (after.dropWhile Text.isBlank).length, [])
    | _ => none
  else none

/-- An access to an instance's state as a whole. -/
def findBareState (before : Option Char) (cs : List Char) : Option (Nat × List Char) :=
  let part := "this.state".toList
  if startsWord before && part.isPrefixOf cs then
    let rest := cs.drop part.length
    if endsWord rest && (rest.dropWhile Text.isBlank).head? != some '.' then
      some (part.length, "state".toList)
    else none
  else none

/-- Any other access to an instance. -/
def findInstance (before : Option Char) (cs : List Char) : Option (Nat × List Char) :=
  let part := "this.".toList
  if startsWord before && part.isPrefixOf cs then some (part.length, []) else none

/-- Maps members of an instance onto local names: props, fields of the state, the state as a whole,
and everything else. -/
def withLocalNames (text : String) : String :=
  let cs := substitute findProps none 0 text.toList
  let cs := substitute findStateField none 0 cs
  let cs := substitute findBareState none 0 cs
  String.ofList (substitute findInstance none 0 cs)

/-- Whether a place is recognised somewhere in a text. -/
def foundIn (find : Option Char → List Char → Option (Nat × List Char)) :
    Option Char → List Char → Bool
  | _, [] => false
  | before, c :: rest => (find before (c :: rest)).isSome || foundIn find (some c) rest

/-- Whether a text reads an instance's state as a whole. -/
def readsBareState (text : String) : Bool := foundIn findBareState none text.toList

end ComponentMigration
