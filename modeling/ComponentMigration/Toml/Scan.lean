import ComponentMigration.Text.Basic
import ComponentMigration.Text.Letters
import ComponentMigration.Trouble

/-!
# Scanning configuration files

The scan goes through the characters of a file once and gives its lines.  It blanks comments, joins
the lines of a list that is still open, and checks that every key is well-formed and has a value.  A
text in three quotes may go over several lines, and a line feed right after its opening is dropped.
A row of quotes goes around the file: its first character is taken to follow its last ones.
-/

namespace ComponentMigration.Toml

/-- The trouble with a text that does not follow the notation. -/
def malformed : Trouble := ⟨.malformedToml, "", none⟩

/-- The trouble with a text that ends too early. -/
def endsEarly : Trouble := ⟨.badIndex, "the text ends too early", none⟩

/-- The trouble with a value that should be a table. -/
def notTable : Trouble := ⟨.wrongType, "not a table", none⟩

/-- Whether a character is a quote. -/
def isQuote (c : Char) : Bool := c == '"' || c == '\''

/-- Where a scan stands with regard to a key: not in one, in one of its parts, or behind a part. -/
inductive KeyState where
  | outside
  | within
  | behind
  deriving DecidableEq, Repr

/-- The brackets of a header that is being scanned. -/
inductive Heading where
  | none
  | single
  | double
  deriving DecidableEq, Repr

/-- The state of a scan: the characters kept so far, the latest first, those at the end of the file,
the last first, and what is open. -/
structure Scan where
  kept : List Char := []
  ending : List Char := []
  keyState : KeyState := .outside
  dotted : Bool := false
  quote : Option Char := none
  multiline : Bool := false
  heading : Heading := .none
  openLists : Int := 0
  atLineStart : Bool := true
  inComment : Bool := false
  deriving Repr

namespace Scan

/-- The scan with one more character kept. -/
def keep (s : Scan) (c : Char) : Scan := { s with kept := c :: s.kept }

/-- Ends a key, which only an equality sign does. -/
def endKey (s : Scan) (c : Char) : Usable Scan :=
  if c == '=' then .ok { s.keep c with keyState := .outside, dotted := false }
  else .error malformed

/-- Goes on behind a part of a key with dots: a new part begins at the next character unless that is
a blank or a dot. -/
def resume (s : Scan) (next : Option Char) : Usable Scan :=
  match next with
  | none => .error endsEarly
  | some n => .ok (if Text.isBlank n || n == '.' then s else { s with keyState := .within })

/-- Whether an odd number of backslashes stands right before the next character. -/
def isBehindBackslash (s : Scan) : Bool := (s.kept.takeWhile (· == '\\')).length % 2 == 1

/-- A character of a key.  A part in quotes ends with the same quote, unless a backslash escapes it,
in apostrophes as well. -/
def inKey (s : Scan) (c : Char) (next : Option Char) : Usable Scan :=
  if c == '\n' then .error malformed
  else
    match s.quote, s.keyState with
    | some q, _ =>
      .ok (if c == q && !s.isBehindBackslash then
          { s.keep c with quote := none, keyState := .behind }
        else s.keep c)
    | none, .within =>
      if Text.isBlank c then .ok { s.keep c with keyState := .behind }
      else if c == '.' then .ok { s.keep c with dotted := true }
      else if Text.isWordChar c || c == '-' then .ok (s.keep c)
      else if s.dotted && s.kept.head? == some '.' && isQuote c then
        .ok { s.keep c with quote := some c }
      else s.endKey c
    | none, _ =>
      if Text.isBlank c then if s.dotted then (s.keep c).resume next else .ok (s.keep c)
      else if c == '.' then { s.keep c with dotted := true }.resume next
      else s.endKey c

/-- The characters before the next one, the latest first. -/
def before (s : Scan) : List Char :=
  match s.kept with
  | [] => s.ending
  | [c] => c :: s.ending
  | kept => kept

/-- Whether a quote closes a row of three. -/
def isThird (s : Scan) (q : Char) : Bool := s.before.take 2 == [q, q]

/-- Whether the quote that comes next is escaped: an odd number of backslashes stands before it, or
before the row of three that it closes. -/
def isEscaped (s : Scan) : Bool :=
  let before := if s.isThird '"' then s.before.drop 2 else s.before
  (before.takeWhile (· == '\\')).length % 2 == 1

/-- The scan with its quote opened or closed by a quote. -/
def toggle (s : Scan) (q : Char) : Scan :=
  if s.isThird q then
    { s with multiline := !s.multiline, quote := if s.multiline then none else some q }
  else { s with quote := if s.quote.isSome then none else some q }

/-- What a quote opens or closes. -/
def atQuote (s : Scan) (c : Char) : Scan :=
  if c == '\'' && s.quote != some '"' then s.toggle c
  else if c == '"' && s.quote != some '\'' then if s.isEscaped then s else s.toggle c
  else s

/-- What a bracket outside of quotes opens or closes. -/
def atBracket (s : Scan) (c : Char) (next : Option Char) : Scan :=
  if s.quote.isSome then s
  else if c == '[' && s.heading == .none then
    if s.atLineStart then { s with heading := if next == some '[' then .double else .single }
    else { s with openLists := s.openLists + 1 }
  else if c == ']' then
    match s.heading with
    | .single => { s with heading := .none }
    | .double => if s.kept.head? == some ']' then { s with heading := .none } else s
    | .none => { s with openLists := s.openLists - 1 }
  else s

/-- A line feed in a text of several lines; right after the opening quotes it is dropped, by moving
them. -/
def inMultiline (s : Scan) : Scan :=
  match s.kept with
  | p :: q :: rest =>
    if isQuote p && p == q then
      match rest with
      | r :: more => { s with kept := p :: p :: q :: (if r == p then ' ' else r) :: more }
      | [] => { s with kept := [p, p, q] }
    else s.keep '\n'
  | _ => s.keep '\n'

/-- A line feed outside of keys. -/
def atLineEnd (s : Scan) : Usable Scan :=
  if s.multiline then .ok s.inMultiline
  else if s.quote.isSome then .error malformed
  else if s.openLists != 0 then .ok (s.keep ' ')
  else .ok { s.keep '\n' with atLineStart := true }

/-- The first character of a line that is no space; unless it opens a header, a key begins with it.
-/
def beginLine (s : Scan) (c : Char) : Usable Scan :=
  let s := { s with atLineStart := false }
  if s.heading != .none then .ok (s.keep c)
  else if c == '=' then .error malformed
  else .ok { s.keep c with keyState := .within }

/-- A character outside of keys and comments. -/
def outsideKey (s : Scan) (c : Char) (next : Option Char) : Usable Scan :=
  if c == '\n' then s.atLineEnd
  else if c == '#' && s.quote.isNone && s.heading == .none then
    .ok { s.keep ' ' with inComment := true }
  else
    let s := (s.atQuote c).atBracket c next
    if s.atLineStart && c != ' ' && c != '\t' then s.beginLine c else .ok (s.keep c)

/-- One character, given the next one. -/
def step (s : Scan) (c : Char) (next : Option Char) : Usable Scan :=
  if s.inComment && c != '\n' then .ok (s.keep ' ')
  else
    let s := { s with inComment := false }
    if s.keyState == .outside then s.outsideKey c next else s.inKey c next

/-- All characters of a text. -/
def run (s : Scan) : List Char → Usable Scan
  | [] => .ok s
  | c :: rest => do (← s.step c rest.head?).run rest

end Scan

/-- The lines of a file after the scan; no key and no text may be left open. -/
def scanLines (text : String) : Usable (List (List Char)) := do
  let s ← ({ ending := text.toList.reverse } : Scan).run text.toList
  if s.keyState != .outside || s.quote.isSome then .error malformed
  else return Text.splitChars ['\n'] s.kept.reverse

end ComponentMigration.Toml
