import ComponentMigration.Command.Markup.Literal
import ComponentMigration.Command.Markup.Style
import ComponentMigration.Run.State
import ComponentMigration.Text.Cells
import ComponentMigration.Text.Picture

/-!
# The lines of commands

Commands tell lines, which may be marked up.
-/

namespace ComponentMigration.Markup

/-!
## Marked-up lines

A tag in square brackets begins a style, and the tag with a slash before the style's name ends it; a
slash alone ends the style begun last.  A backslash before a tag lets it stand as text.  What is
shown is the text between the tags.  Ending a style that has not begun is a trouble, and so is
ending an action, which a tag with an at sign begins, unless its parameters are a literal.
-/

/-- A tag: its name, and the parameters behind an equals sign. -/
structure Tag where
  name : String
  parameters : Option String := none
  deriving DecidableEq, Repr

/-- A part of a marked-up line. -/
inductive Part where
  | text (s : String)
  | tag (t : Tag)
  deriving DecidableEq, Repr

/-- The text of a tag after its opening bracket, and what follows its closing bracket. -/
def tagText? (cs : List Char) : Option (List Char × List Char) :=
  match cs with
  | [] => none
  | c :: rest =>
    let body := rest.takeWhile fun d => d != ']' && d != '['
    if (c.isLower || c == '#' || c == '/' || c == '@') && (rest.drop body.length).head? == some ']'
    then some (c :: body, rest.drop (body.length + 1))
    else none

/-- The tag with a text: its name is what stands before an equals sign. -/
def Tag.ofChars (cs : List Char) : Tag :=
  let name := cs.takeWhile (· != '=')
  match cs.drop name.length with
  | [] => ⟨String.ofList name, none⟩
  | _ :: parameters => ⟨String.ofList name, some (String.ofList parameters)⟩

/-- A text without the backslashes before its brackets. -/
def plainPart (cs : List Char) : List Part :=
  if cs.isEmpty then [] else [.text (Text.replace (String.ofList cs) "\\[" "[")]

/-- The parts of a line; `plain` is the text read since the last tag, and `fuel` bounds the
characters. -/
def partsWithin : Nat → List Char → List Char → List Part
  | 0, _, plain => plainPart plain
  | _ + 1, [], plain => plainPart plain
  | fuel + 1, c :: rest, plain =>
    let cs := c :: rest
    let slashes := (cs.takeWhile (· == '\\')).length
    let after := cs.drop slashes
    match if after.head? == some '[' then tagText? (after.drop 1) else none with
    | some (tag, later) =>
      let kept := List.replicate (slashes / 2) '\\'
      let part : Part :=
        if slashes % 2 == 1 then .text ("[" ++ String.ofList tag ++ "]") else .tag (.ofChars tag)
      plainPart plain ++ plainPart kept ++ [part] ++ partsWithin fuel later []
    | none =>
      if slashes == 0 then partsWithin fuel rest (plain ++ [c])
      else partsWithin fuel after (plain ++ List.replicate slashes '\\')

/-- The parts of a line. -/
def parts (s : String) : List Part := partsWithin s.length s.toList []

/-- The trouble with a tag that ends nothing. -/
def unmatched (name : String) : Trouble :=
  ⟨.malformedMarkup, "closing tag '[" ++ name ++ "]' doesn't match any open tag", none⟩

/-- The parameters that an action is given: those in parentheses behind the name of a handler, none
for a name alone, and else the whole text. -/
def actionParameters (parameters : String) : String :=
  let cs := (Text.strip parameters).toList
  match cs.dropWhile fun c => Text.isWordChar c || c == '.' with
  | [] => "()"
  | c :: rest =>
    if c == '(' && rest.getLast? == some ')' && !rest.contains '\n' then
      String.ofList (c :: rest)
    else String.ofList cs

/-- The trouble with an action whose parameters are no literal. -/
def unreadable (parameters : String) : Trouble :=
  ⟨.malformedMarkup, "error parsing " ++ parameters, none⟩

/-- Checks a tag that ends: the parameters of an action have to be a literal. -/
def Tag.finish (t : Tag) : Usable Unit :=
  match t.parameters with
  | some parameters =>
    if Text.startsWith t.name "@" && !parameters.isEmpty && !isLiteral (actionParameters parameters)
    then .error (unreadable parameters)
    else .ok ()
  | none => .ok ()

/-- The tags that are left when a tag with a slash has ended one; the tag begun last comes first. -/
def close (name : String) (begun : List Tag) : Usable (List Tag) := do
  let style := Text.strip (Text.drop 1 name)
  let ended ← if style.isEmpty then pure begun.head?
    else do
      let usual ← usualName style
      pure (begun.find? (·.name == usual))
  match ended with
  | some t =>
    t.finish
    return begun.erase t
  | none => throw (unmatched name)

/-- The texts between the tags; `begun` are the tags that have not ended. -/
def texts : List Part → List Tag → Usable (List String)
  | [], _ => .ok []
  | .text s :: rest, begun => do return Text.withPictures s :: (← texts rest begun)
  | .tag t :: rest, begun =>
    if Text.startsWith t.name "/" then do texts rest (← close t.name begun)
    else do texts rest ({ t with name := ← usualName t.name } :: begun)

/-- Controls that are not shown. -/
def isHidden (c : Char) : Bool := [7, 8, 11, 12, 13].contains c.toNat

/-- Tabs become spaces up to the next of the columns that are eight apart.  `part` holds the
characters since the last tab or line feed, the latest first, and `column` is where they begin. -/
def expandTabs (column : Nat) (part : List Char) : List Char → List Char
  | [] => part.reverse
  | '\n' :: rest => part.reverse ++ '\n' :: expandTabs 0 [] rest
  | '\t' :: rest =>
    let stop := column + Text.cellCount (part.reverse ++ [' '])
    let spaces := (8 - stop % 8) % 8
    part.reverse ++ List.replicate (spaces + 1) ' ' ++ expandTabs (stop + spaces) [] rest
  | c :: rest => expandTabs column (c :: part) rest

/-- What a marked-up line shows. -/
def shown (line : String) : Usable String := do
  let pieces ← texts (parts line) []
  let cs := (String.join pieces).toList.filter (!isHidden ·)
  return String.ofList (expandTabs 0 [] cs)

end ComponentMigration.Markup

namespace ComponentMigration

/-!
## What commands tell

A command tells lines and faults, and ends with a code.
-/

/-- What a command has told: plain lines and faults. -/
structure Console where
  lines : List String := []
  faults : List Fault := []

namespace Console

/-- Tells a line. -/
def say (c : Console) (line : String) : Console := { c with lines := c.lines ++ [line] }

/-- Tells a marked-up line. -/
def print (c : Console) (line : String) : Usable Console := do return c.say (← Markup.shown line)

/-- Tells a fault. -/
def report (c : Console) (f : Fault) : Console := { c with faults := c.faults ++ [f] }

end Console

/-- How a command ends: what it has told, its exit code, and the failure that broke it off, if one
did. -/
structure CommandOutcome where
  console : Console := {}
  exit : Nat := 0
  crash : Option Failure := none

namespace CommandOutcome

/-- A command that ends by a failure that nobody handles. -/
def crashed (console : Console) (failure : Failure) : CommandOutcome :=
  { console := console, exit := 1, crash := some failure }

/-- A command line that cannot be used. -/
def unusable : CommandOutcome := { exit := 2 }

end CommandOutcome

/-- The exit code of a fault: by its category. -/
def Fault.exitCode (f : Fault) : Nat :=
  match f.category with
  | .fileSystem => 4
  | .generation => 2
  | .businessLogic => 3
  | _ => 1

/-- Ends a command by telling a fault. -/
def CommandOutcome.failed (console : Console) (f : Fault) : CommandOutcome :=
  { console := console.report f, exit := f.exitCode }

/-- Whether a trouble is one of the file system. -/
def Trouble.isSystem (t : Trouble) : Bool :=
  t.sort.family == .system || t.sort.family == .timeout

/-- Runs a computation as a run of its own with given settings; only the disk and the waiting times
are handed on. -/
def Run.withSettings (settings : Settings) (x : Run α) : Run α := do
  modify fun s => { RunState.ofSettings settings s.disk with slept := s.slept }
  withReader (fun c : RunContext => { c with settings := settings }) x

end ComponentMigration
