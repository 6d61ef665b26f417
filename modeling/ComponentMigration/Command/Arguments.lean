import ComponentMigration.Assoc
import ComponentMigration.Path
import ComponentMigration.Text.Basic
import ComponentMigration.Text.Numeral

/-!
# Words of a command line

Options may stand before and after arguments; `--` ends the options.  Long options take their value
after `=` or as the next word, short ones also directly after the letter, and flags of one letter
may stand together.  Of an option that is given twice the last value counts.
-/

namespace ComponentMigration

/-- What a command line gets wrong. -/
inductive UsageError where
  | unknownOption (word : String)
  | missingValue (option : String)
  | unexpectedValue (option : String)
  | unknownCommand (word : String)
  | missingCommand
  | missingArgument (name : String)
  | extraArgument (word : String)
  | badInteger (word : String)
  | badPath (word : String)
  deriving DecidableEq, Repr

/-- An option: how it is written, and whether it takes a value.  It is known by its first spelling.
-/
structure OptionSpec where
  spellings : List String
  takesValue : Bool := true
  deriving DecidableEq, Repr

/-- The name by which an option is known. -/
def OptionSpec.name (o : OptionSpec) : String := o.spellings.headD ""

/-- The words of a command line, sorted out. -/
structure Words where
  options : Assoc String := []
  arguments : List String := []
  deriving DecidableEq, Repr

namespace Words

/-- Notes an option with its value. -/
def setOption (w : Words) (o : OptionSpec) (value : String) : Words :=
  { w with options := w.options.set o.name value }

/-- Whether an option was given. -/
def has (w : Words) (name : String) : Bool := Assoc.has w.options name

/-- The value of an option. -/
def value? (w : Words) (name : String) : Option String := Assoc.get? w.options name

/-- The option with a spelling. -/
def spec? (specs : List OptionSpec) (spelling : String) : Option OptionSpec :=
  specs.find? (·.spellings.contains spelling)

/-- What a word with short options asks for: a value for its last option may be the rest of the word
or the next word. -/
inductive ShortOutcome where
  | done (words : Words)
  | needsValue (words : Words) (option : OptionSpec)

/-- Reads short options that stand together. -/
def shortOptions (specs : List OptionSpec) : List Char → Words → Except UsageError ShortOutcome
  | [], w => .ok (.done w)
  | c :: rest, w =>
    match spec? specs (String.ofList ['-', c]) with
    | none => .error (.unknownOption (String.ofList ['-', c]))
    | some o =>
      if o.takesValue then
        if rest.isEmpty then .ok (.needsValue w o)
        else .ok (.done (w.setOption o (String.ofList rest)))
      else shortOptions specs rest (w.setOption o "")

/-- A word cut at its first equals sign. -/
def splitValue (word : String) : String × Option String :=
  let cs := word.toList
  let name := cs.takeWhile (· != '=')
  (String.ofList name,
    if name.length < cs.length then some (String.ofList (cs.drop (name.length + 1))) else none)

/-- Reads one option word: what has been read then, or the option that needs the next word. -/
def optionWord (specs : List OptionSpec) (word : String) (w : Words) :
    Except UsageError ShortOutcome :=
  let (name, given) := splitValue word
  match (spec? specs name).filter fun _ => Text.startsWith name "--" with
  | some o =>
    match given with
    | some v =>
      if o.takesValue then .ok (.done (w.setOption o v)) else .error (.unexpectedValue name)
    | none => if o.takesValue then .ok (.needsValue w o) else .ok (.done (w.setOption o ""))
  | none =>
    if Text.startsWith word "--" then .error (.unknownOption name)
    else shortOptions specs (word.toList.drop 1) w

/-- Whether a word has options in it. -/
def isOptionWord (word : String) : Bool := Text.startsWith word "-" && word.length > 1

/-- Sorts words out; `waiting` is an option that takes the next word. -/
def readAll (specs : List OptionSpec) : List String → Option OptionSpec → Words →
    Except UsageError Words
  | [], none, w => .ok w
  | [], some o, _ => .error (.missingValue o.name)
  | word :: rest, some o, w => readAll specs rest none (w.setOption o word)
  | word :: rest, none, w =>
    if word == "--" then .ok { w with arguments := w.arguments ++ rest }
    else if isOptionWord word then
      match optionWord specs word w with
      | .error e => .error e
      | .ok (.done w) => readAll specs rest none w
      | .ok (.needsValue w o) => readAll specs rest (some o) w
    else readAll specs rest none { w with arguments := w.arguments ++ [word] }

end Words

/-- What `migrate` is asked for. -/
structure MigrateRequest where
  name : Option String := none
  source : Path := Path.ofText "."
  output : Path := Path.ofText "./migrated"
  dryRun : Bool := false
  skipTests : Bool := false
  verbose : Bool := false
  resume : Bool := false
  rollback : Bool := false
  cleanup : Bool := false
  regenerate : Option String := none
  config : Option Path := none
  deriving DecidableEq, Repr

/-- What `analyze` is asked for. -/
structure AnalyzeRequest where
  root : Path
  mode : Option String := none
  output : Option Path := none
  threshold : Option Int := none
  dryRun : Bool := false
  parallel : Bool := false
  verbose : Bool := false
  config : Option Path := none
  deriving DecidableEq, Repr

/-- What a command line asks for. -/
inductive Invocation where
  | version
  | help
  | migrate (request : MigrateRequest)
  | analyze (request : AnalyzeRequest)
  deriving DecidableEq, Repr

namespace Invocation

/-- The options of `migrate`. -/
def migrateOptions : List OptionSpec :=
  [⟨["--source", "-s"], true⟩, ⟨["--output", "-o"], true⟩, ⟨["--dry-run"], false⟩,
    ⟨["--skip-tests"], false⟩, ⟨["--verbose", "-v"], false⟩, ⟨["--resume"], false⟩,
    ⟨["--rollback"], false⟩, ⟨["--cleanup"], false⟩, ⟨["--regenerate"], true⟩,
    ⟨["--config"], true⟩, ⟨["--help"], false⟩]

/-- The options of `analyze`. -/
def analyzeOptions : List OptionSpec :=
  [⟨["--mode"], true⟩, ⟨["--output", "-o"], true⟩, ⟨["--threshold"], true⟩,
    ⟨["--dry-run"], false⟩, ⟨["--parallel"], false⟩, ⟨["--verbose", "-v"], false⟩,
    ⟨["--config"], true⟩, ⟨["--help"], false⟩]

/-- A path, in which no null character may stand. -/
def path (s : String) : Except UsageError Path :=
  if s.toList.contains '\x00' then .error (.badPath s) else .ok (Path.ofText s)

/-- An optional path. -/
def path? : Option String → Except UsageError (Option Path)
  | none => .ok none
  | some s => (path s).map some

/-- The words of `migrate`. -/
def ofMigrateWords (w : Words) : Except UsageError Invocation :=
  if w.has "--help" then .ok .help
  else
    match w.arguments.drop 1 with
    | extra :: _ => .error (.extraArgument extra)
    | [] => do
      return .migrate
        { name := w.arguments.head?
          source := ← path ((w.value? "--source").getD ".")
          output := ← path ((w.value? "--output").getD "./migrated")
          dryRun := w.has "--dry-run"
          skipTests := w.has "--skip-tests"
          verbose := w.has "--verbose"
          resume := w.has "--resume"
          rollback := w.has "--rollback"
          cleanup := w.has "--cleanup"
          regenerate := w.value? "--regenerate"
          config := ← path? (w.value? "--config") }

/-- An optional integer. -/
def integer? : Option String → Except UsageError (Option Int)
  | none => .ok none
  | some s =>
    match Text.plainInteger? s with
    | some n => .ok (some n)
    | none => .error (.badInteger s)

/-- The words of `analyze`. -/
def ofAnalyzeWords (w : Words) : Except UsageError Invocation :=
  if w.has "--help" then .ok .help
  else
    match w.arguments with
    | [] => .error (.missingArgument "ROOT")
    | [root] => do
      return .analyze
        { root := ← path root
          mode := w.value? "--mode"
          output := ← path? (w.value? "--output")
          threshold := ← integer? (w.value? "--threshold")
          dryRun := w.has "--dry-run"
          parallel := w.has "--parallel"
          verbose := w.has "--verbose"
          config := ← path? (w.value? "--config") }
    | _ :: extra :: _ => .error (.extraArgument extra)

/-- The words of a command. -/
def ofCommand (command : String) (words : List String) : Except UsageError Invocation :=
  if command == "migrate" then do ofMigrateWords (← Words.readAll migrateOptions words none {})
  else if command == "analyze" then do
    ofAnalyzeWords (← Words.readAll analyzeOptions words none {})
  else .error (.unknownCommand command)

/-- The options before the command: those given so far, and the command with its words. -/
def general : List String → List String → Except UsageError Invocation
  | [], given => if given.isEmpty then .error .missingCommand else .ok (answer given)
  | word :: rest, given =>
    if word == "--version" || word == "--help" then general rest (given ++ [word])
    else if word == "--" then
      match rest with
      | command :: words => if given.isEmpty then ofCommand command words else .ok (answer given)
      | [] => if given.isEmpty then .error .missingCommand else .ok (answer given)
    else if Words.isOptionWord word then .error (.unknownOption word)
    else if given.isEmpty then ofCommand word rest
    else .ok (answer given)
where
  answer (given : List String) : Invocation :=
    if given.head? == some "--version" then .version else .help

/-- What the words of a command line ask for. -/
def ofWords (words : List String) : Except UsageError Invocation := general words []

end Invocation

end ComponentMigration
