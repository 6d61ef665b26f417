import ComponentMigration.Structure.Basic
import ComponentMigration.Fault.Recovery

/-!
# Parsing one unit within a run

The source is given or read from disk.  Reading goes through the recovery strategies, and every
failure except cancellation ends in an unsuccessful outcome.
-/

namespace ComponentMigration

/-- The document of a file, by the grammar of its name's ending. -/
def Run.parseAs (path : Path) (source : String) : Run Document := do
  match Language.ofPath? path with
  | none => Run.fault (Fault.of .configuration ("Unsupported file type: " ++ path.extension))
  | some language => return Document.parse (← read).grammar language path.toText source

/-- The outcome of a unit that could not be parsed. -/
def failedParse (component : Component) (f : Fault) (manualReview : Bool) : ParseOutcome :=
  let listed := match f.context.data.get? "syntax_errors" with
    | some (.arr (item :: items)) => (item :: items).filterMap Json.text?
    | _ => [f.message]
  { unitId := component.id
    success := false
    errors := listed
    requiresManualReview := manualReview }

/-- How a unit's file is read: its size is looked up before its text is taken. -/
structure SourceFile where
  size : Run Nat
  text : Run String

/-- The file at a path of the disk. -/
def SourceFile.ofPath (path : Path) : SourceFile :=
  ⟨Run.onDisk fun d => (d.size path, d), Run.onDisk (·.readText path)⟩

/-- The text of a file, if it is not too large. -/
def SourceFile.take (file : SourceFile) : Run String := do
  let size ← file.size
  let limit ← Run.use (← read).settings.parser.maxFileSize
  if limit.isLess (.whole size) then
    Run.fault (Fault.of .parsing ("File too large (" ++ toString size ++ " bytes)") {} none false)
  else file.text

/-- The text of a unit's file; bytes that are no text and errors of the system are told as faults. -/
def Run.readSource (component : Component) (file : SourceFile) : Run String := do
  match ← Run.attempt file.take with
  | .ok s => return s
  | .error (.trouble t) =>
    if t.sort == .undecodable then
      Run.fault (Fault.of .parsing ("Could not decode " ++ component.filePath ++ ": " ++ t.text) {}
        (some (.trouble t.sort)))
    else if t.sort.family == .system || t.sort.family == .timeout then
      Run.fault (Fault.of .fileSystem ("Could not read " ++ component.filePath ++ ": " ++ t.text) {}
        (some (.trouble t.sort)))
    else Run.trouble t
  | .error failure => throw failure

/-- The source of a unit: the given text, if it is not too large, or else the text of its file. -/
def Run.sourceOf (component : Component) (file : SourceFile) (source : Option String) :
    Run String := do
  match source with
  | none => Run.readSource component file
  | some text =>
    let limit ← Run.use (← read).settings.parser.maxFileSize
    if limit.isLess (.whole (Text.byteCount text)) then
      Run.fault (Fault.of .parsing "File too large" {} none false)
    else return text

/-- Parses a unit from its source. -/
def Run.parseText (component : Component) (text : String) : Run ParseOutcome := do
  let document ← Run.parseAs (Path.ofText component.absolutePath) text
  if document.hasErrors then
    let errors := document.describeErrors 5
    Run.fault (Fault.of .parsing ("Syntax errors: " ++ String.intercalate "; " errors)
      { data := [("syntax_errors", Json.texts errors)] })
  else return analyzeDocument component document

/-- Parses a unit once. -/
def Run.parseOnce (component : Component) (file : SourceFile) (source : Option String) :
    Run ParseOutcome := do
  Run.parseText component (← Run.sourceOf component file source)

/-- Parses a unit; failures come back as an unsuccessful outcome. -/
def Run.parseFrom (component : Component) (file : SourceFile) (source : Option String) :
    Run ParseOutcome := do
  let context ← Run.place component.id (some "parse") component.filePath none
  match ← Run.attempt (Run.withRecovery (Run.parseOnce component file source) context
      fun f r => failedParse component f r.requiresManualReview) with
  | .ok outcome => return outcome
  | .error (.fault f) =>
    if f.cls == .cancelled then Run.fault f else return failedParse component f false
  | .error failure => throw failure

/-- Parses a unit from a given text or else from its file. -/
def Run.parseUnit (component : Component) (source : Option String) : Run ParseOutcome :=
  Run.parseFrom component (.ofPath (Path.ofText component.absolutePath)) source

end ComponentMigration
