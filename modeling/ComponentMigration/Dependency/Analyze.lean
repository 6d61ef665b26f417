import ComponentMigration.Dependency.Graph
import ComponentMigration.Structure.Parse

/-!
# Dependency analysis within a run

Documents that are not at hand are read from disk, through the recovery strategies.  Files that
cannot be read or have unreadable places give a warning for each of their units and no dependencies.
-/

namespace ComponentMigration

/-- Reads and parses a file. -/
def Run.readDocument (path : String) : Run Document := do
  let p := Path.ofText path
  match Language.ofPath? p with
  | none => Run.fault (Fault.of .configuration ("Unsupported file type: " ++ p.extension))
  | some language =>
    match ← Run.attempt (Run.onDisk (·.readTextReplacing p)) with
    | .ok source => return Document.parse (← read).grammar language p.toText source
    | .error (.trouble t) =>
      if t.sort.family == .system || t.sort.family == .timeout then
        Run.fault (Fault.of .fileSystem ("Cannot read " ++ path ++ ": " ++ t.text) {}
          (some (.trouble t.sort)))
      else Run.trouble t
    | .error failure => throw failure

/-- The document of a file: one at hand, or read from disk; or why there is none. -/
def Run.documentOf (documents : Assoc Document) (file absolute : String) :
    Run (Except String Document) := do
  match documents.get? absolute with
  | some d => return .ok d
  | none =>
    let context ← Run.place none (some "dependency-analysis") file none
    match ← Run.attempt (Run.withRecovery (some <$> Run.readDocument absolute) context
        fun _ _ => none) with
    | .ok (some d) => return .ok d
    | .ok none => Run.trouble (.lacks .null "has_errors")
    | .error (.fault f) =>
      if f.cls == .fileSystem then return .error f.message else Run.fault f
    | .error failure => throw failure

/-- The warning that a unit cannot be analysed. -/
def Component.unanalyzed (u : Component) (reason : String) : String :=
  "Could not analyze dependencies of " ++ u.id ++ ": " ++ reason

/-- A file as the analysis finds it: its units, and its document or why there is none. -/
structure FileReading where
  file : String
  units : List Component
  document : Except String Document

namespace FileReading

/-- Why the units of a file cannot be analysed: there is no document, or it has unreadable
places. -/
def obstacle (r : FileReading) : Option String :=
  match r.document with
  | .error message => some message
  | .ok d => if d.hasErrors then some (String.intercalate "; " (d.describeErrors 2)) else none

/-- A warning for each unit of a file that cannot be analysed. -/
def warnings (r : FileReading) : List String :=
  match r.obstacle with
  | some reason => r.units.map (·.unanalyzed reason)
  | none => []

/-- The uses of the imports of a file by its units, if it can be analysed. -/
def uses (r : FileReading) (primary : Assoc String) : List ImportUse :=
  match r.document with
  | .error _ => []
  | .ok d => if d.hasErrors then [] else fileUses primary d r.units

end FileReading

/-- Records that units of a file cannot be analysed because of unreadable places. -/
def Run.recordBroken (file reason : String) : List Component → Run Unit
  | [] => return ()
  | u :: rest => do
    let context ← Run.place u.id (some "dependency-analysis") file none
    let _ ← Run.record { Fault.of .parsing (u.unanalyzed reason) context with severity := .low }
    Run.recordBroken file reason rest

/-- Records that the units of a file cannot be analysed, unless the file could not be read: that is
on record. -/
def Run.recordObstacle (r : FileReading) : Run Unit :=
  match r.document, r.obstacle with
  | .ok _, some reason => Run.recordBroken r.file reason r.units
  | _, _ => return ()

/-- Reads a file for the analysis of its units. -/
def Run.readFile (documents : Assoc Document) (file : String) (units : List Component) :
    Run FileReading := do
  let context ← Run.place none (some "dependency-analysis") none none
  Run.checkpoint context
  let absolute := (units.head?.map (·.absolutePath)).getD ""
  let reading : FileReading := ⟨file, units, ← Run.documentOf documents file absolute⟩
  Run.recordObstacle reading
  return reading

/-- What has come out of the files so far. -/
structure AnalysisState where
  gathered : Gathered := {}
  warnings : List String := []

/-- Analyses a file. -/
def Run.gatherFile (documents : Assoc Document) (primary : Assoc String) (s : AnalysisState)
    (entry : String × List Component) : Run AnalysisState := do
  let reading ← Run.readFile documents entry.1 entry.2
  let s := { s with warnings := s.warnings ++ reading.warnings }
  let uses := reading.uses primary
  if uses.isEmpty then return s
  else
    let bound ← Run.use (← read).settings.analysis.highRiskBindings
    return { s with gathered := s.gathered.addUses bound primary uses }

/-- Analyses the dependencies of units; `documents` are those at hand, by absolute path. -/
def Run.analyze (components : List Component) (documents : Assoc Document) :
    Run DependencyAnalysis := do
  let byFile := unitsByFile components
  let s ← byFile.sorted.foldlM (Run.gatherFile documents (primaryUnits byFile)) {}
  Run.use (analysisOf (← read).settings.analysis components s.gathered s.warnings)

end ComponentMigration
