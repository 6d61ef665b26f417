import ComponentMigration.Component.Discovery
import ComponentMigration.Json.Reader
import ComponentMigration.Project.Files
import ComponentMigration.Run.State
import ComponentMigration.Structure.Parse

/-!
# Discovery of a project's units

The files of a project with their test coverage, and the units found in them.
-/

namespace ComponentMigration

/-!
## Test coverage of source files

A coverage report is a table from files to measures, of which the percentage of covered lines
counts.  A report that cannot be read is ignored, unless its values stand too deep in one another;
one that can be read must be a table of tables.
-/

/-- The percentage of covered lines that an entry gives. -/
def linePercentage (entry : Json) : Except Trouble (Option Float) :=
  match (entry.get? "lines").getD (.obj []) with
  | .obj fields =>
    match Assoc.get? fields "pct" with
    | some v =>
      match v.quantity? with
      | some q => q.toFloat.map some
      | none => .ok none
    | none => .ok none
  | other => .error (.lacks other "get")

/-- Adds the percentage of one entry of a report. -/
def addCoverage (coverage : Assoc Float) (entry : String × Json) :
    Except Trouble (Assoc Float) :=
  let (key, v) := entry
  match v with
  | .obj _ =>
    if key == "total" then .ok coverage
    else do
      match ← linePercentage v with
      | some pct => return coverage.set (Path.ofText key).toText pct
      | none => return coverage
  | _ => .ok coverage

/-- The percentages of a report, by file. -/
def coverageOf (report : Json) : Except Trouble (Assoc Float) :=
  match report with
  | .obj fields => fields.foldlM addCoverage []
  | other => .error (.lacks other "items")

/-- Where the coverage report of a project is: where the settings say, seen from the root, or at its
usual place. -/
def coveragePath (options : DiscoverySettings) (root : Path) : Usable Path :=
  options.coverageReport.map fun report =>
    root.child (report.getD "coverage/coverage-summary.json")

/-- Whether a failure to read a report lets it be ignored. -/
def isUnreadable (t : Trouble) : Bool :=
  t.sort.family == .system || t.sort.family == .timeout || t.sort == .undecodable

/-- Loads the coverage report of a project. -/
def Run.loadCoverage (root : Path) : Run (Assoc Float) := do
  let path ← Run.use (coveragePath (← read).settings.discovery root)
  if !(← Run.exists? path) then return []
  match ← Run.attempt (Run.onDisk (·.readText path)) with
  | .error (.trouble t) => if isUnreadable t then return [] else Run.trouble t
  | .error failure => throw failure
  | .ok text =>
    match Json.parse text with
    | .error t => if t.sort == .tooDeep then Run.trouble t else return []
    | .ok report => Run.use (coverageOf report)

/-- The coverage of a file: by its absolute path, or else by the first path that ends in its own. -/
def coverageFor (coverage : Assoc Float) (absolute rel : String) : Float :=
  match coverage.get? absolute with
  | some pct => pct
  | none =>
    ((coverage.find? fun (key, _) => key == rel || Text.endsWith key ("/" ++ rel)).map
      Prod.snd).getD 0.0

/-!
## Discovery of a project

Every file is read, decoded and parsed, and its units are collected; the first unit of each id
counts. Files that cannot be read are told as issues, or end the discovery if errors are not to be
skipped.
-/

/-- The discovered units in numbers. -/
structure DiscoveryStatistics where
  totalFiles : Int := 0
  totalComponents : Int := 0
  byKind : Assoc Nat := []
  byComplexity : Assoc Nat := []
  patternCounts : Assoc Nat := []
  averageComplexity : Float := 0.0
  deriving Repr

/-- The result of a discovery. -/
structure DiscoveryResult where
  root : String
  components : List Component
  issues : List DiscoveryIssue := []
  statistics : DiscoveryStatistics := {}
  deriving Repr

namespace DiscoveryResult

/-- The issues that are warnings. -/
def warnings (r : DiscoveryResult) : List DiscoveryIssue :=
  r.issues.filter (·.severity == "warning")

/-- The issues that are errors. -/
def errors (r : DiscoveryResult) : List DiscoveryIssue := r.issues.filter (·.severity == "error")

/-- The first unit with a name or an id. -/
def find? (r : DiscoveryResult) (name : String) : Option Component :=
  r.components.find? fun c => c.name == name || c.id == name

end DiscoveryResult

/-- The rank of a known grade, as a number. -/
def gradeNumber (c : Component) : Except Trouble Int :=
  match c.complexity.rank? with
  | some n => .ok n
  | none => .error ⟨.missingKey, Text.quoted c.complexity.label, none⟩

/-- Discovered units in numbers; all grades have to be known. -/
def discoveryStatistics (components : List Component) (totalFiles : Int) :
    Except Trouble DiscoveryStatistics := do
  let ranks ← components.mapM gradeNumber
  let average :=
    if components.isEmpty then 0.0
    else Number.ofInt (ranks.foldl (· + ·) 0) / Number.ofInt components.length
  return { totalFiles := totalFiles
           totalComponents := components.length
           byKind := (Assoc.count (components.map (·.kind.label))).sorted
           byComplexity := (Assoc.count (components.map (·.complexity.label))).sorted
           patternCounts := (Assoc.count (components.flatMap Component.patterns)).sorted
           averageComplexity := Number.roundPlaces 2 average }

namespace Run

/-- The place of a file in a discovery. -/
def filePlace (rel : String) : Run FaultContext :=
  place none (some "discovery") (some rel) none

/-- Reads the bytes of a source file. -/
def readFileBytes (path : Path) (rel : String) : Run (Option (List UInt8)) := do
  match ← attempt (onDisk (·.readBytes path)) with
  | .ok bytes => return some bytes
  | .error (.trouble t) =>
    fault (Fault.of .fileSystem ("Cannot read " ++ rel ++ ": " ++ t.text) {}
      (some (.trouble t.sort)))
  | .error failure => throw failure

/-- The fault of a file whose bytes are no text. -/
def undecodedFile (rel : String) (t : Trouble) : Run Fault := do
  record (Fault.of .fileSystem ("Cannot decode " ++ rel ++ ": " ++ t.text) (← filePlace rel)
    (some (.trouble t.sort)) false)

/-- The bytes and the text of a source file, or what is to be told about it. -/
def readSourceFile (path : Path) (rel : String) :
    Run (Except Fault (List UInt8 × String)) := do
  match ← attempt (withRecovery (readFileBytes path rel) (← filePlace rel) fun _ _ => none) with
  | .error (.fault f) => if f.cls == .fileSystem then return .error f else fault f
  | .error failure => throw failure
  | .ok none => trouble (.lacks .null "decode")
  | .ok (some bytes) =>
    match Text.decodeUtf8 bytes with
    | .ok text => return .ok (bytes, text)
    | .error e => return .error (← undecodedFile rel (Disk.undecodable e))

/-- What is to be told about a parsed file. -/
def documentIssues (d : Document) (rel : String) (components : List Component) :
    List DiscoveryIssue :=
  (if d.hasErrors then
    [{ filePath := rel, message := "File has syntax errors; declarations recovered heuristically" }]
   else []) ++
  (if components.isEmpty && isLikelyComponentFile d.source then
    [{ filePath := rel
       message := "Looks like a component file but no component declaration was recognised" }]
   else [])

/-- The units of one file. -/
def analyzeFile (path root : Path) (coverage : Assoc Float) :
    Run (List Component × List DiscoveryIssue) := do
  let rel := ((Path.below? root path).getD path).toText
  match ← readSourceFile path rel with
  | .error f =>
    if (← read).settings.pipeline.skipErrors then
      return ([], [{ filePath := rel, message := f.message, severity := "error" }])
    else fault f
  | .ok (bytes, text) =>
    let document ← parseAs path text
    let absolute := path.toText
    let components := document.units
      ⟨rel, absolute, bytes.length, coverageFor coverage absolute rel⟩
    return (components, documentIssues document rel components)

/-- Adds the units whose ids are new. -/
def addUnits (units found : List Component) : List Component :=
  found.foldl (fun acc c => if acc.any (·.id == c.id) then acc else acc ++ [c]) units

/-- The units and issues of files, after those found so far. -/
def analyzeSources (root : Path) (coverage : Assoc Float) :
    List Path → List Component → List DiscoveryIssue →
    Run (List Component × List DiscoveryIssue)
  | [], units, issues => return (units, issues)
  | path :: rest, units, issues => do
    checkpoint (← place none (some "discovery") none none)
    let (found, told) ← analyzeFile path root coverage
    analyzeSources root coverage rest (addUnits units found) (issues ++ told)

/-- Discovers the units below a root. -/
def discover (root : Path) : Run DiscoveryResult := do
  let root ← Run.use ((← get).disk.resolve root)
  let (files, issues) ← scanFiles root
  let coverage ← loadCoverage root
  let (components, issues) ← analyzeSources root coverage files [] issues
  let statistics ← use (discoveryStatistics components files.length)
  return ⟨root.toText, components, issues, statistics⟩

end Run

end ComponentMigration
