import ComponentMigration.Fault.Basic
import ComponentMigration.Json.Display
import ComponentMigration.Json.Misuse
import ComponentMigration.Json.Reader
import ComponentMigration.Run.State
import ComponentMigration.Time.Instant

/-!
# Manifests

What a manifest says, and how it is kept on disk.
-/

namespace ComponentMigration

/-!
## The manifest of a migration

The manifest says which units were migrated, which failed, and with what settings.

A stored manifest may hold any values where a fresh one holds texts, so its entries are values of
the data notation.  A unit is never listed as successful twice by `addSuccess`, and never as
successful and failed at once.
-/

/-- A unit that could not be migrated. -/
structure FailedUnit where
  component : Json
  error : Json
  timestamp : Json

/-- The manifest of a migration. -/
structure Manifest where
  successful : List Json := []
  failed : List FailedUnit := []
  config : Assoc Json := []
  startTime : Json
  endTime : Json := .null
  duration : Json := .null
  version : Json := .str "1.0.0"

namespace Manifest

/-- The name of the manifest's file. -/
def fileName : String := "migration-manifest.json"

/-- An empty manifest that starts now. -/
def empty (now : Instant) (config : Assoc Json := []) : Manifest :=
  { config := config, startTime := .str now.text }

/-- Whether a unit is listed as successful. -/
def isSuccessful (m : Manifest) (name : Json) : Bool := m.successful.any (· == name)

/-- The names of successful units. -/
def names (m : Manifest) : List String := m.successful.filterMap Json.text?

/-- The failed units apart from one. -/
def failedExcept (m : Manifest) (name : Json) : List FailedUnit :=
  m.failed.filter fun f => !(f.component == name)

/-- Lists a unit as successful. -/
def addSuccess (m : Manifest) (name : Json) : Manifest :=
  { m with
    successful := if m.isSuccessful name then m.successful else m.successful ++ [name]
    failed := m.failedExcept name }

/-- A list without the first item that equals a value. -/
def eraseFirst (v : Json) : List Json → List Json
  | [] => []
  | x :: rest => if x == v then rest else x :: eraseFirst v rest

/-- Lists a unit as failed. -/
def addFailure (m : Manifest) (name error : Json) (now : Instant) : Manifest :=
  { m with
    failed := m.failedExcept name ++ [⟨name, error, .str now.text⟩]
    successful := eraseFirst name m.successful }

/-- The instant at which a manifest was started, as far as its text tells. -/
def started (m : Manifest) : Usable Instant :=
  match m.startTime with
  | .str s =>
    match LocalTime.parse? s with
    | none => .error ⟨.badValue, "no point in time: " ++ s, none⟩
    | some t =>
      match t.instant? with
      | some i => .ok i
      | none =>
        .error ⟨.wrongType, "a local time without its offset", none⟩
  | _ => .error ⟨.wrongType, "no text of a point in time", none⟩

/-- Notes the end of a migration.  The end is noted even if the duration cannot be told. -/
def finish (m : Manifest) (now : Instant) : Except Trouble Unit × Manifest :=
  let ended := { m with endTime := .str now.text }
  match m.started with
  | .ok start => (.ok (), { ended with duration := .float (now.secondsSince start) })
  | .error t => (.error t, ended)

/-- A manifest as a value. -/
def toJson (m : Manifest) : Json :=
  .obj [("successful", .arr m.successful),
    ("failed", .arr (m.failed.map fun f =>
      .obj [("component", f.component), ("error", f.error), ("timestamp", f.timestamp)])),
    ("config", .obj m.config), ("start_time", m.startTime), ("end_time", m.endTime),
    ("duration", m.duration), ("version", m.version)]

/-- The failed unit that a stored entry stands for. -/
def failedUnit (now : Instant) (v : Json) : Usable FailedUnit :=
  let bad : Trouble := ⟨.wrongType, "unusable entry", none⟩
  match v with
  | .obj fields =>
    if fields.all fun (k, _) => ["component", "error", "timestamp"].contains k then
      match v.get? "component", v.get? "error" with
      | some component, some error =>
        .ok ⟨component, error, (v.get? "timestamp").getD (.str now.text)⟩
      | _, _ => .error bad
    else .error bad
  | _ => .error bad

/-- The key that a value becomes in a table. -/
def keyText : Json → String
  | .str s => s
  | other => other.compact

/-- Puts a value under a key; equal keys are one, as which the first one stands. -/
def setPair (key value : Json) : List (Json × Json) → List (Json × Json)
  | [] => [(key, value)]
  | (k, v) :: rest => if k == key then (k, value) :: rest else (k, v) :: setPair key value rest

/-- Adds the pair that an item of a list stands for. -/
def addPair (acc : List (Json × Json)) (item : Json) : Usable (List (Json × Json)) := do
  match ← item.members with
  | [key, value] =>
    if key.isHashable then return setPair key value acc else .error (.unhashable key)
  | _ => .error ⟨.badValue, "not a pair", none⟩

/-- The table that a value stands for: a table, or a list of pairs.  Keys that differ may have the
same text, and all of them stay. -/
def tableOf (v : Json) : Usable (Assoc Json) :=
  match v with
  | .obj fields => .ok fields
  | _ => do
    let pairs ← (← v.members).foldlM addPair []
    return pairs.map fun (key, value) => (keyText key, value)

/-- The manifest that a stored value stands for. -/
def ofJson (now : Instant) (v : Json) : Usable Manifest :=
  match v with
  | .obj _ => do
    let successful ← ((v.get? "successful").getD (.arr [])).members
    let failed ← (← ((v.get? "failed").getD (.arr [])).members).mapM (failedUnit now)
    let config ← tableOf ((v.get? "config").getD (.obj []))
    let start := (v.get? "start_time").getD .null
    return { successful := successful
             failed := failed
             config := config
             startTime := if start.truthy then start else .str now.text
             endTime := (v.get? "end_time").getD .null
             duration := (v.get? "duration").getD .null
             version := (v.get? "version").getD (.str "1.0.0") }
  | other => .error (.lacks other "get")

end Manifest

/-!
## Manifests on disk

The manifest of a migration stands in the output directory.  Rolling back removes the directories of
its successful units and the manifest itself; cleaning up removes the directories of all other
units.
-/

namespace Run

/-- The path of the manifest in an output directory. -/
def manifestPath (output : Path) : Path := output.child Manifest.fileName

/-- Reads the value in a file of the data notation. -/
def readJson (path : Path) : Run Json := do
  let text ← Run.onDisk (·.readText path)
  use (Json.parse text)

/-- Loads the manifest, if there is one.  A file that cannot be read is a fault of the file system.
-/
def loadManifest (output : Path) (now : Instant) : Run (Option Manifest) := do
  let path := manifestPath output
  if !(← exists? path) then return none
  let payload ← match ← attempt (readJson path) with
    | .ok v => pure v
    | .error (.trouble t) =>
      if t.sort == .malformedJson || t.sort.family == .system || t.sort.family == .timeout then
        fault (Fault.of .fileSystem ("Cannot read manifest " ++ path.toText ++ ": " ++ t.text)
          { operation := some "load_manifest", filePath := some path.toText }
          (some (.trouble t.sort)))
      else trouble t
    | .error failure => throw failure
  match Manifest.ofJson now payload with
  | .ok m => return some m
  | .error t => trouble t

/-- Loads the manifest or starts a new one; settings that are given replace the stored ones. -/
def loadOrCreateManifest (output : Path) (now : Instant) (config : Assoc Json) :
    Run Manifest := do
  match ← loadManifest output now with
  | none => return Manifest.empty now config
  | some m => return if config.isEmpty then m else { m with config := config }

/-- A name for a temporary file that is not taken. -/
def temporaryName (disk : Disk) (directory : Path) : Nat → Nat → Path
  | 0, n => directory.child (".manifest-" ++ toString n ++ ".json")
  | fuel + 1, n =>
    let path := directory.child (".manifest-" ++ toString n ++ ".json")
    if (disk.entry? path).isSome then temporaryName disk directory fuel (n + 1) else path

/-- Saves a manifest: a temporary file is written and then put in the manifest's place.  Without a
manifest the temporary file is left behind. -/
def saveManifest (output : Path) (m : Option Manifest) : Run Path := do
  onDisk (·.makeDirectories output)
  let disk := (← get).disk
  let path := manifestPath output
  match m with
  | none =>
    onDisk (·.write (temporaryName disk output disk.entries.length 0) [])
    trouble ⟨.wrongType, "no manifest to save", none⟩
  | some m =>
    onDisk (·.writeText path m.toJson.indented)
    return path

/-- Removes the directories of units, as far as they exist; the result are those removed. -/
def removeUnits (output : Path) : List Json → Run (List String)
  | [] => return []
  | .str name :: rest => do
    let target := output.child name
    if ← isDirectory? target then
      onDisk (·.removeTree target)
      let later ← removeUnits output rest
      return name :: later
    else removeUnits output rest
  | other :: _ => trouble (.unsupported "/" "PosixPath" other.sortName)

/-- Removes the directories of all successful units, and the manifest. -/
def rollback (output : Path) (now : Instant) : Run (List String) := do
  match ← loadManifest output now with
  | none => return []
  | some m =>
    let removed ← removeUnits output m.successful
    onDisk (·.remove (manifestPath output))
    return removed

/-- Removes those of some directories that are still there; the result are the names of those
removed. -/
def removeOrphans : List Path → Run (List String)
  | [] => return []
  | p :: rest => do
    if ← isDirectory? p then
      onDisk (·.removeTree p)
      let later ← removeOrphans rest
      return p.name :: later
    else removeOrphans rest

/-- Removes all directories that are not successful units of the manifest. -/
def cleanup (output : Path) (now : Instant) : Run (List String) := do
  if !(← isDirectory? output) then return []
  let manifest ← loadManifest output now
  let keep := (manifest.map Manifest.successful).getD []
  if let some v := keep.find? (!·.isHashable) then trouble (.unhashable v)
  let entries := (← get).disk.list output
  removeOrphans (entries.filter fun p => !keep.any (· == .str p.name))

end Run

end ComponentMigration
