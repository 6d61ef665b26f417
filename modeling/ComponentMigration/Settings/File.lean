import ComponentMigration.Run.State
import ComponentMigration.Settings.Table
import ComponentMigration.Toml.Printer
import ComponentMigration.Toml.Reader

/-!
# Configuration files

Settings are looked for in several places, read, and written back.
-/

namespace ComponentMigration

namespace Run

/-- The name of a project's own configuration file. -/
def projectFileName : String := "uimigrate.toml"

/-- The configuration file that counts: the one given, which must exist, else the project's own,
else the user's. -/
def findSettings (given : Option Path) (directory : Path) (user : Option Path) :
    Run (Option Path) := do
  match given with
  | some path =>
    if ← exists? path then return some path
    else
      fault (Fault.of .configuration ("Config file not found: " ++ path.toText)
        { operation := some "load_config", filePath := some path.toText })
  | none =>
    let own := directory.child projectFileName
    if ← exists? own then return some own
    match user with
    | some path => return if ← exists? path then some path else none
    | none => return none

/-- The content of a file, with unified line ends. -/
def fileText (path : Path) : Run String :=
  onDisk fun d =>
    (match d.content path with
      | .ok bytes => Disk.textOf bytes
      | .error t => .error t, d)

/-- The sections of a configuration file; without a file there are none. -/
def readSections (path : Option Path) : Run (Assoc Json) := do
  match path with
  | none => return []
  | some path =>
    let sections : Run (Assoc Json) := do
      use (Toml.parse (← fileText path))
    match ← attempt sections with
    | .ok sections => return sections
    | .error (.trouble t) =>
      if t.sort == .malformedToml || t.sort.family == .system then
        fault (Fault.of .configuration
          ("Could not read config file " ++ path.toText ++ ": " ++ t.text)
          { operation := some "load_config", filePath := some path.toText }
          (some (.trouble t.sort)))
      else trouble t
    | .error failure => throw failure

/-- The settings of a configuration file over the defaults. -/
def loadSettings (path : Option Path) : Run SettingsTable := do
  match SettingsTable.merge (← readSections path) with
  | .ok table => return table
  | .error failure => throw failure

/-- Writes settings into a configuration file, which stays empty if they cannot be written. -/
def saveSettings (table : SettingsTable) (path : Path) : Run Unit := do
  onDisk (·.makeDirectories path.parent)
  onDisk (·.writeText path "")
  let text ← use (Toml.print table.withoutNulls.asOverrides)
  onDisk (·.writeText path text)

end Run

end ComponentMigration
