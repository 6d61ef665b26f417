import ComponentMigration.Run.State
import ComponentMigration.Text.Glob

/-!
# Source files of a project

The files below the source root are taken in the order of paths.  Files in directories that are to
be skipped do not count, and file names have to match an include pattern and no exclude pattern.
-/

namespace ComponentMigration

/-- Something to be told about a file. -/
structure DiscoveryIssue where
  filePath : String
  message : String
  severity : String := "warning"
  deriving DecidableEq, Repr

/-- Whether one of several patterns fits; patterns after the first one that fits are not looked at.
-/
def anyPattern (fits : String → Bool) : List (Usable String) → Usable Bool
  | [] => .ok false
  | pattern :: rest => do if fits (← pattern) then return true else anyPattern fits rest

/-- Whether a file is looked at, by its path below the root. -/
def DiscoverySettings.includes (options : DiscoverySettings) (rel : Path) : Usable Bool := do
  if ← anyPattern (Text.globMatches rel.name) (← options.includePatterns) then
    let excluded ← anyPattern
      (fun p => Text.globMatches rel.name p || Text.globMatches rel.toText p)
      (← options.excludePatterns)
    return !excluded
  else return false

/-- The paths below a root that are files in no skipped directory. -/
def candidateFiles (skipped : List String) (disk : Disk) (root : Path) : List (Path × Path) :=
  ((disk.below root).filterMap fun p => (Path.below? root p).map fun rel => (p, rel)).filter
    fun (p, rel) => !rel.parts.dropLast.any skipped.contains && disk.isFile p

/-- What is to be told if the limit of files leaves some out. -/
def limitIssue (root : Path) (limit : Quantity) : DiscoveryIssue :=
  { filePath := root.toText
    message := "File limit of " ++ limit.text ++ " reached; remaining files ignored" }

/-- The files that are looked at, up to the limit, and what is to be told if there are more; `count`
files have been taken already. -/
def takeFiles (options : DiscoverySettings) (root : Path) :
    List (Path × Path) → Nat → Usable (List Path × List DiscoveryIssue)
  | [], _ => .ok ([], [])
  | (p, rel) :: rest, count => do
    if !(← options.includes rel) then takeFiles options root rest count
    else
      let limit ← options.maxFiles
      if limit.isAtMost (.whole count) then return ([], [limitIssue root limit])
      else
        let (files, issues) ← takeFiles options root rest (count + 1)
        return (p :: files, issues)

/-- Looks for the files of a project; the root has to be a directory. -/
def Run.scanFiles (root : Path) : Run (List Path × List DiscoveryIssue) := do
  if ← Run.isDirectory? root then
    let options := (← read).settings.discovery
    let skipped ← Run.use options.skipDirs
    Run.use (takeFiles options root (candidateFiles skipped (← get).disk root) 0)
  else
    Run.fault (Fault.of .fileSystem
      ("Source root does not exist or is not a directory: " ++ root.toText)
      { operation := some "discovery", filePath := some root.toText,
        correlationId := some (← read).runId } none false)

end ComponentMigration
