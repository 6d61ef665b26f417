import ComponentMigration.Command.Analyze
import ComponentMigration.Fault.Explanation
import ComponentMigration.Record.Disk
import ComponentMigration.Source.FlatTree

/-!
# The command line

The program takes the words of the command line, and from standard input an image of the project:
its files, the trees of its sources, and the time.  It tells what the command tells, carries the
changes of the image over to the working directory, and ends with the command's exit code.
-/

namespace ComponentMigration

/-- The instant that an image gives, else the start of 1970. -/
def imageTime (image : Json) : Instant :=
  (((image.textAt? "now").bind LocalTime.parse?).bind LocalTime.instant?).getD ⟨0⟩

/-- Runs a command line on an image: how it ends, and the disk afterwards. -/
def commandOn (image : Json) (disk : Disk) (words : List String) : CommandOutcome × Disk :=
  let context : RunContext :=
    { runId := "run"
      grammar := (TreeCollection.ofJson (image.field "trees")).grammar }
  match (Run.command words (imageTime image)).exec context (RunState.ofSettings {} disk) with
  | (.ok outcome, s) => (outcome, s.disk)
  | (.error failure, s) => (CommandOutcome.crashed {} failure, s.disk)

/-- The message of a failure. -/
def Failure.message : Failure → String
  | .fault f => f.message
  | .trouble t => t.text

/-- Carries the files that differ between two disks over to the working directory. -/
def carryOver (before after : Disk) : IO Unit := do
  for path in before.fileList do
    if !after.isFile (Path.ofText path) then IO.FS.removeFile path
  for path in after.fileList do
    let p := Path.ofText path
    match after.content p with
    | .ok bytes =>
      if before.entry? p != some (.file bytes) then
        if !p.parent.parts.isEmpty then IO.FS.createDirAll p.parent.toText
        IO.FS.writeBinFile path ⟨bytes.toArray⟩
    | .error _ => pure ()

/-- Tells how a command ended. -/
def tell (outcome : CommandOutcome) : IO Unit := do
  outcome.console.lines.forM IO.println
  for f in outcome.console.faults do
    IO.eprintln (f.explanation.title ++ " [" ++ f.codeHead ++ "]: " ++ f.message)
  match outcome.crash with
  | some failure => IO.eprintln failure.message
  | none => pure ()

end ComponentMigration

open ComponentMigration in
/-- Runs the command line. -/
def main (words : List String) : IO UInt32 := do
  let input ← (← IO.getStdin).readToEnd
  let image := (Json.parse? input).getD (.obj [])
  let before := Disk.ofJson image
  let (outcome, after) := commandOn image before words
  tell outcome
  carryOver before after
  return outcome.exit.toUInt32
