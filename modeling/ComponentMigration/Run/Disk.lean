import ComponentMigration.Fault.Basic
import ComponentMigration.Path
import ComponentMigration.Text.Basic
import ComponentMigration.Text.Quoted
import ComponentMigration.Text.Utf8

/-!
# Files and directories

A disk is a collection of entries under absolute paths.  Operations take paths as they are given,
look them up from the working directory, and tell failures with the path as given.  Reads of a file
may be set to fail a number of times before they work.
-/

namespace ComponentMigration

/-- What stands at a path. -/
inductive Entry where
  | file (content : List UInt8)
  | directory
  deriving DecidableEq, Repr

/-- Reads of files with one base name that still fail. -/
structure PendingFaults where
  name : String
  textReads : Nat := 0
  byteReads : Nat := 0
  deriving DecidableEq, Repr

/-- Files, directories, the working directory, and the reads that still fail. -/
structure Disk where
  entries : List (Path × Entry) := []
  cwd : Path := ⟨"/", ["proj"]⟩
  pending : List PendingFaults := []
  deriving Repr

namespace Disk

/-- The absolute path that a path reads as: `..` takes back the component before it. -/
def locate (d : Disk) (p : Path) : Path := Path.resolve d.cwd p

/-- The entries below a directory, by the components that lead from it to them; the directory itself
is led to by none. -/
def inside (d : Disk) (parts : List String) : List (List String × Entry) :=
  d.entries.filterMap fun (p, e) =>
    if parts.isPrefixOf p.parts then some (p.parts.drop parts.length, e) else none

/-- The entries below the directory that one component leads to. -/
def stepInto (c : String) (entries : List (List String × Entry)) : List (List String × Entry) :=
  entries.filterMap fun (parts, e) =>
    match parts with
    | [] => none
    | first :: rest => if first == c then some (rest, e) else none

/-- Why a path leads nowhere. -/
inductive Obstacle where
  | missing
  | throughFile
  | tooLong
  | nullCharacter
  deriving DecidableEq, Repr

/-- Where a path leads: to something, to a free place in a directory, or nowhere. -/
inductive Whereabouts where
  | found (place : Path) (entry : Entry)
  | free (place : Path)
  | lost (obstacle : Obstacle)
  deriving DecidableEq, Repr

/-- The number of bytes that a name may have. -/
def nameLimit : Nat := 255

/-- The number of bytes that a path may have. -/
def pathLimit : Nat := 4095

/-- Follows components from the entry that some components lead to, with the entries below it.  Only
directories can be passed, and `..` leads from where one is to the directory above.  The root and
the working directory with its parents are always there. -/
def follow (d : Disk) (place : List String) (below : List (List String × Entry)) (e : Entry) :
    List String → Whereabouts
  | [] => .found ⟨"/", place⟩ e
  | c :: rest =>
    if e != .directory then .lost .throughFile
    else if c == ".." then follow d place.dropLast (d.inside place.dropLast) .directory rest
    else if c.utf8ByteSize > nameLimit then .lost .tooLong
    else
      let next := place ++ [c]
      let below := stepInto c below
      match below.find? (·.1.isEmpty) with
      | some (_, e) => follow d next below e rest
      | none =>
        if next.isPrefixOf d.cwd.parts then follow d next below .directory rest
        else if rest.isEmpty then .free ⟨"/", next⟩ else .lost .missing

/-- Where a path leads, seen from the working directory. -/
def find (d : Disk) (p : Path) : Whereabouts :=
  let text := p.toText
  if text.toList.contains '\x00' then .lost .nullCharacter
  else if text.utf8ByteSize > pathLimit then .lost .tooLong
  else follow d [] (d.inside []) .directory (d.cwd.join p).parts

/-- The absolute path that a path reads as, which no path with a null character does. -/
def resolve (d : Disk) (p : Path) : Usable Path :=
  if d.find p == .lost .nullCharacter then .error ⟨.badValue, "embedded null byte", none⟩
  else .ok (d.locate p)

/-- The entry at a path. -/
def entry? (d : Disk) (p : Path) : Option Entry :=
  match d.find p with
  | .found _ e => some e
  | _ => none

/-- Whether a file stands at a path. -/
def isFile (d : Disk) (p : Path) : Bool :=
  match d.entry? p with
  | some (.file _) => true
  | _ => false

/-- Whether a directory stands at a path. -/
def isDirectory (d : Disk) (p : Path) : Bool := d.entry? p == some .directory

/-- A failure of the system with its number, wording and path. -/
def systemTrouble (sort : TroubleSort) (number : Int) (wording : String) (p : Path) : Trouble :=
  ⟨sort, "[Errno " ++ toString number ++ "] " ++ wording ++ ": " ++ Text.quoted p.toText,
    some number⟩

/-- Nothing stands at a path. -/
def missing (p : Path) : Trouble := systemTrouble .fileMissing 2 "No such file or directory" p

/-- Something stands at a path already. -/
def alreadyThere (p : Path) : Trouble := systemTrouble .fileExists 17 "File exists" p

/-- A directory stands where a file is wanted. -/
def directoryThere (p : Path) : Trouble := systemTrouble .isADirectory 21 "Is a directory" p

/-- The trouble with a path that leads nowhere. -/
def Obstacle.trouble (p : Path) : Obstacle → Trouble
  | .missing => Disk.missing p
  | .throughFile => systemTrouble .notADirectory 20 "Not a directory" p
  | .tooLong => systemTrouble .systemFailure 36 "File name too long" p
  | .nullCharacter => ⟨.badValue, "embedded null byte", none⟩

/-- What stands at a path, if anything; a name or a path that is too long is a trouble. -/
def look (d : Disk) (p : Path) : Usable (Option Entry) :=
  match d.find p with
  | .found _ e => .ok (some e)
  | .lost .tooLong => .error (Obstacle.trouble p .tooLong)
  | _ => .ok none

/-- The content of a file. -/
def content (d : Disk) (p : Path) : Except Trouble (List UInt8) :=
  match d.find p with
  | .found _ (.file bytes) => .ok bytes
  | .found _ .directory => .error (directoryThere p)
  | .free _ => .error (missing p)
  | .lost obstacle => .error (obstacle.trouble p)

/-- The size of what stands at a path; directories have a fixed one. -/
def size (d : Disk) (p : Path) : Except Trouble Nat :=
  match d.find p with
  | .found _ (.file bytes) => .ok bytes.length
  | .found _ .directory => .ok 4096
  | .free _ => .error (missing p)
  | .lost obstacle => .error (obstacle.trouble p)

/-- The trouble of a read that fails for a while. -/
def transient : Trouble := ⟨.systemFailure, "EAGAIN transient read failure", none⟩

/-- Takes one pending fault of a text read. -/
def takeTextFault (name : String) : List PendingFaults → Option (List PendingFaults)
  | [] => none
  | f :: rest =>
    if f.name == name && f.textReads > 0 then
      some ({ f with textReads := f.textReads - 1 } :: rest)
    else (takeTextFault name rest).map (f :: ·)

/-- Takes one pending fault of a byte read. -/
def takeByteFault (name : String) : List PendingFaults → Option (List PendingFaults)
  | [] => none
  | f :: rest =>
    if f.name == name && f.byteReads > 0 then
      some ({ f with byteReads := f.byteReads - 1 } :: rest)
    else (takeByteFault name rest).map (f :: ·)

/-- Reads the bytes of a file. -/
def readBytes (d : Disk) (p : Path) : Except Trouble (List UInt8) × Disk :=
  match takeByteFault p.name d.pending with
  | some pending => (.error transient, { d with pending := pending })
  | none => (d.content p, d)

/-- The wording of bytes that are no text. -/
def undecodable (e : Text.Utf8Error) : Trouble :=
  let place :=
    if e.length == 1 then
      "byte 0x" ++ String.ofList (Text.hexDigits 2 e.firstByte) ++ " in position " ++
        toString e.position
    else
      "bytes in position " ++ toString e.position ++ "-" ++ toString (e.position + e.length - 1)
  ⟨.undecodable, "'utf-8' codec can't decode " ++ place ++ ": " ++ e.flaw.text, none⟩

/-- The text of bytes, with unified line ends. -/
def textOf (bytes : List UInt8) : Except Trouble String :=
  match Text.decodeUtf8 bytes with
  | .ok s => .ok (Text.unifyNewlines s)
  | .error e => .error (undecodable e)

/-- Reads the text of a file, with unified line ends. -/
def readText (d : Disk) (p : Path) : Except Trouble String × Disk :=
  match takeTextFault p.name d.pending with
  | some pending => (.error transient, { d with pending := pending })
  | none =>
    match d.content p with
    | .ok bytes => (textOf bytes, d)
    | .error t => (.error t, d)

/-- Reads the text of a file with unified line ends; bytes that are no text are replaced. -/
def readTextReplacing (d : Disk) (p : Path) : Except Trouble String × Disk :=
  match takeTextFault p.name d.pending with
  | some pending => (.error transient, { d with pending := pending })
  | none =>
    match d.content p with
    | .ok bytes => (.ok (Text.unifyNewlines (Text.decodeUtf8Replacing bytes)), d)
    | .error t => (.error t, d)

/-- Puts an entry at an absolute path. -/
def put (d : Disk) (p : Path) (e : Entry) : Disk :=
  if d.entries.any (·.1 == p) then
    { d with entries := d.entries.map fun (q, f) => if q == p then (q, e) else (q, f) }
  else { d with entries := d.entries ++ [(p, e)] }

/-- Writes a file whose directory exists. -/
def write (d : Disk) (p : Path) (content : List UInt8) : Except Trouble Unit × Disk :=
  match d.find p with
  | .found place (.file _) => (.ok (), d.put place (.file content))
  | .found _ .directory => (.error (directoryThere p), d)
  | .free place => (.ok (), d.put place (.file content))
  | .lost obstacle => (.error (obstacle.trouble p), d)

/-- Writes a text. -/
def writeText (d : Disk) (p : Path) (text : String) : Except Trouble Unit × Disk :=
  d.write p (Text.encodeUtf8 text)

/-- Makes a directory in one that is there; a directory that is there already stays. -/
def makeDirectory (d : Disk) (p : Path) : Except Trouble Unit × Disk :=
  match d.find p with
  | .found _ .directory => (.ok (), d)
  | .found _ (.file _) => (.error (alreadyThere p), d)
  | .free place => (.ok (), d.put place .directory)
  | .lost obstacle => (.error (obstacle.trouble p), d)

/-- Makes the directories that a path passes, from the outermost on, and then the last one; `rest`
counts the components that are left. -/
def makeDirectoriesWithin (d : Disk) (p : Path) : Nat → Except Trouble Unit × Disk
  | 0 => d.makeDirectory p
  | rest + 1 =>
    match d.find p with
    | .lost .missing =>
      match makeDirectoriesWithin d p.parent rest with
      | (.ok (), d) => d.makeDirectory p
      | (.error t, d) => (.error t, d)
    | _ => d.makeDirectory p

/-- Makes a directory with all its parents; what is there already stays. -/
def makeDirectories (d : Disk) (p : Path) : Except Trouble Unit × Disk :=
  d.makeDirectoriesWithin p p.parts.length

/-- Removes a file. -/
def remove (d : Disk) (p : Path) : Except Trouble Unit × Disk :=
  match d.find p with
  | .found place (.file _) => (.ok (), { d with entries := d.entries.filter (·.1 != place) })
  | .found _ .directory => (.error (directoryThere p), d)
  | .free _ => (.error (missing p), d)
  | .lost obstacle => (.error (obstacle.trouble p), d)

/-- Whether one absolute path is another or lies below it. -/
def isWithin (base p : Path) : Bool := base.root == p.root && base.parts.isPrefixOf p.parts

/-- Removes an empty directory, unless the path to it ends in two dots, since that directory is not
empty, or is no more than a dot. -/
def removeDirectory (d : Disk) (p : Path) : Except Trouble Unit × Disk :=
  match d.find p with
  | .found place .directory =>
    if p.name == ".." then
      (.error (systemTrouble .directoryNotEmpty 39 "Directory not empty" p), d)
    else if p == {} then (.error (systemTrouble .systemFailure 22 "Invalid argument" p), d)
    else (.ok (), { d with entries := d.entries.filter (·.1 != place) })
  | .found _ (.file _) => (.error (Obstacle.trouble p .throughFile), d)
  | .free _ => (.error (missing p), d)
  | .lost obstacle => (.error (obstacle.trouble p), d)

/-- Removes a directory with everything in it: first what is in it, then the directory itself.  The
path may have lost its way by then. -/
def removeTree (d : Disk) (p : Path) : Except Trouble Unit × Disk :=
  match d.find p with
  | .found place .directory =>
    let emptied :=
      { d with entries := d.entries.filter fun (q, _) => q == place || !isWithin place q }
    emptied.removeDirectory p
  | .found _ (.file _) => (.error (Obstacle.trouble p .throughFile), d)
  | .free _ => (.error (missing p), d)
  | .lost obstacle => (.error (obstacle.trouble p), d)

/-- The paths of everything below a directory, in the order of paths; they extend the path as it was
given. -/
def below (d : Disk) (p : Path) : List Path :=
  match d.find p with
  | .found place .directory =>
    let found := d.entries.filterMap fun (q, _) =>
      if q == place then none else (Path.below? place q).map fun rest => p.join rest
    found.mergeSort Path.le
  | _ => []

/-- The entries directly in a directory, in the order of paths. -/
def list (d : Disk) (p : Path) : List Path :=
  (d.below p).filter fun q => q.parts.length == p.parts.length + 1

end Disk

end ComponentMigration
