import ComponentMigration.Json.Reader
import ComponentMigration.Json.Value
import ComponentMigration.Run.Disk
import ComponentMigration.Text.Basic

/-!
# Images of disks

A disk written as a table: files with their contents, further directories, and reads that are to
fail. A content is a text, in which a mark stands for the working directory, or a table with bytes
in hexadecimal digits.
-/

namespace ComponentMigration

/-- The value of a hexadecimal digit. -/
def hexValue (c : Char) : Nat := if c.isDigit then c.toNat - 48 else c.toLower.toNat - 87

/-- The bytes of hexadecimal digits, two by two. -/
def hexBytes : List Char → List UInt8
  | a :: b :: rest => UInt8.ofNat (16 * hexValue a + hexValue b) :: hexBytes rest
  | _ => []

namespace Disk

/-- What stands for the working directory in a content. -/
def rootMark : String := "\x7b\x7bROOT\x7d\x7d"

/-- The bytes of a content. -/
def contentOf (cwd : Path) (v : Json) : List UInt8 :=
  match v with
  | .str s => Text.encodeUtf8 (Text.replace s rootMark cwd.toText)
  | other => hexBytes (other.textAt "hex" "").toList

/-- The disk with a file, whose directories are made. -/
def withFile (d : Disk) (path : String) (content : Json) : Disk :=
  let p := Path.ofText path
  let d := (d.makeDirectories p.parent).2
  (d.write p (contentOf d.cwd content)).2

/-- The disk with a directory. -/
def withDirectory (d : Disk) (path : String) : Disk := (d.makeDirectories (Path.ofText path)).2

/-- The disk without what stands at a path. -/
def withoutEntry (d : Disk) (path : String) : Disk :=
  let p := Path.ofText path
  if d.isDirectory p then (d.removeTree p).2 else (d.remove p).2

/-- The reads that are to fail, by the name of the file. -/
def pendingOf (v : Json) : List PendingFaults :=
  v.fields.map fun (name, f) => ⟨name, f.natAt "read_text", f.natAt "read_bytes"⟩

/-- The disk of an image. -/
def ofJson (v : Json) : Disk :=
  let d : Disk := (v.field "files").fields.foldl (fun d (path, c) => d.withFile path c) {}
  { (v.textsAt "dirs").foldl withDirectory d with pending := pendingOf (v.field "faults") }

/-- The path of an entry as seen from the working directory. -/
def seen (d : Disk) (p : Path) : String := ((Path.below? d.cwd p).getD p).toText

/-- The files below the working directory, in the order of their paths' texts. -/
def fileList (d : Disk) : List String :=
  Text.sorted (((d.below d.cwd).filter d.isFile).map d.seen)

/-- Everything below the working directory, directories with a final slash, in the order of texts.
All temporary manifests have one name. -/
def listing (d : Disk) : List String :=
  Text.sorted <| (d.below d.cwd).map fun p =>
    let temporary := Text.startsWith p.name ".manifest-" && Text.endsWith p.name ".json"
    if d.isDirectory p then d.seen p ++ "/"
    else d.seen (if temporary then p.parent.child ".manifest-TMP.json" else p)

/-- The text of a file. -/
def text? (d : Disk) (path : String) : Option String :=
  match d.content (Path.ofText path) with
  | .ok bytes => some (Text.decodeUtf8Replacing bytes)
  | .error _ => none

/-- A file as a value: one of the data notation is read. -/
def fileJson (d : Disk) (path : String) : Json :=
  let text := (d.text? path).getD ""
  if Text.endsWith path ".json" then (Json.parse? text).getD (.str text) else .str text

end Disk

end ComponentMigration
