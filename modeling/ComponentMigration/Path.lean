import ComponentMigration.Text.Basic

/-!
# Paths

A path has a root (empty for a relative path) and components; empty and `.` components vanish when a
path is read, `..` stays.  Paths are ordered by their components.  The second part of the module
works on slash-separated texts as import statements have them: directory part, joining, and
normalising, which also resolves `..`.
-/

namespace ComponentMigration

/-- A path: its root mark and its components. -/
structure Path where
  root : String := ""
  parts : List String := []
  deriving DecidableEq, Repr

namespace Path

/-- Reads a path. -/
def ofText (s : String) : Path :=
  let root :=
    if Text.startsWith s "///" then "/" else if Text.startsWith s "//" then "//"
    else if Text.startsWith s "/" then "/" else ""
  ⟨root, (Text.splitOn s "/").filter fun p => p != "" && p != "."⟩

/-- Writes a path; the empty relative path is `.`. -/
def toText (p : Path) : String :=
  if p.root.isEmpty && p.parts.isEmpty then "." else p.root ++ String.intercalate "/" p.parts

/-- Whether the path starts at a root. -/
def isAbsolute (p : Path) : Bool := !p.root.isEmpty

/-- A path seen from another one; absolute paths stay. -/
def join (base p : Path) : Path :=
  if p.isAbsolute then p else { base with parts := base.parts ++ p.parts }

/-- A path one component deeper (or more, if the text has several). -/
def child (base : Path) (s : String) : Path := base.join (ofText s)

/-- The last component; empty if there is none. -/
def name (p : Path) : String := p.parts.getLast?.getD ""

/-- The path without its last component. -/
def parent (p : Path) : Path := { p with parts := p.parts.dropLast }

/-- Splits a file name at its last dot, unless the dot is at an end. -/
def splitName (name : String) : String × String :=
  let cs := name.toList
  let tail := cs.reverse.takeWhile (· != '.')
  if tail.length < cs.length && !tail.isEmpty && tail.length + 1 < cs.length then
    let stem := cs.length - tail.length - 1
    (String.ofList (cs.take stem), String.ofList (cs.drop stem))
  else (name, "")

/-- The ending of the last component from its last dot on. -/
def extension (p : Path) : String := (splitName p.name).2

/-- The last component without its ending. -/
def stem (p : Path) : String := (splitName p.name).1

/-- The components below a base, if the path lies below it. -/
def below? (base p : Path) : Option Path :=
  if base.root == p.root && base.parts.isPrefixOf p.parts then
    some ⟨"", p.parts.drop base.parts.length⟩
  else none

/-- Resolves `..` components of an absolute path. -/
def resolveParts (parts : List String) : List String :=
  parts.foldl (fun acc p => if p == ".." then acc.dropLast else acc ++ [p]) []

/-- The absolute path that a path denotes seen from a working directory. -/
def resolve (cwd p : Path) : Path :=
  let q := cwd.join p
  { q with parts := resolveParts q.parts }

/-- The order of lists of texts, component by component. -/
def partsLe : List String → List String → Bool
  | [], _ => true
  | _ :: _, [] => false
  | a :: as, b :: bs => if a == b then partsLe as bs else Text.le a b

/-- The order of paths. -/
def le (p q : Path) : Bool := partsLe p.parts q.parts

end Path

namespace Reference

/-- The part of a reference up to its last slash, without that slash. -/
def directory (s : String) : String :=
  let head := (s.toList.reverse.dropWhile (· != '/')).reverse
  if head.all (· == '/') then String.ofList head
  else String.ofList (head.reverse.dropWhile (· == '/')).reverse

/-- A reference seen from a directory. -/
def join (base s : String) : String :=
  if Text.startsWith s "/" then s
  else if base.isEmpty || Text.endsWith base "/" then base ++ s
  else base ++ "/" ++ s

/-- Adds a component while normalising: `..` takes back the last component if there is one that can
be taken back, and vanishes at a root. -/
def addPart (rooted : Bool) (acc : List String) (part : String) : List String :=
  if part == "" || part == "." then acc
  else if part != ".." || (!rooted && acc.isEmpty) || acc.getLast? == some ".." then acc ++ [part]
  else acc.dropLast

/-- The normal form of a reference. -/
def normalize (s : String) : String :=
  if s.isEmpty then "."
  else
    let slashes :=
      if Text.startsWith s "///" then "/" else if Text.startsWith s "//" then "//"
      else if Text.startsWith s "/" then "/" else ""
    let parts := (Text.splitOn s "/").foldl (addPart (!slashes.isEmpty)) []
    let text := slashes ++ String.intercalate "/" parts
    if text.isEmpty then "." else text

end Reference

end ComponentMigration
