import ComponentMigration.Json.Value
import ComponentMigration.Source.Document
import ComponentMigration.Text.Quoted
import ComponentMigration.Text.Utf8

/-!
# Trees in flat notation

A tree is written as five numbers for every node in pre-order: depth, kind, role, first byte and
number of bytes.  Kinds and roles are given by their places in two tables; a kind has a mark for
constructs (`+`) or tokens (`-`), after a `!` if the node stands for something missing.  A
collection of trees is looked up by language and by the fingerprint of the text, and so makes a
grammar for these texts.
-/

namespace ComponentMigration

/-- The 64-bit fingerprint of bytes: each byte is mixed in and the result is multiplied by a prime.
-/
def fingerprint (bytes : List UInt8) : UInt64 :=
  bytes.foldl (fun h b => (h ^^^ b.toUInt64) * 0x100000001b3) 0xcbf29ce484222325

/-- The key of a text in a collection of trees. -/
def treeKey (language : Language) (text : String) : String :=
  language.label ++ ":" ++
    String.ofList (Text.hexDigits 16 (fingerprint (Text.encodeUtf8 text)).toNat)

/-- A node in flat notation. -/
structure FlatNode where
  depth : Nat
  kind : Nat
  field : Nat
  start : Nat
  length : Nat
  deriving DecidableEq, Repr

/-- The nodes of a sequence of numbers, five by five. -/
def flatNodes : List Nat → List FlatNode
  | d :: k :: f :: s :: l :: rest => ⟨d, k, f, s, l⟩ :: flatNodes rest
  | _ => []

/-- A kind of nodes: its name, whether it is a construct, and whether it is missing. -/
structure FlatKind where
  name : String
  named : Bool
  missing : Bool
  deriving DecidableEq, Repr, Inhabited

/-- Reads a kind with its marks. -/
def FlatKind.ofText (s : String) : FlatKind :=
  match s.toList with
  | '!' :: mark :: name => ⟨String.ofList name, mark == '+', true⟩
  | mark :: name => ⟨String.ofList name, mark == '+', false⟩
  | [] => ⟨"", false, false⟩

/-- Places in a text: for every byte the number of lines begun before it and the start of its line.
-/
structure LineTable where
  bytes : ByteArray
  lines : Array Nat
  starts : Array Nat

/-- The places in a text. -/
def LineTable.ofText (text : String) : LineTable :=
  let bytes := Text.encodeUtf8 text
  let step := fun (acc : Array Nat × Array Nat × Nat × Nat × Nat) (b : UInt8) =>
    let (lines, starts, line, start, offset) := acc
    let offset := offset + 1
    let (line, start) := if b == 10 then (line + 1, offset) else (line, start)
    (lines.push line, starts.push start, line, start, offset)
  let (lines, starts, _) := bytes.foldl step (#[1], #[0], 1, 0, 0)
  ⟨⟨bytes.toArray⟩, lines, starts⟩

/-- The text of a range of bytes. -/
def LineTable.slice (t : LineTable) (start length : Nat) : String :=
  let bytes := t.bytes.extract start (start + length)
  match String.fromUTF8? bytes with
  | some s => s
  | none => Text.decodeUtf8Replacing bytes.toList

/-- A collection of trees. -/
structure TreeCollection where
  kinds : Array FlatKind := #[]
  fields : Array String := #[]
  trees : Assoc (List Nat) := []

namespace TreeCollection

/-- A collection written as a value. -/
def ofJson (v : Json) : TreeCollection :=
  let texts := fun key => ((v.get? key).getD .null).items.filterMap Json.text?
  { kinds := ((texts "kinds").map FlatKind.ofText).toArray
    fields := (texts "fields").toArray
    trees := ((v.get? "items").getD .null).fields.map fun (key, nodes) =>
      (key, nodes.items.filterMap fun n => n.int?.map Int.toNat) }

/-- What a flat node is, apart from its children. -/
def infoOf (c : TreeCollection) (t : LineTable) (n : FlatNode) : NodeInfo :=
  let kind := (c.kinds[n.kind]?).getD default
  let stop := n.start + n.length
  let start := (t.starts[n.start]?).getD 0
  { kind := kind.name
    named := kind.named
    field := (c.fields[n.field]?).getD ""
    missing := kind.missing
    startLine := (t.lines[n.start]?).getD 1
    startColumn := n.start - start
    endLine := (t.lines[stop]?).getD 1
    text := t.slice n.start n.length }

/-- Puts a node before a forest: the trees below its depth are its children. -/
def addNode (c : TreeCollection) (t : LineTable) (n : FlatNode) (forest : List (Nat × Node)) :
    List (Nat × Node) :=
  let children := forest.takeWhile fun p => decide (n.depth < p.1)
  (n.depth, .mk (c.infoOf t n) (children.map Prod.snd)) :: forest.drop children.length

/-- The tree of nodes in flat notation. -/
def build (c : TreeCollection) (text : String) (nodes : List FlatNode) : Option Node :=
  let t := LineTable.ofText text
  (nodes.foldr (c.addNode t) []).head?.map Prod.snd

/-- The tree of a text that is not in a collection: a single node. -/
def bareTree (text : String) : Node := .mk { kind := "program", text := text } []

/-- The grammar that a collection makes. -/
def grammar (c : TreeCollection) : Grammar := fun language text =>
  (((c.trees.get? (treeKey language text)).bind fun nodes =>
    c.build text (flatNodes nodes))).getD (bareTree text)

end TreeCollection

end ComponentMigration
