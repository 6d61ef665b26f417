import ComponentMigration.Path
import ComponentMigration.Source.Node

/-!
# Source files and their declarations

A document is a text with its tree, and its top-level statements declare names.
-/

namespace ComponentMigration

/-!
## Parsed source files

A document is a source text with its tree.  The grammar that makes trees is a parameter of the
library: any function from texts to trees serves.  Places that the grammar could not read make the
document erroneous and are described with their positions.
-/

/-- The languages of component sources. -/
inductive Language where
  | tsx
  | typescript
  | javascript
  deriving DecidableEq, Repr

/-- The name of a language. -/
def Language.label : Language → String
  | .tsx => "tsx"
  | .typescript => "typescript"
  | .javascript => "javascript"

/-- The language of a file, by the ending of its name. -/
def Language.ofPath? (p : Path) : Option Language :=
  if Text.endsWith p.name ".d.ts" then some .typescript
  else match p.extension with
    | ".tsx" => some .tsx
    | ".ts" => some .typescript
    | ".jsx" => some .javascript
    | ".js" => some .javascript
    | ".mjs" => some .javascript
    | _ => none

/-- A grammar: the tree of every text in every language. -/
abbrev Grammar := Language → String → Node

/-- A source text with its tree. -/
structure Document where
  path : String
  language : Language
  source : String
  root : Node

namespace Document

/-- Parses a text. -/
def parse (grammar : Grammar) (language : Language) (path source : String) : Document :=
  ⟨path, language, source, grammar language source⟩

/-- The places that could not be read. -/
def brokenNodes (d : Document) : List Node := d.root.walk.filter Node.isBroken

/-- Whether some place could not be read. -/
def hasErrors (d : Document) : Bool := !d.brokenNodes.isEmpty

/-- Line and column, counted from one, of the places that could not be read. -/
def errorPositions (d : Document) : List (Nat × Nat) :=
  d.brokenNodes.map fun n => (n.info.startLine, n.info.startColumn + 1)

/-- The description of a place that could not be read. -/
def describe (path : String) (n : Node) : String :=
  let place := path ++ ":" ++ toString n.info.startLine ++ ":" ++
    toString (n.info.startColumn + 1) ++ ": "
  if n.info.missing then place ++ "missing '" ++ n.kind ++ "'"
  else place ++ "unexpected '" ++ Text.take 40 (Text.firstLine (Text.strip n.text)) ++ "'"

/-- Descriptions of the first places that could not be read.  The walk stops at the first node after
which the limit is reached, so with no allowance only the root is looked at. -/
def describeErrors (d : Document) (limit : Int) : List String :=
  let nodes := if limit ≤ 0 then d.root.walk.take 1 else d.root.walk
  let found := (nodes.filter Node.isBroken).map (describe d.path)
  if limit ≤ 0 then found else found.take limit.toNat

end Document

/-!
## Top-level declarations

A statement of the file knows the sibling before it, so that a documentation comment can be found;
an exported declaration is unwrapped from its export statement.  `findDeclaration` gives the place
at which a name is introduced.
-/

/-- A named child of the root: its position among all children and the child before it. -/
structure Statement where
  position : Nat
  previous : Option Node
  node : Node

/-- The statements of a list of children, from a position on. -/
def statementsFrom : Nat → Option Node → List Node → List Statement
  | _, _, [] => []
  | position, previous, c :: rest =>
    let later := statementsFrom (position + 1) (some c) rest
    if c.info.named then ⟨position, previous, c⟩ :: later else later

/-- The statements of a file. -/
def statements (root : Node) : List Statement := statementsFrom 0 none root.children

/-- A top-level declaration: the statement, the declaration itself, and whether it is exported. -/
structure Declaration where
  statement : Statement
  node : Node
  exported : Bool

/-- The declaration that a statement makes.  An export without a declaration or value makes none,
nor does a comment. -/
def Statement.declaration? (s : Statement) : Option Declaration :=
  if s.node.kind == "export_statement" then
    ((s.node.child? "declaration").or (s.node.child? "value")).map fun inner => ⟨s, inner, true⟩
  else if s.node.kind == "comment" then none
  else some ⟨s, s.node, false⟩

/-- The top-level declarations of a file. -/
def declarations (root : Node) : List Declaration :=
  (statements root).filterMap Statement.declaration?

/-- The name under the role `name`. -/
def declaredName (n : Node) : Option String := (n.child? "name").map Node.text

/-- The place at which a name is introduced: the statement, and the function, class or variable
declarator in it. -/
structure Site where
  statement : Statement
  node : Node

/-- The site of a name in one declaration. -/
def Declaration.site? (d : Declaration) (name : String) : Option Site :=
  if d.node.isVariableDeclaration then
    (d.node.namedChildren.find? fun v =>
      v.kind == "variable_declarator" && declaredName v == some name).map (⟨d.statement, ·⟩)
  else if declaredName d.node == some name then some ⟨d.statement, d.node⟩
  else none

/-- The site of a name in a file: the first declaration that has it. -/
def findDeclaration (root : Node) (name : String) : Option Site :=
  (declarations root).findSome? (·.site? name)

/-- The documentation comment directly above a statement. -/
def Statement.comment? (s : Statement) : Option Node :=
  s.previous.filter fun prev =>
    prev.kind == "comment" && Text.startsWith prev.text "/**" &&
      s.node.info.startLine ≤ prev.info.endLine + 1

/-- The text of the documentation comment directly above a statement. -/
def Statement.documentation? (s : Statement) : Option String :=
  s.comment?.map fun c => cleanComment c.text

/-- A function that a file exports as its default and that is not declared by name elsewhere. -/
def defaultExport (root : Node) : Option Site :=
  (statements root).findSome? fun s =>
    if s.node.kind == "export_statement" && s.node.hasToken "default" then
      (((s.node.child? "declaration").or (s.node.child? "value")).filter Node.isFunction).map
        (⟨s, ·⟩)
    else none

/-- The first child that states what a class extends. -/
def heritage? (n : Node) : Option Node := n.children.find? (·.kind == "class_heritage")

end ComponentMigration
