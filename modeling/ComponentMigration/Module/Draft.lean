import ComponentMigration.Component.Basic
import ComponentMigration.Fault.Basic
import ComponentMigration.Module.Text
import ComponentMigration.Module.Logic
import ComponentMigration.Source.Document

/-!
# Drafts of generated modules

A draft gathers the pieces: imports, the declarations that the unit uses, its props, the hook with
the extracted logic, and the component itself.  Function components keep their statements; class
components are turned into state, functions and effects.
-/

namespace ComponentMigration

/-- Pieces of the module being generated. -/
structure Draft where
  component : Component
  lines : List String
  imports : List String := []
  reactBindings : List String := []
  hasReactImport : Bool := false
  types : List String := []
  typeNames : List String := []
  helpers : List String := []
  trailer : List String := []
  hook : String := ""
  declaration : String := ""
  defaultExported : Bool := false
  lifted : List (String × String) := []
  neededHooks : List String := []
  warnings : List String := []
  manualReview : Bool := false

namespace Draft

/-- The name of the unit. -/
def name (d : Draft) : String := d.component.name

/-- The name of the hook with the extracted logic. -/
def hookName (d : Draft) : String := "use" ++ d.name ++ "Logic"

/-- Notes a warning, which may ask for a review. -/
def warn (d : Draft) (message : String) (review : Bool := true) : Draft :=
  { d with warnings := d.warnings ++ [message], manualReview := d.manualReview || review }

end Draft

/-- A top-level declaration that the module may need. -/
structure KeepCandidate where
  top : Node
  decl : Node
  names : List String

/-- Keeps the candidates that declare a needed name, in one pass; what they refer to is needed too.
-/
def keepPass : List (KeepCandidate × Bool) → List String →
    List (KeepCandidate × Bool) × List String
  | [], needed => ([], needed)
  | (c, kept) :: rest, needed =>
    if !kept && c.names.any needed.contains then
      let (later, needed) := keepPass rest (needed ++ references c.decl)
      ((c, true) :: later, needed)
    else
      let (later, needed) := keepPass rest needed
      ((c, kept) :: later, needed)

/-- Keeps candidates until nothing changes; `fuel` bounds the passes. -/
def keepAll : Nat → List (KeepCandidate × Bool) → List String → List (KeepCandidate × Bool)
  | 0, marked, _ => marked
  | fuel + 1, marked, needed =>
    let (next, needed') := keepPass marked needed
    if (next.filter (·.2)).length == (marked.filter (·.2)).length then marked
    else keepAll fuel next needed'

/-- The candidates that a set of needed names asks for, in order. -/
def keptDeclarations (candidates : List KeepCandidate) (needed : List String) :
    List KeepCandidate :=
  ((keepAll (candidates.length + 1) (candidates.map (·, false)) needed).filter (·.2)).map (·.1)

/-- The kinds of declarations of types. -/
def typeDeclarationKinds : List String :=
  ["interface_declaration", "type_alias_declaration", "enum_declaration"]

/-- The candidate that a statement is. -/
def keepCandidate? (top : Node) : Option KeepCandidate :=
  (if top.kind == "export_statement" then top.child? "declaration" else some top).bind fun decl =>
    let names := declaredNames decl
    if names.isEmpty then none else some ⟨top, decl, names⟩

/-- Whether a statement is an expression that refers to the unit. -/
def isTrailer (name : String) (top : Node) : Bool :=
  top.kind == "expression_statement" && (references top).contains name

namespace Draft

/-- Adds an import statement. -/
def addImport (d : Draft) (top : Node) : Draft :=
  let d := { d with imports := d.imports ++ [top.text] }
  if importSource top == "react" then
    { d with hasReactImport := true, reactBindings := d.reactBindings ++ importBindings top }
  else d

/-- Adds a kept declaration. -/
def addKept (d : Draft) (c : KeepCandidate) : Draft :=
  let text := if c.top.hasToken "default" then c.decl.text else c.top.text
  if typeDeclarationKinds.contains c.decl.kind then
    { d with
      types := d.types ++ [if Text.startsWith text "export" then text else "export " ++ text]
      typeNames := d.typeNames ++ c.names }
  else { d with helpers := d.helpers ++ [text] }

/-- Collects imports, expressions about the unit, and every top-level declaration that the unit
uses, directly or through others. -/
def collect (d : Draft) (root : Node) (site : Site) : Draft :=
  let tops := ((statements root).filter fun s =>
    s.position != site.statement.position && s.node.kind != "comment").map Statement.node
  let d := (tops.filter (·.kind == "import_statement")).foldl addImport d
  let others := tops.filter (·.kind != "import_statement")
  let d := { d with trailer := (others.filter (isTrailer d.name)).map Node.text }
  let candidates := (others.filter fun t => !isTrailer d.name t).filterMap keepCandidate?
  (keptDeclarations candidates (references site.node ++ [d.name ++ "Props"])).foldl addKept d

end Draft

/-- The first type argument below a node. -/
def firstTypeArgument (n : Node) : Option String :=
  (n.first? "type_arguments").bind fun args => args.namedChildren.head?.map Node.text

/-- The type of the props as the source writes it. -/
def writtenPropsType (n : Node) : Option String :=
  if n.kind == "class_declaration" then (heritage? n).bind firstTypeArgument
  else
    let params := (n.functionOf.map parametersOf).getD []
    let typed := (params.head?.filter fun p =>
      p.kind == "required_parameter" || p.kind == "optional_parameter").bind (·.child? "type")
    match typed with
    | some t => some (Text.strip (Text.stripStartOf (· == ':') t.text))
    | none =>
      if n.kind == "variable_declarator" then (n.child? "type").bind firstTypeArgument else none

/-- The lines that declare one prop. -/
def propLines (p : PropSpec) : List String :=
  let doc :=
    if p.description.isEmpty then []
    else [indentUnit ++ "/** " ++ Text.replace (Text.firstLine p.description) "*/" "* /" ++ " */"]
  let name := if isIdentifier p.name then p.name else "\"" ++ p.name ++ "\""
  let type := if p.type == "function" then "(...args: unknown[]) => unknown" else p.type
  doc ++ [indentUnit ++ name ++ (if p.required then "" else "?") ++ ": " ++ type ++ ";"]

namespace Draft

/-- Declares the type of the props, unless a kept declaration does. -/
def declareProps (d : Draft) (n : Node) : Draft :=
  let propsType := d.name ++ "Props"
  if d.typeNames.contains propsType then d
  else
    match writtenPropsType n with
    | some written =>
      if !written.isEmpty && written != propsType then
        { d with types := d.types ++ ["export type " ++ propsType ++ " = " ++ written ++ ";"] }
      else { d with types := d.types ++ [interface d propsType] }
    | none => { d with types := d.types ++ [interface d propsType] }
where
  interface (d : Draft) (propsType : String) : String :=
    String.intercalate "\n"
      (["export interface " ++ propsType ++ " \x7b"] ++ d.component.props.flatMap propLines ++
        ["\x7d"])

end Draft

/-- The parts of a component from which hook and component are written. -/
structure Pieces where
  signature : String := ""
  arguments : String := ""
  prelude : List String := []
  lifted : List String := []
  names : List String := []
  render : List String := []

/-- The wrapping calls' opening and closing texts. -/
def wrapperOpening (calls : List WrapperCall) : String :=
  String.join (calls.map fun c => c.callee ++ "(")

/-- The closing texts of wrapping calls, from the inside out. -/
def wrapperClosing (calls : List WrapperCall) : String :=
  String.join (calls.reverse.map fun c =>
    (if c.extra.isEmpty then "" else ", " ++ String.intercalate ", " c.extra) ++ ")")

/-- Names in braces. -/
def braced (names : List String) : String :=
  "\x7b " ++ String.intercalate ", " names ++ " \x7d"

/-- The lines of the hook with the extracted logic. -/
def hookLines (d : Draft) (p : Pieces) : List String :=
  docComment ("State, effects and handlers extracted from " ++ d.name ++ ".") "" ++
    ["export function " ++ d.hookName ++ "(" ++ p.signature ++ ") \x7b"] ++ p.prelude ++ p.lifted ++
    (if p.names.isEmpty then [] else [indentUnit ++ "return " ++ braced p.names ++ ";"]) ++ ["\x7d"]

/-- The line by which the component calls the hook. -/
def hookCallLine (d : Draft) (p : Pieces) : String :=
  let call := d.hookName ++ "(" ++ p.arguments ++ ")"
  if p.names.isEmpty then indentUnit ++ call ++ ";"
  else indentUnit ++ "const " ++ braced p.names ++ " = " ++ call ++ ";"

/-- Writes the hook and the component. -/
def Draft.emit (d : Draft) (n : Node) (p : Pieces) : Draft :=
  let body := p.prelude ++ (if p.lifted.isEmpty then [] else [hookCallLine d p]) ++ p.render
  let doc := d.component.metadata.documentation
  let head := if doc.isEmpty then [] else docComment doc ""
  let inner := "function " ++ d.name ++ "(" ++ p.signature ++ ") \x7b"
  let calls := wrapperCalls n
  let lines :=
    if calls.isEmpty then ["export " ++ inner] ++ body ++ ["\x7d"]
    else
      ["export const " ++ d.name ++ " = " ++ wrapperOpening calls ++ inner] ++ body ++
        ["\x7d" ++ wrapperClosing calls ++ ";"]
  { d with
    hook := if p.lifted.isEmpty then "" else String.intercalate "\n" (hookLines d p)
    declaration := String.intercalate "\n" (head ++ lines) }

/-- The parts of a function component that its parameters give. -/
structure Signature where
  propsName : String := "props"
  destructure : Option String := none
  propNames : List String := []
  text : String := ""
  arguments : String := ""

/-- The signature of a function component. -/
def signatureOf (name : String) (fn : Node) : Signature :=
  match parametersOf fn with
  | [] => {}
  | first :: rest =>
    let pattern := parameterPattern first
    let propsName := match pattern with
      | some p => if p.kind == "identifier" then p.text else "props"
      | none => "props"
    let object := pattern.filter (·.kind == "object_pattern")
    { propsName := propsName
      destructure := object.map Node.text
      propNames := (object.map patternNames).getD []
      text := String.intercalate ", "
        ((propsName ++ ": " ++ name ++ "Props") :: rest.map Node.text)
      arguments := String.intercalate ", "
        (propsName :: rest.filterMap fun p => (parameterPattern p).map Node.text) }

/-- Puts one body statement into the hook or into the component. -/
def placeStatement (lines : List String) (s : Signature) (logicNames : List String)
    (acc : Pieces × List (String × String)) (marked : Node × Bool) :
    Pieces × List (String × String) :=
  let (p, found) := acc
  let (stmt, isLogic) := marked
  let text := reindent stmt.text (lineIndent lines stmt) indentUnit
  if isLogic then
    let declared := declaredNames stmt
    ({ p with
       lifted := p.lifted ++ [text]
       names := (declared.filter fun n => !s.propNames.contains n).foldl Text.appendUnique
         p.names },
      found ++ (declared.filter logicNames.contains).map (·, text))
  else ({ p with render := p.render ++ [text] }, found)

/-- The hook and the component of a function component. -/
def Draft.convertFunction (d : Draft) (extract : Bool) (n fn : Node) : Draft :=
  let s := signatureOf d.name fn
  let start : Pieces :=
    { signature := s.text
      arguments := s.arguments
      prelude := match s.destructure with
        | some pattern =>
          if pattern.isEmpty then []
          else [indentUnit ++ "const " ++ pattern ++ " = " ++ s.propsName ++ ";"]
        | none => [] }
  let logicNames := d.component.businessLogic.map LogicSpec.name
  let (pieces, found) := match fn.child? "body" with
    | none => (start, [])
    | some body =>
      if body.kind == "statement_block" then
        let marked := if extract then logicStatements body.namedChildren
          else body.namedChildren.map (·, false)
        marked.foldl (placeStatement d.lines s logicNames) (start, [])
      else
        ({ start with render :=
            [reindent ("return " ++ body.text ++ ";") (lineIndent d.lines body) indentUnit] }, [])
  ({ d with lifted := d.lifted ++ found } : Draft).emit n pieces

end ComponentMigration
