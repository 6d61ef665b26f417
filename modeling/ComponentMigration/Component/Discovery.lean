import ComponentMigration.Component.Basic
import ComponentMigration.Source.Binding
import ComponentMigration.Source.Visit
import ComponentMigration.Text.Pattern
import ComponentMigration.Text.Utf8

/-!
# Component units in source files

Units are found in the tree of a document, or in its text where that is unreadable.
-/

namespace ComponentMigration

/-!
## Components of unreadable texts

When a file has unreadable places, declarations and imports are recovered from the text alone by
patterns anchored at line starts.  The module also has the patterns by which a text looks like a
component file at all.
-/

open Text Text.Pattern

/-- An optional export with an optional default mark. -/
def exportDefaultMark : Pattern :=
  optional (cat [lit "export", blanks1, optional (cat [lit "default", blanks1])])

/-- An optional export. -/
def exportMark : Pattern := optional (cat [lit "export", blanks1])

/-- The name of a hook. -/
def hookNamePattern : Pattern :=
  .capture "name" (cat [lit "use", .one fun c => c.isUpper || c.isDigit, wordChars])

/-- A name with a capital at its start. -/
def capitalNamePattern : Pattern := .capture "name" (cat [capital, wordChars])

/-- The name of a wrapping function. -/
def wrapperNamePattern : Pattern := .capture "name" (cat [lit "with", capital, wordChars])

/-- An optional type annotation of a variable. -/
def annotationPattern : Pattern :=
  optional (cat [lit ":", blanks,
    some1 (.one fun c => isWordChar c || ".<>[], ".toList.contains c)])

/-- A declaration of a function with a name. -/
def functionPattern (name : Pattern) : Pattern :=
  cat [lit "function", blanks1, name, blanks, lit "("]

/-- The declaration patterns in the order in which they are tried, and the kind each one shows. -/
def fallbackDeclarations : List (Pattern × ComponentKind) :=
  [(cat [.lineStart, blanks, exportDefaultMark, lit "class", blanks1, capitalNamePattern, blanks1,
      lit "extends", blanks1, optional (lit "React."), optional (lit "Pure"), lit "Component",
      .wordEdge], .classBased),
    (cat [.lineStart, blanks, exportDefaultMark, optional (cat [lit "async", blanks1]),
      functionPattern hookNamePattern], .hook),
    (cat [.lineStart, blanks, exportMark, lit "const", blanks1, hookNamePattern, blanks, lit "=",
      blanks, optional (cat [lit "async", blanks]), lit "("], .hook),
    (cat [.lineStart, blanks, exportDefaultMark, functionPattern wrapperNamePattern],
      .higherOrder),
    (cat [.lineStart, blanks, exportDefaultMark, functionPattern capitalNamePattern],
      .functional),
    (cat [.lineStart, blanks, exportMark, lit "const", blanks1, capitalNamePattern, blanks,
      annotationPattern, lit "=", blanks, optional (lit "React."),
      .either (lit "forwardRef") (lit "memo"), blanks, .one fun c => c == '(' || c == '<'],
      .functional),
    (cat [.lineStart, blanks, exportMark, lit "const", blanks1, capitalNamePattern, blanks,
      annotationPattern, lit "=", blanks, optional (cat [lit "async", blanks]), lit "("],
      .functional)]

/-- A character outside quotes. -/
def isUnquoted (c : Char) : Bool := c != '\'' && c != '"'

/-- An import statement with its clause and source. -/
def fallbackImport : Pattern :=
  let quote : Pattern := .one fun c => c == '\'' || c == '"'
  let clauseChar : Pattern := .one isUnquoted
  cat [.lineStart, blanks, lit "import", blanks1, optional (cat [lit "type", blanks1]),
    optional (cat [.capture "clause" (.seq clauseChar (.many false clauseChar)), blanks1,
      lit "from", blanks1]),
    quote, .capture "source" (some1 clauseChar), quote]

/-- The line of a place in a text, counted from one. -/
def lineOfOffset (source : String) (offset : Nat) : Nat :=
  ((source.toList.take offset).count '\n') + 1

/-- Declarations recovered from a text: name, kind and line. -/
def recoveredDeclarations (source : String) : List (String × ComponentKind × Nat) :=
  fallbackDeclarations.flatMap fun (pattern, kind) =>
    (pattern.findAll source).filterMap fun o =>
      (o.captured? "name").map fun c => (c.text, kind, lineOfOffset source c.start)

/-- Imports recovered from a text: source and bound names. -/
def recoveredImports (source : String) : List (String × List String) :=
  (fallbackImport.findAll source).filterMap fun o =>
    (o.captured? "source").map fun s =>
      (s.text, clauseBindings (((o.captured? "clause").map Captured.text).getD ""))

/-- The patterns of component files. -/
def componentFileHints : List Pattern :=
  let quote : Pattern := .one fun c => c == '\'' || c == '"'
  [.either (cat [lit "import", blanks1, lit "React"])
      (cat [lit "from", blanks1, quote, lit "react", quote]),
    cat [lit "<", .one Char.isAlpha, .many true (.one fun c => isWordChar c || c == '.'),
      .one fun c => isBlank c || c == '/' || c == '>'],
    cat [lit "export", blanks1, optional (cat [lit "default", blanks1]),
      oneOf [lit "function", lit "const", lit "class"], blanks1, capital],
    cat [.wordEdge, lit "use", capital, wordChars, blanks, lit "("]]

/-- Whether a text looks like a component file. -/
def isLikelyComponentFile (source : String) : Bool := componentFileHints.any (·.occursIn source)

/-- Whether the text after `extends` names one of the framework's component classes. -/
def extendsComponent (heritage : String) : Bool :=
  (cat [.wordEdge, optional (lit "Pure"), lit "Component", .wordEdge]).occursIn heritage

end ComponentMigration

namespace ComponentMigration

/-!
## Component units of a document

Every top-level declaration that has a component's shape makes a unit, the first one of each name.
If the document has unreadable places, declarations recovered from its text follow.
-/

/-- The kind of a function by its name. -/
def kindForFunction (name : String) : Option ComponentKind :=
  if isHookName name then some .hook
  else if isWrapperName name then some .higherOrder
  else if Text.startsWithCapital name then some .functional
  else none

/-- The wrapping calls around a value that count as patterns. -/
def wrapperPatterns (value : Node) : List String :=
  if value.kind == "call_expression" then
    let callee := value.calleeName
    let own := if callee == "forwardRef" || callee == "memo" then [callee] else []
    match _h : value.firstArgument? with
    | some a => own ++ wrapperPatterns a
    | none => own
  else []
termination_by sizeOf value
decreasing_by exact Node.sizeOf_lt_of_firstArgument? _h

/-- A declaration that makes a unit. -/
structure Candidate where
  name : String
  kind : ComponentKind
  statement : Statement
  node : Node
  wrappers : List String := []

/-- The unit that a variable declarator makes. -/
def declaratorCandidate? (s : Statement) (declarator : Node) : Option Candidate :=
  if declarator.kind != "variable_declarator" then none
  else
    match declarator.child? "name", declarator.child? "value" with
    | some name, some value =>
      if name.kind != "identifier" then none
      else if declarator.functionOf.isSome then
        (kindForFunction name.text).map
          (⟨name.text, ·, s, declarator, wrapperPatterns value⟩)
      else if value.kind == "call_expression" && Text.startsWithCapital name.text &&
          isWrapperName value.calleeName then
        some ⟨name.text, .higherOrder, s, declarator, wrapperPatterns value⟩
      else none
    | _, _ => none

/-- The units that a declaration makes.  `stem` is the name of the file, for a default export
without a name of its own. -/
def Declaration.candidates (d : Declaration) (stem : String) : List Candidate :=
  let n := d.node
  if n.kind == "function_declaration" || n.kind == "generator_function_declaration" then
    ((declaredName n).bind fun name =>
      (kindForFunction name).map fun kind => ⟨name, kind, d.statement, n, []⟩).toList
  else if n.kind == "class_declaration" then
    match declaredName n, heritage? n with
    | some name, some heritage =>
      if extendsComponent heritage.text then [⟨name, .classBased, d.statement, n, []⟩] else []
    | _, _ => []
  else if n.isVariableDeclaration then
    n.namedChildren.filterMap (declaratorCandidate? d.statement)
  else if n.isFunction && d.statement.node.hasToken "default" && Text.startsWithCapital stem then
    [⟨stem, .functional, d.statement, n, []⟩]
  else []

/-- Keeps the first of the candidates with one name. -/
def firstByName (candidates : List Candidate) : List Candidate :=
  candidates.foldl (fun acc c => if acc.any (·.name == c.name) then acc else acc ++ [c]) []

/-- The type names in the first parameter's annotation, the declarator's annotation, or the type
arguments of a class's heritage. -/
def referencedTypes (n : Node) : List String :=
  let scope : List Node :=
    if n.kind == "class_declaration" then
      ((heritage? n).map fun h => h.findAll ["type_arguments"]).getD []
    else
      let params := ((n.functionOf.bind (·.child? "parameters")).map
        fun p => p.namedChildren.take 1).getD []
      if n.kind == "variable_declarator" then params ++ (n.child? "type").toList else params
  Text.unique ((scope.flatMap fun part => part.findAll ["type_identifier"]).map Node.text)

/-- The object type that a type declaration introduces, with its name. -/
def typeBody? (n : Node) : Option (String × Node) :=
  (declaredName n).bind fun name =>
    if n.kind == "interface_declaration" then (n.child? "body").map (name, ·)
    else if n.kind == "type_alias_declaration" then
      ((n.child? "value").bind (·.first? "object_type")).map (name, ·)
    else none

/-- The object types that a file declares. -/
def typeBodies (root : Node) : List (String × Node) :=
  (declarations root).filterMap fun d => typeBody? d.node

/-- The description of a prop by the comment above it or after it on its line. -/
def memberDescription (previous : Option Node) (member : Node) (later : List Node) : String :=
  let above := previous.filter fun p =>
    p.kind == "comment" && p.info.endLine + 1 == member.info.startLine
  match above with
  | some p =>
    if Text.startsWith p.text "/*" then cleanComment p.text
    else Text.strip (Text.stripStartOf (· == '/') p.text)
  | none =>
    match later.find? fun m => m.kind != ";" && m.kind != "," with
    | some next =>
      if next.kind == "comment" && next.info.startLine == member.info.endLine then
        Text.strip (Text.stripStartOf (· == '/') next.text)
      else ""
    | none => ""

/-- The props of an object type's members. -/
def propMembers : Option Node → List Node → List PropSpec
  | _, [] => []
  | previous, member :: later =>
    let rest := propMembers (some member) later
    if member.kind == "property_signature" || member.kind == "method_signature" then
      match member.child? "name" with
      | none => rest
      | some name =>
        let type :=
          if member.kind == "method_signature" then "function"
          else match member.child? "type" with
            | some annotation => Text.strip (Text.stripStartOf (· == ':') annotation.text)
            | none => "any"
        { name := Text.stripOf (fun c => c == '\'' || c == '"') name.text
          type := type
          required := !member.hasToken "?"
          description := memberDescription previous member later } :: rest
    else rest

/-- The props of a unit: the members of the first type that is found among its own props type, the
types that it refers to, and the file's general props type. -/
def propsOf (root : Node) (name : String) (node : Option Node) : List PropSpec :=
  let candidates := [name ++ "Props"] ++ ((node.map referencedTypes).getD []) ++ ["Props"]
  let types := typeBodies root
  match candidates.findSome? fun t => List.lookup t types with
  | some body => propMembers none body.children
  | none => []

/-- The function of a class member that counts as logic. -/
def memberLogic? (member : Node) : Option LogicSpec :=
  ((member.child? "name").or (member.child? "property")).bind fun name =>
    if lifecycleMethods.contains name.text || ["constructor", "render"].contains name.text then none
    else
      let fn :=
        if member.kind == "method_definition" then some member
        else if member.kind == "public_field_definition" || member.kind == "field_definition" then
          (member.child? "value").filter Node.isFunction
        else none
      fn.map fun f => ⟨name.text, Complexity.ofCyclomatic f.cyclomatic, member.info.startLine⟩

/-- The named functions that a body statement declares directly. -/
def innerFunctions (stmt : Node) : List (String × Node) :=
  if stmt.kind == "function_declaration" then ((declaredName stmt).map (·, stmt)).toList
  else if stmt.isVariableDeclaration then
    stmt.namedChildren.filterMap fun declarator =>
      match declarator.child? "name", declarator.child? "value" with
      | some name, some value =>
        if name.kind != "identifier" then none
        else if value.isFunction then some (name.text, value)
        else if value.kind == "call_expression" && value.calleeName == "useCallback" then
          (value.firstArgument?.filter Node.isFunction).map (name.text, ·)
        else none
      | _, _ => none
  else []

/-- The inner functions of a unit. -/
def logicOf (node : Node) (kind : ComponentKind) : List LogicSpec :=
  if kind == .classBased then
    (((node.child? "body").map Node.namedChildren).getD []).filterMap memberLogic?
  else
    match (node.functionOf.bind (·.child? "body")).filter (·.kind == "statement_block") with
    | some body =>
      (body.namedChildren.flatMap innerFunctions).map fun (name, target) =>
        ⟨name, Complexity.ofCyclomatic target.cyclomatic, target.info.startLine⟩
    | none => []

/-- The hooks whose use is a pattern of its own. -/
def trackedHooks : List String :=
  ["useState", "useEffect", "useContext", "useReducer", "useMemo", "useCallback"]

/-- Whether a node is a function in the place of an element's child. -/
def isChildFunction (n : Node) : Bool :=
  n.kind == "jsx_expression" &&
    n.namedChildren.head?.any fun inner =>
      inner.kind == "arrow_function" || inner.kind == "function_expression" ||
        inner.kind == "function"

/-- The pattern that one node shows. -/
def nodePattern? (n : Node) : Option String :=
  if n.kind == "call_expression" then
    let callee := n.calleeName
    if trackedHooks.contains callee then some callee
    else if isHookName callee && (hookSort? callee).isNone then some "custom-hook"
    else none
  else if n.kind == "jsx_attribute" then
    match n.namedChildren with
    | name :: value :: rest =>
      let last := (value :: rest).getLastD value
      if Text.startsWith name.text "render" && (last.first? "arrow_function").isSome then
        some "render-props"
      else none
    | _ => none
  else if n.kind == "jsx_element" && n.children.any isChildFunction then
    some "children-as-function"
  else none

/-- The patterns of a unit. -/
def patternsOf (node : Node) (wrappers : List String) : List String :=
  orderedPatterns (wrappers ++ node.walk.filterMap nodePattern?)

/-- The packages without which no component runs. -/
def criticalPackages : List String := ["react", "react-dom"]

/-- The dependency that an import makes. -/
def dependencyOf (source : String) (bindings : List String) : Dependency :=
  let internal := Text.startsWith source "."
  let package := packageName source
  { name := if internal then (Path.ofText source).name else package
    origin := if internal then .internal else .external
    importPath := source
    critical := !internal && criticalPackages.contains package
    bindings := bindings }

/-- The dependencies of a document's units. -/
def Document.dependencies (d : Document) : List Dependency :=
  let imports :=
    if d.hasErrors then recoveredImports d.source
    else (importStatements d.root).map fun stmt => (importSource stmt, importBindings stmt)
  (imports.filter fun (source, _) => !source.isEmpty).map fun (source, bindings) =>
    dependencyOf source bindings

/-- Where a document comes from, for the units found in it. -/
structure DocumentOrigin where
  file : String
  absolute : String
  size : Nat
  coverage : Float

/-- Puts a unit together and grades it. -/
def assembleUnit (d : Document) (o : DocumentOrigin) (name : String) (kind : ComponentKind)
    (props : List PropSpec) (logic : List LogicSpec) (patterns : List String)
    (startLine endLine : Nat) (documentation : String) : Component :=
  let lines : Int := (endLine : Int) - startLine + 1
  let score : Int := props.length * 2 + logic.length * 5 + patterns.length * 3 + lines / 50
  { id := o.file ++ ":" ++ name
    name := name
    filePath := o.file
    absolutePath := o.absolute
    kind := kind
    complexity := Complexity.ofScore score
    props := props
    dependencies := d.dependencies
    businessLogic := logic
    patterns := patterns
    metadata :=
      { hasDocumentation := !documentation.isEmpty
        testCoverage := o.coverage
        bundleSize := o.size
        lineCount := lines
        documentation := documentation }
    startLine := startLine
    endLine := endLine
    complexityScore := score }

/-- The unit of a candidate. -/
def Candidate.unit (c : Candidate) (d : Document) (o : DocumentOrigin) : Component :=
  assembleUnit d o c.name c.kind (propsOf d.root c.name (some c.node)) (logicOf c.node c.kind)
    (patternsOf c.node c.wrappers) c.statement.node.info.startLine c.statement.node.info.endLine
    (c.statement.documentation?.getD "")

/-- The candidates of a document, one for each name. -/
def Document.candidates (d : Document) (o : DocumentOrigin) : List Candidate :=
  firstByName ((declarations d.root).flatMap (·.candidates (Path.ofText o.file).stem))

/-- Adds the recovered declarations whose names are new. -/
def addRecovered (d : Document) (o : DocumentOrigin) (units : List Component) :
    List (String × ComponentKind × Nat) → List Component
  | [] => units
  | (name, kind, line) :: rest =>
    if units.any (·.name == name) then addRecovered d o units rest
    else
      addRecovered d o
        (units ++ [assembleUnit d o name kind (propsOf d.root name none) [] [] line line ""]) rest

/-- The units of a document. -/
def Document.units (d : Document) (o : DocumentOrigin) : List Component :=
  let units := (d.candidates o).map (·.unit d o)
  if d.hasErrors then addRecovered d o units (recoveredDeclarations d.source) else units

/-- The units of a document that stands alone; its size is that of its text. -/
def Document.unitsIn (d : Document) (file absolute : String) (coverage : Float) :
    List Component :=
  d.units ⟨file, if absolute.isEmpty then file else absolute, Text.byteCount d.source, coverage⟩

end ComponentMigration
