import ComponentMigration.Source.Document
import ComponentMigration.Text.Letters

/-!
# Names in source texts

Source texts bind, import, export and refer to names.

`importBindings` reads the names that an import statement binds from its tree,
`clauseBindings` from the text of its clause.
-/

namespace ComponentMigration

/-- The names of a named import: the alias if there is one. -/
def specifierName? (spec : Node) : Option String :=
  if spec.kind == "import_specifier" then
    ((spec.child? "alias").or (spec.child? "name")).map Node.text
  else none

/-- The names that one part of an import clause binds. -/
def clausePartNames (part : Node) : List String :=
  if part.kind == "identifier" then [part.text]
  else if part.kind == "namespace_import" then ((part.first? "identifier").map Node.text).toList
  else if part.kind == "named_imports" then part.namedChildren.filterMap specifierName?
  else []

/-- The names that an import statement binds, in order. -/
def importBindings (stmt : Node) : List String :=
  match stmt.namedChildren.find? (·.kind == "import_clause") with
  | some clause => clause.namedChildren.flatMap clausePartNames
  | none => []

/-- The name that an entry of a named list binds: what follows its last ` as `. -/
def entryName (entry : String) : String :=
  Text.strip ((Text.splitOn entry " as ").getLast?.getD "")

/-- Splits a text at its first braces: before, between and after them. -/
def splitBraces (cs : List Char) : Option (List Char × List Char × List Char) :=
  let before := cs.takeWhile (· != '\x7b')
  match cs.dropWhile (· != '\x7b') with
  | _ :: rest =>
    match rest.dropWhile (· != '\x7d') with
    | _ :: after => some (before, rest.takeWhile (· != '\x7d'), after)
    | [] => none
  | [] => none

/-- The name that a part of a clause outside braces binds. -/
def looseName? (part : String) : Option String :=
  let p := Text.strip part
  if Text.startsWith p "* as " then some (Text.strip (Text.drop 5 p))
  else if p.isEmpty then none else some p

/-- The names that the text of an import clause binds: first those in braces, then the others. -/
def clauseBindings (clause : String) : List String :=
  let clause := Text.replace clause "type " " "
  match splitBraces clause.toList with
  | some (before, inside, after) =>
    let entries := ((Text.splitOn (String.ofList inside) ",").map Text.strip).filter (!·.isEmpty)
    entries.map entryName ++
      (Text.splitOn (String.ofList (before ++ after)) ",").filterMap looseName?
  | none => (Text.splitOn clause ",").filterMap looseName?

/-- The import statements of a file. -/
def importStatements (root : Node) : List Node :=
  root.namedChildren.filter (·.kind == "import_statement")

/-- The file or package that an import statement names. -/
def importSource (stmt : Node) : String := stringValue (stmt.child? "source")

/-- The package of an import path: its first part, or the first two parts of a scoped name. -/
def packageName (importPath : String) : String :=
  let parts := Text.splitOn importPath "/"
  if Text.startsWith importPath "@" && parts.length > 1 then
    String.intercalate "/" (parts.take 2)
  else parts.headD ""

/-- Import sources by sort: packages, relative files and imports of types only. -/
structure ImportGroups where
  external : List String := []
  internal : List String := []
  types : List String := []
  deriving DecidableEq, Repr

/-- Adds an import statement to its group. -/
def ImportGroups.add (groups : ImportGroups) (stmt : Node) : ImportGroups :=
  let source := importSource stmt
  if stmt.hasToken "type" then { groups with types := Text.appendUnique groups.types source }
  else if Text.startsWith source "." then
    { groups with internal := Text.appendUnique groups.internal source }
  else { groups with external := Text.appendUnique groups.external source }

/-- The import sources of a file by sort. -/
def importGroups (root : Node) : ImportGroups :=
  (importStatements root).foldl ImportGroups.add {}

/-- The names that an exported declaration exports. -/
def Declaration.exportedNames (d : Declaration) : List String :=
  let default := if d.statement.node.hasToken "default" then ["default"] else []
  if d.node.isVariableDeclaration then default ++ d.node.namedChildren.filterMap declaredName
  else default ++ (declaredName d.node).toList

/-- The names that an export statement lists. -/
def listedExports (stmt : Node) : List String :=
  (stmt.findAll ["export_specifier"]).filterMap fun spec =>
    ((spec.child? "alias").or (spec.child? "name")).map Node.text

/-- The names that a file exports, each once. -/
def exportedNames (root : Node) : List String :=
  let declared := ((declarations root).filter (·.exported)).flatMap Declaration.exportedNames
  let listed := (root.namedChildren.filter (·.kind == "export_statement")).flatMap listedExports
  Text.unique (declared ++ listed)

mutual

/-- The names that a binding pattern binds. -/
def patternNames : Node → List String
  | .mk info children =>
    if info.kind == "identifier" || info.kind == "shorthand_property_identifier_pattern" then
      [info.text]
    else if info.kind == "pair_pattern" then patternNamesAt "value" children
    else if info.kind == "object_assignment_pattern" || info.kind == "assignment_pattern" then
      patternNamesAt "left" children
    else patternNamesIn children

/-- The names bound by the first child with a role. -/
def patternNamesAt (field : String) : List Node → List String
  | [] => []
  | c :: rest => if c.info.field == field then patternNames c else patternNamesAt field rest

/-- The names bound by the named children. -/
def patternNamesIn : List Node → List String
  | [] => []
  | c :: rest =>
    if c.info.named then patternNames c ++ patternNamesIn rest else patternNamesIn rest

end

/-- The kinds of declarations that introduce one name. -/
def namedDeclarationKinds : List String :=
  ["function_declaration", "generator_function_declaration", "class_declaration",
    "interface_declaration", "type_alias_declaration", "enum_declaration"]

/-- The names that a statement declares. -/
def declaredNames (stmt : Node) : List String :=
  if namedDeclarationKinds.contains stmt.kind then (declaredName stmt).toList
  else if stmt.isVariableDeclaration then
    (stmt.namedChildren.filter (·.kind == "variable_declarator")).flatMap fun v =>
      ((v.child? "name").map patternNames).getD []
  else []

/-- The kinds of nodes that refer to a name. -/
def referenceKinds : List String :=
  ["identifier", "type_identifier", "shorthand_property_identifier"]

/-- The names that a tree refers to, in order and with repetitions. -/
def references (n : Node) : List String :=
  (n.walk.filter fun m => referenceKinds.contains m.kind).map Node.text

/-- The keys of an object pattern. -/
def objectPatternNames (pattern : Node) : List String :=
  pattern.namedChildren.filterMap fun c =>
    if c.kind == "shorthand_property_identifier_pattern" then some c.text
    else if c.kind == "object_assignment_pattern" then (c.child? "left").map Node.text
    else if c.kind == "pair_pattern" then (c.child? "key").map Node.text
    else none

/-- Whether a name is a hook's: `use` and then a capital or a digit. -/
def isHookName (s : String) : Bool :=
  match s.toList with
  | 'u' :: 's' :: 'e' :: c :: _ => c.isUpper || c.isDigit
  | _ => false

/-- Whether a name is a wrapping function's: `with` and then a capital. -/
def isWrapperName (s : String) : Bool :=
  match s.toList with
  | 'w' :: 'i' :: 't' :: 'h' :: c :: _ => c.isUpper
  | _ => false

/-- Whether a name is an event handler's: `handle` or `on` and then a capital. -/
def isHandlerName (s : String) : Bool :=
  match s.toList with
  | 'o' :: 'n' :: c :: _ => c.isUpper
  | 'h' :: 'a' :: 'n' :: 'd' :: 'l' :: 'e' :: c :: _ => c.isUpper
  | _ => false

/-- Whether a text is an identifier; a final line feed is let pass. -/
def isIdentifier (s : String) : Bool :=
  match s.toList with
  | c :: rest =>
    (c.isAlpha || c == '_' || c == '$') &&
      (let body := match rest.getLast? with
        | some '\n' => rest.dropLast
        | _ => rest
       body.all fun d => Text.isWordChar d || d == '$')
  | [] => false

end ComponentMigration
