import ComponentMigration.Dependency.Basic
import ComponentMigration.Source.Binding
import ComponentMigration.Source.Visit
import ComponentMigration.Text.Basic
import ComponentMigration.Text.Glob

/-!
# Packages and their uses

What kind of package a name belongs to, and how imported names are used.
-/

namespace ComponentMigration

/-!
## Packages

A package has a class, by the pattern that its name fits, and a suggestion what to do about it.
-/

/-- The classes of packages with the name patterns of each, in the order in which they are tried. -/
def packageClasses : List (String × List String) :=
  [("framework", ["react", "react-*", "next", "vue", "@angular/*", "preact"]),
    ("ui-library", ["@mui/*", "@material-ui/*", "@ant-design/*", "antd", "@chakra-ui/*",
      "chakra-ui", "styled-components", "@emotion/*"]),
    ("utility", ["lodash", "lodash-es", "lodash.*", "ramda", "date-fns", "moment", "dayjs",
      "axios", "clsx", "classnames"]),
    ("testing", ["jest", "@testing-library/*", "enzyme", "enzyme-*", "cypress", "vitest"]),
    ("build-tool", ["webpack", "webpack-*", "vite", "rollup", "@babel/*", "babel-*", "esbuild"])]

/-- The class of a package. -/
def classifyPackage (name : String) : String :=
  match packageClasses.find? fun (_, patterns) => patterns.any (Text.globMatches name) with
  | some (classification, _) => classification
  | none => "unknown"

/-- Packages that are no longer kept up. -/
def deprecatedPackages : List String := ["moment", "enzyme", "request"]

/-- What to do about a package. -/
def suggestDisposition (name classification : String) : String :=
  if deprecatedPackages.contains name then "remove"
  else if classification == "framework" then "keep"
  else if classification == "build-tool" then "replace"
  else "evaluate"

/-- Whether packages of a class are needed only during development. -/
def isDevClass (classification : String) : Bool :=
  classification == "testing" || classification == "build-tool"

/-- Notes that a unit uses a package. -/
def registerExternal (registry : Assoc ExternalPackage) (name unitId : String) :
    Assoc ExternalPackage :=
  let entry := (registry.get? name).getD
    (let classification := classifyPackage name
     { name := name
       classification := classification
       disposition := suggestDisposition name classification
       isDev := isDevClass classification })
  let usedBy :=
    if entry.usedBy.contains unitId then entry.usedBy else Text.sorted (entry.usedBy ++ [unitId])
  registry.set name { entry with usageCount := entry.usageCount + 1, usedBy := usedBy }

/-!
## Uses of imported names

A declaration is searched for the places at which it uses imported names; the sorts of use tell how
the unit is related to what it imports.
-/

/-- The uses found so far: every place, and the sorts of use of every name. -/
structure UsageNotes where
  usages : List (String × UsageContext) := []
  kinds : List (String × String) := []

namespace UsageNotes

/-- Notes a sort of use of a name. -/
def addKind (s : UsageNotes) (name kind : String) : UsageNotes :=
  { s with kinds := s.kinds ++ [(name, kind)] }

/-- Notes a place at which a name is used. -/
def record (s : UsageNotes) (name : String) (n : Node) (usage : String) : UsageNotes :=
  { s with
    usages := s.usages ++ [(name, ⟨n.info.startLine, n.info.startColumn + 1, usage⟩)]
    kinds := s.kinds ++ [(name, usage)] }

/-- Notes a call of a name and the contexts that a call asks for. -/
def call (bindings : List String) (n : Node) (s : UsageNotes) : UsageNotes :=
  match n.child? "function" with
  | none => s
  | some fn =>
    let s :=
      if fn.kind == "identifier" && bindings.contains fn.text then
        let s := s.record fn.text n "call"
        if isWrapperName fn.text then s.addKind fn.text "higher-order" else s
      else s
    if n.calleeName == "useContext" then
      (((n.child? "arguments").map Node.namedChildren).getD []).foldl (fun s arg =>
        if arg.kind == "identifier" && bindings.contains arg.text then
          (s.record arg.text arg "call").addKind arg.text "context"
        else s) s
    else s

/-- Notes an access to a member of a name. -/
def member (bindings : List String) (n : Node) (s : UsageNotes) : UsageNotes :=
  match n.child? "object" with
  | some obj =>
    if obj.kind == "identifier" && bindings.contains obj.text then
      s.record obj.text n "member-access"
    else s
  | none => s

/-- The name at the root of an element's tag. -/
def elementName (element : Node) : String :=
  match declaredName element with
  | some name => (Text.splitOn name ".").headD ""
  | none => ""

/-- Notes attributes that hand over a way of rendering. -/
def renderAttributes (name : String) (element : Node) (s : UsageNotes) : UsageNotes :=
  element.namedChildren.foldl (fun s attr =>
    if attr.kind == "jsx_attribute" && (attr.first? "arrow_function").isSome then
      let attrName := (attr.namedChildren.head?.map Node.text).getD ""
      if Text.startsWith attrName "render" || attrName == "children" then
        s.addKind name "render-prop"
      else s
    else s) s

/-- Notes an element with children. -/
def element (bindings : List String) (n : Node) (s : UsageNotes) : UsageNotes :=
  match n.child? "open_tag" with
  | none => s
  | some opening =>
    let name := elementName opening
    if bindings.contains name then
      let s := s.record name opening "jsx-element"
      let s := n.namedChildren.foldl (fun s c =>
        if c.kind == "jsx_expression" && c.namedChildren.any Node.isFunction then
          s.addKind name "render-prop"
        else s) s
      renderAttributes name opening s
    else s

/-- Notes the name of a type. -/
def typeName (bindings : List String) (n : Node) (s : UsageNotes) : UsageNotes :=
  if bindings.contains n.text then s.record n.text n "type-reference" else s

/-- Notes an element without children. -/
def emptyElement (bindings : List String) (n : Node) (s : UsageNotes) : UsageNotes :=
  let name := elementName n
  if bindings.contains name then renderAttributes name n (s.record name n "jsx-element") else s

/-- Notes the names in an attribute. -/
def attributeNames (bindings : List String) (n : Node) (s : UsageNotes) : UsageNotes :=
  (n.findAll ["identifier"]).foldl (fun s ident =>
    if bindings.contains ident.text then s.record ident.text ident "prop-passing" else s) s

/-- The places at which a name is used. -/
def usagesOf (s : UsageNotes) (name : String) : List UsageContext :=
  (s.usages.filter (·.1 == name)).map (·.2)

/-- The sorts of use of a name. -/
def kindsOf (s : UsageNotes) (name : String) : List String :=
  (s.kinds.filter (·.1 == name)).map (·.2)

end UsageNotes

/-- Notes the uses of names in what it visits. -/
def usageVisitor (bindings : List String) : Visitor UsageNotes :=
  { handlers :=
      [("call_expression", .always fun _ n s => s.call bindings n),
        ("member_expression", .always fun _ n s => s.member bindings n),
        ("type_identifier", .always fun _ n s => s.typeName bindings n),
        ("jsx_element", .always fun _ n s => s.element bindings n),
        ("jsx_self_closing_element", .always fun _ n s => s.emptyElement bindings n),
        ("jsx_attribute", .always fun _ n s => s.attributeNames bindings n)] }

/-- The uses of names in a tree. -/
def usageNotes (bindings : List String) (n : Node) : UsageNotes := (usageVisitor bindings).visit n {}

/-- The relation that the sorts of use of imported names make. -/
def relationOf (bindings : List String) (kinds : String → List String) : Relation :=
  let used := bindings.flatMap kinds
  if bindings.any (Text.endsWith · "Context") || used.contains "context" then .context
  else if bindings.any isHookName then .hook
  else if used.contains "higher-order" then .higherOrder
  else if used.contains "render-prop" then .renderProp
  else if used.contains "jsx-element" then .children
  else if used.contains "prop-passing" then .props
  else .plain

end ComponentMigration
