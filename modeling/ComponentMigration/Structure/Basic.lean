import ComponentMigration.Assoc
import ComponentMigration.Component.Basic
import ComponentMigration.Number.Quantity
import ComponentMigration.Source.Binding
import ComponentMigration.Source.Visit

/-!
# The structure of a component

A component has hooks, methods, composition, imports and exports.
-/

namespace ComponentMigration

/-- How a component is composed with others. -/
structure Composition where
  forwardRef : Bool := false
  memo : Bool := false
  hocs : List String := []
  children : List String := []
  deriving DecidableEq, Repr

/-- The structure of a component; composition and imports are absent if nothing is known. -/
structure ComponentStructure where
  props : List String := []
  methods : List String := []
  hooks : Assoc (List String) := []
  lifecycle : List String := []
  composition : Option Composition := none
  exports : List String := []
  imports : Option ImportGroups := none
  deriving Repr

/-- Adds a hook under its sort. -/
def addHook (hooks : Assoc (List String)) (sort name : String) : Assoc (List String) :=
  hooks.set sort (Text.appendUnique ((hooks.get? sort).getD []) name)

/-- Whether a name is a hook's as a whole; a final line feed is let pass. -/
def isWholeHookName (s : String) : Bool :=
  isHookName s &&
    (let body := match s.toList.getLast? with
      | some '\n' => s.toList.dropLast
      | _ => s.toList
     body.all Text.isWordChar)

/-- What has been seen of a component so far. -/
structure StructureNotes where
  methods : List String := []
  hooks : Assoc (List String) := []
  lifecycle : List String := []
  composition : Composition := {}

namespace StructureNotes

/-- Notes a call. -/
def call (s : StructureNotes) (n : Node) : StructureNotes :=
  let name := n.calleeName
  match hookSort? name with
  | some sort => { s with hooks := addHook s.hooks sort name }
  | none =>
    let c := s.composition
    if isWholeHookName name then { s with hooks := addHook s.hooks "custom" name }
    else if name == "forwardRef" then { s with composition := { c with forwardRef := true } }
    else if name == "memo" then { s with composition := { c with memo := true } }
    else if isWrapperName name then
      { s with composition := { c with hocs := Text.appendUnique c.hocs name } }
    else s

/-- Notes a method of a class or object. -/
def method (s : StructureNotes) (n : Node) : StructureNotes :=
  match declaredName n with
  | none => s
  | some name =>
    if lifecycleMethods.contains name then
      { s with lifecycle := Text.appendUnique s.lifecycle name }
    else if name == "constructor" || name == "render" then s
    else { s with methods := Text.appendUnique s.methods name }

/-- Notes a function declaration inside a block. -/
def function (s : StructureNotes) (depth : Nat) (n : Node) : StructureNotes :=
  match declaredName n with
  | some name => if depth > 0 then { s with methods := Text.appendUnique s.methods name } else s
  | none => s

/-- Notes a variable whose value is a function. -/
def declarator (s : StructureNotes) (n : Node) : StructureNotes :=
  match n.child? "value", declaredName n with
  | some value, some name =>
    if ["arrow_function", "function_expression", "function"].contains value.kind then
      { s with methods := Text.appendUnique s.methods name }
    else s
  | _, _ => s

/-- Notes the element that a tag opens. -/
def element (s : StructureNotes) (n : Node) : StructureNotes :=
  match declaredName n with
  | some name =>
    if Text.startsWithCapital name then
      let c := s.composition
      { s with composition := { c with children := Text.appendUnique c.children name } }
    else s
  | none => s

end StructureNotes

/-- Notes what it visits of a component; blocks raise the depth. -/
def structureVisitor : Visitor StructureNotes :=
  { handlers :=
      [("call_expression", .always fun _ n s => s.call n),
        ("method_definition", .always fun _ n s => s.method n),
        ("function_declaration", .always fun depth n s => s.function depth n),
        ("variable_declarator", .always fun _ n s => s.declarator n),
        ("jsx_opening_element", .always fun _ n s => s.element n),
        ("jsx_self_closing_element", .always fun _ n s => s.element n)]
    nestingKinds := ["statement_block"] }

/-- What a tree shows about a component. -/
def structureNotes (n : Node) : StructureNotes := structureVisitor.visit n {}

/-- The names that a component takes out of its first parameter. -/
def destructuredProps (n : Node) : List String :=
  if n.kind == "program" then []
  else
    match n.functionOf.bind fun fn => (fn.child? "parameters").or (fn.child? "parameter") with
    | none => []
    | some params =>
      let first := if params.kind == "identifier" then some params else params.namedChildren.head?
      let pattern := first.bind fun p =>
        if p.kind == "required_parameter" || p.kind == "optional_parameter" then
          p.child? "pattern"
        else some p
      match pattern with
      | some p => if p.kind == "object_pattern" then objectPatternNames p else []
      | none => []

/-- The outcome of parsing one unit. -/
structure ParseOutcome where
  unitId : String
  success : Bool
  complexity : Quantity := 1
  cognitive : Int := 0
  documentation : Option String := none
  componentStructure : ComponentStructure := {}
  errors : List String := []
  requiresManualReview : Bool := false
  deriving Repr

/-- The measures and the structure of a unit in a parsed document; a unit that is not found is taken
to be the whole document. -/
def analyzeDocument (component : Component) (d : Document) : ParseOutcome :=
  let found := findDeclaration d.root component.name
  let target := (found.map Site.node).getD d.root
  let measure := target.complexity
  let notes := structureNotes target
  { unitId := component.id
    success := true
    complexity := .whole measure.cyclomatic
    cognitive := measure.cognitive
    documentation := found.bind fun site => site.statement.documentation?
    componentStructure :=
      { props := (destructuredProps target).foldl Text.appendUnique
          (component.props.map PropSpec.name)
        methods := notes.methods.filter (· != component.name)
        hooks := notes.hooks
        lifecycle := notes.lifecycle
        composition := some notes.composition
        exports := exportedNames d.root
        imports := some (importGroups d.root) } }

end ComponentMigration
