import ComponentMigration.Module.Draft
import ComponentMigration.Text.Pattern

/-!
# Class components

The members of a class are read in order: state from its field or from the constructor, methods and
function fields as local functions, lifecycle methods as effects.  What has no counterpart is told
in a warning.  The statements of the render method become the body of the component.
-/

namespace ComponentMigration

/-- A field of the state: its name, its first value, and the indentation it had. -/
structure StateField where
  key : String
  value : String
  anchor : Nat
  deriving DecidableEq, Repr

/-- The name of the setter of a state field. -/
def StateField.setter (f : StateField) : String := "set" ++ Text.capitalize f.key

/-- The state field that an entry of an object literal gives. -/
def stateField? (lines : List String) (entry : Node) : Option StateField :=
  if entry.kind == "pair" then
    let key := stringValue (entry.child? "key")
    if isIdentifier key then
      (entry.child? "value").map fun value => ⟨key, value.text, lineIndent lines entry⟩
    else none
  else if entry.kind == "shorthand_property_identifier" then
    some ⟨entry.text, entry.text, lineIndent lines entry⟩
  else none

/-- A draft together with what has been read of a class. -/
structure ClassReading where
  draft : Draft
  state : List StateField := []
  pieces : List (String × String) := []
  effects : List String := []
  render : Option Node := none

namespace ClassReading

/-- Notes a warning, which asks for a review. -/
def warn (r : ClassReading) (message : String) : ClassReading :=
  { r with draft := r.draft.warn message }

/-- A piece of source for the hook: members of the instance become local names. -/
def piece (r : ClassReading) (anchor : Nat) (name text : String) : ClassReading :=
  { r with pieces := r.pieces ++ [(name, reindent (withLocalNames text) anchor indentUnit)] }

/-- Reads an entry of the state's object literal. -/
def stateEntry (r : ClassReading) (entry : Node) : ClassReading :=
  match stateField? r.draft.lines entry with
  | some f => { r with state := r.state ++ [f] }
  | none =>
    if entry.kind == "comment" then r
    else r.warn ("State entry '" ++ entry.text ++ "' of " ++ r.draft.name ++
      " could not be mapped onto useState")

/-- Reads the state's object literal. -/
def stateObject (r : ClassReading) (object : Node) : ClassReading :=
  object.namedChildren.foldl stateEntry r

end ClassReading

open Text.Pattern in
/-- A statement that binds a method to its instance. -/
def boundMethod : Text.Pattern :=
  let word := some1 (.one Text.isWordChar)
  cat [lit "this.", word, blanks, lit "=", blanks, lit "this.", word, lit ".bind(this)",
    optional (lit ";")]

/-- Whether a statement only binds a method to its instance. -/
def isMethodBinding (text : String) : Bool :=
  let cs := (Text.strip text).toList
  (boundMethod.run { rest := cs } fun at_ => if at_.rest.isEmpty then some at_ else none).isSome

/-- Whether an expression calls the constructor of the parent class. -/
def isSuperCall (e : Node) : Bool :=
  e.kind == "call_expression" && (e.child? "function").any (·.kind == "super")

/-- The object that an expression assigns to the state. -/
def assignedState? (e : Node) : Option Node :=
  if e.kind == "assignment_expression" && (e.child? "left").any (·.text == "this.state") then
    (e.child? "right").filter (·.kind == "object")
  else none

namespace ClassReading

/-- Reads one statement of the constructor. -/
def constructorStatement (r : ClassReading) (stmt : Node) : ClassReading :=
  let expression :=
    if stmt.kind == "expression_statement" then stmt.namedChildren.head? else none
  if expression.any isSuperCall then r
  else
    match expression.bind assignedState? with
    | some object => r.stateObject object
    | none =>
      if isMethodBinding stmt.text || stmt.kind == "comment" then r
      else r.warn ("Constructor statement of " ++ r.draft.name ++ " was dropped: " ++
        Text.firstLine (Text.strip stmt.text))

/-- Adds an effect. -/
def effect (r : ClassReading) (anchor : Nat) (text : String) : ClassReading :=
  { r with
    draft := { r.draft with neededHooks := Text.appendUnique r.draft.neededHooks "useEffect" }
    effects := r.effects ++ [reindent (withLocalNames text) anchor indentUnit] }

/-- Reads a lifecycle method. -/
def lifecycle (r : ClassReading) (name : String) (member : Node) (anchor : Nat) : ClassReading :=
  match member.child? "body" with
  | none => r
  | some body =>
    if name == "componentDidMount" then
      r.effect anchor ("useEffect(() => " ++ body.text ++ ", []);")
    else if name == "componentWillUnmount" then
      r.effect anchor ("useEffect(() => () => " ++ body.text ++ ", []);")
    else if name == "componentDidUpdate" then
      let r :=
        if (member.child? "parameters").any fun params => !params.namedChildren.isEmpty then
          r.warn ("componentDidUpdate of " ++ r.draft.name ++
            " compared previous props or state; add effect dependencies")
        else r
      r.effect anchor ("useEffect(() => " ++ body.text ++ ");")
    else r.warn ("Lifecycle method " ++ name ++ " of " ++ r.draft.name ++
      " has no direct hook equivalent")

/-- The function that an ordinary method becomes. -/
def methodText (name : String) (member body : Node) : String :=
  "const " ++ name ++ " = " ++ (if member.hasToken "async" then "async " else "") ++
    ((member.child? "parameters").map Node.text).getD "()" ++
    ((member.child? "return_type").map Node.text).getD "" ++ " => " ++ body.text ++ ";"

/-- Reads a method.  An ordinary method needs a body. -/
def method (r : ClassReading) (name : String) (member : Node) (anchor : Nat) :
    Except Failure ClassReading :=
  if name == "render" then .ok { r with render := some member }
  else if name == "constructor" then
    .ok ((((member.child? "body").map Node.namedChildren).getD []).foldl constructorStatement r)
  else if member.hasToken "static" || member.hasToken "get" || member.hasToken "set" ||
      Text.startsWith name "#" then
    .ok (r.warn ("Member " ++ name ++ " of " ++ r.draft.name ++ " requires manual migration"))
  else if lifecycleMethods.contains name then .ok (r.lifecycle name member anchor)
  else
    match member.child? "body" with
    | some body => .ok (r.piece anchor name (methodText name member body))
    | none => .error (.trouble (.lacks .null "text"))

/-- Reads a field. -/
def fieldMember (r : ClassReading) (name : String) (member : Node) (anchor : Nat) :
    ClassReading :=
  let value := member.child? "value"
  if member.hasToken "static" || Text.startsWith name "#" || !isIdentifier name then
    r.warn ("Field " ++ name ++ " of " ++ r.draft.name ++ " was dropped")
  else
    match value.filter fun v => name == "state" && v.kind == "object" with
    | some object => r.stateObject object
    | none =>
      match value.filter Node.isFunction with
      | some fn => r.piece anchor name ("const " ++ name ++ " = " ++ fn.text ++ ";")
      | none =>
        let r := r.piece anchor name
          ("let " ++ name ++ " = " ++ (value.map Node.text).getD "undefined" ++ ";")
        r.warn ("Instance field " ++ name ++
          " became a local variable and no longer persists across renders")

/-- Reads one member. -/
def member (r : ClassReading) (m : Node) : Except Failure ClassReading :=
  let name := (((m.child? "name").or (m.child? "property")).map Node.text).getD ""
  let anchor := lineIndent r.draft.lines m
  if m.kind == "method_definition" then r.method name m anchor
  else if m.kind == "public_field_definition" || m.kind == "field_definition" then
    .ok (r.fieldMember name m anchor)
  else .ok r

end ClassReading

/-- The members of a class. -/
def classMembers (n : Node) : List Node :=
  (((n.child? "body").map Node.namedChildren).getD []).filter (·.kind != "comment")

/-- Whether a member is the constructor, or a method without a name. -/
def isConstructor (m : Node) : Bool :=
  m.kind == "method_definition" && !((m.child? "name").any (·.text != "constructor"))

/-- The function that sets several state fields at once. -/
def setStateHelper (state : List StateField) : String :=
  let shape := String.intercalate "; " (state.map fun f => f.key ++ ": unknown")
  String.intercalate "\n" <|
    [indentUnit ++ "const setState = (patch: Partial<\x7b " ++ shape ++ " \x7d>) => \x7b"] ++
    (state.map fun f =>
      indentUnit ++ indentUnit ++ "if (patch." ++ f.key ++ " !== undefined) " ++ f.setter ++
        "(patch." ++ f.key ++ " as typeof " ++ f.key ++ ");") ++
    [indentUnit ++ "\x7d;"]

/-- The declarations of the state fields. -/
def stateLines (state : List StateField) : List String :=
  state.map fun f =>
    let declaration :=
      "const [" ++ f.key ++ ", " ++ f.setter ++ "] = useState(" ++ f.value ++ ");"
    reindent (withLocalNames declaration) f.anchor indentUnit

/-- Whether some member reads the state as a whole; the constructor's own assignment is none. -/
def readsWholeState (members : List Node) : Bool :=
  readsBareState
    (String.intercalate "\n" ((members.filter fun m => !isConstructor m).map Node.text))

/-- Whether some member sets state by the framework's own function. -/
def callsSetState (members : List Node) : Bool :=
  Text.contains (String.intercalate "\n" (members.map Node.text)) "this.setState"

namespace ClassReading

/-- The state as lines of the hook and names that it returns. -/
def liftState (r : ClassReading) (members : List Node) :
    List String × List String × Draft :=
  if r.state.isEmpty then ([], [], r.draft)
  else
    let whole := readsWholeState members
    let setter := callsSetState members
    let lines := stateLines r.state ++
      (if whole then
        [indentUnit ++ "const state = " ++ braced (r.state.map StateField.key) ++ ";"]
      else []) ++
      (if setter then [setStateHelper r.state] else [])
    let names := (r.state.flatMap fun f => [f.key, f.setter]) ++
      (if whole then ["state"] else []) ++ (if setter then ["setState"] else [])
    let draft :=
      { r.draft with neededHooks := Text.appendUnique r.draft.neededHooks "useState" }
    let draft :=
      if setter then
        draft.warn "setState calls were mapped onto per-field setters; review updater functions"
          false
      else draft
    (lines, names, draft)

end ClassReading

/-- The hook and the component of a class component.  A class needs a render method with a body. -/
def Draft.convertClass (d : Draft) (extract : Bool) (n : Node) (context : FaultContext) :
    Except Failure Draft := do
  let members := classMembers n
  let r ← members.foldlM ClassReading.member { draft := d }
  match r.render.bind (·.child? "body") with
  | none =>
    .error (.fault (Fault.of .transformation
      ("Class component " ++ d.name ++ " has no render method") context))
  | some body =>
    let (stateLines, stateNames, draft) := r.liftState members
    let logicNames := d.component.businessLogic.map LogicSpec.name
    let draft :=
      { draft with
        lifted := draft.lifted ++
          r.pieces.filter fun (p : String × String) => logicNames.contains p.1 }
    let lifted := stateLines ++ r.pieces.map Prod.snd ++ r.effects
    let render := body.namedChildren.map fun stmt =>
      reindent (withLocalNames stmt.text) (lineIndent d.lines stmt) indentUnit
    let base : Pieces := { signature := "props: " ++ d.name ++ "Props", arguments := "props" }
    .ok (draft.emit n
      (if extract then
        { base with lifted := lifted, names := stateNames ++ r.pieces.map Prod.fst,
                    render := render }
      else { base with render := lifted ++ render }))

end ComponentMigration
