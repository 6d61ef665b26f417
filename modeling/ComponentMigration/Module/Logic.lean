import ComponentMigration.Source.Binding
import ComponentMigration.Source.Document

/-!
# Logic, handlers and wrappers

The statements of a component are logic or not; it has handlers, and calls may wrap it.
-/

namespace ComponentMigration

/-- Whether a value is a call of a hook. -/
def isHookCall (n : Node) : Bool := n.kind == "call_expression" && isHookName n.calleeName

/-- Whether a body statement is logic by itself: a function, a hook's result or a hook's call. -/
def isLogicStatement (stmt : Node) : Bool :=
  if stmt.kind == "function_declaration" || stmt.kind == "generator_function_declaration" then true
  else if stmt.isVariableDeclaration then
    stmt.namedChildren.any fun declarator =>
      (declarator.child? "value").any fun value => value.isFunction || isHookCall value
  else if stmt.kind == "expression_statement" then stmt.namedChildren.head?.any isHookCall
  else false

/-- Whether a tree has an element in it. -/
def hasElement (n : Node) : Bool :=
  (n.first? "jsx_element").isSome || (n.first? "jsx_self_closing_element").isSome

/-- Whether a statement may follow others into the logic: it declares variables without elements. -/
def isPlainDeclaration (stmt : Node) : Bool := stmt.isVariableDeclaration && !hasElement stmt

/-- Marks plain declarations of names that marked statements refer to. -/
def markNeeded (marked : List (Node × Bool)) : List (Node × Bool) :=
  let needed := (marked.filter (·.2)).flatMap fun (stmt, _) => references stmt
  marked.map fun (stmt, isLogic) =>
    (stmt, isLogic || (isPlainDeclaration stmt && (declaredNames stmt).any needed.contains))

/-- Marks until nothing changes; `fuel` bounds the rounds. -/
def markAll : Nat → List (Node × Bool) → List (Node × Bool)
  | 0, marked => marked
  | fuel + 1, marked =>
    let next := markNeeded marked
    if (next.filter (·.2)).length == (marked.filter (·.2)).length then marked
    else markAll fuel next

/-- The statements of a body with a mark on those that belong to the logic: functions, hook calls,
and the plain values that they use. -/
def logicStatements (statements : List Node) : List (Node × Bool) :=
  markAll (statements.length + 1) (statements.map fun s => (s, isLogicStatement s))

/-- The handler that one node names. -/
def handlerOf? (n : Node) : Option String :=
  if ["function_declaration", "method_definition", "variable_declarator",
      "public_field_definition"].contains n.kind then
    ((n.child? "name").filter fun name =>
      (name.kind == "identifier" || name.kind == "property_identifier") &&
        isHandlerName name.text).map Node.text
  else if n.kind == "jsx_attribute" then
    match n.namedChildren with
    | name :: value :: rest =>
      let expr := (value :: rest).getLastD value
      if isHandlerName name.text && expr.kind == "jsx_expression" then
        expr.namedChildren.head?.bind fun inner =>
          if inner.kind == "identifier" || inner.kind == "member_expression" then
            some (Text.dropStart inner.text "this.")
          else if inner.isFunction then some (name.text ++ " (inline)")
          else none
      else none
    | _ => none
  else none

/-- The event handlers of a tree, each once. -/
def eventHandlers (n : Node) : List String := Text.unique (n.walk.filterMap handlerOf?)

/-- The parameters of a function. -/
def parametersOf (fn : Node) : List Node :=
  match fn.child? "parameters" with
  | some params => params.namedChildren.filter (·.kind != "comment")
  | none => (fn.child? "parameter").toList

/-- The pattern of a parameter, without its default value. -/
def parameterPattern (param : Node) : Option Node :=
  let pattern :=
    if param.kind == "required_parameter" || param.kind == "optional_parameter" then
      param.child? "pattern"
    else some param
  pattern.bind fun p => if p.kind == "assignment_pattern" then p.child? "left" else some p

/-- The arguments of a call. -/
def callArguments (call : Node) : List Node :=
  match call.child? "arguments" with
  | some args => args.namedChildren.filter (·.kind != "comment")
  | none => []

theorem sizeOf_lt_of_head_callArguments {call a : Node} {rest : List Node}
    (h : callArguments call = a :: rest) : sizeOf a < sizeOf call := by
  unfold callArguments at h
  split at h
  · rename_i args hargs
    have hmem : a ∈ args.namedChildren :=
      (List.mem_filter.1 (h ▸ List.mem_cons_self : a ∈ _)).1
    exact Nat.lt_trans (Node.sizeOf_lt_of_mem_namedChildren hmem) (Node.sizeOf_lt_of_child? hargs)
  · exact absurd h (by simp)

/-- A wrapping call: what is called, with its type arguments, and the arguments after the first. -/
structure WrapperCall where
  callee : String
  extra : List String
  deriving DecidableEq, Repr

/-- The nest of calls around a value, from the outside in. -/
def wrapperCallsOf (value : Node) : List WrapperCall :=
  if value.kind == "call_expression" then
    let callee := ((value.child? "function").map Node.text).getD "" ++
      ((value.child? "type_arguments").map Node.text).getD ""
    match _h : callArguments value with
    | a :: rest => ⟨callee, rest.map Node.text⟩ :: wrapperCallsOf a
    | [] => [⟨callee, []⟩]
  else []
termination_by sizeOf value
decreasing_by exact sizeOf_lt_of_head_callArguments _h

/-- The wrapping calls of a variable declarator's value. -/
def wrapperCalls (n : Node) : List WrapperCall :=
  if n.kind == "variable_declarator" then ((n.child? "value").map wrapperCallsOf).getD [] else []

end ComponentMigration
