import ComponentMigration.Text.Basic

/-!
# Concrete trees of source texts

A node has a kind, a place and the text it covers, and plays a role (`field`) in its parent; named
nodes stand for constructs, the others for tokens.  Among children with one role the first counts.
`walk` lists a tree in pre-order.
-/

namespace ComponentMigration

/-- What a node is, apart from its children.  Lines count from one, columns from zero. -/
structure NodeInfo where
  kind : String
  named : Bool := true
  field : String := ""
  missing : Bool := false
  startLine : Nat := 1
  startColumn : Nat := 0
  endLine : Nat := 1
  text : String := ""
  deriving DecidableEq, Repr, Inhabited

/-- A node of a concrete tree. -/
inductive Node where
  | mk (info : NodeInfo) (children : List Node)
  deriving Inhabited

namespace Node

/-- What the node is, apart from its children. -/
def info : Node → NodeInfo
  | .mk info _ => info

/-- The children, in order. -/
def children : Node → List Node
  | .mk _ children => children

/-- The kind of construct or token. -/
def kind (n : Node) : String := n.info.kind

/-- The covered text. -/
def text (n : Node) : String := n.info.text

/-- The children that stand for constructs. -/
def namedChildren (n : Node) : List Node := n.children.filter (·.info.named)

/-- The first child that plays a role. -/
def child? (n : Node) (field : String) : Option Node := n.children.find? (·.info.field == field)

/-- Whether a token is among the children. -/
def hasToken (n : Node) (token : String) : Bool :=
  n.children.any fun c => !c.info.named && c.kind == token

mutual

/-- The node and everything below it, in pre-order. -/
def walk : Node → List Node
  | .mk info children => .mk info children :: walkAll children

/-- The trees of a list, one after the other, in pre-order. -/
def walkAll : List Node → List Node
  | [] => []
  | c :: rest => c.walk ++ walkAll rest

end

/-- The nodes of given kinds, in pre-order. -/
def findAll (n : Node) (kinds : List String) : List Node :=
  n.walk.filter fun m => kinds.contains m.kind

/-- The first node of a kind, in pre-order. -/
def first? (n : Node) (kind : String) : Option Node := n.walk.find? (·.kind == kind)

/-- Whether the node marks a place that could not be read. -/
def isBroken (n : Node) : Bool := n.info.missing || n.kind == "ERROR"

theorem sizeOf_lt_of_mem_children {n c : Node} (h : c ∈ n.children) : sizeOf c < sizeOf n := by
  cases n with
  | mk info children =>
    have hc : sizeOf c < sizeOf children := List.sizeOf_lt_of_mem h
    simp only [Node.mk.sizeOf_spec]
    omega

theorem sizeOf_lt_of_child? {n c : Node} {field : String} (h : n.child? field = some c) :
    sizeOf c < sizeOf n :=
  sizeOf_lt_of_mem_children (List.mem_of_find?_eq_some h)

theorem sizeOf_lt_of_mem_namedChildren {n c : Node} (h : c ∈ n.namedChildren) :
    sizeOf c < sizeOf n :=
  sizeOf_lt_of_mem_children (List.mem_filter.1 h).1

/-- The first construct among the arguments of a call. -/
def firstArgument? (call : Node) : Option Node :=
  (call.child? "arguments").bind (·.namedChildren.head?)

theorem sizeOf_lt_of_firstArgument? {n c : Node} (h : n.firstArgument? = some c) :
    sizeOf c < sizeOf n := by
  obtain ⟨args, hargs, hc⟩ := Option.bind_eq_some_iff.1 h
  exact Nat.lt_trans (sizeOf_lt_of_mem_namedChildren (List.mem_of_head? hc))
    (sizeOf_lt_of_child? hargs)

end Node

/-- The kinds of nodes that are functions. -/
def functionKinds : List String :=
  ["function_declaration", "generator_function_declaration", "function_expression", "function",
    "arrow_function", "method_definition"]

/-- Whether a node is a function. -/
def Node.isFunction (n : Node) : Bool := functionKinds.contains n.kind

/-- Whether a node declares variables. -/
def Node.isVariableDeclaration (n : Node) : Bool :=
  n.kind == "lexical_declaration" || n.kind == "variable_declaration"

/-- What a nest of calls finally wraps: the first argument of the innermost call. -/
def Node.unwrapCalls (n : Node) : Option Node :=
  if n.kind == "call_expression" then
    match _h : n.firstArgument? with
    | some a => a.unwrapCalls
    | none => none
  else some n
termination_by sizeOf n
decreasing_by exact Node.sizeOf_lt_of_firstArgument? _h

/-- The function behind a declaration, also through wrapping calls. -/
def Node.functionOf (n : Node) : Option Node :=
  if n.isFunction then some n
  else if n.kind == "variable_declarator" then
    ((n.child? "value").bind Node.unwrapCalls).filter Node.isFunction
  else none

/-- The name that a call calls: the last part of a member access, else the whole callee. -/
def Node.calleeName (call : Node) : String :=
  match call.child? "function" with
  | none => ""
  | some fn =>
    if fn.kind == "member_expression" then ((fn.child? "property").map Node.text).getD ""
    else fn.text

/-- The text between quotes of one kind; any other text stays as it is. -/
def unquote (s : String) : String :=
  match s.toList with
  | q :: rest =>
    if (q == '\'' || q == '"' || q == '`') && !rest.isEmpty && rest.getLast? == some q then
      String.ofList rest.dropLast
    else s
  | [] => s

/-- The value of a literal text node. -/
def stringValue (n : Option Node) : String := (n.map fun m => unquote m.text).getD ""

/-- The text of a documentation comment: its lines without the frame, the stars and empty lines. -/
def cleanComment (s : String) : String :=
  let inner := Text.dropEnd (Text.dropStart (Text.strip s) "/**") "*/"
  String.intercalate "\n" <|
    ((Text.lines inner).map fun line =>
      Text.strip (Text.stripStartOf (· == '*') (Text.strip line))).filter (!·.isEmpty)

end ComponentMigration
