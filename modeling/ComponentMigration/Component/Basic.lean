import ComponentMigration.Text.Basic

/-!
# Component units

A unit is a named declaration of a source file with what the migration needs to know about it:
props, imports, inner functions, recognised usage patterns and some measures.  Kinds and grades have
the labels that reports show; a label outside the known ones is kept as it is.
-/

namespace ComponentMigration

/-- The shape of a component declaration. -/
inductive ComponentKind where
  | functional
  | classBased
  | hook
  | higherOrder
  | other (label : String)
  deriving DecidableEq, Repr

/-- The label of a kind. -/
def ComponentKind.label : ComponentKind → String
  | .functional => "functional"
  | .classBased => "class"
  | .hook => "hook"
  | .higherOrder => "higher-order"
  | .other label => label

/-- The kind with a label. -/
def ComponentKind.ofLabel : String → ComponentKind
  | "functional" => .functional
  | "class" => .classBased
  | "hook" => .hook
  | "higher-order" => .higherOrder
  | label => .other label

/-- The grades of complexity. -/
inductive Complexity where
  | simple
  | moderate
  | complex
  | critical
  | other (label : String)
  deriving DecidableEq, Repr

/-- The label of a grade. -/
def Complexity.label : Complexity → String
  | .simple => "simple"
  | .moderate => "moderate"
  | .complex => "complex"
  | .critical => "critical"
  | .other label => label

/-- The grade with a label. -/
def Complexity.ofLabel : String → Complexity
  | "simple" => .simple
  | "moderate" => .moderate
  | "complex" => .complex
  | "critical" => .critical
  | label => .other label

/-- The place of a known grade in the order of grades, counted from one. -/
def Complexity.rank? : Complexity → Option Nat
  | .simple => some 1
  | .moderate => some 2
  | .complex => some 3
  | .critical => some 4
  | .other _ => none

/-- The grade of a unit's complexity score. -/
def Complexity.ofScore (score : Int) : Complexity :=
  if score ≤ 10 then .simple else if score ≤ 25 then .moderate
  else if score ≤ 50 then .complex else .critical

/-- The grade of an inner function by its cyclomatic complexity. -/
def Complexity.ofCyclomatic (cyclomatic : Int) : Complexity :=
  if cyclomatic ≤ 3 then .simple else if cyclomatic ≤ 6 then .moderate
  else if cyclomatic ≤ 10 then .complex else .critical

/-- Where an import comes from: the project's own files or a package. -/
inductive Origin where
  | internal
  | external
  | other (label : String)
  deriving DecidableEq, Repr

/-- The label of an origin. -/
def Origin.label : Origin → String
  | .internal => "internal"
  | .external => "external"
  | .other label => label

/-- The origin with a label. -/
def Origin.ofLabel : String → Origin
  | "internal" => .internal
  | "external" => .external
  | label => .other label

/-- A prop of a component. -/
structure PropSpec where
  name : String
  type : String := "string"
  required : Bool := true
  description : String := ""
  deriving DecidableEq, Repr

/-- An import of the file that declares a component. -/
structure Dependency where
  name : String
  origin : Origin := .external
  importPath : String
  critical : Bool := false
  bindings : List String := []
  deriving DecidableEq, Repr

/-- A named function inside a component. -/
structure LogicSpec where
  name : String
  complexity : Complexity := .simple
  line : Int := 0
  deriving DecidableEq, Repr

/-- Measures of a component and its documentation. -/
structure Metadata where
  hasDocumentation : Bool := false
  testCoverage : Float := 0.0
  bundleSize : Int := 0
  lineCount : Int := 0
  documentation : String := ""
  deriving Repr

/-- A component unit. -/
structure Component where
  id : String
  name : String
  filePath : String
  absolutePath : String
  kind : ComponentKind := .functional
  complexity : Complexity := .simple
  props : List PropSpec := []
  dependencies : List Dependency := []
  businessLogic : List LogicSpec := []
  patterns : List String := []
  metadata : Metadata := {}
  startLine : Int := 1
  endLine : Int := 1
  complexityScore : Int := 0
  deriving Repr

/-- The usage patterns that are told apart, in the order of reports. -/
def patternOrder : List String :=
  ["useState", "useEffect", "useContext", "useReducer", "useMemo", "useCallback", "custom-hook",
    "render-props", "children-as-function", "forwardRef", "memo"]

/-- The known patterns of a collection, each once and in the order of reports. -/
def orderedPatterns (found : List String) : List String := patternOrder.filter found.contains

/-- The methods of class components that the framework calls at fixed times. -/
def lifecycleMethods : List String :=
  ["componentDidMount", "componentDidUpdate", "componentWillUnmount", "shouldComponentUpdate",
    "getSnapshotBeforeUpdate", "componentDidCatch", "getDerivedStateFromProps",
    "getDerivedStateFromError", "UNSAFE_componentWillMount", "UNSAFE_componentWillReceiveProps",
    "UNSAFE_componentWillUpdate"]

/-- The framework's own hooks and the sort of each. -/
def hookSorts : List (String × String) :=
  [("useState", "state"), ("useReducer", "state"), ("useEffect", "effect"),
    ("useLayoutEffect", "effect"), ("useContext", "context"), ("useRef", "ref"),
    ("useMemo", "memo"), ("useCallback", "callback")]

/-- The sort of one of the framework's own hooks. -/
def hookSort? (name : String) : Option String := hookSorts.lookup name

end ComponentMigration
