import ComponentMigration.Assoc
import ComponentMigration.Number.Quantity

/-!
# Values and their fields

The values of the data notation, and what stands in the fields of tables.
-/

namespace ComponentMigration

/-!
## Values of the data notation

Values of the data notation: nothing, truth values, integers, floating-point numbers, texts, lists
and tables.  Integers and floating-point numbers are different values, and tables keep the order of
their keys.
-/

/-- A value of the data notation. -/
inductive Json where
  | null
  | bool (b : Bool)
  | int (n : Int)
  | float (x : Float)
  | str (s : String)
  | arr (items : List Json)
  | obj (fields : List (String × Json))
  deriving Inhabited

namespace Json

/-- The quantity of a numeric value. -/
def quantity? (v : Json) : Option Quantity :=
  match v with
  | .int n => some (.whole n)
  | .float x => some (.real x)
  | .bool b => some (.truth b)
  | _ => none

/-- A quantity as a value. -/
def ofQuantity : Quantity → Json
  | .whole n => .int n
  | .real x => .float x
  | .truth b => .bool b

mutual

/-- Equality of values: numbers are equal if they have one size, truth values counting as one and
zero, and tables if they have equal values under the same keys. -/
def beq : Json → Json → Bool
  | .null, .null => true
  | .str a, .str b => a == b
  | .arr a, .arr b => beqList a b
  | .obj a, .obj b => a.length == b.length && beqFields a b
  | .bool a, b => b.quantity?.any (Quantity.isSame (.truth a))
  | .int a, b => b.quantity?.any (Quantity.isSame (.whole a))
  | .float a, b => b.quantity?.any (Quantity.isSame (.real a))
  | _, _ => false

/-- Equality of lists of values. -/
def beqList : List Json → List Json → Bool
  | [], [] => true
  | a :: as, b :: bs => beq a b && beqList as bs
  | _, _ => false

/-- Whether a table has equal values under the keys of another one. -/
def beqFields : List (String × Json) → List (String × Json) → Bool
  | [], _ => true
  | (k, a) :: as, bs =>
    (match Assoc.get? bs k with
      | some b => beq a b
      | none => false) && beqFields as bs

end

instance : BEq Json := ⟨beq⟩

/-- A field of a table. -/
def get? (v : Json) (key : String) : Option Json :=
  match v with
  | .obj fields => Assoc.get? fields key
  | _ => none

/-- The fields of a table; none for any other value. -/
def fields (v : Json) : Assoc Json :=
  match v with
  | .obj fields => fields
  | _ => []

/-- The items of a list; none for any other value. -/
def items (v : Json) : List Json :=
  match v with
  | .arr items => items
  | _ => []

/-- The text of a text value. -/
def text? (v : Json) : Option String :=
  match v with
  | .str s => some s
  | _ => none

/-- The integer of an integer value. -/
def int? (v : Json) : Option Int :=
  match v with
  | .int n => some n
  | _ => none

/-- A truth value as such. -/
def bool? (v : Json) : Option Bool :=
  match v with
  | .bool b => some b
  | _ => none

/-- The number of a numeric value; truth values count as one and zero. -/
def number? (v : Json) : Option Float := v.quantity?.map Quantity.nearest

/-- An optional value, absent as nothing. -/
def ofOption (f : α → Json) : Option α → Json
  | some a => f a
  | none => .null

/-- A list of texts. -/
def texts (xs : List String) : Json := .arr (xs.map .str)

/-- A natural number. -/
def nat (n : Nat) : Json := .int n

/-- Counts by key. -/
def counts (t : Assoc Nat) : Json := .obj (t.map fun (k, n) => (k, nat n))

/-- Whether a value counts as present: neither nothing, false, zero nor empty. -/
def truthy : Json → Bool
  | .null => false
  | .bool b => b
  | .int n => n != 0
  | .float x => x != 0.0
  | .str s => !s.isEmpty
  | .arr items => !items.isEmpty
  | .obj fields => !fields.isEmpty

end Json

end ComponentMigration

namespace ComponentMigration.Json

/-!
## Fields of tables

A field that is absent, or that holds a value of another sort, counts as a default.
-/

/-- The value of a field; nothing if it is absent. -/
def field (v : Json) (key : String) : Json := (v.get? key).getD .null

/-- The text of a field. -/
def textAt? (v : Json) (key : String) : Option String := (v.get? key).bind text?

/-- The text of a field, or a default. -/
def textAt (v : Json) (key default : String) : String := (v.textAt? key).getD default

/-- The integer of a field, or a default. -/
def intAt (v : Json) (key : String) (default : Int := 0) : Int :=
  match v.get? key with
  | some (.int n) => n
  | some (.bool b) => if b then 1 else 0
  | some (.float x) => Number.truncInt x
  | _ => default

/-- The natural number of a field; zero if it is absent or negative. -/
def natAt (v : Json) (key : String) : Nat := (v.intAt key).toNat

/-- Whether a field counts as present, or a default if it is absent. -/
def boolAt (v : Json) (key : String) (default : Bool := false) : Bool :=
  ((v.get? key).map truthy).getD default

/-- The number of a field, or a default. -/
def floatAt (v : Json) (key : String) (default : Float := 0.0) : Float :=
  ((v.get? key).bind number?).getD default

/-- The texts among the items of a list. -/
def textItems (v : Json) : List String := v.items.filterMap text?

/-- The texts of a field that holds a list. -/
def textsAt (v : Json) (key : String) : List String := (v.field key).textItems

/-- The items of a field that holds a list. -/
def itemsAt (v : Json) (key : String) : List Json := (v.field key).items

/-- The table of a field, if it holds one. -/
def tableAt? (v : Json) (key : String) : Option Json :=
  match v.get? key with
  | some (.obj fields) => some (.obj fields)
  | _ => none

/-- An optional text. -/
def ofText? (s : Option String) : Json := ofOption .str s

@[simp] theorem field_obj_cons_self (key : String) (v : Json) (rest : List (String × Json)) :
    (obj ((key, v) :: rest)).field key = v := by
  simp [field, get?, Assoc.get?]

end ComponentMigration.Json
