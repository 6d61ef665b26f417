import ComponentMigration.Json.Value
import ComponentMigration.Text.Basic
import ComponentMigration.Text.Numeral
import ComponentMigration.Text.Quoted

/-!
# Values used the wrong way

A value of one sort may stand where a value of another sort is needed.  The trouble then names the
sorts that met, and what was to be done with them.  `isLess` is the order of values: numbers by
size, texts by their characters, lists by their first difference; other values have none.
Numbers stand for themselves, and a text may stand for the number that is written in it.
-/

namespace ComponentMigration

/-- The name that messages have for the sort of a value. -/
def Json.sortName : Json → String
  | .null => "NoneType"
  | .bool _ => "bool"
  | .int _ => "int"
  | .float _ => "float"
  | .str _ => "str"
  | .arr _ => "list"
  | .obj _ => "dict"

namespace Trouble

/-- The trouble with a value that does not have a part. -/
def lacks (v : Json) (part : String) : Trouble :=
  ⟨.missingPart, "'" ++ v.sortName ++ "' object has no attribute '" ++ part ++ "'", none⟩

/-- The trouble with comparing two sorts. -/
def incomparable (relation left right : String) : Trouble :=
  ⟨.wrongType, "'" ++ relation ++ "' not supported between instances of '" ++ left ++ "' and '" ++
    right ++ "'", none⟩

/-- The trouble with computing with two sorts. -/
def unsupported (operation left right : String) : Trouble :=
  ⟨.wrongType, "unsupported operand type(s) for " ++ operation ++ ": '" ++ left ++ "' and '" ++
    right ++ "'", none⟩

/-- The trouble with a value that has no members. -/
def notIterable (v : Json) : Trouble :=
  ⟨.wrongType, "'" ++ v.sortName ++ "' object is not iterable", none⟩

/-- The trouble with a value that cannot be looked up. -/
def unhashable (v : Json) : Trouble :=
  ⟨.wrongType, "unhashable type: '" ++ v.sortName ++ "'", none⟩

/-- The trouble with a value where an integer is needed. -/
def notInteger (sortName : String) : Trouble :=
  ⟨.wrongType, "'" ++ sortName ++ "' object cannot be interpreted as an integer", none⟩

/-- The trouble with a value where a path is needed. -/
def notPath (v : Json) : Trouble :=
  ⟨.wrongType, "expected str, bytes or os.PathLike object, not " ++ v.sortName, none⟩

/-- The trouble with a value where a number is needed. -/
def notReal (v : Json) : Trouble :=
  ⟨.wrongType, "must be real number, not " ++ v.sortName, none⟩

end Trouble

/-- The name that messages have for the sort of a quantity. -/
def Quantity.sortName (q : Quantity) : String := (Json.ofQuantity q).sortName

namespace Json

mutual

/-- Whether a value comes before another one; `sign` is what the comparison is written with. -/
def precedes (sign : String) : Json → Json → Usable Bool
  | .str a, .str b => .ok (decide (a < b))
  | .arr a, .arr b => precedesList sign a b
  | a, b =>
    match a.quantity?, b.quantity? with
    | some m, some n => .ok (m.isLess n)
    | _, _ => .error (.incomparable sign a.sortName b.sortName)

/-- Whether a list comes before another one: by their first difference, else the shorter one. -/
def precedesList (sign : String) : List Json → List Json → Usable Bool
  | [], bs => .ok !bs.isEmpty
  | _ :: _, [] => .ok false
  | a :: as, b :: bs => if a == b then precedesList sign as bs else precedes sign a b

end

/-- Whether a value is less than another one. -/
def isLess (a b : Json) : Usable Bool := precedes "<" a b

/-- Whether a value is at most another one. -/
def isAtMost (a b : Json) : Usable Bool := do return (← precedes "<=" a b) || a == b

/-- The quantity of a value that has to be a number. -/
def number (v : Json) : Usable Quantity :=
  match v.quantity? with
  | some q => .ok q
  | none => .error (.notReal v)

/-- The integer that a value stands for. -/
def toInteger (v : Json) : Usable Int :=
  match v with
  | .int n => .ok n
  | .bool b => .ok (if b then 1 else 0)
  | .float x => (Quantity.real x).trunc
  | .str s =>
    match Text.integer? s with
    | some n => .ok n
    | none =>
      .error ⟨.badValue, "invalid literal for int() with base 10: " ++ Text.quoted s, none⟩
  | _ =>
    .error ⟨.wrongType, "int() argument must be a string, a bytes-like object or a real number, " ++
      "not '" ++ v.sortName ++ "'", none⟩

/-- The floating-point number that a value stands for. -/
def toReal (v : Json) : Usable Float :=
  match v.quantity?, v with
  | some q, _ => q.toFloat
  | none, .str s =>
    match Text.real? s.toList with
    | some x => .ok x
    | none => .error ⟨.badValue, "could not convert string to float: " ++ Text.quoted s, none⟩
  | none, _ =>
    .error ⟨.wrongType, "float() argument must be a string or a real number, not '" ++
      v.sortName ++ "'", none⟩

/-- The floating-point number that a field stands for; zero if it is absent. -/
def realAt (v : Json) (key : String) : Usable Float := ((v.get? key).map toReal).getD (.ok 0.0)

/-- The value of a field that has to be there. -/
def need (v : Json) (key : String) : Usable Json :=
  match v.get? key with
  | some field => .ok field
  | none => .error ⟨.missingKey, "'" ++ key ++ "'", none⟩

/-- The members of a value: the items of a list, the keys of a table, the characters of a text. -/
def members (v : Json) : Usable (List Json) :=
  match v with
  | .arr items => .ok items
  | .obj fields => .ok (fields.map fun (k, _) => .str k)
  | .str s => .ok (s.toList.map fun c => .str (String.singleton c))
  | _ => .error (.notIterable v)

/-- Whether a value can be looked up: neither a list nor a table. -/
def isHashable : Json → Bool
  | .arr _ => false
  | .obj _ => false
  | _ => true

end Json

end ComponentMigration
