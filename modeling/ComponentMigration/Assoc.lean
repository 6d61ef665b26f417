/-!
# Ordered tables

The order of a table is the order in which its keys first came in.  `get?` sees the first entry of a
key, `set` replaces the value in place or adds an entry at the end, so a table built by `set` alone
has every key once.
-/

namespace ComponentMigration

/-- A table with text keys that keeps the order of its entries. -/
abbrev Assoc (α : Type) := List (String × α)

namespace Assoc

variable {α : Type}

/-- The value under a key. -/
def get? (t : Assoc α) (key : String) : Option α := (t.find? (·.1 == key)).map (·.2)

/-- Whether the table has a key. -/
def has (t : Assoc α) (key : String) : Bool := t.any (·.1 == key)

/-- The table with a value under a key, at the key's place or at the end. -/
def set (t : Assoc α) (key : String) (value : α) : Assoc α :=
  match t with
  | [] => [(key, value)]
  | (k, v) :: rest => if k == key then (k, value) :: rest else (k, v) :: set rest key value

/-- The table with the value under a key changed, if the key is there. -/
def adjust (t : Assoc α) (key : String) (f : α → α) : Assoc α :=
  t.map fun (k, v) => if k == key then (k, f v) else (k, v)

/-- The keys, in order. -/
def keys (t : Assoc α) : List String := t.map (·.1)

/-- The table without a key. -/
def erase (t : Assoc α) (key : String) : Assoc α := t.filter (·.1 != key)

/-- One table over another: the second one's values win. -/
def update (t other : Assoc α) : Assoc α := other.foldl (fun acc (k, v) => acc.set k v) t

/-- The table with its keys sorted. -/
def sorted (t : Assoc α) : Assoc α := t.mergeSort fun a b => !decide (b.1 < a.1)

/-- How often each text occurs, in the order of first occurrences. -/
def count (xs : List String) : Assoc Nat :=
  xs.foldl (fun acc x => acc.set x (((acc.get? x).getD 0) + 1)) []

@[simp] theorem get?_set_self (t : Assoc α) (key : String) (value : α) :
    (t.set key value).get? key = some value := by
  induction t with
  | nil => simp [set, get?]
  | cons entry rest ih =>
    obtain ⟨k, v⟩ := entry
    by_cases h : k = key
    · simp [set, get?, h]
    · simpa [set, get?, h] using ih

theorem get?_set_of_ne (t : Assoc α) {key other : String} (value : α) (h : key ≠ other) :
    (t.set key value).get? other = t.get? other := by
  induction t with
  | nil => simp [set, get?, h]
  | cons entry rest ih =>
    obtain ⟨k, v⟩ := entry
    by_cases hk : k = key
    · subst hk
      simp [set, get?, h]
    · by_cases ho : k = other
      · subst ho
        simp [set, get?, hk]
      · simpa [set, get?, hk, ho] using ih

end Assoc

end ComponentMigration
