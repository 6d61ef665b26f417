import ComponentMigration.Trouble

/-!
# Cutting and sorting lists

Lists are cut into pieces, and sorted by comparisons that may meet a trouble.
-/

namespace ComponentMigration

/-!
## Pieces of lists

Lists are cut into pieces of one size, or into runs of neighbours with one key.
-/

/-- Cuts a list into pieces of a positive size; `fuel` bounds their number. -/
def chunksWithin (size : Nat) : Nat → List α → List (List α)
  | 0, _ => []
  | _ + 1, [] => []
  | fuel + 1, xs => xs.take size :: chunksWithin size fuel (xs.drop size)

/-- Cuts a list into pieces of a positive size; only the last one may be shorter. -/
def chunks (size : Nat) (xs : List α) : List (List α) := chunksWithin size xs.length xs

/-- The neighbours of a list that share a key, together. -/
def runsBy (key : α → String) : List α → List (List α)
  | [] => []
  | x :: rest =>
    match runsBy key rest with
    | (y :: ys) :: later =>
      if key x == key y then (x :: y :: ys) :: later else [x] :: (y :: ys) :: later
    | later => [x] :: later

end ComponentMigration

namespace ComponentMigration.Sorting

/-!
## Sorting by insertion

Items are sorted by a comparison that may meet a trouble and need not be an order.  The run at the
start that is in order, or strictly against it, is taken as it stands or turned round.  Every later
item is then put into its place, which is looked for by halving.  If the comparison is an order,
items of the same rank keep their places relative to each other.
-/

variable {α : Type}

/-- The items at the start that go on from each other, `last` being the one before, and the rest. -/
def takeRun (goesOn : α → α → Usable Bool) (last : α) : List α → Usable (List α × List α)
  | [] => .ok ([], [])
  | x :: rest => do
    if ← goesOn last x then
      let (run, after) ← takeRun goesOn x rest
      return (x :: run, after)
    else return ([], x :: rest)

/-- The run at the start, in order, and the rest; `less` says whether an item comes before another
one. -/
def firstRun (less : α → α → Usable Bool) : List α → Usable (List α × List α)
  | a :: b :: rest => do
    if ← less b a then
      let (run, after) ← takeRun (fun last x => less x last) b rest
      return ((a :: b :: run).reverse, after)
    else
      let (run, after) ← takeRun (fun last x => do return !(← less x last)) b rest
      return (a :: b :: run, after)
  | items => .ok (items, [])

/-- The place of an item among sorted ones, between two places; each of the `steps` halves the
distance. -/
def place (less : α → α → Usable Bool) (x : α) (sorted : List α) : Nat → Nat → Nat → Usable Nat
  | 0, low, _ => .ok low
  | steps + 1, low, high =>
    if low < high then
      let middle := (low + high) / 2
      match sorted[middle]? with
      | none => .ok low
      | some y => do
        if ← less x y then place less x sorted steps low middle
        else place less x sorted steps (middle + 1) high
    else .ok low

/-- Puts items into their places among sorted ones. -/
def insertAll (less : α → α → Usable Bool) (sorted : List α) : List α → Usable (List α)
  | [] => .ok sorted
  | x :: rest => do
    let n ← place less x sorted sorted.length 0 sorted.length
    insertAll less (sorted.take n ++ x :: sorted.drop n) rest

/-- Items in the order of a comparison. -/
def sortBy (less : α → α → Usable Bool) (items : List α) : Usable (List α) := do
  let (run, rest) ← firstRun less items
  insertAll less run rest

/-- Nothing has to be compared to sort at most one item. -/
@[simp] theorem sortBy_singleton (less : α → α → Usable Bool) (x : α) :
    sortBy less [x] = .ok [x] := rfl

end ComponentMigration.Sorting
