import Mathlib.Data.List.Nodup
import Mathlib.Data.String.Basic
import ComponentMigration.Text.Basic

/-!
# Texts each once and in order

Adding a text to a list that has it changes nothing, so texts that are collected one by one stay
pairwise distinct.

The order of texts is total, so what is sorted by distinct texts does not show in which order it came
(`merge_sort_eq_of_perm`).  The same holds of the texts themselves, whether they are distinct or not.
-/

namespace ComponentMigration

variable {x y : String} {xs ys : List String}

theorem mem_append_unique : x ∈ Text.appendUnique xs y ↔ x ∈ xs ∨ x = y := by
  unfold Text.appendUnique
  split
  · next hmem => exact ⟨.inl, fun h => h.elim id fun heq => heq ▸ hmem⟩
  · rw [List.mem_append, List.mem_singleton]

theorem nodup_append_unique (h : xs.Nodup) (y : String) : (Text.appendUnique xs y).Nodup := by
  unfold Text.appendUnique
  split
  · exact h
  · next hnew => exact List.concat_eq_append ▸ h.concat hnew

theorem mem_fold_append_unique : x ∈ ys.foldl Text.appendUnique xs ↔ x ∈ xs ∨ x ∈ ys := by
  induction ys generalizing xs with
  | nil => simp
  | cons y ys ih => rw [List.foldl_cons, ih, mem_append_unique, List.mem_cons, or_assoc]

/-- The texts of a list, each once, are the texts of the list. -/
theorem mem_unique : x ∈ Text.unique xs ↔ x ∈ xs := by
  rw [Text.unique, mem_fold_append_unique]
  simp

theorem nodup_fold_append_unique (h : xs.Nodup) (ys : List String) :
    (ys.foldl Text.appendUnique xs).Nodup := by
  induction ys generalizing xs with
  | nil => exact h
  | cons y ys ih => exact ih (nodup_append_unique h y)

theorem nodup_unique (xs : List String) : (Text.unique xs).Nodup :=
  nodup_fold_append_unique List.nodup_nil xs

variable {α : Type} {xs ys : List String}

/-- The order of texts, through which everything is sorted. -/
theorem text_le_iff {a b : String} : Text.le a b ↔ a ≤ b := by
  simp [Text.le, -String.lt_iff_ltb]

/-- What is sorted by texts comes in their order. -/
theorem pairwise_merge_sort (key : α → String) (items : List α) :
    (items.mergeSort fun a b => Text.le (key a) (key b)).Pairwise fun a b => key a ≤ key b := by
  refine (List.pairwise_mergeSort (fun a b c hab hbc => ?_) (fun a b => ?_) items).imp
    text_le_iff.1
  · exact text_le_iff.2 ((text_le_iff.1 hab).trans (text_le_iff.1 hbc))
  · rw [Bool.or_eq_true, text_le_iff, text_le_iff]
    exact le_total _ _

/-- Items in another order are sorted alike if different items have different texts to sort by. -/
theorem merge_sort_eq_of_perm (key : α → String) {items others : List α}
    (hkeys : ∀ a ∈ items, ∀ b ∈ others, key a = key b → a = b) (h : items.Perm others) :
    items.mergeSort (fun a b => Text.le (key a) (key b)) =
      others.mergeSort fun a b => Text.le (key a) (key b) := by
  refine List.Perm.eq_of_pairwise ?_ (pairwise_merge_sort key items)
    (pairwise_merge_sort key others)
    ((List.mergeSort_perm _ _).trans (h.trans (List.mergeSort_perm _ _).symm))
  intro a b ha hb hab hba
  exact hkeys a (List.mem_mergeSort.mp ha) b (List.mem_mergeSort.mp hb) (le_antisymm hab hba)

theorem sorted_eq_of_perm (h : xs.Perm ys) : Text.sorted xs = Text.sorted ys :=
  merge_sort_eq_of_perm id (fun _ _ _ _ => id) h

theorem sorted_perm (xs : List String) : (Text.sorted xs).Perm xs := List.mergeSort_perm _ _

/-- Distinct texts rise strictly when they are sorted. -/
theorem pairwise_lt_sorted (h : xs.Nodup) : (Text.sorted xs).Pairwise (· < ·) :=
  (pairwise_merge_sort id xs).imp₂ (fun _ _ hle hne => lt_of_le_of_ne hle hne)
    ((sorted_perm xs).nodup_iff.mpr h)

/-- Texts that rise strictly are sorted. -/
theorem sorted_eq_self (h : xs.Pairwise (· < ·)) : Text.sorted xs = xs :=
  List.mergeSort_of_pairwise (h.imp fun hlt => text_le_iff.2 (le_of_lt hlt))

/-- Texts in another order are the same texts, each once. -/
theorem unique_perm (h : xs.Perm ys) : (Text.unique xs).Perm (Text.unique ys) := by
  rw [List.perm_ext_iff_of_nodup (nodup_unique xs) (nodup_unique ys)]
  intro x
  rw [mem_unique, mem_unique]
  exact h.mem_iff

end ComponentMigration
