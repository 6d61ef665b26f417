import Mathlib.Data.List.Induction
import Mathlib.Data.List.Nodup
import Mathlib.Data.List.Perm.Basic
import ComponentMigration.Assoc

/-!
# Tables with distinct keys

A table stands for a map if no key comes twice.  `set` keeps keys distinct, and an update by a table
with distinct keys gives every one of its keys the value that it has there.
-/

namespace ComponentMigration.Assoc

variable {α : Type} {t other : Assoc α} {key k : String} {value v : α}

theorem keys_cons (entry : String × α) (t : Assoc α) : keys (entry :: t) = entry.1 :: t.keys := rfl

theorem mem_keys_set : k ∈ (t.set key value).keys ↔ k = key ∨ k ∈ t.keys := by
  induction t with
  | nil => simp [set, keys]
  | cons entry rest ih =>
      obtain ⟨k', v'⟩ := entry
      by_cases h : k' = key
      · subst h
        simp [set, keys]
      · simp only [set, beq_iff_eq, h, if_false, keys_cons, List.mem_cons, ih]
        exact or_left_comm

/-- An entry of a table that a key was set in is an old one or that of the key. -/
theorem mem_or_eq_of_mem_set {entry : String × α} (h : entry ∈ t.set key value) :
    entry ∈ t ∨ entry = (key, value) := by
  induction t with
  | nil => exact Or.inr (List.mem_singleton.mp h)
  | cons first rest ih =>
      obtain ⟨k', v'⟩ := first
      by_cases hk : k' = key
      · simp only [set, hk, beq_self_eq_true, if_true, List.mem_cons] at h
        exact h.elim Or.inr fun hrest => Or.inl (List.mem_cons_of_mem _ hrest)
      · simp only [set, beq_iff_eq, hk, if_false, List.mem_cons] at h
        rcases h with rfl | hrest
        · exact Or.inl List.mem_cons_self
        · exact (ih hrest).imp_left (List.mem_cons_of_mem _)

/-- Setting a value takes no entry away. -/
theorem length_le_length_set (t : Assoc α) (key : String) (value : α) :
    t.length ≤ (t.set key value).length := by
  induction t with
  | nil => exact Nat.zero_le _
  | cons entry rest ih =>
      unfold set
      split
      · exact Nat.le_refl _
      · exact Nat.succ_le_succ ih

theorem mem_of_get? (h : t.get? k = some v) : (k, v) ∈ t := by
  obtain ⟨entry, hfind, rfl⟩ := Option.map_eq_some_iff.mp h
  have hkey : entry.1 = k := by simpa using List.find?_some hfind
  exact hkey ▸ List.mem_of_find?_eq_some hfind

/-- In a table with distinct keys every entry is found. -/
theorem get?_eq_some_iff (h : t.keys.Nodup) : t.get? k = some v ↔ (k, v) ∈ t := by
  refine ⟨mem_of_get?, fun hmem => ?_⟩
  induction t with
  | nil => cases hmem
  | cons entry rest ih =>
      obtain ⟨k', v'⟩ := entry
      obtain ⟨hnotin, hrest⟩ := List.nodup_cons.mp h
      rcases List.mem_cons.mp hmem with heq | hmem
      · cases heq
        simp [get?]
      · have hne : k' ≠ k := by
          rintro rfl
          exact hnotin (List.mem_map.mpr ⟨_, hmem, rfl⟩)
        simpa [get?, hne] using ih hrest hmem

/-- Tables with distinct keys have the same entries if and only if they give every key the same
value. -/
theorem perm_iff_get?_eq (h : t.keys.Nodup) (hother : other.keys.Nodup) :
    t.Perm other ↔ t.get? = other.get? := by
  rw [List.perm_ext_iff_of_nodup (.of_map _ h) (.of_map _ hother)]
  constructor
  · intro hmem
    funext k
    refine Option.ext fun v => ?_
    rw [get?_eq_some_iff h, get?_eq_some_iff hother, hmem]
  · rintro hget ⟨k, v⟩
    rw [← get?_eq_some_iff h, ← get?_eq_some_iff hother, hget]

/-- Setting a key keeps keys distinct. -/
theorem nodup_keys_set (h : t.keys.Nodup) : (t.set key value).keys.Nodup := by
  induction t with
  | nil => simp [set, keys]
  | cons entry rest ih =>
      obtain ⟨k', v'⟩ := entry
      obtain ⟨hnotin, hrest⟩ := List.nodup_cons.mp h
      by_cases hk : k' = key
      · simp only [set, beq_iff_eq, hk, if_true]
        exact hk ▸ h
      · simp only [set, beq_iff_eq, hk, if_false, keys_cons]
        exact List.nodup_cons.mpr
          ⟨fun hmem => (mem_keys_set.1 hmem).elim hk hnotin, ih hrest⟩

/-- A new key comes last. -/
theorem set_of_not_mem (h : key ∉ t.keys) (value : α) : t.set key value = t ++ [(key, value)] := by
  induction t with
  | nil => rfl
  | cons entry rest ih =>
      obtain ⟨k, v⟩ := entry
      rw [keys_cons, List.mem_cons, not_or] at h
      have hne : (k == key) = false := by simpa using Ne.symm h.1
      simp only [set, hne, Bool.false_eq_true, if_false, List.cons_append, ih h.2]

/-- A table that has given keys, each of them once. -/
structure HasKeys (t : Assoc α) (keys : List String) : Prop where
  nodup : t.keys.Nodup
  mem_iff : ∀ k, k ∈ t.keys ↔ k ∈ keys

namespace HasKeys

variable {keys keys' : List String}

theorem nil : HasKeys ([] : Assoc α) [] := ⟨List.nodup_nil, fun _ => Iff.rfl⟩

theorem set (h : t.HasKeys keys) (key : String) (value : α) :
    (t.set key value).HasKeys (keys ++ [key]) := by
  refine ⟨nodup_keys_set h.nodup, fun k => ?_⟩
  rw [mem_keys_set, h.mem_iff, List.mem_append, List.mem_singleton, or_comm]

theorem of_perm (h : t.HasKeys keys) (hkeys : keys.Perm keys') : t.HasKeys keys' :=
  ⟨h.nodup, fun k => (h.mem_iff k).trans hkeys.mem_iff⟩

/-- Keys that are distinct are those of the table in some order. -/
theorem perm (h : t.HasKeys keys) (hkeys : keys.Nodup) : t.keys.Perm keys :=
  (List.perm_ext_iff_of_nodup h.nodup hkeys).mpr h.mem_iff

end HasKeys

/-- A key that is not updated keeps its value. -/
theorem get?_update_of_not_mem (h : k ∉ other.keys) : (t.update other).get? k = t.get? k := by
  induction other generalizing t with
  | nil => rfl
  | cons entry rest ih =>
      obtain ⟨k', v'⟩ := entry
      rw [keys_cons, List.mem_cons, not_or] at h
      show ((t.set k' v').update rest).get? k = t.get? k
      rw [ih h.2, get?_set_of_ne t v' (Ne.symm h.1)]

/-- A key that is updated takes its new value. -/
theorem get?_update_of_get? (hkeys : other.keys.Nodup) (h : other.get? k = some v) :
    (t.update other).get? k = some v := by
  induction other generalizing t with
  | nil => simp [get?] at h
  | cons entry rest ih =>
      obtain ⟨k', v'⟩ := entry
      obtain ⟨hnotin, hrest⟩ := List.nodup_cons.mp hkeys
      show ((t.set k' v').update rest).get? k = some v
      by_cases hk : k' = k
      · subst hk
        have hv : v' = v := by simpa [get?] using h
        rw [get?_update_of_not_mem hnotin, get?_set_self, hv]
      · exact ih hrest (by simpa [get?, hk] using h)

theorem get?_cons_self (k : String) (v : α) (t : Assoc α) : get? ((k, v) :: t) k = some v := by
  simp [get?]

theorem get?_cons_of_ne (h : key ≠ k) (v : α) (t : Assoc α) :
    get? ((key, v) :: t) k = t.get? k := by
  simp [get?, h]

/-- Without the values that fail a test, a key has its value if that passes the test. -/
theorem get?_filter (h : t.keys.Nodup) (p : α → Bool) (k : String) :
    get? (t.filter fun entry => p entry.2) k = (t.get? k).filter p := by
  have hfilter : (keys (t.filter fun entry => p entry.2)).Nodup :=
    h.sublist (List.filter_sublist.map Prod.fst)
  refine Option.ext fun v => ?_
  rw [get?_eq_some_iff hfilter, List.mem_filter, Option.filter_eq_some_iff, get?_eq_some_iff h]

theorem get?_eq_none_iff : t.get? k = none ↔ k ∉ t.keys := by
  rw [get?, Option.map_eq_none_iff, List.find?_eq_none, keys, List.mem_map, not_exists]
  simp only [beq_iff_eq, not_and]

/-- A table whose values are replaced according to their keys has the new values under the keys. -/
theorem get?_map {β : Type} (f : String → α → β) (t : Assoc α) (k : String) :
    get? (t.map fun entry => (entry.1, f entry.1 entry.2)) k = (t.get? k).map (f k) := by
  induction t with
  | nil => rfl
  | cons entry rest ih =>
      obtain ⟨k', v⟩ := entry
      by_cases h : k' = k
      · subst h
        simp [get?]
      · simpa [get?, h] using ih

/-- Setting a key that is there replaces its value. -/
theorem set_eq_map (h : t.keys.Nodup) (hmem : key ∈ t.keys) (value : α) :
    t.set key value = t.map fun entry => (entry.1, if entry.1 = key then value else entry.2) := by
  induction t with
  | nil => cases hmem
  | cons entry rest ih =>
      obtain ⟨k, v⟩ := entry
      obtain ⟨hnotin, hrest⟩ := List.nodup_cons.mp h
      by_cases hk : k = key
      · subst hk
        have hsame : rest.map (fun entry => (entry.1, if entry.1 = k then value else entry.2)) =
            rest := by
          refine (List.map_congr_left fun entry hentry => ?_).trans (List.map_id rest)
          have hne : entry.1 ≠ k := fun heq => hnotin (List.mem_map.mpr ⟨entry, hentry, heq⟩)
          simp [hne]
        simp [set, hsame]
      · have hmem : key ∈ keys rest := (List.mem_cons.mp hmem).resolve_left (Ne.symm hk)
        simp [set, hk, ih hrest hmem]

theorem nodup_keys_update (h : t.keys.Nodup) (other : Assoc α) : (t.update other).keys.Nodup := by
  induction other generalizing t with
  | nil => exact h
  | cons entry rest ih => exact ih (nodup_keys_set h)

theorem prefix_keys_set (t : Assoc α) (key : String) (value : α) :
    t.keys <+: (t.set key value).keys := by
  induction t with
  | nil => exact List.nil_prefix
  | cons entry rest ih =>
      unfold set
      split
      · exact List.prefix_refl _
      · exact List.cons_prefix_cons.mpr ⟨rfl, ih⟩

/-- An update adds its new keys behind the old ones. -/
theorem prefix_keys_update (t other : Assoc α) : t.keys <+: (t.update other).keys := by
  induction other generalizing t with
  | nil => exact List.prefix_refl _
  | cons entry rest ih => exact (prefix_keys_set t entry.1 entry.2).trans (ih _)

theorem update_cons_of_not_mem (h : k ∉ other.keys) (v : α) (t : Assoc α) :
    update ((k, v) :: t) other = (k, v) :: t.update other := by
  induction other generalizing t with
  | nil => rfl
  | cons entry rest ih =>
      rw [keys_cons, List.mem_cons, not_or] at h
      have hne : (k == entry.1) = false := by simpa using h.1
      show update (set ((k, v) :: t) entry.1 entry.2) rest = (k, v) :: (t.set entry.1 entry.2).update rest
      rw [← ih h.2]
      simp [set, hne]

/-- An update that starts with all keys of a table, in their order, takes its place. -/
theorem update_of_prefix (hother : other.keys.Nodup) (h : t.keys <+: other.keys) :
    t.update other = other := by
  induction other generalizing t with
  | nil =>
      obtain rfl : t = [] := List.map_eq_nil_iff.mp (List.prefix_nil.mp h)
      rfl
  | cons entry rest ih =>
      obtain ⟨k, v⟩ := entry
      obtain ⟨hnotin, hrest⟩ := List.nodup_cons.mp hother
      cases t with
      | nil =>
          show update [(k, v)] rest = (k, v) :: rest
          rw [update_cons_of_not_mem hnotin, ih (t := []) hrest List.nil_prefix]
      | cons first t =>
          obtain ⟨hkey, hprefix⟩ := List.cons_prefix_cons.mp h
          obtain ⟨k', v'⟩ := first
          obtain rfl : k' = k := hkey
          show update (set ((k', v') :: t) k' v) rest = (k', v) :: rest
          rw [set, if_pos (beq_self_eq_true k'), update_cons_of_not_mem hnotin, ih hrest hprefix]

section Count

theorem count_concat (xs : List String) (x : String) :
    count (xs ++ [x]) = (count xs).set x (((count xs).get? x).getD 0 + 1) := by
  rw [count, List.foldl_append]
  rfl

theorem nodup_keys_count (xs : List String) : (count xs).keys.Nodup := by
  induction xs using List.reverseRecOn with
  | nil => exact List.nodup_nil
  | append_singleton xs x ih => exact count_concat xs x ▸ nodup_keys_set ih

/-- A text has the number of its occurrences, and none if it does not occur. -/
theorem get?_count (xs : List String) (k : String) :
    (count xs).get? k = if k ∈ xs then some (xs.count k) else none := by
  induction xs using List.reverseRecOn with
  | nil => rfl
  | append_singleton xs x ih =>
      rw [count_concat]
      by_cases hk : x = k
      · have hcount : ((count xs).get? x).getD 0 = xs.count x := by
          rw [hk, ih]
          split
          · rfl
          · next hnew => exact (List.count_eq_zero_of_not_mem hnew).symm
        subst hk
        rw [get?_set_self, hcount, if_pos (by simp), List.count_append, List.count_singleton_self]
      · rw [get?_set_of_ne _ _ hk, ih]
        simp [List.count_append, Ne.symm hk, hk]

theorem mem_count {xs : List String} {k : String} {n : Nat} :
    (k, n) ∈ count xs ↔ k ∈ xs ∧ xs.count k = n := by
  rw [← get?_eq_some_iff (nodup_keys_count xs), get?_count]
  split <;> simp_all

end Count

end ComponentMigration.Assoc
