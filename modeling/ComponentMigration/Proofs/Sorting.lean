import Mathlib.Data.List.Basic
import ComponentMigration.Sorting

/-!
# Sorting and cutting lose nothing

Sorted items are the items in another order, whatever the comparison says (`sort_by_perm`), and items
that compare with one another without trouble can be sorted (`sort_by_of_comparable`).  The pieces
and the runs of a list are the list (`flatten_chunks`, `flatten_runs_by`), and so are its items
gathered by a key, in another order (`flat_map_keys_perm`).
-/

namespace ComponentMigration

variable {α : Type}

namespace Sorting

variable {less goesOn : α → α → Usable Bool} {items sorted rest run after : List α} {x last : α}

/-- The items that go on from each other and the rest are the items. -/
theorem take_run_append (h : takeRun goesOn last items = .ok (run, after)) :
    run ++ after = items := by
  induction items generalizing last run with
  | nil =>
      cases h
      rfl
  | cons x rest ih =>
      obtain ⟨goes, -, h⟩ := bind_eq_ok.mp h
      cases goes with
      | false =>
          cases h
          rfl
      | true =>
          obtain ⟨⟨run', after'⟩, hrest, h⟩ := bind_eq_ok.mp h
          cases h
          exact congrArg (x :: ·) (ih hrest)

/-- The run at the start and the rest have the items, though the run may be turned round. -/
theorem first_run_perm (h : firstRun less items = .ok (run, after)) :
    (run ++ after).Perm items := by
  match items with
  | [] =>
      cases h
      exact .refl _
  | [a] =>
      cases h
      exact .refl _
  | a :: b :: rest =>
      obtain ⟨falls, -, h⟩ := bind_eq_ok.mp h
      cases falls with
      | true =>
          obtain ⟨⟨run', after'⟩, hrun, h⟩ := bind_eq_ok.mp h
          cases h
          rw [← take_run_append hrun]
          exact (List.reverse_perm _).append_right _
      | false =>
          obtain ⟨⟨run', after'⟩, hrun, h⟩ := bind_eq_ok.mp h
          cases h
          rw [← take_run_append hrun]
          exact .refl _

/-- Putting an item anywhere among others adds it. -/
theorem insert_perm (n : Nat) (x : α) (sorted : List α) :
    (sorted.take n ++ x :: sorted.drop n).Perm (x :: sorted) := by
  have hmiddle : (sorted.take n ++ x :: sorted.drop n).Perm
      (x :: (sorted.take n ++ sorted.drop n)) := List.perm_middle
  rwa [List.take_append_drop] at hmiddle

theorem insert_all_perm {out : List α} (h : insertAll less sorted rest = .ok out) :
    out.Perm (sorted ++ rest) := by
  induction rest generalizing sorted with
  | nil =>
      cases h
      rw [List.append_nil]
  | cons x rest ih =>
      obtain ⟨n, -, h⟩ := bind_eq_ok.mp h
      exact (ih h).trans (((insert_perm n x sorted).append_right rest).trans List.perm_middle.symm)

/-- Sorted items are the items in another order. -/
theorem sort_by_perm (h : sortBy less items = .ok sorted) : sorted.Perm items := by
  obtain ⟨⟨run, after⟩, hrun, h⟩ := bind_eq_ok.mp h
  exact (insert_all_perm h).trans (first_run_perm hrun)

/-- Items that can be compared with one another. -/
def Comparable (less : α → α → Usable Bool) (items : List α) : Prop :=
  ∀ x ∈ items, ∀ y ∈ items, ∃ b, less x y = .ok b

theorem take_run_of_comparable (goesOn : α → α → Usable Bool) {last : α} {items : List α}
    (h : ∀ x ∈ last :: items, ∀ y ∈ items, ∃ b, goesOn x y = .ok b) :
    ∃ run after, takeRun goesOn last items = .ok (run, after) := by
  induction items generalizing last with
  | nil => exact ⟨[], [], rfl⟩
  | cons x rest ih =>
      obtain ⟨goes, hgoes⟩ := h last List.mem_cons_self x List.mem_cons_self
      obtain ⟨run, after, hrest⟩ := ih fun y hy z hz =>
        h y (List.mem_cons_of_mem _ hy) z (List.mem_cons_of_mem _ hz)
      cases goes with
      | false => exact ⟨[], x :: rest, bind_eq_ok.mpr ⟨false, hgoes, rfl⟩⟩
      | true =>
          exact ⟨x :: run, after, bind_eq_ok.mpr ⟨true, hgoes,
            bind_eq_ok.mpr ⟨(run, after), hrest, rfl⟩⟩⟩

theorem first_run_of_comparable (h : Comparable less items) :
    ∃ run after, firstRun less items = .ok (run, after) := by
  match items with
  | [] => exact ⟨[], [], rfl⟩
  | [a] => exact ⟨[a], [], rfl⟩
  | a :: b :: rest =>
      obtain ⟨falls, hfalls⟩ := h b (by simp) a (by simp)
      have hsub : ∀ x ∈ b :: rest, x ∈ a :: b :: rest := fun x hx => List.mem_cons_of_mem a hx
      cases falls with
      | true =>
          have hback : ∀ x ∈ b :: rest, ∀ y ∈ rest, ∃ c, less y x = .ok c := fun x hx y hy =>
            h y (hsub y (List.mem_cons_of_mem b hy)) x (hsub x hx)
          obtain ⟨run, after, hrun⟩ := take_run_of_comparable (fun last x => less x last) hback
          exact ⟨_, after, bind_eq_ok.mpr ⟨true, hfalls, bind_eq_ok.mpr ⟨_, hrun, rfl⟩⟩⟩
      | false =>
          have hon : ∀ x ∈ b :: rest, ∀ y ∈ rest,
              ∃ c, (do return !(← less y x) : Usable Bool) = .ok c := by
            intro x hx y hy
            obtain ⟨c, hc⟩ := h y (hsub y (List.mem_cons_of_mem _ hy)) x (hsub x hx)
            exact ⟨!c, bind_eq_ok.mpr ⟨c, hc, rfl⟩⟩
          obtain ⟨run, after, hrun⟩ :=
            take_run_of_comparable (fun last x => do return !(← less x last)) hon
          exact ⟨_, after, bind_eq_ok.mpr ⟨false, hfalls, bind_eq_ok.mpr ⟨_, hrun, rfl⟩⟩⟩

theorem place_of_comparable (h : ∀ y ∈ sorted, ∃ b, less x y = .ok b) (steps low high : Nat) :
    ∃ n, place less x sorted steps low high = .ok n := by
  induction steps generalizing low high with
  | zero => exact ⟨low, rfl⟩
  | succ steps ih =>
      unfold place
      split
      · dsimp only
        split
        · exact ⟨low, rfl⟩
        · next y hy =>
            obtain ⟨b, hb⟩ := h y (List.mem_of_getElem? hy)
            rw [hb]
            cases b with
            | true => exact ih low _
            | false => exact ih _ high
      · exact ⟨low, rfl⟩

theorem insert_all_of_comparable (h : Comparable less (sorted ++ rest)) :
    ∃ out, insertAll less sorted rest = .ok out := by
  induction rest generalizing sorted with
  | nil => exact ⟨sorted, rfl⟩
  | cons x rest ih =>
      have hplace : ∀ y ∈ sorted, ∃ b, less x y = .ok b := fun y hy =>
        h x (by simp) y (List.mem_append_left _ hy)
      obtain ⟨n, hn⟩ := place_of_comparable hplace sorted.length 0 sorted.length
      have hperm : (sorted.take n ++ x :: sorted.drop n ++ rest).Perm (sorted ++ x :: rest) :=
        ((insert_perm n x sorted).append_right rest).trans List.perm_middle.symm
      have hrest : Comparable less (sorted.take n ++ x :: sorted.drop n ++ rest) := fun y hy z hz =>
        h y (hperm.mem_iff.mp hy) z (hperm.mem_iff.mp hz)
      obtain ⟨out, hout⟩ := ih hrest
      exact ⟨out, bind_eq_ok.mpr ⟨n, hn, hout⟩⟩

/-- Items that compare with one another without trouble can be sorted. -/
theorem sort_by_of_comparable (h : Comparable less items) :
    ∃ sorted, sortBy less items = .ok sorted := by
  obtain ⟨run, after, hrun⟩ := first_run_of_comparable h
  have hperm := first_run_perm hrun
  have hall : Comparable less (run ++ after) := fun x hx y hy =>
    h x (hperm.mem_iff.mp hx) y (hperm.mem_iff.mp hy)
  obtain ⟨sorted, hsorted⟩ := insert_all_of_comparable hall
  exact ⟨sorted, bind_eq_ok.mpr ⟨(run, after), hrun, hsorted⟩⟩

end Sorting

section Cutting

variable {size fuel : Nat} {xs : List α}

theorem chunks_within_cons (x : α) (rest : List α) :
    chunksWithin size (fuel + 1) (x :: rest) =
      (x :: rest).take size :: chunksWithin size fuel ((x :: rest).drop size) := rfl

theorem flatten_chunks_within (hsize : 0 < size) (hfuel : xs.length ≤ fuel) :
    (chunksWithin size fuel xs).flatten = xs := by
  induction fuel generalizing xs with
  | zero =>
      rw [List.eq_nil_of_length_eq_zero (Nat.le_zero.mp hfuel)]
      rfl
  | succ fuel ih =>
      cases xs with
      | nil => rfl
      | cons x rest =>
          have hshorter : ((x :: rest).drop size).length ≤ fuel := by
            rw [List.length_drop]
            omega
          rw [chunks_within_cons, List.flatten_cons, ih hshorter, List.take_append_drop]

/-- The pieces of a list are the list. -/
theorem flatten_chunks (hsize : 0 < size) (xs : List α) : (chunks size xs).flatten = xs :=
  flatten_chunks_within hsize (Nat.le_refl _)

/-- No piece is empty, and none is longer than the size. -/
theorem length_of_mem_chunks_within {piece : List α} (hsize : 0 < size)
    (h : piece ∈ chunksWithin size fuel xs) : 0 < piece.length ∧ piece.length ≤ size := by
  induction fuel generalizing xs with
  | zero => cases h
  | succ fuel ih =>
      cases xs with
      | nil => cases h
      | cons x rest =>
          rw [chunks_within_cons] at h
          rcases List.mem_cons.mp h with rfl | h
          · rw [List.length_take, List.length_cons]
            omega
          · exact ih h

/-- Every piece but the last one has the size. -/
theorem length_of_mem_drop_last_chunks_within {piece : List α}
    (h : piece ∈ (chunksWithin size fuel xs).dropLast) : piece.length = size := by
  induction fuel generalizing xs with
  | zero => cases h
  | succ fuel ih =>
      cases xs with
      | nil => cases h
      | cons x rest =>
          rw [chunks_within_cons] at h
          -- The first piece is before the last one only if something is left behind it.
          cases hlater : chunksWithin size fuel ((x :: rest).drop size) with
          | nil =>
              rw [hlater] at h
              cases h
          | cons next later =>
              rw [hlater, List.dropLast_cons_cons] at h
              rcases List.mem_cons.mp h with rfl | h
              · have hlonger : ¬(x :: rest).length ≤ size := by
                  intro hle
                  rw [List.drop_eq_nil_of_le hle] at hlater
                  cases fuel <;> cases hlater
                rw [List.length_take]
                omega
              · exact ih (hlater ▸ h)

/-- The runs of a list are the list. -/
theorem flatten_runs_by (key : α → String) (xs : List α) : (runsBy key xs).flatten = xs := by
  induction xs with
  | nil => rfl
  | cons x rest ih =>
      unfold runsBy
      split
      · next y ys later hruns =>
          rw [hruns] at ih
          split <;> simp [← ih]
      · rw [List.flatten_cons, ih]
        rfl

/-- Items gathered by a key are the items, whatever the order of the keys. -/
theorem flat_map_keys_perm {κ : Type} [DecidableEq κ] (key : α → κ) {keys : List κ}
    (hkeys : keys.Nodup) (hmem : ∀ x ∈ xs, key x ∈ keys) :
    (keys.flatMap fun k => xs.filter (key · == k)).Perm xs := by
  induction keys generalizing xs with
  | nil =>
      rw [List.eq_nil_iff_forall_not_mem.mpr fun x hx => nomatch hmem x hx]
      rfl
  | cons k keys ih =>
      obtain ⟨hnew, hkeys⟩ := List.nodup_cons.mp hkeys
      have hothers : ∀ x ∈ xs.filter (!key · == k), key x ∈ keys := by
        intro x hx
        obtain ⟨hx, hne⟩ := List.mem_filter.mp hx
        exact (List.mem_cons.mp (hmem x hx)).resolve_left (by simpa using hne)
      have hlater : (keys.flatMap fun k' => xs.filter (key · == k')) =
          keys.flatMap fun k' => (xs.filter (!key · == k)).filter (key · == k') := by
        refine List.flatMap_congr fun k' hk' => ?_
        rw [List.filter_filter]
        refine List.filter_congr fun x _ => ?_
        have hne : k' ≠ k := fun h => hnew (h ▸ hk')
        by_cases hx : key x = k' <;> simp [hx, hne]
      rw [List.flatMap_cons, hlater]
      exact ((ih hkeys hothers).append_left _).trans (List.filter_append_perm _ _)

end Cutting

end ComponentMigration
