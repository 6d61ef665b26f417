import Mathlib.Order.Lattice
import ComponentMigration.Proofs.Sorting

/-!
# Sorting is stable

Where the comparison goes by ranks, the sorted items rise in rank, and items of one rank keep the
order in which they came.  The run at the start has this if it is taken as it stands, and if it is
turned round, since then no two of its items share a rank (`first_run_stable`).  A later item is put
behind all items that do not exceed it (`place_splits`), so it comes last among those of its rank
(`insert_stable`).
-/

namespace ComponentMigration

variable {α : Type} {κ : Type} [LinearOrder κ] {rank : α → κ}

/-- A stable sort of items by rank: the ranks rise, and items of one rank keep their order. -/
structure IsStableSort (rank : α → κ) (items sorted : List α) : Prop where
  rising : sorted.Pairwise fun x y => rank x ≤ rank y
  kept : ∀ r, sorted.filter (rank · = r) = items.filter (rank · = r)

namespace Sorting

variable {less goesOn : α → α → Usable Bool} {items sorted rest run after out : List α} {x last : α}

/-- A comparison that goes by ranks, as far as some items are concerned. -/
def ComparesBy (less : α → α → Usable Bool) (rank : α → κ) (items : List α) : Prop :=
  ∀ x ∈ items, ∀ y ∈ items, less x y = .ok (decide (rank x < rank y))

omit [LinearOrder κ] in
theorem take_run_chain {R : α → α → Prop} (h : takeRun goesOn last items = .ok (run, after))
    (hgoes : ∀ x ∈ last :: items, ∀ y ∈ last :: items, goesOn x y = .ok true → R x y) :
    (last :: run).IsChain R := by
  induction items generalizing last run with
  | nil =>
      cases h
      exact .singleton last
  | cons x rest ih =>
      obtain ⟨goes, hfirst, h⟩ := bind_eq_ok.mp h
      cases goes with
      | false =>
          cases h
          exact .singleton last
      | true =>
          obtain ⟨⟨run', after'⟩, hrest, h⟩ := bind_eq_ok.mp h
          cases h
          refine .cons_cons (hgoes last List.mem_cons_self x (by simp) hfirst) (ih hrest ?_)
          intro y hy z hz
          exact hgoes y (List.mem_cons_of_mem _ hy) z (List.mem_cons_of_mem _ hz)

/-- Items that fall in rank all have different ones, so turning them round sorts them stably. -/
theorem stable_reverse (h : items.Pairwise fun x y => rank y < rank x) :
    IsStableSort rank items items.reverse := by
  refine ⟨List.pairwise_reverse.mpr (h.imp le_of_lt), fun r => ?_⟩
  induction items with
  | nil => rfl
  | cons x rest ih =>
      obtain ⟨hx, hrest⟩ := List.pairwise_cons.mp h
      rw [List.reverse_cons, List.filter_append, ih hrest]
      by_cases hr : rank x = r
      · have hnone : rest.filter (rank · = r) = [] := by
          refine List.filter_eq_nil_iff.mpr fun y hy hyr => ?_
          exact absurd (hx y hy) (by simp [of_decide_eq_true hyr, hr])
        simp [hr, hnone]
      · simp [hr]

/-- The run at the start is a stable sort of the items in it. -/
theorem first_run_stable (hless : ComparesBy less rank items)
    (h : firstRun less items = .ok (run, after)) :
    ∃ start, items = start ++ after ∧ IsStableSort rank start run := by
  match items with
  | [] =>
      cases h
      exact ⟨[], rfl, List.Pairwise.nil, fun _ => rfl⟩
  | [a] =>
      cases h
      exact ⟨[a], rfl, List.pairwise_singleton _ _, fun _ => rfl⟩
  | a :: b :: rest =>
      obtain ⟨falls, hfalls, h⟩ := bind_eq_ok.mp h
      rw [hless b (by simp) a (by simp)] at hfalls
      have hfirst : decide (rank b < rank a) = falls := Except.ok.inj hfalls
      cases falls with
      | true =>
          obtain ⟨⟨run', after'⟩, hrun, h⟩ := bind_eq_ok.mp h
          cases h
          refine ⟨a :: b :: run', by rw [← take_run_append hrun]; rfl, stable_reverse ?_⟩
          have hchain : (b :: run').IsChain fun x y => rank y < rank x := by
            refine take_run_chain hrun fun x hx y hy hgoes => ?_
            rw [hless y (List.mem_cons_of_mem a hy) x (List.mem_cons_of_mem a hx)] at hgoes
            exact of_decide_eq_true (Except.ok.inj hgoes)
          have : IsTrans α fun x y => rank y < rank x := ⟨fun _ _ _ hxy hyz => hyz.trans hxy⟩
          exact (List.IsChain.cons_cons (R := fun x y => rank y < rank x)
            (of_decide_eq_true hfirst) hchain).pairwise
      | false =>
          obtain ⟨⟨run', after'⟩, hrun, h⟩ := bind_eq_ok.mp h
          cases h
          refine ⟨a :: b :: run', by rw [← take_run_append hrun]; rfl, ?_, fun _ => rfl⟩
          have hchain : (b :: run').IsChain fun x y => rank x ≤ rank y := by
            refine take_run_chain hrun fun x hx y hy hgoes => ?_
            rw [hless y (List.mem_cons_of_mem a hy) x (List.mem_cons_of_mem a hx)] at hgoes
            exact not_lt.mp (by simpa using Except.ok.inj hgoes)
          have : IsTrans α fun x y => rank x ≤ rank y := ⟨fun _ _ _ hxy hyz => hxy.trans hyz⟩
          exact (List.IsChain.cons_cons (R := fun x y => rank x ≤ rank y)
            (not_lt.mp (of_decide_eq_false hfirst)) hchain).pairwise

/-- The place of an item parts the items that do not exceed it from those that do. -/
theorem place_splits (hsorted : sorted.Pairwise fun x y => rank x ≤ rank y)
    (hless : ∀ y ∈ sorted, less x y = .ok (decide (rank x < rank y))) {steps low high n : Nat}
    (h : place less x sorted steps low high = .ok n) (hsteps : high - low ≤ steps)
    (hlow : ∀ y ∈ sorted.take low, rank y ≤ rank x)
    (hhigh : ∀ y ∈ sorted.drop high, rank x < rank y) (hle : low ≤ high)
    (hlength : high ≤ sorted.length) :
    (∀ y ∈ sorted.take n, rank y ≤ rank x) ∧ ∀ y ∈ sorted.drop n, rank x < rank y := by
  induction steps generalizing low high with
  | zero =>
      cases h
      obtain rfl : n = high := by omega
      exact ⟨hlow, hhigh⟩
  | succ steps ih =>
      unfold place at h
      split at h
      · next hlt =>
          have hmiddle : (low + high) / 2 < sorted.length := by omega
          dsimp only at h
          rw [List.getElem?_eq_getElem hmiddle] at h
          dsimp only at h
          rw [hless _ (List.getElem_mem hmiddle)] at h
          change (if decide (rank x < rank sorted[(low + high) / 2]) then _ else _) = _ at h
          split at h
          · next hbefore =>
              -- Everything from the middle on is at least the one in the middle.
              refine ih h (by omega) hlow (fun y hy => ?_) (by omega) (by omega)
              have hbefore := of_decide_eq_true hbefore
              rw [List.drop_eq_getElem_cons hmiddle] at hy
              rcases List.mem_cons.mp hy with heq | hy
              · exact heq ▸ hbefore
              · have hfrom := hsorted.drop (i := (low + high) / 2)
                rw [List.drop_eq_getElem_cons hmiddle] at hfrom
                exact hbefore.trans_le (List.rel_of_pairwise_cons hfrom hy)
          · next hnot =>
              refine ih h (by omega) (fun y hy => ?_) hhigh (by omega) hlength
              have hat : rank sorted[(low + high) / 2] ≤ rank x :=
                not_lt.mp fun hlt => hnot (decide_eq_true hlt)
              rw [List.take_succ_eq_append_getElem hmiddle] at hy
              rcases List.mem_append.mp hy with hy | hy
              · have hupto := hsorted.take (i := (low + high) / 2 + 1)
                rw [List.take_succ_eq_append_getElem hmiddle, List.pairwise_append] at hupto
                exact (hupto.2.2 y hy _ (List.mem_singleton_self _)).trans hat
              · exact List.mem_singleton.mp hy ▸ hat
      · cases h
        obtain rfl : n = high := by omega
        exact ⟨hlow, hhigh⟩

/-- An item that is put behind those that do not exceed it, and before those that do, comes last among
those of its rank. -/
theorem insert_stable (h : IsStableSort rank items sorted) {n : Nat}
    (htake : ∀ y ∈ sorted.take n, rank y ≤ rank x) (hdrop : ∀ y ∈ sorted.drop n, rank x < rank y) :
    IsStableSort rank (items ++ [x]) (sorted.take n ++ x :: sorted.drop n) := by
  refine ⟨?_, fun r => ?_⟩
  · refine List.pairwise_append.mpr ⟨h.rising.take, List.pairwise_cons.mpr
      ⟨fun y hy => le_of_lt (hdrop y hy), h.rising.drop⟩, fun y hy z hz => ?_⟩
    rcases List.mem_cons.mp hz with heq | hz
    · exact heq ▸ htake y hy
    · exact (htake y hy).trans (le_of_lt (hdrop z hz))
  · have hkept := h.kept r
    rw [← List.take_append_drop n sorted, List.filter_append] at hkept
    rw [List.filter_append, List.filter_append, ← hkept]
    by_cases hx : rank x = r
    · have hnone : (sorted.drop n).filter (rank · = r) = [] := by
        refine List.filter_eq_nil_iff.mpr fun y hy hyr => ?_
        have hlt := hdrop y hy
        rw [hx, of_decide_eq_true hyr] at hlt
        exact lt_irrefl r hlt
      simp [hx, hnone]
    · simp [hx]

theorem insert_all_stable (h : IsStableSort rank items sorted)
    (hless : ComparesBy less rank (sorted ++ rest))
    (hinsert : insertAll less sorted rest = .ok out) : IsStableSort rank (items ++ rest) out := by
  induction rest generalizing items sorted with
  | nil =>
      cases hinsert
      rw [List.append_nil]
      exact h
  | cons x rest ih =>
      obtain ⟨n, hplace, hinsert⟩ := bind_eq_ok.mp hinsert
      have hx : ∀ y ∈ sorted, less x y = .ok (decide (rank x < rank y)) := fun y hy =>
        hless x (by simp) y (List.mem_append_left _ hy)
      obtain ⟨htake, hdrop⟩ := place_splits h.rising hx hplace (Nat.sub_le _ _) (by simp) (by simp)
        (Nat.zero_le _) (Nat.le_refl _)
      have hperm : (sorted.take n ++ x :: sorted.drop n ++ rest).Perm (sorted ++ x :: rest) :=
        ((insert_perm n x sorted).append_right rest).trans List.perm_middle.symm
      have hrest := ih (insert_stable h htake hdrop) (fun y hy z hz =>
        hless y (hperm.mem_iff.mp hy) z (hperm.mem_iff.mp hz)) hinsert
      rwa [List.append_assoc] at hrest

theorem ComparesBy.comparable (h : ComparesBy less rank items) : Comparable less items :=
  fun x hx y hy => ⟨_, h x hx y hy⟩

/-- Sorting by a comparison that goes by ranks is stable. -/
theorem sort_by_stable (hless : ComparesBy less rank items) :
    ∃ sorted, sortBy less items = .ok sorted ∧ IsStableSort rank items sorted := by
  obtain ⟨sorted, hsorted⟩ := sort_by_of_comparable hless.comparable
  refine ⟨sorted, hsorted, ?_⟩
  obtain ⟨⟨run, after⟩, hrun, hinsert⟩ := bind_eq_ok.mp hsorted
  obtain ⟨start, hstart, hstable⟩ := first_run_stable hless hrun
  have hperm := first_run_perm hrun
  rw [hstart]
  exact insert_all_stable hstable (fun x hx y hy =>
    hless x (hperm.mem_iff.mp hx) y (hperm.mem_iff.mp hy)) hinsert

end Sorting

end ComponentMigration
