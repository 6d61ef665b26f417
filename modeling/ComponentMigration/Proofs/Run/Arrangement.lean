import Mathlib
import ComponentMigration.Proofs.Run.Batch
import ComponentMigration.Proofs.Settings.Validation
import ComponentMigration.Proofs.Sorting.Stable
import ComponentMigration.Proofs.Text.Order

/-!
# Batches keep groups together and items in order

Sorted items are gathered into groups, each in one piece (`groups_apart`), and every group is cut into
batches of its own.  So a batch has items of one group only, the batches of a group follow each other,
and only the last of them may be short.  Gathering does not change the order within a group
(`filter_groups`), which therefore is that of the sorted items; and these are in the stable order of
their sort keys wherever the keys have an order (`sorted_stable`).
-/

namespace ComponentMigration

variable {α : Type}

section Runs

variable {key : α → String} {xs : List α}

theorem run_ne_nil {r : List α} (h : r ∈ runsBy key xs) : r ≠ [] := by
  induction xs generalizing r with
  | nil => cases h
  | cons x rest ih =>
      unfold runsBy at h
      split at h
      · next y ys later hruns =>
          rw [hruns] at ih
          split at h
          · rcases List.mem_cons.mp h with rfl | h
            · exact List.cons_ne_nil _ _
            · exact ih (List.mem_cons_of_mem _ h)
          · rcases List.mem_cons.mp h with rfl | h
            · exact List.cons_ne_nil _ _
            · exact ih h
      · rcases List.mem_cons.mp h with rfl | h
        · exact List.cons_ne_nil _ _
        · exact ih h

/-- The items of a run share their key. -/
theorem run_uniform {r : List α} (h : r ∈ runsBy key xs) : ∀ x ∈ r, ∀ y ∈ r, key x = key y := by
  induction xs generalizing r with
  | nil => cases h
  | cons x rest ih =>
      have hsingle : ∀ a ∈ [x], ∀ b ∈ [x], key a = key b := by simp
      unfold runsBy at h
      split at h
      · next y ys later hruns =>
          rw [hruns] at ih
          split at h
          · next hxy =>
              rcases List.mem_cons.mp h with rfl | h
              · -- The run that the item joins has the key of its first item.
                have hrun := ih List.mem_cons_self
                have hall : ∀ a ∈ x :: y :: ys, key a = key y :=
                  List.forall_mem_cons.mpr ⟨eq_of_beq hxy, fun a ha => hrun a ha y (by simp)⟩
                intro a ha b hb
                rw [hall a ha, hall b hb]
              · exact ih (List.mem_cons_of_mem _ h)
          · rcases List.mem_cons.mp h with rfl | h
            · exact hsingle
            · exact ih h
      · rcases List.mem_cons.mp h with rfl | h
        · exact hsingle
        · exact ih h

/-- Runs of items whose keys rise have rising keys, so no two of them share one. -/
theorem runs_apart (h : xs.Pairwise fun x y => key x ≤ key y) :
    (runsBy key xs).Pairwise fun r s => ∀ x ∈ r, ∀ y ∈ s, key x < key y := by
  induction xs with
  | nil => exact .nil
  | cons x rest ih =>
      obtain ⟨hx, hrest⟩ := List.pairwise_cons.mp h
      have hflatten := flatten_runs_by key rest
      have hapart := ih hrest
      unfold runsBy
      split
      · next y ys later hruns =>
          rw [hruns] at hapart hflatten
          obtain ⟨hfirst, hlater⟩ := List.pairwise_cons.mp hapart
          split
          · next hxy =>
              refine List.pairwise_cons.mpr ⟨fun s hs => List.forall_mem_cons.mpr
                ⟨fun z hz => ?_, hfirst s hs⟩, hlater⟩
              exact eq_of_beq hxy ▸ hfirst s hs y List.mem_cons_self z hz
          · next hxy =>
              have hbefore : key x < key y := by
                refine lt_of_le_of_ne (hx y ?_) (by simpa using hxy)
                rw [← hflatten]
                simp
              have hrun : ∀ z ∈ y :: ys, key z = key y := fun z hz =>
                run_uniform (hruns ▸ List.mem_cons_self) z hz y List.mem_cons_self
              refine List.pairwise_cons.mpr ⟨fun s hs a ha z hz => ?_, hapart⟩
              rw [List.mem_singleton.mp ha]
              rcases List.mem_cons.mp hs with rfl | hs
              · exact hrun z hz ▸ hbefore
              · exact hbefore.trans (hfirst s hs y List.mem_cons_self z hz)
      · refine List.pairwise_cons.mpr ⟨fun s hs a ha z hz => ?_, hapart⟩
        next hnone =>
          cases hruns : runsBy key rest with
          | nil =>
              rw [hruns] at hs
              cases hs
          | cons r later =>
              obtain ⟨y, ys, rfl⟩ := List.exists_cons_of_ne_nil
                (run_ne_nil (hruns ▸ List.mem_cons_self : r ∈ runsBy key rest))
              exact absurd hruns (hnone y ys later)

end Runs

/-- What batches are to items in order: each has at least one item and not more than allowed, and all
of its items are of one group; the batches of a group follow each other, and all but the last of them
are full; and the items of a group keep their order. -/
structure IsBatching (group : α → String) (size : Nat) (ordered : List α)
    (batches : List (List α)) : Prop where
  bounded : ∀ batch ∈ batches, batch ≠ [] ∧ batch.length ≤ size
  uniform : ∀ batch ∈ batches, ∀ x ∈ batch, ∀ y ∈ batch, group x = group y
  consecutive : ∀ g, ∃ before own after, batches = before ++ own ++ after ∧
    (∀ batch ∈ own, ∀ x ∈ batch, group x = g) ∧
    (∀ batch ∈ before ++ after, ∀ x ∈ batch, group x ≠ g) ∧
    ∀ batch ∈ own.dropLast, batch.length = size
  kept : ∀ g, batches.flatten.filter (group · = g) = ordered.filter (group · = g)

namespace Arrangement

variable {κ : Type} [LinearOrder κ] {rank : α → κ} {a : Arrangement α} {items sorted : List α}

/-- The name of the group of an item; without groups all items are of one. -/
def group (a : Arrangement α) (x : α) : String := (a.groupKey.map (· x)).getD ""

/-- Some items have sort keys that compare as the ranks of the items do.  Without a sort key all of
them have one rank. -/
def RanksBy (a : Arrangement α) (rank : α → κ) (items : List α) : Prop :=
  ∀ x ∈ items, ∀ y ∈ items,
    match a.sortKey with
    | none => rank x = rank y
    | some key => ∃ k l, key x = .ok k ∧ key y = .ok l ∧ k.isLess l = .ok (decide (rank x < rank y))

theorem exists_pairs {key : α → Usable Json} (hkey : ∀ x ∈ items, ∃ k, key x = .ok k) :
    ∃ pairs, (items.mapM fun x => do return (← key x, x)) = (.ok pairs : Usable (List (Json × α))) ∧
      ∀ p ∈ pairs, key p.2 = .ok p.1 := by
  induction items with
  | nil => exact ⟨[], rfl, List.forall_mem_nil _⟩
  | cons x rest ih =>
      obtain ⟨⟨k, hk⟩, hrest⟩ := List.forall_mem_cons.mp hkey
      obtain ⟨pairs, hpairs, hkeys⟩ := ih hrest
      refine ⟨(k, x) :: pairs, ?_, List.forall_mem_cons.mpr ⟨hk, hkeys⟩⟩
      rw [List.mapM_cons]
      exact bind_eq_ok.mpr ⟨(k, x), bind_eq_ok.mpr ⟨k, hk, rfl⟩,
        bind_eq_ok.mpr ⟨pairs, hpairs, rfl⟩⟩

/-- Items whose sort keys have an order are sorted, and stably so. -/
theorem sorted_stable (h : a.RanksBy rank items) :
    ∃ sorted, a.sorted items = .ok sorted ∧ IsStableSort rank items sorted := by
  unfold RanksBy at h
  unfold Arrangement.sorted
  cases hkey : a.sortKey with
  | none =>
      rw [hkey] at h
      refine ⟨items, rfl, List.pairwise_of_forall_mem_list fun x hx y hy => ?_, fun _ => rfl⟩
      exact le_of_eq (h x hx y hy)
  | some key =>
      rw [hkey] at h
      have hkeyed : ∀ x ∈ items, ∃ k, key x = .ok k := by
        intro x hx
        obtain ⟨k, -, hk, -⟩ := h x hx x hx
        exact ⟨k, hk⟩
      obtain ⟨pairs, hpairs, hkeys⟩ := exists_pairs hkeyed
      have hitems := map_snd_of_map_m hpairs
      have hless : Sorting.ComparesBy (fun p q : Json × α => p.1.isLess q.1) (rank ∘ Prod.snd)
          pairs := by
        intro p hp q hq
        obtain ⟨k, l, hk, hl, hkl⟩ := h p.2 (hitems ▸ List.mem_map_of_mem hp) q.2
          (hitems ▸ List.mem_map_of_mem hq)
        obtain rfl : k = p.1 := Except.ok.inj (hk.symm.trans (hkeys p hp))
        obtain rfl : l = q.1 := Except.ok.inj (hl.symm.trans (hkeys q hq))
        exact hkl
      obtain ⟨ordered, hordered, hstable⟩ := Sorting.sort_by_stable hless
      refine ⟨ordered.map Prod.snd, ?_, List.pairwise_map.mpr hstable.rising, fun r => ?_⟩
      · exact bind_eq_ok.mpr ⟨pairs, hpairs, bind_eq_ok.mpr ⟨ordered, hordered, rfl⟩⟩
      · have hkept := congrArg (List.map Prod.snd) (hstable.kept r)
        rw [← hitems, List.filter_map, List.filter_map]
        exact hkept

/-- The items of a group share its name. -/
theorem groups_uniform (a : Arrangement α) (sorted : List α) :
    ∀ g ∈ a.groups sorted, ∀ x ∈ g, ∀ y ∈ g, a.group x = a.group y := by
  unfold groups group
  cases a.groupKey with
  | none => exact fun _ _ _ _ _ _ => rfl
  | some key => exact fun g hg => run_uniform hg

/-- No two groups share a name. -/
theorem groups_apart (a : Arrangement α) (sorted : List α) :
    (a.groups sorted).Pairwise fun g h => ∀ x ∈ g, ∀ y ∈ h, a.group x ≠ a.group y := by
  unfold groups group
  cases a.groupKey with
  | none => exact List.pairwise_singleton _ _
  | some key =>
      exact (runs_apart (pairwise_merge_sort key sorted)).imp
        fun hlt x hx y hy => ne_of_lt (hlt x hx y hy)

/-- Gathering items into groups does not change the order within a group. -/
theorem filter_groups (a : Arrangement α) (sorted : List α) (g : String) :
    (a.groups sorted).flatten.filter (a.group · = g) = sorted.filter (a.group · = g) := by
  unfold groups group
  cases a.groupKey with
  | none => simp
  | some key =>
      change (runsBy key _).flatten.filter (key · = g) = sorted.filter (key · = g)
      rw [flatten_runs_by]
      set le : α → α → Bool := fun x y => Text.le (key x) (key y) with hle
      have hsame : (sorted.filter (key · = g)).Pairwise fun x y => le x y = true := by
        refine List.pairwise_of_forall_mem_list fun x hx y hy => ?_
        have hx := of_decide_eq_true (List.mem_filter.mp hx).2
        have hy := of_decide_eq_true (List.mem_filter.mp hy).2
        exact text_le_iff.mpr (le_of_eq (hx.trans hy.symm))
      have hsub : (sorted.filter (key · = g)).Sublist (sorted.mergeSort le) := by
        refine List.sublist_mergeSort (fun x y z hxy hyz => ?_) (fun x y => ?_) hsame
          List.filter_sublist
        · exact text_le_iff.mpr ((text_le_iff.mp hxy).trans (text_le_iff.mp hyz))
        · rw [Bool.or_eq_true, text_le_iff, text_le_iff]
          exact le_total _ _
      -- Neither of the two lists is longer than the other.
      have hfilter := hsub.filter (key · = g)
      rw [List.filter_filter] at hfilter
      simp only [Bool.and_self] at hfilter
      refine (hfilter.eq_of_length ?_).symm
      exact ((List.mergeSort_perm sorted le).filter _).length_eq.symm

/-- The items of a group are in one piece of the list of groups. -/
theorem exists_group (a : Arrangement α) (sorted : List α) (g : String) :
    ∃ before own after, a.groups sorted = before ++ own ++ after ∧ own.length ≤ 1 ∧
      (∀ part ∈ own, ∀ x ∈ part, a.group x = g) ∧
      ∀ part ∈ before ++ after, ∀ x ∈ part, a.group x ≠ g := by
  by_cases hnone : ∀ part ∈ a.groups sorted, ∀ x ∈ part, a.group x ≠ g
  · exact ⟨a.groups sorted, [], [], by simp, by simp, by simp, by simpa using hnone⟩
  · push Not at hnone
    obtain ⟨part, hpart, x, hx, hg⟩ := hnone
    obtain ⟨before, after, hsplit⟩ := List.append_of_mem hpart
    have hapart := a.groups_apart sorted
    rw [hsplit, List.pairwise_append] at hapart
    refine ⟨before, [part], after, by simpa using hsplit, by simp, ?_, ?_⟩
    · intro own hown y hy
      rw [List.mem_singleton.mp hown] at hy
      rw [a.groups_uniform sorted part hpart y hy x hx, hg]
    · intro other hother y hy
      rw [← hg]
      rcases List.mem_append.mp hother with hother | hother
      · exact hapart.2.2 other hother part List.mem_cons_self y hy x hx
      · exact (List.rel_of_pairwise_cons hapart.2.1 hother x hx y hy).symm

theorem flatten_flat_map_chunks {n : Nat} (hn : 1 ≤ n) (groups : List (List α)) :
    (groups.flatMap (chunks n)).flatten = groups.flatten := by
  induction groups with
  | nil => rfl
  | cons g groups ih =>
      rw [List.flatMap_cons, List.flatten_append, flatten_chunks hn, ih, List.flatten_cons]

theorem mem_of_mem_chunks {n : Nat} (hn : 1 ≤ n) {group batch : List α} (h : batch ∈ chunks n group)
    {x : α} (hx : x ∈ batch) : x ∈ group := by
  rw [← flatten_chunks hn group]
  exact List.mem_flatten_of_mem h hx

/-- Groups that are cut into pieces of one size are batches of the sorted items. -/
theorem is_batching_chunks {n : Nat} (hn : 1 ≤ n) (a : Arrangement α) (sorted : List α) :
    IsBatching a.group n sorted ((a.groups sorted).flatMap (chunks n)) := by
  refine ⟨fun batch hbatch => ?_, fun batch hbatch x hx y hy => ?_, fun g => ?_, fun g => ?_⟩
  · obtain ⟨group, -, hbatch⟩ := List.mem_flatMap.mp hbatch
    obtain ⟨hpos, hle⟩ := length_of_mem_chunks_within hn hbatch
    exact ⟨List.ne_nil_of_length_pos hpos, hle⟩
  · obtain ⟨group, hgroup, hbatch⟩ := List.mem_flatMap.mp hbatch
    exact a.groups_uniform sorted group hgroup x (mem_of_mem_chunks hn hbatch hx) y
      (mem_of_mem_chunks hn hbatch hy)
  · obtain ⟨before, own, after, hsplit, hone, hown, hothers⟩ := a.exists_group sorted g
    refine ⟨before.flatMap (chunks n), own.flatMap (chunks n), after.flatMap (chunks n),
      by rw [hsplit, List.flatMap_append, List.flatMap_append], ?_, ?_, ?_⟩
    · intro batch hbatch x hx
      obtain ⟨part, hpart, hbatch⟩ := List.mem_flatMap.mp hbatch
      exact hown part hpart x (mem_of_mem_chunks hn hbatch hx)
    · intro batch hbatch x hx
      rw [← List.flatMap_append] at hbatch
      obtain ⟨part, hpart, hbatch⟩ := List.mem_flatMap.mp hbatch
      exact hothers part hpart x (mem_of_mem_chunks hn hbatch hx)
    · match own, hone with
      | [], _ => exact fun batch hbatch => nomatch hbatch
      | [part], _ =>
          rw [List.flatMap_singleton]
          exact fun batch hbatch => length_of_mem_drop_last_chunks_within hbatch
  · rw [flatten_flat_map_chunks hn, a.filter_groups sorted g]

/-- Batches are as the groups of the sorted items come: each group is in one piece, and of its
batches all but the last are full.  Items that cannot be sorted fail in the same way as sorting them
does.  Where the sort keys have an order, sorting succeeds and is stable. -/
theorem batches_arrange (a : Arrangement α) {size : Quantity} {n : Nat}
    (hsize : size.int? = some (n : Int)) (hn : 1 ≤ n) (items : List α) :
    (∀ t, a.sorted items = .error t → a.batches size items = .error t) ∧
    (∀ sorted, a.sorted items = .ok sorted → ∃ batches, a.batches size items = .ok batches ∧
      batches.flatten.Perm items ∧ IsBatching a.group n sorted batches) ∧
    ∀ (κ : Type) [LinearOrder κ] (rank : α → κ), a.RanksBy rank items →
      ∃ sorted, a.sorted items = .ok sorted ∧ IsStableSort rank items sorted := by
  refine ⟨fun t ht => ?_, fun sorted hsorted => ?_, fun κ _ rank hrank => sorted_stable hrank⟩
  · unfold Arrangement.batches
    rw [ht]
    rfl
  · have hbatches := batches_eq hsorted hsize hn
    refine ⟨_, hbatches, flatten_batches_perm (fun m hm => ?_) hbatches, is_batching_chunks hn a sorted⟩
    obtain rfl : (n : Int) = m := Option.some.inj (hsize.symm.trans hm)
    omega

/-- Numbered items, sorted by number and grouped by name. -/
def numbered : Arrangement (Int × String) :=
  { sortKey := some fun p => .ok (.int p.1), groupKey := some Prod.snd }

theorem numbered_ranks (items : List (Int × String)) : numbered.RanksBy Prod.fst items := by
  intro x _ y _
  exact ⟨.int x.1, .int y.1, rfl, rfl, congrArg Except.ok (Quantity.is_less_whole rfl y.1)⟩

/-- Five items in two groups: the group of three needs two batches of at most two, and the items with
the number two stay in their order across groups. -/
theorem batches_arrange_numbered :
    (2 : Quantity).int? = some ((2 : Nat) : Int) ∧ 1 ≤ 2 ∧
    ∃ sorted, numbered.sorted [(2, "b"), (1, "a"), (2, "a"), (1, "b"), (0, "a")] = .ok sorted ∧
      IsStableSort Prod.fst [(2, "b"), (1, "a"), (2, "a"), (1, "b"), (0, "a")] sorted ∧
      numbered.batches 2 [(2, "b"), (1, "a"), (2, "a"), (1, "b"), (0, "a")] =
        .ok [[(0, "a"), (1, "a")], [(2, "a")], [(1, "b"), (2, "b")]] ∧
      IsBatching numbered.group 2 sorted [[(0, "a"), (1, "a")], [(2, "a")], [(1, "b"), (2, "b")]] := by
  have hsize : (2 : Quantity).int? = some ((2 : Nat) : Int) := rfl
  obtain ⟨-, hbatched, hordered⟩ := batches_arrange numbered hsize (by decide)
    [(2, "b"), (1, "a"), (2, "a"), (1, "b"), (0, "a")]
  obtain ⟨sorted, hsorted, hstable⟩ := hordered Int Prod.fst (numbered_ranks _)
  obtain ⟨batches, hbatches, -, hall⟩ := hbatched sorted hsorted
  have hvalue : numbered.batches 2 [(2, "b"), (1, "a"), (2, "a"), (1, "b"), (0, "a")] =
      .ok [[(0, "a"), (1, "a")], [(2, "a")], [(1, "b"), (2, "b")]] := by cbv
  obtain rfl := Except.ok.inj (hbatches.symm.trans hvalue)
  exact ⟨hsize, by decide, sorted, hsorted, hstable, hvalue, hall⟩

end Arrangement

end ComponentMigration
