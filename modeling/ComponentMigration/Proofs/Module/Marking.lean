import Mathlib.Data.List.Forall2
import ComponentMigration.Module.Draft

/-!
# Marking until nothing changes

Both selections of a draft mark items of a list in rounds and stop when a round marks nothing new.
Marks only grow (`MarksGrow`), so a round after which there are as many marks as before has changed
nothing, and one round more than there are items is always enough.

Declarations of the file are kept when they are needed: the marked ones are exactly those that
declare a needed name (`mem_kept_declarations`), where the kept declarations' own references are
needed too (`IsNeeded`).  The passes that find them come to an end (`keep_loop_start`).
-/

namespace ComponentMigration

section Marks

variable {α : Type} {m m' m'' : List (α × Bool)}

/-- The number of marked items. -/
def markCount (m : List (α × Bool)) : Nat := (m.filter (·.2)).length

/-- The same items, and what was marked is still marked. -/
def MarksGrow (m m' : List (α × Bool)) : Prop :=
  List.Forall₂ (fun x y => y.1 = x.1 ∧ (x.2 → y.2)) m m'

namespace MarksGrow

theorem refl (m : List (α × Bool)) : MarksGrow m m :=
  List.forall₂_same.mpr fun _ _ => ⟨rfl, id⟩

theorem trans (h : MarksGrow m m') (h' : MarksGrow m' m'') : MarksGrow m m'' := by
  induction h generalizing m'' with
  | nil => exact h'
  | cons hx _ ih =>
      cases h' with
      | cons hy hrest => exact .cons ⟨hy.1.trans hx.1, fun h => hy.2 (hx.2 h)⟩ (ih hrest)

theorem items (h : MarksGrow m m') : m'.map Prod.fst = m.map Prod.fst := by
  induction h with
  | nil => rfl
  | cons hx _ ih => rw [List.map_cons, List.map_cons, hx.1, ih]

theorem count_le (h : MarksGrow m m') : markCount m ≤ markCount m' := by
  induction h with
  | nil => exact Nat.le_refl _
  | @cons x y _ _ hx _ ih =>
      unfold markCount at ih ⊢
      rw [List.filter_cons, List.filter_cons]
      by_cases hmarked : x.2
      · rw [if_pos hmarked, if_pos (hx.2 hmarked)]
        exact Nat.succ_le_succ ih
      · rw [if_neg hmarked]
        split
        · exact Nat.le_succ_of_le ih
        · exact ih

/-- A round that adds no mark changes nothing. -/
theorem eq_of_count (h : MarksGrow m m') (hcount : markCount m' = markCount m) : m' = m := by
  induction h with
  | nil => rfl
  | @cons x y xs ys hx hrest ih =>
      have hle := count_le hrest
      obtain ⟨a, marked⟩ := x
      obtain ⟨b, marked'⟩ := y
      obtain ⟨rfl, hmark⟩ := hx
      unfold markCount at hcount hle ih
      cases marked with
      | true =>
          obtain rfl : marked' = true := hmark rfl
          rw [List.filter_cons_of_pos rfl, List.filter_cons_of_pos rfl, List.length_cons,
            List.length_cons] at hcount
          rw [ih (Nat.succ.inj hcount)]
      | false =>
          cases marked' with
          | true =>
              rw [List.filter_cons_of_pos rfl, List.filter_cons_of_neg Bool.false_ne_true,
                List.length_cons] at hcount
              omega
          | false =>
              rw [List.filter_cons_of_neg Bool.false_ne_true,
                List.filter_cons_of_neg Bool.false_ne_true] at hcount
              rw [ih hcount]

end MarksGrow

theorem mark_count_le (m : List (α × Bool)) : markCount m ≤ m.length := List.length_filter_le _ _

theorem MarksGrow.length_eq (h : MarksGrow m m') : m'.length = m.length := by
  rw [← List.length_map Prod.fst, h.items, List.length_map]

/-- A round that changes the marks adds one. -/
theorem MarksGrow.count_lt (h : MarksGrow m m') (hcount : markCount m' ≠ markCount m) :
    markCount m < markCount m' :=
  Nat.lt_of_le_of_ne h.count_le (Ne.symm hcount)

end Marks

/-- The names that are needed when some are: what a declaration of a needed name refers to is needed
as well. -/
inductive IsNeeded (candidates : List KeepCandidate) (start : List String) : String → Prop
  | start {n : String} (h : n ∈ start) : IsNeeded candidates start n
  | through {c : KeepCandidate} {m n : String} (hc : c ∈ candidates) (hm : m ∈ c.names)
      (hneeded : IsNeeded candidates start m) (hn : n ∈ references c.decl) :
      IsNeeded candidates start n

section Keeping

variable {candidates : List KeepCandidate} {start needed : List String}
  {marked : List (KeepCandidate × Bool)} {c : KeepCandidate} {n : String}

theorem IsNeeded.mono {more : List String} (h : start ⊆ more) (hn : IsNeeded candidates start n) :
    IsNeeded candidates more n := by
  induction hn with
  | start hn => exact .start (h hn)
  | through hc hm _ hn ih => exact .through hc hm ih hn

theorem keep_pass_cons (c : KeepCandidate) (kept : Bool) (rest : List (KeepCandidate × Bool))
    (needed : List String) :
    keepPass ((c, kept) :: rest) needed =
      if !kept && c.names.any needed.contains then
        ((c, true) :: (keepPass rest (needed ++ references c.decl)).1,
          (keepPass rest (needed ++ references c.decl)).2)
      else ((c, kept) :: (keepPass rest needed).1, (keepPass rest needed).2) := rfl

theorem keep_pass_grows (marked : List (KeepCandidate × Bool)) (needed : List String) :
    MarksGrow marked (keepPass marked needed).1 := by
  induction marked generalizing needed with
  | nil => exact .nil
  | cons x marked ih =>
      obtain ⟨c, kept⟩ := x
      rw [keep_pass_cons]
      split
      · exact .cons ⟨rfl, fun _ => rfl⟩ (ih _)
      · exact .cons ⟨rfl, id⟩ (ih _)

theorem subset_keep_pass (marked : List (KeepCandidate × Bool)) (needed : List String) :
    needed ⊆ (keepPass marked needed).2 := by
  induction marked generalizing needed with
  | nil => exact List.Subset.refl _
  | cons x marked ih =>
      obtain ⟨c, kept⟩ := x
      rw [keep_pass_cons]
      split
      · exact List.Subset.trans (List.subset_append_left _ _) (ih _)
      · exact ih _

/-- What marked declarations refer to is needed after a pass if it was before. -/
theorem keep_pass_closed (h : ∀ c, (c, true) ∈ marked → references c.decl ⊆ needed) :
    ∀ c, (c, true) ∈ (keepPass marked needed).1 →
      references c.decl ⊆ (keepPass marked needed).2 := by
  induction marked generalizing needed with
  | nil => exact fun _ => nofun
  | cons x marked ih =>
      obtain ⟨d, kept⟩ := x
      intro c hc
      rw [keep_pass_cons] at hc ⊢
      split at hc
      · next hnew =>
          rw [if_pos hnew]
          have hlater := subset_keep_pass marked (needed ++ references d.decl)
          rcases List.mem_cons.mp hc with heq | hc
          · obtain rfl : c = d := congrArg Prod.fst heq
            exact List.Subset.trans (List.subset_append_right _ _) hlater
          · refine ih (fun c hc => ?_) c hc
            exact List.Subset.trans (h c (List.mem_cons_of_mem _ hc)) (List.subset_append_left _ _)
      · next hold =>
          rw [if_neg hold]
          rcases List.mem_cons.mp hc with heq | hc
          · exact List.Subset.trans (h c (heq ▸ List.mem_cons_self)) (subset_keep_pass marked needed)
          · exact ih (fun c hc => h c (List.mem_cons_of_mem _ hc)) c hc

/-- A pass marks and needs only what is needed. -/
theorem keep_pass_sound (hitems : ∀ x ∈ marked, x.1 ∈ candidates)
    (hneeded : ∀ n ∈ needed, IsNeeded candidates start n)
    (hmarked : ∀ c, (c, true) ∈ marked → ∃ n ∈ c.names, IsNeeded candidates start n) :
    (∀ n ∈ (keepPass marked needed).2, IsNeeded candidates start n) ∧
      ∀ c, (c, true) ∈ (keepPass marked needed).1 →
        ∃ n ∈ c.names, IsNeeded candidates start n := by
  induction marked generalizing needed with
  | nil => exact ⟨hneeded, fun _ => nofun⟩
  | cons x marked ih =>
      obtain ⟨d, kept⟩ := x
      obtain ⟨hd, hitems⟩ := List.forall_mem_cons.mp hitems
      have hrest := fun c hc => hmarked c (List.mem_cons_of_mem _ hc)
      rw [keep_pass_cons]
      split
      · next hnew =>
          obtain ⟨n, hn, hmem⟩ := List.any_eq_true.mp (Bool.and_eq_true_iff.mp hnew).2
          have hname := hneeded n (List.contains_iff_mem.mp hmem)
          have hadded : ∀ r ∈ needed ++ references d.decl, IsNeeded candidates start r :=
            List.forall_mem_append.mpr ⟨hneeded, fun r hr => .through hd hn hname hr⟩
          obtain ⟨hlater, hkept⟩ := ih hitems hadded hrest
          refine ⟨hlater, fun c hc => ?_⟩
          rcases List.mem_cons.mp hc with heq | hc
          · obtain rfl : c = d := congrArg Prod.fst heq
            exact ⟨n, hn, hname⟩
          · exact hkept c hc
      · obtain ⟨hlater, hkept⟩ := ih hitems hneeded hrest
        refine ⟨hlater, fun c hc => ?_⟩
        rcases List.mem_cons.mp hc with heq | hc
        · exact hmarked c (heq ▸ List.mem_cons_self)
        · exact hkept c hc

/-- After a pass that changes nothing, no unmarked declaration has a needed name. -/
theorem keep_pass_fixed (h : (keepPass marked needed).1 = marked) :
    ∀ c, (c, false) ∈ marked → ∀ n ∈ c.names, n ∉ needed := by
  induction marked generalizing needed with
  | nil => exact fun _ => nofun
  | cons x marked ih =>
      obtain ⟨d, kept⟩ := x
      rw [keep_pass_cons] at h
      split at h
      · next hnew =>
          obtain rfl : true = kept := congrArg Prod.snd (List.cons.inj h).1
          cases hnew
      · next hold =>
          intro c hc n hn hmem
          rcases List.mem_cons.mp hc with heq | hc
          · cases heq
            refine hold (Bool.and_eq_true_iff.mpr ⟨rfl, ?_⟩)
            exact List.any_eq_true.mpr ⟨n, hn, List.contains_iff_mem.mpr hmem⟩
          · exact ih (List.cons.inj h).2 c hc n hn hmem

/-- What holds of marks and needed names between the passes. -/
structure KeepInvariant (candidates : List KeepCandidate) (start : List String)
    (marked : List (KeepCandidate × Bool)) (needed : List String) : Prop where
  items : marked.map Prod.fst = candidates
  subset : start ⊆ needed
  closed : ∀ c, (c, true) ∈ marked → references c.decl ⊆ needed
  sound : ∀ n ∈ needed, IsNeeded candidates start n
  named : ∀ c, (c, true) ∈ marked → ∃ n ∈ c.names, IsNeeded candidates start n

theorem KeepInvariant.pass (h : KeepInvariant candidates start marked needed) :
    KeepInvariant candidates start (keepPass marked needed).1 (keepPass marked needed).2 := by
  have hitems : ∀ x ∈ marked, x.1 ∈ candidates := fun x hx =>
    h.items ▸ List.mem_map_of_mem hx
  obtain ⟨hneeded, hmarked⟩ := keep_pass_sound hitems h.sound h.named
  exact
    { items := (keep_pass_grows marked needed).items.trans h.items
      subset := List.Subset.trans h.subset (subset_keep_pass marked needed)
      closed := keep_pass_closed h.closed
      sound := hneeded
      named := hmarked }

theorem keep_invariant_start (candidates : List KeepCandidate) (start : List String) :
    KeepInvariant candidates start (candidates.map (·, false)) start where
  items := by rw [List.map_map]; exact List.map_id _
  subset := List.Subset.refl _
  closed c hc := by simp at hc
  sound _ hn := .start hn
  named c hc := by simp at hc

/-- The passes one after another, with their number and the marks in the end.  After a pass that
changes the marks there is another one. -/
inductive KeepLoop :
    List (KeepCandidate × Bool) → List String → Nat → List (KeepCandidate × Bool) → Prop
  | stop {marked : List (KeepCandidate × Bool)} {needed : List String}
      (h : (keepPass marked needed).1 = marked) : KeepLoop marked needed 1 marked
  | again {marked result : List (KeepCandidate × Bool)} {needed : List String} {passes : Nat}
      (h : (keepPass marked needed).1 ≠ marked)
      (hrest : KeepLoop (keepPass marked needed).1 (keepPass marked needed).2 passes result) :
      KeepLoop marked needed (passes + 1) result

/-- Each pass but the last marks a declaration, so the passes come to an end. -/
theorem keep_all_loop {fuel : Nat} (hfuel : marked.length < fuel + markCount marked) :
    ∃ passes, KeepLoop marked needed passes (keepAll fuel marked needed) ∧
      passes + markCount marked ≤ marked.length + 1 := by
  induction fuel generalizing marked needed with
  | zero =>
      have := mark_count_le marked
      omega
  | succ fuel ih =>
      have hgrows := keep_pass_grows marked needed
      unfold keepAll
      dsimp only
      split
      · next hcount =>
          have hbound := mark_count_le marked
          exact ⟨1, .stop (hgrows.eq_of_count (beq_iff_eq.mp hcount)), by omega⟩
      · next hcount =>
          have hne : markCount (keepPass marked needed).1 ≠ markCount marked := fun heq =>
            hcount (beq_iff_eq.mpr heq)
          have hlt := hgrows.count_lt hne
          have hlength := hgrows.length_eq
          have hfuel : (keepPass marked needed).1.length <
              fuel + markCount (keepPass marked needed).1 := by omega
          obtain ⟨passes, hrest, hpasses⟩ := @ih (keepPass marked needed).2 _ hfuel
          exact ⟨passes + 1, .again (fun heq => hne (congrArg markCount heq)) hrest, by omega⟩

/-- The loop over all candidates takes at most one pass more than there are candidates. -/
theorem keep_loop_start (candidates : List KeepCandidate) (start : List String) :
    ∃ passes, KeepLoop (candidates.map (·, false)) start passes
        (keepAll (candidates.length + 1) (candidates.map (·, false)) start) ∧
      passes ≤ candidates.length + 1 := by
  have hfuel : (candidates.map (·, false)).length <
      candidates.length + 1 + markCount (candidates.map (·, false)) := by
    rw [List.length_map]
    omega
  obtain ⟨passes, hloop, hpasses⟩ := @keep_all_loop start _ _ hfuel
  rw [List.length_map] at hpasses
  exact ⟨passes, hloop, by omega⟩

/-- The passes end with marks to which no pass would add. -/
theorem KeepLoop.spec {result : List (KeepCandidate × Bool)} {passes : Nat}
    (hloop : KeepLoop marked needed passes result)
    (h : KeepInvariant candidates start marked needed) :
    ∃ needed', KeepInvariant candidates start result needed' ∧
      ∀ c, (c, false) ∈ result → ∀ n ∈ c.names, n ∉ needed' := by
  induction hloop with
  | stop hfixed => exact ⟨_, h, keep_pass_fixed hfixed⟩
  | again _ _ ih => exact ih h.pass

/-- In the end the declarations of needed names are marked and no others. -/
theorem KeepLoop.mark_iff {result : List (KeepCandidate × Bool)} {passes : Nat}
    (hloop : KeepLoop (candidates.map (·, false)) start passes result) :
    result.map Prod.fst = candidates ∧
      ∀ x ∈ result, x.2 = true ↔ ∃ n ∈ x.1.names, IsNeeded candidates start n := by
  obtain ⟨needed, hkept, hrest⟩ := hloop.spec (keep_invariant_start candidates start)
  have hmark : ∀ x ∈ result, (∃ n ∈ x.1.names, n ∈ needed) → x.2 = true := by
    rintro ⟨c, kept⟩ hx ⟨n, hn, hneeded⟩
    cases kept with
    | true => rfl
    | false => exact absurd hneeded (hrest c hx n hn)
  -- Along the chain of declarations by which a name is needed, each one is marked in the end, and
  -- what a marked one refers to is among the needed names.
  have hcomplete : ∀ n, IsNeeded candidates start n → n ∈ needed := by
    intro n hn
    induction hn with
    | start hn => exact hkept.subset hn
    | @through c m n hc hm _ hn ih =>
        obtain ⟨⟨c, kept⟩, hx, rfl⟩ := List.mem_map.mp (hkept.items ▸ hc)
        obtain rfl : kept = true := hmark _ hx ⟨m, hm, ih⟩
        exact hkept.closed c hx hn
  refine ⟨hkept.items, fun ⟨c, kept⟩ hx => ⟨fun h => ?_, fun ⟨n, hn, hneeded⟩ => ?_⟩⟩
  · obtain rfl : kept = true := h
    exact hkept.named c hx
  · exact hmark _ hx ⟨n, hn, hcomplete n hneeded⟩

/-- What is kept are the declarations of needed names, each in its place. -/
theorem kept_declarations_eq (candidates : List KeepCandidate) (start : List String) :
    ∃ keeps : KeepCandidate → Bool, keptDeclarations candidates start = candidates.filter keeps ∧
      ∀ c, keeps c = true ↔ ∃ n ∈ c.names, IsNeeded candidates start n := by
  classical
  obtain ⟨passes, hloop, -⟩ := keep_loop_start candidates start
  obtain ⟨hitems, hmarks⟩ := hloop.mark_iff
  let keeps (c : KeepCandidate) : Bool := decide (∃ n ∈ c.names, IsNeeded candidates start n)
  refine ⟨keeps, ?_, fun c => decide_eq_true_iff⟩
  unfold keptDeclarations
  generalize keepAll (candidates.length + 1) (candidates.map (·, false)) start = marked
    at hitems hmarks
  calc (marked.filter (·.2)).map (·.1)
      = (marked.filter (keeps ∘ Prod.fst)).map Prod.fst := by
        refine congrArg (List.map Prod.fst) (List.filter_congr fun x hx => ?_)
        rw [Bool.eq_iff_iff, hmarks x hx, Function.comp_apply, decide_eq_true_iff]
    _ = (marked.map Prod.fst).filter keeps := List.filter_map.symm
    _ = candidates.filter keeps := by rw [hitems]

/-- Exactly the declarations of needed names are kept. -/
theorem mem_kept_declarations :
    c ∈ keptDeclarations candidates start ↔
      c ∈ candidates ∧ ∃ n ∈ c.names, IsNeeded candidates start n := by
  obtain ⟨keeps, heq, hkeeps⟩ := kept_declarations_eq candidates start
  rw [heq, List.mem_filter, hkeeps]

/-- Each declaration is kept at most once, in its place. -/
theorem kept_declarations_sublist (candidates : List KeepCandidate) (start : List String) :
    (keptDeclarations candidates start).Sublist candidates := by
  obtain ⟨keeps, heq, -⟩ := kept_declarations_eq candidates start
  exact heq ▸ List.filter_sublist

end Keeping

end ComponentMigration
