import ComponentMigration.Path
import ComponentMigration.Proofs.Text.Order

/-!
# Paths below one another

The order of paths is total and transitive, so sorted paths come in their order
(`pairwise_sorted_paths`).  A path stands below another one exactly if it extends it
(`below_eq_some`).
-/

namespace ComponentMigration

theorem parts_le_cons_iff {x y : String} {xs ys : List String} :
    Path.partsLe (x :: xs) (y :: ys) = true ↔ x < y ∨ x = y ∧ Path.partsLe xs ys = true := by
  rw [Path.partsLe]
  by_cases hxy : x = y
  · simp [hxy]
  · simp [hxy, text_le_iff, lt_iff_le_and_ne]

theorem parts_le_trans {xs ys zs : List String} (hxy : Path.partsLe xs ys = true)
    (hyz : Path.partsLe ys zs = true) : Path.partsLe xs zs = true := by
  induction xs generalizing ys zs with
  | nil => rfl
  | cons x xs ih =>
      cases ys with
      | nil => cases hxy
      | cons y ys =>
          cases zs with
          | nil => cases hyz
          | cons z zs =>
              rw [parts_le_cons_iff] at hxy hyz ⊢
              rcases hxy with hxy | ⟨rfl, hxy⟩
              · exact .inl (hyz.elim hxy.trans fun h => h.1 ▸ hxy)
              · exact hyz.imp id fun h => ⟨h.1, ih hxy h.2⟩

theorem parts_le_total (xs ys : List String) :
    Path.partsLe xs ys = true ∨ Path.partsLe ys xs = true := by
  induction xs generalizing ys with
  | nil => exact .inl rfl
  | cons x xs ih =>
      cases ys with
      | nil => exact .inr rfl
      | cons y ys =>
          rw [parts_le_cons_iff, parts_le_cons_iff]
          rcases lt_trichotomy x y with hlt | rfl | hgt
          · exact .inl (.inl hlt)
          · exact (ih ys).imp (fun h => .inr ⟨rfl, h⟩) fun h => .inr ⟨rfl, h⟩
          · exact .inr (.inl hgt)

theorem parts_le_antisymm {xs ys : List String} (hxy : Path.partsLe xs ys = true)
    (hyx : Path.partsLe ys xs = true) : xs = ys := by
  induction xs generalizing ys with
  | nil =>
      cases ys with
      | nil => rfl
      | cons y ys => cases hyx
  | cons x xs ih =>
      cases ys with
      | nil => cases hxy
      | cons y ys =>
          rw [parts_le_cons_iff] at hxy hyx
          rcases hxy with hlt | ⟨rfl, hxy⟩
          · rcases hyx with hgt | ⟨rfl, -⟩
            · exact absurd hlt hgt.asymm
            · exact absurd hlt (lt_irrefl _)
          · rcases hyx with hlt | ⟨-, hyx⟩
            · exact absurd hlt (lt_irrefl _)
            · rw [ih hxy hyx]

/-- What is sorted by paths comes in their order. -/
theorem pairwise_sorted_paths (paths : List Path) :
    (paths.mergeSort Path.le).Pairwise fun p q => Path.le p q = true := by
  have htrans : ∀ p q r : Path, Path.le p q = true → Path.le q r = true → Path.le p r = true :=
    fun _ _ _ => parts_le_trans
  have htotal : ∀ p q : Path, (Path.le p q || Path.le q p) = true := by
    intro p q
    rw [Bool.or_eq_true]
    exact parts_le_total p.parts q.parts
  exact List.pairwise_mergeSort htrans htotal paths

theorem intercalate_concat {texts : List String} (h : texts ≠ []) (s x : String) :
    String.intercalate s (texts ++ [x]) = String.intercalate s texts ++ (s ++ x) := by
  rw [String.intercalate_append_of_ne_nil h (List.cons_ne_nil x []), String.intercalate_singleton,
    String.append_assoc]

/-- The text of a path with one more component. -/
theorem Path.to_text_concat {root c : String} {parts : List String} (hparts : parts ≠ []) :
    (⟨root, parts ++ [c]⟩ : Path).toText = (⟨root, parts⟩ : Path).toText ++ ("/" ++ c) := by
  simp [Path.toText, hparts, intercalate_concat hparts, String.append_assoc]

variable {base p rel : Path}

theorem join_relative (base : Path) (rest : List String) :
    base.join ⟨"", rest⟩ = ⟨base.root, base.parts ++ rest⟩ := by
  simp [Path.join, Path.isAbsolute]

/-- A path stands below another one exactly if it extends it. -/
theorem below_eq_some :
    Path.below? base p = some rel ↔ ∃ rest, rel = ⟨"", rest⟩ ∧ p = base.join ⟨"", rest⟩ := by
  unfold Path.below?
  constructor
  · intro h
    split at h
    · next hbelow =>
        rw [Bool.and_eq_true, beq_iff_eq, List.isPrefixOf_iff_prefix] at hbelow
        obtain ⟨hroot, rest, hparts⟩ := hbelow
        refine ⟨rest, ?_, ?_⟩
        · rw [← Option.some.inj h, ← hparts, List.drop_left]
        · rw [join_relative, hroot, hparts]
    · cases h
  · rintro ⟨rest, rfl, rfl⟩
    rw [join_relative, if_pos, List.drop_left]
    rw [Bool.and_eq_true, List.isPrefixOf_iff_prefix]
    exact ⟨beq_self_eq_true _, List.prefix_append _ _⟩

theorem join_relative_inj {rest rest' : List String} :
    base.join ⟨"", rest⟩ = base.join ⟨"", rest'⟩ ↔ rest = rest' := by
  rw [join_relative, join_relative, Path.mk.injEq, and_iff_right rfl, List.append_cancel_left_eq]

/-- The components below a path stay below it wherever it is seen from. -/
theorem Path.join_join_parts (cwd p : Path) (rest : List String) :
    (cwd.join (p.join ⟨"", rest⟩)).parts = (cwd.join p).parts ++ rest := by
  unfold Path.join Path.isAbsolute
  by_cases h : p.root.isEmpty <;> simp [h]

end ComponentMigration
