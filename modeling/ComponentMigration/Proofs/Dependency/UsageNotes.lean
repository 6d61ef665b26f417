import ComponentMigration.Dependency.Usage
import ComponentMigration.Proofs.Source.Visit

/-!
# What a search for uses notes

A search goes through a tree and records uses of the given names only, each with the sort of use that
the construct is (`usage_notes_names`).  So there is something to tell of a search exactly if one of
the names has a use.
-/

namespace ComponentMigration

/-- The sorts of use that are recorded with a place. -/
def usageSorts : List String :=
  ["call", "member-access", "type-reference", "jsx-element", "prop-passing"]

namespace UsageNotes

variable {bindings : List String} {s : UsageNotes} {name : String}

/-- Notes that record uses of the given names only, each with its sort. -/
def Names (bindings : List String) (s : UsageNotes) : Prop :=
  ∀ use ∈ s.usages, use.1 ∈ bindings ∧ use.2.usage ∈ usageSorts

theorem Names.record (h : s.Names bindings) (hname : bindings.contains name) (n : Node)
    {usage : String} (hsort : usage ∈ usageSorts) : (s.record name n usage).Names bindings := by
  intro use huse
  rcases List.mem_append.mp huse with hold | hnew
  · exact h use hold
  · obtain rfl := List.mem_singleton.mp hnew
    exact ⟨List.contains_iff_mem.mp hname, hsort⟩

theorem Names.add_kind (h : s.Names bindings) (name kind : String) :
    (s.addKind name kind).Names bindings := h

theorem Names.foldl {step : UsageNotes → Node → UsageNotes}
    (hstep : ∀ s n, s.Names bindings → (step s n).Names bindings) (nodes : List Node)
    (h : s.Names bindings) : (nodes.foldl step s).Names bindings := by
  induction nodes generalizing s with
  | nil => exact h
  | cons n nodes ih => exact ih (hstep s n h)

theorem Names.render_attributes (h : s.Names bindings) (name : String) (n : Node) :
    (renderAttributes name n s).Names bindings := by
  refine h.foldl (fun s attr hs => ?_) _
  dsimp only
  split
  · split
    · exact hs.add_kind _ _
    · exact hs
  · exact hs

theorem Names.call (h : s.Names bindings) (n : Node) : (s.call bindings n).Names bindings := by
  unfold UsageNotes.call
  split
  · exact h
  · next fn _ =>
      -- A callee is noted first, and the contexts that the call asks for come after it.
      extract_lets called noted
      have hnoted : noted.Names bindings := by
        simp only [noted]
        split
        · next hnamed =>
            have hcalled : called.Names bindings :=
              h.record (Bool.and_eq_true_iff.mp hnamed).2 n (by decide)
            split
            · exact hcalled.add_kind _ _
            · exact hcalled
        · exact h
      split
      · refine hnoted.foldl (fun s arg hs => ?_) _
        split
        · next hnamed =>
            exact (hs.record (Bool.and_eq_true_iff.mp hnamed).2 arg (by decide)).add_kind _ _
        · exact hs
      · exact hnoted

theorem Names.member (h : s.Names bindings) (n : Node) : (s.member bindings n).Names bindings := by
  unfold UsageNotes.member
  split
  · split
    · next hnamed => exact h.record (Bool.and_eq_true_iff.mp hnamed).2 n (by decide)
    · exact h
  · exact h

theorem Names.element (h : s.Names bindings) (n : Node) :
    (s.element bindings n).Names bindings := by
  unfold UsageNotes.element
  split
  · exact h
  · next opening _ =>
      dsimp only
      split
      · next hnamed =>
          refine Names.render_attributes (Names.foldl (fun s c hs => ?_) _ ?_) _ _
          · split
            · exact hs.add_kind _ _
            · exact hs
          · exact h.record hnamed opening (by decide)
      · exact h

theorem Names.type_name (h : s.Names bindings) (n : Node) :
    (s.typeName bindings n).Names bindings := by
  unfold UsageNotes.typeName
  split
  · next hnamed => exact h.record hnamed n (by decide)
  · exact h

theorem Names.empty_element (h : s.Names bindings) (n : Node) :
    (s.emptyElement bindings n).Names bindings := by
  unfold UsageNotes.emptyElement
  dsimp only
  split
  · next hnamed => exact (h.record hnamed n (by decide)).render_attributes _ _
  · exact h

theorem Names.attribute_names (h : s.Names bindings) (n : Node) :
    (s.attributeNames bindings n).Names bindings := by
  refine h.foldl (fun s ident hs => ?_) _
  split
  · next hnamed => exact hs.record hnamed ident (by decide)
  · exact hs

theorem mem_usages_of {place : UsageContext} :
    place ∈ s.usagesOf name ↔ (name, place) ∈ s.usages := by
  simp [usagesOf]

end UsageNotes

variable {bindings : List String} {n : Node}

/-- A search records uses of the given names only. -/
theorem usage_notes_names (bindings : List String) (n : Node) :
    (usageNotes bindings n).Names bindings := by
  refine Visitor.visit_keeps (P := UsageNotes.Names bindings) ?_ n {} ?_
  · simp only [usageVisitor, Handler.always, List.forall_mem_cons, List.not_mem_nil]
    exact ⟨fun _ m _ hs => hs.call m, fun _ m _ hs => hs.member m, fun _ m _ hs => hs.type_name m,
      fun _ m _ hs => hs.element m, fun _ m _ hs => hs.empty_element m,
      fun _ m _ hs => hs.attribute_names m, nofun⟩
  · exact fun _ huse => absurd huse List.not_mem_nil

/-- Something is recorded exactly if one of the names has a use. -/
theorem usage_notes_ne_nil :
    (usageNotes bindings n).usages ≠ [] ↔
      ∃ b ∈ bindings, (usageNotes bindings n).usagesOf b ≠ [] := by
  constructor
  · intro hsome
    obtain ⟨⟨b, place⟩, huse⟩ := List.exists_mem_of_ne_nil _ hsome
    exact ⟨b, (usage_notes_names bindings n _ huse).1,
      List.ne_nil_of_mem (UsageNotes.mem_usages_of.2 huse)⟩
  · rintro ⟨b, -, hsome⟩
    obtain ⟨place, hplace⟩ := List.exists_mem_of_ne_nil _ hsome
    exact List.ne_nil_of_mem (UsageNotes.mem_usages_of.1 hplace)

/-- No recorded use is labelled as an import. -/
theorem usage_ne_import {b : String} {place : UsageContext}
    (h : place ∈ (usageNotes bindings n).usagesOf b) : place.usage ≠ "import" := by
  have hsort := (usage_notes_names bindings n _ (UsageNotes.mem_usages_of.1 h)).2
  intro himport
  rw [himport] at hsort
  revert hsort
  decide

end ComponentMigration
