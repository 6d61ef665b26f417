import ComponentMigration.Proofs.Module.Rewriting

/-!
# Texts after the passage to local names

Members of an instance are reached by `this.` at a place where a word begins.  The last step of the
passage to local names deletes these words, which brings the texts around them together.  No new
access comes about in that way (`found_in_deleted`): a word begins behind what is deleted
and also where the deletion leaves it, and otherwise the text is as it was.  So a text is free of
accesses after the passage, and one that was free of them is left as it is (`local_names_normal`).
-/

namespace ComponentMigration

/-- The word by which members of an instance are reached. -/
def instanceWord : List Char := "this.".toList

/-- A text that reaches a member of an instance: the instance's word stands in it where a word
begins. -/
def Text.AccessesInstance (s : String) : Prop :=
  ∃ before after, s.toList = before ++ (instanceWord ++ after) ∧ startsWord before.getLast?

section Finding

variable {find : Option Char → List Char → Option (Nat × List Char)} {before : Option Char}
  {cs : List Char}

/-- What is found in a text is recognised at one of its places. -/
theorem found_in_iff : foundIn find before cs = true ↔
    ∃ front c back, cs = front ++ c :: back ∧
      (find (front.getLast?.or before) (c :: back)).isSome := by
  induction cs generalizing before with
  | nil =>
      refine ⟨nofun, ?_⟩
      rintro ⟨front, c, back, hcs, -⟩
      exact absurd hcs.symm (List.append_ne_nil_of_right_ne_nil front (List.cons_ne_nil c back))
  | cons d cs ih =>
      have hlast : ∀ front : List Char,
          (d :: front).getLast?.or before = front.getLast?.or (some d) := by
        intro front
        cases front with
        | nil => rfl
        | cons c front =>
            rw [List.getLast?_cons_cons, List.getLast?_cons, Option.some_or, Option.some_or]
      rw [foundIn, Bool.or_eq_true, ih]
      constructor
      · rintro (hhere | ⟨front, c, back, rfl, hfound⟩)
        · exact ⟨[], d, cs, rfl, hhere⟩
        · exact ⟨d :: front, c, back, rfl, by rwa [hlast]⟩
      · rintro ⟨front, c, back, hcs, hfound⟩
        cases front with
        | nil =>
            obtain ⟨rfl, rfl⟩ := List.cons.inj hcs
            exact .inl hfound
        | cons x front =>
            obtain ⟨rfl, rfl⟩ := List.cons.inj hcs
            exact .inr ⟨front, c, back, rfl, by rwa [hlast] at hfound⟩

theorem find_instance_eq_some_iff {place : Nat × List Char} : findInstance before cs = some place ↔
    startsWord before = true ∧ instanceWord <+: cs ∧ place = (instanceWord.length, []) := by
  rw [← and_assoc, ← List.isPrefixOf_iff_prefix, ← Bool.and_eq_true, findInstance, ← instanceWord,
    Option.ite_none_right_eq_some, Option.some_inj, eq_comm (a := place)]

theorem find_instance_eq_none_iff : findInstance before cs = none ↔
    (startsWord before = true → ¬instanceWord <+: cs) := by
  rw [Option.eq_none_iff_forall_ne_some]
  simp only [ne_eq, find_instance_eq_some_iff, not_and]
  exact ⟨fun h hword hprefix => h _ hword hprefix rfl,
    fun h _ hword hprefix => absurd hprefix (h hword)⟩

/-- A text has an access if one is found in it. -/
theorem reads_instance_iff {s : String} : readsInstance s = true ↔ Text.AccessesInstance s := by
  rw [readsInstance, found_in_iff]
  simp only [Option.or_none, Option.isSome_iff_exists, find_instance_eq_some_iff]
  constructor
  · rintro ⟨front, c, back, hs, _, hword, ⟨after, hafter⟩, -⟩
    exact ⟨front, after, by rw [hs, hafter], hword⟩
  · rintro ⟨front, after, hs, hword⟩
    exact ⟨front, 't', "his.".toList ++ after, hs, _, hword, List.prefix_append _ _, rfl⟩

end Finding

section Deleting

variable {before before' : Option Char} {c : Char} {cs : List Char}

/-- An access is deleted, and the text goes on behind a dot. -/
theorem delete_instance (h : startsWord before = true) (after : List Char) :
    substitute findInstance before 0 (instanceWord ++ after) =
      substitute findInstance (some '.') 0 after := by
  have hfind : findInstance before ('t' :: ("his.".toList ++ after)) =
      some (instanceWord.length, []) :=
    find_instance_eq_some_iff.2 ⟨h, List.prefix_append instanceWord after, rfl⟩
  have hgo : substitute findInstance before 0 ('t' :: ("his.".toList ++ after)) =
      [] ++ substitute findInstance (some 't') 4 ("his.".toList ++ after) :=
    substitute_of_some hfind
  exact hgo

/-- Inside a word nothing is deleted, so the rest of the word and what ends it were there before. -/
theorem prefix_of_prefix_deleted {word : List Char} {stop : Char}
    (hword : ∀ c ∈ word, Text.isWordChar c = true) (hbefore : startsWord before = false)
    (h : word ++ [stop] <+: substitute findInstance before 0 cs) : word ++ [stop] <+: cs := by
  induction cs generalizing before word with
  | nil =>
      rw [substitute, List.prefix_nil] at h
      exact absurd h (List.append_ne_nil_of_right_ne_nil word (List.cons_ne_nil stop []))
  | cons c cs ih =>
      have hnone : findInstance before (c :: cs) = none :=
        find_instance_eq_none_iff.2 fun hstarts =>
          absurd (hbefore.symm.trans hstarts) Bool.false_ne_true
      rw [substitute_of_none hnone] at h
      cases word with
      | nil =>
          rw [List.nil_append, List.cons_prefix_cons] at h ⊢
          exact ⟨h.1, List.nil_prefix⟩
      | cons x word =>
          rw [List.cons_append, List.cons_prefix_cons] at h ⊢
          obtain ⟨rfl, hrest⟩ := h
          obtain ⟨hx, hword⟩ := List.forall_mem_cons.mp hword
          have hinside : startsWord (some x) = false := by
            rw [startsWord, Option.any_some, hx, Bool.not_true]
          exact ⟨rfl, ih hword hinside hrest⟩

/-- The deletions leave no access, also where the text comes to stand behind another character, if a
word begins there just as before. -/
theorem found_in_deleted (hbefore : startsWord before' = startsWord before) (cs : List Char) :
    foundIn findInstance before' (substitute findInstance before 0 cs) = false := by
  -- An access is deleted at once, so the induction is on how much of the text is left.
  induction hlength : cs.length using Nat.strong_induction_on generalizing before before' cs with
  | _ n ih =>
    by_cases haccess : startsWord before = true ∧ instanceWord <+: cs
    · obtain ⟨hword, after, rfl⟩ := haccess
      rw [delete_instance hword]
      have hdot : startsWord (some '.') = true := by decide
      refine ih after.length ?_ ((hbefore.trans hword).trans hdot.symm) after rfl
      rw [← hlength, List.length_append]
      exact Nat.lt_add_of_pos_left (by decide)
    · cases cs with
      | nil => rfl
      | cons c cs =>
          have hnone : findInstance before (c :: cs) = none :=
            find_instance_eq_none_iff.2 fun hword hprefix => haccess ⟨hword, hprefix⟩
          rw [substitute_of_none hnone, foundIn, ih cs.length (by simp [← hlength]) rfl cs rfl,
            Bool.or_false, Option.isSome_eq_false_iff, Option.isNone_iff_eq_none,
            find_instance_eq_none_iff]
          -- What begins here begins with the same character as before, and goes on as before.
          intro hword hprefix
          obtain ⟨rfl, hrest⟩ := List.cons_prefix_cons.mp hprefix
          have hkept : "his".toList ++ ['.'] <+: cs :=
            prefix_of_prefix_deleted (List.all_eq_true.mp (by decide)) (by decide) hrest
          exact haccess ⟨hbefore.symm.trans hword, List.cons_prefix_cons.mpr ⟨rfl, hkept⟩⟩

end Deleting

/-- After the passage to local names a text has no access to an instance.  A text stays as it is
just when it had none, so a second passage changes nothing. -/
theorem local_names_normal (text : String) :
    ¬Text.AccessesInstance (withLocalNames text) ∧
    (withLocalNames text = text ↔ ¬Text.AccessesInstance text) ∧
    withLocalNames (withLocalNames text) = withLocalNames text := by
  have hfree : ∀ s, ¬Text.AccessesInstance (withLocalNames s) := by
    intro s
    rw [← reads_instance_iff, Bool.not_eq_true, readsInstance, withLocalNames, String.toList_ofList]
    exact found_in_deleted rfl _
  have hkept : ∀ s, ¬Text.AccessesInstance s → withLocalNames s = s := by
    intro s hs
    rw [← reads_instance_iff, Bool.not_eq_true] at hs
    exact local_names_eq_self hs
  exact ⟨hfree text, ⟨fun h => h ▸ hfree text, hkept text⟩, hkept _ (hfree text)⟩

/-- What stands behind a deleted word begins a word, and is deleted as well. -/
example : withLocalNames "this.this.state.on" = "on" := by decide

end ComponentMigration
