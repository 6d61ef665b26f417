import Mathlib.Data.List.Basic
import ComponentMigration.Text.Letters
import ComponentMigration.Text.Pattern

/-!
# Patterns, words and identifiers in texts

Where a pattern occurs in a text, where a word does, and where an identifier stands as a whole.
-/

namespace ComponentMigration.Text

/-- One text occurs in another exactly if it is a part of it. -/
theorem contains_chars_iff {part text : List Char} :
    containsChars part text = true ↔ part <:+: text := by
  induction text with
  | nil => simp [containsChars]
  | cons c rest ih => simp [containsChars, ih, List.infix_cons_iff, List.isPrefixOf_iff_prefix]

end ComponentMigration.Text

namespace ComponentMigration.Text.Pattern

/-!
## Where patterns occur

A pattern occurs in a text exactly if it matches at some place of it (`occurs_in_iff`).  A word
between two boundaries occurs exactly where the characters around it and at its own ends make
boundaries (`word_occurs_in_iff`).
-/

variable {p : Pattern} {word rest : List Char}

/-- A place after a text is the same whether its first character counts as passed or not. -/
theorem match_at_cons (c : Char) (pre : List Char) (offset : Nat) (before : Option Char) :
    p.matchAt (offset + (c :: pre).length) ((c :: pre).getLast?.or before) rest =
      p.matchAt (offset + 1 + pre.length) (pre.getLast?.or (some c)) rest := by
  have hlast : (c :: pre).getLast?.or before = pre.getLast?.or (some c) := by
    rw [List.getLast?_cons]
    cases pre.getLast? <;> rfl
  rw [hlast, List.length_cons, Nat.add_right_comm, Nat.add_assoc]

/-- A pattern occurs from a place on exactly if it matches at some place from there on. -/
theorem occurs_from_iff (offset : Nat) (before : Option Char) :
    p.occursFrom rest offset before = true ↔
      ∃ pre post, rest = pre ++ post ∧
        (p.matchAt (offset + pre.length) (pre.getLast?.or before) post).isSome = true := by
  induction rest generalizing offset before with
  | nil =>
      rw [occursFrom]
      constructor
      · exact fun h => ⟨[], [], rfl, h⟩
      · rintro ⟨pre, post, hsplit, h⟩
        obtain ⟨rfl, rfl⟩ := List.append_eq_nil_iff.mp hsplit.symm
        exact h
  | cons c rest ih =>
      rw [occursFrom, Bool.or_eq_true, ih]
      constructor
      · rintro (h | ⟨pre, post, rfl, h⟩)
        · exact ⟨[], c :: rest, rfl, h⟩
        · exact ⟨c :: pre, post, rfl, by rwa [match_at_cons]⟩
      · rintro ⟨pre, post, hsplit, h⟩
        cases pre with
        | nil => exact .inl (hsplit ▸ h)
        | cons d pre =>
            obtain ⟨rfl, rfl⟩ := List.cons.inj hsplit
            exact .inr ⟨pre, post, rfl, by rwa [match_at_cons] at h⟩

/-- A pattern occurs in a text exactly if it matches at some place of it. -/
theorem occurs_in_iff {s : String} :
    p.occursIn s = true ↔
      ∃ before after, s.toList = before ++ after ∧
        (p.matchAt before.length before.getLast? after).isSome = true := by
  rw [occursIn, occurs_from_iff]
  simp only [Nat.zero_add, Option.or_none]

/-- The pattern of a word between two boundaries. -/
def wholeWord (word : List Char) : Pattern := cat [.wordEdge, .exact word, .wordEdge]

theorem whole_word_match_iff {offset : Nat} {before : Option Char} :
    ((wholeWord word).matchAt offset before rest).isSome = true ↔
      ∃ after, rest = word ++ after ∧ isWordBoundary before rest.head? = true ∧
        isWordBoundary (word.getLast?.or before) after.head? = true := by
  have hrun : ((wholeWord word).matchAt offset before rest).isSome = true ↔
      isWordBoundary before rest.head? = true ∧ word <+: rest ∧
        isWordBoundary (word.getLast?.or before) (rest.drop word.length).head? = true := by
    rw [matchAt, Option.isSome_map]
    simp only [wholeWord, cat, Pattern.run]
    split_ifs <;> simp_all
  rw [hrun]
  constructor
  · rintro ⟨hleft, ⟨after, rfl⟩, hright⟩
    rw [List.drop_left] at hright
    exact ⟨after, rfl, hleft, hright⟩
  · rintro ⟨after, rfl, hleft, hright⟩
    refine ⟨hleft, List.prefix_append word after, ?_⟩
    rwa [List.drop_left]

/-- A word between two boundaries occurs exactly where its ends are boundaries. -/
theorem word_occurs_in_iff {s : String} :
    (wholeWord word).occursIn s = true ↔
      ∃ before after, s.toList = before ++ (word ++ after) ∧
        isWordBoundary before.getLast? (word ++ after).head? = true ∧
        isWordBoundary (before ++ word).getLast? after.head? = true := by
  rw [occurs_in_iff]
  constructor
  · rintro ⟨before, _, hs, h⟩
    obtain ⟨after, rfl, hleft, hright⟩ := whole_word_match_iff.1 h
    exact ⟨before, after, hs, hleft, by rwa [List.getLast?_append]⟩
  · rintro ⟨before, after, hs, hleft, hright⟩
    rw [List.getLast?_append] at hright
    exact ⟨before, word ++ after, hs, whole_word_match_iff.2 ⟨after, rfl, hleft, hright⟩⟩

end ComponentMigration.Text.Pattern

namespace ComponentMigration.Text

/-!
## Identifiers in texts

An identifier is made of letters, digits, low lines and dollar signs.  It stands in a text as a
whole where no such character is next to it.
-/

/-- A character of identifiers: one of words, or the dollar sign. -/
def isNameChar (c : Char) : Bool := isWordChar c || c == '$'

/-- An identifier; what it begins with is left open. -/
structure IsName (name : String) : Prop where
  nonempty : name.toList ≠ []
  chars : ∀ c ∈ name.toList, isNameChar c = true

/-- The characters before and after a place have no part in an identifier that stands there. -/
structure StandsApart (before after : List Char) : Prop where
  left : ∀ c ∈ before.getLast?, isNameChar c = false
  right : ∀ c ∈ after.head?, isNameChar c = false

theorem stands_apart_of_ends {x y : Char} (hx : isNameChar x = false) (hy : isNameChar y = false)
    (before after : List Char) : StandsApart (before ++ [x]) (y :: after) :=
  ⟨by simpa using hx, by simpa using hy⟩

/-- A name is an identifier that stands somewhere in a text as a whole. -/
structure StandsAsName (name text : String) : Prop where
  isName : IsName name
  place : ∃ before after, text.toList = before ++ (name.toList ++ after) ∧ StandsApart before after

instance (name : String) : Decidable (IsName name) :=
  decidable_of_iff (name.toList ≠ [] ∧ name.toList.all isNameChar = true)
    ⟨fun h => ⟨h.1, List.all_eq_true.mp h.2⟩, fun h => ⟨h.nonempty, List.all_eq_true.mpr h.chars⟩⟩

/-- Of the characters of identifiers, words have all but the dollar sign. -/
theorem is_word_char_iff_of_is_name_char {c : Char} (h : isNameChar c = true) :
    isWordChar c = true ↔ c ≠ '$' := by
  have hdollar : isWordChar '$' = false := by decide
  constructor
  · rintro hc rfl
    exact Bool.false_ne_true (hdollar.symm.trans hc)
  · intro hc
    simpa [isNameChar, hc] using h

theorem not_is_word_char_of_not_is_name_char {c : Char} (h : isNameChar c = false) :
    isWordChar c = false := by
  rw [isNameChar, Bool.or_eq_false_iff] at h
  exact h.1

end ComponentMigration.Text
