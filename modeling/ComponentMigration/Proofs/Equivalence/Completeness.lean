import ComponentMigration.Equivalence.Compare
import ComponentMigration.Proofs.Text.Pattern

/-!
# Which functions are reported as missing

Generated code mentions a function if the function's name stands in it between two boundaries of
words.  A dollar sign belongs to identifiers but not to words, so at a name that begins or ends with
one the boundaries lie elsewhere.  Every other function that is reported as missing is not named
anywhere in the code; a function whose name begins or ends with a dollar sign is reported although
the code names it (`missing_logic_is_not_named`).
-/

namespace ComponentMigration

open Text

/-- An identifier that neither begins nor ends with a dollar sign. -/
structure HasPlainEnds (name : String) : Prop where
  first : name.toList.head? ≠ some '$'
  last : name.toList.getLast? ≠ some '$'

/-- What is told of a function that generated code does not mention. -/
def missingLogic (name : String) : String :=
  "Business logic '" ++ name ++ "' is missing from the generated code"

section Mentions

variable {name code : String}

theorem mentions_word_iff :
    mentionsWord code name = true ↔
      ∃ before after, code.toList = before ++ (name.toList ++ after) ∧
        isWordBoundary before.getLast? (name.toList ++ after).head? = true ∧
        isWordBoundary (before ++ name.toList).getLast? after.head? = true :=
  Pattern.word_occurs_in_iff

theorem any_is_word_char_of_apart {neighbour : Option Char}
    (h : ∀ c ∈ neighbour, isNameChar c = false) : neighbour.any isWordChar = false := by
  cases neighbour with
  | none => rfl
  | some c => exact not_is_word_char_of_not_is_name_char (h c rfl)

/-- Next to something else than an identifier, a boundary lies exactly at a character of words. -/
theorem is_word_boundary_of_apart_left {neighbour : Option Char} (c : Char)
    (h : ∀ d ∈ neighbour, isNameChar d = false) :
    isWordBoundary neighbour (some c) = isWordChar c := by
  rw [isWordBoundary, any_is_word_char_of_apart h, Option.any_some]
  exact Bool.false_bne _

theorem is_word_boundary_of_apart_right {neighbour : Option Char} (c : Char)
    (h : ∀ d ∈ neighbour, isNameChar d = false) :
    isWordBoundary (some c) neighbour = isWordChar c := by
  rw [isWordBoundary, any_is_word_char_of_apart h, Option.any_some]
  exact Bool.bne_false _

/-- Where an identifier stands as a whole, boundaries lie at both ends exactly if both its ends are
characters of words. -/
theorem boundaries_of_stands_apart (hname : IsName name) {before after : List Char}
    (h : StandsApart before after) :
    (isWordBoundary before.getLast? (name.toList ++ after).head? = true ∧
      isWordBoundary (before ++ name.toList).getLast? after.head? = true) ↔ HasPlainEnds name := by
  have hends : ∀ c ∈ name.toList, (isWordChar c = true ↔ c ≠ '$') := fun c hc =>
    is_word_char_iff_of_is_name_char (hname.chars c hc)
  have hfirst := List.head?_eq_some_head hname.nonempty
  have hlast := List.getLast?_eq_some_getLast hname.nonempty
  generalize name.toList.head hname.nonempty = first at hfirst
  generalize name.toList.getLast hname.nonempty = last at hlast
  rw [List.head?_append, hfirst, Option.some_or, List.getLast?_append, hlast, Option.some_or,
    is_word_boundary_of_apart_left first h.left, is_word_boundary_of_apart_right last h.right,
    hends first (List.mem_of_head? hfirst), hends last (List.mem_of_getLast? hlast)]
  constructor
  · rintro ⟨hf, hl⟩
    exact ⟨by rwa [hfirst, Ne, Option.some_inj], by rwa [hlast, Ne, Option.some_inj]⟩
  · rintro ⟨hf, hl⟩
    rw [hfirst, Ne, Option.some_inj] at hf
    rw [hlast, Ne, Option.some_inj] at hl
    exact ⟨hf, hl⟩

/-- Code that names a function whose name has plain ends mentions it. -/
theorem mentions_word_of_stands (hplain : HasPlainEnds name) (h : StandsAsName name code) :
    mentionsWord code name = true := by
  obtain ⟨before, after, hcode, hapart⟩ := h.place
  exact mentions_word_iff.2
    ⟨before, after, hcode, (boundaries_of_stands_apart h.isName hapart).mpr hplain⟩

/-- A name without plain ends is not mentioned where it stands as a whole. -/
theorem not_mentions_word_of_apart (hname : IsName name) (hplain : ¬HasPlainEnds name)
    (h : ∀ before after, code.toList = before ++ (name.toList ++ after) →
      StandsApart before after) : mentionsWord code name = false := by
  refine Bool.eq_false_iff.mpr fun hmentions => hplain ?_
  obtain ⟨before, after, hcode, hboundaries⟩ := mentions_word_iff.1 hmentions
  exact (boundaries_of_stands_apart hname (h before after hcode)).mp hboundaries

end Mentions

section Reports

variable {grammar : Grammar} {source : Component} {code name : String}

theorem missing_logic_injective {a b : String} (h : missingLogic a = missingLogic b) : a = b := by
  have htexts : "Business logic '" ++ a ++ "' is missing from the generated code" =
      "Business logic '" ++ b ++ "' is missing from the generated code" := h
  exact (String.append_right_inj _).mp ((String.append_left_inj _).mp htexts)

theorem head_append {s : String} {c : Char} (h : s.toList.head? = some c) (t : String) :
    (s ++ t).toList.head? = some c := by
  rw [String.toList_append, List.head?_append, h, Option.some_or]

theorem head_missing_logic (name : String) : (missingLogic name).toList.head? = some 'B' :=
  head_append (head_append (by decide) name) _

/-- Exactly the functions that the code does not mention are reported as missing. -/
theorem missing_logic_mem_errors_iff :
    missingLogic name ∈ (checkCompleteness grammar source code).errors ↔
      (∃ l ∈ source.businessLogic, l.name = name) ∧ mentionsWord code name = false := by
  have hother : ∀ {c : Char} (found : Bool) (text : String), text.toList.head? = some c → c ≠ 'B' →
      missingLogic name ∉ if found then [] else [text] := by
    intro c found text htext hc hmem
    cases found with
    | true => cases hmem
    | false =>
        rw [← List.mem_singleton.mp hmem, head_missing_logic] at htext
        exact hc (Option.some.inj htext).symm
  have hcomponent := hother
    (findDeclaration (Document.parse grammar .tsx (source.name ++ ".tsx") code).root
      source.name).isSome ("Component declaration '" ++ source.name ++ "' is missing")
    (head_append (head_append (c := 'C') (by decide) source.name) _) (by decide)
  have hprops := hother (source.props.isEmpty || declaresType code (source.name ++ "Props"))
    ("Props declaration '" ++ (source.name ++ "Props") ++ "' is missing")
    (head_append (head_append (c := 'P') (by decide) (source.name ++ "Props")) _) (by decide)
  rw [checkCompleteness, List.mem_append, List.mem_append, or_assoc, or_iff_right hcomponent,
    or_iff_right hprops, List.mem_map]
  constructor
  · rintro ⟨l, hl, heq⟩
    obtain ⟨hl, hmissing⟩ := List.mem_filter.mp hl
    obtain rfl := missing_logic_injective heq
    exact ⟨⟨l, hl, rfl⟩, by simpa using hmissing⟩
  · rintro ⟨⟨l, hl, rfl⟩, hmissing⟩
    exact ⟨l, List.mem_filter.mpr ⟨hl, by simp [hmissing]⟩, rfl⟩

end Reports

/-- A function that is reported as missing and whose name has plain ends is not named anywhere in
the code.  A function whose name begins or ends with a dollar sign is reported even if the code
names it, and always if the code has its name only as an identifier of its own. -/
theorem missing_logic_is_not_named (grammar : Grammar) (source : Component) (code name : String) :
    (HasPlainEnds name → missingLogic name ∈ (checkCompleteness grammar source code).errors →
      ¬StandsAsName name code) ∧
    (IsName name → ¬HasPlainEnds name → (∃ l ∈ source.businessLogic, l.name = name) →
      (∀ before after, code.toList = before ++ (name.toList ++ after) →
        StandsApart before after) →
      missingLogic name ∈ (checkCompleteness grammar source code).errors) := by
  constructor
  · intro hplain hreported hstands
    have hmissing := (missing_logic_mem_errors_iff.1 hreported).2
    rw [mentions_word_of_stands hplain hstands] at hmissing
    cases hmissing
  · intro hname hdollar hlogic hapart
    exact missing_logic_mem_errors_iff.2
      ⟨hlogic, not_mentions_word_of_apart hname hdollar hapart⟩

/-- A unit with two functions. -/
def twoFunctions : Component :=
  { id := "A.tsx:A", name := "A", filePath := "A.tsx", absolutePath := "A.tsx"
    businessLogic := [{ name := "go" }, { name := "$go" }] }

/-- A grammar that reads nothing. -/
def emptyGrammar : Grammar := fun _ _ => .mk { kind := "program" } []

/-- Code that calls something else does not name the first function, and code that is no more than a
call of the second one leaves it reported as missing. -/
theorem missing_logic_is_not_named_in_calls :
    (HasPlainEnds "go" ∧
      missingLogic "go" ∈ (checkCompleteness emptyGrammar twoFunctions "stop()").errors ∧
      ¬StandsAsName "go" "stop()") ∧
    IsName "$go" ∧ ¬HasPlainEnds "$go" ∧
      missingLogic "$go" ∈ (checkCompleteness emptyGrammar twoFunctions "$go()").errors := by
  have hplain : HasPlainEnds "go" := ⟨by decide, by decide⟩
  have hdollar : ¬HasPlainEnds "$go" := fun h => h.first (by decide)
  have hname : IsName "$go" := by decide
  have hreported : missingLogic "go" ∈
      (checkCompleteness emptyGrammar twoFunctions "stop()").errors :=
    missing_logic_mem_errors_iff.2 ⟨⟨_, List.mem_cons_self, rfl⟩, by decide⟩
  refine ⟨⟨hplain, hreported, (missing_logic_is_not_named _ _ _ _).1 hplain hreported⟩, hname, hdollar,
    (missing_logic_is_not_named _ _ _ _).2 hname hdollar
      ⟨_, List.mem_cons_of_mem _ List.mem_cons_self, rfl⟩ fun before after hsplit => ?_⟩
  cases before with
  | nil =>
      obtain rfl : after = ['(', ')'] := by simpa [eq_comm] using hsplit
      exact ⟨nofun, by simp; decide⟩
  | cons c before =>
      -- A second dollar sign would have to follow the first one.
      have hmem : '$' ∈ ['g', 'o', '(', ')'] := by
        have htail : ['g', 'o', '(', ')'] = before ++ ("$go".toList ++ after) :=
          (List.cons.inj hsplit).2
        rw [htail]
        simp
      exact absurd hmem (by decide)

/-- Code that declares and returns a function whose name begins with a dollar sign names it, and yet
the function is reported as missing. -/
theorem named_logic_reported_missing :
    missingLogic "$go" ∈ (checkCompleteness emptyGrammar twoFunctions
      "function A() \x7b const $go = () => 1; return $go; \x7d").errors ∧
    StandsAsName "$go" "function A() \x7b const $go = () => 1; return $go; \x7d" := by
  constructor
  · exact missing_logic_mem_errors_iff.2
      ⟨⟨_, List.mem_cons_of_mem _ List.mem_cons_self, rfl⟩, by decide⟩
  · exact ⟨by decide, "function A() \x7b const".toList ++ [' '],
      ' ' :: "= () => 1; return $go; \x7d".toList, by decide,
      stands_apart_of_ends (by decide) (by decide) _ _⟩

end ComponentMigration
