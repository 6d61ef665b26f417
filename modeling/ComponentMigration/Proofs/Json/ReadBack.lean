import Mathlib.Data.List.TakeWhile
import Mathlib.Data.Option.Basic
import ComponentMigration.Json.Reader
import ComponentMigration.Proofs.Assoc
import ComponentMigration.Proofs.Json.Written

/-!
# Reading back what was written

A written number may come back as another number, so values are compared by their shape, which
leaves numbers out.  Main statement: whatever is read from the written form of a table whose keys
are distinct has the shape of that table (`shape_eq_of_read_indented`).

A value reads back if this is so wherever its written form stands; there is one lemma for each kind
of value.  Only the end of a number's written form is open: what is left unread of it is made of
characters of numbers, on which the reading of the list or table around it would stop.
-/

namespace ComponentMigration.Json

mutual

/-- A value with its numbers left out. -/
def shape : Json → Json
  | .int _ => .null
  | .float _ => .null
  | .arr items => .arr (shapeItems items)
  | .obj fields => .obj (shapeFields fields)
  | v => v

/-- Items with their numbers left out. -/
def shapeItems : List Json → List Json
  | [] => []
  | v :: rest => shape v :: shapeItems rest

/-- Fields with their numbers left out. -/
def shapeFields : List (String × Json) → List (String × Json)
  | [] => []
  | (k, v) :: rest => (k, shape v) :: shapeFields rest

end

section Texts

theorem hex_value_hex_digit : ∀ n < 16, hexValue? (Text.hexDigit n) = some n := by decide

theorem hex4_hex_digits {n : Nat} (h : n < 0x10000) (rest : List Char) :
    hex4? (Text.hexDigits 4 n ++ rest) = some (n, rest) := by
  have hdigit : ∀ m, hexValue? (Text.hexDigit (m % 16)) = some (m % 16) :=
    fun m => hex_value_hex_digit _ (Nat.mod_lt m (by decide))
  simp only [Text.hexDigits, List.nil_append, List.cons_append, hex4?, hdigit, Option.bind_eq_bind,
    Option.bind_some, Option.pure_def]
  congr 2
  omega

theorem unit_escape_of_small {c : Char} (h : c.toNat < 0x10000) (rest : List Char) :
    unitEscape? (Text.hexDigits 4 c.toNat ++ rest) = some (c, rest) := by
  have hvalid : c.toNat < 0xD800 ∨ 0xDFFF < c.toNat := by
    rcases c.valid with hv | hv
    · exact Or.inl hv
    · exact Or.inr hv.1
  have hhigh : ¬(0xD800 ≤ c.toNat ∧ c.toNat < 0xDC00) := by omega
  have hlow : ¬(0xDC00 ≤ c.toNat ∧ c.toNat < 0xE000) := by omega
  simp only [unitEscape?, hex4_hex_digits h, Option.bind_eq_bind, Option.bind_some,
    Bool.and_eq_true, decide_eq_true_eq, hhigh, hlow, if_false, Char.ofNat_toNat, Option.pure_def]

theorem unit_escape_of_pair {high low : Nat} (hhigh : 0xD800 ≤ high ∧ high < 0xDC00)
    (hlow : 0xDC00 ≤ low ∧ low < 0xE000) (rest : List Char) :
    unitEscape? (Text.hexDigits 4 high ++ '\\' :: 'u' :: (Text.hexDigits 4 low ++ rest)) =
      some (Char.ofNat (0x10000 + (high - 0xD800) * 0x400 + (low - 0xDC00)), rest) := by
  have hhex : high < 0x10000 ∧ low < 0x10000 := by omega
  simp only [unitEscape?, hex4_hex_digits hhex.1, hex4_hex_digits hhex.2, Option.bind_eq_bind,
    Option.bind_some, Bool.and_eq_true, decide_eq_true_eq, hhigh, hlow, and_self, if_true,
    Option.pure_def]

theorem unit_escape_of_large {c : Char} (h : 0x10000 ≤ c.toNat) (rest : List Char) :
    unitEscape? (Text.hexDigits 4 (0xD800 + (c.toNat - 0x10000) / 0x400) ++
      '\\' :: 'u' :: (Text.hexDigits 4 (0xDC00 + (c.toNat - 0x10000) % 0x400) ++ rest)) =
      some (c, rest) := by
  have hbound : c.toNat < 0x110000 := by
    rcases c.valid with hv | hv
    · exact Nat.lt_trans hv (by decide)
    · exact hv.2
  rw [unit_escape_of_pair (by omega) (by omega)]
  have hchar : ∀ n, n = c.toNat → some (Char.ofNat n, rest) = some (c, rest) := by
    rintro n rfl
    rw [Char.ofNat_toNat]
  exact hchar _ (by omega)

theorem read_chars_quote (fuel : Nat) (acc rest : List Char) :
    readChars (fuel + 1) acc ('"' :: rest) = .ok (String.ofList acc.reverse, rest) := rfl

theorem read_chars_unit {c : Char} {cs after : List Char}
    (h : unitEscape? cs = some (c, after)) (fuel : Nat) (acc : List Char) :
    readChars (fuel + 1) acc ('\\' :: 'u' :: cs) = readChars fuel (c :: acc) after := by
  rw [readChars, h]

theorem read_chars_plain {c : Char} (hquote : c ≠ '"') (hslash : c ≠ '\\') (h32 : ¬c.toNat < 32)
    (fuel : Nat) (acc rest : List Char) :
    readChars (fuel + 1) acc (c :: rest) = readChars fuel (c :: acc) rest := by
  rw [readChars] <;> grind

/-- One step reads one escaped character. -/
theorem read_chars_escape_char (c : Char) (fuel : Nat) (acc rest : List Char) :
    readChars (fuel + 1) acc (escapeChar c ++ rest) = readChars fuel (c :: acc) rest := by
  have hof : ∀ n, (c.toNat == n) = true → c = Char.ofNat n := by
    intro n h
    rw [← eq_of_beq h, Char.ofNat_toNat]
  unfold escapeChar
  split
  next h => rw [eq_of_beq h]; rfl
  split
  next h => rw [eq_of_beq h]; rfl
  split
  next h => rw [eq_of_beq h]; rfl
  split
  next h => rw [eq_of_beq h]; rfl
  split
  next h => rw [eq_of_beq h]; rfl
  split
  next h => rw [hof 8 h]; rfl
  split
  next h => rw [hof 12 h]; rfl
  split
  next hquote hslash _ _ _ _ _ h =>
    exact read_chars_plain (by grind) (by grind) (by grind) fuel acc rest
  split
  next h =>
    simp only [unitEscape, List.cons_append, read_chars_unit (unit_escape_of_small h rest)]
  next h =>
    simp only [unitEscape, List.cons_append, List.append_assoc,
      read_chars_unit (unit_escape_of_large (Nat.le_of_not_lt h) rest)]

theorem read_chars_escaped {cs acc rest after : List Char} {fuel : Nat} {t : String}
    (h : readChars fuel acc (cs.flatMap escapeChar ++ '"' :: rest) = .ok (t, after)) :
    t = String.ofList (acc.reverse ++ cs) ∧ after = rest := by
  induction cs generalizing fuel acc with
  | nil =>
      cases fuel with
      | zero => cases h
      | succ fuel =>
          rw [List.flatMap_nil, List.nil_append, read_chars_quote] at h
          cases h
          exact ⟨by rw [List.append_nil], rfl⟩
  | cons c cs ih =>
      cases fuel with
      | zero => cases h
      | succ fuel =>
          rw [List.flatMap_cons, List.append_assoc, read_chars_escape_char] at h
          have hlater := ih h
          rw [List.reverse_cons, List.append_assoc] at hlater
          exact hlater

/-- A text is read back from its written form. -/
theorem read_chars_quoted {s t : String} {rest after : List Char} {fuel : Nat}
    (h : readChars fuel [] (s.toList.flatMap escapeChar ++ '"' :: rest) = .ok (t, after)) :
    t = s ∧ after = rest := by
  have hread := read_chars_escaped h
  rw [List.reverse_nil, List.nil_append, String.ofList_toList] at hread
  exact hread

end Texts

/-- What follows a start of a text that is made of characters of numbers. -/
def AfterNumerals (cs after : List Char) : Prop :=
  ∃ taken, cs = taken ++ after ∧ ∀ c ∈ taken, isNumeral c

namespace AfterNumerals

variable {cs ds after : List Char}

theorem refl (cs : List Char) : AfterNumerals cs cs := ⟨[], rfl, List.forall_mem_nil _⟩

theorem trans (hfirst : AfterNumerals cs ds) (hsecond : AfterNumerals ds after) :
    AfterNumerals cs after := by
  obtain ⟨taken, rfl, htaken⟩ := hfirst
  obtain ⟨more, rfl, hmore⟩ := hsecond
  exact ⟨taken ++ more, (List.append_assoc ..).symm, List.forall_mem_append.mpr ⟨htaken, hmore⟩⟩

theorem cons {c : Char} (hc : isNumeral c) (h : AfterNumerals cs after) :
    AfterNumerals (c :: cs) after :=
  trans ⟨[c], rfl, List.forall_mem_singleton.mpr hc⟩ h

theorem drop_digits (cs : List Char) : AfterNumerals cs (cs.dropWhile Char.isDigit) :=
  ⟨cs.takeWhile Char.isDigit, List.takeWhile_append_dropWhile.symm,
    numerals_of_digits fun _ => List.mem_takeWhile_imp⟩

/-- What is left of characters of numbers stands before whatever follows them. -/
theorem exists_left {rest : List Char} (hcs : ∀ c ∈ cs, isNumeral c)
    (hrest : ∀ c ∈ rest.head?, ¬isNumeral c) (h : AfterNumerals (cs ++ rest) after) :
    ∃ left, after = left ++ rest ∧ ∀ c ∈ left, isNumeral c := by
  obtain ⟨taken, heq, htaken⟩ := h
  rcases List.append_eq_append_iff.mp heq with ⟨more, rfl, hmore⟩ | ⟨left, rfl, hafter⟩
  · cases more with
    | nil => exact ⟨[], by simpa using hmore.symm, List.forall_mem_nil _⟩
    | cons c more =>
        subst hmore
        exact absurd (htaken c (by simp)) (hrest c rfl)
  · exact ⟨left, hafter, fun c hc => hcs c (List.mem_append_right _ hc)⟩

end AfterNumerals

section Numbers

variable {cs after : List Char} {v : Json}

theorem after_numerals_of_read_exponent {e : Int} (h : readExponent cs = some (e, after)) :
    AfterNumerals cs after := by
  unfold readExponent at h
  split at h
  · next mark rest =>
      split at h
      · next hmark =>
          have hmark : isNumeral mark := by
            rcases Bool.or_eq_true_iff.mp hmark with hmark | hmark <;>
              (rw [eq_of_beq hmark]; decide)
          refine AfterNumerals.cons hmark ?_
          split at h
          next negative digits hsign =>
          have hdigits : AfterNumerals rest digits := by
            split at hsign <;> cases hsign
            · exact AfterNumerals.cons (by decide) (AfterNumerals.refl _)
            · exact AfterNumerals.cons (by decide) (AfterNumerals.refl _)
            · exact AfterNumerals.refl _
          dsimp only at h
          split at h
          · cases h
          · cases h
            exact hdigits.trans (AfterNumerals.drop_digits digits)
      · cases h
  · cases h

theorem after_numerals_read_whole (cs : List Char) : AfterNumerals cs (readWhole cs).2 := by
  unfold readWhole
  split
  · next more hzero =>
      obtain ⟨c, rest, rfl⟩ : ∃ c rest, cs = c :: rest :=
        List.exists_cons_of_ne_nil (by rintro rfl; cases hzero)
      have hc : c.isDigit := List.mem_takeWhile_imp (l := c :: rest) (by
        rw [hzero]
        rw [List.takeWhile_cons] at hzero
        split at hzero <;> simp_all)
      exact AfterNumerals.cons (by simp [isNumeral, hc]) (AfterNumerals.refl rest)
  · exact AfterNumerals.drop_digits cs

theorem after_numerals_read_places (cs : List Char) : AfterNumerals cs (readPlaces cs).2 := by
  unfold readPlaces
  split
  · next more =>
      dsimp only
      split
      · exact AfterNumerals.refl _
      · exact AfterNumerals.cons (by decide) (AfterNumerals.drop_digits more)
  · exact AfterNumerals.refl _

theorem read_number_of_ok {negative : Bool} (h : readNumber negative cs = .ok (v, after)) :
    v.shape = .null ∧ AfterNumerals cs after := by
  have hdigits : AfterNumerals cs (readPlaces (readWhole cs).2).2 :=
    (after_numerals_read_whole cs).trans (after_numerals_read_places _)
  unfold readNumber at h
  dsimp only at h
  split at h
  · cases h
  · split at h
    · next e rest he =>
        cases h
        exact ⟨rfl, hdigits.trans (after_numerals_of_read_exponent he)⟩
    · split at h
      · cases h
        exact ⟨rfl, hdigits⟩
      · split at h <;> cases h
        exact ⟨rfl, hdigits⟩

/-- What may follow a value where every value has a line of its own. -/
def EndsValue (rest : List Char) : Prop := ∀ c ∈ rest.head?, c = ',' ∨ c = '\n'

variable {rest word : List Char}

theorem ends_value_comma (rest : List Char) : EndsValue (',' :: rest) := by
  rintro c ⟨⟩
  exact Or.inl rfl

theorem ends_value_newline (level : Nat) (rest : List Char) :
    EndsValue ((newline level).toList ++ rest) := by
  rw [newline, String.toList_ofList]
  rintro c ⟨⟩
  exact Or.inr rfl

theorem EndsValue.not_is_numeral (hrest : EndsValue rest) : ∀ c ∈ rest.head?, ¬isNumeral c := by
  intro c hc
  rcases hrest c hc with rfl | rfl <;> decide

/-- A word that stands at the start of a number's written form consists of its characters. -/
theorem numerals_of_starting_word (hcs : ∀ c ∈ cs, isNumeral c) (hrest : EndsValue rest)
    (hword : ',' ∉ word ∧ '\n' ∉ word) (h : word <+: cs ++ rest) : ∀ c ∈ word, isNumeral c := by
  rcases List.prefix_or_prefix_of_prefix h (List.prefix_append cs rest) with hle | ⟨more, rfl⟩
  · exact fun c hc => hcs c (hle.subset hc)
  · cases more with
    | nil => rwa [List.append_nil]
    | cons c more =>
        obtain ⟨later, rfl⟩ := (List.prefix_append_right_inj cs).mp h
        have hc : c ∈ cs ++ c :: more := by simp
        rcases hrest c rfl with rfl | rfl
        · exact absurd hc hword.1
        · exact absurd hc hword.2

theorem drop_word_of_numerals {w : String} (hcs : ∀ c ∈ cs, isNumeral c) (hrest : EndsValue rest)
    (hword : ',' ∉ w.toList ∧ '\n' ∉ w.toList) (hother : ∃ c ∈ w.toList, ¬isNumeral c) :
    dropWord? w (cs ++ rest) = none := by
  unfold dropWord?
  split
  · next hprefix =>
      obtain ⟨c, hc, hnot⟩ := hother
      exact absurd (numerals_of_starting_word hcs hrest hword
        (List.isPrefixOf_iff_prefix.mp hprefix) c hc) hnot
  · rfl

theorem after_numerals_of_drop_word {w : String} (hw : ∀ c ∈ w.toList, isNumeral c)
    (h : dropWord? w cs = some after) : AfterNumerals cs after := by
  unfold dropWord? at h
  split at h
  · next hprefix =>
      obtain ⟨later, rfl⟩ := List.isPrefixOf_iff_prefix.mp hprefix
      cases h
      rw [← String.length_toList, List.drop_left]
      exact ⟨w.toList, rfl, hw⟩
  · cases h

theorem read_word_of_numerals (hcs : ∀ c ∈ cs, isNumeral c) (hrest : EndsValue rest)
    (h : readWord (cs ++ rest) = .ok (v, after)) :
    v.shape = .null ∧ AfterNumerals (cs ++ rest) after := by
  have hnull := drop_word_of_numerals (w := "null") hcs hrest (by decide)
    ⟨'u', by decide, by decide⟩
  have htrue := drop_word_of_numerals (w := "true") hcs hrest (by decide)
    ⟨'r', by decide, by decide⟩
  have hfalse := drop_word_of_numerals (w := "false") hcs hrest (by decide)
    ⟨'s', by decide, by decide⟩
  unfold readWord at h
  simp only [hnull, htrue, hfalse, Option.map_none, Option.orElse_eq_orElse,
    Option.orElse_eq_or, Option.none_or] at h
  split at h
  · next r hr =>
      cases h
      simp only [Option.or_eq_some_iff, Option.map_eq_some_iff] at hr
      rcases hr with ⟨_, hword, heq⟩ | ⟨_, ⟨_, hword, heq⟩ | ⟨_, _, hword, heq⟩⟩ <;> cases heq <;>
        exact ⟨rfl, after_numerals_of_drop_word (List.all_eq_true.mp (by decide)) hword⟩
  · cases h

/-- Where a number's written form stands, a number is read, and perhaps not all of it. -/
theorem read_value_of_numerals {fuel depth : Nat} (hcs : ∀ c ∈ cs, isNumeral c)
    (hrest : EndsValue rest) (h : readValue fuel depth (cs ++ rest) = .ok (v, after)) :
    v.shape = .null ∧ AfterNumerals (cs ++ rest) after := by
  have hstart : ∀ c more, cs ++ rest = c :: more → c ≠ '"' ∧ c ≠ '[' ∧ c ≠ '\x7b' := by
    intro c more heq
    have hc : isNumeral c ∨ c = ',' ∨ c = '\n' := by
      cases cs with
      | nil => exact Or.inr (hrest c (by rw [List.nil_append] at heq; rw [heq]; rfl))
      | cons d cs =>
          obtain ⟨rfl, -⟩ := List.cons.inj heq
          exact Or.inl (hcs d List.mem_cons_self)
    refine ⟨?_, ?_, ?_⟩ <;> (rintro rfl; revert hc; decide)
  cases fuel with
  | zero => cases h
  | succ fuel =>
      unfold readValue at h
      split at h
      · next heq => exact absurd rfl (hstart _ _ heq).1
      · next heq => exact absurd rfl (hstart _ _ heq).2.1
      · next heq => exact absurd rfl (hstart _ _ heq).2.1
      · next heq => exact absurd rfl (hstart _ _ heq).2.2
      · next heq => exact absurd rfl (hstart _ _ heq).2.2
      · next heq =>
          split at h
          · have hnumber := read_number_of_ok h
            rw [heq]
            exact ⟨hnumber.1, AfterNumerals.cons (by decide) hnumber.2⟩
          · exact read_word_of_numerals hcs hrest h
      · split at h
        · exact read_number_of_ok h
        · exact read_word_of_numerals hcs hrest h
      · cases h

end Numbers

/-- What is read where the written form of a value stands has the shape of that value, and only the
end of a number may be left. -/
def ReadsBack (v : Json) : Prop :=
  ∀ ⦃level fuel depth : Nat⦄ ⦃rest after : List Char⦄ ⦃v' : Json⦄, EndsValue rest →
    readValue fuel depth ((indentedAt level v).toList ++ rest) = .ok (v', after) →
      v'.shape = v.shape ∧ ∃ left, after = left ++ rest ∧ ∀ c ∈ left, isNumeral c

theorem read_value_quote (fuel depth : Nat) (rest : List Char) :
    readValue (fuel + 1) depth ('"' :: rest) =
      (readChars (rest.length + 1) [] rest).map fun (s, after) => (.str s, after) := rfl

theorem read_value_bracket (fuel depth : Nat) (rest : List Char) :
    readValue (fuel + 1) (depth + 1) ('[' :: rest) =
      match skipBlanks rest with
      | ']' :: after => .ok (.arr [], after)
      | inner => (readItems fuel depth inner []).map fun (items, after) => (.arr items, after) := rfl

theorem read_value_brace (fuel depth : Nat) (rest : List Char) :
    readValue (fuel + 1) (depth + 1) ('\x7b' :: rest) =
      match skipBlanks rest with
      | '\x7d' :: after => .ok (.obj [], after)
      | inner => (readFields fuel depth inner []).map fun (fields, after) => (.obj fields, after) :=
  rfl

theorem exists_of_map_eq_ok {α β : Type} {f : α → β} {x : Except Flaw α} {b : β}
    (h : x.map f = .ok b) : ∃ a, x = .ok a ∧ f a = b := by
  cases x with
  | error flaw => cases h
  | ok a => exact ⟨a, rfl, Except.ok.inj h⟩

section Leaves

theorem reads_back_of_numerals {v : Json} (hshape : v.shape = .null)
    (htext : ∀ level, ∀ c ∈ (indentedAt level v).toList, isNumeral c) : ReadsBack v := by
  intro level fuel depth rest after v' hrest h
  obtain ⟨hnull, hafter⟩ := read_value_of_numerals (htext level) hrest h
  exact ⟨hnull.trans hshape.symm, hafter.exists_left (htext level) hrest.not_is_numeral⟩

theorem reads_back_float (x : Float) : ReadsBack (.float x) :=
  reads_back_of_numerals rfl fun level => by
    simpa only [indentedAt, compact] using numerals_float_text x

theorem reads_back_int (n : Int) : ReadsBack (.int n) :=
  reads_back_of_numerals rfl fun level => by
    simpa only [indentedAt, compact] using numerals_int_text n

theorem reads_back_of_exact {v : Json}
    (h : ∀ {level fuel depth rest}, ∀ {v' : Json} {after : List Char},
      readValue fuel depth ((indentedAt level v).toList ++ rest) = .ok (v', after) →
        v'.shape = v.shape ∧ after = rest) : ReadsBack v := by
  intro level fuel depth rest after v' _ hread
  obtain ⟨hshape, rfl⟩ := h hread
  exact ⟨hshape, [], rfl, List.forall_mem_nil _⟩

theorem reads_back_null : ReadsBack .null := by
  refine reads_back_of_exact fun {level fuel depth rest v' after} h => ?_
  cases fuel with
  | zero => cases h
  | succ fuel =>
      have hread : readValue (fuel + 1) depth ("null".toList ++ rest) = .ok (.null, rest) := rfl
      rw [indentedAt, compact, hread] at h
      · cases h
        exact ⟨rfl, rfl⟩
      all_goals nofun

theorem reads_back_bool (b : Bool) : ReadsBack (.bool b) := by
  refine reads_back_of_exact fun {level fuel depth rest v' after} h => ?_
  cases fuel with
  | zero => cases h
  | succ fuel =>
      have hread : readValue (fuel + 1) depth ((if b then "true" else "false").toList ++ rest) =
          .ok (.bool b, rest) := by
        cases b <;> rfl
      rw [indentedAt, compact, hread] at h
      · cases h
        exact ⟨rfl, rfl⟩
      all_goals nofun

theorem reads_back_str (s : String) : ReadsBack (.str s) := by
  refine reads_back_of_exact fun {level fuel depth rest v' after} h => ?_
  cases fuel with
  | zero => cases h
  | succ fuel =>
      simp only [indentedAt, compact, quoteText, String.toList_ofList, List.cons_append,
        List.append_assoc, List.nil_append, read_value_quote] at h
      obtain ⟨⟨t, after'⟩, hread, heq⟩ := exists_of_map_eq_ok h
      obtain ⟨rfl, rfl⟩ := read_chars_quoted hread
      cases heq
      exact ⟨rfl, rfl⟩

end Leaves

/-- The blanks between tokens. -/
def isSpacer (c : Char) : Bool := c == ' ' || c == '\t' || c == '\n' || c == '\r'

section Blanks

theorem skip_blanks_newline (level : Nat) (cs : List Char) :
    skipBlanks ((newline level).toList ++ cs) = skipBlanks cs := by
  have hspacers : ∀ c ∈ (newline level).toList, isSpacer c := by
    rw [newline, String.toList_ofList, List.forall_mem_cons]
    refine ⟨by decide, fun c hc => ?_⟩
    rw [List.eq_of_mem_replicate hc]
    decide
  exact List.dropWhile_append_of_pos hspacers

theorem skip_blanks_cons {c : Char} (hc : ¬isSpacer c) (cs : List Char) :
    skipBlanks (c :: cs) = c :: cs := List.dropWhile_cons_of_neg hc

theorem not_is_spacer_of_is_numeral {c : Char} (hc : isNumeral c) : ¬isSpacer c := by
  intro hspacer
  simp only [isSpacer, Bool.or_eq_true, beq_iff_eq] at hspacer
  obtain ((rfl | rfl) | rfl) | rfl := hspacer <;> revert hc <;> decide

/-- Nothing is left of a number before a character that belongs to no number. -/
theorem skip_blanks_left {left rest more : List Char} {c : Char}
    (hleft : ∀ c ∈ left, isNumeral c) (hc : ¬isNumeral c)
    (h : skipBlanks (left ++ rest) = c :: more) : skipBlanks rest = c :: more := by
  cases left with
  | nil => exact h
  | cons d left =>
      have hd := hleft d List.mem_cons_self
      rw [List.cons_append, skip_blanks_cons (not_is_spacer_of_is_numeral hd)] at h
      obtain ⟨rfl, -⟩ := List.cons.inj h
      exact absurd hd hc

section AfterValue

variable {left rest more : List Char} {c : Char} {level : Nat}

theorem skip_blanks_comma (hleft : ∀ c ∈ left, isNumeral c) (hc : ¬isNumeral c)
    (h : skipBlanks (left ++ ',' :: rest) = c :: more) : ',' = c ∧ rest = more := by
  have hskip := skip_blanks_left hleft hc h
  rw [skip_blanks_cons (by decide)] at hskip
  exact List.cons.inj hskip

theorem skip_blanks_close {close : Char} (hclose : ¬isSpacer close) (hleft : ∀ c ∈ left, isNumeral c)
    (hc : ¬isNumeral c) (h : skipBlanks (left ++ ((newline level).toList ++ close :: rest)) = c :: more) :
    close = c ∧ rest = more := by
  have hskip := skip_blanks_left hleft hc h
  rw [skip_blanks_newline, skip_blanks_cons hclose] at hskip
  exact List.cons.inj hskip

end AfterValue

/-- Every written form starts with a character that is neither a blank nor a closing bracket. -/
theorem indented_start (level : Nat) (v : Json) :
    ∃ c cs, (indentedAt level v).toList = c :: cs ∧ ¬isSpacer c ∧ c ≠ ']' := by
  have hnumber : ∀ {text : List Char}, text ≠ [] → (∀ c ∈ text, isNumeral c) →
      ∃ c cs, text = c :: cs ∧ ¬isSpacer c ∧ c ≠ ']' := by
    intro text hne htext
    obtain ⟨c, cs, rfl⟩ := List.exists_cons_of_ne_nil hne
    have hc := htext c List.mem_cons_self
    exact ⟨c, cs, rfl, not_is_spacer_of_is_numeral hc, by rintro rfl; revert hc; decide⟩
  cases v with
  | null =>
      simp only [indentedAt, compact]
      exact ⟨'n', _, rfl, by decide, by decide⟩
  | bool b =>
      simp only [indentedAt, compact]
      cases b with
      | false => exact ⟨'f', _, rfl, by decide, by decide⟩
      | true => exact ⟨'t', _, rfl, by decide, by decide⟩
  | int n =>
      have hdigits : ∀ m : Nat, m.repr.toList ≠ [] := by
        intro m
        rw [Nat.repr, String.toList_ofList]
        exact Nat.toDigits_ne_nil
      have hne : (toString n).toList ≠ [] := by
        cases n with
        | ofNat m => exact hdigits m
        | negSucc m =>
            change ("-" ++ m.succ.repr).toList ≠ []
            rw [String.toList_append]
            exact List.append_ne_nil_of_right_ne_nil _ (hdigits m.succ)
      simp only [indentedAt, compact]
      exact hnumber hne (numerals_int_text n)
  | float x =>
      simp only [indentedAt, compact]
      exact hnumber (float_text_ne_nil x) (numerals_float_text x)
  | str s =>
      simp only [indentedAt, compact, quoteText, String.toList_ofList]
      exact ⟨'"', _, rfl, by decide, by decide⟩
  | arr items =>
      cases items <;> simp only [indentedAt, String.toList_append, List.append_assoc] <;>
        exact ⟨'[', _, rfl, by decide, by decide⟩
  | obj fields =>
      cases fields <;> simp only [indentedAt, String.toList_append, List.append_assoc] <;>
        exact ⟨'\x7b', _, rfl, by decide, by decide⟩

theorem skip_blanks_indented (level : Nat) (v : Json) (rest : List Char) :
    skipBlanks ((indentedAt level v).toList ++ rest) = (indentedAt level v).toList ++ rest := by
  obtain ⟨c, cs, htext, hc, -⟩ := indented_start level v
  rw [htext, List.cons_append, skip_blanks_cons hc]

end Blanks

theorem shape_items_eq_map (items : List Json) : shapeItems items = items.map shape := by
  induction items with
  | nil => rfl
  | cons v rest ih => exact congrArg (shape v :: ·) ih

theorem shape_fields_eq_map (fields : List (String × Json)) :
    shapeFields fields = fields.map fun (k, v) => (k, shape v) := by
  induction fields with
  | nil => rfl
  | cons f rest ih => exact congrArg ((f.1, shape f.2) :: ·) ih

theorem shape_arr (items : List Json) : (Json.arr items).shape = .arr (items.map shape) :=
  congrArg Json.arr (shape_items_eq_map items)

theorem shape_obj (fields : List (String × Json)) :
    (Json.obj fields).shape = .obj (shapeFields fields) := rfl

section Lists

variable {items : List Json} {level outer fuel depth : Nat} {rest after : List Char}

/-- The written forms of items on lines of their own. -/
def itemLines (level : Nat) (items : List Json) : List Char :=
  (String.intercalate ("," ++ newline level) (indentedItems level items)).toList

theorem item_lines_singleton (v : Json) : itemLines level [v] = (indentedAt level v).toList := by
  simp [itemLines, indentedItems]

theorem item_lines_cons (v w : Json) (items : List Json) :
    itemLines level (v :: w :: items) =
      (indentedAt level v).toList ++ ',' :: ((newline level).toList ++ itemLines level (w :: items)) := by
  simp [itemLines, indentedItems, String.toList_intercalate]

theorem item_lines_start (level : Nat) (v : Json) (items : List Json) :
    ∃ c cs, itemLines level (v :: items) = c :: cs ∧ ¬isSpacer c ∧ c ≠ ']' := by
  obtain ⟨c, cs, htext, hc⟩ := indented_start level v
  cases items with
  | nil => exact ⟨c, cs, by rw [item_lines_singleton, htext], hc⟩
  | cons w items => exact ⟨c, _, by rw [item_lines_cons, htext, List.cons_append], hc⟩

theorem skip_blanks_item_lines (v : Json) (items : List Json) (rest : List Char) :
    skipBlanks (itemLines level (v :: items) ++ rest) = itemLines level (v :: items) ++ rest := by
  obtain ⟨c, cs, htext, hc, -⟩ := item_lines_start level v items
  rw [htext, List.cons_append, skip_blanks_cons hc]

theorem read_items_of_ok {acc items' : List Json} (hne : items ≠ [])
    (hitems : ∀ v ∈ items, ReadsBack v)
    (h : readItems fuel depth (itemLines level items ++ ((newline outer).toList ++ ']' :: rest)) acc =
      .ok (items', after)) :
    (∃ vs, items' = acc.reverse ++ vs ∧ vs.map shape = items.map shape) ∧ after = rest := by
  induction items generalizing fuel acc with
  | nil => exact absurd rfl hne
  | cons v items ih =>
      have hv := hitems v List.mem_cons_self
      cases fuel with
      | zero => cases h
      | succ fuel =>
          rw [readItems] at h
          obtain ⟨⟨v', afterValue⟩, hread, h⟩ := bind_eq_ok.mp h
          dsimp only at h
          cases items with
          | nil =>
              rw [item_lines_singleton] at hread
              obtain ⟨hshape, left, rfl, hleft⟩ := hv (ends_value_newline outer _) hread
              split at h
              · next hskip => exact nomatch (skip_blanks_close (by decide) hleft (by decide) hskip).1
              · next hskip =>
                  obtain ⟨-, rfl⟩ := skip_blanks_close (by decide) hleft (by decide) hskip
                  cases h
                  exact ⟨⟨[v'], by simp, by simp [hshape]⟩, rfl⟩
              · cases h
          | cons w items =>
              rw [item_lines_cons, List.append_assoc, List.cons_append, List.append_assoc] at hread
              obtain ⟨hshape, left, rfl, hleft⟩ := hv (ends_value_comma _) hread
              split at h
              · next hskip =>
                  obtain ⟨-, rfl⟩ := skip_blanks_comma hleft (by decide) hskip
                  rw [skip_blanks_newline, skip_blanks_item_lines] at h
                  obtain ⟨⟨vs, rfl, hvs⟩, rfl⟩ := ih (List.cons_ne_nil _ _)
                    (fun v hv => hitems v (List.mem_cons_of_mem _ hv)) h
                  exact ⟨⟨v' :: vs, by simp, by simp [hshape, hvs]⟩, rfl⟩
              · next hskip => exact nomatch (skip_blanks_comma hleft (by decide) hskip).1
              · cases h

theorem reads_back_arr (hitems : ∀ v ∈ items, ReadsBack v) : ReadsBack (.arr items) := by
  refine reads_back_of_exact fun {level fuel depth rest v' after} h => ?_
  cases fuel with
  | zero => cases h
  | succ fuel =>
      cases depth with
      | zero =>
          cases items <;> simp only [indentedAt, String.toList_append] at h <;> cases h
      | succ depth =>
          cases items with
          | nil =>
              have hread : readValue (fuel + 1) (depth + 1) ("[]".toList ++ rest) =
                  .ok (.arr [], rest) := rfl
              simp only [indentedAt, hread] at h
              cases h
              exact ⟨rfl, rfl⟩
          | cons v items =>
              have htext : (indentedAt level (.arr (v :: items))).toList ++ rest =
                  '[' :: ((newline (level + 1)).toList ++ (itemLines (level + 1) (v :: items) ++
                    ((newline level).toList ++ ']' :: rest))) := by
                simp [indentedAt, itemLines]
              rw [htext] at h
              simp only [read_value_bracket, skip_blanks_newline, skip_blanks_item_lines] at h
              split at h
              · next hclose =>
                  obtain ⟨c, cs, hstart, -, hc⟩ := item_lines_start (level + 1) v items
                  rw [hstart, List.cons_append] at hclose
                  exact absurd (List.cons.inj hclose).1 hc
              · obtain ⟨⟨vs, after'⟩, hread, heq⟩ := exists_of_map_eq_ok h
                obtain ⟨⟨_, rfl, hvs⟩, rfl⟩ := read_items_of_ok (List.cons_ne_nil _ _) hitems hread
                cases heq
                exact ⟨by rw [shape_arr, shape_arr, hvs], rfl⟩

end Lists

section Tables

variable {fields : List (String × Json)} {level outer fuel depth : Nat} {rest after : List Char}

/-- The written forms of fields on lines of their own. -/
def fieldLines (level : Nat) (fields : List (String × Json)) : List Char :=
  (String.intercalate ("," ++ newline level) (indentedFields level fields)).toList

/-- A key in its written form after the opening quote, up to its value. -/
def keyText (key : String) : List Char := key.toList.flatMap escapeChar ++ ['"', ':', ' ']

theorem field_lines_singleton (k : String) (v : Json) :
    fieldLines level [(k, v)] = '"' :: (keyText k ++ (indentedAt level v).toList) := by
  simp [fieldLines, indentedFields, quoteText, keyText]

theorem field_lines_cons (k : String) (v : Json) (f : String × Json)
    (fields : List (String × Json)) :
    fieldLines level ((k, v) :: f :: fields) =
      '"' :: (keyText k ++ ((indentedAt level v).toList ++
        ',' :: ((newline level).toList ++ fieldLines level (f :: fields)))) := by
  simp [fieldLines, indentedFields, quoteText, keyText, String.toList_intercalate]

theorem field_lines_start (level : Nat) (f : String × Json) (fields : List (String × Json)) :
    ∃ cs, fieldLines level (f :: fields) = '"' :: cs := by
  cases fields with
  | nil => exact ⟨_, field_lines_singleton f.1 f.2⟩
  | cons g fields => exact ⟨_, field_lines_cons f.1 f.2 g fields⟩

theorem skip_blanks_field_lines (f : String × Json) (fields : List (String × Json))
    (rest : List Char) :
    skipBlanks (fieldLines level (f :: fields) ++ rest) = fieldLines level (f :: fields) ++ rest := by
  obtain ⟨cs, hstart⟩ := field_lines_start level f fields
  rw [hstart, List.cons_append, skip_blanks_cons (by decide)]

/-- Where a field's written form stands, its key is read, and then a value. -/
theorem read_fields_of_key {k : String} {v : Json} {acc fields' : List (String × Json)}
    (h : readFields (fuel + 1) depth ('"' :: (keyText k ++ ((indentedAt level v).toList ++ rest))) acc =
      .ok (fields', after)) :
    ∃ v' afterValue, readValue fuel depth ((indentedAt level v).toList ++ rest) = .ok (v', afterValue) ∧
      (match skipBlanks afterValue with
        | ',' :: next => readFields fuel depth (skipBlanks next)
            (if Assoc.has acc k then Assoc.set acc k v' else (k, v') :: acc)
        | '\x7d' :: after =>
            .ok ((if Assoc.has acc k then Assoc.set acc k v' else (k, v') :: acc).reverse, after)
        | _ => .error .malformed) = .ok (fields', after) := by
  simp only [readFields, keyText, List.append_assoc, List.cons_append, List.nil_append] at h
  obtain ⟨⟨key, afterKey⟩, hkey, h⟩ := bind_eq_ok.mp h
  obtain ⟨rfl, rfl⟩ := read_chars_quoted hkey
  rw [skip_blanks_cons (by decide)] at h
  dsimp only at h
  obtain ⟨⟨v', afterValue⟩, hread, h⟩ := bind_eq_ok.mp h
  have hskip : skipBlanks (' ' :: ((indentedAt level v).toList ++ rest)) =
      (indentedAt level v).toList ++ rest := skip_blanks_indented level v rest
  rw [hskip] at hread
  exact ⟨v', afterValue, hread, h⟩

theorem read_fields_of_ok {acc fields' : List (String × Json)} (hne : fields ≠ [])
    (hfields : ∀ f ∈ fields, ReadsBack f.2) (hkeys : (Assoc.keys fields).Nodup)
    (hnew : ∀ k ∈ Assoc.keys fields, Assoc.has acc k = false)
    (h : readFields fuel depth (fieldLines level fields ++ ((newline outer).toList ++ '\x7d' :: rest))
      acc = .ok (fields', after)) :
    (∃ fs, fields' = acc.reverse ++ fs ∧ shapeFields fs = shapeFields fields) ∧ after = rest := by
  induction fields generalizing fuel acc with
  | nil => exact absurd rfl hne
  | cons f fields ih =>
      obtain ⟨k, v⟩ := f
      have hv := hfields (k, v) List.mem_cons_self
      rw [Assoc.keys_cons, List.nodup_cons] at hkeys
      rw [Assoc.keys_cons, List.forall_mem_cons] at hnew
      cases fuel with
      | zero => cases h
      | succ fuel =>
          cases fields with
          | nil =>
              rw [field_lines_singleton, List.cons_append, List.append_assoc] at h
              obtain ⟨v', afterValue, hread, h⟩ := read_fields_of_key h
              obtain ⟨hshape, left, rfl, hleft⟩ := hv (ends_value_newline outer _) hread
              rw [hnew.1] at h
              split at h
              · next hskip => exact nomatch (skip_blanks_close (by decide) hleft (by decide) hskip).1
              · next hskip =>
                  obtain ⟨-, rfl⟩ := skip_blanks_close (by decide) hleft (by decide) hskip
                  cases h
                  exact ⟨⟨[(k, v')], by simp, by simp [shape_fields_eq_map, hshape]⟩, rfl⟩
              · cases h
          | cons g fields =>
              rw [field_lines_cons, List.cons_append, List.append_assoc, List.append_assoc,
                List.cons_append, List.append_assoc] at h
              obtain ⟨v', afterValue, hread, h⟩ := read_fields_of_key h
              obtain ⟨hshape, left, rfl, hleft⟩ := hv (ends_value_comma _) hread
              rw [hnew.1] at h
              split at h
              · next hskip =>
                  obtain ⟨-, rfl⟩ := skip_blanks_comma hleft (by decide) hskip
                  rw [skip_blanks_newline, skip_blanks_field_lines] at h
                  have hlater : ∀ key ∈ Assoc.keys (g :: fields),
                      Assoc.has ((k, v') :: acc) key = false := by
                    intro key hkey
                    have hne : k ≠ key := fun heq => hkeys.1 (heq ▸ hkey)
                    simpa [Assoc.has, hne] using hnew.2 key hkey
                  obtain ⟨⟨fs, rfl, hfs⟩, rfl⟩ := ih (List.cons_ne_nil _ _)
                    (fun f hf => hfields f (List.mem_cons_of_mem _ hf)) hkeys.2 hlater h
                  exact ⟨⟨(k, v') :: fs, by simp, by simp_all [shape_fields_eq_map]⟩, rfl⟩
              · next hskip => exact nomatch (skip_blanks_comma hleft (by decide) hskip).1
              · cases h

theorem reads_back_obj (hfields : ∀ f ∈ fields, ReadsBack f.2)
    (hkeys : (Assoc.keys fields).Nodup) : ReadsBack (.obj fields) := by
  refine reads_back_of_exact fun {level fuel depth rest v' after} h => ?_
  cases fuel with
  | zero => cases h
  | succ fuel =>
      cases depth with
      | zero =>
          cases fields <;> simp only [indentedAt, String.toList_append] at h <;> cases h
      | succ depth =>
          cases fields with
          | nil =>
              have hread : readValue (fuel + 1) (depth + 1) ("\x7b\x7d".toList ++ rest) =
                  .ok (.obj [], rest) := rfl
              simp only [indentedAt, hread] at h
              cases h
              exact ⟨rfl, rfl⟩
          | cons f fields =>
              have htext : (indentedAt level (.obj (f :: fields))).toList ++ rest =
                  '\x7b' :: ((newline (level + 1)).toList ++ (fieldLines (level + 1) (f :: fields) ++
                    ((newline level).toList ++ '\x7d' :: rest))) := by
                simp [indentedAt, fieldLines]
              rw [htext] at h
              simp only [read_value_brace, skip_blanks_newline, skip_blanks_field_lines] at h
              split at h
              · next hclose =>
                  obtain ⟨cs, hstart⟩ := field_lines_start (level + 1) f fields
                  rw [hstart, List.cons_append] at hclose
                  exact nomatch (List.cons.inj hclose).1
              · obtain ⟨⟨fs, after'⟩, hread, heq⟩ := exists_of_map_eq_ok h
                obtain ⟨⟨_, rfl, hfs⟩, rfl⟩ :=
                  read_fields_of_ok (List.cons_ne_nil _ _) hfields hkeys (fun _ _ => rfl) hread
                cases heq
                exact ⟨by rw [shape_obj, shape_obj, hfs], rfl⟩

/-- Whatever is read from the written form of a table with distinct keys has its shape. -/
theorem shape_eq_of_read_indented {v : Json} (hfields : ∀ f ∈ fields, ReadsBack f.2)
    (hkeys : (Assoc.keys fields).Nodup) (h : read (indented (.obj fields)) = .ok v) :
    v.shape = (Json.obj fields).shape := by
  obtain ⟨⟨v', after⟩, hread, h⟩ := bind_eq_ok.mp h
  have hskip := skip_blanks_indented 0 (.obj fields) []
  rw [List.append_nil] at hskip
  rw [indented, hskip, ← List.append_nil (indentedAt 0 _).toList] at hread
  have hend : EndsValue [] := by rintro c ⟨⟩
  obtain ⟨hshape, -⟩ := reads_back_obj hfields hkeys hend hread
  dsimp only at h
  split at h
  · cases h
    exact hshape
  · cases h

end Tables

end ComponentMigration.Json
