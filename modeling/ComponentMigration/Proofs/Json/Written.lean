import Mathlib.Data.List.Basic
import ComponentMigration.Json.Display
import ComponentMigration.Run.Disk

/-!
# The characters of written values

Numbers are written with few characters, and every written form consists of plain characters: the
printable ones of a single byte, and line feeds.  A text of plain characters is read from its bytes
as it is (`text_of_encode_plain`).
-/

namespace ComponentMigration

/-- A character of one byte that has a mark or breaks a line. -/
def Text.isPlain (c : Char) : Bool := c == '\n' || (32 ≤ c.toNat && c.toNat ≤ 126)

section Bytes

theorem Text.lt_of_is_plain {c : Char} (hc : Text.isPlain c) : c.toNat < 0x80 := by
  simp only [Text.isPlain, Bool.or_eq_true, beq_iff_eq, Bool.and_eq_true, decide_eq_true_eq] at hc
  rcases hc with rfl | hc
  · decide
  · omega

/-- Plain characters are encoded as one byte each. -/
theorem Text.encode_of_plain {s : String} (hs : ∀ c ∈ s.toList, Text.isPlain c) :
    (Text.encodeUtf8 s).map UInt8.toNat = s.toList.map Char.toNat := by
  have hbytes : Text.encodeUtf8 s = s.toList.flatMap String.utf8EncodeChar := by
    rw [Text.encodeUtf8, String.toUTF8, ← String.utf8Encode_toList, List.utf8Encode,
      List.data_toByteArray]
  rw [hbytes]
  generalize s.toList = cs at hs
  induction cs with
  | nil => rfl
  | cons c cs ih =>
      obtain ⟨hc, hcs⟩ := List.forall_mem_cons.mp hs
      have hlt := Text.lt_of_is_plain hc
      have hsize : c.utf8Size = 1 := Char.utf8Size_eq_one_iff.mpr (Nat.le_of_lt_succ hlt)
      have hbyte : c.val.toUInt8.toNat = c.toNat :=
        Nat.mod_eq_of_lt (Nat.lt_trans hlt (by decide))
      rw [List.flatMap_cons, List.map_append, ih hcs, String.utf8EncodeChar_eq_singleton hsize,
        List.map_singleton, hbyte, List.map_cons, List.singleton_append]

theorem Text.utf8_decode_of_plain {cs : List Char} (hcs : ∀ c ∈ cs, Text.isPlain c)
    (position : Nat) : Text.utf8Decode (cs.map Char.toNat) position 0 = .ok cs := by
  induction cs generalizing position with
  | nil => rfl
  | cons c cs ih =>
      obtain ⟨hc, hcs⟩ := List.forall_mem_cons.mp hcs
      have hshape : Text.utf8Shape c.toNat = some (0, 0, 0) := if_pos (Text.lt_of_is_plain hc)
      have hlead : Text.utf8Lead c.toNat 0 = c.toNat := rfl
      rw [List.map_cons, Text.utf8Decode, hshape]
      dsimp only [Text.utf8Tail]
      rw [hlead, ih hcs, Except.map, Char.ofNat_toNat]

theorem Text.unify_newlines_of_plain {cs : List Char} (hcs : ∀ c ∈ cs, Text.isPlain c) :
    Text.unifyNewlineChars cs = cs := by
  induction cs with
  | nil => rfl
  | cons c cs ih =>
      obtain ⟨hc, hcs⟩ := List.forall_mem_cons.mp hcs
      have hne : c ≠ '\r' := by rintro rfl; revert hc; decide
      rw [Text.unifyNewlineChars, ih hcs]
      · simp [hne]
      · rintro _ rfl
        exact absurd rfl hne

/-- A text of plain characters is read from its bytes as it is. -/
theorem Disk.text_of_encode_plain {s : String} (hs : ∀ c ∈ s.toList, Text.isPlain c) :
    Disk.textOf (Text.encodeUtf8 s) = .ok s := by
  simp only [Disk.textOf, Text.decodeUtf8, Text.encode_of_plain hs, Text.utf8_decode_of_plain hs,
    Except.map, Text.unifyNewlines, String.ofList_toList, Text.unify_newlines_of_plain hs]

end Bytes

namespace Json

/-- The characters of written numbers. -/
def isNumeral (c : Char) : Bool := c.isDigit || "+-.eENaInfity".toList.contains c

section Numerals

theorem numerals_of_digits {cs : List Char} (h : ∀ c ∈ cs, c.isDigit) : ∀ c ∈ cs, isNumeral c :=
  fun c hc => by simp [isNumeral, h c hc]

theorem numerals_replicate_zero (n : Nat) : ∀ c ∈ List.replicate n '0', isNumeral c := by
  intro c hc
  rw [List.eq_of_mem_replicate hc]
  decide

theorem numerals_digits_text (n : Nat) : ∀ c ∈ (Number.digitsText n).toList, isNumeral c := by
  rw [Number.digitsText, String.toList_ofList]
  exact numerals_of_digits fun c hc => Nat.isDigit_of_mem_toDigits (by decide) (by decide) hc

theorem numerals_drop_zeros (n : Nat) :
    ∀ c ∈ (Number.dropZeros (Number.digitsText n)).toList, isNumeral c := by
  intro c hc
  rw [Number.dropZeros, String.toList_ofList, List.mem_reverse] at hc
  exact numerals_digits_text n c (List.mem_reverse.mp (List.dropWhile_subset _ hc))

variable {digits : String}

theorem numerals_positional (hdigits : ∀ c ∈ digits.toList, isNumeral c) (e : Int) :
    ∀ c ∈ (Number.positional digits e).toList, isNumeral c := by
  have hzeros := numerals_replicate_zero
  unfold Number.positional
  split
  · simp only [String.toList_append, String.toList_ofList, List.forall_mem_append]
    exact ⟨⟨List.all_eq_true.mp (by decide), hzeros _⟩, hdigits⟩
  · dsimp only
    split
    · simp only [String.toList_append, String.toList_ofList, List.forall_mem_append]
      exact ⟨hdigits, hzeros _⟩
    · simp only [String.toList_append, String.toList_ofList, List.forall_mem_append]
      exact ⟨⟨fun c hc => hdigits c (List.mem_of_mem_take hc), List.all_eq_true.mp (by decide)⟩,
        fun c hc => hdigits c (List.mem_of_mem_drop hc)⟩

theorem numerals_scientific (hdigits : ∀ c ∈ digits.toList, isNumeral c) (e : Int) :
    ∀ c ∈ (Number.scientific digits e).toList, isNumeral c := by
  have hplaces : ∀ c ∈ (Number.afterPoint (String.ofList (digits.toList.drop 1))).toList,
      isNumeral c := by
    unfold Number.afterPoint
    split
    · exact List.all_eq_true.mp (by decide)
    · simp only [String.toList_append, String.toList_ofList, List.forall_mem_append]
      exact ⟨List.all_eq_true.mp (by decide), fun c hc => hdigits c (List.mem_of_mem_drop hc)⟩
  have hexponent : ∀ c ∈ (Number.exponentText e).toList, isNumeral c := by
    unfold Number.exponentText Number.padLeft
    simp only [String.toList_append, String.toList_ofList, List.forall_mem_append]
    refine ⟨?_, numerals_replicate_zero _, numerals_digits_text _⟩
    split <;> exact List.all_eq_true.mp (by decide)
  simp only [Number.scientific, String.toList_append, String.toList_ofList, List.forall_mem_append]
  exact ⟨⟨fun c hc => hdigits c (List.mem_of_mem_take hc), hplaces⟩, hexponent⟩

theorem numerals_shortest (x : Float) : ∀ c ∈ (Number.shortest x).toList, isNumeral c := by
  unfold Number.shortest
  split
  · unfold Number.specialText
    split
    · exact List.all_eq_true.mp (by decide)
    · split <;> exact List.all_eq_true.mp (by decide)
  · have hsign : ∀ b : Bool, ∀ c ∈ (if b then "-" else "").toList, isNumeral c := fun b =>
      List.all_eq_true.mp (by cases b <;> decide)
    have hdigits := numerals_drop_zeros
    dsimp only
    split <;> rw [String.toList_append, List.forall_mem_append]
    · exact ⟨hsign _, List.all_eq_true.mp (by decide)⟩
    · refine ⟨hsign _, ?_⟩
      split
      · split
        · exact numerals_positional (hdigits _) _
        · rw [String.toList_append, List.forall_mem_append]
          exact ⟨numerals_positional (hdigits _) _, List.all_eq_true.mp (by decide)⟩
      · exact numerals_scientific (hdigits _) _

theorem numerals_float_text (x : Float) : ∀ c ∈ (floatText x).toList, isNumeral c := by
  unfold floatText
  split
  · exact List.all_eq_true.mp (by decide)
  · split
    · split <;> exact List.all_eq_true.mp (by decide)
    · exact numerals_shortest x

theorem numerals_int_text (n : Int) : ∀ c ∈ (toString n).toList, isNumeral c := by
  cases n with
  | ofNat m => exact numerals_digits_text m
  | negSucc m =>
      change ∀ c ∈ ("-" ++ m.succ.repr).toList, isNumeral c
      rw [String.toList_append, List.forall_mem_append]
      exact ⟨List.all_eq_true.mp (by decide), numerals_digits_text m.succ⟩

theorem float_text_ne_nil (x : Float) : (floatText x).toList ≠ [] := by
  unfold floatText
  split
  · decide
  · split
    · split <;> decide
    · unfold Number.shortest
      split
      · unfold Number.specialText
        split
        · decide
        · split <;> decide
      · dsimp only
        have hlast : ∀ {s t : String}, t.toList ≠ [] → (s ++ t).toList ≠ [] := by
          intro s t ht
          rw [String.toList_append]
          exact List.append_ne_nil_of_right_ne_nil _ ht
        split
        · exact hlast (by decide)
        · refine hlast ?_
          split
          · split
            · next hpoint => exact List.ne_nil_of_mem (List.contains_iff_mem.mp hpoint)
            · exact hlast (by decide)
          · refine hlast (hlast ?_)
            rw [Number.padLeft]
            refine hlast ?_
            rw [Number.digitsText, String.toList_ofList]
            exact Nat.toDigits_ne_nil

theorem is_plain_of_is_numeral {c : Char} (hc : isNumeral c) : Text.isPlain c := by
  have hdigit : c.isDigit → Text.isPlain c := by
    intro h
    simp only [Char.isDigit, Bool.and_eq_true, decide_eq_true_eq] at h
    have hlow : 48 ≤ c.toNat := h.1
    have hhigh : c.toNat ≤ 57 := h.2
    simp only [Text.isPlain, Bool.or_eq_true, Bool.and_eq_true, decide_eq_true_eq]
    omega
  have hother : ∀ c ∈ "+-.eENaInfity".toList, Text.isPlain c :=
    List.all_eq_true.mp (by decide)
  rcases Bool.or_eq_true_iff.mp hc with hc | hc
  · exact hdigit hc
  · exact hother c (List.contains_iff_mem.mp hc)

end Numerals

section Plain

theorem plain_hex_digits (width n : Nat) : ∀ c ∈ Text.hexDigits width n, Text.isPlain c := by
  have hdigit : ∀ m < 16, Text.isPlain (Text.hexDigit m) := by decide
  induction width generalizing n with
  | zero => exact List.forall_mem_nil _
  | succ width ih =>
      rw [Text.hexDigits, List.forall_mem_append, List.forall_mem_singleton]
      exact ⟨ih _, hdigit _ (Nat.mod_lt n (by decide))⟩

theorem plain_unit_escape (n : Nat) : ∀ c ∈ unitEscape n, Text.isPlain c := by
  rw [unitEscape, List.forall_mem_cons, List.forall_mem_cons]
  exact ⟨by decide, by decide, plain_hex_digits 4 n⟩

theorem plain_escape_char (c : Char) : ∀ d ∈ escapeChar c, Text.isPlain d := by
  unfold escapeChar
  iterate 7
    split
    · exact List.all_eq_true.mp (by decide)
  split
  · next h =>
      rw [List.forall_mem_singleton, Text.isPlain, h, Bool.or_true]
  · split
    · exact plain_unit_escape _
    · exact List.forall_mem_append.mpr ⟨plain_unit_escape _, plain_unit_escape _⟩

theorem plain_quote_text (s : String) : ∀ c ∈ (quoteText s).toList, Text.isPlain c := by
  rw [quoteText, String.toList_ofList, List.cons_append, List.forall_mem_cons,
    List.forall_mem_append]
  refine ⟨by decide, fun c hc => ?_, List.all_eq_true.mp (by decide)⟩
  obtain ⟨d, -, hd⟩ := List.mem_flatMap.mp hc
  exact plain_escape_char d c hd

theorem plain_newline (level : Nat) : ∀ c ∈ (newline level).toList, Text.isPlain c := by
  rw [newline, String.toList_ofList, List.forall_mem_cons]
  refine ⟨by decide, fun c hc => ?_⟩
  rw [List.eq_of_mem_replicate hc]
  decide

theorem plain_lines {level : Nat} {texts : List String}
    (h : ∀ t ∈ texts, ∀ c ∈ t.toList, Text.isPlain c) :
    ∀ c ∈ (String.intercalate ("," ++ newline level) texts).toList, Text.isPlain c := by
  have hsep : ∀ c ∈ ("," ++ newline level).toList, Text.isPlain c := by
    rw [String.toList_append, List.forall_mem_append]
    exact ⟨List.all_eq_true.mp (by decide), plain_newline level⟩
  rw [String.toList_intercalate]
  induction texts with
  | nil => exact List.forall_mem_nil _
  | cons t texts ih =>
      obtain ⟨ht, htexts⟩ := List.forall_mem_cons.mp h
      cases texts with
      | nil => rwa [List.map_singleton, List.intercalate_singleton]
      | cons u texts =>
          rw [List.map_cons, List.map_cons, List.intercalate_cons_cons, List.forall_mem_append,
            List.forall_mem_append]
          exact ⟨⟨ht, hsep⟩, ih htexts⟩

theorem plain_within {level outer : Nat} {first last inner : String}
    (hfirst : ∀ c ∈ first.toList, Text.isPlain c) (hlast : ∀ c ∈ last.toList, Text.isPlain c)
    (hinner : ∀ c ∈ inner.toList, Text.isPlain c) :
    ∀ c ∈ (first ++ newline level ++ inner ++ newline outer ++ last).toList, Text.isPlain c := by
  simp only [String.toList_append, List.forall_mem_append]
  exact ⟨⟨⟨⟨hfirst, plain_newline level⟩, hinner⟩, plain_newline outer⟩, hlast⟩

mutual

/-- Every written form consists of plain characters. -/
theorem plain_indented (level : Nat) :
    (v : Json) → ∀ c ∈ (indentedAt level v).toList, Text.isPlain c
  | .null => by simp only [indentedAt, compact]; exact List.all_eq_true.mp (by decide)
  | .bool b => by
      simp only [indentedAt, compact]
      cases b <;> exact List.all_eq_true.mp (by decide)
  | .int n => by
      simp only [indentedAt, compact]
      exact fun c hc => is_plain_of_is_numeral (numerals_int_text n c hc)
  | .float x => by
      simp only [indentedAt, compact]
      exact fun c hc => is_plain_of_is_numeral (numerals_float_text x c hc)
  | .str s => by
      simp only [indentedAt, compact]
      exact plain_quote_text s
  | .arr [] => by simp only [indentedAt]; exact List.all_eq_true.mp (by decide)
  | .obj [] => by simp only [indentedAt]; exact List.all_eq_true.mp (by decide)
  | .arr (v :: items) => by
      rw [indentedAt]
      exact plain_within (List.all_eq_true.mp (by decide)) (List.all_eq_true.mp (by decide))
        (plain_lines (plain_indented_items _ (v :: items)))
  | .obj (f :: fields) => by
      rw [indentedAt]
      exact plain_within (List.all_eq_true.mp (by decide)) (List.all_eq_true.mp (by decide))
        (plain_lines (plain_indented_fields _ (f :: fields)))

theorem plain_indented_items (level : Nat) :
    (items : List Json) → ∀ t ∈ indentedItems level items, ∀ c ∈ t.toList, Text.isPlain c
  | [] => by
      rw [indentedItems]
      exact List.forall_mem_nil _
  | v :: items => by
      rw [indentedItems, List.forall_mem_cons]
      exact ⟨plain_indented level v, plain_indented_items level items⟩

theorem plain_indented_fields (level : Nat) : (fields : List (String × Json)) →
    ∀ t ∈ indentedFields level fields, ∀ c ∈ t.toList, Text.isPlain c
  | [] => by
      rw [indentedFields]
      exact List.forall_mem_nil _
  | (k, v) :: fields => by
      rw [indentedFields, List.forall_mem_cons, String.toList_append, String.toList_append,
        List.forall_mem_append, List.forall_mem_append]
      exact ⟨⟨⟨plain_quote_text k, List.all_eq_true.mp (by decide)⟩, plain_indented level v⟩,
        plain_indented_fields level fields⟩

end

/-- A written value is read from its bytes as it was written. -/
theorem text_of_encode_indented (v : Json) : Disk.textOf (Text.encodeUtf8 v.indented) = .ok v.indented :=
  Disk.text_of_encode_plain (plain_indented 0 v)

end Plain

end Json

end ComponentMigration
