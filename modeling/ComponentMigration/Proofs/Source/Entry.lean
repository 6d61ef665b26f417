import ComponentMigration.Proofs.Text.Pattern
import ComponentMigration.Proofs.Text.Splitting
import ComponentMigration.Source.Binding

/-!
# Entries of named imports in the text of a clause

In the text of a clause every `type` before a space is taken for the mark of a type, also at the end
of a name.  What is left of the entries of a named list is found word by word
(`without_marks_entries`), and an entry is heard as the name that it binds exactly if none of its
names was taken for a mark (`heard_name_iff`).
-/

namespace ComponentMigration

open Text

/-- An entry of a named list: a name, perhaps under another name, perhaps marked as a type. -/
structure ImportEntry where
  typeOnly : Bool := false
  name : String
  rename : Option String := none

namespace ImportEntry

/-- The name that an entry binds. -/
def bound (e : ImportEntry) : String := e.rename.getD e.name

/-- What follows the name of an entry that binds another name. -/
def asText (e : ImportEntry) : String := (e.rename.map (" as " ++ ·)).getD ""

/-- The text of an entry. -/
def text (e : ImportEntry) : String := (if e.typeOnly then "type " else "") ++ e.name ++ e.asText

/-- An entry of identifiers. -/
structure IsProper (e : ImportEntry) : Prop where
  name : IsName e.name
  rename : ∀ a ∈ e.rename, IsName a

end ImportEntry

namespace Text

/-- The blanks among the first 128 characters. -/
def plainBlanks : List Nat := [9, 10, 11, 12, 13, 28, 29, 30, 31, 32]

/-- Where blanks stand among the other characters. -/
def blankGaps : List (Nat × Nat) :=
  [(0x80, 0xA0), (0x1680, 0x1680), (0x2000, 0x205F), (0x3000, 0x3000)]

theorem word_ranges_spare_gaps :
    (wordRanges.all fun range => blankGaps.all fun gap =>
      range.2.blt gap.1 || gap.2.blt range.1) = true := by
  decide +kernel

section Blanks

variable {c : Char}

theorem mem_plain_blanks_of_is_blank (hc : c.toNat < 128) (h : isBlank c = true) :
    c.toNat ∈ plainBlanks := by
  simp only [isBlank, Bool.or_eq_true, Bool.and_eq_true, decide_eq_true_eq, beq_iff_eq] at h
  simp only [plainBlanks, List.mem_cons, List.not_mem_nil, or_false]
  omega

theorem exists_gap_of_is_blank (hc : 128 ≤ c.toNat) (h : isBlank c = true) :
    ∃ gap ∈ blankGaps, gap.1 ≤ c.toNat ∧ c.toNat ≤ gap.2 := by
  simp only [isBlank, Bool.or_eq_true, Bool.and_eq_true, decide_eq_true_eq, beq_iff_eq] at h
  simp only [blankGaps, List.mem_cons, List.not_mem_nil, or_false, exists_eq_or_imp, exists_eq_left]
  omega

theorem not_is_blank_of_is_word_char (h : isWordChar c = true) : isBlank c = false := by
  refine Bool.eq_false_iff.mpr fun hblank => ?_
  rw [isWordChar] at h
  split at h
  case isTrue hlow =>
    have hblanks : ∀ n ∈ plainBlanks, isWordChar (Char.ofNat n) = false := by decide
    have hnone := hblanks c.toNat (mem_plain_blanks_of_is_blank hlow hblank)
    rw [Char.ofNat_toNat, isWordChar, if_pos hlow, h] at hnone
    cases hnone
  case isFalse hlow =>
    obtain ⟨range, hrange, hin⟩ := List.any_eq_true.mp h
    obtain ⟨gap, hgap, hfirst, hlast⟩ := exists_gap_of_is_blank (Nat.le_of_not_lt hlow) hblank
    have hspare := List.all_eq_true.mp (List.all_eq_true.mp word_ranges_spare_gaps range hrange)
      gap hgap
    simp only [Bool.and_eq_true, decide_eq_true_eq] at hin
    simp only [Bool.or_eq_true, Nat.blt_eq] at hspare
    omega

/-- Characters of identifiers are no blanks. -/
theorem not_is_blank_of_is_name_char (h : isNameChar c = true) : isBlank c = false := by
  obtain hword | hdollar := Bool.or_eq_true_iff.mp h
  · exact not_is_blank_of_is_word_char hword
  · rw [beq_iff_eq] at hdollar
    subst hdollar
    decide

end Blanks

theorem not_mem_of_is_name {name : String} {c : Char} (h : IsName name)
    (hc : isNameChar c = false) : c ∉ name.toList := by
  intro hmem
  rw [h.chars c hmem] at hc
  cases hc

/-- The mark of a type, without the space after it. -/
def typeMark : List Char := ['t', 'y', 'p', 'e']

/-- A text without marks of types. -/
def withoutMarks (cs : List Char) : List Char := replaceChars (typeMark ++ [' ']) [' '] cs

/-- A word without the mark of a type at its end. -/
def withoutMark (word : List Char) : List Char :=
  if typeMark.isSuffixOf word then word.take (word.length - 4) else word

section Marks

variable {word rest : List Char}

theorem not_mem_type_mark : ' ' ∉ typeMark := by decide

/-- A mark begins before the first space exactly if it is the whole text up to there. -/
theorem type_mark_prefix_iff (h : ' ' ∉ word) :
    typeMark ++ [' '] <+: word ++ ' ' :: rest ↔ word = typeMark := by
  constructor
  · rintro ⟨tail, htail⟩
    rw [List.append_assoc] at htail
    exact (eq_of_append_cons_eq not_mem_type_mark h htail).symm
  · rintro rfl
    exact ⟨rest, by simp⟩

/-- A word before a space loses the mark at its end. -/
theorem without_marks_word (h : ' ' ∉ word) (rest : List Char) :
    withoutMarks (word ++ ' ' :: rest) = withoutMark word ++ ' ' :: withoutMarks rest := by
  rw [withoutMark]
  split
  · next hmark =>
      obtain ⟨front, rfl⟩ := List.isSuffixOf_iff_suffix.mp hmark
      have hfront : front.length = (front ++ typeMark).length - 4 := by
        rw [List.length_append]
        exact (Nat.add_sub_cancel ..).symm
      rw [← hfront, List.take_left, List.append_assoc]
      have hpass : withoutMarks (front ++ (typeMark ++ ' ' :: rest)) =
          front ++ withoutMarks (typeMark ++ ' ' :: rest) :=
        replace_pass fun part hpart hsuffix hbegins => by
          rw [← List.append_assoc, type_mark_prefix_iff] at hbegins
          · exact hpart (List.append_left_eq_self.mp hbegins)
          · intro hspace
            rcases List.mem_append.mp hspace with hspace | hspace
            · exact h (List.mem_append_left _ (hsuffix.subset hspace))
            · exact not_mem_type_mark hspace
      have hsep : withoutMarks (typeMark ++ ' ' :: rest) = [' '] ++ withoutMarks rest := replace_sep
      rw [hpass, hsep]
      rfl
  · next hmark =>
      have hpass : withoutMarks (word ++ [' '] ++ rest) = word ++ [' '] ++ withoutMarks rest :=
        replace_pass fun part hpart hsuffix hbegins => by
          rcases List.suffix_concat_iff.mp hsuffix with rfl | ⟨back, rfl, hback⟩
          · exact hpart rfl
          · rw [List.append_assoc, List.singleton_append,
              type_mark_prefix_iff fun hspace => h (hback.subset hspace)] at hbegins
            exact hmark (List.isSuffixOf_iff_suffix.mpr (hbegins ▸ hback))
      rw [List.append_assoc, List.append_assoc] at hpass
      exact hpass

/-- A last word stays. -/
theorem without_marks_last (h : ' ' ∉ word) : withoutMarks word = word := by
  have hcount : word.count ' ' < (typeMark ++ [' ']).count ' ' := by
    rw [List.count_eq_zero.mpr h]
    decide
  rw [withoutMarks, replaceChars, split_chars_of_count_lt hcount, List.intercalate_singleton]

/-- A word that ends otherwise has no mark at its end. -/
theorem without_mark_concat (word : List Char) {c : Char} (hc : c ≠ 'e') :
    withoutMark (word ++ [c]) = word ++ [c] := by
  rw [withoutMark, if_neg]
  intro hmark
  obtain ⟨front, hfront⟩ := List.isSuffixOf_iff_suffix.mp hmark
  have hlast := congrArg List.getLast? hfront
  rw [List.getLast?_append, List.getLast?_concat] at hlast
  exact hc (Option.some.inj hlast).symm

end Marks

end Text

section Printed

variable {e : ImportEntry} {word rest : List Char} {last : Bool}

/-- What stands between a name and its new name. -/
def renameMark : List Char := [' ', 'a', 's', ' ']

/-- What ends the text of an entry before a space. -/
def entryStop (last : Bool) : List Char := if last then [] else [',']

/-- A word of an entry as it is read before a space. -/
def readWord (last : Bool) (word : List Char) : List Char := if last then withoutMark word else word

theorem without_mark_stop (last : Bool) (word : List Char) :
    withoutMark (word ++ entryStop last) = readWord last word ++ entryStop last := by
  cases last with
  | false => exact without_mark_concat word (by decide)
  | true => simp [entryStop, readWord]

theorem not_mem_entry_stop (last : Bool) : ' ' ∉ entryStop last := by
  cases last <;> decide

theorem without_marks_stopped_word (h : ' ' ∉ word) (last : Bool) (rest : List Char) :
    withoutMarks (word ++ (entryStop last ++ ' ' :: rest)) =
      readWord last word ++ (entryStop last ++ ' ' :: withoutMarks rest) := by
  have hword : ' ' ∉ word ++ entryStop last :=
    fun hspace => (List.mem_append.mp hspace).elim h (not_mem_entry_stop last)
  rw [← List.append_assoc, without_marks_word hword, without_mark_stop, List.append_assoc]

namespace ImportEntry

/-- The name and the new name of an entry as they are read. -/
def readNames (e : ImportEntry) (last : Bool) : List Char :=
  match e.rename with
  | none => readWord last e.name.toList
  | some a => withoutMark e.name.toList ++ (renameMark ++ readWord last a.toList)

/-- An entry as it is read. -/
def read (e : ImportEntry) (last : Bool) : List Char :=
  (if e.typeOnly then [' '] else []) ++ e.readNames last

theorem IsProper.not_mem_name (h : e.IsProper) {c : Char} (hc : isNameChar c = false) :
    c ∉ e.name.toList := not_mem_of_is_name h.name hc

theorem without_marks_names (h : e.IsProper) (last : Bool) (rest : List Char) :
    withoutMarks (e.name.toList ++ e.asText.toList ++ (entryStop last ++ ' ' :: rest)) =
      e.readNames last ++ (entryStop last ++ ' ' :: withoutMarks rest) := by
  have hname := h.not_mem_name (c := ' ') (by decide)
  unfold readNames asText
  cases hrename : e.rename with
  | none =>
      have hnone : ((none : Option String).map (" as " ++ ·)).getD "" = "" := rfl
      rw [hnone, String.toList_empty, List.append_nil]
      exact without_marks_stopped_word hname last rest
  | some a =>
      have ha := not_mem_of_is_name (h.rename a hrename) (c := ' ') (by decide)
      have hsplit : e.name.toList ++ (" as " ++ a).toList ++ (entryStop last ++ ' ' :: rest) =
          e.name.toList ++ ' ' :: (['a', 's'] ++ ' ' ::
            (a.toList ++ (entryStop last ++ ' ' :: rest))) := by simp
      have has : withoutMark ['a', 's'] = ['a', 's'] := without_mark_concat ['a'] (by decide)
      rw [Option.map_some, Option.getD_some, hsplit, without_marks_word hname,
        without_marks_word (by decide), has, without_marks_stopped_word ha]
      simp [renameMark]

/-- The text of an entry loses the mark of a type, and of its names those marks that stand before a
space. -/
theorem without_marks_text (h : e.IsProper) (last : Bool) (rest : List Char) :
    withoutMarks (e.text.toList ++ (entryStop last ++ ' ' :: rest)) =
      e.read last ++ (entryStop last ++ ' ' :: withoutMarks rest) := by
  unfold text read
  cases e.typeOnly with
  | false =>
      have hnames := without_marks_names h last rest
      simpa using hnames
  | true =>
      have hmark : withoutMark typeMark = [] := by decide
      have hsplit : ("type " ++ e.name ++ e.asText).toList ++ (entryStop last ++ ' ' :: rest) =
          typeMark ++ ' ' :: (e.name.toList ++ e.asText.toList ++
            (entryStop last ++ ' ' :: rest)) := by
        simp [typeMark]
      rw [if_pos rfl, hsplit, without_marks_word not_mem_type_mark, hmark,
        without_marks_names h]
      simp

end ImportEntry

/-- The entries of a list, each with whether it is the last one. -/
def withLast : List ImportEntry → List (ImportEntry × Bool)
  | [] => []
  | [e] => [(e, true)]
  | e :: f :: rest => (e, false) :: withLast (f :: rest)

/-- The piece between commas in which an entry is read. -/
def readPiece (entry : ImportEntry × Bool) : List Char :=
  ' ' :: (entry.1.read entry.2 ++ if entry.2 then [' '] else [])

/-- The text between the braces comes to the pieces of its entries. -/
theorem without_marks_entries {entries : List ImportEntry} (hne : entries ≠ [])
    (h : ∀ e ∈ entries, e.IsProper) :
    ' ' :: withoutMarks (List.intercalate [',', ' '] (entries.map (·.text.toList)) ++ [' ', '\x7d']) =
      List.intercalate [','] ((withLast entries).map readPiece) ++ ['\x7d'] := by
  induction entries with
  | nil => exact absurd rfl hne
  | cons e entries ih =>
      obtain ⟨he, hentries⟩ := List.forall_mem_cons.mp h
      cases entries with
      | nil =>
          have htext := ImportEntry.without_marks_text he true ['\x7d']
          have hbrace : withoutMarks ['\x7d'] = ['\x7d'] := without_marks_last (by decide)
          rw [hbrace] at htext
          simpa [entryStop, withLast, readPiece] using htext
      | cons f entries =>
          have hlater := ih (List.cons_ne_nil f entries) hentries
          have hsplit : List.intercalate [',', ' '] ((e :: f :: entries).map (·.text.toList)) ++
                [' ', '\x7d'] =
              e.text.toList ++ (entryStop false ++ ' ' ::
                (List.intercalate [',', ' '] ((f :: entries).map (·.text.toList)) ++
                  [' ', '\x7d'])) := by
            simp [entryStop, List.intercalate_cons_cons]
          have hpieces : List.intercalate [','] ((withLast (e :: f :: entries)).map readPiece) =
              ' ' :: e.read false ++
                (',' :: List.intercalate [','] ((withLast (f :: entries)).map readPiece)) := by
            have hne : (withLast (f :: entries)).map readPiece ≠ [] := by
              cases entries <;> simp [withLast]
            obtain ⟨next, later, hnext⟩ := List.exists_cons_of_ne_nil hne
            rw [withLast, List.map_cons, hnext, List.intercalate_cons_cons, ← hnext]
            simp [readPiece]
          rw [hsplit, ImportEntry.without_marks_text he, hlater, hpieces]
          simp [entryStop]

end Printed

section Read

variable {cs before after name new : List Char}

/-- A text of at most one space is no renaming, and names itself. -/
theorem entry_name_of_count (hcount : cs.count ' ' < 2) (h : IsTrimmed isBlank cs) :
    entryName (String.ofList cs) = String.ofList cs := by
  have hsep : renameMark.count ' ' = 2 := by decide
  rw [entryName, splitOn, String.toList_ofList, String.toList_ofList, ← renameMark,
    split_chars_of_count_lt (hsep ▸ hcount)]
  exact strip_of_is_trimmed h

/-- A renaming names the new name. -/
theorem entry_name_of_renaming (hname : ' ' ∉ name) (hnew : ' ' ∉ new) (h : IsTrimmed isBlank new) :
    entryName (String.ofList (name ++ (renameMark ++ new))) = String.ofList new := by
  have hsplit : splitChars renameMark (name ++ (renameMark ++ new)) = [name, new] := by
    have happend := split_chars_append hname ['a', 's', ' '] new
    rw [split_chars_of_not_mem hnew] at happend
    exact happend
  rw [entryName, splitOn, String.toList_ofList, String.toList_ofList, ← renameMark, hsplit]
  exact strip_of_is_trimmed h

/-- What a piece of a named list is read as, if anything. -/
def heardPiece (piece : List Char) : Option String :=
  if (strip (String.ofList piece)).isEmpty then none
  else some (entryName (strip (String.ofList piece)))

/-- What an entry is read as, if anything. -/
def heardName (entry : ImportEntry × Bool) : Option String := heardPiece (readPiece entry)

/-- No name of an entry is taken for the mark of a type. -/
structure ImportEntry.KeepsMarksApart (e : ImportEntry) (last : Bool) : Prop where
  renamed : e.rename.isSome → e.name ≠ "type"
  last : last = true → endsWith e.bound "type" = false

theorem without_mark_sublist (word : List Char) : (withoutMark word).Sublist word := by
  unfold withoutMark
  split
  · exact List.take_sublist _ _
  · exact List.Sublist.refl _

theorem read_word_sublist (last : Bool) (word : List Char) : (readWord last word).Sublist word := by
  cases last with
  | false => exact List.Sublist.refl _
  | true => exact without_mark_sublist word

/-- A word is read as it is exactly if it has no mark at its end. -/
theorem without_mark_eq_self_iff {word : String} :
    withoutMark word.toList = word.toList ↔ endsWith word "type" = false := by
  change _ ↔ typeMark.isSuffixOf word.toList = false
  unfold withoutMark
  cases hmark : typeMark.isSuffixOf word.toList with
  | false => simp
  | true =>
      have hlength := (List.isSuffixOf_iff_suffix.mp hmark).length_le
      have hfour : typeMark.length = 4 := rfl
      refine iff_of_false (fun heq => ?_) nofun
      have htake := congrArg List.length heq
      rw [if_pos rfl, List.length_take] at htake
      omega

theorem read_word_eq_self_iff {last : Bool} {word : String} :
    readWord last word.toList = word.toList ↔ (last = true → endsWith word "type" = false) := by
  cases last with
  | false => simp [readWord]
  | true => simp [readWord, without_mark_eq_self_iff]

/-- Nothing is left of a word exactly if it is the mark. -/
theorem without_mark_eq_nil_iff {word : String} (h : word.toList ≠ []) :
    withoutMark word.toList = [] ↔ word = "type" := by
  constructor
  · intro hnil
    unfold withoutMark at hnil
    split at hnil
    · next hmark =>
        have hsuffix := List.isSuffixOf_iff_suffix.mp hmark
        have hfour : typeMark.length = 4 := rfl
        have hlength : word.toList.length ≤ typeMark.length := by
          rcases List.take_eq_nil_iff.mp hnil with hzero | hnil
          · omega
          · exact absurd hnil h
        exact String.toList_inj.mp (hsuffix.eq_of_length_le hlength).symm
    · exact absurd hnil h
  · rintro rfl
    decide

theorem eq_space_of_mem (b : Bool) : ∀ c ∈ (if b then [' '] else []), c = ' ' := by
  cases b <;> simp

variable {e : ImportEntry} {last : Bool}

/-- What an entry is read as if its names are a trimmed text with blanks around it. -/
theorem heard_name_eq (hnames : e.readNames last = before ++ (cs ++ after))
    (hbefore : ∀ c ∈ before, isBlank c = true) (hafter : ∀ c ∈ after, isBlank c = true)
    (h : IsTrimmed isBlank cs) :
    heardName (e, last) = if cs.isEmpty then none else some (entryName (String.ofList cs)) := by
  have hpiece : readPiece (e, last) =
      (' ' :: ((if e.typeOnly then [' '] else []) ++ before)) ++
        (cs ++ (after ++ if last then [' '] else [])) := by
    simp [readPiece, ImportEntry.read, hnames]
  have hspace : ∀ b : Bool, ∀ c ∈ (if b then [' '] else []), isBlank c = true :=
    fun b c hc => eq_space_of_mem b c hc ▸ rfl
  have hleft : ∀ c ∈ ' ' :: ((if e.typeOnly then [' '] else []) ++ before), isBlank c = true :=
    List.forall_mem_cons.mpr ⟨by decide, List.forall_mem_append.mpr ⟨hspace e.typeOnly, hbefore⟩⟩
  have hright : ∀ c ∈ after ++ (if last then [' '] else []), isBlank c = true :=
    List.forall_mem_append.mpr ⟨hafter, hspace last⟩
  rw [heardName, heardPiece, hpiece, strip_surrounded hleft hright h]
  cases cs <;> simp

/-- An entry that is read as no renaming is read as its trimmed text, or not at all. -/
theorem heard_name_eq_some_iff {bound : String} (hbound : bound.toList ≠ [])
    (hnames : e.readNames last = before ++ (cs ++ after))
    (hbefore : ∀ c ∈ before, isBlank c = true) (hafter : ∀ c ∈ after, isBlank c = true)
    (h : IsTrimmed isBlank cs) (hcount : cs.count ' ' < 2) :
    heardName (e, last) = some bound ↔ cs = bound.toList := by
  rw [heard_name_eq hnames hbefore hafter h, entry_name_of_count hcount h]
  split
  · next hempty =>
      rw [List.isEmpty_iff.mp hempty]
      exact iff_of_false nofun (Ne.symm hbound)
  · rw [Option.some_inj, ← String.toList_inj, String.toList_ofList]

theorem is_trimmed_of_is_name_chars (h : ∀ c ∈ cs, isNameChar c = true) : IsTrimmed isBlank cs :=
  is_trimmed_of_forall fun c hc => not_is_blank_of_is_name_char (h c hc)

theorem count_space_of_is_name_chars (h : ∀ c ∈ cs, isNameChar c = true) : cs.count ' ' = 0 :=
  List.count_eq_zero.mpr fun hmem => absurd (h ' ' hmem) (by decide)

/-- An entry without a new name is read as its name exactly if its name has no mark at its end
where one counts. -/
theorem heard_name_of_plain (he : e.IsProper) (hrename : e.rename = none) :
    heardName (e, last) = some e.bound ↔ e.KeepsMarksApart last := by
  have hbound : e.bound = e.name := by simp [ImportEntry.bound, hrename]
  have hchars : ∀ c ∈ readWord last e.name.toList, isNameChar c = true :=
    fun c hc => he.name.chars c ((read_word_sublist last e.name.toList).subset hc)
  have hnames : e.readNames last = [] ++ (readWord last e.name.toList ++ []) := by
    simp [ImportEntry.readNames, hrename]
  have hcount : (readWord last e.name.toList).count ' ' < 2 := by
    rw [count_space_of_is_name_chars hchars]
    decide
  rw [heard_name_eq_some_iff (hbound ▸ he.name.nonempty) hnames nofun nofun
    (is_trimmed_of_is_name_chars hchars) hcount, hbound, read_word_eq_self_iff, ← hbound]
  exact ⟨fun h => ⟨by simp [hrename], h⟩, fun h => h.last⟩

section Renamed

variable {bound : String}

theorem is_trimmed_rename_word : IsTrimmed isBlank ['a', 's'] :=
  is_trimmed_of_forall (by simp [isBlank])

/-- If nothing is left of its own name, an entry is read with the word of the renaming. -/
theorem heard_name_of_lost_name (hbound : IsName bound)
    (hnames : e.readNames last = renameMark ++ new) (hnew : ∀ c ∈ new, isNameChar c = true)
    (hword : new = [] → bound.toList ≠ ['a', 's']) : heardName (e, last) ≠ some bound := by
  have hblank : ∀ c ∈ [' '], isBlank c = true := List.forall_mem_singleton.mpr rfl
  by_cases hnil : new = []
  · subst hnil
    have hread : e.readNames last = [' '] ++ (['a', 's'] ++ [' ']) := hnames
    rw [Ne, heard_name_eq_some_iff hbound.nonempty hread hblank hblank is_trimmed_rename_word
      (by decide)]
    exact (hword rfl).symm
  · have hread : e.readNames last = [' '] ++ (['a', 's'] ++ ([' '] ++ new) ++ []) := by
      rw [hnames]
      simp [renameMark]
    have htrim := IsTrimmed.append is_trimmed_rename_word (is_trimmed_of_is_name_chars hnew)
      (by decide) hnil [' ']
    rw [Ne, heard_name_eq_some_iff hbound.nonempty hread hblank nofun htrim
      (by simp [count_space_of_is_name_chars hnew])]
    exact fun heq => not_mem_of_is_name hbound (c := ' ') (by decide) (heq ▸ by simp)

/-- If nothing is left of its new name, an entry is read with the word of the renaming. -/
theorem heard_name_of_lost_rename (hbound : IsName bound)
    (hnames : e.readNames last = name ++ renameMark) (hname : ∀ c ∈ name, isNameChar c = true)
    (hnil : name ≠ []) : heardName (e, last) ≠ some bound := by
  have hread : e.readNames last = [] ++ (name ++ ([' '] ++ ['a', 's']) ++ [' ']) := by
    rw [hnames]
    simp [renameMark]
  have hblank : ∀ c ∈ [' '], isBlank c = true := List.forall_mem_singleton.mpr rfl
  have htrim := (is_trimmed_of_is_name_chars hname).append is_trimmed_rename_word hnil (by decide)
    [' ']
  rw [Ne, heard_name_eq_some_iff hbound.nonempty hread nofun hblank htrim
    (by simp [List.count_append, count_space_of_is_name_chars hname])]
  exact fun heq => not_mem_of_is_name hbound (c := ' ') (by decide) (heq ▸ by simp)

/-- If something is left of both names, an entry is read as what is left of the new one. -/
theorem heard_name_of_both (hnames : e.readNames last = name ++ (renameMark ++ new))
    (hname : ∀ c ∈ name, isNameChar c = true) (hnew : ∀ c ∈ new, isNameChar c = true)
    (hnameNil : name ≠ []) (hnewNil : new ≠ []) :
    heardName (e, last) = some (String.ofList new) := by
  have hread : e.readNames last = [] ++ (name ++ (renameMark ++ new) ++ []) := by
    rw [hnames]
    simp
  have hnameTrim := is_trimmed_of_is_name_chars hname
  have hnewTrim := is_trimmed_of_is_name_chars hnew
  have hnameSpace := List.count_eq_zero.mp (count_space_of_is_name_chars hname)
  have hnewSpace := List.count_eq_zero.mp (count_space_of_is_name_chars hnew)
  rw [heard_name_eq hread nofun nofun (hnameTrim.append hnewTrim hnameNil hnewNil renameMark),
    entry_name_of_renaming hnameSpace hnewSpace hnewTrim, if_neg (by simp [hnameNil])]

/-- An entry with a new name is read as this name exactly if something is left of its own name and
the new name has no mark at its end where one counts. -/
theorem heard_name_of_renamed (he : e.IsProper) (hrename : e.rename = some bound) :
    heardName (e, last) = some e.bound ↔ e.KeepsMarksApart last := by
  have hbound : e.bound = bound := by simp [ImportEntry.bound, hrename]
  have hproper := he.rename bound hrename
  have hkeeps : e.KeepsMarksApart last ↔
      withoutMark e.name.toList ≠ [] ∧ readWord last bound.toList = bound.toList := by
    rw [read_word_eq_self_iff, Ne, without_mark_eq_nil_iff he.name.nonempty, ← hbound]
    exact ⟨fun h => ⟨h.renamed (by simp [hrename]), h.last⟩, fun h => ⟨fun _ => h.1, h.2⟩⟩
  have hnames : e.readNames last =
      withoutMark e.name.toList ++ (renameMark ++ readWord last bound.toList) := by
    simp [ImportEntry.readNames, hrename]
  have hname : ∀ c ∈ withoutMark e.name.toList, isNameChar c = true :=
    fun c hc => he.name.chars c ((without_mark_sublist _).subset hc)
  have hnew : ∀ c ∈ readWord last bound.toList, isNameChar c = true :=
    fun c hc => hproper.chars c ((read_word_sublist last _).subset hc)
  rw [hbound, hkeeps]
  -- What is left of an entry that has lost one of its names is no renaming any more.
  by_cases hnameNil : withoutMark e.name.toList = []
  · rw [hnameNil, List.nil_append] at hnames
    refine iff_of_false (heard_name_of_lost_name hproper hnames hnew ?_) fun h => h.1 hnameNil
    intro hnil heq
    rw [heq] at hnil
    cases last <;> exact absurd hnil (by decide)
  · by_cases hnewNil : readWord last bound.toList = []
    · rw [hnewNil, List.append_nil] at hnames
      refine iff_of_false (heard_name_of_lost_rename hproper hnames hname hnameNil) fun h => ?_
      exact hproper.nonempty (h.2.symm.trans hnewNil)
    · rw [heard_name_of_both hnames hname hnew hnameNil hnewNil, and_iff_right hnameNil,
        Option.some_inj, ← String.toList_inj, String.toList_ofList]

end Renamed

/-- An entry is read as the name that it binds exactly if none of its names is taken for a mark. -/
theorem heard_name_iff (he : e.IsProper) :
    heardName (e, last) = some e.bound ↔ e.KeepsMarksApart last := by
  cases hrename : e.rename with
  | none => exact heard_name_of_plain he hrename
  | some a => exact heard_name_of_renamed he hrename

end Read

end ComponentMigration
