import Mathlib.Data.List.Forall2
import ComponentMigration.Proofs.Source.Entry

/-!
# What the text of an import clause binds

The names outside the braces of a clause are read part by part (`heard_loose_parts`), those between
the braces entry by entry.  So the text of a clause is read as the names that its tree binds exactly
if no name of the named list is taken for the mark of a type (`clause_bindings_eq_iff`); with a name
that ends in `type` before the closing brace they differ (`clause_bindings_lose_type`).
-/

namespace ComponentMigration

open Text

/-- An import clause: the default import, the import of the whole module, and the named list. -/
structure ImportClause where
  single : Option String := none
  whole : Option String := none
  named : Option (List ImportEntry) := none

namespace ImportClause

/-- The text of a named list. -/
def listText (entries : List ImportEntry) : String :=
  if entries.isEmpty then "\x7b\x7d"
  else "\x7b " ++ String.intercalate ", " (entries.map ImportEntry.text) ++ " \x7d"

/-- The parts of a clause outside the braces. -/
def looseTexts (c : ImportClause) : List String :=
  c.single.toList ++ (c.whole.map ("* as " ++ ·)).toList

/-- The text of a clause in its usual form. -/
def text (c : ImportClause) : String :=
  String.intercalate ", " (c.looseTexts ++ (c.named.map listText).toList)

/-- The names bound outside the named list. -/
def looseNames (c : ImportClause) : List String := c.single.toList ++ c.whole.toList

/-- The names bound by the named list. -/
def listedNames (c : ImportClause) : List String := (c.named.getD []).map ImportEntry.bound

/-- A clause of identifiers. -/
structure IsProper (c : ImportClause) : Prop where
  single : ∀ n ∈ c.single, IsName n
  whole : ∀ n ∈ c.whole, IsName n
  named : ∀ entries ∈ c.named, ∀ e ∈ entries, e.IsProper

/-- No name of the named list can be taken for the mark of a type: none that is bound under another
name is `type`, and the name that stands before the closing brace does not end in `type`. -/
structure KeepsMarksApart (c : ImportClause) : Prop where
  renamed : ∀ entries ∈ c.named, ∀ e ∈ entries, e.rename.isSome → e.name ≠ "type"
  last : ∀ entries ∈ c.named, ∀ e ∈ entries.getLast?, endsWith e.bound "type" = false

end ImportClause


section Loose

variable {part cs : List Char} {parts : List (List Char)} {n : String} {names : List String}

/-- What stands before the name of a whole module. -/
def wholeMark : List Char := ['*', ' ', 'a', 's', ' ']

/-- A part of a clause outside the braces: the name of the default import, or that of the whole
module after its mark. -/
def BindsLoosely (part : List Char) (n : String) : Prop :=
  IsName n ∧ (part = n.toList ∨ part = wholeMark ++ n.toList)

/-- What a part outside the braces is read as, if anything. -/
def heardPart (part : List Char) : Option String := looseName? (String.ofList part)

theorem without_marks_whole (cs : List Char) :
    withoutMarks (wholeMark ++ cs) = wholeMark ++ withoutMarks cs := by
  have hstar : withoutMark ['*'] = ['*'] := by decide
  have has : withoutMark ['a', 's'] = ['a', 's'] := by decide
  have hfirst : withoutMarks (['*'] ++ ' ' :: (['a', 's'] ++ ' ' :: cs)) =
      withoutMark ['*'] ++ ' ' :: withoutMarks (['a', 's'] ++ ' ' :: cs) :=
    without_marks_word (by decide) _
  have hsecond : withoutMarks (['a', 's'] ++ ' ' :: cs) =
      withoutMark ['a', 's'] ++ ' ' :: withoutMarks cs := without_marks_word (by decide) _
  rw [hsecond, hstar, has] at hfirst
  exact hfirst

namespace BindsLoosely

/-- A part outside the braces loses nothing. -/
theorem without_marks_append (h : BindsLoosely part n) (cs : List Char) :
    withoutMarks (part ++ ',' :: ' ' :: cs) = part ++ ',' :: ' ' :: withoutMarks cs := by
  obtain ⟨hname, hpart⟩ := h
  have hword := without_marks_stopped_word (not_mem_of_is_name hname (by decide)) false cs
  rcases hpart with rfl | rfl
  · exact hword
  · rw [List.append_assoc, List.append_assoc, without_marks_whole]
    exact congrArg _ hword

theorem without_marks_eq_self (h : BindsLoosely part n) : withoutMarks part = part := by
  obtain ⟨hname, hpart⟩ := h
  have hword := without_marks_last (not_mem_of_is_name hname (c := ' ') (by decide))
  rcases hpart with rfl | rfl
  · exact hword
  · rw [without_marks_whole, hword]

theorem not_mem (h : BindsLoosely part n) {c : Char} (hname : isNameChar c = false)
    (hmark : c ∉ wholeMark) : c ∉ part := by
  rcases h.2 with rfl | rfl
  · exact not_mem_of_is_name h.1 hname
  · exact fun hmem => (List.mem_append.mp hmem).elim hmark (not_mem_of_is_name h.1 hname)

/-- A part outside the braces is read as its name. -/
theorem heard_part_eq (h : BindsLoosely part n) : heardPart part = some n := by
  obtain ⟨hname, hpart⟩ := h
  have htrim : IsTrimmed isBlank n.toList :=
    is_trimmed_of_forall fun c hc => not_is_blank_of_is_name_char (hname.chars c hc)
  have hstrip : strip n = n := by
    have hstrip := strip_of_is_trimmed htrim
    rwa [String.ofList_toList] at hstrip
  rcases hpart with rfl | rfl
  · have hmark : startsWith n "* as " = false := by
      refine Bool.eq_false_iff.mpr fun hmark => ?_
      have hbegins : wholeMark <+: n.toList := List.isPrefixOf_iff_prefix.mp hmark
      exact not_mem_of_is_name hname (c := '*') (by decide) (hbegins.subset (by decide))
    have hnonempty : n.isEmpty = false := by simpa using hname.nonempty
    unfold heardPart looseName?
    simp only [String.ofList_toList, hstrip, hmark, hnonempty]
    rfl
  · have hstar : IsTrimmed isBlank ['*'] :=
      is_trimmed_of_forall (List.forall_mem_singleton.mpr rfl)
    have hwhole : strip (String.ofList (wholeMark ++ n.toList)) =
        String.ofList (wholeMark ++ n.toList) :=
      strip_of_is_trimmed <|
        hstar.append htrim (by decide) hname.nonempty [' ', 'a', 's', ' ']
    have hmark : startsWith (String.ofList (wholeMark ++ n.toList)) "* as " = true := by
      rw [startsWith, String.toList_ofList, String.toList_ofList]
      exact List.isPrefixOf_iff_prefix.mpr (List.prefix_append wholeMark n.toList)
    have hdrop : Text.drop 5 (String.ofList (wholeMark ++ n.toList)) = n := by
      rw [Text.drop, String.toList_ofList]
      exact String.ofList_toList
    unfold heardPart looseName?
    simp only [hwhole, hmark, hdrop, hstrip]
    rfl

end BindsLoosely

/-- Nothing is lost before the last part if the others bind names outside the braces. -/
theorem without_marks_loose_parts (h : List.Forall₂ BindsLoosely parts names) (cs : List Char) :
    withoutMarks (List.intercalate [',', ' '] (parts ++ [cs])) =
      List.intercalate [',', ' '] (parts ++ [withoutMarks cs]) := by
  induction h with
  | nil => simp
  | @cons part n parts names hpart _ ih =>
      have happend := hpart.without_marks_append (List.intercalate [',', ' '] (parts ++ [cs]))
      rw [ih] at happend
      rw [intercalate_cons_concat, intercalate_cons_concat]
      exact happend

theorem without_marks_loose (h : List.Forall₂ BindsLoosely parts names) :
    withoutMarks (List.intercalate [',', ' '] parts) = List.intercalate [',', ' '] parts := by
  induction h with
  | nil => decide
  | @cons part n parts names hpart hparts ih =>
      cases parts with
      | nil => simpa using hpart.without_marks_eq_self
      | cons next parts =>
          rw [List.intercalate_cons_cons]
          have happend := hpart.without_marks_append (List.intercalate [',', ' '] (next :: parts))
          rw [ih] at happend
          simpa using happend

theorem heard_part_nil : heardPart [] = none := rfl

/-- A space at the start of a part does not count. -/
theorem heard_part_space (cs : List Char) : heardPart (' ' :: cs) = heardPart cs := by
  have hstrip : strip (String.ofList (' ' :: cs)) = strip (String.ofList cs) := by
    have hblank : isBlank ' ' = true := by decide
    simp [strip, stripOf, trimWhile, hblank]
  unfold heardPart looseName?
  simp only [hstrip]

/-- The first part and the others, each after a space. -/
def spacedParts : List (List Char) → List (List Char)
  | [] => [[]]
  | part :: parts => part :: parts.map (' ' :: ·)

theorem intercalate_spaced_parts (parts : List (List Char)) :
    List.intercalate [','] (spacedParts parts) = List.intercalate [',', ' '] parts := by
  cases parts with
  | nil => rfl
  | cons part parts =>
      induction parts generalizing part with
      | nil => simp [spacedParts]
      | cons next parts ih =>
          have hlater := ih next
          simp only [spacedParts, List.map_cons, List.intercalate_cons_cons] at hlater ⊢
          cases parts <;> simp_all [List.intercalate_cons_cons]

/-- Joined parts are cut apart at the commas. -/
theorem split_loose_parts (h : ∀ part ∈ parts, ',' ∉ part) :
    splitChars [','] (List.intercalate [',', ' '] parts) = spacedParts parts := by
  rw [← intercalate_spaced_parts]
  cases parts with
  | nil => exact split_chars_intercalate (by decide) (by decide)
  | cons part parts =>
      obtain ⟨hpart, hparts⟩ := List.forall_mem_cons.mp h
      refine split_chars_intercalate (List.cons_ne_nil _ _) (List.forall_mem_cons.mpr ⟨hpart, ?_⟩)
      intro spaced hspaced
      obtain ⟨cs, hcs, rfl⟩ := List.mem_map.mp hspaced
      exact fun hmem => (List.mem_cons.mp hmem).elim (by decide) (hparts cs hcs)

/-- The parts outside the braces are read one by one. -/
theorem heard_loose_parts (h : ∀ part ∈ parts, ',' ∉ part) :
    (splitOn (String.ofList (List.intercalate [',', ' '] parts)) ",").filterMap looseName? =
      parts.filterMap heardPart := by
  have hread : looseName? ∘ String.ofList = heardPart := by
    funext part
    unfold heardPart
    rw [Function.comp_apply]
  rw [splitOn, String.toList_ofList, String.toList_ofList, split_loose_parts h, List.filterMap_map,
    hread]
  cases parts with
  | nil => simp [spacedParts, heard_part_nil]
  | cons part parts =>
      simp [spacedParts, List.filterMap_cons, List.filterMap_map, heard_part_space]

theorem heard_parts_eq (h : List.Forall₂ BindsLoosely parts names) :
    parts.filterMap heardPart = names := by
  induction h with
  | nil => rfl
  | cons hpart _ ih => rw [List.filterMap_cons, hpart.heard_part_eq, ih]

theorem not_mem_of_binds_loosely (h : List.Forall₂ BindsLoosely parts names) {c : Char}
    (hname : isNameChar c = false) (hmark : c ∉ wholeMark) (hpart : part ∈ parts) : c ∉ part := by
  induction h with
  | nil => exact absurd hpart List.not_mem_nil
  | cons hfirst _ ih =>
      rcases List.mem_cons.mp hpart with rfl | hpart
      · exact hfirst.not_mem hname hmark
      · exact ih hpart

end Loose

section Braces

variable {before inside after cs : List Char}

/-- A text is split at its first braces. -/
theorem split_braces_eq (hbefore : '\x7b' ∉ before) (hinside : '\x7d' ∉ inside) :
    splitBraces (before ++ '\x7b' :: (inside ++ '\x7d' :: after)) = some (before, inside, after) := by
  have hleft : ∀ c ∈ before, (c != '\x7b') = true :=
    fun c hc => bne_iff_ne.mpr (ne_of_mem_of_not_mem hc hbefore)
  have hright : ∀ c ∈ inside, (c != '\x7d') = true :=
    fun c hc => bne_iff_ne.mpr (ne_of_mem_of_not_mem hc hinside)
  have hopen : ('\x7b' != '\x7b') = false := by decide
  have hclose : ('\x7d' != '\x7d') = false := by decide
  unfold splitBraces
  simp only [List.dropWhile_append_of_pos hleft, List.takeWhile_append_of_pos hleft,
    List.dropWhile_append_of_pos hright, List.takeWhile_append_of_pos hright, List.dropWhile_cons,
    List.takeWhile_cons, hopen, hclose, Bool.false_eq_true, if_false, List.append_nil]

theorem split_braces_of_not_mem (h : '\x7b' ∉ cs) : splitBraces cs = none := by
  have hdrop : cs.dropWhile (· != '\x7b') = [] :=
    List.dropWhile_eq_nil_iff.mpr fun c hc => bne_iff_ne.mpr (ne_of_mem_of_not_mem hc h)
  unfold splitBraces
  simp only [hdrop]

variable {text : String}

theorem replace_type_mark (text : String) :
    replace text "type " " " = String.ofList (withoutMarks text.toList) := by
  rw [replace_eq]
  rfl

/-- A clause with braces is read between and around them. -/
theorem clause_bindings_of_braces
    (h : withoutMarks text.toList = before ++ '\x7b' :: (inside ++ '\x7d' :: after))
    (hbefore : '\x7b' ∉ before) (hinside : '\x7d' ∉ inside) :
    clauseBindings text =
      (((splitOn (String.ofList inside) ",").map strip).filter (!·.isEmpty)).map entryName ++
        (splitOn (String.ofList (before ++ after)) ",").filterMap looseName? := by
  unfold clauseBindings
  rw [replace_type_mark, h]
  simp only [String.toList_ofList, split_braces_eq hbefore hinside]

theorem clause_bindings_of_loose (h : withoutMarks text.toList = cs) (hcs : '\x7b' ∉ cs) :
    clauseBindings text = (splitOn (String.ofList cs) ",").filterMap looseName? := by
  unfold clauseBindings
  rw [replace_type_mark, h]
  simp only [String.toList_ofList, split_braces_of_not_mem hcs]

end Braces

section Clauses

variable {c : ImportClause} {entries : List ImportEntry}

/-- The parts of a clause outside the braces bind its names there. -/
theorem ImportClause.IsProper.binds_loosely (h : c.IsProper) :
    List.Forall₂ BindsLoosely (c.looseTexts.map String.toList) c.looseNames := by
  rw [List.forall₂_map_left_iff, ImportClause.looseTexts, ImportClause.looseNames]
  refine List.rel_append ?_ ?_
  · cases hsingle : c.single with
    | none => exact .nil
    | some n => exact .cons ⟨h.single n hsingle, .inl rfl⟩ .nil
  · cases hwhole : c.whole with
    | none => exact .nil
    | some n => exact .cons ⟨h.whole n hwhole, .inr (String.toList_append ..)⟩ .nil

/-- The text of a named list comes to the pieces of its entries. -/
theorem without_marks_list_text (h : ∀ e ∈ entries, e.IsProper) :
    withoutMarks (ImportClause.listText entries).toList =
      '\x7b' :: (List.intercalate [','] ((withLast entries).map readPiece) ++ ['\x7d']) := by
  cases entries with
  | nil => decide
  | cons e entries =>
      have hbrace : withoutMark ['\x7b'] = ['\x7b'] := by decide
      have htext : (ImportClause.listText (e :: entries)).toList = ['\x7b'] ++ ' ' ::
          (List.intercalate [',', ' '] ((e :: entries).map (·.text.toList)) ++ [' ', '\x7d']) := by
        simp [ImportClause.listText, String.toList_intercalate, Function.comp_def]
      rw [htext, without_marks_word (by decide), hbrace,
        without_marks_entries (List.cons_ne_nil e entries) h]
      rfl

/-- The characters of the pieces of entries. -/
theorem read_piece_chars {e : ImportEntry} (h : e.IsProper) (last : Bool) :
    ∀ c ∈ readPiece (e, last), isNameChar c = true ∨ c = ' ' := by
  have hword : ∀ name, IsName name → ∀ word : List Char, word.Sublist name.toList →
      ∀ c ∈ word, isNameChar c = true ∨ c = ' ' :=
    fun name hname word hsub c hc => .inl (hname.chars c (hsub.subset hc))
  have hspace : ∀ b : Bool, ∀ c ∈ (if b then [' '] else []), isNameChar c = true ∨ c = ' ' :=
    fun b c hc => .inr (eq_space_of_mem b c hc)
  have hletter : isNameChar 'a' = true ∧ isNameChar 's' = true := by decide
  have hrename : ∀ c ∈ renameMark, isNameChar c = true ∨ c = ' ' := by
    simp [renameMark, hletter]
  have hnames : ∀ c ∈ e.readNames last, isNameChar c = true ∨ c = ' ' := by
    unfold ImportEntry.readNames
    cases ha : e.rename with
    | none => exact hword _ h.name _ (read_word_sublist last _)
    | some a =>
        exact List.forall_mem_append.mpr ⟨hword _ h.name _ (without_mark_sublist _),
          List.forall_mem_append.mpr ⟨hrename, hword _ (h.rename a ha) _ (read_word_sublist last _)⟩⟩
  exact List.forall_mem_cons.mpr ⟨.inr rfl, List.forall_mem_append.mpr
    ⟨List.forall_mem_append.mpr ⟨hspace e.typeOnly, hnames⟩, hspace last⟩⟩

theorem map_fst_with_last (entries : List ImportEntry) :
    (withLast entries).map Prod.fst = entries := by
  fun_induction withLast entries with
  | case1 => rfl
  | case2 e => rfl
  | case3 e f rest ih => rw [List.map_cons, ih]

theorem mem_of_mem_with_last {entry : ImportEntry × Bool} (h : entry ∈ withLast entries) :
    entry.1 ∈ entries := by
  have hmem := List.mem_map_of_mem (f := Prod.fst) h
  rwa [map_fst_with_last] at hmem

theorem not_mem_read_piece (h : ∀ e ∈ entries, e.IsProper) {piece : List Char}
    (hpiece : piece ∈ (withLast entries).map readPiece) {c : Char} (hname : isNameChar c = false)
    (hspace : c ≠ ' ') : c ∉ piece := by
  obtain ⟨entry, hentry, rfl⟩ := List.mem_map.mp hpiece
  intro hmem
  rcases read_piece_chars (h entry.1 (mem_of_mem_with_last hentry)) entry.2 c hmem with hc | hc
  · rw [hname] at hc
    cases hc
  · exact hspace hc

theorem heard_piece_nil : heardPiece [] = none := rfl

/-- The entries of a named list are read one by one. -/
theorem heard_entries (h : ∀ e ∈ entries, e.IsProper) :
    (((splitOn (String.ofList (List.intercalate [','] ((withLast entries).map readPiece))) ",").map
      strip).filter (!·.isEmpty)).map entryName = (withLast entries).filterMap heardName := by
  have hcommas : ∀ piece ∈ (withLast entries).map readPiece, ',' ∉ piece :=
    fun piece hpiece => not_mem_read_piece h hpiece (by decide) (by decide)
  have hheard : ∀ pieces : List (List Char),
      (((pieces.map String.ofList).map strip).filter (!·.isEmpty)).map entryName =
        pieces.filterMap heardPiece := by
    intro pieces
    induction pieces with
    | nil => rfl
    | cons piece pieces ih =>
        rw [List.map_cons, List.map_cons, List.filter_cons, List.filterMap_cons, ← ih, heardPiece]
        cases (strip (String.ofList piece)).isEmpty with
        | true => simp
        | false => simp
  have hread : heardPiece ∘ readPiece = heardName := by
    funext entry
    rw [Function.comp_apply, heardName]
  rw [splitOn, String.toList_ofList, String.toList_ofList, hheard]
  cases hentries : withLast entries with
  | nil =>
      have hnil : splitChars [','] [] = [[]] := rfl
      simp [hnil, heard_piece_nil]
  | cons entry rest =>
      rw [hentries] at hcommas
      rw [split_chars_intercalate (by simp) hcommas, List.filterMap_map, hread]

/-- The text of a clause is read as what its entries are read as, and the names outside its
braces. -/
theorem clause_bindings_eq (h : c.IsProper) :
    clauseBindings c.text =
      (withLast (c.named.getD [])).filterMap heardName ++ c.looseNames := by
  have hloose := h.binds_loosely
  have htext : c.text.toList = List.intercalate [',', ' '] (c.looseTexts.map String.toList ++
      (c.named.map fun entries => (ImportClause.listText entries).toList).toList) := by
    rw [ImportClause.text, String.toList_intercalate, List.map_append]
    cases c.named <;> rfl
  generalize c.looseTexts.map String.toList = parts at hloose htext
  have hcommas : ∀ part ∈ parts, ',' ∉ part := fun part hpart =>
    not_mem_of_binds_loosely hloose (by decide) (by decide) hpart
  have hbraces : ∀ part ∈ parts, '\x7b' ∉ part := fun part hpart =>
    not_mem_of_binds_loosely hloose (by decide) (by decide) hpart
  cases hnamed : c.named with
  | none =>
      rw [hnamed, Option.map_none, Option.toList_none, List.append_nil] at htext
      rw [clause_bindings_of_loose (by rw [htext, without_marks_loose hloose])
        (not_mem_intercalate (by decide) hbraces), heard_loose_parts hcommas,
        heard_parts_eq hloose]
      rfl
  | some entries =>
      have hentries := h.named entries hnamed
      rw [hnamed, Option.map_some, Option.toList_some] at htext
      have hmarks : withoutMarks c.text.toList =
          List.intercalate [',', ' '] (parts ++ [[]]) ++ '\x7b' ::
            (List.intercalate [','] ((withLast entries).map readPiece) ++ '\x7d' :: []) := by
        rw [htext, without_marks_loose_parts hloose, intercalate_concat_append,
          without_marks_list_text hentries]
      have hbefore : '\x7b' ∉ List.intercalate [',', ' '] (parts ++ [[]]) :=
        not_mem_intercalate (by decide) (List.forall_mem_append.mpr ⟨hbraces, by simp⟩)
      have hinside : '\x7d' ∉ List.intercalate [','] ((withLast entries).map readPiece) :=
        not_mem_intercalate (by decide)
          fun piece hpiece => not_mem_read_piece hentries hpiece (by decide) (by decide)
      rw [clause_bindings_of_braces hmarks hbefore hinside, heard_entries hentries, List.append_nil,
        heard_loose_parts (List.forall_mem_append.mpr ⟨hcommas, by simp⟩), List.filterMap_append,
        heard_parts_eq hloose]
      simp [heard_part_nil]

/-- The entries of a list keep the mark apart exactly if those with new names and the last one do. -/
theorem forall_with_last_iff :
    (∀ entry ∈ withLast entries, entry.1.KeepsMarksApart entry.2) ↔
      (∀ e ∈ entries, e.rename.isSome → e.name ≠ "type") ∧
        ∀ e ∈ entries.getLast?, endsWith e.bound "type" = false := by
  fun_induction withLast entries with
  | case1 => simp
  | case2 e =>
      rw [List.forall_mem_singleton, List.forall_mem_singleton, List.getLast?_singleton]
      exact ⟨fun h => ⟨h.renamed, fun _ he => Option.some.inj he ▸ h.last rfl⟩,
        fun h => ⟨h.1, fun _ => h.2 e rfl⟩⟩
  | case3 e f rest ih =>
      have hkeeps : e.KeepsMarksApart false ↔ (e.rename.isSome → e.name ≠ "type") :=
        ⟨fun h => h.renamed, fun h => ⟨h, nofun⟩⟩
      rw [List.forall_mem_cons, ih, hkeeps, List.forall_mem_cons (a := e), List.getLast?_cons_cons,
        and_assoc]

/-- No entry of a clause loses a part of a name exactly if the clause keeps the mark apart. -/
theorem forall_keeps_marks_apart_iff :
    (∀ entry ∈ withLast (c.named.getD []), entry.1.KeepsMarksApart entry.2) ↔ c.KeepsMarksApart := by
  rw [forall_with_last_iff]
  cases hnamed : c.named with
  | none =>
      simp only [Option.getD_none]
      exact iff_of_true ⟨nofun, nofun⟩ ⟨by simp [hnamed], by simp [hnamed]⟩
  | some entries =>
      exact ⟨fun h => ⟨by simpa [hnamed] using h.1, by simpa [hnamed] using h.2⟩,
        fun h => ⟨h.renamed entries hnamed, h.last entries hnamed⟩⟩

/-- The text of a clause is read as the names that it binds, those between the braces first, exactly
if it keeps the mark apart. -/
theorem clause_bindings_eq_names_iff (h : c.IsProper) :
    clauseBindings c.text = c.listedNames ++ c.looseNames ↔ c.KeepsMarksApart := by
  have hentries : ∀ entry ∈ withLast (c.named.getD []), entry.1.IsProper := by
    intro entry hentry
    have hmem := mem_of_mem_with_last hentry
    cases hnamed : c.named with
    | none => simp [hnamed] at hmem
    | some entries =>
        rw [hnamed] at hmem
        exact h.named entries hnamed entry.1 hmem
  have hnames : c.listedNames = (withLast (c.named.getD [])).map fun entry => entry.1.bound := by
    rw [ImportClause.listedNames, ← map_fst_with_last (c.named.getD []), List.map_map]
    simp [map_fst_with_last, Function.comp_def]
  rw [clause_bindings_eq h, List.append_cancel_right_eq, hnames,
    List.filterMap_eq_map_iff_forall_eq_some, ← forall_keeps_marks_apart_iff]
  exact forall₂_congr fun entry hentry => heard_name_iff (hentries entry hentry)

end Clauses

section Trees

variable {c : ImportClause} {clause stmt : Node}

/-- A node stands for an entry of a named list. -/
structure IsSpecifier (e : ImportEntry) (spec : Node) : Prop where
  kind : spec.kind = "import_specifier"
  name : (spec.child? "name").map Node.text = some e.name
  rename : (spec.child? "alias").map Node.text = e.rename

/-- A node stands for the default import of a name. -/
def IsSingle (n : String) (part : Node) : Prop := part.kind = "identifier" ∧ part.text = n

/-- A node stands for the import of a whole module under a name. -/
def IsWhole (n : String) (part : Node) : Prop :=
  part.kind = "namespace_import" ∧ (part.first? "identifier").map Node.text = some n

/-- A node stands for a named list. -/
def IsNamed (entries : List ImportEntry) (part : Node) : Prop :=
  part.kind = "named_imports" ∧ List.Forall₂ IsSpecifier entries part.namedChildren

/-- A node stands for a clause: for each of its parts it has one. -/
def IsClause (c : ImportClause) (clause : Node) : Prop :=
  ∃ single whole named : Option Node,
    clause.namedChildren = single.toList ++ (whole.toList ++ named.toList) ∧
      Option.Rel IsSingle c.single single ∧ Option.Rel IsWhole c.whole whole ∧
      Option.Rel IsNamed c.named named

theorem specifier_names {entries : List ImportEntry} {specs : List Node}
    (h : List.Forall₂ IsSpecifier entries specs) :
    specs.filterMap specifierName? = entries.map ImportEntry.bound := by
  induction h with
  | nil => rfl
  | @cons e spec entries specs hspec _ ih =>
      have hname : specifierName? spec = some e.bound := by
        rw [specifierName?, if_pos (by rw [hspec.kind]; rfl), Option.map_or, hspec.rename, hspec.name,
          ImportEntry.bound]
        cases e.rename <;> rfl
      rw [List.filterMap_cons, hname, ih, List.map_cons]

/-- What a part binds, if there is one. -/
theorem part_names_of_rel {α : Type} {R : α → Node → Prop} {names : α → List String}
    {o : Option α} {part : Option Node} (h : Option.Rel R o part)
    (hR : ∀ a part, R a part → clausePartNames part = names a) :
    part.toList.flatMap clausePartNames = o.toList.flatMap names := by
  cases h with
  | none => rfl
  | some h => simp [hR _ _ h]

theorem single_names {n : String} {part : Node} (h : IsSingle n part) :
    clausePartNames part = [n] := by
  unfold clausePartNames
  simp [h.1, h.2]

theorem whole_names {n : String} {part : Node} (h : IsWhole n part) :
    clausePartNames part = [n] := by
  unfold clausePartNames
  simp [h.1, h.2]

theorem named_names {entries : List ImportEntry} {part : Node} (h : IsNamed entries part) :
    clausePartNames part = entries.map ImportEntry.bound := by
  unfold clausePartNames
  simp [h.1, specifier_names h.2]

/-- The tree of a statement binds the names of its clause in their order. -/
theorem import_bindings_of_is_clause
    (hclause : stmt.namedChildren.find? (·.kind == "import_clause") = some clause)
    (h : IsClause c clause) : importBindings stmt = c.looseNames ++ c.listedNames := by
  obtain ⟨single, whole, named, hchildren, hsingle, hwhole, hnamed⟩ := h
  have hlisted : c.named.toList.flatMap (List.map ImportEntry.bound) = c.listedNames := by
    rw [ImportClause.listedNames]
    cases c.named <;> simp
  rw [importBindings, hclause]
  dsimp only
  rw [hchildren, List.flatMap_append, List.flatMap_append, part_names_of_rel hsingle fun _ _ => single_names,
    part_names_of_rel hwhole fun _ _ => whole_names,
    part_names_of_rel hnamed fun _ _ => named_names, hlisted,
    ImportClause.looseNames, List.append_assoc]
  simp

/-- The text of a clause is read as the names that the tree of its statement binds, those between
the braces first, exactly if no name of its named list is taken for the mark of a type. -/
theorem clause_bindings_eq_iff (hc : c.IsProper)
    (hclause : stmt.namedChildren.find? (·.kind == "import_clause") = some clause)
    (hread : IsClause c clause) :
    importBindings stmt = c.looseNames ++ c.listedNames ∧
      (clauseBindings c.text = c.listedNames ++ c.looseNames ↔ c.KeepsMarksApart) :=
  ⟨import_bindings_of_is_clause hclause hread, clause_bindings_eq_names_iff hc⟩

end Trees

/-- The clause `React, \x7b type A, b as c \x7d`. -/
def reactClause : ImportClause :=
  { single := some "React"
    named := some [{ typeOnly := true, name := "A" }, { name := "b", rename := some "c" }] }

/-- The tree of this clause. -/
def reactClauseTree : Node :=
  .mk { kind := "import_clause" }
    [.mk { kind := "identifier", text := "React" } [],
      .mk { kind := "named_imports" }
        [.mk { kind := "import_specifier" }
          [.mk { kind := "type", named := false } [],
            .mk { kind := "identifier", field := "name", text := "A" } []],
          .mk { kind := "import_specifier" }
            [.mk { kind := "identifier", field := "name", text := "b" } [],
              .mk { kind := "identifier", field := "alias", text := "c" } []]]]

/-- The statement of this clause. -/
def reactImportTree : Node := .mk { kind := "import_statement" } [reactClauseTree]

/-- This clause is read as the names that it binds. -/
theorem clause_bindings_of_react_clause :
    reactClause.text = "React, \x7b type A, b as c \x7d" ∧
      importBindings reactImportTree = ["React", "A", "c"] ∧
      clauseBindings reactClause.text = ["A", "c", "React"] := by
  have hproper : reactClause.IsProper :=
    ⟨by decide, by decide, fun entries hentries => by
      cases hentries
      exact List.forall_mem_cons.mpr ⟨⟨by decide, by decide⟩,
        List.forall_mem_singleton.mpr ⟨by decide, by decide⟩⟩⟩
  have hkeeps : reactClause.KeepsMarksApart :=
    ⟨fun entries hentries => by cases hentries; decide,
      fun entries hentries => by cases hentries; decide⟩
  have hread : IsClause reactClause reactClauseTree :=
    ⟨_, none, _, rfl, .some ⟨rfl, rfl⟩, .none,
      .some ⟨rfl, .cons ⟨rfl, rfl, rfl⟩ (.cons ⟨rfl, rfl, rfl⟩ .nil)⟩⟩
  have hclause : reactImportTree.namedChildren.find? (·.kind == "import_clause") =
      some reactClauseTree := rfl
  obtain ⟨htree, htext⟩ := clause_bindings_eq_iff hproper hclause hread
  exact ⟨by decide, htree, htext.mpr hkeeps⟩

/-- The clause `\x7b Prototype \x7d`. -/
def prototypeClause : ImportClause := { named := some [{ name := "Prototype" }] }

/-- The last letters of the only name that this clause binds are taken for the mark of a type. -/
theorem clause_bindings_lose_type :
    prototypeClause.IsProper ∧ prototypeClause.text = "\x7b Prototype \x7d" ∧
      prototypeClause.listedNames ++ prototypeClause.looseNames = ["Prototype"] ∧
      clauseBindings prototypeClause.text = ["Proto"] := by
  have hproper : prototypeClause.IsProper :=
    ⟨nofun, nofun, fun entries hentries => by
      cases hentries
      exact List.forall_mem_singleton.mpr ⟨by decide, nofun⟩⟩
  refine ⟨hproper, by decide, by decide, ?_⟩
  rw [clause_bindings_eq hproper]
  decide

end ComponentMigration
