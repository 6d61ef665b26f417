import ComponentMigration.Proofs.Module.Keeping
import ComponentMigration.Proofs.Text.Lines

/-!
# What rewriting does to literals

Texts of the source are rewritten as characters before they stand in a module: lines are moved onto
another indentation, and members of an instance become local names.  Neither knows of literals.  A
quoted part of a text that is moved keeps its first line, and its further lines are moved as lines of
code (`moved_literal_stands_in`); accesses to the instance are replaced in it as if it stood alone
(`local_names_stand_in`).  So it is kept if it has neither line ends nor such accesses.
-/

namespace ComponentMigration

/-- The marks between which literals stand. -/
def quoteMarks : List Char := ['\'', '"', '`']

/-- A text in quotes of one kind. -/
def Text.IsQuoted (s : String) : Prop := ∃ q ∈ quoteMarks, ∃ inner, s.toList = q :: inner ++ [q]

theorem Text.is_quoted_iff {s : String} : Text.IsQuoted s ↔ (quoteMarks.any fun q =>
    s.toList.head? == some q && s.toList.tail.getLast? == some q) = true := by
  simp only [Text.IsQuoted, List.any_eq_true, Bool.and_eq_true, beq_iff_eq]
  refine exists_congr fun q => and_congr_right fun _ => ?_
  constructor
  · rintro ⟨inner, hinner⟩
    rw [hinner]
    exact ⟨rfl, List.getLast?_concat⟩
  · rintro ⟨hhead, hlast⟩
    obtain ⟨rest, hrest⟩ := List.head?_eq_some_iff.mp hhead
    rw [hrest] at hlast ⊢
    obtain ⟨inner, hinner⟩ := List.getLast?_eq_some_iff.mp hlast
    exact ⟨inner, congrArg (q :: ·) hinner⟩

instance (s : String) : Decidable (Text.IsQuoted s) := decidable_of_iff' _ Text.is_quoted_iff

/-- Whether a text has a line end. -/
def Text.hasLineBreak (s : String) : Bool := s.toList.any Text.isLineBreak

instance (part whole : String) : Decidable (Text.StandsIn part whole) :=
  inferInstanceAs (Decidable (part.toList <:+: whole.toList))

theorem Text.stands_in_of_list {part whole : List Char} :
    Text.StandsIn (String.ofList part) (String.ofList whole) ↔ part <:+: whole := by
  rw [Text.StandsIn, String.toList_ofList, String.toList_ofList]

section Joining

variable {α : Type} (sep : List α)

theorem intercalate_cons_eq (x : List α) (l : List (List α)) :
    List.intercalate sep (x :: l) = x ++ l.flatMap (sep ++ ·) := by
  induction l generalizing x with
  | nil => simp
  | cons y l ih => rw [List.intercalate_cons_cons, ih, List.flatMap_cons, List.append_assoc,
      List.append_assoc]

/-- Joined lines stand among others, also where their first and their last line are parts of longer
ones. -/
theorem infix_intercalate_of_ends (x z p q : List α) (above inner below : List (List α)) :
    List.intercalate sep (x :: (inner ++ [z])) <:+:
      List.intercalate sep (above ++ (p ++ x) :: (inner ++ (z ++ q) :: below)) := by
  rw [intercalate_cons_eq]
  cases above with
  | nil =>
      refine ⟨p, q ++ below.flatMap (sep ++ ·), ?_⟩
      rw [List.nil_append, intercalate_cons_eq]
      simp
  | cons line above =>
      refine ⟨line ++ above.flatMap (sep ++ ·) ++ sep ++ p, q ++ below.flatMap (sep ++ ·), ?_⟩
      rw [List.cons_append, intercalate_cons_eq]
      simp

end Joining

section Moving

variable {anchor : Nat} {indent : String}

/-- What a literal becomes in a text that is moved onto an indentation. -/
def movedLiteral (anchor : Nat) (indent text : String) : String :=
  match Text.lines text with
  | [] => ""
  | first :: rest =>
    String.intercalate "\n" (first :: rest.map (reindentLine anchor indent false))

/-- A line that is moved, as characters. -/
def movedLine (anchor : Nat) (indent : String) (first : Bool) (line : List Char) : List Char :=
  (reindentLine anchor indent first (String.ofList line)).toList

/-- The lines of a text that is moved. -/
def movedLines (anchor : Nat) (indent : String) : List (List Char) → List (List Char)
  | [] => []
  | line :: rest => movedLine anchor indent true line :: rest.map (movedLine anchor indent false)

theorem reindent_to_list (text : String) :
    (reindent text anchor indent).toList =
      List.intercalate ['\n'] (movedLines anchor indent (Text.lineChars text.toList)) := by
  unfold reindent Text.lines
  cases Text.lineChars text.toList with
  | nil => rfl
  | cons line rest =>
      rw [List.map_cons]
      dsimp only
      rw [String.toList_intercalate, List.map_cons, List.map_map, List.map_map]
      rfl

theorem moved_literal_to_list {text : String} {first : List Char} {rest : List (List Char)}
    (h : Text.lineChars text.toList = first :: rest) :
    (movedLiteral anchor indent text).toList =
      List.intercalate ['\n'] (first :: rest.map (movedLine anchor indent false)) := by
  rw [movedLiteral, Text.lines, h, List.map_cons]
  dsimp only
  rw [String.toList_intercalate, List.map_cons, @String.toList_ofList first, List.map_map,
    List.map_map]
  rfl

/-- Only the first line of the text is moved as a first line. -/
theorem moved_lines_append (anchor : Nat) (indent : String) (above below : List (List Char))
    (line : List Char) :
    ∃ above' first, movedLines anchor indent (above ++ line :: below) =
      above' ++ movedLine anchor indent first line :: below.map (movedLine anchor indent false) := by
  cases above with
  | nil => exact ⟨[], true, rfl⟩
  | cons x above =>
      refine ⟨movedLines anchor indent (x :: above), false, ?_⟩
      rw [List.cons_append, movedLines, movedLines, List.map_append, List.map_cons, List.cons_append]

/-- A line that is moved changes in front of the first character that is no blank, if anywhere. -/
theorem moved_line_append (anchor : Nat) (indent : String) (first : Bool) (p : List Char) {c : Char}
    (hc : Text.isBlank c = false) :
    ∃ p', ∀ cs, movedLine anchor indent first (p ++ c :: cs) = p' ++ c :: cs := by
  have hspace : (c == ' ') = false := by
    rw [beq_eq_false_iff_ne]
    rintro rfl
    exact absurd hc (by decide)
  -- The spaces at the front end before `c`, so how many go does not depend on what follows it.
  have hspaces : ∀ cs, Text.leadingSpaces (String.ofList (p ++ c :: cs)) =
      (p.takeWhile (· == ' ')).length := by
    intro cs
    rw [Text.leadingSpaces, String.toList_ofList, List.takeWhile_append, List.takeWhile_cons, hspace,
      if_neg Bool.false_ne_true, List.append_nil]
    split
    · next hall => exact hall.symm
    · rfl
  have hlength : min anchor (p.takeWhile (· == ' ')).length ≤ p.length :=
    Nat.le_trans (Nat.min_le_right _ _) (List.takeWhile_prefix _).length_le
  have hshown : ∀ (p : List Char) cs, Text.isBlankText (String.ofList (p ++ c :: cs)) = false := by
    intro p cs
    rw [Text.isBlankText, String.toList_ofList, List.all_append, List.all_cons, hc, Bool.false_and,
      Bool.and_false]
  cases first with
  | true =>
      refine ⟨indent.toList ++ p, fun cs => ?_⟩
      rw [movedLine, reindentLine, if_pos rfl, hshown, if_neg Bool.false_ne_true,
        String.toList_append, String.toList_ofList, List.append_assoc]
  | false =>
      refine ⟨indent.toList ++ p.drop (min anchor (p.takeWhile (· == ' ')).length), fun cs => ?_⟩
      have hmin : min (anchor : Int) ((p.takeWhile (· == ' ')).length : Int) =
          ((min anchor (p.takeWhile (· == ' ')).length : Nat) : Int) := by
        omega
      have hdropped : dropInt (min (anchor : Int)
          (Text.leadingSpaces (String.ofList (p ++ c :: cs)))) (String.ofList (p ++ c :: cs)) =
          String.ofList (p.drop (min anchor (p.takeWhile (· == ' ')).length) ++ c :: cs) := by
        rw [hspaces, hmin, dropInt, if_pos (Int.natCast_nonneg _), Int.toNat_natCast,
          Text.drop, String.toList_ofList, List.drop_append_of_le_length hlength]
      rw [movedLine, reindentLine, if_neg Bool.false_ne_true, hdropped, hshown,
        if_neg Bool.false_ne_true, String.toList_append, String.toList_ofList, List.append_assoc]

theorem mem_quote_marks {q : Char} : q ∈ quoteMarks ↔ q = '\'' ∨ q = '"' ∨ q = '`' := by
  simp [quoteMarks]

theorem quote_mark_shown {q : Char} (h : q ∈ quoteMarks) :
    Text.isBlank q = false ∧ Text.isLineBreak q = false ∧ Text.isWordChar q = false := by
  rcases mem_quote_marks.1 h with rfl | rfl | rfl <;> decide

/-- A quoted part of a text that is moved keeps its first line, and its further lines are moved. -/
theorem moved_literal_stands_in {t whole : String} (ht : Text.IsQuoted t)
    (h : Text.StandsIn t whole) (anchor : Nat) (indent : String) :
    Text.StandsIn (movedLiteral anchor indent t) (reindent whole anchor indent) := by
  obtain ⟨q, hq, inner, ht⟩ := ht
  obtain ⟨before, after, hwhole⟩ := h
  obtain ⟨hblank, hbreak, -⟩ := quote_mark_shown hq
  have hlie := Text.lines_lie_of_middle hbreak hbreak before inner after
  have hparts : before ++ (q :: inner ++ q :: after) = whole.toList := by
    rw [← hwhole, ht]
    simp
  rw [hparts, ← ht] at hlie
  rw [Text.StandsIn, reindent_to_list]
  -- Of the lines that the part lies on, only those at its ends are longer than its own.
  cases hlie with
  | @one inner p r above below hlines hwhole =>
      obtain ⟨above', first, hmoved⟩ := moved_lines_append anchor indent above below
        (p ++ q :: (inner ++ q :: r))
      obtain ⟨p', hline⟩ := moved_line_append anchor indent first p hblank
      have hwhole' : Text.lineChars whole.toList = above ++ (p ++ q :: (inner ++ q :: r)) :: below := by
        rw [hwhole, List.append_assoc, List.cons_append]
      rw [moved_literal_to_list hlines, hwhole', hmoved, hline, List.map_nil,
        List.intercalate_singleton]
      have hpart : q :: inner ++ [q] <:+: p' ++ q :: (inner ++ q :: r) := ⟨p', r, by simp⟩
      exact hpart.trans (infix_intercalate (List.mem_append_right _ List.mem_cons_self))
  | @many first last p r inner above below hlines hwhole =>
      obtain ⟨above', opening, hmoved⟩ := moved_lines_append anchor indent above
        (inner ++ (last ++ q :: r) :: below) (p ++ q :: first)
      -- Both ends of the part are quotes, so blanks go only in front of them.
      obtain ⟨p', hopening⟩ := moved_line_append anchor indent opening p hblank
      obtain ⟨last', hlast⟩ := moved_line_append anchor indent false last hblank
      have hjoined := infix_intercalate_of_ends ['\n'] (q :: first) (last' ++ [q]) p' r
        above' (inner.map (movedLine anchor indent false)) (below.map (movedLine anchor indent false))
      rw [moved_literal_to_list hlines, hwhole, hmoved, hopening, List.map_append, List.map_append,
        List.map_singleton, List.map_cons, hlast, hlast]
      rwa [List.append_assoc last'] at hjoined

/-- A literal without line ends is not moved. -/
theorem moved_literal_eq_self {t : String} (hne : t ≠ "") (h : Text.hasLineBreak t = false)
    (anchor : Nat) (indent : String) : movedLiteral anchor indent t = t := by
  have hno : ∀ c ∈ t.toList, Text.isLineBreak c = false :=
    fun c hc => Bool.eq_false_iff.mpr (List.any_eq_false.mp h c hc)
  have hlines : Text.lineChars t.toList = [t.toList] :=
    Text.line_chars_of_no_break hno (by simpa using hne)
  rw [← String.toList_inj, moved_literal_to_list hlines, List.map_nil, List.intercalate_singleton]

end Moving

section Substituting

variable {find : Option Char → List Char → Option (Nat × List Char)} {q : Char}

/-- A finder looks at most at the next mark, and what it recognises ends before it. -/
structure EndsBefore (q : Char) (find : Option Char → List Char → Option (Nat × List Char)) :
    Prop where
  same : ∀ before xs ys ys', find before (xs ++ q :: ys) = find before (xs ++ q :: ys')
  within : ∀ before xs ys n new, find before (xs ++ q :: ys) = some (n, new) → n - 1 < xs.length

section Recursion

variable {before : Option Char} {c : Char} {rest : List Char}

theorem substitute_skip (skip : Nat) :
    substitute find before (skip + 1) (c :: rest) = substitute find (some c) skip rest := rfl

theorem substitute_cons (before : Option Char) (c : Char) (rest : List Char) :
    substitute find before 0 (c :: rest) =
      (find before (c :: rest)).elim (c :: substitute find (some c) 0 rest) fun found =>
        found.2 ++ substitute find (some c) (found.1 - 1) rest := by
  rw [substitute]
  cases find before (c :: rest) <;> rfl

theorem substitute_of_none (h : find before (c :: rest) = none) :
    substitute find before 0 (c :: rest) = c :: substitute find (some c) 0 rest := by
  rw [substitute_cons, h, Option.elim_none]

theorem substitute_of_some {n : Nat} {new : List Char} (h : find before (c :: rest) = some (n, new)) :
    substitute find before 0 (c :: rest) = new ++ substitute find (some c) (n - 1) rest := by
  rw [substitute_cons, h, Option.elim_some]

end Recursion

theorem substitute_mark (h : EndsBefore q find) (before : Option Char) (ys : List Char) :
    substitute find before 0 (q :: ys) = q :: substitute find (some q) 0 ys := by
  cases hfind : find before (q :: ys) with
  | none => exact substitute_of_none hfind
  | some place => exact absurd (h.within before [] ys _ _ hfind) (Nat.not_lt_zero _)

/-- What stands before a mark is replaced by itself, and so is what stands after it. -/
theorem substitute_append (h : EndsBefore q find) (xs : List Char) (before : Option Char)
    {skip : Nat} (hskip : skip ≤ xs.length) :
    ∃ xs', ∀ ys, substitute find before skip (xs ++ q :: ys) =
      xs' ++ q :: substitute find (some q) 0 ys := by
  -- A match may be under way, so the induction is for every number of characters left to skip that
  -- ends before the mark.
  induction xs generalizing before skip with
  | nil =>
      obtain rfl : skip = 0 := Nat.le_zero.mp hskip
      exact ⟨[], fun ys => substitute_mark h before ys⟩
  | cons c xs ih =>
      cases skip with
      | succ skip =>
          obtain ⟨xs', hxs⟩ := ih (some c) (Nat.le_of_succ_le_succ hskip)
          refine ⟨xs', fun ys => ?_⟩
          rw [List.cons_append, substitute_skip, hxs]
      | zero =>
          have hsame : ∀ ys, find before (c :: (xs ++ q :: ys)) = find before (c :: (xs ++ [q])) :=
            fun ys => h.same before (c :: xs) ys []
          cases hfind : find before (c :: (xs ++ [q])) with
          | none =>
              obtain ⟨xs', hxs⟩ := ih (some c) (Nat.zero_le _)
              refine ⟨c :: xs', fun ys => ?_⟩
              rw [List.cons_append, substitute_of_none ((hsame ys).trans hfind), hxs, List.cons_append]
          | some place =>
              obtain ⟨n, new⟩ := place
              have hn : n - 1 ≤ xs.length :=
                Nat.le_of_lt_succ (h.within before (c :: xs) [] n new hfind)
              obtain ⟨xs', hxs⟩ := ih (some c) hn
              refine ⟨new ++ xs', fun ys => ?_⟩
              rw [List.cons_append, substitute_of_some ((hsame ys).trans hfind), hxs, List.append_assoc]

/-- A rewriting treats what stands between two marks by itself, and leaves the marks. -/
def KeepsMarked (q : Char) (rewrite : List Char → List Char) : Prop :=
  ∀ before inner after, ∃ before' inner' after',
    rewrite (q :: inner ++ [q]) = q :: inner' ++ [q] ∧
    rewrite (before ++ (q :: inner ++ q :: after)) = before' ++ (q :: inner' ++ q :: after')

theorem KeepsMarked.comp {rewrite rewrite' : List Char → List Char} (h : KeepsMarked q rewrite)
    (h' : KeepsMarked q rewrite') : KeepsMarked q (rewrite' ∘ rewrite) := by
  intro before inner after
  obtain ⟨before₁, inner₁, after₁, hpart, hwhole⟩ := h before inner after
  obtain ⟨before₂, inner₂, after₂, hpart', hwhole'⟩ := h' before₁ inner₁ after₁
  exact ⟨before₂, inner₂, after₂, (congrArg rewrite' hpart).trans hpart',
    (congrArg rewrite' hwhole).trans hwhole'⟩

theorem keeps_marked_substitute (h : EndsBefore q find) :
    KeepsMarked q (substitute find none 0) := by
  intro before inner after
  obtain ⟨before', hbefore⟩ := substitute_append h before none (Nat.zero_le _)
  obtain ⟨inner', hinner⟩ := substitute_append h inner (some q) (Nat.zero_le _)
  refine ⟨before', inner', substitute find (some q) 0 after, ?_, ?_⟩
  · rw [List.cons_append, substitute_mark h, hinner]
    rfl
  · rw [List.cons_append, hbefore, hinner, List.cons_append]

/-- A finder of a word, and of what `next` recognises after it. -/
def findAfter (word : List Char) (next : List Char → Option (Nat × List Char))
    (before : Option Char) (cs : List Char) : Option (Nat × List Char) :=
  if startsWord before && word.isPrefixOf cs then
    (next (cs.drop word.length)).map fun found => (word.length + found.1, found.2)
  else none

theorem is_prefix_of_append {word : List Char} (hword : q ∉ word) (xs ys : List Char) :
    word.isPrefixOf (xs ++ q :: ys) = word.isPrefixOf xs := by
  induction word generalizing xs with
  | nil => rfl
  | cons w word ih =>
      obtain ⟨hw, hrest⟩ := not_or.mp (List.mem_cons.not.mp hword)
      cases xs with
      | nil =>
          have hne : (w == q) = false := beq_eq_false_iff_ne.mpr (Ne.symm hw)
          rw [List.nil_append, List.isPrefixOf_cons_cons, hne]
          rfl
      | cons x xs => rw [List.cons_append, List.isPrefixOf, List.isPrefixOf, ih hrest]

theorem ends_before_find_after {word : List Char} {next : List Char → Option (Nat × List Char)}
    (hword : q ∉ word) (hne : word ≠ [])
    (hsame : ∀ xs ys ys', next (xs ++ q :: ys) = next (xs ++ q :: ys'))
    (hwithin : ∀ xs ys n new, next (xs ++ q :: ys) = some (n, new) → n ≤ xs.length) :
    EndsBefore q (findAfter word next) where
  same before xs ys ys' := by
    rw [findAfter, findAfter, is_prefix_of_append hword, is_prefix_of_append hword]
    split
    · next hfound =>
        have hlength : word.length ≤ xs.length :=
          (List.isPrefixOf_iff_prefix.mp (Bool.and_eq_true_iff.mp hfound).2).length_le
        rw [List.drop_append_of_le_length hlength, List.drop_append_of_le_length hlength,
          hsame _ ys ys']
    · rfl
  within before xs ys n new h := by
    rw [findAfter, is_prefix_of_append hword] at h
    split at h
    · next hfound =>
        have hlength : word.length ≤ xs.length :=
          (List.isPrefixOf_iff_prefix.mp (Bool.and_eq_true_iff.mp hfound).2).length_le
        rw [List.drop_append_of_le_length hlength] at h
        obtain ⟨found, hfound, heq⟩ := Option.map_eq_some_iff.mp h
        cases heq
        have hn := hwithin _ ys _ _ hfound
        have hpos := List.length_pos_of_ne_nil hne
        rw [List.length_drop] at hn
        omega
    · cases h

/-- What follows the props of an instance. -/
def propsEnd (rest : List Char) : Option (Nat × List Char) :=
  if endsWord rest then some (0, "props".toList) else none

/-- What follows the state of an instance in an access to a field. -/
def stateFieldEnd (rest : List Char) : Option (Nat × List Char) :=
  match rest.dropWhile Text.isBlank with
  | '.' :: after => some (rest.length - (after.dropWhile Text.isBlank).length, [])
  | _ => none

/-- What follows the state of an instance as a whole. -/
def bareStateEnd (rest : List Char) : Option (Nat × List Char) :=
  if endsWord rest && (rest.dropWhile Text.isBlank).head? != some '.' then
    some (0, "state".toList)
  else none

theorem find_props_eq : findProps = findAfter "this.props".toList propsEnd := by
  funext before cs
  unfold findProps findAfter propsEnd
  dsimp only
  generalize "this.props".toList = part
  by_cases hfound : startsWord before && part.isPrefixOf cs
  · rw [hfound, Bool.true_and, if_pos rfl]
    split <;> rfl
  · rw [if_neg hfound, if_neg fun h => hfound (Bool.and_eq_true_iff.mp h).1]

theorem state_field_end_of_dot {rest after : List Char}
    (h : rest.dropWhile Text.isBlank = '.' :: after) :
    stateFieldEnd rest = some (rest.length - (after.dropWhile Text.isBlank).length, []) := by
  rw [stateFieldEnd, h]
  rfl

theorem state_field_end_of_no_dot {rest : List Char}
    (h : ∀ after, rest.dropWhile Text.isBlank ≠ '.' :: after) : stateFieldEnd rest = none := by
  unfold stateFieldEnd
  split
  · next after hafter => exact absurd hafter (h after)
  · rfl

theorem find_state_field_eq : findStateField = findAfter "this.state".toList stateFieldEnd := by
  funext before cs
  unfold findStateField findAfter
  dsimp only
  generalize "this.state".toList = part
  by_cases hfound : startsWord before && part.isPrefixOf cs
  · rw [if_pos hfound, if_pos hfound]
    have hpart : part.length ≤ cs.length :=
      (List.isPrefixOf_iff_prefix.mp (Bool.and_eq_true_iff.mp hfound).2).length_le
    split
    · next after hafter =>
        have hrest : after.length + 1 ≤ (cs.drop part.length).length := by
          rw [← List.length_cons, ← hafter]
          exact (List.dropWhile_suffix _).length_le
        have hblanks : (after.dropWhile Text.isBlank).length ≤ after.length :=
          (List.dropWhile_suffix _).length_le
        rw [state_field_end_of_dot hafter, Option.map_some]
        rw [List.length_drop] at hrest ⊢
        congr 2
        omega
    · next hafter => rw [state_field_end_of_no_dot hafter, Option.map_none]
  · rw [if_neg hfound, if_neg hfound]

theorem find_bare_state_eq : findBareState = findAfter "this.state".toList bareStateEnd := by
  funext before cs
  unfold findBareState findAfter bareStateEnd
  dsimp only
  generalize "this.state".toList = part
  by_cases hfound : startsWord before && part.isPrefixOf cs
  · rw [if_pos hfound, if_pos hfound]
    split <;> rfl
  · rw [if_neg hfound, if_neg hfound]

theorem find_instance_eq : findInstance = findAfter "this.".toList fun _ => some (0, []) := rfl

theorem ends_word_append (hq : Text.isWordChar q = false) (xs ys ys' : List Char) :
    endsWord (xs ++ q :: ys) = endsWord (xs ++ q :: ys') := by
  cases xs with
  | nil => simp [endsWord, hq]
  | cons x xs => rfl

/-- Blanks end at the latest at the mark. -/
theorem drop_blanks_append (hq : Text.isBlank q = false) (xs : List Char) :
    ∃ xs', ∀ ys, (xs ++ q :: ys).dropWhile Text.isBlank = xs' ++ q :: ys := by
  refine ⟨xs.dropWhile Text.isBlank, fun ys => ?_⟩
  rw [List.dropWhile_append, List.dropWhile_cons, hq, if_neg Bool.false_ne_true]
  split
  · next hempty => rw [List.isEmpty_iff.mp hempty, List.nil_append]
  · rfl

theorem state_field_end_append (hq : Text.isBlank q = false) (hdot : q ≠ '.') (xs : List Char) :
    ∃ found, (∀ ys, stateFieldEnd (xs ++ q :: ys) = found) ∧
      ∀ n new, found = some (n, new) → n ≤ xs.length := by
  obtain ⟨xs', hxs⟩ := drop_blanks_append hq xs
  by_cases hfield : ∃ rest, xs' = '.' :: rest
  · obtain ⟨rest, rfl⟩ := hfield
    obtain ⟨rest', hrest⟩ := drop_blanks_append hq rest
    refine ⟨some (xs.length - rest'.length, []), fun ys => ?_, fun n new heq => ?_⟩
    -- The length is a difference of two, in which what follows the mark cancels out.
    · rw [state_field_end_of_dot ((hxs ys).trans List.cons_append), hrest, List.length_append,
        List.length_append, Nat.add_sub_add_right]
    · cases heq
      exact Nat.sub_le _ _
  · refine ⟨none, fun ys => state_field_end_of_no_dot fun after hafter => ?_, nofun⟩
    rw [hxs] at hafter
    cases xs' with
    | nil => exact hdot (List.cons.inj hafter).1
    | cons x rest => exact hfield ⟨rest, congrArg (· :: rest) (List.cons.inj hafter).1⟩

/-- The passage to local names treats what stands between two marks by itself. -/
theorem keeps_marked_local_names (hq : q ∈ quoteMarks) :
    KeepsMarked q (substitute findInstance none 0 ∘ substitute findBareState none 0 ∘
      substitute findStateField none 0 ∘ substitute findProps none 0) := by
  obtain ⟨hblank, -, hword⟩ := quote_mark_shown hq
  have hletters :
      q ∉ "this.props".toList ∧ q ∉ "this.state".toList ∧ q ∉ "this.".toList ∧ q ≠ '.' := by
    rcases mem_quote_marks.1 hq with rfl | rfl | rfl <;> decide
  obtain ⟨hprops, hstate, hthis, hdot⟩ := hletters
  have hfindProps : EndsBefore q findProps := by
    rw [find_props_eq]
    refine ends_before_find_after hprops (by decide) (fun xs ys ys' => ?_) fun xs ys n new h => ?_
    · rw [propsEnd, ends_word_append hword xs ys ys', propsEnd]
    · unfold propsEnd at h
      split at h <;> cases h
      exact Nat.zero_le _
  have hfindStateField : EndsBefore q findStateField := by
    rw [find_state_field_eq]
    refine ends_before_find_after hstate (by decide) (fun xs ys ys' => ?_) fun xs ys n new h => ?_
    · obtain ⟨found, hfound, -⟩ := state_field_end_append hblank hdot xs
      rw [hfound, hfound]
    · obtain ⟨found, hfound, hlength⟩ := state_field_end_append hblank hdot xs
      exact hlength n new ((hfound ys).symm.trans h)
  have hfindBareState : EndsBefore q findBareState := by
    rw [find_bare_state_eq]
    refine ends_before_find_after hstate (by decide) (fun xs ys ys' => ?_) fun xs ys n new h => ?_
    · obtain ⟨xs', hxs⟩ := drop_blanks_append hblank xs
      have hhead : (xs' ++ q :: ys).head? = (xs' ++ q :: ys').head? := by cases xs' <;> rfl
      rw [bareStateEnd, bareStateEnd, ends_word_append hword xs ys ys', hxs, hxs, hhead]
    · unfold bareStateEnd at h
      split at h <;> cases h
      exact Nat.zero_le _
  have hfindInstance : EndsBefore q findInstance := by
    rw [find_instance_eq]
    refine ends_before_find_after hthis (by decide) (fun _ _ _ => rfl) fun xs ys n new h => ?_
    cases h
    exact Nat.zero_le _
  exact (((keeps_marked_substitute hfindProps).comp (keeps_marked_substitute hfindStateField)).comp
    (keeps_marked_substitute hfindBareState)).comp (keeps_marked_substitute hfindInstance)

/-- A quoted part of a text whose instance members become local names is rewritten by itself. -/
theorem local_names_stand_in {t whole : String} (ht : Text.IsQuoted t) (h : Text.StandsIn t whole) :
    Text.IsQuoted (withLocalNames t) ∧ Text.StandsIn (withLocalNames t) (withLocalNames whole) := by
  obtain ⟨q, hq, inner, ht⟩ := ht
  obtain ⟨before, after, hwhole⟩ := h
  obtain ⟨before', inner', after', hpart, hrest⟩ := keeps_marked_local_names hq before inner after
  have hlocal : ∀ s : String, (withLocalNames s).toList =
      (substitute findInstance none 0 ∘ substitute findBareState none 0 ∘
        substitute findStateField none 0 ∘ substitute findProps none 0) s.toList :=
    fun s => String.toList_ofList
  have hparts : before ++ (q :: inner ++ q :: after) = whole.toList := by
    rw [← hwhole, ht]
    simp
  refine ⟨⟨q, hq, inner', ?_⟩, before', after', ?_⟩
  · rw [hlocal, ht, hpart]
  · rw [hlocal, hlocal, ht, hpart, ← hparts, hrest]
    simp

example : withLocalNames "log('this.on', this.on)" = "log('on', on)" := by decide

/-- Whether a text has an access to an instance. -/
def readsInstance (text : String) : Bool := foundIn findInstance none text.toList

theorem substitute_eq_self {before : Option Char} {cs : List Char}
    (h : foundIn find before cs = false) : substitute find before 0 cs = cs := by
  induction cs generalizing before with
  | nil => rfl
  | cons c cs ih =>
      obtain ⟨hhere, hrest⟩ := Bool.or_eq_false_iff.mp h
      have hnone : find before (c :: cs) = none := by
        rwa [← Option.not_isSome_iff_eq_none, Bool.not_eq_true]
      rw [substitute_of_none hnone, ih hrest]

theorem found_in_mono {find' : Option Char → List Char → Option (Nat × List Char)}
    (hfind : ∀ before cs, (find before cs).isSome → (find' before cs).isSome) {before : Option Char}
    {cs : List Char} (h : foundIn find' before cs = false) : foundIn find before cs = false := by
  induction cs generalizing before with
  | nil => rfl
  | cons c cs ih =>
      obtain ⟨hhere, hrest⟩ := Bool.or_eq_false_iff.mp h
      refine Bool.or_eq_false_iff.mpr ⟨Bool.eq_false_iff.mpr fun hfound => ?_, ih hrest⟩
      exact absurd (hhere.symm.trans (hfind before _ hfound)) Bool.false_ne_true

/-- Every access that is replaced is one to an instance. -/
theorem find_instance_of_find_after (part : List Char) {next : List Char → Option (Nat × List Char)}
    {before : Option Char} {cs : List Char}
    (h : (findAfter ("this.".toList ++ part) next before cs).isSome) :
    (findInstance before cs).isSome := by
  unfold findAfter at h
  split at h
  · next hfound =>
      obtain ⟨hword, hprefix⟩ := Bool.and_eq_true_iff.mp hfound
      have hthis : "this.".toList.isPrefixOf cs = true := List.isPrefixOf_iff_prefix.mpr
        ((List.prefix_append _ part).trans (List.isPrefixOf_iff_prefix.mp hprefix))
      rw [findInstance, hword, hthis]
      rfl
  · cases h

/-- A text without accesses to the instance is left as it is. -/
theorem local_names_eq_self {text : String} (h : readsInstance text = false) :
    withLocalNames text = text := by
  have hprops : foundIn findProps none text.toList = false :=
    found_in_mono (fun _ _ hfound => find_instance_of_find_after "props".toList
      (find_props_eq ▸ hfound)) h
  have hfield : foundIn findStateField none text.toList = false :=
    found_in_mono (fun _ _ hfound => find_instance_of_find_after "state".toList
      (find_state_field_eq ▸ hfound)) h
  have hbare : foundIn findBareState none text.toList = false :=
    found_in_mono (fun _ _ hfound => find_instance_of_find_after "state".toList
      (find_bare_state_eq ▸ hfound)) h
  -- No pass changes the text, so each one meets the text that the first one met.
  unfold withLocalNames
  dsimp only
  rw [substitute_eq_self hprops, substitute_eq_self hfield, substitute_eq_self hbare,
    substitute_eq_self h, String.ofList_toList]

end Substituting

end ComponentMigration
