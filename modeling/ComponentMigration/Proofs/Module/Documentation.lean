import Mathlib.Data.List.Chain
import ComponentMigration.Proofs.Module.Placement
import ComponentMigration.Proofs.Module.Rewriting

/-!
# Documentation comments

A unit's documentation is read from the comment above it and written as a comment above the
component.  What is written ends at its last characters and nowhere before, because end marks of the
text are broken up and each line begins with a star and a space (`closes_once_doc_text`).  What was
read consists of lines without blanks at their ends (`IsDocLine`); written and read again these are
the same (`clean_doc_text`).  So documentation survives if it has no end mark in it
(`documentation_survives`).
-/

namespace ComponentMigration

open Text

/-!
## End marks

Whether a text has an end mark is a matter of neighbouring characters, so texts without one are put
together where no slash comes to stand behind a star.
-/

section Marks

variable {cs ds : List Char}

/-- The end mark of a comment. -/
def commentEnd : List Char := "*/".toList

/-- A text without an end mark: no star has a slash behind it. -/
def Unclosed (cs : List Char) : Prop := cs.IsChain fun c d => c = '*' → d ≠ '/'

theorem Unclosed.part (h : Unclosed cs) (hstands : ds <:+: cs) : Unclosed ds :=
  List.IsChain.infix h hstands

theorem unclosed_iff : Unclosed cs ↔ ¬commentEnd <:+: cs := by
  constructor
  · intro h hstands
    exact List.isChain_pair.mp (h.part hstands) rfl rfl
  · intro h
    induction cs with
    | nil => exact .nil
    | cons c cs ih =>
        have hrest : ¬commentEnd <:+: cs :=
          fun hstands => h (hstands.trans (List.suffix_cons c cs).isInfix)
        refine List.isChain_cons.mpr ⟨?_, ih hrest⟩
        rintro d hd rfl rfl
        obtain ⟨rest, rfl⟩ := List.head?_eq_some_iff.mp (Option.mem_def.mp hd)
        exact h ⟨[], rest, rfl⟩

theorem Unclosed.append (h : Unclosed cs) (h' : Unclosed ds)
    (hmeet : '*' ∈ cs → ds.head? ≠ some '/') : Unclosed (cs ++ ds) := by
  refine List.IsChain.append h h' ?_
  rintro c hc d hd rfl rfl
  exact hmeet (List.mem_of_getLast? hc) hd

theorem unclosed_of_not_mem (h : '*' ∉ cs) : Unclosed cs :=
  unclosed_iff.2 fun hstands => h (hstands.subset (by decide))

/-- Lines without an end mark have none when they are joined. -/
theorem unclosed_intercalate {lines : List (List Char)} (h : ∀ l ∈ lines, Unclosed l) :
    Unclosed (List.intercalate ['\n'] lines) := by
  induction lines with
  | nil => exact .nil
  | cons l lines ih =>
      obtain ⟨hl, hlines⟩ := List.forall_mem_cons.mp h
      cases lines with
      | nil => rwa [List.intercalate_singleton]
      | cons next lines =>
          rw [List.intercalate_cons_cons, List.append_assoc]
          have hrest : Unclosed (['\n'] ++ List.intercalate ['\n'] (next :: lines)) :=
            List.isChain_cons.mpr ⟨fun _ _ hstar => absurd hstar (by decide), ih hlines⟩
          exact hl.append hrest fun _ => by simp

/-- A text with its end marks broken up. -/
def brokenUp (cs : List Char) : List Char := replaceChars commentEnd "* /".toList cs

theorem broken_up_mark (cs : List Char) :
    brokenUp (commentEnd ++ cs) = "* /".toList ++ brokenUp cs :=
  replace_sep

theorem broken_up_cons {c : Char} (h : ¬commentEnd <+: c :: cs) :
    brokenUp (c :: cs) = c :: brokenUp cs := by
  have hpass : brokenUp ([c] ++ cs) = [c] ++ brokenUp cs := by
    refine replace_pass fun part hpart hsuffix => ?_
    rcases List.suffix_cons_iff.mp hsuffix with rfl | hnil
    · exact h
    · exact absurd (List.suffix_nil.mp hnil) hpart
  exact hpass

/-- How a text begins: with an end mark or with another character. -/
theorem broken_up_induct {motive : List Char → Prop} (nil : motive [])
    (mark : ∀ cs, motive cs → motive (commentEnd ++ cs))
    (cons : ∀ c cs, ¬commentEnd <+: c :: cs → motive cs → motive (c :: cs)) (cs : List Char) :
    motive cs := by
  induction hlength : cs.length using Nat.strong_induction_on generalizing cs with
  | _ n ih =>
    by_cases hmark : commentEnd <+: cs
    · obtain ⟨rest, rfl⟩ := hmark
      have hlt : rest.length < n := by
        rw [← hlength, List.length_append]
        exact Nat.lt_add_of_pos_left (by decide)
      exact mark rest (ih rest.length hlt rest rfl)
    · cases cs with
      | nil => exact nil
      | cons c cs => exact cons c cs hmark (ih cs.length (by simp [← hlength]) cs rfl)

theorem head_broken_up (cs : List Char) : (brokenUp cs).head? = cs.head? := by
  by_cases hmark : commentEnd <+: cs
  · obtain ⟨rest, rfl⟩ := hmark
    rw [broken_up_mark]
    rfl
  · cases cs with
    | nil => rfl
    | cons c cs => rw [broken_up_cons hmark, List.head?_cons, List.head?_cons]

/-- Breaking up end marks leaves none and makes none. -/
theorem unclosed_broken_up (cs : List Char) : Unclosed (brokenUp cs) := by
  induction cs using broken_up_induct with
  | nil => exact .nil
  | mark cs ih =>
      rw [broken_up_mark]
      have hslash : Unclosed ('/' :: brokenUp cs) :=
        List.isChain_cons.mpr ⟨fun _ _ hstar => absurd hstar (by decide), ih⟩
      have hspace : Unclosed (' ' :: '/' :: brokenUp cs) :=
        List.isChain_cons_cons.mpr ⟨fun hstar => absurd hstar (by decide), hslash⟩
      exact List.isChain_cons_cons.mpr ⟨fun _ => by decide, hspace⟩
  | cons c cs hmark ih =>
      rw [broken_up_cons hmark]
      refine List.isChain_cons.mpr ⟨?_, ih⟩
      rintro d hd rfl rfl
      -- What follows is broken up as well, but begins as it did.
      rw [head_broken_up] at hd
      obtain ⟨rest, rfl⟩ := List.head?_eq_some_iff.mp (Option.mem_def.mp hd)
      exact hmark ⟨rest, rfl⟩

theorem broken_up_eq_self (h : Unclosed cs) : brokenUp cs = cs := by
  have hpass : brokenUp (cs ++ []) = cs ++ brokenUp [] := by
    refine replace_pass fun part _ hsuffix hbegins => unclosed_iff.1 h ?_
    rw [List.append_nil] at hbegins
    exact hbegins.isInfix.trans hsuffix.isInfix
  rw [List.append_nil] at hpass
  rw [hpass]
  exact List.append_nil cs

end Marks

/-!
## The comment that is written

A documentation comment is its marks, on lines of their own, around the lines of the text.
-/

section Writing

variable {pad cs line : List Char}

/-- The text of a documentation comment. -/
def docText (text indent : String) : String := String.intercalate "\n" (docComment text indent)

/-- A line of the text in its comment. -/
def docLine (pad line : List Char) : List Char :=
  dropEndWhile isBlank (pad ++ ' ' :: '*' :: ' ' :: line)

/-- What stands between the marks of a documentation comment. -/
def docInner (pad cs : List Char) : List Char :=
  List.intercalate ['\n'] ([] :: (lineChars (brokenUp cs)).map (docLine pad) ++ [pad ++ [' ']])

theorem doc_inner_eq (pad cs : List Char) :
    docInner pad cs = '\n' ::
      List.intercalate ['\n'] ((lineChars (brokenUp cs)).map (docLine pad) ++ [pad ++ [' ']]) :=
  intercalate_cons_concat _ _ _ _

/-- An indentation of some width. -/
def spaces (width : Nat) : String := String.ofList (List.replicate width ' ')

theorem eq_space_of_mem_spaces {width : Nat} {c : Char} (h : c ∈ (spaces width).toList) :
    c = ' ' := by
  rw [spaces, String.toList_ofList] at h
  exact List.eq_of_mem_replicate h

theorem doc_comment_lines (text indent : String) :
    (docComment text indent).map String.toList =
      (indent.toList ++ "/**".toList) ::
        ((lineChars (brokenUp text.toList)).map (docLine indent.toList) ++
          [(indent.toList ++ [' ']) ++ commentEnd]) := by
  have hline : ∀ line : List Char, (stripEnd (indent ++ " * " ++ String.ofList line)).toList =
      docLine indent.toList line := by
    intro line
    rw [stripEnd, String.toList_ofList, String.toList_append, String.toList_append,
      @String.toList_ofList line, List.append_assoc]
    rfl
  have hreplaced : (replace text "*/" "* /").toList = brokenUp text.toList := by
    rw [replace_eq, String.toList_ofList]
    rfl
  rw [docComment, lines, hreplaced]
  simp only [List.map_append, List.map_map, List.map_cons, List.map_nil, Function.comp_def, hline,
    String.toList_append, List.cons_append, List.nil_append, List.append_assoc]
  rfl

theorem doc_text_to_list (text indent : String) :
    (docText text indent).toList =
      indent.toList ++
        ("/**".toList ++ docInner indent.toList text.toList ++ commentEnd) := by
  rw [docText, String.toList_intercalate, doc_comment_lines, docInner, List.cons_append]
  have hbreak : "\n".toList = ['\n'] := rfl
  rw [hbreak, intercalate_cons_eq, intercalate_cons_eq]
  simp

/-- Each line begins with a star and a space, so no end mark comes about at its beginning. -/
theorem unclosed_doc_line (hpad : '*' ∉ pad) (h : Unclosed line) : Unclosed (docLine pad line) := by
  have hspace : Unclosed (' ' :: line) :=
    List.isChain_cons.mpr ⟨fun _ _ hstar => absurd hstar (by decide), h⟩
  have hstar : Unclosed ('*' :: ' ' :: line) :=
    List.isChain_cons_cons.mpr ⟨fun _ => by decide, hspace⟩
  have hlead : Unclosed (' ' :: '*' :: ' ' :: line) :=
    List.isChain_cons_cons.mpr ⟨fun _ => by decide, hstar⟩
  have hwhole : Unclosed (pad ++ ' ' :: '*' :: ' ' :: line) :=
    (unclosed_of_not_mem hpad).append hlead fun hstar => absurd hstar hpad
  exact hwhole.part (begins_drop_end_while isBlank _).isInfix

theorem unclosed_doc_inner (hpad : '*' ∉ pad) (cs : List Char) : Unclosed (docInner pad cs) := by
  refine unclosed_intercalate fun l hl => ?_
  rw [List.cons_append, List.mem_cons, List.mem_append, List.mem_map, List.mem_singleton] at hl
  rcases hl with rfl | ⟨line, hline, rfl⟩ | rfl
  · exact .nil
  · exact unclosed_doc_line hpad
      ((unclosed_broken_up cs).part (mem_line_chars hline).2)
  · exact unclosed_of_not_mem (by simpa using hpad)

/-- A text that ends with an end mark and has no other. -/
def Text.ClosesOnce (s : String) : Prop :=
  ∃ body, s.toList = body ++ commentEnd ∧
    ∀ before after, s.toList = before ++ (commentEnd ++ after) → before = body ∧ after = []

theorem closes_once_of_unclosed {s : String} {body : List Char} (hs : s.toList = body ++ commentEnd)
    (h : Unclosed body) : Text.ClosesOnce s := by
  refine ⟨body, hs, fun before after hparts => ?_⟩
  have hstar : Unclosed (body ++ ['*']) :=
    h.append (unclosed_iff.2 (by decide)) fun _ => by decide
  rw [hs] at hparts
  rcases List.eq_nil_or_concat' after with rfl | ⟨front, last, rfl⟩
  · rw [List.append_nil] at hparts
    exact ⟨(List.append_cancel_right hparts).symm, rfl⟩
  · -- An end mark that is not the last would stand in the text without its last character.
    have hshort : body ++ ['*'] ++ ['/'] = before ++ commentEnd ++ front ++ [last] := by
      simpa [commentEnd] using hparts
    have hstands : commentEnd <:+: body ++ ['*'] :=
      ⟨before, front, (List.append_inj_left' hshort rfl).symm⟩
    exact absurd hstands (unclosed_iff.1 hstar)

theorem closes_once_doc_text (text : String) (width : Nat) :
    Text.ClosesOnce (docText text (spaces width)) := by
  have hpad : '*' ∉ (spaces width).toList :=
    fun hstar => absurd (eq_space_of_mem_spaces hstar) (by decide)
  have hopen : Unclosed ("/**".toList ++ docInner (spaces width).toList text.toList) := by
    refine Unclosed.append (unclosed_iff.2 (by decide)) (unclosed_doc_inner hpad _) fun _ => ?_
    rw [doc_inner_eq, List.head?_cons]
    decide
  have hbody : Unclosed ((spaces width).toList ++
      ("/**".toList ++ docInner (spaces width).toList text.toList)) :=
    (unclosed_of_not_mem hpad).append hopen fun hstar => absurd hstar hpad
  refine closes_once_of_unclosed ?_ hbody
  rw [doc_text_to_list, ← List.append_assoc]

end Writing

/-!
## The comment that is read

Reading takes off the marks, and from each line its blanks and one run of stars.
-/

section Reading

variable {cs l : List Char} {ls : List (List Char)}

/-- What is read of a line. -/
def readLine (cs : List Char) : List Char :=
  trimWhile isBlank ((trimWhile isBlank cs).dropWhile (· == '*'))

/-- The lines that are read of a text. -/
def readLines (cs : List Char) : List (List Char) :=
  ((lineChars cs).map readLine).filter (!·.isEmpty)

/-- A comment without its marks. -/
def commentInner (s : String) : List Char := (dropEnd (dropStart (strip s) "/**") "*/").toList

theorem clean_comment_to_list (s : String) :
    (cleanComment s).toList = List.intercalate ['\n'] (readLines (commentInner s)) := by
  have hline : ∀ line : List Char,
      strip (stripStartOf (· == '*') (strip (String.ofList line))) =
        String.ofList (readLine line) := by
    intro line
    simp only [strip, stripOf, stripStartOf, String.toList_ofList, readLine]
  have hempty : ∀ line : List Char, (String.ofList line).isEmpty = line.isEmpty := by
    intro line
    rw [Bool.eq_iff_iff, String.isEmpty_iff, List.isEmpty_iff, String.ofList_eq_empty_iff]
  rw [cleanComment, String.toList_intercalate, lines]
  simp only [List.map_map, Function.comp_def, hline, List.filter_map, hempty, readLines,
    String.toList_ofList, commentInner]
  rfl

/-- A line of a documentation: not empty, without blanks at its ends, and one line. -/
structure IsDocLine (l : List Char) : Prop where
  nonempty : l ≠ []
  trimmed : IsTrimmed isBlank l
  unbroken : ∀ c ∈ l, isLineBreak c = false

/-- What is read of a line stands in it. -/
theorem stands_read_line (cs : List Char) : readLine cs <:+: cs :=
  (stands_trim_while isBlank _).trans
    ((List.dropWhile_suffix _).isInfix.trans (stands_trim_while isBlank cs))

theorem of_mem_read_lines (h : l ∈ readLines cs) : IsDocLine l ∧ l <:+: cs := by
  obtain ⟨hread, hne⟩ := List.mem_filter.mp h
  obtain ⟨line, hline, rfl⟩ := List.mem_map.mp hread
  obtain ⟨hunbroken, hstands⟩ := mem_line_chars hline
  have hread := stands_read_line line
  refine ⟨⟨by simpa using hne, is_trimmed_trim_while isBlank _, fun c hc => ?_⟩,
    hread.trans hstands⟩
  exact hunbroken c (hread.subset hc)

/-- A comment has been read as lines of documentation. -/
theorem clean_comment_lines (s : String) : ∃ ls, (∀ l ∈ ls, IsDocLine l) ∧
    (cleanComment s).toList = List.intercalate ['\n'] ls :=
  ⟨_, fun _ hl => (of_mem_read_lines hl).1, clean_comment_to_list s⟩

/-- Joined lines of documentation are cut apart again. -/
theorem line_chars_of_doc_lines (h : ∀ l ∈ ls, IsDocLine l) :
    lineChars (List.intercalate ['\n'] ls) = ls := by
  rcases List.eq_nil_or_concat' ls with rfl | ⟨front, last, rfl⟩
  · rfl
  · have hlast := h last (by simp)
    exact line_chars_intercalate (fun l hl => (h l (List.mem_append_left _ hl)).unbroken)
      hlast.unbroken hlast.nonempty

theorem drop_start_append (part : String) (cs : List Char) :
    dropStart (String.ofList (part.toList ++ cs)) part = String.ofList cs := by
  have hstarts : startsWith (String.ofList (part.toList ++ cs)) part = true := by
    rw [startsWith, String.toList_ofList]
    exact List.isPrefixOf_iff_prefix.mpr (List.prefix_append _ _)
  rw [dropStart, if_pos hstarts, String.toList_ofList, List.drop_left]

theorem drop_end_append (part : String) (cs : List Char) :
    dropEnd (String.ofList (cs ++ part.toList)) part = String.ofList cs := by
  have hends : endsWith (String.ofList (cs ++ part.toList)) part = true := by
    rw [endsWith, String.toList_ofList]
    exact List.isSuffixOf_iff_suffix.mpr (List.suffix_append _ _)
  rw [dropEnd, if_pos hends, String.toList_ofList, List.length_append, Nat.add_sub_cancel,
    List.take_left]

/-- Without the marks a documentation comment is what stands between them. -/
theorem comment_inner_doc_text (text : String) (width : Nat) :
    commentInner (docText text (spaces width)) = docInner (spaces width).toList text.toList := by
  have hpad : ∀ c ∈ (spaces width).toList, isBlank c = true :=
    fun c hc => eq_space_of_mem_spaces hc ▸ (by decide)
  generalize hinner : docInner (spaces width).toList text.toList = inner
  have htrimmed : IsTrimmed isBlank ("/**".toList ++ (inner ++ commentEnd)) :=
    (is_trimmed_of_forall (by simp [isBlank])).append
      (is_trimmed_of_forall (by simp [commentEnd, isBlank])) (by decide) (by decide) inner
  have htext : docText text (spaces width) =
      String.ofList ((spaces width).toList ++ ("/**".toList ++ (inner ++ commentEnd))) := by
    refine String.toList_inj.mp ((doc_text_to_list text _).trans ?_)
    rw [hinner, List.append_assoc]
    exact String.toList_ofList.symm
  rw [commentInner, htext, strip_leading hpad htrimmed, drop_start_append, commentEnd,
    drop_end_append, String.toList_ofList]

/-- A line of documentation is read as it was written. -/
theorem read_doc_line {pad : List Char} (hpad : ∀ c ∈ pad, isBlank c = true) (h : IsDocLine l) :
    readLine (docLine pad l) = l := by
  have hstar : IsTrimmed isBlank (['*'] ++ ([' '] ++ l)) :=
    (is_trimmed_of_forall (List.forall_mem_singleton.mpr rfl)).append h.trimmed
      (List.cons_ne_nil _ _) h.nonempty [' ']
  have hline : docLine pad l = (pad ++ [' ']) ++ (['*'] ++ ([' '] ++ l)) := by
    have hkept := drop_end_while_append h.trimmed h.nonempty (pad ++ [' ', '*', ' '])
    simpa [docLine] using hkept
  have hlead : ∀ c ∈ pad ++ [' '], isBlank c = true :=
    List.forall_mem_append.mpr ⟨hpad, List.forall_mem_singleton.mpr rfl⟩
  calc readLine (docLine pad l)
      = trimWhile isBlank ((['*'] ++ ([' '] ++ l)).dropWhile (· == '*')) := by
        unfold readLine
        rw [hline, trim_while_leading hlead hstar]
    _ = trimWhile isBlank ([' '] ++ l) := rfl
    _ = l := trim_while_leading (List.forall_mem_singleton.mpr rfl) h.trimmed

theorem read_blank_line {pad : List Char} (hpad : ∀ c ∈ pad, isBlank c = true) :
    readLine pad = [] := by
  have htrim : trimWhile isBlank (pad ++ []) = [] :=
    trim_while_leading hpad (is_trimmed_of_forall nofun)
  rw [List.append_nil] at htrim
  unfold readLine
  rw [htrim]
  rfl

/-- A line of documentation stays one line in its comment. -/
theorem doc_line_unbroken {pad : List Char} (hpad : ∀ c ∈ pad, isLineBreak c = false)
    (h : IsDocLine l) : ∀ c ∈ docLine pad l, isLineBreak c = false := by
  have hwhole : ∀ c ∈ pad ++ ([' ', '*', ' '] ++ l), isLineBreak c = false :=
    List.forall_mem_append.mpr
      ⟨hpad, List.forall_mem_append.mpr ⟨by simp [isLineBreak], h.unbroken⟩⟩
  exact fun c hc => hwhole c ((begins_drop_end_while isBlank _).subset hc)

/-- The lines between the marks, with those that the marks end and begin, are cut apart again. -/
theorem line_chars_of_doc_inner {pad : List Char} (hpad : ∀ c ∈ pad, c = ' ')
    (h : ∀ l ∈ ls, IsDocLine l) :
    lineChars (List.intercalate ['\n'] ([] :: ls.map (docLine pad) ++ [pad ++ [' ']])) =
      [] :: ls.map (docLine pad) ++ [pad ++ [' ']] := by
  have hunbroken : ∀ c ∈ pad, isLineBreak c = false := fun c hc => hpad c hc ▸ (by decide)
  have hlines : ∀ line ∈ [] :: ls.map (docLine pad), ∀ c ∈ line, isLineBreak c = false := by
    refine List.forall_mem_cons.mpr ⟨nofun, fun line hline => ?_⟩
    obtain ⟨l, hl, rfl⟩ := List.mem_map.mp hline
    exact doc_line_unbroken hunbroken (h l hl)
  have hlast : ∀ c ∈ pad ++ [' '], isLineBreak c = false :=
    List.forall_mem_append.mpr ⟨hunbroken, List.forall_mem_singleton.mpr rfl⟩
  exact line_chars_intercalate hlines hlast (by simp)

/-- The lines of the marks are blank without them, so only the lines between them are read. -/
theorem read_doc_lines {pad : List Char} (hpad : ∀ c ∈ pad, c = ' ') (h : ∀ l ∈ ls, IsDocLine l) :
    (([] :: ls.map (docLine pad) ++ [pad ++ [' ']]).map readLine).filter (!·.isEmpty) = ls := by
  have hblank : ∀ c ∈ pad, isBlank c = true := fun c hc => hpad c hc ▸ (by decide)
  have hread : (ls.map (docLine pad)).map readLine = ls := by
    rw [List.map_map]
    exact (List.map_congr_left fun l hl => read_doc_line hblank (h l hl)).trans (List.map_id ls)
  have hopening : readLine [] = [] := rfl
  have hclosing : readLine (pad ++ [' ']) = [] :=
    read_blank_line (List.forall_mem_append.mpr ⟨hblank, List.forall_mem_singleton.mpr rfl⟩)
  have hkept : ls.filter (!·.isEmpty) = ls :=
    List.filter_eq_self.mpr fun l hl => by simpa using (h l hl).nonempty
  rw [List.cons_append, List.map_cons, List.map_append, hread, List.map_singleton, hclosing,
    hopening]
  simp [hkept]

/-- Lines of documentation are read as they were written. -/
theorem clean_doc_text (h : ∀ l ∈ ls, IsDocLine l) (width : Nat)
    (hunclosed : Unclosed (List.intercalate ['\n'] ls)) :
    (cleanComment (docText (String.ofList (List.intercalate ['\n'] ls)) (spaces width))).toList =
      List.intercalate ['\n'] ls := by
  have hpad : ∀ c ∈ (spaces width).toList, c = ' ' := fun _ => eq_space_of_mem_spaces
  rw [clean_comment_to_list, comment_inner_doc_text, String.toList_ofList, docInner,
    broken_up_eq_self hunclosed, line_chars_of_doc_lines h, readLines,
    line_chars_of_doc_inner hpad h, read_doc_lines hpad h]

/-- What is read of a documentation comment has no end mark. -/
theorem unclosed_clean_doc_text (text : String) (width : Nat) :
    Unclosed (cleanComment (docText text (spaces width))).toList := by
  have hpad : '*' ∉ (spaces width).toList :=
    fun hstar => absurd (eq_space_of_mem_spaces hstar) (by decide)
  rw [clean_comment_to_list, comment_inner_doc_text]
  exact unclosed_intercalate fun l hl =>
    (unclosed_doc_inner hpad _).part (of_mem_read_lines hl).2

end Reading

/-- A draft of the same unit without documentation. -/
def Draft.undocumented (d : Draft) : Draft :=
  let metadata := { d.component.metadata with documentation := "" }
  { d with component := { d.component with metadata := metadata } }

/-- The documentation of a unit as it stands above the component. -/
def docHead (documentation : String) : String :=
  if documentation.isEmpty then "" else docText documentation (spaces 0) ++ "\n"

/-- A unit's documentation stands in a comment above the component and changes nothing else. -/
theorem Draft.declaration_documented (d : Draft) (n : Node) (p : Pieces) :
    (d.emit n p).declaration =
      docHead d.component.metadata.documentation ++ (d.undocumented.emit n p).declaration := by
  let doc := d.component.metadata.documentation
  obtain ⟨lines, hne, hlines, hrest⟩ : ∃ lines : List String, lines ≠ [] ∧
      (d.emit n p).declaration =
        String.intercalate "\n" ((if doc.isEmpty then [] else docComment doc "") ++ lines) ∧
      (d.undocumented.emit n p).declaration = String.intercalate "\n" lines := by
    refine ⟨_, ?_, rfl, ?_⟩
    · split <;> exact List.append_ne_nil_of_right_ne_nil _ (List.cons_ne_nil _ _)
    · rfl
  rw [hlines, hrest, docHead]
  by_cases hdoc : doc.isEmpty
  · rw [if_pos hdoc, if_pos hdoc]
    exact (String.empty_append).symm
  · have hcomment : docComment doc "" ≠ [] := List.cons_ne_nil _ _
    have hspaces : spaces 0 = "" := rfl
    rw [if_neg hdoc, if_neg hdoc, docText, hspaces,
      String.intercalate_append_of_ne_nil hcomment hne]

/-- A documentation comment ends at its last characters and nowhere else.  A documentation that was
read from a comment is read again from the comment that is written for it, exactly if it has no end
mark; and that comment stands above the unit's component, of which it is no other part. -/
theorem documentation_survives (text comment : String) (width : Nat) :
    Text.ClosesOnce (docText text (spaces width)) ∧
    (cleanComment (docText (cleanComment comment) (spaces width)) = cleanComment comment ↔
      ¬Text.StandsIn "*/" (cleanComment comment)) ∧
    ∀ (d : Draft) (n : Node) (p : Pieces), (d.emit n p).declaration =
      docHead d.component.metadata.documentation ++ (d.undocumented.emit n p).declaration := by
  refine ⟨closes_once_doc_text text width, ⟨fun h => ?_, fun hunclosed => ?_⟩,
    Draft.declaration_documented⟩
  · rw [← h, Text.StandsIn]
    exact unclosed_iff.mp (unclosed_clean_doc_text _ width)
  · obtain ⟨ls, hls, hread⟩ := clean_comment_lines comment
    have hdoc : cleanComment comment = String.ofList (List.intercalate ['\n'] ls) := by
      rw [← hread, String.ofList_toList]
    have hopen : Unclosed (List.intercalate ['\n'] ls) := unclosed_iff.mpr (hread ▸ hunclosed)
    rw [← String.toList_inj, hdoc, clean_doc_text hls width hopen, String.toList_ofList]

end ComponentMigration
