import Mathlib.Data.List.Basic
import ComponentMigration.Proofs.Text.Splitting

/-!
# Lines of a part of a text

A part of a text that begins and ends with characters other than line ends is cut as it is by
itself: its inner lines are lines of the text, and what stands around it only goes on its first and
its last line (`lines_lie_of_middle`).
-/

namespace ComponentMigration.Text

section Cutting

variable {c : Char} {cs rest line : List Char}

theorem line_chars_go_end (h : line ≠ []) : lineChars.go [] line = [line.reverse] := by
  cases line with
  | nil => exact absurd rfl h
  | cons c line => rfl

theorem line_chars_go_pair (rest line : List Char) :
    lineChars.go ('\r' :: '\n' :: rest) line = line.reverse :: lineChars.go rest [] := rfl

/-- A character that does not begin a pair of line ends either ends the line or goes on it. -/
theorem line_chars_go_single (h : ∀ tail, c = '\r' → rest = '\n' :: tail → False) :
    lineChars.go (c :: rest) line =
      if isLineBreak c then line.reverse :: lineChars.go rest []
      else lineChars.go rest (c :: line) := by
  rw [lineChars.go]
  exact h

theorem line_chars_go_cons (h : ¬(c = '\r' ∧ rest.head? = some '\n')) :
    lineChars.go (c :: rest) line =
      if isLineBreak c then line.reverse :: lineChars.go rest []
      else lineChars.go rest (c :: line) := by
  refine line_chars_go_single ?_
  rintro tail rfl rfl
  exact h ⟨rfl, rfl⟩

/-- No pair of line ends comes about where a text goes on. -/
theorem not_pair_append (h : ∀ tail, c = '\r' → cs = '\n' :: tail → False)
    (hrest : rest.head? ≠ some '\n') : ¬(c = '\r' ∧ (cs ++ rest).head? = some '\n') := by
  rintro ⟨hc, hhead⟩
  cases cs with
  | nil => exact hrest hhead
  | cons d cs =>
      cases hhead
      exact h cs hc rfl

/-- A character that ends no line goes on the current one. -/
theorem line_chars_go_of_not_break (h : isLineBreak c = false) (rest line : List Char) :
    lineChars.go (c :: rest) line = lineChars.go rest (c :: line) := by
  rw [line_chars_go_cons, h, if_neg Bool.false_ne_true]
  rintro ⟨rfl, -⟩
  exact absurd h (by decide)

/-- A text without line ends goes on the current line as a whole. -/
theorem line_chars_go_of_no_break (h : ∀ c ∈ cs, isLineBreak c = false) (rest line : List Char) :
    lineChars.go (cs ++ rest) line = lineChars.go rest (cs.reverse ++ line) := by
  induction cs generalizing line with
  | nil => rfl
  | cons c cs ih =>
      rw [List.cons_append, line_chars_go_of_not_break (h c List.mem_cons_self),
        ih fun d hd => h d (List.mem_cons_of_mem c hd)]
      simp

/-- What follows a text is cut apart from it, with what the text leaves open as its current line. -/
theorem line_chars_go_append (cs line : List Char) :
    ∃ closed opened, ∀ rest, rest.head? ≠ some '\n' →
      lineChars.go (cs ++ rest) line = closed ++ lineChars.go rest opened := by
  -- Where `cs` ends with the first half of a pair, `rest` must not begin with the second.
  induction cs, line using lineChars.go.induct with
  | case1 => exact ⟨[], [], fun _ _ => rfl⟩
  | case2 line => exact ⟨[], line, fun _ _ => rfl⟩
  | case3 tail line ih =>
      obtain ⟨closed, opened, hgo⟩ := ih
      refine ⟨line.reverse :: closed, opened, fun rest hrest => ?_⟩
      rw [List.cons_append, List.cons_append, line_chars_go_pair, hgo rest hrest, List.cons_append]
  | case4 c tail line hpair hbreak ih =>
      obtain ⟨closed, opened, hgo⟩ := ih
      refine ⟨line.reverse :: closed, opened, fun rest hrest => ?_⟩
      rw [List.cons_append, line_chars_go_cons (not_pair_append hpair hrest), if_pos hbreak,
        hgo rest hrest, List.cons_append]
  | case5 c tail line hpair hbreak ih =>
      obtain ⟨closed, opened, hgo⟩ := ih
      refine ⟨closed, opened, fun rest hrest => ?_⟩
      rw [List.cons_append, line_chars_go_cons (not_pair_append hpair hrest), if_neg hbreak,
        hgo rest hrest]

/-- A text with a line end: the current line goes on with a part of it, and another line is open at
its end. -/
theorem line_chars_go_of_break (hbreak : ∃ c ∈ cs, isLineBreak c = true) :
    ∃ first closed opened, ∀ rest line, rest.head? ≠ some '\n' →
      lineChars.go (cs ++ rest) line =
        (line.reverse ++ first) :: (closed ++ lineChars.go rest opened) := by
  induction cs with
  | nil =>
      obtain ⟨c, hc, -⟩ := hbreak
      cases hc
  | cons c cs ih =>
      -- The first line end is a pair, a single character here, or further on.
      by_cases hpair : ∃ tail, c = '\r' ∧ cs = '\n' :: tail
      · obtain ⟨tail, rfl, rfl⟩ := hpair
        obtain ⟨closed, opened, hgo⟩ := line_chars_go_append tail []
        refine ⟨[], closed, opened, fun rest line hrest => ?_⟩
        rw [← hgo rest hrest, List.append_nil, List.cons_append, List.cons_append, line_chars_go_pair]
      have hnopair : ∀ tail, c = '\r' → cs = '\n' :: tail → False :=
        fun tail hc hcs => hpair ⟨tail, hc, hcs⟩
      by_cases hc : isLineBreak c = true
      · obtain ⟨closed, opened, hgo⟩ := line_chars_go_append cs []
        refine ⟨[], closed, opened, fun rest line hrest => ?_⟩
        rw [List.cons_append, line_chars_go_cons (not_pair_append hnopair hrest), if_pos hc,
          hgo rest hrest, List.append_nil]
      · obtain ⟨first, closed, opened, hgo⟩ := ih <| by
          obtain ⟨d, hd, hd'⟩ := hbreak
          rcases List.mem_cons.mp hd with rfl | hd
          · exact absurd hd' hc
          · exact ⟨d, hd, hd'⟩
        refine ⟨c :: first, closed, opened, fun rest line hrest => ?_⟩
        rw [List.cons_append, line_chars_go_cons (not_pair_append hnopair hrest), if_neg hc,
          hgo rest (c :: line) hrest, List.reverse_cons, List.append_assoc, List.singleton_append]

/-- A line that is not empty goes on with what follows. -/
theorem line_chars_go_open (cs : List Char) :
    ∃ first closed, ∀ line ≠ [], lineChars.go cs line = (line.reverse ++ first) :: closed := by
  by_cases hbreak : ∃ c ∈ cs, isLineBreak c = true
  · obtain ⟨first, closed, opened, hgo⟩ := line_chars_go_of_break hbreak
    refine ⟨first, closed ++ lineChars.go [] opened, fun line _ => ?_⟩
    rw [← hgo [] line (by simp), List.append_nil]
  · have hno : ∀ c ∈ cs, isLineBreak c = false :=
      fun c hc => Bool.eq_false_iff.mpr fun hc' => hbreak ⟨c, hc, hc'⟩
    refine ⟨cs, [], fun line hline => ?_⟩
    have hgo := line_chars_go_of_no_break hno [] line
    rw [List.append_nil] at hgo
    obtain ⟨d, line, rfl⟩ := List.exists_cons_of_ne_nil hline
    rw [hgo, line_chars_go_end (by simp)]
    simp

/-- A text without line ends is one line. -/
theorem line_chars_of_no_break (h : ∀ c ∈ cs, isLineBreak c = false) (hne : cs ≠ []) :
    lineChars cs = [cs] := by
  have hgo := line_chars_go_of_no_break h [] []
  rw [List.append_nil, List.append_nil] at hgo
  unfold lineChars
  rw [hgo, line_chars_go_end (List.reverse_ne_nil_iff.mpr hne), List.reverse_reverse]

/-- Joined lines are cut apart again, if the last of them is not empty. -/
theorem line_chars_intercalate {lines : List (List Char)} {last : List Char}
    (h : ∀ l ∈ lines, ∀ c ∈ l, isLineBreak c = false) (hlast : ∀ c ∈ last, isLineBreak c = false)
    (hne : last ≠ []) : lineChars (List.intercalate ['\n'] (lines ++ [last])) = lines ++ [last] := by
  induction lines with
  | nil =>
      rw [List.nil_append, List.intercalate_singleton]
      exact line_chars_of_no_break hlast hne
  | cons l lines ih =>
      obtain ⟨hl, hlines⟩ := List.forall_mem_cons.mp h
      rw [intercalate_cons_concat, lineChars, line_chars_go_of_no_break hl, List.append_nil,
        List.singleton_append, line_chars_go_cons fun h => absurd h.1 (by decide), if_pos (by decide),
        List.reverse_reverse, ← lineChars, ih hlines, List.cons_append]

/-- A line stands in the text, and no line ends in it. -/
theorem mem_line_chars_go {l : List Char} (hline : ∀ c ∈ line, isLineBreak c = false)
    (h : l ∈ lineChars.go cs line) :
    (∀ c ∈ l, isLineBreak c = false) ∧ l <:+: line.reverse ++ cs := by
  have hcurrent : ∀ {line : List Char} (cs), (∀ c ∈ line, isLineBreak c = false) →
      (∀ c ∈ line.reverse, isLineBreak c = false) ∧ line.reverse <:+: line.reverse ++ cs :=
    fun cs hline => ⟨fun c hc => hline c (List.mem_reverse.mp hc), (List.prefix_append _ cs).isInfix⟩
  induction cs, line using lineChars.go.induct with
  | case1 => cases h
  | case2 line hne =>
      rw [line_chars_go_end hne] at h
      cases List.mem_singleton.mp h
      exact hcurrent [] hline
  | case3 tail line ih =>
      rcases List.mem_cons.mp h with rfl | h
      · exact hcurrent _ hline
      · obtain ⟨hl, hinfix⟩ := ih (fun _ hc => absurd hc List.not_mem_nil) h
        refine ⟨hl, hinfix.trans ?_⟩
        exact (List.suffix_append (line.reverse ++ ['\r', '\n']) tail).isInfix.trans (by simp)
  | case4 c tail line hpair hbreak ih =>
      rw [line_chars_go_single hpair, if_pos hbreak] at h
      rcases List.mem_cons.mp h with rfl | h
      · exact hcurrent _ hline
      · obtain ⟨hl, hinfix⟩ := ih (fun _ hc => absurd hc List.not_mem_nil) h
        refine ⟨hl, hinfix.trans ?_⟩
        exact (List.suffix_append (line.reverse ++ [c]) tail).isInfix.trans (by simp)
  | case5 c tail line hpair hbreak ih =>
      rw [line_chars_go_single hpair, if_neg hbreak] at h
      have hc : isLineBreak c = false := Bool.not_eq_true _ ▸ hbreak
      obtain ⟨hl, hinfix⟩ := ih (List.forall_mem_cons.mpr ⟨hc, hline⟩) h
      rw [List.reverse_cons, List.append_assoc, List.singleton_append] at hinfix
      exact ⟨hl, hinfix⟩

theorem mem_line_chars {l : List Char} (h : l ∈ lineChars cs) :
    (∀ c ∈ l, isLineBreak c = false) ∧ l <:+: cs :=
  mem_line_chars_go (fun _ hc => absurd hc List.not_mem_nil) h

end Cutting

/-- How the lines of a part that begins with `a` and ends with `z` lie among those of a whole text. -/
inductive LinesLie (a z : Char) (lines whole : List (List Char)) : Prop
  /-- The part stands on one line. -/
  | one {inner p q : List Char} {above below : List (List Char)}
      (hlines : lines = [a :: inner ++ [z]])
      (hwhole : whole = above ++ (p ++ a :: inner ++ z :: q) :: below)
  /-- The part goes over several lines. -/
  | many {first last p q : List Char} {inner above below : List (List Char)}
      (hlines : lines = (a :: first) :: (inner ++ [last ++ [z]]))
      (hwhole : whole = above ++ (p ++ a :: first) :: (inner ++ (last ++ z :: q) :: below))

/-- The lines of a part that begins and ends with characters other than line ends lie among those of
the text. -/
theorem lines_lie_of_middle {a z : Char} (ha : isLineBreak a = false) (hz : isLineBreak z = false)
    (before inner after : List Char) :
    LinesLie a z (lineChars (a :: inner ++ [z]))
      (lineChars (before ++ (a :: inner ++ z :: after))) := by
  have hhead : ∀ {c : Char} {rest : List Char}, isLineBreak c = false →
      (c :: rest).head? ≠ some '\n' := by
    rintro c rest hc h
    cases h
    exact absurd hc (by decide)
  have hclosed : ∀ line, lineChars.go [] (z :: line) = [line.reverse ++ [z]] := by
    intro line
    rw [line_chars_go_end (List.cons_ne_nil z line), List.reverse_cons]
  obtain ⟨above, p, hbefore⟩ := line_chars_go_append before []
  obtain ⟨q, below, hafter⟩ := line_chars_go_open after
  unfold lineChars
  rw [List.cons_append, List.cons_append, hbefore _ (hhead ha),
    line_chars_go_of_not_break ha, line_chars_go_of_not_break ha]
  by_cases hbreak : ∃ c ∈ inner, isLineBreak c = true
  · obtain ⟨first, closed, last, hinner⟩ := line_chars_go_of_break hbreak
    rw [hinner _ _ (hhead hz), hinner _ _ (hhead hz), line_chars_go_of_not_break hz,
      line_chars_go_of_not_break hz, hclosed, hafter _ (List.cons_ne_nil z last)]
    have hwhole : above ++ ((a :: p).reverse ++ first) ::
          (closed ++ ((z :: last).reverse ++ q) :: below) =
        above ++ (p.reverse ++ a :: first) :: (closed ++ (last.reverse ++ z :: q) :: below) := by
      simp
    exact .many rfl hwhole
  · have hno : ∀ c ∈ inner, isLineBreak c = false :=
      fun c hc => Bool.eq_false_iff.mpr fun h => hbreak ⟨c, hc, h⟩
    rw [line_chars_go_of_no_break hno, line_chars_go_of_no_break hno, line_chars_go_of_not_break hz,
      line_chars_go_of_not_break hz, hclosed, hafter _ (List.cons_ne_nil z _)]
    have hlines : [(inner.reverse ++ [a]).reverse ++ [z]] = [a :: inner ++ [z]] := by simp
    have hwhole : above ++ ((z :: (inner.reverse ++ a :: p)).reverse ++ q) :: below =
        above ++ (p.reverse ++ a :: inner ++ z :: q) :: below := by
      simp
    exact .one hlines hwhole

end ComponentMigration.Text
