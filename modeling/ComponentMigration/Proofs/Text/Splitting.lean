import Mathlib.Data.List.TakeWhile
import ComponentMigration.Text.Basic

/-!
# Cutting texts apart

A text is cut at a separator from the left.  A part in which no separator begins goes on the current
piece (`split_go_pass`), and a separator ends it (`split_go_sep`).  So joined pieces are cut apart
again (`split_chars_intercalate`), and what is put in place of separators is found part by part
(`replace_pass`, `replace_sep`).  Blanks around a text that has none at its ends are trimmed
(`trim_while_surrounded`).
-/

namespace ComponentMigration.Text

section Cutting

variable {c x : Char} {sep cs rest piece : List Char}

theorem split_go_end (sep piece : List Char) (skip : Nat) :
    splitChars.go sep [] skip piece = [piece.reverse] := rfl

theorem split_go_begins (h : sep.isPrefixOf (c :: rest) = true) (piece : List Char) :
    splitChars.go sep (c :: rest) 0 piece =
      piece.reverse :: splitChars.go sep rest (sep.length - 1) [] :=
  if_pos h

theorem split_go_goes_on (h : ¬sep.isPrefixOf (c :: rest) = true) (piece : List Char) :
    splitChars.go sep (c :: rest) 0 piece = splitChars.go sep rest 0 (c :: piece) :=
  if_neg h

theorem split_go_skip (xs rest piece : List Char) :
    splitChars.go sep (xs ++ rest) xs.length piece = splitChars.go sep rest 0 piece := by
  induction xs with
  | nil => rfl
  | cons c xs ih => exact ih

/-- A part in which no separator begins goes on the current piece. -/
theorem split_go_pass (h : ∀ part, part ≠ [] → part <:+ cs → ¬sep <+: part ++ rest) :
    splitChars.go sep (cs ++ rest) 0 piece = splitChars.go sep rest 0 (cs.reverse ++ piece) := by
  induction cs generalizing piece with
  | nil => rfl
  | cons c cs ih =>
      have hno : ¬sep.isPrefixOf (c :: (cs ++ rest)) = true := fun hbegins =>
        h (c :: cs) (List.cons_ne_nil c cs) List.suffix_rfl (List.isPrefixOf_iff_prefix.mp hbegins)
      rw [List.cons_append, split_go_goes_on hno,
        ih fun part hpart hsuffix => h part hpart (hsuffix.trans (List.suffix_cons c cs)),
        List.reverse_cons, List.append_assoc, List.singleton_append]

/-- A separator ends the current piece. -/
theorem split_go_sep :
    splitChars.go (x :: sep) (x :: sep ++ rest) 0 piece =
      piece.reverse :: splitChars.go (x :: sep) rest 0 [] := by
  have hbegins : (x :: sep).isPrefixOf (x :: (sep ++ rest)) = true :=
    List.isPrefixOf_iff_prefix.mpr (List.prefix_append (x :: sep) rest)
  rw [List.cons_append, split_go_begins hbegins]
  exact congrArg _ (split_go_skip sep rest [])

/-- In a part without the first character of the separator no separator begins. -/
theorem not_prefix_of_not_mem (h : x ∉ cs) (part : List Char) (hpart : part ≠ [])
    (hsuffix : part <:+ cs) : ¬x :: sep <+: part ++ rest := by
  obtain ⟨c, part, rfl⟩ := List.exists_cons_of_ne_nil hpart
  rw [List.cons_append, List.cons_prefix_cons]
  rintro ⟨rfl, -⟩
  exact h (hsuffix.subset List.mem_cons_self)

theorem split_go_of_not_mem (h : x ∉ cs) :
    splitChars.go (x :: sep) cs 0 piece = [piece.reverse ++ cs] := by
  have hgo : splitChars.go (x :: sep) (cs ++ []) 0 piece =
      splitChars.go (x :: sep) [] 0 (cs.reverse ++ piece) :=
    split_go_pass (not_prefix_of_not_mem h)
  rw [List.append_nil] at hgo
  rw [hgo, split_go_end]
  simp

theorem split_go_append (h : x ∉ cs) :
    splitChars.go (x :: sep) (cs ++ (x :: sep ++ rest)) 0 piece =
      (piece.reverse ++ cs) :: splitChars.go (x :: sep) rest 0 [] := by
  rw [split_go_pass (not_prefix_of_not_mem h), split_go_sep]
  simp

/-- A text without the first character of the separator is one piece. -/
theorem split_chars_of_not_mem (h : x ∉ cs) : splitChars (x :: sep) cs = [cs] :=
  split_go_of_not_mem h

/-- A text in which a character of the separator is too rare is one piece. -/
theorem split_chars_of_count_lt (h : cs.count x < sep.count x) : splitChars sep cs = [cs] := by
  have hgo : splitChars.go sep (cs ++ []) 0 [] = splitChars.go sep [] 0 (cs.reverse ++ []) :=
    split_go_pass fun part _ hsuffix hbegins => by
      rw [List.append_nil] at hbegins
      have hsep := hbegins.sublist.count_le x
      have hpart := hsuffix.sublist.count_le x
      omega
  rw [List.append_nil] at hgo
  rw [splitChars, hgo, split_go_end]
  simp

/-- What stands before the first place of a character is determined by the whole. -/
theorem eq_of_append_cons_eq {ys rest' : List Char} (hcs : x ∉ cs) (hys : x ∉ ys)
    (h : cs ++ x :: rest = ys ++ x :: rest') : cs = ys := by
  have htake : ∀ {zs tail : List Char}, x ∉ zs → (zs ++ x :: tail).takeWhile (· != x) = zs := by
    intro zs tail hzs
    have hother : ∀ c ∈ zs, (c != x) = true := by
      intro c hc
      exact bne_iff_ne.mpr (ne_of_mem_of_not_mem hc hzs)
    rw [List.takeWhile_append_of_pos hother]
    simp
  rw [← htake hcs, h, htake hys]

/-- What stands before the first separator is the first piece. -/
theorem split_chars_append (h : x ∉ cs) (sep rest : List Char) :
    splitChars (x :: sep) (cs ++ (x :: sep ++ rest)) = cs :: splitChars (x :: sep) rest :=
  split_go_append h

/-- Pieces without the separator's first character are what their joined text is cut into. -/
theorem split_chars_intercalate {pieces : List (List Char)} (hne : pieces ≠ [])
    (h : ∀ piece ∈ pieces, x ∉ piece) :
    splitChars (x :: sep) (List.intercalate (x :: sep) pieces) = pieces := by
  induction pieces with
  | nil => exact absurd rfl hne
  | cons piece pieces ih =>
      obtain ⟨hpiece, hpieces⟩ := List.forall_mem_cons.mp h
      cases pieces with
      | nil =>
          rw [List.intercalate_singleton]
          exact split_chars_of_not_mem hpiece
      | cons next pieces =>
          rw [List.intercalate_cons_cons, List.append_assoc, split_chars_append hpiece,
            ih (List.cons_ne_nil next pieces) hpieces]

/-- A character of joined pieces is one of a piece or of the separator. -/
theorem not_mem_intercalate {parts : List (List Char)} (hsep : x ∉ sep)
    (h : ∀ part ∈ parts, x ∉ part) : x ∉ List.intercalate sep parts := by
  induction parts with
  | nil => exact List.not_mem_nil
  | cons part parts ih =>
      obtain ⟨hpart, hparts⟩ := List.forall_mem_cons.mp h
      cases parts with
      | nil => rwa [List.intercalate_singleton]
      | cons next parts =>
          rw [List.intercalate_cons_cons]
          simp only [List.mem_append]
          rintro ((hmem | hmem) | hmem)
          exacts [hpart hmem, hsep hmem, ih hparts hmem]

end Cutting

section Joining

theorem intercalate_cons_concat (sep part cs : List Char) (parts : List (List Char)) :
    List.intercalate sep (part :: parts ++ [cs]) =
      part ++ (sep ++ List.intercalate sep (parts ++ [cs])) := by
  cases parts <;> simp [List.intercalate_cons_cons]

theorem intercalate_concat_append (sep : List Char) (parts : List (List Char)) (cs : List Char) :
    List.intercalate sep (parts ++ [cs]) = List.intercalate sep (parts ++ [[]]) ++ cs := by
  induction parts with
  | nil => simp
  | cons part parts ih =>
      rw [intercalate_cons_concat, intercalate_cons_concat, ih]
      simp

end Joining

section Replacing

variable {x : Char} {sep new cs rest : List Char}

/-- The first piece begins with what has been passed already. -/
theorem split_go_eq_cons (sep cs : List Char) (skip : Nat) :
    ∃ first later, ∀ piece,
      splitChars.go sep cs skip piece = (piece.reverse ++ first) :: later := by
  induction cs generalizing skip with
  | nil => exact ⟨[], [], fun piece => by simp [split_go_end]⟩
  | cons c cs ih =>
      cases skip with
      | succ skip => exact ih skip
      | zero =>
          by_cases hsep : sep.isPrefixOf (c :: cs) = true
          · refine ⟨[], splitChars.go sep cs (sep.length - 1) [], fun piece => ?_⟩
            rw [split_go_begins hsep, List.append_nil]
          · obtain ⟨first, later, hgo⟩ := ih 0
            refine ⟨c :: first, later, fun piece => ?_⟩
            rw [split_go_goes_on hsep, hgo, List.reverse_cons, List.append_assoc,
              List.singleton_append]

/-- A text with another one in place of every separator. -/
def replaceChars (sep new cs : List Char) : List Char :=
  List.intercalate new (splitChars sep cs)

theorem replace_eq (s old new : String) :
    replace s old new = String.ofList (replaceChars old.toList new.toList s.toList) := by
  rw [← String.toList_inj, String.toList_ofList, replace, String.toList_intercalate, splitOn,
    List.map_map]
  simp [replaceChars, Function.comp_def]

theorem intercalate_split_go (piece : List Char) :
    List.intercalate new (splitChars.go sep cs 0 piece) =
      piece.reverse ++ replaceChars sep new cs := by
  obtain ⟨first, later, hgo⟩ := split_go_eq_cons sep cs 0
  unfold replaceChars splitChars
  rw [hgo, hgo]
  cases later <;> simp [List.intercalate_cons_cons]

/-- A part in which no separator begins stays. -/
theorem replace_pass (h : ∀ part, part ≠ [] → part <:+ cs → ¬sep <+: part ++ rest) :
    replaceChars sep new (cs ++ rest) = cs ++ replaceChars sep new rest := by
  change List.intercalate new (splitChars.go sep (cs ++ rest) 0 []) = _
  rw [split_go_pass h, intercalate_split_go]
  simp

/-- A separator is replaced. -/
theorem replace_sep :
    replaceChars (x :: sep) new (x :: sep ++ rest) = new ++ replaceChars (x :: sep) new rest := by
  rw [replaceChars, splitChars, split_go_sep]
  obtain ⟨first, later, hgo⟩ := split_go_eq_cons (x :: sep) rest 0
  rw [replaceChars, splitChars, hgo, List.intercalate_cons_cons]
  rfl

end Replacing

section Trimming

variable {p : Char → Bool} {cs before after : List Char}

/-- A text without characters of a class at its ends. -/
structure IsTrimmed (p : Char → Bool) (cs : List Char) : Prop where
  first : ∀ c ∈ cs.head?, p c = false
  last : ∀ c ∈ cs.getLast?, p c = false

theorem is_trimmed_of_forall (h : ∀ c ∈ cs, p c = false) : IsTrimmed p cs :=
  ⟨fun c hc => h c (List.mem_of_head? hc), fun c hc => h c (List.mem_of_getLast? hc)⟩

/-- Only what stands at the ends of a text counts. -/
theorem IsTrimmed.append (hbefore : IsTrimmed p before) (hafter : IsTrimmed p after)
    (hbeforeNil : before ≠ []) (hafterNil : after ≠ []) (cs : List Char) :
    IsTrimmed p (before ++ (cs ++ after)) := by
  obtain ⟨first, before, rfl⟩ := List.exists_cons_of_ne_nil hbeforeNil
  refine ⟨hbefore.first, fun c hc => hafter.last c ?_⟩
  rw [← List.append_assoc, List.getLast?_append,
    List.getLast?_eq_some_getLast hafterNil, Option.some_or] at hc
  rwa [List.getLast?_eq_some_getLast hafterNil]

/-- What is dropped at the end leaves the beginning of a text. -/
theorem begins_drop_end_while (p : Char → Bool) (cs : List Char) : dropEndWhile p cs <+: cs := by
  have hsuffix : cs.reverse.dropWhile p <:+ cs.reverse := List.dropWhile_suffix p
  unfold dropEndWhile
  rw [← List.reverse_reverse cs, List.reverse_prefix]
  rwa [List.reverse_reverse]

/-- What is left of a trimmed text stands in it. -/
theorem stands_trim_while (p : Char → Bool) (cs : List Char) : trimWhile p cs <:+: cs :=
  (begins_drop_end_while p _).isInfix.trans (List.dropWhile_suffix p).isInfix

theorem not_of_mem_head_drop_while {c : Char} (h : c ∈ (cs.dropWhile p).head?) : p c = false := by
  have hhead := List.head?_dropWhile_not p cs
  rwa [Option.mem_def.mp h] at hhead

theorem is_trimmed_trim_while (p : Char → Bool) (cs : List Char) : IsTrimmed p (trimWhile p cs) where
  first c hc := by
    obtain ⟨rest, hrest⟩ := List.head?_eq_some_iff.mp (Option.mem_def.mp hc)
    obtain ⟨after, hafter⟩ := begins_drop_end_while p (cs.dropWhile p)
    have hhead : c ∈ (cs.dropWhile p).head? := by
      rw [← hafter, ← trimWhile, hrest]
      rfl
    exact not_of_mem_head_drop_while hhead
  last c hc := by
    unfold trimWhile dropEndWhile at hc
    rw [List.getLast?_reverse] at hc
    exact not_of_mem_head_drop_while hc

theorem drop_while_eq_self (h : ∀ c ∈ cs.head?, p c = false) : cs.dropWhile p = cs := by
  cases cs with
  | nil => rfl
  | cons c cs => rw [List.dropWhile_cons, h c rfl, if_neg Bool.false_ne_true]

/-- A trimmed text is left when what is around it is trimmed off. -/
theorem trim_while_surrounded (hbefore : ∀ c ∈ before, p c = true) (hafter : ∀ c ∈ after, p c = true)
    (h : IsTrimmed p cs) : trimWhile p (before ++ (cs ++ after)) = cs := by
  rw [trimWhile, List.dropWhile_append_of_pos hbefore]
  cases cs with
  | nil =>
      have hnone : after.dropWhile p = [] := List.dropWhile_eq_nil_iff.mpr hafter
      rw [List.nil_append, hnone]
      rfl
  | cons c cs =>
      have hkept : (c :: cs ++ after).dropWhile p = c :: cs ++ after :=
        drop_while_eq_self fun d hd => h.first d hd
      rw [hkept, dropEndWhile, List.reverse_append,
        List.dropWhile_append_of_pos fun d hd => hafter d (List.mem_reverse.mp hd),
        drop_while_eq_self fun d hd => h.last d (by rwa [List.head?_reverse] at hd),
        List.reverse_reverse]

theorem trim_while_leading (hbefore : ∀ c ∈ before, p c = true) (h : IsTrimmed p cs) :
    trimWhile p (before ++ cs) = cs := by
  have htrim : trimWhile p (before ++ (cs ++ [])) = cs := trim_while_surrounded hbefore nofun h
  rwa [List.append_nil] at htrim

/-- What stands before a trimmed text is not reached from its end. -/
theorem drop_end_while_append (h : IsTrimmed p cs) (hne : cs ≠ []) (before : List Char) :
    dropEndWhile p (before ++ cs) = before ++ cs := by
  rw [dropEndWhile, drop_while_eq_self, List.reverse_reverse]
  intro c hc
  rw [List.head?_reverse, List.getLast?_append, List.getLast?_eq_some_getLast hne,
    Option.some_or] at hc
  exact h.last c (by rwa [List.getLast?_eq_some_getLast hne])

theorem strip_surrounded (hbefore : ∀ c ∈ before, isBlank c = true)
    (hafter : ∀ c ∈ after, isBlank c = true) (h : IsTrimmed isBlank cs) :
    strip (String.ofList (before ++ (cs ++ after))) = String.ofList cs := by
  rw [strip, stripOf, String.toList_ofList, trim_while_surrounded hbefore hafter h]

theorem strip_leading (hbefore : ∀ c ∈ before, isBlank c = true) (h : IsTrimmed isBlank cs) :
    strip (String.ofList (before ++ cs)) = String.ofList cs := by
  rw [strip, stripOf, String.toList_ofList, trim_while_leading hbefore h]

theorem strip_of_is_trimmed (h : IsTrimmed isBlank cs) :
    strip (String.ofList cs) = String.ofList cs := by
  have hstrip : strip (String.ofList ([] ++ cs)) = String.ofList cs := strip_leading nofun h
  rwa [List.nil_append] at hstrip

end Trimming

end ComponentMigration.Text
