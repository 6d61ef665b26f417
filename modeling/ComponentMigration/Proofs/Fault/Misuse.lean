import Mathlib.Data.List.Chain
import ComponentMigration.Fault.Basic
import ComponentMigration.Fault.Strategy
import ComponentMigration.Proofs.Fault.RetryPolicy
import ComponentMigration.Proofs.Text.Pattern

/-!
# Retry policies that cannot be used

The values of a retry policy may be such that nothing can be computed with them.  Then trying again
ends with a trouble of its own.  Its message names the sorts of the values but never the values
themselves, so it is not taken for a trouble with files or with time, and the policy is not asked
what to do about it (`RetryPolicy.recover_fails_finally`).  That a message has none of the words that
are looked for is seen from pairs of letters: each of these words has one that no part of the message
has (`is_harmless_of_pairs`).
-/

namespace ComponentMigration

open Text Text.Pattern

/-- A trouble that is not tried again: its fault is neither about files nor about time. -/
def Trouble.IsFinal (t : Trouble) : Prop :=
  t.faultClass ≠ .fileSystem ∧ t.faultClass ≠ .phaseTimeout

/-- Whether a text in small letters has none of the words that tell of files and of time. -/
def isHarmless (words : List Char) : Bool :=
  !containsChars "timeout".toList words && !containsChars "timed out".toList words &&
    !containsChars "enoent".toList words &&
    !(cat [.wordEdge, lit "file", optional (lit "s"), .wordEdge]).occursFrom words 0 none

/-- A trouble that is known only by its message is final if the message is harmless. -/
theorem Trouble.final_of_is_harmless {t : Trouble}
    (hsort : t.sort ∈ [TroubleSort.wrongType, .badValue, .overflow]) (hnumber : t.number = none)
    (h : isHarmless (smallForms [] t.message.toList) = true) : t.IsFinal := by
  have hfamily : t.sort.family = .other := by
    simp only [List.mem_cons, List.not_mem_nil, or_false] at hsort
    obtain hsort | hsort | hsort := hsort <;> rw [hsort] <;> rfl
  have htext : t.text = t.message := by
    unfold Trouble.text
    split
    · next hempty =>
        rw [String.isEmpty_iff.mp hempty]
        cases hcase : t.sort with
        | foreign label family => simp [hcase] at hsort
        | _ => rfl
    · rfl
  simp only [isHarmless, Bool.and_eq_true, Bool.not_eq_true'] at h
  obtain ⟨⟨⟨htimeout, htimed⟩, henoent⟩, hfile⟩ := h
  have hwords : (lowered t.text).toList = smallForms [] t.message.toList := by
    unfold lowered
    rw [String.toList_ofList, htext]
  rw [← hwords] at htimeout htimed henoent hfile
  change contains (lowered t.text) "timeout" = false at htimeout
  change contains (lowered t.text) "timed out" = false at htimed
  change contains (lowered t.text) "enoent" = false at henoent
  change mentionsFile (lowered t.text) = false at hfile
  unfold Trouble.IsFinal Trouble.faultClass
  dsimp only
  rw [hfamily, hnumber, htimeout, htimed, henoent, hfile]
  -- The other words that are looked for lead to other classes.
  generalize contains (lowered t.text) "heap" = heap,
    contains (lowered t.text) "out of memory" = full, contains (lowered t.text) "parse" = parse,
    contains (lowered t.text) "syntax" = grammar
  clear hwords htext hsort hfamily hnumber htimeout htimed henoent hfile
  decide +revert

section Pairs

/-- Whether one character may follow another in a harmless text: of the words that are looked for,
each has `im`, `il` or `oe`. -/
def mayFollow (a b : Char) : Bool :=
  !(a == 'i' && (b == 'm' || b == 'l')) && !(a == 'o' && b == 'e')

variable {words : List Char}

theorem not_infix_of_pairs (h : words.IsChain (mayFollow · ·)) {a b : Char} {word : List Char}
    (hab : mayFollow a b = false) (hword : [a, b] <:+: word) : ¬word <:+: words := by
  intro hinfix
  have hpair := List.IsChain.infix h (hword.trans hinfix)
  rw [List.isChain_pair, hab] at hpair
  cases hpair

/-- Where the word `file` stands by itself, its letters stand. -/
theorem infix_of_file_occurs
    (h : (cat [.wordEdge, lit "file", optional (lit "s"), .wordEdge]).occursFrom words 0 none) :
    "file".toList <:+: words := by
  obtain ⟨before, after, rfl, hmatch⟩ := (occurs_from_iff 0 none).mp h
  unfold matchAt at hmatch
  rw [Option.isSome_map] at hmatch
  simp only [cat, lit, Pattern.run] at hmatch
  split_ifs at hmatch with hedge hfile
  · exact (List.isPrefixOf_iff_prefix.mp hfile).isInfix.trans (List.suffix_append before after).isInfix
  all_goals cases hmatch

theorem is_harmless_of_pairs (h : words.IsChain (mayFollow · ·)) : isHarmless words = true := by
  have him : mayFollow 'i' 'm' = false := by decide
  have hil : mayFollow 'i' 'l' = false := by decide
  have hoe : mayFollow 'o' 'e' = false := by decide
  have htimeout : ¬"timeout".toList <:+: words :=
    not_infix_of_pairs h him ⟨['t'], "eout".toList, rfl⟩
  have htimed : ¬"timed out".toList <:+: words :=
    not_infix_of_pairs h him ⟨['t'], "ed out".toList, rfl⟩
  have henoent : ¬"enoent".toList <:+: words :=
    not_infix_of_pairs h hoe ⟨['e', 'n'], "nt".toList, rfl⟩
  have hfile := mt infix_of_file_occurs (not_infix_of_pairs h hil ⟨['f'], ['e'], rfl⟩)
  simp only [isHarmless, Bool.and_eq_true, Bool.not_eq_true']
  rw [← contains_chars_iff, Bool.not_eq_true] at htimeout htimed henoent
  exact ⟨⟨⟨htimeout, htimed⟩, henoent⟩, Bool.eq_false_iff.mpr hfile⟩

end Pairs

section Parts

/-- Among the first 128 characters the small form of one does not depend on those around it. -/
theorem small_forms_of_plain {cs : List Char} (h : ∀ c ∈ cs, c.toNat < 128) (before : List Char) :
    smallForms before cs = cs.map Char.toLower := by
  induction cs generalizing before with
  | nil => rfl
  | cons c cs ih =>
      obtain ⟨hc, hcs⟩ := List.forall_mem_cons.mp h
      have hsigma : (c == 'Σ') = false := by
        refine beq_eq_false_iff_ne.mpr ?_
        rintro rfl
        exact absurd hc (by decide)
      rw [smallForms, hsigma, if_neg Bool.false_ne_true, smallForm, if_pos hc, ih hcs, List.map_cons,
        List.singleton_append]

/-- A part of a message that can be put before other such parts: no character follows one that it may
not follow, and any character may follow the last one. -/
structure IsHarmlessPart (cs : List Char) : Prop where
  plain : ∀ c ∈ cs, c.toNat < 128
  pairs : (cs.map Char.toLower).IsChain (mayFollow · ·)
  ends : ∀ c ∈ (cs.map Char.toLower).getLast?, c ≠ 'i' ∧ c ≠ 'o'

/-- Whether every character of a text may follow the one before it. -/
def followsOn : List Char → Bool
  | a :: b :: rest => mayFollow a b && followsOn (b :: rest)
  | _ => true

theorem follows_on_iff {cs : List Char} : followsOn cs = true ↔ cs.IsChain (mayFollow · ·) := by
  induction cs with
  | nil => simp [followsOn]
  | cons a cs ih => cases cs <;> simp_all [followsOn]

/-- Whether a text is such a part. -/
def isPart (cs : List Char) : Bool :=
  cs.all (·.toNat < 128) && followsOn (cs.map Char.toLower) &&
    (cs.map Char.toLower).getLast?.all fun c => c != 'i' && c != 'o'

theorem IsHarmlessPart.of_is_part {cs : List Char} (h : isPart cs = true) : IsHarmlessPart cs := by
  simp only [isPart, Bool.and_eq_true, List.all_eq_true, decide_eq_true_eq, Option.all_eq_true,
    bne_iff_ne] at h
  exact ⟨h.1.1, follows_on_iff.1 h.1.2, h.2⟩

namespace IsHarmlessPart

variable {cs xs ys : List Char}

theorem append (hxs : IsHarmlessPart xs) (hys : IsHarmlessPart ys) : IsHarmlessPart (xs ++ ys) where
  plain := List.forall_mem_append.mpr ⟨hxs.plain, hys.plain⟩
  pairs := by
    rw [List.map_append]
    refine List.isChain_append.mpr ⟨hxs.pairs, hys.pairs, fun c hc d _ => ?_⟩
    obtain ⟨hi, ho⟩ := hxs.ends c hc
    simp [mayFollow, hi, ho]
  ends := by
    intro c hc
    rw [List.map_append, List.getLast?_append, Option.mem_def, Option.or_eq_some_iff] at hc
    obtain hc | ⟨-, hc⟩ := hc
    · exact hys.ends c hc
    · exact hxs.ends c hc

theorem is_harmless (h : IsHarmlessPart cs) : isHarmless (smallForms [] cs) = true := by
  rw [small_forms_of_plain h.plain]
  exact is_harmless_of_pairs h.pairs

end IsHarmlessPart

end Parts

section Messages

/-- The names that messages have for sorts of values. -/
def Json.sortNames : List String := ["NoneType", "bool", "int", "float", "str", "list", "dict"]

theorem Json.sort_name_mem (v : Json) : v.sortName ∈ Json.sortNames := by
  cases v <;> simp [Json.sortName, Json.sortNames]

/-- The messages of the troubles with a policy that name no sort of value. -/
def fixedMessages : List String :=
  ["int too large to convert to float", "cannot fit 'int' into an index-sized integer",
    "Unknown format code 'f' for object of type 'str'"]

/-- What the messages with names of sorts are made of besides. -/
def fixedParts : List String :=
  ["'", "<", "' not supported between instances of '", "' and '",
    "unsupported operand type(s) for ", "*", ": '", "int", "unsupported format string passed to ",
    ".__format__"]

/-- What the messages are made of tells neither of files nor of time. -/
theorem message_parts_harmless :
    ∀ part ∈ Json.sortNames ++ fixedMessages ++ fixedParts, IsHarmlessPart part.toList := by
  -- A literal is made of its characters, and these are checked.
  have hliteral : ∀ {cs : List Char}, isPart cs = true → IsHarmlessPart (String.ofList cs).toList :=
    fun h => by
      rw [String.toList_ofList]
      exact .of_is_part h
  simp only [Json.sortNames, fixedMessages, fixedParts, List.cons_append, List.nil_append,
    List.forall_mem_cons, List.not_mem_nil, false_imp_iff, implies_true, and_true]
  repeat' apply And.intro
  all_goals exact hliteral (by decide)

theorem Json.harmless_sort_name (v : Json) : IsHarmlessPart v.sortName.toList :=
  message_parts_harmless _ (List.mem_append_left _ (List.mem_append_left _ v.sort_name_mem))

theorem harmless_of_fixed_part {part : String} (h : part ∈ fixedParts) :
    IsHarmlessPart part.toList :=
  message_parts_harmless _ (List.mem_append_right _ h)

theorem final_incomparable (a b : Json) :
    (Trouble.incomparable "<" a.sortName b.sortName).IsFinal := by
  refine Trouble.final_of_is_harmless List.mem_cons_self rfl
    (IsHarmlessPart.is_harmless ?_)
  unfold Trouble.incomparable
  simp only [String.toList_append]
  refine ((((((harmless_of_fixed_part ?_).append (harmless_of_fixed_part ?_)).append
    (harmless_of_fixed_part ?_)).append a.harmless_sort_name).append
      (harmless_of_fixed_part ?_)).append b.harmless_sort_name).append (harmless_of_fixed_part ?_)
  all_goals decide

theorem final_unsupported (a : Json) : (Trouble.unsupported "*" a.sortName "int").IsFinal := by
  refine Trouble.final_of_is_harmless List.mem_cons_self rfl
    (IsHarmlessPart.is_harmless ?_)
  unfold Trouble.unsupported
  simp only [String.toList_append]
  refine (((((harmless_of_fixed_part ?_).append (harmless_of_fixed_part ?_)).append
    (harmless_of_fixed_part ?_)).append a.harmless_sort_name).append
      (harmless_of_fixed_part ?_)).append (harmless_of_fixed_part ?_) |>.append
        (harmless_of_fixed_part ?_)
  all_goals decide

theorem final_unformatted (a : Json) : Trouble.IsFinal
    ⟨.wrongType, "unsupported format string passed to " ++ a.sortName ++ ".__format__", none⟩ := by
  refine Trouble.final_of_is_harmless (by simp) rfl (IsHarmlessPart.is_harmless ?_)
  simp only [String.toList_append]
  refine ((harmless_of_fixed_part ?_).append a.harmless_sort_name).append (harmless_of_fixed_part ?_)
  all_goals decide

theorem final_of_fixed_message {sort : TroubleSort} {message : String}
    (hsort : sort ∈ [TroubleSort.wrongType, .badValue, .overflow])
    (hmessage : message ∈ fixedMessages) : Trouble.IsFinal ⟨sort, message, none⟩ := by
  refine Trouble.final_of_is_harmless hsort rfl (IsHarmlessPart.is_harmless ?_)
  exact message_parts_harmless _ (List.mem_append_left _ (List.mem_append_right _ hmessage))

theorem final_too_large : Quantity.tooLarge.IsFinal :=
  final_of_fixed_message (by simp) (by simp [fixedMessages])

end Messages

/-- What goes wrong with a comparison of lists goes wrong with a comparison of one of the items. -/
theorem Json.incomparable_of_precedes_list {sign : String} {t : Trouble} {as bs : List Json}
    (has : ∀ a ∈ as, ∀ b, precedes sign a b = .error t →
      ∃ x y : Json, t = .incomparable sign x.sortName y.sortName)
    (h : precedesList sign as bs = .error t) :
    ∃ x y : Json, t = .incomparable sign x.sortName y.sortName := by
  induction as generalizing bs with
  | nil => cases h
  | cons a as ih =>
      cases bs with
      | nil => cases h
      | cons b bs =>
          change (if a == b then precedesList sign as bs else precedes sign a b) = _ at h
          split at h
          · exact ih (fun c hc => has c (List.mem_cons_of_mem a hc)) h
          · exact has a List.mem_cons_self b h

/-- What goes wrong with a comparison is that two values cannot be compared. -/
theorem Json.incomparable_of_precedes {sign : String} {t : Trouble} (a b : Json)
    (h : precedes sign a b = .error t) :
    ∃ x y : Json, t = .incomparable sign x.sortName y.sortName := by
  unfold precedes at h
  split at h
  · cases h
  · next as bs =>
      exact incomparable_of_precedes_list (fun a ha b => incomparable_of_precedes a b) h
  · split at h
    · cases h
    · cases h
      exact ⟨_, _, rfl⟩
termination_by sizeOf a
decreasing_by
  have hlt := List.sizeOf_lt_of_mem ha
  simp_all only [Json.arr.sizeOf_spec]
  omega

/-- A value whose use meets at most a final trouble. -/
def Usable.FailsFinally {α : Type} (value : Usable α) : Prop := ∀ t, value = .error t → t.IsFinal

section FailsFinally

variable {α β : Type}

theorem fails_finally_ok (a : α) : Usable.FailsFinally (.ok a) := nofun

theorem fails_finally_error {t : Trouble} (h : t.IsFinal) :
    Usable.FailsFinally (.error t : Usable α) := by
  rintro _ ⟨⟩
  exact h

theorem fails_finally_bind {value : Usable α} {f : α → Usable β} (hvalue : value.FailsFinally)
    (hf : ∀ a, value = .ok a → (f a).FailsFinally) : Usable.FailsFinally (value >>= f) := by
  intro t ht
  cases hcase : value with
  | ok a =>
      rw [hcase] at ht
      exact hf a hcase t ht
  | error t' =>
      rw [hcase] at ht
      cases ht
      exact hvalue t hcase

end FailsFinally

theorem Json.is_less_fails_finally (a b : Json) : (a.isLess b).FailsFinally := by
  intro t ht
  obtain ⟨x, y, rfl⟩ := Json.incomparable_of_precedes a b ht
  exact final_incomparable x y

theorem Quantity.to_float_fails_finally (q : Quantity) : q.toFloat.FailsFinally := by
  cases q with
  | whole n =>
      unfold toFloat floatOfInt
      dsimp only
      split
      · exact fails_finally_error final_too_large
      · exact fails_finally_ok _
  | real x => exact fails_finally_ok _
  | truth b => exact fails_finally_ok _

theorem Quantity.mul_fails_finally (a b : Quantity) : (a.mul b).FailsFinally := by
  unfold mul combine
  split
  · exact fails_finally_ok _
  · exact fails_finally_bind a.to_float_fails_finally fun _ _ =>
      fails_finally_bind b.to_float_fails_finally fun _ _ => fails_finally_ok _

theorem copy_count_fails_finally (size : Nat) (n : Int) :
    (copyCount size (.whole n)).FailsFinally := by
  unfold copyCount
  dsimp only [Quantity.int?]
  split
  · exact fails_finally_error (final_of_fixed_message (by simp) (by simp [fixedMessages]))
  · split
    · exact fails_finally_error ⟨by decide, by decide⟩
    · exact fails_finally_ok _

theorem Json.times_fails_finally (v : Json) (n : Int) : (v.times (.whole n)).FailsFinally := by
  unfold times
  split
  · exact fails_finally_bind (Quantity.mul_fails_finally _ _) fun _ _ => fails_finally_ok _
  · exact fails_finally_bind (copy_count_fails_finally _ n) fun _ _ => fails_finally_ok _
  · exact fails_finally_bind (copy_count_fails_finally _ n) fun _ _ => fails_finally_ok _
  · exact fails_finally_error (final_unsupported _)

theorem Json.two_places_fails_finally (v : Json) : v.twoPlaces.FailsFinally := by
  unfold twoPlaces
  split
  · exact fails_finally_bind (Quantity.to_float_fails_finally _) fun _ _ => fails_finally_ok _
  · exact fails_finally_error (final_of_fixed_message (by simp) (by simp [fixedMessages]))
  · exact fails_finally_error (final_unformatted _)

/-- A value that is shown with two places is a number. -/
theorem Json.to_real_fails_finally {v : Json} {shown : String} (h : v.twoPlaces = .ok shown) :
    v.toReal.FailsFinally := by
  unfold twoPlaces at h
  split at h
  · next q hq =>
      unfold toReal
      rw [hq]
      exact q.to_float_fails_finally
  · cases h
  · cases h

namespace RetryPolicy

variable {p : RetryPolicy} {f : Fault} {i : Nat}

theorem delay_for_fails_finally (p : RetryPolicy) (hpos : 1 ≤ i) : (p.delayFor i).FailsFinally := by
  unfold delayFor
  have hpower : powerOfTwo ((i : Int) - 1) = .ok (.whole (Number.twoTo ((i : Int) - 1).toNat)) :=
    if_pos (by omega)
  rw [hpower]
  exact fails_finally_bind (fails_finally_ok _) fun factor hfactor => by
    cases hfactor
    exact fails_finally_bind (Json.times_fails_finally _ _) fun delay _ =>
      fails_finally_bind (Json.is_less_fails_finally _ _) fun _ _ => fails_finally_ok _

theorem next_fails_finally (hpos : 1 ≤ i) (hf : f.IsOfAttempt i) : (p.next f).FailsFinally := by
  rw [next_of_attempt hf]
  refine fails_finally_bind (Json.is_less_fails_finally _ _) fun again _ => ?_
  cases again
  · exact fails_finally_ok _
  · exact fails_finally_bind (p.delay_for_fails_finally hpos) fun _ _ => fails_finally_ok _

/-- Trying again ends at most with a final trouble. -/
theorem recover_fails_finally (hpos : 1 ≤ i) (hf : f.IsOfAttempt i) :
    (p.recover f).outcome.FailsFinally := by
  unfold recover
  cases hnext : p.next f with
  | error t => exact fails_finally_error (next_fails_finally hpos hf t hnext)
  | ok answer =>
      rcases answer with r | ⟨attempt, delay⟩
      · exact fails_finally_ok _
      · exact fails_finally_bind delay.two_places_fails_finally fun _ hshown =>
          fails_finally_bind (Json.to_real_fails_finally hshown) fun _ _ => fails_finally_ok _

/-- What is to be tried again is given the number of the next attempt. -/
theorem attempt_of_recover {r : Recovery} (hf : f.IsOfAttempt i)
    (h : (p.recover f).outcome = .ok r) (hsuccess : r.success = true) :
    r.data.get? "attempt" = some (.int (i + 1)) := by
  unfold recover at h
  cases hnext : p.next f with
  | error t =>
      rw [hnext] at h
      cases h
  | ok answer =>
      rw [hnext] at h
      rw [next_of_attempt hf] at hnext
      obtain ⟨again, -, hnext⟩ := bind_eq_ok.mp hnext
      cases again with
      | false =>
          cases hnext
          cases h
          cases hsuccess
      | true =>
          obtain ⟨delay, -, hnext⟩ := bind_eq_ok.mp hnext
          cases hnext
          obtain ⟨shown, -, h⟩ := bind_eq_ok.mp h
          obtain ⟨real, -, h⟩ := bind_eq_ok.mp h
          cases h
          rfl

end RetryPolicy

end ComponentMigration
