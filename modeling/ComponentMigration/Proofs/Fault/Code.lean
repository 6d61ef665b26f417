import Mathlib.Data.Nat.Digits.Lemmas
import ComponentMigration.Fault.Basic
import ComponentMigration.Proofs.Text.Splitting
import ComponentMigration.Proofs.Time.Millis

/-!
# Codes of errors

An error code is made of three letters of the category, one of the severity and the milliseconds as
a numeral to the base 36.  The digits of the numeral are found from the last to the first and put
down from the first to the last (`base36_digits_eq`), so that the numeral can be read back
(`read_base36`), and so can a whole code (`read_error_code`): errors have the same code only if they
agree in all three (`error_code_determines`).
-/

namespace ComponentMigration

/-!
## Numerals to the base 36
-/

/-- The value of a digit to the base 36; letters may be capital or small. -/
def base36Value? (c : Char) : Option Nat :=
  if '0' ≤ c ∧ c ≤ '9' then some (c.toNat - '0'.toNat)
  else if 'A' ≤ c ∧ c ≤ 'Z' then some (c.toNat - 'A'.toNat + 10)
  else if 'a' ≤ c ∧ c ≤ 'z' then some (c.toNat - 'a'.toNat + 10)
  else none

/-- The number that a numeral to the base 36 stands for, the highest digit first. -/
def readBase36? (cs : List Char) : Option Nat :=
  if cs.isEmpty then none
  else (cs.mapM base36Value?).map fun digits => Nat.ofDigits 36 digits.reverse

theorem base36_value_numeral : ∀ d < 36, base36Value? (numeral d) = some d := by decide

theorem map_base36_value {digits : List Nat} (h : ∀ d ∈ digits, d < 36) :
    (digits.map numeral).mapM base36Value? = some digits := by
  induction digits with
  | nil => rfl
  | cons d digits ih =>
      obtain ⟨hd, hdigits⟩ := List.forall_mem_cons.mp h
      rw [List.map_cons, List.mapM_cons, base36_value_numeral d hd, ih hdigits]
      rfl

/-- The loop puts the digits of a number before those that it has found already, as long as it may
go round once for each of them. -/
theorem base36_digits_eq {fuel n : Nat} (h : n ≤ fuel) (found : List Char) :
    base36Digits fuel n found = (Nat.digits 36 n).reverse.map numeral ++ found := by
  induction fuel generalizing n found with
  | zero =>
      obtain rfl : n = 0 := Nat.le_zero.mp h
      rw [Nat.digits_zero]
      rfl
  | succ fuel ih =>
      rw [base36Digits]
      rcases Nat.eq_zero_or_pos n with rfl | hpos
      · rw [Nat.digits_zero]
        rfl
      · have hne : (n == 0) = false := beq_eq_false_iff_ne.mpr hpos.ne'
        have hrest : n / 36 ≤ fuel := by omega
        rw [hne, if_neg Bool.false_ne_true, ih hrest, Nat.digits_def' (by decide) hpos,
          List.reverse_cons, List.map_append, List.append_assoc]
        rfl

theorem to_list_base36 {n : Nat} (hpos : 0 < n) :
    (base36 n).toList = (Nat.digits 36 n).reverse.map numeral := by
  have hne : (n == 0) = false := beq_eq_false_iff_ne.mpr hpos.ne'
  rw [base36, hne, if_neg Bool.false_ne_true, String.toList_ofList, base36_digits_eq le_rfl,
    List.append_nil]

theorem lt_of_mem_digits {n d : Nat} (hd : d ∈ (Nat.digits 36 n).reverse) : d < 36 :=
  Nat.digits_lt_base (by decide) (List.mem_reverse.mp hd)

/-- A numeral stands for the number that it is made of. -/
theorem read_base36 (n : Nat) : readBase36? (base36 n).toList = some n := by
  rcases Nat.eq_zero_or_pos n with rfl | hpos
  · decide
  · have hne : ((Nat.digits 36 n).reverse.map numeral).isEmpty = false := by
      simp [Nat.digits_ne_nil_iff_ne_zero.mpr hpos.ne']
    rw [to_list_base36 hpos, readBase36?, hne, if_neg Bool.false_ne_true,
      map_base36_value fun d hd => lt_of_mem_digits hd, Option.map_some, List.reverse_reverse,
      Nat.ofDigits_digits]

/-- Only the numeral of zero begins with a zero. -/
theorem head_base36 (n : Nat) : (base36 n).toList.head? = some '0' ↔ n = 0 := by
  rcases Nat.eq_zero_or_pos n with rfl | hpos
  · decide
  · refine iff_of_false (fun hhead => ?_) hpos.ne'
    have hne : Nat.digits 36 n ≠ [] := Nat.digits_ne_nil_iff_ne_zero.mpr hpos.ne'
    rw [to_list_base36 hpos, List.head?_map, List.head?_reverse,
      List.getLast?_eq_some_getLast hne, Option.map_some, Option.some_inj] at hhead
    have hvalue := base36_value_numeral _ (Nat.digits_lt_base (by decide) (List.getLast_mem hne))
    rw [hhead] at hvalue
    exact Nat.getLast_digit_ne_zero 36 hpos.ne' (Option.some.inj hvalue).symm

/-- A numeral has no hyphen in it. -/
theorem hyphen_not_mem_base36 (n : Nat) : '-' ∉ (base36 n).toList := by
  rcases Nat.eq_zero_or_pos n with rfl | hpos
  · decide
  · rw [to_list_base36 hpos]
    intro hmem
    obtain ⟨d, hd, hhyphen⟩ := List.mem_map.mp hmem
    have hvalue := base36_value_numeral d (lt_of_mem_digits hd)
    rw [hhyphen] at hvalue
    cases hvalue

/-!
## Codes
-/

/-- All severities. -/
def Severity.all : List Severity := [.low, .medium, .high, .critical]

/-- The value whose label begins with the letters of a mark, which are capitals there. -/
def marked? {α : Type} (values : List α) (label : α → String) (mark : List Char) : Option α :=
  values.find? fun a => (mark.map Char.toLower).isPrefixOf (label a).toList

/-- What an error code tells: a category, a severity and milliseconds. -/
def readErrorCode? (code : String) : Option (Category × Severity × Nat) :=
  match Text.splitChars ['-'] code.toList with
  | [kind, weight, time] => do
      let category ← marked? Category.all Category.label kind
      let severity ← marked? Severity.all Severity.label weight
      return (category, severity, ← readBase36? time)
  | _ => none

/-- The first letters of a label, in capitals. -/
def markOf (count : Nat) (label : String) : List Char := (label.toList.take count).map Char.toUpper

theorem marked_category (category : Category) :
    marked? Category.all Category.label (markOf 3 category.label) = some category ∧
      '-' ∉ markOf 3 category.label := by
  cases category <;> decide

theorem marked_severity (severity : Severity) :
    marked? Severity.all Severity.label (markOf 1 severity.label) = some severity ∧
      '-' ∉ markOf 1 severity.label := by
  cases severity <;> decide

theorem split_error_code (category : Category) (severity : Severity) (millis : Nat) :
    Text.splitChars ['-'] (errorCode category severity millis).toList =
      [markOf 3 category.label, markOf 1 severity.label, (base36 millis).toList] := by
  have hpieces : (errorCode category severity millis).toList = List.intercalate ['-']
      [markOf 3 category.label, markOf 1 severity.label, (base36 millis).toList] := by
    simp [errorCode, codeHead, markOf, List.intercalate]
  rw [hpieces]
  refine Text.split_chars_intercalate (List.cons_ne_nil _ _) ?_
  simp only [List.forall_mem_cons, List.not_mem_nil, false_implies, implies_true, and_true]
  exact ⟨(marked_category category).2, (marked_severity severity).2, hyphen_not_mem_base36 millis⟩

/-- A code tells the category, the severity and the milliseconds that it is made of. -/
theorem read_error_code (category : Category) (severity : Severity) (millis : Nat) :
    readErrorCode? (errorCode category severity millis) = some (category, severity, millis) := by
  rw [readErrorCode?, split_error_code]
  dsimp only
  rw [(marked_category category).1, (marked_severity severity).1, read_base36]
  rfl

/-- Numerals to the base 36 can be read back and have no leading zeros.  The code of an error that
happened in 1970 or later tells its category, its severity and its milliseconds, so that codes of
errors which differ in any of these are different.  The milliseconds, which are counted by way of
floating-point seconds, are those of the time of the error up to one, and exactly those where they
have ten binary digits more than the seconds. -/
theorem error_code_determines :
    (∀ n, readBase36? (base36 n).toList = some n ∧
      ((base36 n).toList.head? = some '0' ↔ n = 0)) ∧
    ∀ (m n : Nat) (i j : Instant), Instant.ofMicros m = .ok i → Instant.ofMicros n = .ok j →
      (∀ c s, readErrorCode? (errorCode c s i.millis) = some (c, s, i.millis)) ∧
      (∀ c d s t, errorCode c s i.millis = errorCode d t j.millis ↔
        c = d ∧ s = t ∧ i.millis = j.millis) ∧
      (i.millis ≤ m / 1000 + 1 ∧ m / 1000 ≤ i.millis + 1) ∧
      ∀ k ≤ 32, 2 ^ (k + 10) < m / 1000 → m / 1000000 < 2 ^ (k + 1) → i.millis = m / 1000 := by
  refine ⟨fun n => ⟨read_base36 n, head_base36 n⟩, fun m n i j hi hj => ?_⟩
  obtain ⟨rfl, hlast⟩ := Instant.of_micros_ok hi
  refine ⟨fun c s => read_error_code c s _, fun c d s t => ⟨fun hcode => ?_, ?_⟩,
    Instant.millis_near hlast, fun k => Instant.millis_eq⟩
  · have hread := congrArg readErrorCode? hcode
    rw [read_error_code, read_error_code] at hread
    simpa using hread
  · rintro ⟨rfl, rfl, hmillis⟩
    rw [hmillis]

/-- Two errors in the first millisecond of the year 2024 and in the next. -/
theorem error_code_determines_new_year :
    ∃ i j, Instant.ofMicros (1704067200000999 : Nat) = .ok i ∧
      Instant.ofMicros (1704067200001000 : Nat) = .ok j ∧
      readErrorCode? (errorCode .parsing .high i.millis) =
        some (.parsing, .high, 1704067200000) ∧
      errorCode .parsing .high i.millis ≠ errorCode .parsing .high j.millis := by
  have hi : Instant.ofMicros (1704067200000999 : Nat) = .ok ⟨1704067200000999⟩ := by decide
  have hj : Instant.ofMicros (1704067200001000 : Nat) = .ok ⟨1704067200001000⟩ := by decide
  obtain ⟨hread, hcodes, -, hexact⟩ := error_code_determines.2 _ _ _ _ hi hj
  obtain ⟨-, -, -, hexact'⟩ := error_code_determines.2 _ _ _ _ hj hi
  have hmillis := hexact 30 (by decide) (by decide) (by decide)
  have hmillis' := hexact' 30 (by decide) (by decide) (by decide)
  refine ⟨_, _, hi, hj, ?_, fun hcode => ?_⟩
  · rw [hread, hmillis]
  · have hsame := ((hcodes _ _ _ _).mp hcode).2.2
    rw [hmillis, hmillis'] at hsame
    exact absurd hsame (by decide)

end ComponentMigration
