import ComponentMigration.Proofs.Fault.Recovery
import ComponentMigration.Proofs.Text.Pattern

/-!
# Troubles whose message hides what they are

A trouble becomes a fault by its family and by phrases of its message, which are looked for in one
fixed order.  A phrase that comes before the family hides it: the fault has the category of the
family exactly if there is none (`category_classify_iff`).  What becomes of a trouble with files
depends on its message in one point only: it is tried again unless the message tells of short memory
(`may_retry_iff_of_files`).
-/

namespace ComponentMigration

open Text

/-- The category that the troubles of a family are to have. -/
def TroubleFamily.category? : TroubleFamily → Option Category
  | .memory => some .memory
  | .timeout => some .timeout
  | .system => some .fileSystem
  | .grammar => some .parsing
  | .other => none

/-- The phrases that tell of short memory. -/
def memoryPhrases : List String := ["heap", "out of memory"]

/-- The phrases that tell of time. -/
def timePhrases : List String := ["timeout", "timed out"]

/-- The phrases that are looked for before a trouble is asked for its family. -/
def TroubleFamily.earlierPhrases : TroubleFamily → List String
  | .memory => []
  | .timeout => memoryPhrases
  | .system => memoryPhrases ++ timePhrases
  | .grammar | .other => memoryPhrases ++ timePhrases ++ ["enoent"]

namespace Trouble

/-- A trouble with one of some phrases in its message, be it in capitals or small letters. -/
def Mentions (t : Trouble) (phrases : List String) : Prop :=
  ∃ phrase ∈ phrases, phrase.toList <:+: (lowered t.text).toList

/-- A trouble whose message hides its family.  One with notation is also hidden by the number of the
trouble with missing files. -/
def IsHidden (t : Trouble) : Prop :=
  t.Mentions t.sort.family.earlierPhrases ∨ t.sort.family = .grammar ∧ t.number = some 2

/-- A trouble with files; one with time is such a trouble, too. -/
def IsOfFiles (t : Trouble) : Prop := t.sort.family = .system ∨ t.sort.family = .timeout

variable {t : Trouble}

theorem mentions_iff {phrases : List String} :
    t.Mentions phrases ↔ phrases.any (contains (lowered t.text)) = true := by
  simp [Mentions, contains, contains_chars_iff]

@[simp] theorem mentions_append {phrases more : List String} :
    t.Mentions (phrases ++ more) ↔ t.Mentions phrases ∨ t.Mentions more := by
  simp [mentions_iff]

instance (t : Trouble) (phrases : List String) : Decidable (t.Mentions phrases) :=
  decidable_of_iff _ mentions_iff.symm

instance (t : Trouble) : Decidable t.IsHidden := inferInstanceAs (Decidable (_ ∨ _))

instance (t : Trouble) : Decidable t.IsOfFiles := inferInstanceAs (Decidable (_ ∨ _))

/-- The class of a trouble, in the order in which its family and its message are looked at. -/
theorem fault_class_eq (t : Trouble) :
    t.faultClass =
      if t.sort.family = .memory ∨ t.Mentions memoryPhrases then .resourceExhausted
      else if t.sort.family = .timeout ∨ t.Mentions timePhrases then .phaseTimeout
      else if t.sort.family = .system ∨ t.number = some 2 ∨ t.Mentions ["enoent"] then .fileSystem
      else if t.sort.family = .grammar ∨ t.Mentions ["parse", "syntax"] then .parsing
      else if mentionsFile (lowered t.text) then .fileSystem
      else .general := by
  simp only [faultClass, memoryPhrases, timePhrases, mentions_iff, List.any_cons, List.any_nil,
    Bool.or_false, Bool.or_eq_true, beq_iff_eq, or_assoc]

theorem category_classify (t : Trouble) (place : Option FaultContext) :
    ((Failure.trouble t).classify place).category = t.faultClass.category := rfl

/-- The fault of a trouble has the category of its family exactly if the message does not hide
it. -/
theorem category_classify_iff {category : Category}
    (hfamily : t.sort.family.category? = some category) (place : Option FaultContext) :
    ((Failure.trouble t).classify place).category = category ↔ ¬ t.IsHidden := by
  rw [category_classify, fault_class_eq, IsHidden]
  generalize t.sort.family = family at hfamily ⊢
  cases family with
  | other => cases hfamily
  | memory =>
      cases hfamily
      simp [TroubleFamily.earlierPhrases, FaultClass.category, mentions_iff]
  | timeout =>
      cases hfamily
      simp only [TroubleFamily.earlierPhrases]
      split_ifs <;> simp_all [FaultClass.category]
  | system =>
      cases hfamily
      simp only [TroubleFamily.earlierPhrases, mentions_append]
      split_ifs <;> simp_all [FaultClass.category]
  | grammar =>
      cases hfamily
      simp only [TroubleFamily.earlierPhrases, mentions_append]
      split_ifs <;> simp_all [FaultClass.category, or_comm]

end Trouble

section Retries

variable {α : Type} {t : Trouble} {place : FaultContext} {i : Nat}

/-- A trouble with files is tried again unless its message tells of short memory. -/
theorem may_retry_iff_of_files (h : t.IsOfFiles) :
    MayRetry place i (.error (.trouble t) : Except Failure α) ↔ ¬ t.Mentions memoryPhrases := by
  have hretry : MayRetry place i (.error (.trouble t) : Except Failure α) ↔
      t.faultClass.category ∈ [Category.fileSystem, .network, .timeout] := by
    simp [MayRetry, recordedFault, Failure.isCancellation, Fault.IsTransient,
      Failure.classifiedAt, Failure.classify, Fault.of]
  rw [hretry, Trouble.fault_class_eq]
  rcases h with h | h <;> split_ifs <;> simp_all [FaultClass.category]

variable {operation : Run α} {context : RunContext} {outcomes : Nat → Except Failure α}
  {After : Nat → RunState → Prop} {attempts : Nat} {base cap : Float} {s : RunState}

/-- Troubles are classified by their families as far as no message hides them, and an operation is
called again after a trouble with files, as long as there are attempts left, whatever its message
says but that memory is short. -/
theorem families_classified_unless_hidden (h : OutcomeScript operation context outcomes After)
    (hpos : 1 ≤ attempts) (hmax : attempts ≤ 1025) (hkeys : place.data.keys.Nodup)
    (hstart : After 0 s)
    (hstrategies : s.log.strategies = builtinStrategies (.ofNumbers attempts base cap))
    (absorb : Fault → Recovery → α) :
    (∀ (t : Trouble) (seen : Option FaultContext) (category : Category),
      t.sort.family.category? = some category →
        (((Failure.trouble t).classify seen).category = category ↔ ¬ t.IsHidden)) ∧
      ∃ k result u, 1 ≤ k ∧ k ≤ attempts ∧
        (Run.withRecovery operation place absorb).exec context s = (result, u) ∧ After k u ∧
        ∀ i t, 1 ≤ i → i ≤ k → outcomes i = .error (.trouble t) → t.IsOfFiles →
          (i < k ↔ i < attempts ∧ ¬ t.Mentions memoryPhrases) := by
  refine ⟨fun t seen category hfamily => Trouble.category_classify_iff hfamily seen, ?_⟩
  obtain ⟨more, result, u, hle, hexec, hafter, hrun⟩ :=
    Run.with_recovery_run absorb h hkeys hpos hmax hstart hstrategies
  refine ⟨more + 1, result, u, by omega, hle, hexec, hafter, fun i t hi hik houtcome hfiles => ?_⟩
  have hmay : MayRetry place i (outcomes i) ↔ ¬ t.Mentions memoryPhrases := by
    rw [houtcome]
    exact may_retry_iff_of_files hfiles
  rw [← hmay]
  constructor
  · intro hlt
    exact ⟨by omega, hrun.retried i hi (by omega)⟩
  · rintro ⟨hlt, hretry⟩
    -- The last call ends the attempts, so one that may be tried again is not the last.
    by_contra hlast
    obtain rfl : i = 1 + more := by omega
    rcases hrun.ended with hended | hended
    · exact hended hretry
    · omega

/-- An operation with the given outcomes, which counts its calls by the readings of the clock. -/
def Run.replayed (outcomes : Nat → Except Failure α) : Run α := do
  let s ← get
  set { s with token := { s.token with readings := s.token.readings + 1 } }
  match outcomes (s.token.readings + 1) with
  | .ok a => return a
  | .error failure => throw failure

theorem outcome_script_replayed (hobservers : context.observers = [])
    (outcomes : Nat → Except Failure α) :
    OutcomeScript (Run.replayed outcomes) context outcomes fun n s => s.token.readings = n where
  call n s hn := by
    subst hn
    refine ⟨{ s with token := { s.token with readings := s.token.readings + 1 } }, ?_, rfl, rfl,
      rfl⟩
    simp only [Run.replayed, Run.exec_bind, Run.exec_get, Run.exec_set]
    cases outcomes (s.token.readings + 1) <;> rfl
  handled _ _ _ _ hn := hn
  observed observe hobserve := by simp [hobservers] at hobserve

end Retries

/-- The trouble with a file that is not there. -/
def missingFile (name : String) : Trouble := Disk.missing ⟨"/", ["proj", name]⟩

theorem card_file_visible : ¬ (missingFile "Card.tsx").IsHidden := by
  decide

theorem card_file_unmentioned : ¬ (missingFile "Card.tsx").Mentions memoryPhrases := fun h =>
  card_file_visible (Or.inl (Trouble.mentions_append.2 (Or.inl h)))

theorem heap_file_mentioned : (missingFile "heap.tsx").Mentions memoryPhrases := by
  decide

/-- An operation that misses two files in turn, of which the second is called like short memory. -/
def missingInTurn : Nat → Except Failure String
  | 1 => .error (.trouble (missingFile "Card.tsx"))
  | _ => .error (.trouble (missingFile "heap.tsx"))

/-- The first file is looked for again, the second one is not. -/
theorem families_classified_unless_hidden_heap_file :
    ((Failure.trouble (missingFile "Card.tsx")).classify none).category = .fileSystem ∧
      ∃ result u, (Run.withRecovery (Run.replayed missingInTurn) {} fun f _ => f.message).exec
          { grammar := fun _ _ => default } {} = (result, u) ∧ u.token.readings = 2 := by
  have hscript : OutcomeScript (Run.replayed missingInTurn) { grammar := fun _ _ => default }
      missingInTurn fun n s => s.token.readings = n := outcome_script_replayed rfl missingInTurn
  have hkeys : ({} : FaultContext).data.keys.Nodup := List.nodup_nil
  have hstrategies : ({} : RunState).log.strategies =
      builtinStrategies (.ofNumbers 3 1.0 10.0) := rfl
  obtain ⟨hclass, k, result, u, hpos, hle, hexec, hafter, hcalls⟩ :=
    families_classified_unless_hidden hscript (by decide) (by decide) hkeys rfl hstrategies
      fun f _ => f.message
  have hfirst : 1 < k :=
    (hcalls 1 _ (by omega) hpos rfl (Or.inl rfl)).mpr ⟨by omega, card_file_unmentioned⟩
  have hsecond : ¬ 2 < k := fun hlt =>
    ((hcalls 2 _ (by omega) (by omega) rfl (Or.inl rfl)).mp hlt).2 heap_file_mentioned
  obtain rfl : k = 2 := by omega
  exact ⟨(hclass _ none _ rfl).mpr card_file_visible, result, u, hexec, hafter⟩

/-- A missing file that is called so counts as short memory and is not looked for again. -/
theorem missing_heap_file_not_retried :
    (missingFile "heap.tsx").sort.family.category? = some .fileSystem ∧
      ((Failure.trouble (missingFile "heap.tsx")).classify none).category = .memory ∧
      MayRetry {} 1 (.error (.trouble (missingFile "Card.tsx")) : Except Failure String) ∧
      ¬ MayRetry {} 1 (.error (.trouble (missingFile "heap.tsx")) : Except Failure String) := by
  refine ⟨rfl, ?_, (may_retry_iff_of_files (Or.inl rfl)).mpr card_file_unmentioned,
    fun hretry => (may_retry_iff_of_files (Or.inl rfl)).mp hretry heap_file_mentioned⟩
  rw [Trouble.category_classify, Trouble.fault_class_eq, if_pos (Or.inr heap_file_mentioned)]
  rfl

end ComponentMigration
