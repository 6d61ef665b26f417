import ComponentMigration.Fault.Strategy
import ComponentMigration.Proofs.Number.Binary64

/-!
# Retry policies with numbers of the declared sorts

A policy whose limit is a whole number and whose delays are floating-point numbers never meets a
trouble as long as delays are doubled at most 1023 times: `recover_again` and `recover_exhausted` say
what it makes of a fault, by the number of the attempt that failed.
-/

namespace ComponentMigration

/-- A policy with values of the declared sorts. -/
def RetryPolicy.ofNumbers (attempts : Nat) (base cap : Float) : RetryPolicy :=
  ⟨.int attempts, .float base, .float cap⟩

/-- A fault of the given attempt. -/
def Fault.IsOfAttempt (f : Fault) (i : Nat) : Prop :=
  f.context.data.get? "attempt" = some (.int i)

namespace RetryPolicy

variable {attempts i : Nat} {base cap : Float} {f : Fault}

@[simp] theorem attempt_limit_of_numbers : (ofNumbers attempts base cap).attemptLimit = attempts := by
  simp [attemptLimit, ofNumbers, Json.quantity?, Quantity.ceil, Quantity.toIntBy]

/-- Another attempt follows as long as there have been fewer than allowed. -/
theorem should_retry_of_numbers :
    (ofNumbers attempts base cap).shouldRetry i = .ok (decide (i < attempts)) := by
  have hless : (Quantity.whole i).isLess (.whole attempts) = decide (i < attempts) := by
    simp only [Quantity.isLess, Quantity.compare, Quantity.int?, Option.bind_some, Option.map_some]
    by_cases h : i < attempts
    · simp [h, Int.compare_eq_lt]
    · simp [h, Int.compare_eq_lt]
  exact congrArg Except.ok hless

/-- The delay after an attempt is a floating-point number, whatever the base delay and the limit
are. -/
theorem delay_for_of_numbers (hpos : 1 ≤ i) (hle : i ≤ 1024) :
    ∃ delay, (ofNumbers attempts base cap).delayFor i = .ok (.float delay) := by
  have hpower : powerOfTwo ((i : Int) - 1) = .ok (.whole ((2 ^ (i - 1) : Nat) : Int)) := by
    rw [powerOfTwo, if_pos (by omega), show ((i : Int) - 1).toNat = i - 1 by omega]
    rfl
  -- The factor has to become a floating-point number, which fails from 1024 doublings on.
  have hfloat : Quantity.floatOfInt ((2 ^ (i - 1) : Nat) : Int) =
      .ok (Number.ofInt ((2 ^ (i - 1) : Nat) : Int)) := by
    rw [Quantity.floatOfInt, Number.is_too_large_two_pow (by omega)]
    rfl
  have htimes : (Json.float base).times (.whole ((2 ^ (i - 1) : Nat) : Int)) =
      .ok (.float (base * Number.ofInt ((2 ^ (i - 1) : Nat) : Int))) := by
    show (do return Json.ofQuantity (← (Quantity.real base).mul _)) = _
    simp only [Quantity.mul, Quantity.combine, Quantity.int?, Quantity.toFloat, hfloat]
    rfl
  refine ⟨if (Quantity.real cap).isLess
    (.real (base * Number.ofInt ((2 ^ (i - 1) : Nat) : Int))) then cap else
      base * Number.ofInt ((2 ^ (i - 1) : Nat) : Int), ?_⟩
  show (do
    let delay ← (Json.float base).times (← powerOfTwo ((i : Int) - 1))
    return if ← (Json.float cap).isLess delay then Json.float cap else delay) = _
  rw [hpower]
  show (do
    let delay ← (Json.float base).times (.whole ((2 ^ (i - 1) : Nat) : Int))
    return if ← (Json.float cap).isLess delay then Json.float cap else delay) = _
  rw [htimes]
  show Except.ok (if (Quantity.real cap).isLess _ then Json.float cap else _) = _
  split <;> rfl

/-- What is next after an attempt that is known. -/
theorem next_of_attempt {p : RetryPolicy} (h : f.IsOfAttempt i) :
    p.next f = (do
      if ← p.shouldRetry i then return .ok ((i : Int), ← p.delayFor i)
      else return .error (p.exhausted i)) := by
  unfold next
  rw [show f.context.data.get? "attempt" = some (.int i) from h]
  rfl

/-- A fault of an attempt before the last one is waited after, and another attempt follows. -/
theorem recover_again (h : f.IsOfAttempt i) (hpos : 1 ≤ i) (hle : i ≤ 1024) (hlt : i < attempts) :
    ∃ delay r, (ofNumbers attempts base cap).delayFor i = .ok delay ∧
      (ofNumbers attempts base cap).recover f = ⟨some delay, .ok r⟩ ∧ r.success = true ∧
      r.action = "retry" ∧ r.data.get? "attempt" = some (.int (i + 1)) := by
  obtain ⟨delay, hdelay⟩ : ∃ delay, (ofNumbers attempts base cap).delayFor i = .ok (.float delay) :=
    delay_for_of_numbers hpos hle
  have hnext : (ofNumbers attempts base cap).next f = .ok (.ok (i, .float delay)) := by
    simp only [next_of_attempt h, should_retry_of_numbers, hlt, hdelay, bind, Except.bind, pure,
      Except.pure, decide_true, if_true]
  obtain ⟨r, hafter, hr⟩ : ∃ r,
      (ofNumbers attempts base cap).afterDelay i (.float delay) = .ok r ∧ r.success = true ∧
        r.action = "retry" ∧ r.data.get? "attempt" = some (.int (i + 1)) :=
    ⟨_, rfl, rfl, rfl, rfl⟩
  refine ⟨_, r, hdelay, ?_, hr⟩
  unfold recover
  rw [hnext, ← hafter]

/-- After the last attempt the policy gives up. -/
theorem recover_exhausted (h : f.IsOfAttempt i) (hge : attempts ≤ i) :
    (ofNumbers attempts base cap).recover f =
      { outcome := .ok ((ofNumbers attempts base cap).exhausted i) } := by
  have hnext : (ofNumbers attempts base cap).next f =
      .ok (.error ((ofNumbers attempts base cap).exhausted i)) := by
    simp only [next_of_attempt h, should_retry_of_numbers, bind, Except.bind, pure, Except.pure,
      decide_eq_false (Nat.not_lt.mpr hge), Bool.false_eq_true, if_false]
  unfold recover
  rw [hnext]

end RetryPolicy

end ComponentMigration
