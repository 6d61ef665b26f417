/-!
# Troubles

A trouble is a plain failure from below: a file, a number, a notation, or a value that cannot be
used the way it has to be.
-/

namespace ComponentMigration

/-- The families of troubles that are told apart. -/
inductive TroubleFamily where
  | memory
  | timeout
  | system
  | grammar
  | other
  deriving DecidableEq, Repr

/-- The sorts of troubles. -/
inductive TroubleSort where
  | fileMissing
  | fileExists
  | notADirectory
  | isADirectory
  | directoryNotEmpty
  | systemFailure
  | undecodable
  | malformedJson
  | malformedToml
  | malformedMarkup
  | wrongType
  | badValue
  | missingKey
  | badIndex
  | missingPart
  | overflow
  | divisionByZero
  | tooDeep
  | outOfMemory
  | busy
  | foreign (label : String) (family : TroubleFamily)
  deriving DecidableEq, Repr

/-- The family of a sort. -/
def TroubleSort.family : TroubleSort → TroubleFamily
  | .fileMissing | .fileExists | .notADirectory | .isADirectory | .directoryNotEmpty
  | .systemFailure => .system
  | .outOfMemory => .memory
  | .foreign _ family => family
  | _ => .other

/-- A plain failure with its message and, for some, an error number. -/
structure Trouble where
  sort : TroubleSort
  message : String := ""
  number : Option Int := none
  deriving DecidableEq, Repr

/-- The text of a trouble; one without a message is told by its label. -/
def Trouble.text (t : Trouble) : String :=
  if t.message.isEmpty then
    match t.sort with
    | .foreign label _ => label
    | _ => ""
  else t.message

/-- A value that can be used, or the trouble that its use meets. -/
abbrev Usable (α : Type) := Except Trouble α

/-- One step after another succeeds exactly if both do. -/
theorem bind_eq_ok {ε α β : Type} {x : Except ε α} {f : α → Except ε β} {b : β} :
    (x >>= f) = .ok b ↔ ∃ a, x = .ok a ∧ f a = .ok b := by
  constructor
  · intro h
    cases x with
    | error e => cases h
    | ok a => exact ⟨a, rfl, h⟩
  · rintro ⟨a, rfl, h⟩
    exact h

section Outcomes

variable {ε α β : Type} {x : Except ε α}

theorem eq_ok_of_to_option {a : α} (h : x.toOption = some a) : x = .ok a := by
  cases x with
  | error e => cases h
  | ok b => exact congrArg Except.ok (Option.some.inj h)

theorem exists_of_to_option_map {g : α → β} {b : β} (h : x.toOption.map g = some b) :
    ∃ a, x = .ok a ∧ g a = b := by
  obtain ⟨a, ha, hb⟩ := Option.map_eq_some_iff.mp h
  exact ⟨a, eq_ok_of_to_option ha, hb⟩

end Outcomes

section Steps

variable {ε α β γ : Type} {f : α → Except ε β} {xs : List α} {ys : List β}

/-- What a step on an item keeps of it is kept of all items. -/
theorem map_eq_of_map_m {g : β → γ} {k : α → γ} (hstep : ∀ x y, f x = .ok y → g y = k x)
    (h : xs.mapM f = .ok ys) : ys.map g = xs.map k := by
  induction xs generalizing ys with
  | nil =>
      cases h
      rfl
  | cons x rest ih =>
      rw [List.mapM_cons] at h
      obtain ⟨y, hy, h⟩ := bind_eq_ok.1 h
      obtain ⟨later, hlater, h⟩ := bind_eq_ok.1 h
      cases h
      rw [List.map_cons, List.map_cons, hstep x y hy, ih hlater]

/-- A step on all items succeeds exactly if it succeeds on each. -/
theorem exists_map_m_eq_ok : (∃ ys, xs.mapM f = .ok ys) ↔ ∀ x ∈ xs, ∃ y, f x = .ok y := by
  induction xs with
  | nil => exact iff_of_true ⟨[], rfl⟩ fun x hx => nomatch hx
  | cons x rest ih =>
      rw [List.forall_mem_cons, ← ih]
      constructor
      · rintro ⟨ys, h⟩
        rw [List.mapM_cons] at h
        obtain ⟨y, hy, h⟩ := bind_eq_ok.1 h
        obtain ⟨later, hlater, -⟩ := bind_eq_ok.1 h
        exact ⟨⟨y, hy⟩, later, hlater⟩
      · rintro ⟨⟨y, hy⟩, later, hlater⟩
        rw [List.mapM_cons]
        exact ⟨y :: later, bind_eq_ok.2 ⟨y, hy, bind_eq_ok.2 ⟨later, hlater, rfl⟩⟩⟩

end Steps

end ComponentMigration
