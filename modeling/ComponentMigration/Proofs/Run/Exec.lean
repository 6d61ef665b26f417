import ComponentMigration.Run.State

/-!
# Executing computations of a run

What a computation does to a state, step by step: one equation for each way of building it.  The
state that a failed computation has reached stays.
-/

namespace ComponentMigration.Run

variable {α β : Type} {context : RunContext} {s t : RunState}

@[simp] theorem exec_pure (a : α) : (pure a : Run α).exec context s = (.ok a, s) := rfl

theorem exists_exec_of_fst {x : Run α} {result : Except Failure α}
    (h : (x.exec context s).1 = result) : ∃ t, x.exec context s = (result, t) :=
  ⟨_, Prod.ext h rfl⟩

theorem exists_exec_of_to_option {x : Run α} {a : α}
    (h : (x.exec context s).1.toOption = some a) : ∃ t, x.exec context s = (.ok a, t) := by
  refine exists_exec_of_fst ?_
  cases hresult : (x.exec context s).1 with
  | error failure =>
      rw [hresult] at h
      cases h
  | ok b =>
      rw [hresult] at h
      exact congrArg Except.ok (Option.some.inj h)

/-- The second computation runs in the state that the first one has reached, if it succeeds. -/
theorem exec_bind (x : Run α) (f : α → Run β) :
    (x >>= f).exec context s =
      match x.exec context s with
      | (.ok a, t) => (f a).exec context t
      | (.error failure, t) => (.error failure, t) := by
  unfold exec ExceptT.run
  simp only [bind, ReaderT.bind, ExceptT.bind, ExceptT.mk, StateT.bind]
  cases x context s with
  | mk result state => cases result <;> rfl

theorem exec_bind_of_ok {x : Run α} {f : α → Run β} {a : α} (h : x.exec context s = (.ok a, t)) :
    (x >>= f).exec context s = (f a).exec context t := by
  rw [exec_bind, h]

/-- What follows may be changed where it comes to the same. -/
theorem exec_bind_congr {x : Run α} {f g : α → Run β}
    (h : ∀ a t, x.exec context s = (.ok a, t) → (f a).exec context t = (g a).exec context t) :
    (x >>= f).exec context s = (x >>= g).exec context s := by
  rw [exec_bind, exec_bind]
  cases hexec : x.exec context s with
  | mk result t =>
      cases result with
      | error failure => rfl
      | ok a => exact h a t hexec

theorem exec_bind_left_congr {x y : Run α} (h : x.exec context s = y.exec context s)
    (f : α → Run β) : (x >>= f).exec context s = (y >>= f).exec context s := by
  rw [exec_bind, exec_bind, h]

/-- A sequence of two computations succeeds exactly if both do. -/
theorem exec_bind_eq_ok {x : Run α} {f : α → Run β} {b : β} :
    (x >>= f).exec context s = (.ok b, t) ↔
      ∃ a u, x.exec context s = (.ok a, u) ∧ (f a).exec context u = (.ok b, t) := by
  rw [exec_bind]
  cases x.exec context s with
  | mk result state => cases result <;> simp [and_assoc]

/-- A sequence of two computations fails if the first one does, or the second one after it. -/
theorem exec_bind_eq_error {x : Run α} {f : α → Run β} {failure : Failure} :
    (x >>= f).exec context s = (.error failure, t) ↔
      x.exec context s = (.error failure, t) ∨
        ∃ a u, x.exec context s = (.ok a, u) ∧ (f a).exec context u = (.error failure, t) := by
  rw [exec_bind]
  cases x.exec context s with
  | mk result state => cases result <;> simp [and_assoc]

@[simp] theorem exec_map (f : α → β) (x : Run α) :
    (f <$> x).exec context s = ((x.exec context s).1.map f, (x.exec context s).2) := by
  unfold exec ExceptT.run
  simp only [Functor.map, ExceptT.map, ExceptT.mk, StateT.bind, bind]
  cases x context s with
  | mk result state => cases result <;> rfl

/-- Computations that end alike do so with what follows from their values. -/
theorem exec_map_bind_congr {γ δ : Type} {x y : Run α} {f : α → γ} {k l : α → Run β}
    {g : β → δ} (h : (f <$> x).exec context s = (f <$> y).exec context s)
    (hkl : ∀ a b t, f a = f b → (g <$> k a).exec context t = (g <$> l b).exec context t) :
    (g <$> (x >>= k)).exec context s = (g <$> (y >>= l)).exec context s := by
  rw [map_bind, map_bind, exec_bind, exec_bind]
  rw [exec_map, exec_map] at h
  generalize x.exec context s = ended, y.exec context s = other at h
  obtain ⟨result, t⟩ := ended
  obtain ⟨result', t'⟩ := other
  obtain ⟨hresult, rfl⟩ := Prod.mk.inj h
  cases result with
  | error failure =>
      cases result' with
      | error failure' =>
          cases hresult
          rfl
      | ok b => cases hresult
  | ok a =>
      cases result' with
      | error failure' => cases hresult
      | ok b => exact hkl a b t (Except.ok.inj hresult)

@[simp] theorem exec_get : (get : Run RunState).exec context s = (.ok s, s) := rfl

@[simp] theorem exec_set (t : RunState) : (set t : Run Unit).exec context s = (.ok (), t) := rfl

@[simp] theorem exec_modify (f : RunState → RunState) :
    (modify f : Run Unit).exec context s = (.ok (), f s) := rfl

@[simp] theorem exec_read : (read : Run RunContext).exec context s = (.ok context, s) := rfl

/-- A computation with a changed context. -/
theorem exec_with_reader (change : RunContext → RunContext) (x : Run α) :
    (withReader change x).exec context s = x.exec (change context) s := rfl

@[simp] theorem exec_throw (failure : Failure) :
    (throw failure : Run α).exec context s = (.error failure, s) := rfl

@[simp] theorem exec_fault (f : Fault) :
    (fault f : Run α).exec context s = (.error (.fault f), s) := rfl

@[simp] theorem exec_trouble (t : Trouble) :
    (trouble t : Run α).exec context s = (.error (.trouble t), s) := rfl

@[simp] theorem exec_attempt (x : Run α) :
    (attempt x).exec context s = (.ok (x.exec context s).1, (x.exec context s).2) := rfl

@[simp] theorem exec_use_ok (a : α) : (use (.ok a) : Run α).exec context s = (.ok a, s) := rfl

@[simp] theorem exec_use_error (t : Trouble) :
    (use (.error t) : Run α).exec context s = (.error (.trouble t), s) := rfl

/-- A value is used exactly if there is one, and the state stays. -/
theorem exec_use_eq_ok {value : Usable α} {a : α} :
    (use value).exec context s = (.ok a, t) ↔ value = .ok a ∧ t = s := by
  cases value with
  | ok b => simp [eq_comm]
  | error trouble => simp

/-- A step on the disk fails or succeeds, and the disk is changed in both cases. -/
theorem exec_on_disk (step : Disk → Except Trouble α × Disk) :
    (onDisk step).exec context s =
      ((step s.disk).1.mapError .trouble, { s with disk := (step s.disk).2 }) := by
  simp only [onDisk, exec_bind, exec_get, exec_set]
  cases (step s.disk).1 <;> rfl

/-- Looking whether something stands at a path leaves the state as it is. -/
theorem exec_exists (p : Path) :
    (exists? p).exec context s =
      (((s.disk.look p).map Option.isSome).mapError .trouble, s) := by
  rw [exists?, exec_bind_of_ok exec_get]
  cases s.disk.look p <;> rfl

theorem exec_exists_of_look {p : Path} {e : Option Entry} (h : s.disk.look p = .ok e) :
    (exists? p).exec context s = (.ok e.isSome, s) := by
  rw [exec_exists, h]
  rfl

/-- Looking whether a directory stands at a path leaves the state as it is. -/
theorem exec_is_directory (p : Path) :
    (isDirectory? p).exec context s =
      (((s.disk.look p).map (· == some .directory)).mapError .trouble, s) := by
  rw [isDirectory?, exec_bind_of_ok exec_get]
  cases s.disk.look p <;> rfl

theorem exec_is_directory_of_look {p : Path} {e : Option Entry} (h : s.disk.look p = .ok e) :
    (isDirectory? p).exec context s = (.ok (e == some .directory), s) := by
  rw [exec_is_directory, h]
  rfl

end ComponentMigration.Run
