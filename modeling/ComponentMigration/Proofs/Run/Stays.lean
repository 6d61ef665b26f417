import Mathlib.Order.Defs.Unbundled
import ComponentMigration.Proofs.Fault.Recovery

/-!
# What computations leave alone

Every computation may log faults, wait, read the clock and use up the failures that reads of files
still meet; states that differ in nothing else are alike.  A computation stays within a relation
between states if the state that it leaves is related to the one it found, however it ends, as long
as the observers of faults stay within it too.  Whatever does nothing but what every computation may
do stays within every preorder that holds between states that are alike: there is one lemma for each
way of building computations, then one for each function.

A computation keeps a relation between boards, which change only when something is announced, if it
stays within the relation between states with such boards.

`with_recovery_meets` says what trying an operation again and again comes to.
-/

namespace ComponentMigration

/-- States that differ at most in the faults on record, the delays waited, the readings of the clock
and the failures that reads of files still meet. -/
structure RunState.Alike (s t : RunState) : Prop where
  strategies : t.log.strategies = s.log.strategies
  token : t.token = { s.token with readings := t.token.readings }
  entries : t.disk.entries = s.disk.entries
  cwd : t.disk.cwd = s.disk.cwd
  board : t.board = s.board
  results : t.results = s.results

/-- Preorders that do not tell states apart that are alike. -/
class RunState.IsLax (R : RunState → RunState → Prop) : Prop extends IsPreorder RunState R where
  of_alike : ∀ {s t : RunState}, s.Alike t → R s t

/-- The relation of states of which the second has a property if the first one has it. -/
def RunState.Keeping (P : RunState → Prop) (s t : RunState) : Prop := P s → P t

/-- A property that states which are alike share makes a lax relation. -/
theorem RunState.is_lax_keeping {P : RunState → Prop} (h : ∀ s t, s.Alike t → P s → P t) :
    RunState.IsLax (RunState.Keeping P) where
  refl _ := id
  trans _ _ _ hfirst hsecond := hsecond ∘ hfirst
  of_alike := h _ _

/-- The observers of faults stay within a relation. -/
def RunContext.ObserversStay (R : RunState → RunState → Prop) (context : RunContext) : Prop :=
  ∀ observe ∈ context.observers, ∀ f s, R s (observe f s)

/-- Nobody is told of faults. -/
theorem RunContext.observers_stay_of_nil {context : RunContext} (h : context.observers = [])
    (R : RunState → RunState → Prop) : context.ObserversStay R := by
  intro observe hobserve
  rw [h] at hobserve
  exact absurd hobserve List.not_mem_nil

/-- A computation after which the state is related to the one before, however it ends. -/
structure Run.Stays (R : RunState → RunState → Prop) (x : Run α) : Prop where
  state : ∀ context s, context.ObserversStay R → R s (x.exec context s).2

/-- How a computation ends from a state: what holds of its value and the state that it leaves if it
succeeds, and of the state that it leaves if it fails. -/
def Run.Meets (x : Run α) (context : RunContext) (s : RunState) (Q : α → RunState → Prop)
    (E : RunState → Prop) : Prop :=
  match x.exec context s with
  | (.ok a, t) => Q a t
  | (.error _, t) => E t

namespace Run

section Building

variable {α β : Type} {R : RunState → RunState → Prop} {x : Run α}

@[grind ←] theorem stays_attempt (hx : Stays R x) : Stays R (attempt x) := by
  refine ⟨fun context s hobservers => ?_⟩
  rw [exec_attempt]
  exact hx.state context s hobservers

@[grind ←] theorem stays_map (f : α → β) (hx : Stays R x) : Stays R (f <$> x) := by
  refine ⟨fun context s hobservers => ?_⟩
  rw [exec_map]
  exact hx.state context s hobservers

/-- A change of the state stays within a relation if it does so in every state. -/
theorem stays_modify {change : RunState → RunState} (h : ∀ s, R s (change s)) :
    Stays R (modify change) := ⟨fun _ s _ => h s⟩

/-- A step on the disk stays within a relation if the new disk does. -/
theorem stays_on_disk {step : Disk → Except Trouble α × Disk}
    (h : ∀ s : RunState, R s { s with disk := (step s.disk).2 }) : Stays R (onDisk step) := by
  refine ⟨fun context s hobservers => ?_⟩
  simp only [onDisk, exec_bind, exec_get, exec_set]
  cases (step s.disk).1 with
  | ok a => exact h s
  | error t => exact h s

variable [RunState.IsLax R]

@[grind ←] theorem stays_pure (a : α) : Stays R (pure a) := ⟨fun _ _ _ => refl_of R _⟩

@[grind ←] theorem stays_throw (failure : Failure) : Stays R (throw failure : Run α) :=
  ⟨fun _ _ _ => refl_of R _⟩

@[grind ←] theorem stays_fault (f : Fault) : Stays R (fault f : Run α) := stays_throw _

@[grind ←] theorem stays_trouble (t : Trouble) : Stays R (trouble t : Run α) := stays_throw _

@[grind ←] theorem stays_get : Stays R (get : Run RunState) := ⟨fun _ _ _ => refl_of R _⟩

@[grind ←] theorem stays_read : Stays R (read : Run RunContext) := ⟨fun _ _ _ => refl_of R _⟩

@[grind ←] theorem stays_use (value : Usable α) : Stays R (use value) := by
  cases value with
  | ok a => exact stays_pure a
  | error t => exact stays_trouble t

/-- The second computation goes on from the state that the first one has left. -/
@[grind ←] theorem stays_bind {f : α → Run β} (hx : Stays R x) (hf : ∀ a, Stays R (f a)) :
    Stays R (x >>= f) := by
  refine ⟨fun context s hobservers => ?_⟩
  have hfirst := hx.state context s hobservers
  rw [exec_bind]
  cases hexec : x.exec context s with
  | mk result t =>
      rw [hexec] at hfirst
      cases result with
      | error failure => exact hfirst
      | ok a => exact trans_of R hfirst ((hf a).state context t hobservers)

/-- What follows a value that can be used follows that value. -/
theorem stays_use_bind {value : Usable α} {f : α → Run β}
    (hf : ∀ a, value = .ok a → Stays R (f a)) : Stays R (use value >>= f) := by
  cases value with
  | ok a => exact hf a rfl
  | error t => exact stays_trouble t

@[grind ←] theorem stays_for_m {f : α → Run PUnit} (hf : ∀ a, Stays R (f a)) (items : List α) :
    Stays R (items.forM f) := by
  induction items with
  | nil => exact stays_pure _
  | cons a rest ih => exact stays_bind (hf a) fun _ => ih

theorem stays_foldl_m {f : β → α → Run β} (hf : ∀ b a, Stays R (f b a)) (items : List α) (b : β) :
    Stays R (items.foldlM f b) := by
  induction items generalizing b with
  | nil => exact stays_pure b
  | cons a rest ih =>
      rw [List.foldlM_cons]
      exact stays_bind (hf b a) ih

/-- Changes between states that are alike. -/
theorem stays_modify_of_alike {change : RunState → RunState} (h : ∀ s : RunState, s.Alike (change s)) :
    Stays R (modify change) :=
  stays_modify fun s => RunState.IsLax.of_alike (h s)

/-- A step on the disk that changes no file and no directory. -/
theorem stays_on_disk_of_kept {step : Disk → Except Trouble α × Disk}
    (h : ∀ d, (step d).2.entries = d.entries ∧ (step d).2.cwd = d.cwd) : Stays R (onDisk step) :=
  stays_on_disk fun s =>
    RunState.IsLax.of_alike ⟨rfl, rfl, (h s.disk).1, (h s.disk).2, rfl, rfl⟩

theorem stays_read_text (p : Path) : Stays R (onDisk (·.readText p)) := by
  refine stays_on_disk_of_kept fun d => ?_
  unfold Disk.readText
  split
  · exact ⟨rfl, rfl⟩
  · split <;> exact ⟨rfl, rfl⟩

theorem stays_read_text_replacing (p : Path) : Stays R (onDisk (·.readTextReplacing p)) := by
  refine stays_on_disk_of_kept fun d => ?_
  unfold Disk.readTextReplacing
  split
  · exact ⟨rfl, rfl⟩
  · split <;> exact ⟨rfl, rfl⟩

theorem stays_read_bytes (p : Path) : Stays R (onDisk (·.readBytes p)) := by
  refine stays_on_disk_of_kept fun d => ?_
  unfold Disk.readBytes
  split <;> exact ⟨rfl, rfl⟩

@[grind ←] theorem stays_exists (p : Path) : Stays R (exists? p) := by
  unfold exists?
  grind

@[grind ←] theorem stays_is_directory (p : Path) : Stays R (isDirectory? p) := by
  unfold isDirectory?
  grind

@[grind ←] theorem stays_place (unit operation filePath phase : Option String) :
    Stays R (place unit operation filePath phase) := by
  unfold place
  grind

@[grind ←] theorem stays_checkpoint (place : FaultContext) : Stays R (checkpoint place) := by
  refine ⟨fun context s hobservers => ?_⟩
  have halike : s.Alike { s with token := (s.token.check context.clock place).2 } := by
    refine ⟨rfl, ?_, rfl, rfl, rfl, rfl⟩
    unfold Token.check
    split
    · rfl
    · split
      · rfl
      · dsimp only
        split <;> rfl
  simp only [checkpoint, exec_bind, exec_get, exec_read, exec_set]
  cases (s.token.check context.clock place).1 with
  | none => exact RunState.IsLax.of_alike halike
  | some f => exact RunState.IsLax.of_alike halike

end Building

section Recovery

variable {α : Type} {R : RunState → RunState → Prop} [RunState.IsLax R]

@[grind ←] theorem stays_classify (failure : Failure) (place : Option FaultContext) :
    Stays R (classify failure place) :=
  stays_bind (stays_modify_of_alike fun _ =>
    ⟨ErrorLog.refresh_strategies, rfl, rfl, rfl, rfl, rfl⟩) fun _ => stays_pure _

/-- A fault that is recorded goes to the observers, one after the other. -/
@[grind ←] theorem stays_record (f : Fault) : Stays R (record f) := by
  refine ⟨fun context s hobservers => ?_⟩
  -- The induction runs over some of the observers, while the assumption is about all of them.
  have hfold : ∀ observers ⊆ context.observers, ∀ (g : Fault) (t : RunState),
      R t (observers.foldl (fun t observe => observe g t) t) := by
    intro observers hsub g
    induction observers with
    | nil => exact fun t => refl_of R t
    | cons observe rest ih =>
        intro t
        have hfirst := hobservers observe (hsub List.mem_cons_self) g t
        exact trans_of R hfirst (ih (fun o ho => hsub (List.mem_cons_of_mem _ ho)) (observe g t))
  have hlogged : R s { s with log := (s.log.add f).2 } :=
    RunState.IsLax.of_alike ⟨rfl, rfl, rfl, rfl, rfl, rfl⟩
  simp only [record, exec_bind, exec_read, exec_get, exec_set]
  exact trans_of R hlogged (hfold context.observers (List.Subset.refl _) _ _)

@[grind ←] theorem stays_recover_by (f : Fault) (strategies : List Strategy) :
    Stays R (recoverBy f strategies) := by
  induction strategies with
  | nil => exact stays_pure none
  | cons strategy rest ih =>
      have hslept : Stays R (modify fun s : RunState =>
          { s with slept := s.slept ++ (strategy.recover f).waited.toList }) :=
        stays_modify_of_alike fun _ => ⟨rfl, rfl, rfl, rfl, rfl, rfl⟩
      unfold recoverBy
      grind

@[grind ←] theorem stays_recover (f : Fault) : Stays R (recover f) := by
  unfold recover
  grind

@[grind ←] theorem stays_next_attempt (r : Recovery) : Stays R (nextAttempt r) := by
  unfold nextAttempt
  grind

end Recovery

section Meets

variable {α β : Type} {x : Run α} {context : RunContext} {s : RunState}

theorem meets_of_exec_ok {a : α} {t : RunState} {Q : α → RunState → Prop} {E : RunState → Prop}
    (hexec : x.exec context s = (.ok a, t)) (h : Q a t) : Meets x context s Q E := by
  unfold Meets
  rw [hexec]
  exact h

theorem meets_pure {a : α} {Q : α → RunState → Prop} {E : RunState → Prop} (h : Q a s) :
    Meets (pure a) context s Q E := h

theorem meets_throw {failure : Failure} {Q : α → RunState → Prop} {E : RunState → Prop}
    (h : E s) : Meets (throw failure) context s Q E := h

theorem meets_fault {f : Fault} {Q : α → RunState → Prop} {E : RunState → Prop} (h : E s) :
    Meets (fault f) context s Q E := h

theorem meets_trouble {t : Trouble} {Q : α → RunState → Prop} {E : RunState → Prop} (h : E s) :
    Meets (trouble t) context s Q E := h

/-- A computation that does not fail comes to a value. -/
theorem Meets.exists_ok {Q : α → RunState → Prop} (h : Meets x context s Q fun _ => False) :
    ∃ a t, x.exec context s = (.ok a, t) ∧ Q a t := by
  unfold Meets at h
  cases hexec : x.exec context s with
  | mk result t =>
      rw [hexec] at h
      cases result with
      | ok a => exact ⟨a, t, rfl, h⟩
      | error failure => exact h.elim

theorem Meets.mono {Q Q' : α → RunState → Prop} {E E' : RunState → Prop}
    (h : Meets x context s Q E) (hQ : ∀ a t, Q a t → Q' a t) (hE : ∀ t, E t → E' t) :
    Meets x context s Q' E' := by
  unfold Meets at h ⊢
  split
  · next a t hexec =>
      rw [hexec] at h
      exact hQ a t h
  · next failure t hexec =>
      rw [hexec] at h
      exact hE t h

/-- Nothing is said of a computation about which nothing is asked. -/
theorem meets_trivial : Meets x context s (fun _ _ => True) fun _ => True := by
  unfold Meets
  split <;> trivial

theorem Meets.and {Q Q' : α → RunState → Prop} {E E' : RunState → Prop}
    (h : Meets x context s Q E) (h' : Meets x context s Q' E') :
    Meets x context s (fun a t => Q a t ∧ Q' a t) fun t => E t ∧ E' t := by
  unfold Meets at *
  split
  · next hexec =>
      rw [hexec] at h h'
      exact ⟨h, h'⟩
  · next hexec =>
      rw [hexec] at h h'
      exact ⟨h, h'⟩

/-- What is left however a computation ends is left at its end. -/
theorem meets_iff_state {P : RunState → Prop} :
    Meets x context s (fun _ => P) P ↔ P (x.exec context s).2 := by
  unfold Meets
  split
  · next hexec => rw [hexec]
  · next hexec => rw [hexec]

/-- A computation leaves what it stays within, from a state that is so already. -/
theorem Stays.meets {R : RunState → RunState → Prop} [IsTrans RunState R] (hx : Stays R x)
    (hobservers : context.ObserversStay R) {start : RunState} (hs : R start s) :
    Meets x context s (fun _ => R start) (R start) :=
  meets_iff_state.2 (trans_of R hs (hx.state context s hobservers))

theorem meets_bind {f : α → Run β} {Q : α → RunState → Prop} {Q' : β → RunState → Prop}
    {E : RunState → Prop} (hx : Meets x context s Q E)
    (hf : ∀ a t, Q a t → Meets (f a) context t Q' E) : Meets (x >>= f) context s Q' E := by
  unfold Meets at hx
  unfold Meets
  rw [exec_bind]
  cases hexec : x.exec context s with
  | mk result t =>
      rw [hexec] at hx
      cases result with
      | error failure => exact hx
      | ok a => exact hf a t hx

theorem meets_read_bind {f : RunContext → Run β} {Q : β → RunState → Prop} {E : RunState → Prop}
    (h : Meets (f context) context s Q E) : Meets (read >>= f) context s Q E := by
  unfold Meets
  rw [exec_bind, exec_read]
  exact h

theorem meets_get_bind {f : RunState → Run β} {Q : β → RunState → Prop} {E : RunState → Prop}
    (h : Meets (f s) context s Q E) : Meets (get >>= f) context s Q E := by
  unfold Meets
  rw [exec_bind, exec_get]
  exact h

theorem meets_use_bind {value : Usable α} {f : α → Run β} {Q : β → RunState → Prop}
    {E : RunState → Prop} (herror : ∀ t, value = .error t → E s)
    (h : ∀ a, value = .ok a → Meets (f a) context s Q E) :
    Meets (use value >>= f) context s Q E := by
  cases value with
  | ok a => exact h a rfl
  | error t => exact herror t rfl

/-- A step on the disk comes to its result, on the disk that it leaves. -/
theorem meets_on_disk {step : Disk → Except Trouble α × Disk} {Q : α → RunState → Prop}
    {E : RunState → Prop}
    (hok : ∀ a d, step s.disk = (.ok a, d) → Q a { s with disk := d })
    (herror : ∀ t d, step s.disk = (.error t, d) → E { s with disk := d }) :
    Meets (onDisk step) context s Q E := by
  rw [Meets]
  simp only [onDisk, exec_bind, exec_get, exec_set]
  cases hstep : step s.disk with
  | mk result d =>
      cases result with
      | ok a => exact hok a d hstep
      | error t => exact herror t d hstep

/-- An attempt never fails: what holds of its outcome holds of a value or of a failure. -/
theorem meets_attempt {Q : Except Failure α → RunState → Prop} {E : RunState → Prop}
    (h : Meets x context s (fun a t => Q (.ok a) t) fun t => ∀ failure, Q (.error failure) t) :
    Meets (attempt x) context s Q E := by
  unfold Meets at h ⊢
  rw [exec_attempt]
  cases hexec : x.exec context s with
  | mk result t =>
      rw [hexec] at h
      cases result with
      | error failure => exact h failure
      | ok a => exact h

/-- The outcome of an attempt is what the computation comes to. -/
theorem meets_attempt_outcome {Q : α → RunState → Prop} {E E' : RunState → Prop}
    (h : Meets x context s Q E) :
    Meets (attempt x) context s
      (fun outcome t => match outcome with
        | .ok a => Q a t
        | .error _ => E t) E' :=
  meets_attempt (h.mono (fun _ _ h => h) fun _ h _ => h)

end Meets

/-- A property of states that stays whatever every computation may do on its way, and whatever the
observers of faults do. -/
structure Lasting (context : RunContext) (P : RunState → Prop) : Prop where
  alike : ∀ s t, s.Alike t → P s → P t
  observed : context.ObserversStay (RunState.Keeping P)

namespace Lasting

variable {α : Type} {context : RunContext} {P : RunState → Prop} {s : RunState}

/-- What is related to a state by a lax relation is so after whatever every computation may do. -/
theorem of_is_lax {R : RunState → RunState → Prop} [RunState.IsLax R]
    (hobservers : context.ObserversStay R) (s : RunState) : Lasting context (R s) where
  alike _ _ halike hs := trans_of R hs (RunState.IsLax.of_alike halike)
  observed observe hobserve f t hs := trans_of R hs (hobservers observe hobserve f t)

/-- Whatever does nothing but what every computation may do keeps a lasting property. -/
theorem meets (hP : Lasting context P) {x : Run α}
    (hx : ∀ {R} [RunState.IsLax R], Stays R x) (hs : P s) :
    Meets x context s (fun _ => P) P := by
  have := RunState.is_lax_keeping hP.alike
  exact meets_iff_state.2 (hx.state context s hP.observed hs)

end Lasting

section Attempts

variable {α : Type} {operation : Run α} {context : RunContext} {P : RunState → Prop}
  {Q : α → RunState → Prop} {may : Prop}

/-- What an attempt comes to: the value of the operation, or else, if it may fail at all, what is
made of its fault, or another attempt. -/
theorem attempt_once_meets (hP : may → Lasting context P)
    (hoperation : ∀ s, P s → Meets operation context s Q fun t => may ∧ P t)
    (place : FaultContext) (absorb : Fault → Recovery → α) (i : Int) {s : RunState} (hs : P s) :
    Meets (attemptOnce operation place absorb i) context s
      (fun attempted t => match attempted with
        | .finished a => Q a t ∨ may ∧ (∃ f r, a = absorb f r) ∧ P t
        | .again _ _ => may ∧ P t)
      fun t => may ∧ P t := by
  refine meets_bind (meets_attempt_outcome (hoperation s hs)) fun outcome t ht => ?_
  cases outcome with
  | ok a => exact Or.inl ht
  | error failure =>
      obtain ⟨hmay, ht⟩ := ht
      have hkept : ∀ {β : Type} {x : Run β} {u : RunState},
          (∀ {R} [RunState.IsLax R], Stays R x) → P u →
            Meets x context u (fun _ => P) fun v => may ∧ P v :=
        fun hx hu => ((hP hmay).meets hx hu).mono (fun _ _ h => h) fun _ h => ⟨hmay, h⟩
      dsimp only
      split
      · exact ⟨hmay, ht⟩
      · refine meets_bind (hkept (stays_classify failure _) ht) fun f u hu => ?_
        refine meets_bind (hkept (stays_record f) hu) fun f u hu => ?_
        refine meets_bind (hkept (stays_recover f) hu) fun recovery u hu => ?_
        cases recovery with
        | none => exact ⟨hmay, hu⟩
        | some r =>
            dsimp only
            split
            · exact meets_bind (hkept (stays_next_attempt r) hu) fun _ _ hu => ⟨hmay, hu⟩
            · exact Or.inr ⟨hmay, ⟨f, r, rfl⟩, hu⟩

/-- What an operation comes to that is tried again and again: what it gives when it succeeds, or
else, if it may fail at all, what is made of its fault, or a failure. -/
theorem with_recovery_meets (hP : may → Lasting context P)
    (hoperation : ∀ s, P s → Meets operation context s Q fun t => may ∧ P t)
    (place : FaultContext) (absorb : Fault → Recovery → α) {s : RunState} (hs : P s) :
    Meets (withRecovery operation place absorb) context s
      (fun a t => Q a t ∨ may ∧ (∃ f r, a = absorb f r) ∧ P t) fun t => may ∧ P t := by
  -- However many attempts are left, each of them starts where `P` holds.
  have hloop : ∀ fuel i {s : RunState}, P s →
      Meets (withRecovery.loop operation place absorb fuel i) context s
        (fun a t => Q a t ∨ may ∧ (∃ f r, a = absorb f r) ∧ P t) fun t => may ∧ P t := by
    intro fuel
    induction fuel with
    | zero =>
        intro i s hs
        refine meets_bind (attempt_once_meets hP hoperation place absorb i hs) fun attempted t ht => ?_
        cases attempted with
        | finished a => exact ht
        | again f next => exact ht
    | succ fuel ih =>
        intro i s hs
        refine meets_bind (attempt_once_meets hP hoperation place absorb i hs) fun attempted t ht => ?_
        cases attempted with
        | finished a => exact ht
        | again f next => exact ih next ht.2
  exact hloop _ 1 hs

@[grind ←] theorem stays_with_recovery {R : RunState → RunState → Prop} [RunState.IsLax R]
    (hoperation : Stays R operation) (place : FaultContext) (absorb : Fault → Recovery → α) :
    Stays R (withRecovery operation place absorb) := by
  refine ⟨fun context s hobservers => ?_⟩
  have hstep : ∀ t, R s t → Meets operation context t (fun _ => R s) fun u => True ∧ R s u :=
    fun t ht => (hoperation.meets hobservers ht).mono (fun _ _ h => h) fun _ h => ⟨trivial, h⟩
  have hmeets := with_recovery_meets (fun _ => Lasting.of_is_lax hobservers s) hstep place absorb
    (refl_of R s)
  exact meets_iff_state.1 (hmeets.mono (fun _ _ h => h.elim id fun h => h.2.2) fun _ h => h.2)

end Attempts

end Run

/-- A computation after which the board is related to the one before, however it ends. -/
structure Run.Keeps (R : Board → Board → Prop) (x : Run α) : Prop where
  board : ∀ context s,
    (∀ observe ∈ context.observers, ∀ f s, R s.board (observe f s).board) →
      R s.board (x.exec context s).2.board

/-- A preorder of boards does not tell states apart that are alike. -/
instance {R : Board → Board → Prop} [IsPreorder Board R] :
    RunState.IsLax (InvImage R RunState.board) where
  refl s := refl_of R s.board
  trans _ _ _ hfirst hsecond := trans_of R hfirst hsecond
  of_alike {s t} halike := by
    show R s.board t.board
    rw [halike.board]
    exact refl_of R s.board

namespace Run

variable {α β : Type} {R : Board → Board → Prop} {x : Run α}

theorem keeps_iff_stays : Keeps R x ↔ Stays (InvImage R RunState.board) x :=
  ⟨fun h => ⟨h.board⟩, fun h => ⟨h.state⟩⟩

theorem Stays.keeps (h : Stays (InvImage R RunState.board) x) : Keeps R x := keeps_iff_stays.2 h

variable [IsPreorder Board R]

theorem keeps_pure (a : α) : Keeps R (pure a) := (stays_pure a).keeps

theorem keeps_trouble (t : Trouble) : Keeps R (trouble t : Run α) := (stays_trouble t).keeps

theorem keeps_bind {f : α → Run β} (hx : Keeps R x) (hf : ∀ a, Keeps R (f a)) :
    Keeps R (x >>= f) :=
  (stays_bind (keeps_iff_stays.1 hx) fun a => keeps_iff_stays.1 (hf a)).keeps

end Run

end ComponentMigration
