import Mathlib.Data.List.Induction
import ComponentMigration.Proofs.Pipeline.Carried
import ComponentMigration.Proofs.Pipeline.UnitResults
import ComponentMigration.Proofs.Run.Failing
import ComponentMigration.Proofs.Run.Ledger

/-!
# How parsing ends a run

Parsing a unit comes to an outcome whatever happens: the faults on its way are none of cancellation,
and what the retry policy cannot do is no reason to try again (`execute_parse_gives`).  So the phase
of parsing fails in one of three ways: the run is cancelled, nothing can be parsed with the limits
of the settings, or a unit was not parsed and errors are not to be skipped.  In the last case the
results are those of the units up to that one (`parse_phase_undisturbed`).
-/

namespace ComponentMigration

section Faults

variable {α β : Type} {x : Run α}

/-- A computation that does not fail with cancellation. -/
def Run.CancelsNever (x : Run α) : Prop :=
  ∀ context s failure t, x.exec context s = (.error failure, t) → failure.isCancellation = false

namespace Run

theorem cancels_never_pure (a : α) : CancelsNever (pure a : Run α) := by
  rintro context s failure t ⟨⟩

theorem cancels_never_trouble (t : Trouble) : CancelsNever (trouble t : Run α) := by
  rintro context s _ _ ⟨⟩
  rfl

theorem cancels_never_fault {f : Fault} (h : f.cls ≠ .cancelled) :
    CancelsNever (fault f : Run α) := by
  rintro context s _ _ ⟨⟩
  simpa [Failure.isCancellation] using h

theorem cancels_never_use (value : Usable α) : CancelsNever (use value) := by
  cases value with
  | ok a => exact cancels_never_pure a
  | error t => exact cancels_never_trouble t

theorem cancels_never_bind {f : α → Run β} (hx : x.CancelsNever) (hf : ∀ a, (f a).CancelsNever) :
    CancelsNever (x >>= f) := by
  intro context s failure t h
  rcases exec_bind_eq_error.mp h with h | ⟨a, u, -, h⟩
  · exact hx context s failure t h
  · exact hf a context u failure t h

/-- What follows an attempt goes on from its outcome, which is not cancellation. -/
theorem cancels_never_attempt_bind {f : Except Failure α → Run β} (hx : x.CancelsNever)
    (hok : ∀ a, (f (.ok a)).CancelsNever)
    (herror : ∀ failure, failure.isCancellation = false → (f (.error failure)).CancelsNever) :
    CancelsNever (attempt x >>= f) := by
  intro context s failure t h
  rw [exec_bind, exec_attempt] at h
  cases hexec : x.exec context s with
  | mk outcome u =>
      rw [hexec] at h
      cases outcome with
      | ok a => exact hok a context u failure t h
      | error e => exact herror e (hx context s e u hexec) context u failure t h

theorem cancels_never_read : CancelsNever (read : Run RunContext) := by
  rintro context s failure t ⟨⟩

theorem cancels_never_get : CancelsNever (get : Run RunState) := by
  rintro context s failure t ⟨⟩

theorem cancels_never_set (s : RunState) : CancelsNever (set s : Run Unit) := by
  rintro context s failure t ⟨⟩

theorem cancels_never_on_disk (step : Disk → Except Trouble α × Disk) :
    CancelsNever (onDisk step) :=
  cancels_never_bind cancels_never_get fun _ =>
    cancels_never_bind (cancels_never_set _) fun _ => cancels_never_use _

theorem read_source_cancels_never {file : SourceFile} (hsize : file.size.CancelsNever)
    (htext : file.text.CancelsNever) (component : Component) :
    (readSource component file).CancelsNever := by
  refine cancels_never_attempt_bind ?_ (fun text => cancels_never_pure text) ?_
  · refine cancels_never_bind hsize fun size =>
      cancels_never_bind cancels_never_read fun context =>
        cancels_never_bind (cancels_never_use _) fun limit => ?_
    split
    · exact cancels_never_fault (by simp [Fault.of])
    · exact htext
  · intro failure hfailure
    cases failure with
    | fault f => exact cancels_never_fault (by simpa [Failure.isCancellation] using hfailure)
    | trouble t =>
        dsimp only
        split
        · exact cancels_never_fault (by simp [Fault.of])
        · split
          · exact cancels_never_fault (by simp [Fault.of])
          · exact cancels_never_trouble t

theorem parse_text_cancels_never (component : Component) (text : String) :
    (parseText component text).CancelsNever := by
  refine cancels_never_bind ?_ fun document => ?_
  · unfold parseAs
    split
    · exact cancels_never_fault (by simp [Fault.of])
    · exact cancels_never_bind cancels_never_read fun _ => cancels_never_pure _
  · dsimp only
    split
    · exact cancels_never_fault (by simp [Fault.of])
    · exact cancels_never_pure _

theorem parse_once_cancels_never (component : Component) (path : Path) :
    (parseOnce component (.ofPath path) none).CancelsNever := by
  have hsource : (sourceOf component (.ofPath path) none).CancelsNever :=
    read_source_cancels_never (cancels_never_on_disk fun d => (d.size path, d))
      (cancels_never_on_disk (·.readText path)) component
  exact cancels_never_bind hsource fun text => parse_text_cancels_never component text

end Run

end Faults

section Outcomes

variable {ι : Type} {context : RunContext} {P : ι → RunState → Prop} {policy : RetryPolicy}

/-- A failure that is a trouble which is not tried again. -/
def Failure.IsFinal (failure : Failure) : Prop := ∃ t, failure = .trouble t ∧ t.IsFinal

theorem Failure.IsFinal.is_cancellation {failure : Failure} (h : failure.IsFinal) :
    failure.isCancellation = false := by
  obtain ⟨t, rfl, -⟩ := h
  rfl

theorem Failure.IsFinal.is_ordinary {failure : Failure} (h : failure.IsFinal) :
    failure.IsOrdinary := by
  obtain ⟨t, rfl, -, htime⟩ := h
  exact ⟨t.fault_class_ne_cancelled, htime⟩

/-- What is not tried again is in none of the categories of faults that are. -/
theorem Failure.IsFinal.category_not_mem {failure : Failure} (h : failure.IsFinal) :
    (failure.classify none).category ∉ retriedCategories := by
  obtain ⟨t, rfl, hfile, htime⟩ := h
  change t.faultClass.category ∉ retriedCategories
  revert hfile htime
  generalize t.faultClass = cls
  cases cls <;> decide

/-- Parsing a unit comes to an outcome, or the retry policy cannot be used. -/
theorem parse_unit_gives (h : Run.Known context (builtinStrategies policy) P)
    (component : Component) :
    (Run.parseUnit component none).Gives context P fun outcome =>
      ∀ failure, outcome = .error failure → failure.IsFinal := by
  have honce : (Run.parseOnce component (.ofPath (Path.ofText component.absolutePath)) none).Gives
      context P fun outcome =>
        ∀ failure, outcome = .error failure → failure.isCancellation = false :=
    h.gives (stays_parse_file component _ none) fun i s _ failure hfailure => by
      obtain ⟨t, ht⟩ := Run.exists_exec_of_fst hfailure
      exact Run.parse_once_cancels_never component _ context s failure t ht
  have hvalue : ∀ o : ParseOutcome, Run.Gives (pure o) context P fun outcome =>
      ∀ failure, outcome = .error failure → failure.IsFinal := by
    refine fun o => (Run.gives_pure o).mono ?_
    rintro _ rfl failure ⟨⟩
  unfold Run.parseUnit Run.parseFrom
  refine Run.gives_bind_value (fun i s hs => ⟨rfl, hs⟩) (Run.gives_bind (Run.gives_attempt
    (h.with_recovery_ends ?_ (fun _ hcancel => hcancel) honce _)) ?_)
  · exact List.nodup_nil
  intro ended hended
  cases ended with
  | ok o => exact hvalue o
  | error failure =>
      have hends := hended failure rfl
      cases hends with
      | fault hcancel hcls =>
          next e f =>
            have hne : f.cls ≠ .cancelled := by
              rw [hcls]
              cases e with
              | fault g => simpa [Failure.isCancellation, Failure.classify] using hcancel
              | trouble t => exact t.fault_class_ne_cancelled
            dsimp only
            rw [if_neg (by simpa using hne)]
            exact hvalue _
      | trouble _ _ hfinal =>
          intro i s hs
          refine ⟨?_, hs⟩
          rintro _ ⟨⟩
          exact ⟨_, rfl, hfinal⟩

/-- Work that fails at most with what is not tried again always comes to a result. -/
theorem BatchJob.execute_gives_ok {α β : Type} {job : BatchJob α β} {item : α}
    (h : Run.Known context (builtinStrategies policy) P)
    (hwork : (job.work item).Gives context P fun outcome =>
      ∀ failure, outcome = .error failure → failure.IsFinal) :
    (job.execute item).Gives context P fun outcome => ∃ r, outcome = .ok r := by
  have hresult : (job.valueResult item).Gives context P fun outcome =>
      ∀ failure, outcome = .error failure → failure.IsFinal := by
    refine Run.gives_bind_of hwork ?_ fun b _ i s hs => ⟨?_, hs⟩
    · rintro failure hfinal _ ⟨⟩
      exact hfinal failure rfl
    · rintro _ ⟨⟩
  intro i s hs
  let place : FaultContext := { unit := some (job.key item) }
  have hplace : place.data.keys.Nodup := List.nodup_nil
  have hgives : (Run.withRecovery (job.valueResult item) place (job.faultResult item)).Gives
      context P fun outcome => ∀ failure, outcome = .error failure → failure.Ends Failure.IsFinal :=
    h.with_recovery_ends hplace (fun _ hfinal => hfinal.is_cancellation) hresult
      (job.faultResult item)
  have hended := hgives i s hs
  rw [exec_execute]
  generalize (Run.withRecovery (job.valueResult item) place
    (job.faultResult item)).exec context s = ended at hended
  obtain ⟨outcome, t⟩ := ended
  obtain ⟨hends, ht⟩ := hended
  cases outcome with
  | ok r => exact ⟨⟨r, rfl⟩, ht⟩
  | error failure =>
      replace hends := hends failure rfl
      cases hends with
      | fault hfinal hcls =>
          next f =>
            have hne : (f.cls == .cancelled || f.cls == .phaseTimeout) = false := by
              rw [hcls]
              simpa [Failure.IsOrdinary] using hfinal.is_ordinary
            dsimp only
            rw [if_neg (by simp [hne])]
            exact ⟨⟨_, rfl⟩, ht⟩
      | trouble hfinal hretried _ => exact absurd hretried hfinal.category_not_mem

/-- Work on one item stays within a relation if the work itself does. -/
theorem BatchJob.stays_execute {α β : Type} {R : RunState → RunState → Prop} [RunState.IsLax R]
    {job : BatchJob α β} {item : α} (hwork : (job.work item).Stays R) :
    (job.execute item).Stays R := by
  refine Run.stays_bind (Run.stays_attempt (Run.stays_with_recovery
    (Run.stays_bind hwork fun _ => Run.stays_pure _) _ _)) fun outcome => ?_
  grind

end Outcomes

section States

/-- A state of a run without deadlines under the built-in strategies, in which something holds of
the results of units. -/
structure RunState.Calm (policy : RetryPolicy) (Holds : UnitResults → Prop) (s : RunState) :
    Prop where
  deadline : s.token.deadline = none
  strategies : s.log.strategies = builtinStrategies policy
  results : Holds s.results

/-- The run is cancelled, or else its state is calm. -/
def RunState.Undisturbed (policy : RetryPolicy) (Holds : UnitResults → Prop) (s : RunState) :
    Prop :=
  s.token.isCancelled = true ∨ s.Calm policy Holds

variable {policy : RetryPolicy} {Holds Holds' : UnitResults → Prop} {listener : Listener}
  {s t : RunState}

theorem RunState.Calm.mono (hs : s.Calm policy Holds)
    (h : ∀ results, Holds results → Holds' results) : s.Calm policy Holds' :=
  ⟨hs.deadline, hs.strategies, h s.results hs.results⟩

theorem RunState.Undisturbed.mono (hs : s.Undisturbed policy Holds)
    (h : ∀ results, Holds results → Holds' results) : s.Undisturbed policy Holds' :=
  hs.imp_right fun hs => hs.mono h

/-- What changes neither the results nor the strategies, sets no deadline and takes no cancellation
back. -/
structure RunState.Quieter (s t : RunState) : Prop where
  cancelled : s.token.isCancelled = true → t.token.isCancelled = true
  deadline : s.token.deadline = none → t.token.deadline = none
  strategies : t.log.strategies = s.log.strategies
  results : t.results = s.results

instance : RunState.IsLax RunState.Quieter where
  refl _ := ⟨id, id, rfl, rfl⟩
  trans _ _ _ hfirst hsecond :=
    ⟨hsecond.cancelled ∘ hfirst.cancelled, hsecond.deadline ∘ hfirst.deadline,
      hsecond.strategies.trans hfirst.strategies, hsecond.results.trans hfirst.results⟩
  of_alike halike :=
    ⟨fun h => by rw [halike.token]; exact h, fun h => by rw [halike.token]; exact h,
      halike.strategies, halike.results⟩

namespace RunState.Quieter

theorem announce (listener : Listener) (event : Event) (s : RunState) :
    s.Quieter (s.announce listener event) := by
  unfold RunState.announce
  dsimp only
  split
  · exact ⟨fun _ => rfl, id, rfl, rfl⟩
  · exact ⟨id, id, rfl, rfl⟩

theorem moveTo (listener : Listener) (phase : Phase) (share : Share) (message : Option String)
    (s : RunState) : s.Quieter (s.moveTo listener phase share message) :=
  have hmoved : s.Quieter { s with board := { s.board with
      progress := s.board.progress.moveTo phase share message } } := ⟨id, id, rfl, rfl⟩
  trans_of RunState.Quieter hmoved (announce listener _ _)

theorem calm (h : s.Quieter t) (hs : s.Calm policy Holds) : t.Calm policy Holds where
  deadline := h.deadline hs.deadline
  strategies := h.strategies.trans hs.strategies
  results := h.results ▸ hs.results

theorem undisturbed (h : s.Quieter t) (hs : s.Undisturbed policy Holds) :
    t.Undisturbed policy Holds := hs.imp h.cancelled h.calm

end RunState.Quieter

theorem Listener.quieter (listener : Listener) : listener.StaysWithin RunState.Quieter where
  moveTo s _ _ _ := RunState.Quieter.moveTo listener _ _ _ s
  warn s message := by
    refine trans_of RunState.Quieter (b := { s with board := { s.board with
      progress := { s.board.progress with warnings := s.board.progress.warnings + 1 } } }) ?_
      (RunState.Quieter.announce listener _ _)
    exact ⟨id, id, rfl, rfl⟩
  unit s _ _ := RunState.Quieter.announce listener _ s
  progress _ _ := ⟨id, id, rfl, rfl⟩

theorem RunState.Quieter.note_fault (listener : Listener) (f : Fault) (s : RunState) :
    s.Quieter (RunState.noteFault listener f s) := by
  refine trans_of RunState.Quieter (b := { s with board := { s.board with
    progress := { s.board.progress with errors := s.board.progress.errors + 1 } } }) ?_
    (announce listener _ _)
  exact ⟨id, id, rfl, rfl⟩

theorem Listener.StaysWithin.mono {R R' : RunState → RunState → Prop}
    (h : listener.StaysWithin R) (hR : ∀ s t, R s t → R' s t) : listener.StaysWithin R' where
  moveTo s phase share message := hR _ _ (h.moveTo s phase share message)
  warn s message := hR _ _ (h.warn s message)
  unit s id phase := hR _ _ (h.unit s id phase)
  progress s change := hR _ _ (h.progress s change)

theorem RunContext.ObserversStay.mono {R R' : RunState → RunState → Prop} {context : RunContext}
    (h : context.ObserversStay R) (hR : ∀ s t, R s t → R' s t) : context.ObserversStay R' :=
  fun observe hobserve f s => hR _ _ (h observe hobserve f s)

/-- States of which the second one is cancelled if the first one is. -/
def RunState.StaysCancelled : RunState → RunState → Prop :=
  RunState.Keeping fun s => s.token.isCancelled = true

instance : RunState.IsLax RunState.StaysCancelled :=
  RunState.is_lax_keeping fun _ _ halike hs => by rw [halike.token]; exact hs

theorem Listener.stays_cancelled (listener : Listener) :
    listener.StaysWithin RunState.StaysCancelled := listener.quieter.mono fun _ _ h => h.cancelled

end States

section Phase

variable {q : RunRequest} {context : RunContext} {policy : RetryPolicy} {s : RunState}
  {Holds : UnitResults → Prop} {components : List Component}
  (hobservers : context.ObserversStay RunState.Quieter)

/-- A checkpoint fails only if the run is cancelled. -/
theorem checkpoint_undisturbed (hs : s.Undisturbed policy Holds) (place : FaultContext) :
    (Run.checkpoint place).Meets context s (fun _ => RunState.Undisturbed policy Holds)
      fun t => t.token.isCancelled = true := by
  rw [Run.Meets]
  simp only [Run.checkpoint, Run.exec_bind, Run.exec_get, Run.exec_read, Run.exec_set]
  cases hcancelled : s.token.isCancelled with
  | true =>
      have hcheck : (s.token.check context.clock place).2 = s.token ∧
          (s.token.check context.clock place).1.isSome := by
        simp [Token.check, hcancelled]
      obtain ⟨f, hf⟩ := Option.isSome_iff_exists.mp hcheck.2
      rw [hf, hcheck.1]
      exact hcancelled
  | false =>
      have hcalm : s.Calm policy Holds := hs.resolve_left (by simp [hcancelled])
      have hcheck : s.token.check context.clock place = (none, s.token) := by
        simp [Token.check, hcancelled, hcalm.deadline]
      rw [hcheck]
      exact hs

include hobservers

/-- A cancelled run stays cancelled. -/
theorem cancelled_meets {α : Type} {x : Run α} (hx : x.Stays RunState.StaysCancelled)
    (hs : s.token.isCancelled = true) :
    x.Meets context s (fun _ t => t.token.isCancelled = true) fun t => t.token.isCancelled = true :=
  Run.meets_iff_state.mpr (hx.state context s (hobservers.mono fun _ _ h => h.cancelled) hs)

/-- What is known of calm states. -/
theorem known_calm :
    Run.Known context (builtinStrategies policy) fun _ : Unit => RunState.Calm policy Holds where
  lasting _ :=
    { alike := fun _ _ halike hs =>
        (RunState.IsLax.of_alike (R := RunState.Quieter) halike).calm hs
      observed := hobservers.mono fun _ _ h => h.calm }
  strategies _ _ hs := hs.strategies

/-- Parsing a unit never fails, unless the run is cancelled. -/
theorem execute_parse_undisturbed {job : BatchJob Component ParseOutcome}
    (hjob : ∀ c, job.work c = Run.parseUnit c none) (c : Component)
    (hs : s.Undisturbed policy Holds) :
    (job.execute c).Meets context s (fun _ => RunState.Undisturbed policy Holds)
      fun t => t.token.isCancelled = true := by
  rcases hs with hs | hs
  · exact (cancelled_meets hobservers (BatchJob.stays_execute (hjob c ▸ stays_parse_unit c none))
      hs).mono (fun _ _ ht => Or.inl ht) fun _ ht => ht
  · have hknown : Run.Known context (builtinStrategies policy)
        fun _ : Unit => RunState.Calm policy Holds := known_calm hobservers
    obtain ⟨⟨r, hr⟩, ht⟩ := BatchJob.execute_gives_ok hknown
      (hjob c ▸ parse_unit_gives hknown c) () s hs
    exact Run.meets_of_exec_ok (Prod.ext hr rfl) (Or.inr ht)

omit hobservers in
theorem require_parsed_meets (hskip : context.settings.pipeline.skipErrors = false) (id : String)
    (outcome : ParseOutcome) :
    (RunRequest.requireParsed id outcome).Meets context s
      (fun _ t => t = s ∧ outcome.success = true) fun t => t = s ∧ outcome.success = false := by
  unfold RunRequest.requireParsed
  refine Run.meets_read_bind ?_
  rw [hskip]
  cases hsuccess : outcome.success with
  | true => exact ⟨rfl, rfl⟩
  | false => exact ⟨rfl, rfl⟩

/-- The parses that results of units are kept as. -/
def parsesOf (told : List (TaskResult ParseOutcome)) : Assoc ParseOutcome :=
  told.foldl (fun parses r => parses.set r.key (RunRequest.parseOutcomeOf r)) []

/-- Whether a result is that of a unit that could be parsed. -/
def TaskResult.isParsed (r : TaskResult ParseOutcome) : Bool :=
  (RunRequest.parseOutcomeOf r).success

/-- What the results of units are as long as all units could be parsed. -/
def AllParsed (told : List (TaskResult ParseOutcome)) (results : UnitResults) : Prop :=
  results = { parses := parsesOf told } ∧ ∀ r ∈ told, r.isParsed = true

/-- What the results of units are when one could not be parsed: it is the last one. -/
def LastFailed (told : List (TaskResult ParseOutcome)) (results : UnitResults) : Prop :=
  results = { parses := parsesOf told } ∧
    ∃ before r, told = before ++ [r] ∧ (∀ b ∈ before, b.isParsed = true) ∧ r.isParsed = false

/-- The parsing of units, telling the results. -/
def RunRequest.parseJob (q : RunRequest) (total : Nat) : BatchJob Component ParseOutcome :=
  { work := fun c => Run.parseUnit c none
    key := Component.id
    checkpoint := Run.checkpoint {}
    onResult := q.keepParse total }

/-- A result is kept; the first one of a unit that could not be parsed ends the run. -/
theorem keep_parse_undisturbed (hskip : context.settings.pipeline.skipErrors = false) (total : Nat)
    {told : List (TaskResult ParseOutcome)} (r : TaskResult ParseOutcome)
    (hs : s.Undisturbed policy (AllParsed told)) :
    (q.keepParse total r).Meets context s
      (fun _ => RunState.Undisturbed policy (AllParsed (told ++ [r])))
      (RunState.Undisturbed policy (LastFailed (told ++ [r]))) := by
  rcases hs with hs | hs
  · have hstays : (q.keepParse total r).Stays RunState.StaysCancelled :=
      RunRequest.stays_keep_parse q.listener.stays_cancelled (fun _ _ => id) total r
    exact (cancelled_meets hobservers hstays hs).mono (fun _ _ ht => Or.inl ht)
      fun _ ht => Or.inl ht
  · have hkept : s.results.parses.set r.key (RunRequest.parseOutcomeOf r) =
        parsesOf (told ++ [r]) := by
      rw [hs.results.1, parsesOf, parsesOf, List.foldl_append]
      rfl
    refine Run.meets_bind (Q := fun _ u => u.Calm policy fun results =>
      results = { parses := parsesOf (told ++ [r]) }) ?_ fun _ u hu => ?_
    · refine ⟨hs.deadline, hs.strategies, ?_⟩
      show UnitResults.mk (s.results.parses.set _ _) s.results.transforms s.results.validations = _
      rw [hkept, hs.results.1]
    · refine Run.meets_bind ((require_parsed_meets hskip r.key _).mono (fun _ _ h => h) ?_) ?_
      · rintro _ ⟨rfl, hfailed⟩
        exact Or.inr ⟨hu.deadline, hu.strategies, hu.results, told, r, rfl, hs.results.2, hfailed⟩
      · rintro _ v ⟨rfl, hparsed⟩
        have hgood : RunState.Calm policy (AllParsed (told ++ [r])) v :=
          ⟨hu.deadline, hu.strategies, hu.results, List.forall_mem_append.mpr
            ⟨hs.results.2, List.forall_mem_singleton.mpr hparsed⟩⟩
        have htold : v.Quieter ((q.tellParsed total r.key).exec context v).2 :=
          (RunRequest.stays_tell_parsed q.listener.quieter total r.key).state context v hobservers
        exact Run.meets_of_exec_ok rfl (Or.inr (htold.calm hgood))

/-- Whatever happens on the way, parsing tells the results of units up to the first one that could
not be parsed, unless the run is cancelled. -/
theorem parse_job_tracks (hskip : context.settings.pipeline.skipErrors = false) (total : Nat) :
    (q.parseJob total).Tracks context (fun s => s.token.isCancelled = true)
      (fun told => RunState.Undisturbed policy (AllParsed told))
      (fun told => RunState.Undisturbed policy (LastFailed told)) where
  lapsed hs := ⟨Or.inl hs, Or.inl hs⟩
  checkpoint hs := checkpoint_undisturbed hs {}
  execute c hs := execute_parse_undisturbed hobservers (fun _ => rfl) c hs
  execute_lapsed c hs :=
    cancelled_meets hobservers (BatchJob.stays_execute (stays_parse_unit c none)) hs
  tell r hs := keep_parse_undisturbed hobservers hskip total r hs

end Phase

section Results

variable {told : List (TaskResult ParseOutcome)} {results : UnitResults} {units : List Component}

/-- Whether a unit has been parsed with success. -/
def UnitResults.parsed (results : UnitResults) (id : String) : Bool :=
  (results.parses.get? id).any (·.success)

/-- Results in which each of the units has been parsed with success. -/
def UnitResults.EachParsed (results : UnitResults) (units : List Component) : Prop :=
  ∀ u ∈ units, results.parsed u.id = true

/-- Results that end with the first unit that could not be parsed: those of the units before it and
its own, in the order of the units. -/
def UnitResults.UpToFailure (results : UnitResults) (units : List Component) : Prop :=
  ∃ before u after, units = before ++ u :: after ∧
    results.parses.keys = (before ++ [u]).map Component.id ∧
    (∀ v ∈ before, results.parsed v.id = true) ∧ results.parsed u.id = false

theorem UnitResults.UpToFailure.parses_ne_nil (h : results.UpToFailure units) :
    results.parses ≠ [] := by
  obtain ⟨before, u, after, -, hkeys, -, -⟩ := h
  intro hnone
  rw [hnone, List.map_append] at hkeys
  exact List.append_ne_nil_of_right_ne_nil _ (List.cons_ne_nil _ _) hkeys.symm

/-- Results of different units are kept in their order. -/
theorem parses_of_distinct (h : (told.map (·.key)).Nodup) :
    parsesOf told = told.map fun r => (r.key, RunRequest.parseOutcomeOf r) := by
  induction told using List.reverseRecOn with
  | nil => rfl
  | append_singleton told r ih =>
      rw [List.map_append, List.nodup_append] at h
      obtain ⟨hdistinct, -, hnew⟩ := h
      have hkeys : (parsesOf told).keys = told.map (·.key) := by
        rw [ih hdistinct, Assoc.keys, List.map_map]
        rfl
      have hfresh : r.key ∉ (parsesOf told).keys := by
        rw [hkeys]
        exact fun hmem => hnew _ hmem _ (List.mem_singleton_self _) rfl
      rw [parsesOf, List.foldl_append, List.map_append, ← ih hdistinct]
      exact Assoc.set_of_not_mem hfresh _

theorem keys_of_parses_of (h : (told.map (·.key)).Nodup) :
    (parsesOf told).keys = told.map (·.key) := by
  rw [parses_of_distinct h, Assoc.keys, List.map_map]
  rfl

theorem parsed_of_mem (h : (told.map (·.key)).Nodup) (hresults : results.parses = parsesOf told)
    {r : TaskResult ParseOutcome} (hr : r ∈ told) : results.parsed r.key = r.isParsed := by
  have hmem : (r.key, RunRequest.parseOutcomeOf r) ∈ results.parses := by
    rw [hresults, parses_of_distinct h]
    exact List.mem_map_of_mem hr
  have hkeys : results.parses.keys.Nodup := by
    rw [hresults, keys_of_parses_of h]
    exact h
  rw [UnitResults.parsed, (Assoc.get?_eq_some_iff hkeys).mpr hmem]
  rfl

/-- Results told in the order of the units, the last of them that of a unit that could not be
parsed. -/
theorem LastFailed.nothing_else (h : LastFailed told results) :
    results.transforms = [] ∧ results.validations = [] := by
  obtain ⟨rfl, -⟩ := h
  exact ⟨rfl, rfl⟩

theorem LastFailed.up_to_failure (h : LastFailed told results) (hdistinct : DistinctUnits units)
    (hfirst : told.map (·.key) <+: units.map Component.id) : results.UpToFailure units := by
  obtain ⟨rfl, before, r, rfl, hparsed, hfailed⟩ := h
  have hnodup : ((before ++ [r]).map (·.key)).Nodup := hdistinct.sublist hfirst.sublist
  obtain ⟨rest, hrest⟩ := hfirst
  obtain ⟨first, after, rfl, hfirst, -⟩ := List.map_eq_append_iff.mp hrest.symm
  rw [List.map_append] at hfirst
  obtain ⟨earlier, last, rfl, hearlier, hlast⟩ := List.map_eq_append_iff.mp hfirst
  obtain ⟨u, rfl, hu⟩ := List.map_eq_singleton_iff.mp hlast
  refine ⟨earlier, u, after, by simp, ?_, fun v hv => ?_, ?_⟩
  · rw [keys_of_parses_of hnodup, List.map_append, List.map_append, hearlier, hlast]
  · have hkey : v.id ∈ before.map (·.key) := hearlier ▸ List.mem_map_of_mem hv
    obtain ⟨b, hb, hid⟩ := List.mem_map.mp hkey
    rw [← hid, parsed_of_mem hnodup rfl (List.mem_append_left _ hb)]
    exact hparsed b hb
  · rw [hu, parsed_of_mem hnodup rfl (by simp)]
    exact hfailed

/-- If each of the units has a result, all of them have been parsed. -/
theorem AllParsed.parsed (h : AllParsed told results) (hdistinct : DistinctUnits units)
    (hfirst : told.map (·.key) <+: units.map Component.id)
    (hkeys : results.parses.HasKeys (units.map Component.id)) : results.EachParsed units := by
  obtain ⟨rfl, hparsed⟩ := h
  have hnodup : (told.map (·.key)).Nodup := hdistinct.sublist hfirst.sublist
  intro u hu
  have hkey : u.id ∈ (parsesOf told).keys := (hkeys.mem_iff _).mpr (List.mem_map_of_mem hu)
  rw [keys_of_parses_of hnodup] at hkey
  obtain ⟨r, hr, hid⟩ := List.mem_map.mp hkey
  rw [← hid, parsed_of_mem hnodup rfl hr]
  exact hparsed r hr

end Results

section Order

variable {α β : Type} {limits : BatchLimits} {arrangement : Arrangement α} {items list : List α}

/-- Items that are neither sorted nor grouped are worked on as they come. -/
theorem BatchLimits.order_plain (hlimits : ∀ n, limits.batchSize.int? = some n → 0 < n)
    (h : limits.order {} items = .ok list) : list = items := by
  unfold order at h
  split at h
  · cases hbatches : Arrangement.batches {} limits.batchSize items with
    | error t =>
        rw [hbatches] at h
        cases h
    | ok batches =>
        rw [hbatches] at h
        cases h
        obtain ⟨sorted, hsorted, hflatten⟩ := Arrangement.flatten_batches hlimits hbatches
        cases hsorted
        rw [hflatten]
        exact List.flatten_singleton
  · cases h
    rfl

/-- Items that cannot be put in order are not worked on. -/
theorem BatchJob.run_unordered {job : BatchJob α β} {t : Trouble} {context : RunContext}
    {s : RunState} (h : limits.order arrangement items = .error t) :
    (job.run limits arrangement items).exec context s = (.error (.trouble t), s) := by
  unfold BatchLimits.order at h
  unfold BatchJob.run
  split at h
  · next hparallel =>
      simp only [hparallel, if_true]
      cases hbatches : arrangement.batches limits.batchSize items with
      | error t' =>
          rw [hbatches] at h
          cases h
          rfl
      | ok batches =>
          rw [hbatches] at h
          cases h
  · next hsequential =>
      simp only [hsequential, Bool.false_eq_true, if_false, h]
      rfl

end Order

/-- The units cannot be put into the order in which they are to be parsed. -/
def PipelineSettings.Unordered (options : PipelineSettings) (units : List Component) : Prop :=
  ∀ limits list,
    BatchLimits.atLeastOne options.parallel options.maxWorkers options.batchSize = .ok limits →
      limits.order {} units ≠ .ok list

/-- The results with which parsing ends a run: those up to the first unit that could not be parsed,
or none at all if the units cannot be put in order. -/
def ParsingFailed (options : PipelineSettings) (units : List Component) (results : UnitResults) :
    Prop :=
  results.transforms = [] ∧ results.validations = [] ∧
    (results.UpToFailure units ∨ options.Unordered units ∧ results.parses = [])

section Phase

variable {q : RunRequest} {context : RunContext} {policy : RetryPolicy} {s : RunState}
  {components : List Component} (hobservers : context.ObserversStay RunState.Quieter)
  (hskip : context.settings.pipeline.skipErrors = false) (hdistinct : DistinctUnits components)
include hobservers hskip hdistinct

/-- Parsing that begins in a calm state either gets through all units, or ends with the first one
that cannot be parsed, or cannot put them in order. -/
theorem parse_phase_calm (hs : s.Calm policy (· = {})) :
    (q.parsePhase components).Meets context s
      (fun _ => RunState.Undisturbed policy fun results =>
        results.parses.HasKeys (components.map Component.id) → results.EachParsed components)
      (RunState.Undisturbed policy (ParsingFailed context.settings.pipeline components)) := by
  have hunordered : context.settings.pipeline.Unordered components →
      s.Undisturbed policy (ParsingFailed context.settings.pipeline components) := by
    refine fun h => Or.inr ⟨hs.deadline, hs.strategies, ?_⟩
    rw [hs.results]
    exact ⟨rfl, rfl, Or.inr ⟨h, rfl⟩⟩
  refine Run.meets_read_bind (Run.meets_use_bind (fun t ht => ?_) fun limits hlimits => ?_)
  · refine hunordered fun limits list hok => ?_
    rw [ht] at hok
    cases hok
  · cases horder : limits.order {} components with
    | error t =>
        rw [Run.Meets, Run.exec_bind, BatchJob.run_unordered horder]
        refine hunordered fun limits' list hok => ?_
        cases hlimits.symm.trans hok
        rw [horder]
        intro hlist
        cases hlist
    | ok list =>
        obtain rfl := BatchLimits.order_plain
          (fun n => BatchLimits.batch_size_pos (n := n) hlimits) horder
        have hfirst : (((q.parseJob (max list.length 1)).ledger limits {} list context
            s).told.map (·.key)) <+: list.map Component.id := BatchJob.ledger_told_first horder
        have htold := (parse_job_tracks (q := q) hobservers hskip (max list.length 1)).run
          (s := s) horder (Or.inr ⟨hs.deadline, hs.strategies, hs.results, List.forall_mem_nil _⟩)
        refine Run.meets_bind (htold.mono (fun _ _ h => h) fun t ht => ?_) fun _ t ht => ?_
        · refine ht.mono fun results hfailed => ?_
          have hothers := hfailed.nothing_else
          exact ⟨hothers.1, hothers.2, Or.inl (hfailed.up_to_failure hdistinct hfirst)⟩
        · exact ht.mono fun results hparsed => hparsed.parsed hdistinct hfirst

/-- How parsing ends in a run that is neither cancelled nor has a deadline, if errors are not to be
skipped. -/
theorem parse_phase_undisturbed (hs : s.Undisturbed policy (· = {})) :
    (q.parsePhase components).Meets context s
      (fun _ => RunState.Undisturbed policy (·.EachParsed components))
      (RunState.Undisturbed policy (ParsingFailed context.settings.pipeline components)) := by
  rcases hs with hs | hs
  · have hstays : (q.parsePhase components).Stays RunState.StaysCancelled :=
      RunRequest.stays_parse_phase
        (RunRequest.stays_keep_parse q.listener.stays_cancelled (fun _ _ => id) _)
    exact (cancelled_meets hobservers hstays hs).mono (fun _ _ ht => Or.inl ht)
      fun _ ht => Or.inl ht
  · have hkept : (q.parsePhase components).Meets context s _ _ :=
      RunRequest.parse_phase_meets (hobservers.mono fun _ _ h => h.results) hs.results
    refine (hkept.and (parse_phase_calm hobservers hskip hdistinct hs)).mono ?_ fun t ht => ht.2
    rintro _ t ⟨⟨hkeys, -⟩, ht⟩
    exact ht.imp_right fun ht => ⟨ht.deadline, ht.strategies, ht.results hkeys⟩

end Phase

end ComponentMigration
