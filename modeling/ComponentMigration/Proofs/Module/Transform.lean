import Mathlib.Logic.Function.Basic
import Mathlib.Tactic.Choose
import ComponentMigration.Proofs.Run.Batch
import ComponentMigration.Module.Transform

/-!
# Transforming units whatever their files hold

Reading the files of units is seen as the outcomes of successive reads, any texts and any troubles.
A trouble that tells of a timeout passes for an exceeded deadline and leaves the transformation;
as long as there is none, every unit comes to an outcome, and no file is read more often than the
retry policy allows: `transform_from_returns` says so for one unit, and
`transform_returns_within_attempts` for many, in whatever order and batches they are worked on.
-/

namespace ComponentMigration

/-- A failure that is, also once it is classified, neither cancellation nor an exceeded deadline. -/
def Failure.IsContained (failure : Failure) : Prop :=
  ∀ place, (failure.classify place).cls ≠ .cancelled ∧ (failure.classify place).cls ≠ .phaseTimeout

section Contained

variable {t : Trouble} {failure : Failure}

/-- No trouble becomes a cancellation. -/
theorem Trouble.fault_class_ne_cancelled (t : Trouble) : t.faultClass ≠ .cancelled := by
  unfold Trouble.faultClass
  dsimp only
  repeat' split
  all_goals decide

theorem Failure.is_contained_fault {cls : FaultClass} {message : String} {origin : FaultContext}
    (hcancelled : cls ≠ .cancelled) (htimeout : cls ≠ .phaseTimeout) :
    (Failure.fault (Fault.of cls message origin)).IsContained := by
  intro place
  cases place with
  | none => exact ⟨hcancelled, htimeout⟩
  | some place => exact ⟨hcancelled, htimeout⟩

theorem Failure.is_contained_trouble (htimeout : t.faultClass ≠ .phaseTimeout) :
    (Failure.trouble t).IsContained :=
  fun _ => ⟨t.fault_class_ne_cancelled, htimeout⟩

theorem Failure.IsContained.is_cancellation (h : failure.IsContained) :
    failure.isCancellation = false := by
  cases failure with
  | fault f => exact beq_false_of_ne (h none).1
  | trouble t => rfl

end Contained

/-- The only trouble with a member of a class is a method without a body. -/
theorem ClassReading.member_eq_error {r : ClassReading} {m : Node} {failure : Failure}
    (h : r.member m = .error failure) : failure = .trouble (.lacks .null "text") := by
  unfold ClassReading.member at h
  dsimp only at h
  split at h
  · unfold ClassReading.method at h
    repeat' split at h
    all_goals first
      | cases h
        done
      | (cases h; rfl)
  · split at h <;> cases h

theorem ClassReading.members_eq_error {r : ClassReading} {members : List Node} {failure : Failure}
    (h : members.foldlM ClassReading.member r = .error failure) :
    failure = .trouble (.lacks .null "text") := by
  induction members generalizing r with
  | nil => cases h
  | cons m rest ih =>
      rw [List.foldlM_cons] at h
      cases hm : r.member m with
      | error failure' =>
          rw [hm] at h
          cases h
          exact ClassReading.member_eq_error hm
      | ok r' =>
          rw [hm] at h
          exact ih h

/-- What can go wrong with the draft of a module is told as an unsuccessful outcome. -/
theorem Draft.is_contained_of_site {options : TransformSettings} {component : Component}
    {source : String} {root : Node} {site : Site} {place : FaultContext} {failure : Failure}
    (h : Draft.ofSite options component source root site place = .error failure) :
    failure.IsContained := by
  unfold Draft.ofSite at h
  dsimp only at h
  split at h
  · unfold Draft.convertClass at h
    dsimp only at h
    generalize hmembers : List.foldlM ClassReading.member _ _ = reading at h
    cases reading with
    | error failure' =>
        cases h
        rw [ClassReading.members_eq_error hmembers]
        exact Failure.is_contained_trouble (by decide)
    | ok r =>
        simp only [bind, Except.bind] at h
        split at h
        · cases h
          exact Failure.is_contained_fault (by decide) (by decide)
        · cases h
  · cases h
  · cases h

/-- What happens to a text once it is parsed. -/
theorem Run.exec_transform_text_of_parse {context : RunContext} {component : Component}
    {text : String} {place : FaultContext} {document : Document} {s : RunState}
    (hplace : (Run.place component.id (some "transform") component.filePath none).exec context s =
      (.ok place, s))
    (hparse : (Run.parseAs (Path.ofText component.absolutePath) text).exec context s =
      (.ok document, s)) :
    (Run.transformText component text).exec context s =
      (if document.hasErrors then
        Run.fault (Fault.of .transformation ("Source has syntax errors: " ++
          String.intercalate "; " (document.describeErrors 2)) place)
      else
        match (findDeclaration document.root component.name).or (defaultExport document.root) with
        | none => Run.fault (Fault.of .transformation ("Declaration of " ++ component.name ++
            " not found in " ++ component.filePath) place)
        | some site => Run.transformSite component text document place site).exec context s := by
  rw [Run.transformText, exec_bind_of_ok hplace]
  exact exec_bind_of_ok hparse

/-- What comes of a unit's text depends on nothing that changes during a run.  A transformed unit has
a transformed component, and whatever goes wrong is told as an unsuccessful outcome. -/
theorem Run.exec_transform_text (context : RunContext) (component : Component) (text : String) :
    ∃ result, (∀ s, (Run.transformText component text).exec context s = (result, s)) ∧
      match result with
      | .ok outcome => outcome.transformed.isSome
      | .error failure => failure.IsContained := by
  obtain ⟨place, hplace⟩ : ∃ place, ∀ s, (Run.place component.id (some "transform")
      component.filePath none).exec context s = (.ok place, s) := ⟨_, fun _ => rfl⟩
  cases hlanguage : Language.ofPath? (Path.ofText component.absolutePath) with
  | none =>
      obtain ⟨message, hparse⟩ : ∃ message, ∀ s, (Run.parseAs (Path.ofText component.absolutePath)
          text).exec context s = (.error (.fault (Fault.of .configuration message)), s) := by
        refine ⟨"Unsupported file type: " ++ (Path.ofText component.absolutePath).extension,
          fun s => ?_⟩
        rw [Run.parseAs, hlanguage]
        rfl
      have hcontained : (Failure.fault (Fault.of .configuration message)).IsContained :=
        Failure.is_contained_fault (by decide) (by decide)
      refine ⟨.error _, fun s => ?_, hcontained⟩
      rw [Run.transformText, exec_bind, hplace]
      dsimp only
      rw [exec_bind, hparse]
  | some language =>
      obtain ⟨document, hparse⟩ : ∃ document, ∀ s, (Run.parseAs
          (Path.ofText component.absolutePath) text).exec context s = (.ok document, s) := by
        refine ⟨Document.parse context.grammar language (Path.ofText component.absolutePath).toText
          text, fun s => ?_⟩
        rw [Run.parseAs, hlanguage]
        rfl
      simp only [fun s => Run.exec_transform_text_of_parse (hplace s) (hparse s)]
      split
      · exact ⟨.error _, fun s => rfl, Failure.is_contained_fault (by decide) (by decide)⟩
      · split
        · exact ⟨.error _, fun s => rfl, Failure.is_contained_fault (by decide) (by decide)⟩
        · next site _ =>
            cases hdraft : Draft.ofSite context.settings.transform component text document.root site
                place with
            | error failure =>
                refine ⟨.error failure, fun s => ?_, Draft.is_contained_of_site hdraft⟩
                rw [Run.transformSite, exec_bind, exec_read]
                dsimp only
                rw [hdraft]
                rfl
            | ok draft =>
                refine ⟨.ok (draft.outcome context.grammar context.settings.transform.compatLayer text
                  site), fun s => ?_, rfl⟩
                rw [Run.transformSite, exec_bind, exec_read]
                dsimp only
                rw [hdraft]
                rfl

/-- A successful outcome has a transformed component. -/
def TransformOutcome.IsWhole (outcome : TransformOutcome) : Prop :=
  outcome.success = true → outcome.transformed.isSome

theorem failed_transform_is_whole (component : Component) (message : String) :
    (failedTransform component message).IsWhole :=
  fun hsuccess => nomatch hsuccess

section Attempts

-- Whether a computation meets something is not to be found out by running it.
attribute [local irreducible] Run.Meets

/-- What holds of every outcome that comes of a text which is read, and of every outcome that tells a
failure, holds of what comes of a unit. -/
theorem Run.transform_from_meets_of_texts {context : RunContext} {component : Component}
    {source : Run String} {R : String → Prop} {P : TransformOutcome → Prop}
    (hsource : ∀ s, source.Meets context s (fun text _ => R text) fun _ => True)
    (hfailed : ∀ message, P (failedTransform component message))
    (htext : ∀ text, R text → ∀ s, (Run.transformText component text).Meets context s
      (fun outcome _ => P outcome) fun _ => True) (s : RunState) :
    (Run.transformFrom component source).Meets context s (fun outcome _ => P outcome)
      fun _ => True := by
  have honce : ∀ s, True → (Run.transformOnce component source).Meets context s
      (fun outcome _ => P outcome) fun _ => True ∧ True := by
    intro s _
    refine Run.meets_bind ((hsource s).mono (fun _ _ h => h) fun _ _ => ⟨trivial, trivial⟩)
      fun text t hread => ?_
    exact (htext text hread t).mono (fun _ _ h => h) fun _ _ => ⟨trivial, trivial⟩
  have hlasting : Run.Lasting context fun _ => True :=
    ⟨fun _ _ _ _ => trivial, fun _ _ _ _ _ => trivial⟩
  refine Run.meets_bind Run.meets_trivial fun place t _ =>
    Run.meets_bind Run.meets_trivial fun _ t _ => ?_
  have hrecovered := Run.with_recovery_meets (fun _ => hlasting) honce place
    (fun f _ => failedTransform component f.message) (s := t) trivial
  refine Run.meets_bind (Q := fun outcome _ => ∀ value, outcome = .ok value → P value)
    (Run.meets_attempt (hrecovered.mono ?_ fun _ _ _ _ h => nomatch h)) fun outcome t houtcome => ?_
  · rintro value t (hvalue | ⟨-, ⟨f, r, rfl⟩, -⟩) _ ⟨⟩
    · exact hvalue
    · exact hfailed f.message
  · cases outcome with
    | ok value => exact Run.meets_pure (houtcome value rfl)
    | error failure =>
        cases failure with
        | trouble _ => exact Run.meets_throw trivial
        | fault f =>
            dsimp only
            split
            · exact Run.meets_fault trivial
            · exact Run.meets_pure (hfailed f.message)

/-- What holds of every outcome that comes of a text, and of every outcome that tells a failure, holds
of what comes of a unit. -/
theorem Run.transform_from_meets {context : RunContext} {component : Component}
    {P : TransformOutcome → Prop} (hfailed : ∀ message, P (failedTransform component message))
    (htext : ∀ text s, (Run.transformText component text).Meets context s (fun outcome _ => P outcome)
      fun _ => True) (s : RunState) (source : Run String) :
    (Run.transformFrom component source).Meets context s (fun outcome _ => P outcome)
      fun _ => True :=
  Run.transform_from_meets_of_texts (fun _ => Run.meets_trivial) hfailed (fun text _ => htext text) s

/-- Whatever the text of a unit is, a successful outcome has a transformed component. -/
theorem Run.transform_from_whole (context : RunContext) (s : RunState) (component : Component)
    (source : Run String) :
    (Run.transformFrom component source).Meets context s (fun outcome _ => outcome.IsWhole)
      fun _ => True := by
  refine Run.transform_from_meets (failed_transform_is_whole component) (fun text s => ?_) s source
  obtain ⟨result, hexec, hresult⟩ := Run.exec_transform_text context component text
  rw [Run.Meets, hexec]
  cases result with
  | ok outcome => exact fun _ => hresult
  | error failure => exact trivial

end Attempts

/-- A run with the default retry policy that is not cancelled and has no deadline. -/
structure RunState.IsFree (s : RunState) : Prop where
  strategies : s.log.strategies = builtinStrategies {}
  cancelled : s.token.isCancelled = false
  deadline : s.token.deadline = none

/-- Reading the files of units, seen as the outcomes of successive reads: read number `n` of a unit
comes to `outcomes id n`.  `After reads` holds of the states in which each unit has been read so many
times.  Neither reading nor an observer touches the error log, the delays waited or the token. -/
structure SourceScript (components : List Component) (source : Component → Run String)
    (context : RunContext) (outcomes : String → Nat → Except Trouble String)
    (After : (String → Nat) → RunState → Prop) : Prop where
  call : ∀ c ∈ components, ∀ reads s, After reads s → ∃ t,
    (source c).exec context s = ((outcomes c.id (reads c.id + 1)).mapError Failure.trouble, t) ∧
    After (Function.update reads c.id (reads c.id + 1)) t ∧
    t.log = s.log ∧ t.slept = s.slept ∧ t.token = s.token
  handled : ∀ reads s log slept, After reads s → After reads { s with log := log, slept := slept }
  observed : ∀ observe ∈ context.observers, ∀ reads f s, After reads s →
    After reads (observe f s) ∧ (observe f s).log = s.log ∧ (observe f s).slept = s.slept ∧
    (observe f s).token = s.token

/-- Nothing is checked if a run is not cancelled and has no deadline. -/
theorem Run.exec_checkpoint_of_free {context : RunContext} {s : RunState} (h : s.IsFree)
    (place : FaultContext) : (Run.checkpoint place).exec context s = (.ok (), s) := by
  have hcheck : s.token.check context.clock place = (none, s.token) := by
    unfold Token.check
    rw [h.cancelled, h.deadline]
    rfl
  rw [Run.checkpoint, exec_bind, exec_get]
  dsimp only
  rw [exec_bind, exec_read]
  dsimp only
  rw [hcheck, exec_bind, exec_set]
  rfl

section Script

variable {components : List Component} {source : Component → Run String} {context : RunContext}
  {outcomes : String → Nat → Except Trouble String} {After : (String → Nat) → RunState → Prop}
  {c : Component} {reads : String → Nat} {s : RunState}

/-- What comes of a contained failure or of a value: a value, or a fault that is neither cancellation
nor an exceeded deadline. -/
theorem settle_contained {α : Type} (place : FaultContext) (absorb : Fault → Recovery → α)
    (log : ErrorLog) (i : Nat) {outcome : Except Failure α}
    (h : ∀ failure, outcome = .error failure → failure.IsContained) :
    (∃ a, settle place absorb log i outcome = .ok a) ∨
      ∃ f, settle place absorb log i outcome = .error (.fault f) ∧
        f.cls ≠ .cancelled ∧ f.cls ≠ .phaseTimeout := by
  cases outcome with
  | ok a => exact Or.inl ⟨a, rfl⟩
  | error failure =>
      have hcontained := h failure rfl
      rw [settle, if_neg (by simp [hcontained.is_cancellation])]
      dsimp only
      split
      · exact Or.inl ⟨_, rfl⟩
      · exact Or.inr ⟨_, rfl, hcontained _⟩

/-- An attempt to transform a unit comes to what the text read for it comes to. -/
theorem SourceScript.attempt_script (h : SourceScript components source context outcomes After)
    (hc : c ∈ components) {result : String → Except Failure TransformOutcome}
    (hexec : ∀ text s, (Run.transformText c text).exec context s = (result text, s))
    (reads : String → Nat) (token : Token) :
    OutcomeScript (Run.transformOnce c (source c)) context
      (fun n => match outcomes c.id (reads c.id + n) with
        | .ok text => result text
        | .error t => .error (.trouble t))
      (fun n s => After (Function.update reads c.id (reads c.id + n)) s ∧ s.token = token) := by
  refine ⟨?_, ?_, ?_⟩
  · rintro n s ⟨hs, htoken⟩
    obtain ⟨t, hcall, ht, hlog, hslept, htoken'⟩ := h.call c hc _ s hs
    rw [Function.update_self, Nat.add_assoc] at hcall
    rw [Function.update_self, Function.update_idem, Nat.add_assoc] at ht
    refine ⟨t, ?_, ⟨ht, htoken'.trans htoken⟩, hlog, hslept⟩
    rw [Run.transformOnce, Run.exec_bind, hcall]
    cases outcomes c.id (reads c.id + (n + 1)) with
    | ok text => exact hexec text t
    | error trouble => rfl
  · rintro n s log slept ⟨hs, htoken⟩
    exact ⟨h.handled _ s log slept hs, htoken⟩
  · rintro observe hobserve n f s ⟨hs, htoken⟩
    obtain ⟨hafter, hlog, hslept, htoken'⟩ := h.observed observe hobserve _ f s hs
    exact ⟨⟨hafter, htoken'.trans htoken⟩, hlog, hslept⟩

/-- Whatever is read for a unit, an attempt to transform it fails with a contained failure or with the
trouble of reading. -/
theorem SourceScript.outcome_script (h : SourceScript components source context outcomes After)
    (hc : c ∈ components) (reads : String → Nat) (token : Token) :
    ∃ results, OutcomeScript (Run.transformOnce c (source c)) context results
        (fun n s => After (Function.update reads c.id (reads c.id + n)) s ∧ s.token = token) ∧
      ∀ n failure, results n = .error failure →
        failure.IsContained ∨ ∃ t, outcomes c.id (reads c.id + n) = .error t ∧
          failure = .trouble t := by
  choose result hexec hresult using Run.exec_transform_text context c
  refine ⟨_, h.attempt_script hc hexec reads token, fun n failure hfailure => ?_⟩
  split at hfailure
  · next text _ =>
      have hcontained := hresult text
      rw [hfailure] at hcontained
      exact Or.inl hcontained
  · next t ht =>
      cases hfailure
      exact Or.inr ⟨t, ht, rfl⟩

/-- Under the default retry policy an operation comes to what one of its first outcomes settles. -/
theorem Run.with_recovery_settles {α : Type} {operation : Run α} {results : Nat → Except Failure α}
    {Script : Nat → RunState → Prop} (h : OutcomeScript operation context results Script)
    (place : FaultContext) (hkeys : place.data.keys.Nodup) (absorb : Fault → Recovery → α)
    (hstart : Script 0 s) (hstrategies : s.log.strategies = builtinStrategies {}) :
    ∃ k log t, k ≤ ({} : RetryPolicy).attemptLimit ∧
      (Run.withRecovery operation place absorb).exec context s =
        (settle place absorb log k (results k), t) ∧
      Script k t ∧ t.log.strategies = builtinStrategies {} := by
  obtain ⟨more, result, t, hmore, hexec, hlast, hrun⟩ :=
    Run.with_recovery_run absorb h hkeys (by decide : 1 ≤ 3) (by decide) hstart hstrategies
  refine ⟨more + 1, s.log.recordAll (recordedFaults place results 1 more), t, hmore, ?_, hlast, ?_⟩
  · rw [hexec, hrun.result, Nat.add_comm 1 more]
  · rw [hrun.log, ErrorLog.record_all_strategies, hstrategies]

/-- What is settled for a unit, as the transformation gives it back. -/
def contain (component : Component) : Except Failure TransformOutcome → Except Failure TransformOutcome
  | .error (.fault f) =>
    if f.cls == .cancelled || f.cls == .phaseTimeout then .error (.fault f)
    else .ok (failedTransform component f.message)
  | settled => settled

/-- The transformation of a unit gives back what is settled for it. -/
theorem Run.transform_from_settles {component : Component} {read : Run String}
    {results : Nat → Except Failure TransformOutcome} {Script : Nat → RunState → Prop}
    (h : OutcomeScript (Run.transformOnce component read) context results Script)
    (hstart : Script 0 s) (hfree : s.IsFree) :
    ∃ k log place t, k ≤ ({} : RetryPolicy).attemptLimit ∧ Script k t ∧
      t.log.strategies = builtinStrategies {} ∧
      (Run.transformFrom component read).exec context s =
        (contain component (settle place (fun f _ => failedTransform component f.message) log k
          (results k)), t) := by
  obtain ⟨place, hplace, hkeys⟩ : ∃ place, (∀ s, (Run.place component.id (some "transform")
      component.filePath none).exec context s = (.ok place, s)) ∧ place.data.keys.Nodup :=
    ⟨_, fun _ => rfl, List.nodup_nil⟩
  obtain ⟨k, log, t, hk, hexec, hlast, hstrategies⟩ := Run.with_recovery_settles h place hkeys
    (fun f _ => failedTransform component f.message) hstart hfree.strategies
  refine ⟨k, log, place, t, hk, hlast, hstrategies, ?_⟩
  rw [Run.transformFrom, Run.exec_bind, hplace]
  dsimp only
  rw [Run.exec_bind, Run.exec_checkpoint_of_free hfree]
  dsimp only
  rw [Run.exec_bind, Run.exec_attempt, hexec]
  generalize settle place _ log k (results k) = settled
  cases settled with
  | ok outcome => rfl
  | error failure =>
      cases failure with
      | trouble trouble => rfl
      | fault f =>
          dsimp only [contain]
          split <;> rfl

/-- A unit comes to an outcome after at most as many reads as the retry policy allows, unless a
trouble with reading passes for an exceeded deadline. -/
theorem transform_from_returns (h : SourceScript components source context outcomes After)
    (hc : c ∈ components)
    (herrors : ∀ n t, outcomes c.id n = .error t → t.faultClass ≠ .phaseTimeout)
    (hs : After reads s) (hfree : s.IsFree) :
    ∃ outcome k t, k ≤ ({} : RetryPolicy).attemptLimit ∧
      (Run.transformFrom c (source c)).exec context s = (.ok outcome, t) ∧
      After (Function.update reads c.id (reads c.id + k)) t ∧ t.IsFree := by
  obtain ⟨results, hscript, hresults⟩ := h.outcome_script hc reads s.token
  have hcontained : ∀ n failure, results n = .error failure → failure.IsContained := by
    intro n failure hfailure
    rcases hresults n failure hfailure with hcontained | ⟨t, ht, rfl⟩
    · exact hcontained
    · exact Failure.is_contained_trouble (herrors _ t ht)
  have hstart : After (Function.update reads c.id (reads c.id + 0)) s ∧ s.token = s.token := by
    rw [Nat.add_zero, Function.update_eq_self]
    exact ⟨hs, rfl⟩
  obtain ⟨k, log, place, t, hk, ⟨hafter, htoken⟩, hstrategies, hexec⟩ :=
    Run.transform_from_settles hscript hstart hfree
  have hfree' : t.IsFree := ⟨hstrategies, htoken ▸ hfree.cancelled, htoken ▸ hfree.deadline⟩
  rcases settle_contained place (fun f _ => failedTransform c f.message) log k (hcontained k)
    with ⟨outcome, hsettled⟩ | ⟨f, hsettled, hcancelled, htimeout⟩
  · exact ⟨outcome, k, t, hk, by rw [hexec, hsettled]; rfl, hafter, hfree'⟩
  · refine ⟨failedTransform c f.message, k, t, hk, ?_, hafter, hfree'⟩
    rw [hexec, hsettled, contain, if_neg (by simp [hcancelled, htimeout])]

end Script

section Table

variable {components : List Component} {results : List (TaskResult TransformOutcome)} {k : String}

/-- Every result of a unit has an outcome. -/
theorem TaskResult.transform_outcome_of_mem {r : TaskResult TransformOutcome}
    (h : r.key ∈ components.map Component.id) :
    ∃ outcome, r.transformOutcome components = some outcome := by
  unfold TaskResult.transformOutcome
  split
  · exact ⟨_, rfl⟩
  · obtain ⟨c, hc, hkey⟩ := List.mem_map.mp h
    have hfound : (components.reverse.find? (·.id == r.key)).isSome := by
      rw [List.find?_isSome]
      exact ⟨c, List.mem_reverse.mpr hc, by simpa using hkey⟩
    obtain ⟨found, hfound⟩ := Option.isSome_iff_exists.mp hfound
    rw [hfound]
    exact ⟨_, rfl⟩

/-- A table to which the outcomes of results are added gets the keys of the results. -/
theorem fold_outcomes_has_keys (h : ∀ r ∈ results, r.key ∈ components.map Component.id)
    {table : Assoc TransformOutcome} {keys : List String} (htable : table.HasKeys keys) :
    Assoc.HasKeys (results.foldl (fun table r =>
      match r.transformOutcome components with
      | some outcome => table.set r.key outcome
      | none => table) table) (keys ++ results.map (·.key)) := by
  induction results generalizing table keys with
  | nil => rwa [List.map_nil, List.append_nil]
  | cons r rest ih =>
      obtain ⟨outcome, houtcome⟩ := TaskResult.transform_outcome_of_mem (h r List.mem_cons_self)
      have hnext := ih (fun r hr => h r (List.mem_cons_of_mem _ hr)) (htable.set r.key outcome)
      rw [List.append_assoc] at hnext
      rw [List.foldl_cons, houtcome]
      exact hnext

/-- The table of outcomes has the keys of the results. -/
theorem outcome_table_has_keys (h : ∀ r ∈ results, r.key ∈ components.map Component.id) :
    (outcomeTable components results).HasKeys (results.map (·.key)) :=
  fold_outcomes_has_keys h .nil

end Table

/-- Pairs of an integer and a text can be compared. -/
theorem Json.is_less_pairs (m n : Int) (x y : String) :
    ∃ b, (Json.arr [.int m, .str x]).isLess (.arr [.int n, .str y]) = .ok b := by
  have hints : ∃ b, (Json.int m).precedes "<" (.int n) = .ok b := by
    rw [Json.precedes]
    · exact ⟨_, rfl⟩
    · exact nofun
    · exact nofun
  simp only [Json.isLess, Json.precedes, Json.precedesList]
  split
  · split
    · exact ⟨_, rfl⟩
    · exact ⟨_, rfl⟩
  · exact hints

theorem Component.priority_pairs {components : List Component}
    (h : ∀ c ∈ components, c.complexity.rank?.isSome) :
    ∃ pairs, (components.mapM fun c => do return (← c.priority, c)) = (.ok pairs : Usable _) ∧
      ∀ pair ∈ pairs, ∃ n id, pair.1 = .arr [.int n, .str id] := by
  induction components with
  | nil => exact ⟨[], rfl, List.forall_mem_nil _⟩
  | cons c rest ih =>
      obtain ⟨rank, hrank⟩ := Option.isSome_iff_exists.mp (h c List.mem_cons_self)
      obtain ⟨pairs, hpairs, hforms⟩ := ih fun c' hc' => h c' (List.mem_cons_of_mem _ hc')
      refine ⟨(.arr [.int (-(rank : Int)), .str c.id], c) :: pairs, ?_, ?_⟩
      · rw [List.mapM_cons, hpairs, Component.priority, hrank]
        rfl
      · exact List.forall_mem_cons.mpr ⟨⟨_, _, rfl⟩, hforms⟩

/-- Units of known grades can be arranged. -/
theorem TransformSettings.sorted_of_grades (options : TransformSettings) {components : List Component}
    (h : ∀ c ∈ components, c.complexity.rank?.isSome) :
    ∃ sorted, options.arrangement.sorted components = .ok sorted := by
  cases hoption : options.prioritizeByComplexity with
  | false =>
      refine ⟨components, ?_⟩
      rw [Arrangement.sorted, TransformSettings.arrangement, hoption]
      rfl
  | true =>
      obtain ⟨pairs, hpairs, hforms⟩ := Component.priority_pairs h
      have hkey : options.arrangement.sortKey = some Component.priority := by
        rw [TransformSettings.arrangement, hoption]
        rfl
      refine Arrangement.sorted_of_comparable hkey hpairs fun p hp q hq => ?_
      obtain ⟨m, x, hp⟩ := hforms p hp
      obtain ⟨n, y, hq⟩ := hforms q hq
      dsimp only
      rw [hp, hq]
      exact Json.is_less_pairs m n x y

section Units

variable {components : List Component} {source : Component → Run String} {context : RunContext}
  {outcomes : String → Nat → Except Trouble String} {After : (String → Nat) → RunState → Prop}
  {reads : String → Nat} {s : RunState}

/-- A free run in which every unit has been read at most as often as the retry policy allows for each
of its results. -/
def ReadWithin (After : (String → Nat) → RunState → Prop)
    (worked _told : List (TaskResult TransformOutcome)) (s : RunState) : Prop :=
  s.IsFree ∧ ∃ reads, After reads s ∧
    ∀ id, reads id ≤ ({} : RetryPolicy).attemptLimit * (worked.map (·.key)).count id

theorem ReadWithin.after_unit {worked told : List (TaskResult TransformOutcome)} {id : String}
    {k : Nat} {outcome : Except Fault TransformOutcome}
    (hreads : ∀ id, reads id ≤ ({} : RetryPolicy).attemptLimit * (worked.map (·.key)).count id)
    (hk : k ≤ ({} : RetryPolicy).attemptLimit)
    (hafter : After (Function.update reads id (reads id + k)) s) (hfree : s.IsFree) :
    ReadWithin After (worked ++ [⟨id, outcome⟩]) told s := by
  refine ⟨hfree, _, hafter, fun other => ?_⟩
  have hother := hreads other
  rw [List.map_append, List.count_append, Nat.mul_add, List.map_singleton]
  by_cases hid : other = id
  · subst hid
    rw [Function.update_self, List.count_singleton_self, Nat.mul_one]
    exact Nat.add_le_add hother hk
  · rw [Function.update_of_ne hid]
    exact Nat.le_add_right_of_le hother

/-- Work on units whose reading never passes for an exceeded deadline does not fail. -/
theorem transform_conduct (h : SourceScript components source context outcomes After)
    (htroubles : ∀ c ∈ components, ∀ n t, outcomes c.id n = .error t →
      t.faultClass ≠ .phaseTimeout) :
    BatchJob.Conduct
      { work := fun c => Run.transformFrom c (source c)
        key := Component.id
        checkpoint := Run.checkpoint {}
        onResult := fun _ => return () }
      components context False (ReadWithin After) fun _ => False :=
  { lasting := False.elim
    checkpoint := fun hs => Run.meets_of_exec_ok (Run.exec_checkpoint_of_free hs.1 {}) hs
    work := by
      rintro worked told u c hc ⟨hfree, reads, hu, hreads⟩
      obtain ⟨outcome, k, t, hk, hexec, hafter, hfree'⟩ :=
        transform_from_returns h hc (htroubles c hc) hu hfree
      exact Run.meets_of_exec_ok hexec (ReadWithin.after_unit hreads hk hafter hfree')
    absorbed := fun _ _ _ hmay => hmay.elim
    tell := fun _ _ hs => hs
    failed := fun hmay => hmay.elim }

/-- Whatever the files of units hold, every unit comes to an outcome, and so do all of them together,
with one entry for each and no file read more often than the retry policy allows.  No trouble with
reading may pass for an exceeded deadline. -/
theorem transform_returns_within_attempts {concurrency size : Int}
    (h : SourceScript components source context outcomes After)
    (hids : (components.map Component.id).Nodup)
    (hgrades : ∀ c ∈ components, c.complexity.rank?.isSome)
    (htroubles : ∀ c ∈ components, ∀ n t, outcomes c.id n = .error t →
      t.faultClass ≠ .phaseTimeout)
    (hconcurrency : context.settings.transform.maxConcurrency = .ok (.whole concurrency))
    (hsize : context.settings.transform.batchSize = .ok (.whole size))
    (hs : After (fun _ => 0) s) (hfree : s.IsFree) :
    (∀ c ∈ components, ∃ outcome t,
      (Run.transformFrom c (source c)).exec context s = (.ok outcome, t)) ∧
    ∃ table t reads,
      (Run.transformAll components source fun _ => return ()).exec context s = (.ok table, t) ∧
      After reads t ∧ table.keys.Perm (components.map Component.id) ∧
      ∀ c ∈ components, reads c.id ≤ ({} : RetryPolicy).attemptLimit := by
  constructor
  · intro c hc
    obtain ⟨outcome, k, t, -, hexec, -⟩ := transform_from_returns h hc (htroubles c hc) hs hfree
    exact ⟨outcome, t, hexec⟩
  · obtain ⟨limits, n, hlimits, hn⟩ := BatchLimits.at_least_one_whole
      context.settings.transform.parallel concurrency size
    rw [← hconcurrency, ← hsize] at hlimits
    obtain ⟨sorted, hsorted⟩ := context.settings.transform.sorted_of_grades hgrades
    have hpos : ∀ n, limits.batchSize.int? = some n → 0 < n := fun n hn =>
      BatchLimits.batch_size_pos hlimits hn
    have hmeets := (transform_conduct h htroubles).run hpos context.settings.transform.arrangement
      (Or.inr (by
        split
        · exact Arrangement.batches_of_sorted hsorted hn (hpos n hn)
        · exact ⟨sorted, hsorted⟩))
      (⟨hfree, _, hs, fun _ => Nat.zero_le _⟩ : ReadWithin After [] [] s)
    obtain ⟨results, t, hexec, hkeys, -, reads, hafter, hreads⟩ := hmeets.exists_ok
    have hknown : ∀ r ∈ results, r.key ∈ components.map Component.id := fun r hr =>
      hkeys.mem_iff.mp (List.mem_map_of_mem hr)
    refine ⟨outcomeTable components results, t, reads, ?_, hafter, ?_, fun c hc => ?_⟩
    · rw [Run.transformAll, Run.exec_bind, Run.exec_read]
      dsimp only
      rw [Run.exec_bind, hlimits, Run.exec_use_ok]
      dsimp only
      rw [Run.exec_bind, hexec]
      rfl
    · exact ((outcome_table_has_keys hknown).of_perm hkeys).perm hids
    · have hcount : (results.map (·.key)).count c.id ≤ 1 := by
        rw [hkeys.count_eq]
        exact List.nodup_iff_count.mp hids c.id
      exact Nat.le_trans (hreads c.id) (Nat.mul_le_mul_left _ hcount)

end Units

/-- A unit whose file is not there and whose next nine reads fail for another reason. -/
def flakyUnit : Component :=
  { id := "Card.tsx:Card", name := "Card", filePath := "Card.tsx", absolutePath := "/proj/Card.tsx" }

/-- The disk of this unit after a number of reads. -/
def flakyDisk (reads : Nat) : Disk := { pending := [{ name := "Card.tsx", textReads := 9 - reads }] }

/-- The outcomes of reading the unit. -/
def flakyOutcome (n : Nat) : Except Trouble String :=
  .error (if n ≤ 9 then Disk.transient else Disk.missing (Path.ofText "/proj/Card.tsx"))

theorem flaky_disk_read_text (n : Nat) :
    (flakyDisk n).readText (Path.ofText "/proj/Card.tsx") =
      (flakyOutcome (n + 1), flakyDisk (n + 1)) := by
  by_cases hn : n < 9
  · have hname : (Path.ofText "/proj/Card.tsx").name = "Card.tsx" := by decide
    have hleft : 9 - n > 0 := by omega
    simp only [Disk.readText, hname, flakyDisk, Disk.takeTextFault, beq_self_eq_true, hleft,
      decide_true, Bool.and_self, if_true, flakyOutcome, if_pos (Nat.succ_le_of_lt hn), Nat.sub_sub]
  · have hdone : ∀ k, 9 ≤ k → flakyDisk k = flakyDisk 9 := fun k hk => by
      rw [flakyDisk, Nat.sub_eq_zero_of_le hk]
      rfl
    rw [hdone n (by omega), hdone (n + 1) (by omega), flakyOutcome, if_neg (by omega)]
    rfl

theorem flaky_source_script : SourceScript [flakyUnit] (fun c => Run.unitText c none)
    { grammar := fun _ _ => default } (fun _ => flakyOutcome)
    fun reads s => s.disk = flakyDisk (reads flakyUnit.id) := by
  refine ⟨fun c hc reads s hs => ?_, fun _ _ _ _ hs => hs, nofun⟩
  obtain rfl := List.mem_singleton.mp hc
  refine ⟨{ s with disk := flakyDisk (reads flakyUnit.id + 1) }, ?_, ?_, rfl, rfl, rfl⟩
  · show (Run.onDisk (·.readText (Path.ofText "/proj/Card.tsx"))).exec _ s = _
    rw [Run.onDisk, Run.exec_bind, Run.exec_get]
    dsimp only
    rw [hs, flaky_disk_read_text]
    rfl
  · rw [Function.update_self]

theorem transform_returns_within_attempts_flaky :
    (∃ outcome t, (Run.transformUnit flakyUnit none).exec { grammar := fun _ _ => default }
      { disk := flakyDisk 0 } = (.ok outcome, t)) ∧
    ∃ table t n, (Run.transformBatch [flakyUnit] [] fun _ => return ()).exec
        { grammar := fun _ _ => default } { disk := flakyDisk 0 } = (.ok table, t) ∧
      table.keys = [flakyUnit.id] ∧ t.disk = flakyDisk n ∧ n ≤ 3 := by
  have hclasses : ∀ n t, flakyOutcome n = .error t → t.faultClass ≠ .phaseTimeout := by
    intro n t h
    obtain rfl := Except.error.inj h
    split <;> decide
  obtain ⟨hunits, table, t, reads, hexec, hafter, hkeys, hreads⟩ :=
    transform_returns_within_attempts (s := { disk := flakyDisk 0 }) flaky_source_script
      (List.pairwise_singleton _ _) (by decide) (fun _ _ => hclasses)
      (rfl : Except.ok 4 = Except.ok (Quantity.whole 4))
      (rfl : Except.ok 8 = Except.ok (Quantity.whole 8)) rfl ⟨rfl, rfl, rfl⟩
  exact ⟨hunits flakyUnit List.mem_cons_self, table, t, _, hexec, List.perm_singleton.mp hkeys,
    hafter, hreads flakyUnit List.mem_cons_self⟩

/-- A unit whose path tells of a timeout. -/
def timeoutUnit : Component :=
  { id := "timeout.tsx:Timeout", name := "Timeout", filePath := "timeout.tsx",
    absolutePath := "/proj/timeout.tsx" }

/-- The class of the fault that an outcome is, if it is one. -/
def raisedClass {α : Type} : Except Failure α → Option FaultClass
  | .error (.fault f) => some f.cls
  | _ => none

/-- A missing file whose path tells of a timeout passes for an exceeded deadline: it is told neither
for the unit nor for a batch with it, and the batch reads the file nine times, waiting in between. -/
theorem transform_unit_raises_timeout_path :
    raisedClass ((Run.transformUnit timeoutUnit none).exec { grammar := fun _ _ => default } {}).1 =
      some .phaseTimeout ∧
    raisedClass ((Run.transformBatch [timeoutUnit] [] fun _ => return ()).exec
      { grammar := fun _ _ => default } {}).1 = some .phaseTimeout ∧
    ((Run.transformBatch [timeoutUnit] [] fun _ => return ()).exec
      { grammar := fun _ _ => default } {}).2.slept.length = 8 := by
  decide +kernel

/-- The tree of a function component that returns one element. -/
def cardTree : Node :=
  .mk { kind := "program", text := "export function Card() \x7b return <p/>; \x7d" }
    [.mk { kind := "export_statement", text := "export function Card() \x7b return <p/>; \x7d" }
      [.mk
          { kind := "function_declaration", field := "declaration"
            text := "function Card() \x7b return <p/>; \x7d" }
        [.mk { kind := "identifier", field := "name", text := "Card" } [],
          .mk { kind := "formal_parameters", field := "parameters", text := "()" } [],
          .mk
            { kind := "statement_block", field := "body"
              text := "\x7b return <p/>; \x7d" }
            [.mk { kind := "return_statement", text := "return <p/>;" }
              [.mk { kind := "jsx_self_closing_element", text := "<p/>" } []]]]]]

/-- A project with the file of this component. -/
def cardDisk : Disk :=
  { entries := [(⟨"/", ["proj"]⟩, .directory), (⟨"/", ["proj", "src"]⟩, .directory),
      (⟨"/", ["proj", "src", "Card.tsx"]⟩,
        .file (Text.encodeUtf8 "export function Card() \x7b return <p/>; \x7d"))] }

end ComponentMigration
