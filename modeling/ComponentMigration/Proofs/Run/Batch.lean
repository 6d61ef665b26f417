import ComponentMigration.Proofs.Run.Stays
import ComponentMigration.Proofs.Sorting
import ComponentMigration.Run.Batch

/-!
# Work on many items

However items are arranged, each of them is worked on once.  What holds on the way is told by two
lists of results: those that have come out, and those that have been told.  `Handles` says what each
part of a job does to such an invariant; `Handles.run` says what the whole job leaves: one result for
each item, all of them told.  `Conduct` says it of the work itself, before failures of it are
recovered from.
-/

namespace ComponentMigration

variable {α β : Type}

namespace Arrangement

variable {a : Arrangement α} {items sorted : List α}

theorem map_snd_of_map_m {key : α → Usable Json} {pairs : List (Json × α)}
    (h : (items.mapM fun x => do return (← key x, x)) = (.ok pairs : Usable _)) :
    pairs.map Prod.snd = items := by
  have hstep : ∀ x pair, (do return (← key x, x)) = (.ok pair : Usable _) → pair.2 = x := by
    intro x pair hpair
    obtain ⟨k, -, hk⟩ := bind_eq_ok.mp hpair
    cases hk
    rfl
  rw [map_eq_of_map_m hstep h, List.map_id']

/-- Sorting keeps the items. -/
theorem sorted_perm (h : a.sorted items = .ok sorted) : sorted.Perm items := by
  unfold Arrangement.sorted at h
  split at h
  · cases h
    exact .refl _
  · obtain ⟨pairs, hpairs, h⟩ := bind_eq_ok.mp h
    obtain ⟨ordered, hordered, h⟩ := bind_eq_ok.mp h
    cases h
    rw [← map_snd_of_map_m hpairs]
    exact (Sorting.sort_by_perm hordered).map Prod.snd

/-- Items whose keys can be compared can be sorted. -/
theorem sorted_of_comparable {key : α → Usable Json} (hkey : a.sortKey = some key)
    {pairs : List (Json × α)}
    (hpairs : (items.mapM fun x => do return (← key x, x)) = (.ok pairs : Usable _))
    (h : Sorting.Comparable (fun p q => p.1.isLess q.1) pairs) :
    ∃ sorted, a.sorted items = .ok sorted := by
  obtain ⟨ordered, hordered⟩ := Sorting.sort_by_of_comparable h
  refine ⟨ordered.map Prod.snd, ?_⟩
  unfold Arrangement.sorted
  rw [hkey]
  exact bind_eq_ok.mpr ⟨pairs, hpairs, bind_eq_ok.mpr ⟨ordered, hordered, rfl⟩⟩

/-- Grouping keeps the items. -/
theorem flatten_groups_perm (a : Arrangement α) (sorted : List α) :
    (a.groups sorted).flatten.Perm sorted := by
  unfold groups
  split
  · rw [List.flatten_singleton]
  · rw [flatten_runs_by]
    exact List.mergeSort_perm _ _

/-- Batches of a positive size are the groups, cut into pieces. -/
theorem flatten_batches {size : Quantity} {batches : List (List α)}
    (hsize : ∀ n, size.int? = some n → 0 < n) (h : a.batches size items = .ok batches) :
    ∃ sorted, a.sorted items = .ok sorted ∧ batches.flatten = (a.groups sorted).flatten := by
  obtain ⟨sorted, hsorted, h⟩ := bind_eq_ok.mp h
  refine ⟨sorted, hsorted, ?_⟩
  dsimp only at h
  split at h
  · next hempty =>
      cases h
      rw [List.isEmpty_iff.mp hempty]
  · split at h
    · cases h
    · next n hn =>
        have hpos := hsize n hn
        rw [if_neg (by simpa using (by omega : n ≠ 0)), if_neg (by omega)] at h
        cases h
        have hchunks : ∀ group : List α, (chunks n.toNat group).flatMap id = group := fun group =>
          List.flatten_eq_flatMap.symm.trans (flatten_chunks (by omega) group)
        rw [List.flatten_eq_flatMap, List.flatMap_assoc, List.flatten_eq_flatMap]
        simp only [hchunks]
        rfl

/-- Batches of a positive size keep the items. -/
theorem flatten_batches_perm {size : Quantity} {batches : List (List α)}
    (hsize : ∀ n, size.int? = some n → 0 < n) (h : a.batches size items = .ok batches) :
    batches.flatten.Perm items := by
  obtain ⟨sorted, hsorted, hflatten⟩ := flatten_batches hsize h
  rw [hflatten]
  exact (a.flatten_groups_perm sorted).trans (sorted_perm hsorted)

/-- Batches of a positive size are the groups of the sorted items, each cut into pieces. -/
theorem batches_eq (hsorted : a.sorted items = .ok sorted) {size : Quantity} {n : Nat}
    (hsize : size.int? = some (n : Int)) (hpos : 1 ≤ n) :
    a.batches size items = .ok ((a.groups sorted).flatMap (chunks n)) := by
  unfold Arrangement.batches
  rw [hsorted]
  show (if (a.groups sorted).isEmpty then .ok [] else _) = (.ok _ : Usable _)
  split
  · next hempty =>
      rw [List.isEmpty_iff.mp hempty]
      rfl
  · rw [hsize]
    dsimp only
    rw [if_neg (by simpa using (by omega : n ≠ 0)), if_neg (by omega)]
    rfl

/-- Items that can be sorted can be cut into batches of a positive size. -/
theorem batches_of_sorted (hsorted : a.sorted items = .ok sorted) {size : Quantity} {n : Int}
    (hsize : size.int? = some n) (hpos : 0 < n) :
    ∃ batches, a.batches size items = .ok batches := by
  lift n to Nat using by omega
  exact ⟨_, batches_eq hsorted hsize (by omega)⟩

end Arrangement

/-- Limits that are used allow batches of at least one item. -/
theorem BatchLimits.batch_size_pos {parallel : Bool} {concurrency size : Usable Quantity}
    {limits : BatchLimits} (h : atLeastOne parallel concurrency size = .ok limits) {n : Int}
    (hn : limits.batchSize.int? = some n) : 0 < n := by
  obtain ⟨most, -, h⟩ := bind_eq_ok.mp h
  obtain ⟨size, -, h⟩ := bind_eq_ok.mp h
  cases h
  change (Quantity.greater 1 size).int? = some n at hn
  unfold Quantity.greater at hn
  split at hn
  · next hless =>
      have hcompare : Quantity.compare 1 size = some .lt := by simpa [Quantity.isLess] using hless
      cases size with
      | whole m =>
          cases hn
          have hlt : Ord.compare (1 : Int) n = .lt := by
            simpa [Quantity.compare, Quantity.int?] using hcompare
          rw [Int.compare_eq_lt] at hlt
          omega
      | real x => cases hn
      | truth b =>
          cases b with
          | true =>
              cases hn
              decide
          | false => exact absurd hcompare (by decide)
  · cases hn
    decide

/-- Limits given as integers are integers that are at least one. -/
theorem BatchLimits.at_least_one_whole (parallel : Bool) (concurrency size : Int) :
    ∃ limits n, atLeastOne parallel (.ok (.whole concurrency)) (.ok (.whole size)) = .ok limits ∧
      limits.batchSize.int? = some n := by
  unfold BatchLimits.atLeastOne
  refine ⟨_, if (1 : Quantity).isLess (.whole size) then size else 1, rfl, ?_⟩
  show (Quantity.greater 1 (.whole size)).int? = _
  unfold Quantity.greater
  split <;> rfl

namespace BatchJob

variable {job : BatchJob α β} {items : List α} {context : RunContext} {may : Prop}
  {Inv : List (TaskResult β) → List (TaskResult β) → RunState → Prop} {E : RunState → Prop}
  {worked told done : List (TaskResult β)} {s : RunState}

/-- What the parts of a job on items do to an invariant about the results that have come out and those
that have been told.  Nothing fails unless it `may`; `E` holds of the states in which the job
fails. -/
structure Handles (job : BatchJob α β) (items : List α) (context : RunContext) (may : Prop)
    (Inv : List (TaskResult β) → List (TaskResult β) → RunState → Prop) (E : RunState → Prop) :
    Prop where
  checkpoint : ∀ {worked told s}, Inv worked told s →
    job.checkpoint.Meets context s (fun _ => Inv worked told) fun t => may ∧ Inv worked told t
  execute : ∀ {worked told s}, ∀ item ∈ items, Inv worked told s →
    (job.execute item).Meets context s
      (fun r t => r.key = job.key item ∧ Inv (worked ++ [r]) told t)
      fun t => may ∧ Inv worked told t
  tell : ∀ {worked told s}, ∀ r ∈ worked, Inv worked told s →
    (job.onResult r).Meets context s (fun _ => Inv worked (told ++ [r])) E
  failed : ∀ {worked told s}, may → Inv worked told s → E s

/-- What the parts of a job do to an invariant if the work itself is looked at, without the recovery
from its failures: nothing fails unless it `may`, and if it may the invariant is lasting. -/
structure Conduct (job : BatchJob α β) (items : List α) (context : RunContext) (may : Prop)
    (Inv : List (TaskResult β) → List (TaskResult β) → RunState → Prop) (E : RunState → Prop) :
    Prop where
  lasting : may → ∀ worked told, Run.Lasting context (Inv worked told)
  checkpoint : ∀ {worked told s}, Inv worked told s →
    job.checkpoint.Meets context s (fun _ => Inv worked told) fun t => may ∧ Inv worked told t
  work : ∀ {worked told s}, ∀ item ∈ items, Inv worked told s → (job.work item).Meets context s
    (fun b => Inv (worked ++ [⟨job.key item, .ok b⟩]) told) fun t => may ∧ Inv worked told t
  absorbed : ∀ {worked told s}, ∀ item ∈ items, ∀ f, may → Inv worked told s →
    Inv (worked ++ [⟨job.key item, .error f⟩]) told s
  tell : ∀ {worked told s}, ∀ r ∈ worked, Inv worked told s →
    (job.onResult r).Meets context s (fun _ => Inv worked (told ++ [r])) E
  failed : ∀ {worked told s}, may → Inv worked told s → E s

namespace Conduct

/-- Work on one item comes to a result of it. -/
theorem execute (h : job.Conduct items context may Inv E) {item : α} (hitem : item ∈ items)
    (hs : Inv worked told s) :
    (job.execute item).Meets context s
      (fun r t => r.key = job.key item ∧ Inv (worked ++ [r]) told t)
      fun t => may ∧ Inv worked told t := by
  have hwork : ∀ u, Inv worked told u →
      Run.Meets (do return (⟨job.key item, .ok (← job.work item)⟩ : TaskResult β)) context u
        (fun r t => r.key = job.key item ∧ Inv (worked ++ [r]) told t)
        fun t => may ∧ Inv worked told t := fun u hu =>
    Run.meets_bind (h.work item hitem hu) fun b t ht => ⟨rfl, ht⟩
  have hrecovered := Run.with_recovery_meets (fun hmay => h.lasting hmay worked told) hwork
    { unit := some (job.key item) } (fun f _ => (⟨job.key item, .error f⟩ : TaskResult β)) hs
  refine Run.meets_bind (Q := fun outcome t => match outcome with
      | .ok r => r.key = job.key item ∧ Inv (worked ++ [r]) told t
      | .error _ => may ∧ Inv worked told t)
    (Run.meets_attempt (hrecovered.mono ?_ fun t ht _ => ht)) fun outcome t ht => ?_
  · rintro r t (hr | ⟨hmay, ⟨f, -, rfl⟩, ht⟩)
    · exact hr
    · exact ⟨rfl, h.absorbed item hitem f hmay ht⟩
  · cases outcome with
    | ok r => exact ht
    | error failure =>
        cases failure with
        | trouble _ => exact ht
        | fault f =>
            dsimp only
            split
            · exact ht
            · exact ⟨rfl, h.absorbed item hitem f ht.1 ht.2⟩

theorem handles (h : job.Conduct items context may Inv E) : job.Handles items context may Inv E where
  checkpoint := h.checkpoint
  execute _ hitem hs := h.execute hitem hs
  tell := h.tell
  failed := h.failed

end Conduct

namespace Handles

theorem run_sequential (h : job.Handles items context may Inv E) {list : List α}
    (hlist : ∀ item ∈ list, item ∈ items) (hs : Inv done done s) :
    (job.runSequential list).Meets context s
      (fun results t => results.map (·.key) = list.map job.key ∧
        Inv (done ++ results) (done ++ results) t) E := by
  induction list generalizing done s with
  | nil => exact ⟨rfl, by rwa [List.append_nil]⟩
  | cons item rest ih =>
      have hfailed : ∀ t, may ∧ Inv done done t → E t := fun t ht => h.failed ht.1 ht.2
      refine Run.meets_bind ((h.checkpoint hs).mono (fun _ _ h => h) hfailed) fun _ t ht => ?_
      refine Run.meets_bind
        ((h.execute item (hlist item List.mem_cons_self) ht).mono (fun _ _ h => h) hfailed)
        fun r t ⟨hkey, ht⟩ => ?_
      refine Run.meets_bind (h.tell r (by simp) ht) fun _ t ht => ?_
      have hrest : ∀ item ∈ rest, item ∈ items := fun i hi => hlist i (List.mem_cons_of_mem _ hi)
      refine Run.meets_bind (ih hrest ht) fun later t ⟨hkeys, ht⟩ => ⟨?_, ?_⟩
      · rw [List.map_cons, List.map_cons, hkey, hkeys]
      · rwa [List.append_assoc] at ht

/-- Handing items over keeps the invariant; all of them are handed over unless a checkpoint fails. -/
theorem submit (h : job.Handles items context may Inv E) (list : List α) (hs : Inv worked told s) :
    (job.submit list).Meets context s
      (fun handed t => Inv worked told t ∧ (∀ item ∈ handed.1, item ∈ list) ∧
        (handed = (list, none) ∨ may ∧ handed.2.isSome))
      fun _ => False := by
  induction list generalizing s with
  | nil => exact ⟨hs, nofun, Or.inl rfl⟩
  | cons item rest ih =>
      refine Run.meets_bind (Q := fun outcome t => Inv worked told t ∧ (outcome = .ok () ∨ may))
        (Run.meets_attempt ((h.checkpoint hs).mono (fun _ _ ht => ⟨ht, Or.inl rfl⟩)
          fun _ ht _ => ⟨ht.2, Or.inr ht.1⟩)) fun outcome t ⟨ht, hmay⟩ => ?_
      cases outcome with
      | error failure => exact ⟨ht, nofun, Or.inr ⟨hmay.resolve_left nofun, rfl⟩⟩
      | ok _ =>
          refine Run.meets_bind (ih ht) fun handed t ⟨ht, hmem, hhanded⟩ =>
            ⟨ht, List.forall_mem_cons.mpr ⟨List.mem_cons_self, fun i hi =>
              List.mem_cons_of_mem _ (hmem i hi)⟩, ?_⟩
          rcases hhanded with rfl | hfailed
          · exact Or.inl rfl
          · exact Or.inr hfailed

/-- Work on the items that were handed over comes to a result for each of them, or else some failure
is among the outcomes. -/
theorem execute_all (h : job.Handles items context may Inv E) {list : List α}
    (hlist : ∀ item ∈ list, item ∈ items) (hs : Inv worked told s) :
    (job.executeAll list).Meets context s
      (fun outcomes t =>
        (∃ results, outcomes = results.map .ok ∧ results.map (·.key) = list.map job.key ∧
          Inv (worked ++ results) told t) ∨
        may ∧ (∃ failure, .error failure ∈ outcomes) ∧ ∃ worked', Inv worked' told t)
      fun _ => False := by
  induction list generalizing worked s with
  | nil => exact Or.inl ⟨[], rfl, rfl, by rwa [List.append_nil]⟩
  | cons item rest ih =>
      have hrest : ∀ item ∈ rest, item ∈ items := fun i hi => hlist i (List.mem_cons_of_mem _ hi)
      refine Run.meets_bind (Q := fun outcome t => match outcome with
          | .ok r => r.key = job.key item ∧ Inv (worked ++ [r]) told t
          | .error _ => may ∧ Inv worked told t)
        (Run.meets_attempt ((h.execute item (hlist item List.mem_cons_self) hs).mono (fun _ _ h => h)
          fun _ ht _ => ht)) fun outcome t ht => ?_
      cases outcome with
      | ok r =>
          refine Run.meets_bind (ih hrest ht.2) fun later t hlater => ?_
          rcases hlater with ⟨results, rfl, hkeys, ht'⟩ | ⟨hmay, ⟨failure, hmem⟩, hinv⟩
          · refine Or.inl ⟨r :: results, rfl, ?_, by rwa [List.append_assoc] at ht'⟩
            rw [List.map_cons, List.map_cons, ht.1, hkeys]
          · exact Or.inr ⟨hmay, ⟨failure, List.mem_cons_of_mem _ hmem⟩, hinv⟩
      | error failure =>
          refine Run.meets_bind (ih hrest ht.2) fun later t hlater => ?_
          refine Or.inr ⟨ht.1, ⟨failure, List.mem_cons_self⟩, ?_⟩
          rcases hlater with ⟨results, -, -, ht'⟩ | ⟨-, -, hinv⟩
          · exact ⟨_, ht'⟩
          · exact hinv

theorem tell_all (h : job.Handles items context may Inv E) {results : List (TaskResult β)}
    (hresults : ∀ r ∈ results, r ∈ worked) (hs : Inv worked told s) :
    Run.Meets (results.forM job.onResult) context s (fun _ => Inv worked (told ++ results)) E := by
  induction results generalizing told s with
  | nil => exact (by rwa [List.append_nil] : Inv worked (told ++ []) s)
  | cons r rest ih =>
      refine Run.meets_bind (h.tell r (hresults r List.mem_cons_self) hs) fun _ t ht => ?_
      have hrest := ih (fun r' hr' => hresults r' (List.mem_cons_of_mem _ hr')) ht
      rwa [List.append_assoc] at hrest

end Handles

/-- The results of a batch are collected if nothing failed. -/
theorem exec_collect_ok (results : List (TaskResult β)) :
    (collect (results.map .ok)).exec context s = (.ok results, s) := by
  induction results with
  | nil => rfl
  | cons r rest ih =>
      rw [List.map_cons, collect, Run.exec_bind, ih]
      rfl

/-- A failure among the outcomes of a batch is its failure. -/
theorem exec_collect_error {outcomes : List (Except Failure (TaskResult β))} {failure : Failure}
    (hmem : .error failure ∈ outcomes) (context : RunContext) (s : RunState) :
    ∃ first, (collect outcomes).exec context s = (.error first, s) := by
  induction outcomes with
  | nil => cases hmem
  | cons outcome rest ih =>
      cases outcome with
      | error first => exact ⟨first, rfl⟩
      | ok r =>
          obtain ⟨first, hfirst⟩ := ih ((List.mem_cons.mp hmem).resolve_left nofun)
          refine ⟨first, ?_⟩
          rw [collect, Run.exec_bind, hfirst]

namespace Handles

theorem run_batch (h : job.Handles items context may Inv E) {batch : List α}
    (hbatch : ∀ item ∈ batch, item ∈ items) (hs : Inv done done s) :
    (job.runBatch batch).Meets context s
      (fun results t => results.map (·.key) = batch.map job.key ∧
        Inv (done ++ results) (done ++ results) t) E := by
  refine Run.meets_bind ((h.checkpoint hs).mono (fun _ _ h => h) fun t ht => h.failed ht.1 ht.2)
    fun _ t ht => ?_
  refine Run.meets_bind ((h.submit batch ht).mono (fun _ _ h => h) fun _ => False.elim)
    fun handed t ⟨ht, hmem, hhanded⟩ => ?_
  obtain ⟨submitted, failure⟩ := handed
  have hsubmitted : ∀ item ∈ submitted, item ∈ items := fun i hi => hbatch i (hmem i hi)
  refine Run.meets_bind ((h.execute_all hsubmitted ht).mono (fun _ _ h => h) fun _ => False.elim)
    fun outcomes t houtcomes => ?_
  rcases hhanded with hall | ⟨hmay, hfailure⟩
  -- Everything was handed over: the outcomes decide.
  · cases hall
    dsimp only
    rcases houtcomes with ⟨results, rfl, hkeys, ht⟩ | ⟨hmay, ⟨failure, hmem⟩, worked', ht⟩
    · refine Run.meets_bind (Run.meets_of_exec_ok (exec_collect_ok results)
        (Q := fun rs u => rs = results ∧ u = t) ⟨rfl, rfl⟩) fun _ _ ⟨hrs, hu⟩ => ?_
      subst hrs hu
      exact Run.meets_bind (h.tell_all (fun r hr => List.mem_append_right _ hr) ht)
        fun _ t ht => ⟨hkeys, ht⟩
    · obtain ⟨first, hfirst⟩ := exec_collect_error hmem context t
      rw [Run.Meets, Run.exec_bind, hfirst]
      exact h.failed hmay ht
  -- A checkpoint failed: so does the batch, after the items before it.
  · obtain ⟨failure, rfl⟩ := Option.isSome_iff_exists.mp hfailure
    show E t
    rcases houtcomes with ⟨results, -, -, ht⟩ | ⟨-, -, worked', ht⟩
    · exact h.failed hmay ht
    · exact h.failed hmay ht

theorem run_batches (h : job.Handles items context may Inv E) {batches : List (List α)}
    (hbatches : ∀ item ∈ batches.flatten, item ∈ items) (hs : Inv done done s) :
    (job.runBatches batches).Meets context s
      (fun results t => results.map (·.key) = batches.flatten.map job.key ∧
        Inv (done ++ results) (done ++ results) t) E := by
  induction batches generalizing done s with
  | nil => exact ⟨rfl, by rwa [List.append_nil]⟩
  | cons batch rest ih =>
      rw [List.flatten_cons, List.forall_mem_append] at hbatches
      refine Run.meets_bind (h.run_batch hbatches.1 hs) fun results t ⟨hkeys, ht⟩ => ?_
      refine Run.meets_bind (ih hbatches.2 ht) fun later t ⟨hlater, ht⟩ => ⟨?_, ?_⟩
      · rw [List.map_append, List.flatten_cons, List.map_append, hkeys, hlater]
      · rwa [List.append_assoc] at ht

/-- A job comes to one result for each item, all of them told; unless it `may`, it does not fail on
items that can be arranged. -/
theorem run (h : job.Handles items context may Inv E) {limits : BatchLimits}
    (hlimits : ∀ n, limits.batchSize.int? = some n → 0 < n) (arrangement : Arrangement α)
    (harranged : may ∨ if limits.parallel
      then ∃ batches, arrangement.batches limits.batchSize items = .ok batches
      else ∃ sorted, arrangement.sorted items = .ok sorted) (hs : Inv [] [] s) :
    (job.run limits arrangement items).Meets context s
      (fun results t => (results.map (·.key)).Perm (items.map job.key) ∧ Inv results results t)
      E := by
  unfold BatchJob.run
  cases hparallel : limits.parallel with
  | true =>
      simp only [hparallel, if_true] at harranged ⊢
      cases hbatches : arrangement.batches limits.batchSize items with
      | error t => exact h.failed (harranged.resolve_right (by simp [hbatches])) hs
      | ok batches =>
          have hperm := Arrangement.flatten_batches_perm hlimits hbatches
          refine Run.Meets.mono (h.run_batches (fun i hi => hperm.mem_iff.mp hi) hs) ?_ fun _ h => h
          rintro results t ⟨hkeys, ht⟩
          rw [hkeys]
          exact ⟨hperm.map _, ht⟩
  | false =>
      simp only [hparallel, Bool.false_eq_true, if_false] at harranged ⊢
      cases hsorted : arrangement.sorted items with
      | error t => exact h.failed (harranged.resolve_right (by simp [hsorted])) hs
      | ok sorted =>
          have hperm := Arrangement.sorted_perm hsorted
          refine Run.Meets.mono (h.run_sequential (fun i hi => hperm.mem_iff.mp hi) hs) ?_
            fun _ h => h
          rintro results t ⟨hkeys, ht⟩
          rw [hkeys]
          exact ⟨hperm.map _, ht⟩

end Handles

theorem Conduct.run (h : job.Conduct items context may Inv E) {limits : BatchLimits}
    (hlimits : ∀ n, limits.batchSize.int? = some n → 0 < n) (arrangement : Arrangement α)
    (harranged : may ∨ if limits.parallel
      then ∃ batches, arrangement.batches limits.batchSize items = .ok batches
      else ∃ sorted, arrangement.sorted items = .ok sorted) (hs : Inv [] [] s) :
    (job.run limits arrangement items).Meets context s
      (fun results t => (results.map (·.key)).Perm (items.map job.key) ∧ Inv results results t)
      E :=
  h.handles.run hlimits arrangement harranged hs

/-- Work on items stays within a relation if its parts do, one after the other or in batches. -/
theorem stays_run {R : RunState → RunState → Prop} [RunState.IsLax R]
    (hwork : ∀ item, (job.work item).Stays R) (hcheckpoint : job.checkpoint.Stays R)
    (htell : ∀ r, (job.onResult r).Stays R) {limits : BatchLimits}
    (hlimits : ∀ n, limits.batchSize.int? = some n → 0 < n) (arrangement : Arrangement α)
    (items : List α) : (job.run limits arrangement items).Stays R := by
  refine ⟨fun context s hobservers => ?_⟩
  have hpart : ∀ {γ : Type} {x : Run γ} {t : RunState}, x.Stays R → R s t →
      x.Meets context t (fun _ => R s) fun u => True ∧ R s u := fun hx ht =>
    (hx.meets hobservers ht).mono (fun _ _ h => h) fun _ h => ⟨trivial, h⟩
  have hconduct : job.Conduct items context True (fun _ _ => R s) (R s) :=
    { lasting := fun _ _ _ => Run.Lasting.of_is_lax hobservers s
      checkpoint := fun ht => hpart hcheckpoint ht
      work := fun item _ ht => hpart (hwork item) ht
      absorbed := fun _ _ _ _ ht => ht
      tell := fun r _ ht => (hpart (htell r) ht).mono (fun _ _ h => h) fun _ h => h.2
      failed := fun _ ht => ht }
  have hmeets := hconduct.run hlimits arrangement (Or.inl trivial) (refl_of R s)
  exact Run.meets_iff_state.mp (hmeets.mono (fun _ _ h => h.2) fun _ h => h)

end BatchJob

end ComponentMigration
