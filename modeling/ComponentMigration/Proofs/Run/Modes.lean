import ComponentMigration.Proofs.Run.Batch
import ComponentMigration.Proofs.Run.Determined

/-!
# One after the other or in batches

Work on items whose outcomes depend on the items alone comes to the same results one after the other
and in batches, and every result is told once (`run_modes_agree`).  Results are the same but for the
numbers under which faults are on record, since these tell in which order faults came up.
-/

namespace ComponentMigration

variable {α β : Type}

/-- A result without the number under which its fault is on record. -/
def TaskResult.plain (r : TaskResult β) : TaskResult β :=
  { r with outcome := r.outcome.mapError Fault.plain }

namespace BatchJob

/-- Work on items whose outcomes depend on the items alone and do not end the run, under given
strategies.  `Told` says which results have been told; checkpoints and work leave it alone. -/
structure Steady (job : BatchJob α β) (items : List α) (context : RunContext)
    (strategies : List Strategy) (outcome : α → Except Failure β)
    (Told : List (TaskResult β) → RunState → Prop) : Prop where
  known : Run.Known context strategies Told
  checkpoint : job.checkpoint.Gives context Told (· = .ok ())
  work : ∀ item ∈ items, (job.work item).Gives context Told fun result =>
    result.mapError Failure.plain = (outcome item).mapError Failure.plain
  ordinary : ∀ item ∈ items, ∀ failure, outcome item = .error failure → failure.IsOrdinary
  tell : ∀ r told s, Told told s →
    (job.onResult r).Meets context s (fun _ => Told (told ++ [r])) fun _ => False

namespace Steady

variable {job : BatchJob α β} {items list : List α} {item : α} {context : RunContext}
  {strategies : List Strategy} {outcome : α → Except Failure β}
  {Told : List (TaskResult β) → RunState → Prop} {expected : α → TaskResult β}
  {results : List (TaskResult β)}

/-- An item always comes to the same result. -/
theorem execute_gives (h : job.Steady items context strategies outcome Told)
    (hreliable : Reliable strategies) (hitem : item ∈ items) :
    ∃ result, result.key = job.key item ∧
      (job.execute item).Gives context Told fun o => ∃ r, o = .ok r ∧ r.plain = result := by
  have hwork := h.work item hitem
  cases houtcome : outcome item with
  | ok b =>
      have hvalue : (job.work item).Gives context Told (· = .ok b) := by
        refine hwork.mono fun result hresult => ?_
        rw [houtcome] at hresult
        cases result with
        | ok a => cases hresult; rfl
        | error failure => cases hresult
      have hresult : Run.Gives (do return (⟨job.key item, .ok (← job.work item)⟩ : TaskResult β))
          context Told (· = .ok ⟨job.key item, .ok b⟩) :=
        Run.gives_bind_value hvalue (Run.gives_pure _)
      refine ⟨⟨job.key item, .ok b⟩, rfl, ?_⟩
      unfold execute
      refine Run.gives_bind (Run.gives_attempt (Run.with_recovery_gives_value hresult _ _)) ?_
      rintro _ rfl
      exact (Run.gives_pure _).mono fun _ ho => ⟨_, ho, rfl⟩
  | error e =>
      have hordinary : e.IsOrdinary := h.ordinary item hitem e houtcome
      have hfailed : (job.work item).Gives context Told fun result =>
          ∃ failure, result = .error failure ∧ failure.plain = e.plain := by
        refine hwork.mono fun result hresult => ?_
        rw [houtcome] at hresult
        cases result with
        | ok a => cases hresult
        | error failure => exact ⟨failure, rfl, Except.error.inj hresult⟩
      have hresult : Run.Gives (do return (⟨job.key item, .ok (← job.work item)⟩ : TaskResult β))
          context Told fun result => ∃ failure, result = .error failure ∧ failure.plain = e.plain :=
        Run.gives_bind_failed hfailed
      have hplace : ({ unit := some (job.key item) } : FaultContext).data.keys.Nodup :=
        List.nodup_nil
      obtain ⟨g, hcls, hend⟩ := h.known.with_recovery_settled hreliable hplace
        (Failure.is_cancellation_plain.trans hordinary.is_cancellation) hresult
        fun f _ => ⟨job.key item, .error f⟩
      rw [Failure.cls_classify_plain] at hcls
      refine ⟨⟨job.key item, .error g⟩, rfl, ?_⟩
      unfold execute
      -- The fault is the failure of all attempts, or the strategies absorb it.
      rcases hend with hend | ⟨r, hend⟩
      · refine Run.gives_bind (Run.gives_attempt hend) ?_
        rintro _ ⟨_, rfl, f, rfl, rfl⟩
        have hcancelled : f.cls ≠ .cancelled := fun heq => hordinary.1 (hcls.symm.trans heq)
        have htimeout : f.cls ≠ .phaseTimeout := fun heq => hordinary.2 (hcls.symm.trans heq)
        dsimp only
        rw [if_neg (by simp [hcancelled, htimeout])]
        exact (Run.gives_pure _).mono fun _ ho => ⟨_, ho, rfl⟩
      · refine Run.gives_bind (Run.gives_attempt hend) ?_
        rintro _ ⟨_, rfl, f, rfl, rfl⟩
        exact (Run.gives_pure _).mono fun _ ho => ⟨_, ho, rfl⟩

/-- The results that the items always come to. -/
theorem exists_expected (h : job.Steady items context strategies outcome Told)
    (hreliable : Reliable strategies) : ∃ expected : α → TaskResult β, ∀ item ∈ items,
      (expected item).key = job.key item ∧
        (job.execute item).Gives context Told fun o => ∃ r, o = .ok r ∧ r.plain = expected item := by
  have hall : ∀ item, ∃ result, item ∈ items → result.key = job.key item ∧
      (job.execute item).Gives context Told fun o => ∃ r, o = .ok r ∧ r.plain = result := by
    intro item
    by_cases hitem : item ∈ items
    · obtain ⟨result, hresult⟩ := h.execute_gives hreliable hitem
      exact ⟨result, fun _ => hresult⟩
    · exact ⟨⟨"", .error (.of .general "")⟩, fun hmem => absurd hmem hitem⟩
  choose expected hexpected using hall
  exact ⟨expected, hexpected⟩

/-- The parts of such work keep what has been told, and results are those expected. -/
theorem handles (h : job.Steady items context strategies outcome Told)
    (hexpected : ∀ item ∈ items, (expected item).key = job.key item ∧
      (job.execute item).Gives context Told fun o => ∃ r, o = .ok r ∧ r.plain = expected item) :
    job.Handles items context False
      (fun worked told s => Told told s ∧ ∀ r ∈ worked, r.plain ∈ items.map expected)
      fun _ => False where
  checkpoint {worked told s} hs := by
    obtain ⟨hok, ht⟩ := h.checkpoint told s hs.1
    exact Run.meets_of_exec_ok (Prod.ext hok rfl) ⟨ht, hs.2⟩
  execute {worked told s} item hitem hs := by
    obtain ⟨hkey, hgives⟩ := hexpected item hitem
    obtain ⟨⟨r, hok, hr⟩, ht⟩ := hgives told s hs.1
    refine Run.meets_of_exec_ok (Prod.ext hok rfl) ⟨?_, ht, ?_⟩
    · exact (congrArg TaskResult.key hr).trans hkey
    · exact List.forall_mem_append.mpr ⟨hs.2, List.forall_mem_singleton.mpr
        (hr ▸ List.mem_map_of_mem hitem)⟩
  tell {worked told s} r _ hs :=
    (h.tell r told s hs.1).mono (fun _ _ ht => ⟨ht, hs.2⟩) fun _ hfalse => hfalse
  failed hfalse := hfalse.elim

/-- Results with distinct keys are told apart by them. -/
theorem map_plain_of_keys (hkeys : (items.map job.key).Nodup)
    (hkey : ∀ item ∈ items, (expected item).key = job.key item)
    (hlist : ∀ item ∈ list, item ∈ items)
    (hresults : ∀ r ∈ results, r.plain ∈ items.map expected)
    (heq : results.map (·.key) = list.map job.key) :
    results.map TaskResult.plain = list.map expected := by
  induction list generalizing results with
  | nil =>
      rw [List.map_eq_nil_iff.mp heq]
      rfl
  | cons item rest ih =>
      obtain ⟨r, later, rfl, hr, hlater⟩ := List.map_eq_cons_iff.mp heq
      rw [List.forall_mem_cons] at hlist hresults
      obtain ⟨item', hitem', hplain⟩ := List.mem_map.mp hresults.1
      have hsame : item' = item := by
        refine List.inj_on_of_nodup_map hkeys hitem' hlist.1 ?_
        rw [← hkey item' hitem', hplain]
        exact hr
      rw [List.map_cons, List.map_cons, ih hlist.2 hresults.2 hlater, ← hplain, hsame]

section Expected

variable (h : job.Steady items context strategies outcome Told)
  (hexpected : ∀ item ∈ items, (expected item).key = job.key item ∧
    (job.execute item).Gives context Told fun o => ∃ r, o = .ok r ∧ r.plain = expected item)
  (hkeys : (items.map job.key).Nodup)
include h hexpected hkeys

/-- Some of the items, one after the other: each comes to the result expected of it and is told. -/
theorem run_sequential_expected (hlist : ∀ item ∈ list, item ∈ items) {s : RunState}
    (hs : Told [] s) : ∃ results t, (job.runSequential list).exec context s = (.ok results, t) ∧
      Told results t ∧ results.map (·.key) = list.map job.key ∧
      results.map TaskResult.plain = list.map expected := by
  have hnone : ∀ r ∈ ([] : List (TaskResult β)), r.plain ∈ items.map expected :=
    fun _ hr => absurd hr List.not_mem_nil
  obtain ⟨results, t, hexec, hresults, htold, hplain⟩ :=
    ((h.handles hexpected).run_sequential hlist ⟨hs, hnone⟩).exists_ok
  exact ⟨results, t, hexec, htold, hresults,
    map_plain_of_keys hkeys (fun item hitem => (hexpected item hitem).1) hlist hplain hresults⟩

/-- Some of the items, in batches. -/
theorem run_batches_expected {batches : List (List α)}
    (hbatches : ∀ item ∈ batches.flatten, item ∈ items) {s : RunState} (hs : Told [] s) :
    ∃ results t, (job.runBatches batches).exec context s = (.ok results, t) ∧
      Told results t ∧ results.map (·.key) = batches.flatten.map job.key ∧
      results.map TaskResult.plain = batches.flatten.map expected := by
  have hnone : ∀ r ∈ ([] : List (TaskResult β)), r.plain ∈ items.map expected :=
    fun _ hr => absurd hr List.not_mem_nil
  obtain ⟨results, t, hexec, hresults, htold, hplain⟩ :=
    ((h.handles hexpected).run_batches hbatches ⟨hs, hnone⟩).exists_ok
  exact ⟨results, t, hexec, htold, hresults,
    map_plain_of_keys hkeys (fun item hitem => (hexpected item hitem).1) hbatches hplain hresults⟩

end Expected

end Steady

section Limits

variable {job : BatchJob α β} {limits : BatchLimits} {arrangement : Arrangement α} {items : List α}

theorem run_of_sequential (h : limits.parallel = false) : job.run limits arrangement items =
    Run.use (arrangement.sorted items) >>= job.runSequential := by
  simp only [BatchJob.run, h, Bool.false_eq_true, if_false]

theorem run_of_parallel (h : limits.parallel = true) : job.run limits arrangement items =
    Run.use (arrangement.batches limits.batchSize items) >>= job.runBatches := by
  simp only [BatchJob.run, h, if_true]

end Limits

/-- Work on items whose outcomes depend on the items alone, with distinct keys, comes to the same one
after the other and in batches, from whatever states: if the items cannot be sorted, both fail with
the trouble of that and tell nothing.  Otherwise there is a result for each item, each of them is
told once and in order, and results of one key are the same in both.  One after the other, results
come in the order of the sorted items, and in batches likewise unless items are grouped. -/
theorem run_modes_agree {job : BatchJob α β} {items : List α} {context : RunContext}
    {strategies : List Strategy} {outcome : α → Except Failure β}
    {Told : List (TaskResult β) → RunState → Prop}
    (h : job.Steady items context strategies outcome Told) (hreliable : Reliable strategies)
    (hkeys : (items.map job.key).Nodup) (concurrency size : Int) {sequential parallel : BatchLimits}
    (hsequential : BatchLimits.atLeastOne false (.ok (.whole concurrency)) (.ok (.whole size)) =
      .ok sequential)
    (hparallel : BatchLimits.atLeastOne true (.ok (.whole concurrency)) (.ok (.whole size)) =
      .ok parallel)
    (arrangement : Arrangement α) {s s' : RunState} (hs : Told [] s) (hs' : Told [] s') :
    (∀ trouble, arrangement.sorted items = .error trouble →
      (job.run sequential arrangement items).exec context s = (.error (.trouble trouble), s) ∧
        (job.run parallel arrangement items).exec context s' = (.error (.trouble trouble), s')) ∧
    ∀ sorted, arrangement.sorted items = .ok sorted → ∃ one many t t',
      (job.run sequential arrangement items).exec context s = (.ok one, t) ∧
        (job.run parallel arrangement items).exec context s' = (.ok many, t') ∧
        Told one t ∧ Told many t' ∧
        one.map (·.key) = sorted.map job.key ∧ (one.map (·.key)).Perm (items.map job.key) ∧
        (many.map (·.plain)).Perm (one.map (·.plain)) ∧
        (arrangement.groupKey = none → many.map (·.plain) = one.map (·.plain)) ∧
        ∀ r ∈ one, ∀ r' ∈ many, r.key = r'.key → r.plain = r'.plain := by
  have hsize := fun n => BatchLimits.batch_size_pos (n := n) hparallel
  obtain ⟨_, n, hlimits, hn⟩ := BatchLimits.at_least_one_whole true concurrency size
  cases hsequential
  cases hparallel
  cases hlimits
  constructor
  · intro trouble hsorted
    have hbatches : ∀ limit, arrangement.batches limit items = .error trouble := by
      intro limit
      rw [Arrangement.batches, hsorted]
      rfl
    rw [run_of_sequential rfl, run_of_parallel rfl, hsorted, hbatches]
    exact ⟨rfl, rfl⟩
  · intro sorted hsorted
    obtain ⟨expected, hexpected⟩ := h.exists_expected hreliable
    have hperm : sorted.Perm items := Arrangement.sorted_perm hsorted
    obtain ⟨batches, hbatches⟩ := Arrangement.batches_of_sorted hsorted hn (hsize n hn)
    obtain ⟨_, hsorted', hflatten⟩ := Arrangement.flatten_batches hsize hbatches
    cases hsorted.symm.trans hsorted'
    have hflat : batches.flatten.Perm sorted := hflatten ▸ arrangement.flatten_groups_perm sorted
    -- Sorted items and batches are the items in some order, each with the result expected of it.
    have hlist : ∀ item ∈ sorted, item ∈ items := fun _ hitem => hperm.mem_iff.mp hitem
    have hflist : ∀ item ∈ batches.flatten, item ∈ items := fun item hitem =>
      hlist item (hflat.mem_iff.mp hitem)
    obtain ⟨one, t, hexec, htold, hones, hone⟩ :=
      h.run_sequential_expected hexpected hkeys hlist hs
    obtain ⟨many, t', hexec', htold', -, hmany⟩ :=
      h.run_batches_expected hexpected hkeys hflist hs'
    have hsame : (many.map (·.plain)).Perm (one.map (·.plain)) := by
      rw [hmany, hone]
      exact hflat.map expected
    have hones' : (one.map (·.key)).Perm (items.map job.key) := hones ▸ hperm.map job.key
    refine ⟨one, many, t, t', ?_, ?_, htold, htold', hones, hones', hsame, ?_, ?_⟩
    · rw [run_of_sequential rfl, hsorted, Run.exec_bind, Run.exec_use_ok]
      exact hexec
    · rw [run_of_parallel rfl, hbatches, Run.exec_bind, Run.exec_use_ok]
      exact hexec'
    · intro hgroup
      have hgroups : arrangement.groups sorted = [sorted] := by
        rw [Arrangement.groups, hgroup]
      rw [hmany, hone, hflatten, hgroups, List.flatten_singleton]
    · intro r hr r' hr' heq
      obtain ⟨r'', hr'', hplain⟩ := List.mem_map.mp (hsame.subset (List.mem_map_of_mem hr'))
      have hkey' : r''.plain.key = r'.plain.key := by rw [hplain]
      obtain rfl : r = r'' := List.inj_on_of_nodup_map (hones'.nodup_iff.mpr hkeys) hr hr''
        (heq.trans hkey'.symm)
      exact hplain

/-- Outcomes of three units: a value, a fault that is absorbed, and a trouble with a file that is
tried again until the attempts are used up. -/
def threeOutcomes : String → Except Failure Nat
  | "a" => .ok 1
  | "b" => .error (.fault (.of .parsing "garbled"))
  | _ => .error (.trouble ⟨.fileMissing, "gone", none⟩)

/-- Work with these outcomes, of which every result is announced. -/
def threeUnits : BatchJob String Nat :=
  { work := fun unit => match threeOutcomes unit with
      | .ok n => return n
      | .error failure => throw failure
    key := id
    checkpoint := return ()
    onResult := fun r => modify fun s => { s with board := { s.board with
      announcements := s.board.announcements ++ [⟨.unit r.key .parsing, {}⟩] } } }

/-- The results that have been told are as many as the announcements. -/
def ThreeTold (told : List (TaskResult Nat)) (s : RunState) : Prop :=
  s.log.strategies = builtinStrategies (.ofNumbers 3 1.0 10.0) ∧
    s.board.announcements.length = told.length

theorem three_units_steady : threeUnits.Steady ["c", "a", "b"] { grammar := fun _ _ => default }
    (builtinStrategies (.ofNumbers 3 1.0 10.0)) threeOutcomes ThreeTold where
  known :=
    { lasting := fun told =>
        { alike := fun s t halike hs =>
            ⟨halike.strategies.trans hs.1, halike.board ▸ hs.2⟩
          observed := nofun }
      strategies := fun told s hs => hs.1 }
  checkpoint := Run.gives_pure ()
  work unit _ told s hs := by
    unfold threeUnits
    dsimp only
    cases houtcome : threeOutcomes unit <;> exact ⟨rfl, hs⟩
  ordinary unit hunit failure hfailure := by
    have hfile : Failure.IsOrdinary (.trouble ⟨.fileMissing, "gone", none⟩) :=
      ⟨by decide, by decide⟩
    have hparsing : Failure.IsOrdinary (.fault (.of .parsing "garbled")) :=
      ⟨by decide, by decide⟩
    simp only [List.mem_cons, List.not_mem_nil, or_false] at hunit
    rcases hunit with rfl | rfl | rfl
    · cases hfailure
      exact hfile
    · cases hfailure
    · cases hfailure
      exact hparsing
  tell r told s hs := by
    refine Run.meets_of_exec_ok rfl ⟨hs.1, ?_⟩
    simp [hs.2]

/-- A state under the built-in strategies, in which nothing has been told. -/
def threeStart : RunState := { log := { strategies := builtinStrategies (.ofNumbers 3 1.0 10.0) } }

theorem run_modes_agree_three_units :
    ∃ one many t t',
      (threeUnits.run ⟨false, .whole 4, .whole 2⟩ { groupKey := some fun unit => unit ++ unit }
        ["c", "a", "b"]).exec { grammar := fun _ _ => default } threeStart = (.ok one, t) ∧
      (threeUnits.run ⟨true, .whole 4, .whole 2⟩ { groupKey := some fun unit => unit ++ unit }
        ["c", "a", "b"]).exec { grammar := fun _ _ => default } threeStart = (.ok many, t') ∧
      one.map (·.key) = ["c", "a", "b"] ∧ (many.map (·.plain)).Perm (one.map (·.plain)) ∧
      t.board.announcements.length = 3 ∧ t'.board.announcements.length = 3 := by
  have hstart : ThreeTold [] threeStart := ⟨rfl, rfl⟩
  obtain ⟨-, hrun⟩ := run_modes_agree three_units_steady (reliable_builtin (by decide) 1.0 10.0)
    (by decide) 4 2 rfl rfl
    { groupKey := some fun unit => unit ++ unit } hstart hstart
  obtain ⟨one, many, t, t', hone, hmany, htold, htold', hkeys, -, hsame, -⟩ := hrun _ rfl
  have hlength : many.length = one.length := by simpa using hsame.length_eq
  have hthree : one.length = 3 := by simpa using congrArg List.length hkeys
  refine ⟨one, many, t, t', hone, hmany, hkeys, hsame, htold.2.trans hthree, ?_⟩
  exact htold'.2.trans (hlength.trans hthree)

end BatchJob

end ComponentMigration
