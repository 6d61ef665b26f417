import ComponentMigration.Proofs.Command.DryRun
import ComponentMigration.Proofs.Command.Migrate
import ComponentMigration.Proofs.Manifest.Status

/-!
# What a migration notes of its targets

A migration works on its targets one after the other: it skips what was migrated before unless it is
forced, notes what it has migrated, and notes the fault of what it could not migrate (`Works`).
What the manifest says of a target in the end is what was noted of it, since no target comes twice;
of all other units it says what it said before.  `run_notes_targets` puts this together with the
exit code.
-/

namespace ComponentMigration

/-- How a target of a migration ends: skipped since it was migrated before, migrated with a number
of files, or with a fault. -/
inductive TargetEnd where
  | skipped
  | migrated (files : Nat)
  | failed (f : Fault)

namespace TargetEnd

/-- The exit code by the end of a target. -/
def exitCode : TargetEnd → Nat
  | skipped => 0
  | migrated _ => 0
  | failed f => f.exitCode

/-- The end of a target that was worked on; there is none if a failure stops the command. -/
def ofOutcome? : Except Failure Nat → Option TargetEnd
  | .ok files => some (migrated files)
  | .error (.fault f) => some (failed f)
  | .error (.trouble _) => none

end TargetEnd

theorem Fault.exit_code_ne_zero (f : Fault) : f.exitCode ≠ 0 := by
  unfold Fault.exitCode
  split <;> decide

namespace Manifest

/-- The manifest in which the end of a target is noted. -/
def note (now : Instant) (m : Manifest) (target : String × TargetEnd) : Manifest :=
  match target.2 with
  | .skipped => m
  | .migrated _ => m.addSuccess (.str target.1)
  | .failed f => m.addFailure (.str target.1) (.str f.message) now

/-- What a manifest says of a target that has come to its end: it is failed, once, with the message
of its fault, or else successful, but never both. -/
def Tells (now : Instant) (m : Manifest) (target : String × TargetEnd) : Prop :=
  match target.2 with
  | .failed f =>
    m.isSuccessful (.str target.1) = false ∧
      m.failures (.str target.1) = [⟨.str target.1, .str f.message, .str now.text⟩]
  | _ => m.isSuccessful (.str target.1) = true ∧ m.failures (.str target.1) = []

section Noting

variable {m m' : Manifest} {now : Instant} {target : String × TargetEnd}
  {ends : List (String × TargetEnd)} {test : Json → Bool}

theorem IsConsistent.note (h : m.IsConsistent) (now : Instant) (target : String × TargetEnd) :
    (m.note now target).IsConsistent := by
  unfold Manifest.note
  split
  · exact h
  · exact h.add_success _
  · exact h.add_failure _ _ now

theorem IsConsistent.notes (h : m.IsConsistent) (now : Instant)
    (ends : List (String × TargetEnd)) : (ends.foldl (Manifest.note now) m).IsConsistent := by
  induction ends generalizing m with
  | nil => exact h
  | cons target rest ih => exact ih (h.note now target)

/-- Noting the end of a target changes nothing about other units. -/
theorem Agree.note (htest : test (.str target.1) = false) (m : Manifest) :
    Agree test m (m.note now target) := by
  unfold Manifest.note
  split
  · exact Agree.refl test m
  · exact Agree.add_success htest m
  · exact Agree.add_failure htest m _ now

theorem Agree.notes (htest : ∀ target ∈ ends, test (.str target.1) = false) (m : Manifest) :
    Agree test m (ends.foldl (Manifest.note now) m) := by
  induction ends generalizing m with
  | nil => exact Agree.refl test m
  | cons target rest ih =>
      obtain ⟨hfirst, hrest⟩ := List.forall_mem_cons.mp htest
      exact (Agree.note hfirst m).trans (ih hrest _)

theorem Tells.of_agree (h : m.Tells now target)
    (hagree : Agree (· == .str target.1) m m') : m'.Tells now target := by
  obtain ⟨hsuccessful, hfailures⟩ := hagree.status
  unfold Tells at h ⊢
  split at h
  all_goals
    rw [hsuccessful, hfailures]
    exact h

/-- What is told of a target is still told when the ends of others have been noted. -/
theorem Tells.notes (h : m.Tells now target) (hnew : target.1 ∉ ends.map Prod.fst) :
    (ends.foldl (Manifest.note now) m).Tells now target := by
  refine h.of_agree (Agree.notes (fun other hother => ?_) m)
  rw [Json.beq_str, beq_eq_false_iff_ne]
  intro heq
  rw [← heq] at hnew
  exact hnew (List.mem_map_of_mem hother)

/-- The end of a target that was worked on is told once it has been noted. -/
theorem IsConsistent.tells_note (h : m.IsConsistent) (now : Instant) {name : String}
    {outcome : Except Failure Nat} {ended : TargetEnd}
    (hended : TargetEnd.ofOutcome? outcome = some ended) :
    (m.note now (name, ended)).Tells now (name, ended) := by
  cases outcome with
  | ok files =>
      cases hended
      exact is_successful_add_success m name
  | error failure =>
      cases failure with
      | fault f =>
          cases hended
          exact h.failures_add_failure name _ now
      | trouble t => cases hended

theorem successful_of_tells (h : m.Tells now target) :
    m.isSuccessful (.str target.1) = true ↔ target.2.exitCode = 0 := by
  obtain ⟨name, ended⟩ := target
  cases ended with
  | skipped => exact iff_of_true h.1 rfl
  | migrated files => exact iff_of_true h.1 rfl
  | failed f => exact iff_of_false (Bool.eq_false_iff.mp h.1) f.exit_code_ne_zero

end Noting

end Manifest

/-- The largest exit code of targets, at least the given one. -/
def worstExit (worst : Nat) (ends : List (String × TargetEnd)) : Nat :=
  ends.foldl (fun worst target => max worst target.2.exitCode) worst

section Worst

variable {worst : Nat} {ends : List (String × TargetEnd)}

theorem le_worst_exit (worst : Nat) (ends : List (String × TargetEnd)) :
    worst ≤ worstExit worst ends ∧ ∀ target ∈ ends, target.2.exitCode ≤ worstExit worst ends := by
  induction ends generalizing worst with
  | nil => exact ⟨le_rfl, List.forall_mem_nil _⟩
  | cons target rest ih =>
      obtain ⟨hworst, hrest⟩ := ih (max worst target.2.exitCode)
      exact ⟨(le_max_left _ _).trans hworst,
        List.forall_mem_cons.mpr ⟨(le_max_right _ _).trans hworst, hrest⟩⟩

theorem worst_exit_cases (worst : Nat) (ends : List (String × TargetEnd)) :
    worstExit worst ends = worst ∨ ∃ target ∈ ends, target.2.exitCode = worstExit worst ends := by
  induction ends generalizing worst with
  | nil => exact Or.inl rfl
  | cons target rest ih =>
      rcases ih (max worst target.2.exitCode) with h | ⟨other, hother, h⟩
      · rcases Nat.le_total worst target.2.exitCode with hle | hle
        · exact Or.inr ⟨target, List.mem_cons_self, (h.trans (Nat.max_eq_right hle)).symm⟩
        · exact Or.inl (h.trans (Nat.max_eq_left hle))
      · exact Or.inr ⟨other, List.mem_cons_of_mem _ hother, h⟩

end Worst

namespace MigrateRequest

/-- Works on the target with a name, after the units have been discovered unless they are known. -/
def workOn (q : MigrateRequest) (now : Instant) (name : String) (found : Option DiscoveryResult) :
    Run (Option DiscoveryResult × Except Failure Nat) := do
  let discovered ← match found with
    | some found => pure (.ok found)
    | none => Run.attempt q.discoverUnits
  match discovered with
  | .error failure => return (found, .error failure)
  | .ok found => return (some found, ← Run.attempt (q.migrateOne now found name))

/-- How targets end one after the other, from a manifest and a state on. -/
inductive Works (q : MigrateRequest) (now : Instant) (force : Bool) (context : RunContext) :
    Manifest → Option DiscoveryResult → RunState → List (String × TargetEnd) → RunState → Prop
  | done (m : Manifest) (found : Option DiscoveryResult) (s : RunState) :
      Works q now force context m found s [] s
  | skip {m : Manifest} {found : Option DiscoveryResult} {s t : RunState} {name : String}
      {rest : List (String × TargetEnd)} (hforce : force = false)
      (hlisted : m.isSuccessful (.str name) = true)
      (hrest : Works q now force context m found s rest t) :
      Works q now force context m found s ((name, .skipped) :: rest) t
  | work {m : Manifest} {found found' : Option DiscoveryResult} {s t u : RunState} {name : String}
      {outcome : Except Failure Nat} {ended : TargetEnd} {rest : List (String × TargetEnd)}
      (hwork : (q.workOn now name found).exec context s = (.ok (found', outcome), u))
      (hended : TargetEnd.ofOutcome? outcome = some ended)
      (hrest : Works q now force context (m.note now (name, ended)) found' u rest t) :
      Works q now force context m found s ((name, ended) :: rest) t

section Loop

variable {q : MigrateRequest} {now : Instant} {force : Bool} {context : RunContext} {s t : RunState}
  {m : Manifest} {found : Option DiscoveryResult} {ends : List (String × TargetEnd)}
  {name : String} {names : List String} {state state' : MigrationState}

/-- In the end the manifest tells the end of every target. -/
theorem Works.tells (h : q.Works now force context m found s ends t) (hm : m.IsConsistent)
    (hdistinct : (ends.map Prod.fst).Nodup) :
    ∀ target ∈ ends, (ends.foldl (Manifest.note now) m).Tells now target := by
  induction h with
  | done => exact List.forall_mem_nil _
  | @skip m _ _ _ name rest hforce hlisted hrest ih =>
      obtain ⟨hnew, hdistinct⟩ := List.nodup_cons.mp hdistinct
      have htells : m.Tells now (name, .skipped) := ⟨hlisted, hm.failures_of_successful hlisted⟩
      have hlater : (rest.foldl (Manifest.note now) m).Tells now (name, .skipped) :=
        htells.notes hnew
      exact List.forall_mem_cons.mpr ⟨hlater, ih hm hdistinct⟩
  | work hwork hended hrest ih =>
      obtain ⟨hnew, hdistinct⟩ := List.nodup_cons.mp hdistinct
      exact List.forall_mem_cons.mpr
        ⟨(hm.tells_note now hended).notes hnew, ih (hm.note now _) hdistinct⟩

/-- Migrating the next unit is working on it and noting its outcome. -/
theorem exec_migrate_next (q : MigrateRequest) (now : Instant) (name : String)
    (state : MigrationState) (context : RunContext) (s : RunState) :
    ∃ found outcome t, (q.workOn now name state.found).exec context s = (.ok (found, outcome), t) ∧
      (q.migrateNext now name state).exec context s =
        (.ok (({ state with found := found } : MigrationState).settle q now name outcome), t) := by
  unfold workOn migrateNext
  cases hfound : state.found with
  | some found => exact ⟨some found, _, _, rfl, rfl⟩
  | none =>
      cases hdiscovered : q.discoverUnits.exec context s with
      | mk discovered u =>
          simp only [Run.exec_bind, Run.exec_attempt, hdiscovered]
          cases discovered with
          | error failure =>
              refine ⟨none, _, _, rfl, ?_⟩
              rw [← hfound]
              rfl
          | ok found => exact ⟨some found, _, _, rfl, rfl⟩

/-- An outcome after which the command goes on is noted in the manifest. -/
theorem settle_noted (hwet : q.dryRun = false) {outcome : Except Failure Nat}
    (hgoes : (state.settle q now name outcome).crash = none) :
    ∃ ended, TargetEnd.ofOutcome? outcome = some ended ∧
      (state.settle q now name outcome).found = state.found ∧
      (state.settle q now name outcome).manifest = state.manifest.note now (name, ended) ∧
      (state.settle q now name outcome).worst = max state.worst ended.exitCode := by
  unfold MigrationState.settle at hgoes ⊢
  cases outcome with
  | ok files =>
      simp only [MigrationState.succeed, hwet, Bool.false_eq_true, if_false] at hgoes ⊢
      generalize state.console.print _ = printed at hgoes ⊢
      cases printed with
      | ok console => exact ⟨_, rfl, rfl, rfl, (Nat.max_zero _).symm⟩
      | error t => cases hgoes
  | error failure =>
      cases failure with
      | fault f =>
          refine ⟨_, rfl, rfl, ?_, rfl⟩
          simp [MigrationState.fail, hwet, Manifest.note]
      | trouble t => cases hgoes

/-- A loop that goes through all targets notes their ends. -/
theorem migrate_all_works (hwet : q.dryRun = false)
    (hexec : (q.migrateAll now force names state).exec context s = (.ok state', t))
    (hgoes : state'.crash = none) :
    ∃ ends, ends.map Prod.fst = names ∧
      q.Works now force context state.manifest state.found s ends t ∧
      state'.manifest = ends.foldl (Manifest.note now) state.manifest ∧
      state'.worst = worstExit state.worst ends := by
  induction names generalizing state s with
  | nil =>
      cases hexec
      exact ⟨[], rfl, .done _ _ _, rfl, rfl⟩
  | cons name names ih =>
      unfold migrateAll at hexec
      split at hexec
      · next hskip =>
          obtain ⟨hforce, hlisted⟩ :
              force = false ∧ state.manifest.isSuccessful (.str name) = true := by
            simpa using hskip
          obtain ⟨ends, rfl, hworks, hmanifest, hworst⟩ := ih hexec
          refine ⟨(name, .skipped) :: ends, rfl, .skip hforce hlisted hworks, hmanifest, ?_⟩
          rw [hworst]
          simp [worstExit, TargetEnd.exitCode]
      · obtain ⟨found, outcome, u, hwork, hnext⟩ := exec_migrate_next q now name state context s
        rw [Run.exec_bind, hnext] at hexec
        dsimp only at hexec
        split at hexec
        · next hcrash =>
            cases hexec
            rw [hgoes] at hcrash
            cases hcrash
        · next hcrash =>
            obtain ⟨ended, hended, hfound, hnoted, hmax⟩ := settle_noted hwet
              (Option.not_isSome_iff_eq_none.mp hcrash)
            obtain ⟨ends, rfl, hworks, hmanifest, hworst⟩ := ih hexec
            rw [hnoted] at hworks hmanifest
            rw [hfound] at hworks
            rw [hmax] at hworst
            exact ⟨(name, ended) :: ends, rfl, .work hwork hended hworks, hmanifest, hworst⟩

end Loop

section Preparing

variable {q : MigrateRequest} {now : Instant} {context : RunContext} {s t : RunState} {plan : Plan}
  {manifest : Manifest} {targets : List Json} {names : List String}

/-- A plan is made of what is loaded: the settings, the stored manifest or a new one, and the
targets by it. -/
theorem ready_of_prepare (h : (q.prepare now).exec context s = (.ok (.ready plan), t)) :
    ∃ read loaded, (loadSettings q.config q.source).exec context s = (.ok plan.table, read) ∧
      (Run.loadOrCreateManifest q.output now q.noted).exec context read =
        (.ok plan.manifest, loaded) ∧
      (q.targets plan.manifest).exec context loaded = (.ok plan.targets, t) := by
  unfold prepare at h
  split at h
  · obtain ⟨_, _, -, h⟩ := Run.exec_bind_eq_ok.mp h
    cases h
  · split at h
    · obtain ⟨_, _, -, h⟩ := Run.exec_bind_eq_ok.mp h
      cases h
    · obtain ⟨table, read, hsettings, h⟩ := Run.exec_bind_eq_ok.mp h
      obtain ⟨manifest, loaded, hmanifest, h⟩ := Run.exec_bind_eq_ok.mp h
      obtain ⟨targets, planned, htargets, h⟩ := Run.exec_bind_eq_ok.mp h
      split at h
      · cases h
      · cases h
        exact ⟨read, loaded, hsettings, hmanifest, htargets⟩

/-- The targets by a consistent manifest are different. -/
theorem targets_distinct (hmanifest : manifest.IsConsistent)
    (h : (q.targets manifest).exec context s = (.ok targets, t)) :
    targets.Pairwise fun v w => (v == w) = false := by
  unfold MigrateRequest.targets at h
  split at h
  · obtain ⟨_, _, -, h⟩ := Run.exec_bind_eq_ok.mp h
    dsimp only at h
    split at h
    · obtain ⟨_, _, hfault, -⟩ := Run.exec_bind_eq_ok.mp h
      cases hfault
    · cases h
      exact hmanifest.failed
  · dsimp only at h
    split at h
    · cases h
    · cases h
      exact List.pairwise_singleton _ _

/-- The names of the targets by a consistent manifest are different. -/
theorem names_nodup (hmanifest : manifest.IsConsistent)
    (htargets : (q.targets manifest).exec context s = (.ok targets, t))
    (hnames : checkNames targets = .ok names) : names.Nodup := by
  have hdistinct := targets_distinct hmanifest htargets
  rw [(check_names_eq_ok hnames).1, List.pairwise_map] at hdistinct
  exact hdistinct.imp fun hne heq => by simp [heq, Json.beq_str] at hne

end Preparing

/-- A use of the command that migrates and is no dry run, passes the checks, gets through all
targets and writes its manifest. -/
structure Passage (q : MigrateRequest) (now : Instant) (context : RunContext) (s : RunState) where
  wet : q.dryRun = false
  plan : Plan
  planned : RunState
  prepared : (q.prepare now).exec context s = (.ok (.ready plan), planned)
  names : List String
  checked : checkNames plan.targets = .ok names
  ended : MigrationState
  migrated : RunState
  looped : (Run.withSettings plan.table.settings
    (q.migrateAll now plan.force names { manifest := plan.manifest })).exec context planned =
      (.ok ended, migrated)
  goes : ended.crash = none
  written : Manifest
  finished : ended.manifest.finish now = (.ok (), written)
  path : Path
  saved : RunState
  stored : (Run.saveManifest q.output (some written)).exec context migrated = (.ok path, saved)

namespace Passage

variable {q : MigrateRequest} {now : Instant} {context : RunContext} {s : RunState}

/-- The context in which the targets are worked on. -/
def inner (p : q.Passage now context s) : RunContext :=
  { context with settings := p.plan.table.settings }

/-- The state in which the work on the targets starts. -/
def start (p : q.Passage now context s) : RunState :=
  { RunState.ofSettings p.plan.table.settings p.planned.disk with slept := p.planned.slept }

/-- What a use of the command comes to: how its targets end, what its exit code says of them, and
what the written manifest says of these and of all other units. -/
structure Notes (p : q.Passage now context s) (outcome : CommandOutcome)
    (ends : List (String × TargetEnd)) : Prop where
  loaded : ∃ read loaded,
    (loadSettings q.config q.source).exec context s = (.ok p.plan.table, read) ∧
      (Run.loadOrCreateManifest q.output now q.noted).exec context read =
        (.ok p.plan.manifest, loaded)
  names : ends.map Prod.fst = p.names
  works : q.Works now p.plan.force p.inner p.plan.manifest none p.start ends p.migrated
  tells : ∀ target ∈ ends, p.written.Tells now target
  success : outcome.exit = 0 ↔ ∀ name ∈ p.names, p.written.isSuccessful (.str name) = true
  upper : ∀ target ∈ ends, target.2.exitCode ≤ outcome.exit
  attained : outcome.exit ≠ 0 → ∃ target ∈ ends, target.2.exitCode = outcome.exit
  others : Manifest.Agree (fun v => !p.names.any (v == .str ·)) p.plan.manifest p.written
  consistent : p.written.IsConsistent

/-- Such a use ends with the exit code of the loop, when the manifest has been written. -/
theorem exec_run (p : q.Passage now context s) :
    ∃ outcome, (q.run now).exec context s = (.ok outcome, p.saved) ∧
      outcome.exit = p.ended.worst ∧ outcome.crash = none := by
  refine ⟨{ console := p.ended.console, exit := p.ended.worst }, ?_, rfl, rfl⟩
  have hfinish : (q.finish now p.ended).exec context p.migrated =
      (.ok { console := p.ended.console, exit := p.ended.worst }, p.saved) := by
    unfold finish
    rw [p.finished]
    dsimp only
    rw [Run.exec_bind, Run.exec_attempt, p.stored]
    rfl
  unfold run
  rw [Run.exec_bind, Run.exec_attempt, p.prepared]
  show (q.carryOut now p.plan).exec context p.planned = _
  unfold carryOut
  rw [p.checked]
  dsimp only
  rw [Run.exec_bind, p.looped]
  dsimp only
  rw [p.goes, p.wet]
  exact hfinish

theorem written_lists (p : q.Passage now context s) :
    p.written.successful = p.ended.manifest.successful ∧
      p.written.failed = p.ended.manifest.failed := by
  have hwritten : p.written = (p.ended.manifest.finish now).2 := by rw [p.finished]
  rw [hwritten]
  unfold Manifest.finish
  dsimp only
  split <;> exact ⟨rfl, rfl⟩

/-- A use of the command that starts from a consistent manifest ends with an exit code that says
whether every target is successful now, and otherwise is the largest one of those that failed.  Each
of those is listed as failed with its own message, and no longer as successful; nothing changes
about units that were no targets. -/
theorem run_notes_targets (p : q.Passage now context s) (hstored : p.plan.manifest.IsConsistent) :
    ∃ outcome ends, (q.run now).exec context s = (.ok outcome, p.saved) ∧ p.Notes outcome ends := by
  obtain ⟨outcome, hrun, hexit, -⟩ := p.exec_run
  obtain ⟨ends, hnames, hworks, hmanifest, hworst⟩ := migrate_all_works (s := p.start) p.wet
    (p.looped : (q.migrateAll now p.plan.force p.names { manifest := p.plan.manifest }).exec p.inner
      p.start = (.ok p.ended, p.migrated)) p.goes
  obtain ⟨hsuccessful, hfailed⟩ := p.written_lists
  rw [hmanifest] at hsuccessful hfailed
  obtain ⟨read, loaded, hread, hloaded, htargets⟩ := ready_of_prepare p.prepared
  have hdistinct : (ends.map Prod.fst).Nodup := hnames ▸ names_nodup hstored htargets p.checked
  have htells : ∀ target ∈ ends, p.written.Tells now target := fun target htarget =>
    (hworks.tells hstored hdistinct target htarget).of_agree (.of_lists hsuccessful hfailed)
  have hupper : ∀ target ∈ ends, target.2.exitCode ≤ outcome.exit := by
    rw [hexit, hworst]
    exact (le_worst_exit _ ends).2
  have hattained : outcome.exit ≠ 0 → ∃ target ∈ ends, target.2.exitCode = outcome.exit := by
    rw [hexit, hworst]
    exact (worst_exit_cases _ ends).resolve_left
  refine ⟨outcome, ends, hrun, ⟨read, loaded, hread, hloaded⟩, hnames, hworks, htells,
    ⟨fun hzero => ?_, fun hall => ?_⟩, hupper, hattained, ?_,
    (hstored.notes now ends).of_lists hsuccessful hfailed⟩
  · rw [← hnames, List.forall_mem_map]
    intro target htarget
    exact (Manifest.successful_of_tells (htells target htarget)).mpr
      (Nat.le_zero.mp (hzero ▸ hupper target htarget))
  · by_contra hne
    obtain ⟨target, htarget, hcode⟩ := hattained hne
    rw [← hnames, List.forall_mem_map] at hall
    exact hne (hcode ▸ (Manifest.successful_of_tells (htells target htarget)).mp
      (hall target htarget))
  · refine (Manifest.Agree.notes (fun target htarget => ?_) p.plan.manifest).trans
      (.of_lists hsuccessful hfailed)
    rw [← hnames, Bool.not_eq_false', List.any_map, List.any_eq_true]
    exact ⟨target, htarget, by simp [Json.beq_str]⟩

end Passage

/-- A use of the command as a passage, if it is one. -/
def passage? (q : MigrateRequest) (now : Instant) (context : RunContext) (s : RunState) :
    Option (q.Passage now context s) :=
  if wet : q.dryRun = false then
    match prepared : (q.prepare now).exec context s with
    | (.ok (.ready plan), planned) =>
      match checked : checkNames plan.targets with
      | .ok names =>
        match looped : (Run.withSettings plan.table.settings
            (q.migrateAll now plan.force names { manifest := plan.manifest })).exec context
              planned with
        | (.ok ended, migrated) =>
          match goes : ended.crash, finished : ended.manifest.finish now with
          | none, (.ok (), written) =>
            match stored : (Run.saveManifest q.output (some written)).exec context migrated with
            | (.ok path, saved) =>
              some ⟨wet, plan, planned, prepared, names, checked, ended, migrated, looped, goes,
                written, finished, path, saved, stored⟩
            | _ => none
          | _, _ => none
        | _ => none
      | _ => none
    | _ => none
  else none

/-- A project with one component, and a manifest by which another one has failed. -/
def failedDisk : Disk :=
  { entries := cardDisk.entries ++
      [(⟨"/", ["proj", "out"]⟩, .directory),
        (⟨"/", ["proj", "out", Manifest.fileName]⟩,
          .file (Text.encodeUtf8 ("\x7b\"successful\": [\"Panel\"], \"failed\": [" ++
            "\x7b\"component\": \"Ghost\", \"error\": \"\"\x7d]\x7d")))] }

/-- The migration of what has failed there. -/
def failedMigration : MigrateRequest :=
  { resume := true, source := ⟨"", ["src"]⟩, output := ⟨"", ["out"]⟩ }

theorem run_notes_targets_ghost :
    ∃ (p : failedMigration.Passage ⟨0⟩ { grammar := fun _ _ => cardTree } { disk := failedDisk })
        (outcome : CommandOutcome) (ends : List (String × TargetEnd)),
      p.names = ["Ghost"] ∧ outcome.exit = 1 ∧ p.written.isSuccessful (.str "Panel") = true ∧
        p.written.isSuccessful (.str "Ghost") = false ∧
        (failedMigration.run ⟨0⟩).exec { grammar := fun _ _ => cardTree } { disk := failedDisk } =
          (.ok outcome, p.saved) ∧
        p.Notes outcome ends := by
  have hpassage : ((failedMigration.passage? ⟨0⟩ { grammar := fun _ _ => cardTree }
      { disk := failedDisk }).map fun p => (p.names, decide p.plan.manifest.IsConsistent,
        p.ended.worst, p.written.isSuccessful (.str "Panel"),
        p.written.isSuccessful (.str "Ghost"))) =
      some (["Ghost"], true, 1, true, false) := by
    decide +kernel
  obtain ⟨p, -, hp⟩ := Option.map_eq_some_iff.mp hpassage
  simp only [Prod.mk.injEq, decide_eq_true_eq] at hp
  obtain ⟨hnames, hstored, hworst, hpanel, hghost⟩ := hp
  obtain ⟨outcome, hrun, hexit, -⟩ := p.exec_run
  obtain ⟨outcome', ends, hrun', hnotes⟩ := p.run_notes_targets hstored
  obtain rfl : outcome' = outcome :=
    Except.ok.inj (congrArg Prod.fst (hrun'.symm.trans hrun))
  exact ⟨p, outcome', ends, hnames, hexit.trans hworst, hpanel, hghost, hrun, hnotes⟩

end MigrateRequest

end ComponentMigration
