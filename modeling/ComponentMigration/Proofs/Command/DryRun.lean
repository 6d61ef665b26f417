import ComponentMigration.Command.Analyze
import ComponentMigration.Proofs.Command.Session
import ComponentMigration.Proofs.Pipeline.Carried

/-!
# Dry runs

A dry run of a migration does nothing but what every computation may do (`stays_migrate_all`), and
one of the pipeline writes no reports (`pipeline_files`), so the files stay as they are
(`dry_run_keeps_files`).  Rolling back and cleaning up are not asked whether they are to be dry:
they do the same with the flag as without it.
-/

namespace ComponentMigration

/-- States with the same files and directories. -/
structure RunState.SameFiles (s t : RunState) : Prop where
  entries : t.disk.entries = s.disk.entries
  cwd : t.disk.cwd = s.disk.cwd

instance : RunState.IsLax RunState.SameFiles where
  refl _ := ⟨rfl, rfl⟩
  trans _ _ _ hfirst hsecond :=
    ⟨hsecond.entries.trans hfirst.entries, hsecond.cwd.trans hfirst.cwd⟩
  of_alike halike := ⟨halike.entries, halike.cwd⟩

theorem RunState.SameFiles.of_disk {s t : RunState} (h : t.disk = s.disk) : s.SameFiles t :=
  ⟨congrArg Disk.entries h, congrArg Disk.cwd h⟩

/-- Announcements change no files. -/
theorem RunState.disk_announce (listener : Listener) (event : Event) (s : RunState) :
    (s.announce listener event).disk = s.disk := by
  unfold RunState.announce
  dsimp only
  split <;> rfl

theorem Listener.files_stay (listener : Listener) : listener.StaysWithin RunState.SameFiles where
  moveTo _ _ _ _ := .of_disk (RunState.disk_announce listener _ _)
  warn _ _ := .of_disk (RunState.disk_announce listener _ _)
  unit _ _ _ := .of_disk (RunState.disk_announce listener _ _)
  progress _ _ := .of_disk rfl

theorem Listener.spares_files (listener : Listener) (s : RunState) :
    listener.Spares s.SameFiles where
  announce _ _ h := trans_of _ h (.of_disk (RunState.disk_announce listener _ _))
  moveTo t phase share message h := trans_of _ h (listener.files_stay.moveTo t phase share message)
  deadline _ h := ⟨h.entries, h.cwd⟩

namespace MigrateRequest

section Parts

variable {R : RunState → RunState → Prop} [RunState.IsLax R] {q : MigrateRequest} {now : Instant}

theorem stays_migrate_one (hdry : q.dryRun = true) (found : DiscoveryResult) (name : String) :
    (q.migrateOne now found name).Stays R := by
  unfold migrateOne
  split
  · exact Run.stays_bind (Run.stays_place ..) fun _ => Run.stays_fault _
  · next component _ =>
      refine Run.stays_bind (stays_parse_unit component none) fun parse =>
        Run.stays_bind Run.stays_read fun _ => Run.stays_bind (Run.stays_use _) fun _ =>
          Run.stays_bind (stays_transform_unit component none) fun result =>
            Run.stays_bind (stays_check_outcome component result) fun _ =>
              Run.stays_bind (stays_validation_of component result) fun report => ?_
      rw [if_pos hdry]
      exact Run.stays_pure 0

theorem stays_migrate_next (hdry : q.dryRun = true) (name : String) (m : MigrationState) :
    (q.migrateNext now name m).Stays R := by
  have hone : ∀ found, (Run.attempt (q.migrateOne now found name)).Stays R := fun found =>
    Run.stays_attempt (stays_migrate_one hdry found name)
  have hdiscover := Run.stays_attempt (stays_discover_units (R := R) q)
  unfold migrateNext
  grind

theorem stays_migrate_all (hdry : q.dryRun = true) (force : Bool) (names : List String)
    (m : MigrationState) : (q.migrateAll now force names m).Stays R := by
  induction names generalizing m with
  | nil => exact Run.stays_pure m
  | cons name rest ih =>
      unfold migrateAll
      split
      · exact ih _
      · refine Run.stays_bind (stays_migrate_next hdry name m) fun m' => ?_
        split
        · exact Run.stays_pure m'
        · exact ih m'

/-- Preparing a migration looks at files only. -/
theorem stays_prepare (hrollback : q.rollback = false) (hcleanup : q.cleanup = false) :
    (q.prepare now).Stays R := by
  unfold prepare
  rw [hrollback, hcleanup]
  refine Run.stays_bind (stays_load_settings q.config q.source) fun table =>
    Run.stays_bind (Run.stays_bind (Run.stays_load_manifest q.output now) fun loaded => ?_)
      fun manifest => Run.stays_bind (stays_targets q manifest) fun targets => ?_
  · cases loaded <;> exact Run.stays_pure _
  · split <;> exact Run.stays_pure _

end Parts

open Run (Meets)

variable {q : MigrateRequest} {now : Instant} {context : RunContext} {s start : RunState}

theorem carry_out_files (hobservers : context.observers = []) (hdry : q.dryRun = true) (plan : Plan)
    (hs : start.SameFiles s) :
    (q.carryOut now plan).Meets context s (fun _ => start.SameFiles) start.SameFiles := by
  unfold carryOut
  split
  · exact hs
  · next names _ =>
      have hmigrated : Meets (Run.withSettings plan.table.settings
          (q.migrateAll now plan.force names { manifest := plan.manifest })) context s
          (fun _ => start.SameFiles) start.SameFiles :=
        Run.with_settings_meets fun t ht => (stays_migrate_all hdry ..).meets
          (RunContext.observers_stay_of_nil (by exact hobservers) _) (trans_of _ hs (.of_disk ht))
      refine Run.meets_bind hmigrated fun m t ht => ?_
      split
      · exact ht
      · rw [if_pos hdry]
        exact ht

/-- A dry migration leaves the files as they are. -/
theorem run_files (hobservers : context.observers = []) (hdry : q.dryRun = true)
    (hrollback : q.rollback = false) (hcleanup : q.cleanup = false) (hs : start.SameFiles s) :
    (q.run now).Meets context s (fun _ => start.SameFiles) start.SameFiles := by
  have hstays : (Run.attempt (q.prepare now)).Stays RunState.SameFiles :=
    Run.stays_attempt (stays_prepare hrollback hcleanup)
  have hprepared := hstays.meets (RunContext.observers_stay_of_nil hobservers _) hs
  unfold run
  refine Run.meets_bind hprepared fun prepared t ht => ?_
  split
  · exact ht
  · exact carry_out_files hobservers hdry _ ht
  · exact ht
  · split <;> exact ht

/-- What is done in place of a migration comes to a line, and does not look at the flag. -/
theorem prepare_of_undoing (h : q.rollback = true ∨ q.cleanup = true) (now : Instant) :
    ∃ x : Run String, ∀ dry, MigrateRequest.prepare { q with dryRun := dry } now =
      x >>= fun line => return .done line := by
  cases hrollback : q.rollback with
  | true =>
      refine ⟨do
        let removed ← Run.rollback q.output now
        return "Rolled back " ++ toString removed.length ++ " component(s).", fun dry => ?_⟩
      simp only [prepare, if_true, bind_assoc, pure_bind]
  | false =>
      have hcleanup : q.cleanup = true := h.resolve_left (by simp [hrollback])
      refine ⟨do
        let removed ← Run.cleanup q.output now
        return removedLine removed.length, fun dry => ?_⟩
      simp only [prepare, hcleanup, Bool.false_eq_true, if_true, if_false, bind_assoc, pure_bind]

/-- Rolling back and cleaning up do the same in a dry run as in any other. -/
theorem exec_run_of_undoing (h : q.rollback = true ∨ q.cleanup = true) (dry : Bool) :
    (MigrateRequest.run { q with dryRun := dry } now).exec context s =
      (q.run now).exec context s := by
  obtain ⟨x, hprepare⟩ := prepare_of_undoing h now
  have hends : ∀ dry, (MigrateRequest.run { q with dryRun := dry } now).exec context s =
      match x.exec context s with
      | (.ok line, t) => (.ok { console := ({} : Console).say line }, t)
      | (.error (.fault f), t) => (.ok (CommandOutcome.failed {} f), t)
      | (.error (.trouble trouble), t) =>
        (.ok (if trouble.isSystem then
          CommandOutcome.failed {} (Fault.of .fileSystem trouble.text {} (some (.trouble trouble.sort)))
          else CommandOutcome.crashed {} (.trouble trouble)), t) := by
    intro dry
    rw [run, Run.exec_bind, Run.exec_attempt, hprepare dry, Run.exec_bind]
    cases x.exec context s with
    | mk result t =>
        cases result with
        | ok line => rfl
        | error failure =>
            cases failure with
            | fault f => rfl
            | trouble trouble =>
                dsimp only
                split <;> rfl
  exact (hends dry).trans (hends q.dryRun).symm

end MigrateRequest

namespace RunRequest

variable {q : RunRequest} {context : RunContext} {s start : RunState}

/-- A dry run writes no reports. -/
theorem report_phase_of_dry {options : PipelineSettings} (hdry : options.dryRun = true)
    (inventory : Inventory) (analysis : Option DependencyAnalysis) :
    reportPhase options inventory analysis = return [] := by
  rw [reportPhase, hdry]
  simp

theorem output_phase_files (hobservers : context.ObserversStay RunState.SameFiles)
    (hdry : context.settings.pipeline.dryRun = true) (v : StageValues) (hs : start.SameFiles s) :
    (q.outputPhase v).Meets context s (fun _ => start.SameFiles) start.SameFiles := by
  have htransform := fun components inventory =>
    (stays_transform_units (q := q) q.listener.files_stay (fun _ _ _ => .of_disk rfl) components
      inventory).meets hobservers hs
  refine Run.meets_read_bind ?_
  split
  · exact hs
  · next inventory _ =>
      dsimp only
      rw [report_phase_of_dry hdry]
      split
      · exact Run.meets_bind (htransform v.units inventory) fun _ _ ht => ht
      · exact hs

/-- The phases of a dry run leave the files as they are. -/
theorem body_files (hobservers : context.ObserversStay RunState.SameFiles)
    (hdry : context.settings.pipeline.dryRun = true) (phase : Phase) (v : StageValues)
    (hs : start.SameFiles s) :
    (q.work.body phase v).Meets context s (fun _ => start.SameFiles) start.SameFiles := by
  have hfiles := q.listener.files_stay
  have hkept : ∀ {α : Type} {x : Run α} {f : α → StageValues}, x.Stays RunState.SameFiles →
      Run.Meets (do return f (← x)) context s (fun _ => start.SameFiles) start.SameFiles :=
    fun hx => Run.meets_bind (hx.meets hobservers hs) fun _ _ ht => ht
  unfold PhaseWork.body
  split
  · exact hkept (stays_discover_phase hfiles.remarks)
  · exact hkept (stays_parse_phase (stays_keep_parse hfiles (fun _ _ => .of_disk rfl) _))
  · exact hkept (stays_analyze_phase hfiles.remarks v.units)
  · exact hkept (stays_inventory_phase (stays_note_assessed hfiles _))
  · exact Run.meets_bind (output_phase_files hobservers hdry v hs) fun _ _ ht => ht
  · exact hs

/-- A dry run of the pipeline leaves the files as they are. -/
theorem pipeline_files (hobservers : context.ObserversStay RunState.SameFiles)
    (hdry : context.settings.pipeline.dryRun = true) (hs : start.SameFiles s) :
    (Run.pipeline q).Meets context s (fun _ => start.SameFiles) start.SameFiles := by
  have hspares := q.listener.spares_files start
  have hnoted : RunContext.ObserversStay RunState.SameFiles { context with
      observers := context.observers ++ [RunState.noteFault q.listener] } :=
    hobservers.note_fault fun f t => .of_disk (RunState.disk_announce q.listener _ _)
  have hopen : ∀ phase t, start.SameFiles t → (Run.openPhase q.listener phase).Meets _ t
      (fun _ => start.SameFiles) start.SameFiles := fun phase t ht =>
    (Run.stays_open_phase q.listener (fun _ _ => .of_disk rfl)
      (fun t _ => q.listener.files_stay.moveTo t _ _ _)
      fun t => .of_disk (RunState.disk_announce q.listener _ t)).meets hnoted ht
  have hrun : (Run.pipelineBy q.work q.listener).Meets context s _ _ := Run.pipeline_by_meets
    (E := fun _ => start.SameFiles) (fun _ => hspares) (fun _ => hspares)
    (fun _ => Run.Lasting.of_is_lax hnoted start) fun phases _ =>
      Run.stages_meets (fun _ => hspares) (fun _ => hspares) rfl (fun phase _ => hopen phase)
        (fun stage hstage v t ht => by
          obtain ⟨phase, -, rfl⟩ := List.mem_map.mp hstage
          exact body_files hnoted hdry phase v ht) hs
  refine hrun.mono (fun outcome t ht => ?_) fun t ht => ?_
  · have hends := ht.2
    split at hends <;> exact hends
  · rcases ht with rfl | ⟨-, ht⟩
    · exact hs
    · exact ht

end RunRequest

namespace AnalyzeRequest

section Overriding

variable {t : SettingsTable} {name key other : String}

theorem value_override_self (t : SettingsTable) (name key : String) (v : Json) :
    (override t name key (some v)).value name key = v := by
  unfold override SettingsTable.value
  rw [Assoc.get?_set_self]
  show (Assoc.get? _ key).getD Json.null = v
  rw [Assoc.get?_set_self]
  rfl

theorem value_override_of_ne (h : other ≠ key) (v : Option Json) :
    (override t name other v).value name key = t.value name key := by
  cases v with
  | none => rfl
  | some v =>
      unfold override SettingsTable.value
      rw [Assoc.get?_set_self]
      show (Assoc.get? _ key).getD Json.null = _
      rw [Assoc.get?_set_of_ne _ _ h]
      cases t.get? name <;> rfl

end Overriding

variable {q : AnalyzeRequest} {now : Instant} {context : RunContext} {s start : RunState}

/-- The flag of a dry run gets into the settings. -/
theorem dry_run_settings_table (hdry : q.dryRun = true) (t : SettingsTable) :
    (q.settingsTable t).settings.pipeline.dryRun = true := by
  show (q.settingsTable t).switch "pipeline" "dry_run" = true
  unfold SettingsTable.switch settingsTable
  rw [value_override_of_ne (by decide), hdry, if_pos rfl, value_override_self]
  rfl

/-- A dry analysis leaves the files as they are. -/
theorem run_files (hobservers : context.observers = []) (hdry : q.dryRun = true)
    (hs : start.SameFiles s) :
    (q.run now).Meets context s (fun _ => start.SameFiles) start.SameFiles := by
  have hstay := RunContext.observers_stay_of_nil hobservers RunState.SameFiles
  have hload : q.loadTable.Meets context s
      (fun t u => t.settings.pipeline.dryRun = true ∧ start.SameFiles u) start.SameFiles := by
    unfold loadTable
    refine Run.meets_bind ((MigrateRequest.stays_load_settings q.config q.root).meets hstay hs)
      fun t u hu => ?_
    dsimp only
    split
    · exact ⟨dry_run_settings_table hdry t, hu⟩
    · exact hu
  unfold run
  refine Run.meets_bind (Run.meets_attempt_outcome hload) fun loaded u hu => ?_
  split
  · exact hu
  · exact hu
  · next t =>
      have hpipeline : Run.Meets (Run.withSettings t.settings
          (Run.pipeline { root := q.root, now := now })) context u (fun _ => start.SameFiles)
          start.SameFiles :=
        Run.with_settings_meets fun v hv => RunRequest.pipeline_files
          (RunContext.observers_stay_of_nil (by exact hobservers) _) (by exact hu.1)
          (trans_of _ hu.2 (.of_disk hv))
      refine Run.meets_bind (Q := fun _ => start.SameFiles)
        (Run.meets_attempt (hpipeline.mono (fun _ _ h => h) fun _ h _ => h)) fun ended v hv => ?_
      split <;> exact hv

end AnalyzeRequest

/-- A command line that asks for a dry run, and not for a rollback or for cleaning up. -/
def Invocation.IsDry : Invocation → Prop
  | .version | .help => True
  | .migrate q => q.dryRun = true ∧ q.rollback = false ∧ q.cleanup = false
  | .analyze q => q.dryRun = true

/-- A dry run of the command line leaves all files and directories as they are, and so does one
whose words are not understood.  Rolling back and cleaning up are no dry runs: whatever is done
without the flag is done with it. -/
theorem dry_run_keeps_files {words : List String} {now : Instant} {context : RunContext}
    (hobservers : context.observers = []) (s : RunState) :
    ((∀ i, Invocation.ofWords words = .ok i → i.IsDry) →
      s.SameFiles ((Run.command words now).exec context s).2) ∧
    ∀ q : MigrateRequest, q.rollback = true ∨ q.cleanup = true → ∀ dry,
      (Run.exec (Invocation.run (.migrate { q with dryRun := dry }) now) context s) =
        Run.exec (Invocation.run (.migrate q) now) context s := by
  refine ⟨fun hdry => Run.meets_iff_state.mp ?_, fun q hundoing dry =>
    MigrateRequest.exec_run_of_undoing hundoing dry⟩
  have hs := refl_of RunState.SameFiles s
  unfold Run.command
  split
  · next i hwords =>
      have hi := hdry i hwords
      unfold Invocation.run
      split
      · exact hs
      · exact hs
      · exact MigrateRequest.run_files hobservers hi.1 hi.2.1 hi.2.2 hs
      · exact AnalyzeRequest.run_files hobservers hi hs
  · exact hs

/-- The words of a dry migration of one component. -/
def dryCardWords : List String := ["migrate", "Card", "--dry-run", "-s", "src", "-o", "out"]

/-- An output directory with one migrated component. -/
def migratedDisk : Disk :=
  { entries := [(⟨"/", ["proj"]⟩, .directory), (⟨"/", ["proj", "out"]⟩, .directory),
      (⟨"/", ["proj", "out", "Card"]⟩, .directory),
      (⟨"/", ["proj", "out", "Card", "Card.tsx"]⟩, .file []),
      (⟨"/", ["proj", "out", Manifest.fileName]⟩,
        .file (Text.encodeUtf8 "\x7b\"successful\": [\"Card\"]\x7d"))] }

/-- The dry migration ends with success; and a dry rollback removes what was migrated. -/
theorem dry_runs :
    ((Run.command dryCardWords ⟨0⟩).exec cardContext { disk := cardDisk }).1.toOption.map
        CommandOutcome.exit = some 0 ∧
      ((Run.command ["migrate", "--rollback", "--dry-run", "-o", "out"] ⟨0⟩).exec
        { grammar := fun _ _ => default } { disk := migratedDisk }).2.disk.isFile
          ⟨"", ["out", "Card", "Card.tsx"]⟩ = false :=
  ⟨by decide +kernel, by decide +kernel⟩

theorem dry_run_keeps_files_card :
    ((Run.command dryCardWords ⟨0⟩).exec cardContext { disk := cardDisk }).1.toOption.map
        CommandOutcome.exit = some 0 ∧
      RunState.SameFiles { disk := cardDisk }
        ((Run.command dryCardWords ⟨0⟩).exec cardContext { disk := cardDisk }).2 := by
  have hwords : Invocation.ofWords dryCardWords =
      .ok (.migrate { cardMigration ⟨"", ["out"]⟩ with dryRun := true }) := by rfl
  refine ⟨dry_runs.1, (dry_run_keeps_files rfl _).1 fun i hi => ?_⟩
  obtain rfl := Except.ok.inj (hwords.symm.trans hi)
  exact ⟨rfl, rfl, rfl⟩

/-- A rollback that is asked to be dry removes what was migrated. -/
theorem dry_rollback_removes_module :
    migratedDisk.isFile ⟨"", ["out", "Card", "Card.tsx"]⟩ = true ∧
      ((Run.command ["migrate", "--rollback", "--dry-run", "-o", "out"] ⟨0⟩).exec
        { grammar := fun _ _ => default } { disk := migratedDisk }).2.disk.isFile
          ⟨"", ["out", "Card", "Card.tsx"]⟩ = false :=
  ⟨by decide, dry_runs.2⟩

end ComponentMigration
