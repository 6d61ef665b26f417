import ComponentMigration.Command.Migrate
import ComponentMigration.Proofs.Command.Target
import ComponentMigration.Proofs.Manifest.Rollback

/-!
# One use of the command

A migration changes nothing but the directory of the unit and the manifest.  While it goes on, what
it has noted so far holds on the disk: a unit is noted as successful only after its module has been
written, under the name that was asked for (`migrate_one_meets`).  So the manifest in the output
directory is sound after any use of the command if it was sound before; only a rollback needs a path
to that directory on which nothing that it removes is passed again (`run_sound`).
-/

namespace ComponentMigration

section Reading

variable {R : RunState → RunState → Prop} [RunState.IsLax R]

theorem stays_find_settings (given : Option Path) (directory : Path) (user : Option Path) :
    (Run.findSettings given directory user).Stays R := by
  unfold Run.findSettings
  grind

theorem stays_file_text (path : Path) : (Run.fileText path).Stays R :=
  Run.stays_on_disk_of_kept fun _ => ⟨rfl, rfl⟩

theorem stays_read_sections (path : Option Path) : (Run.readSections path).Stays R := by
  have htext := stays_file_text (R := R)
  unfold Run.readSections
  grind

namespace MigrateRequest

theorem stays_load_settings (config : Option Path) (source : Path) :
    (loadSettings config source).Stays R := by
  have hload : ∀ path, (Run.loadSettings path).Stays R := by
    intro path
    refine Run.stays_bind (stays_read_sections path) fun sections => ?_
    grind
  refine Run.stays_bind Run.stays_get fun _ => Run.stays_bind (Run.stays_is_directory _) fun _ =>
    Run.stays_bind (stays_find_settings ..) fun path => hload path

theorem stays_discover_units (q : MigrateRequest) : q.discoverUnits.Stays R := by
  have hdiscover := stays_discover (R := R) q.source
  unfold discoverUnits
  grind

theorem stays_check_outcome (component : Component) (result : TransformOutcome) :
    (checkOutcome component result).Stays R := by
  unfold checkOutcome
  grind

theorem stays_validation_of (component : Component) (result : TransformOutcome) :
    (validationOf component result).Stays R := by
  unfold validationOf
  grind

theorem stays_targets (q : MigrateRequest) (manifest : Manifest) : (q.targets manifest).Stays R := by
  unfold targets
  grind

end MigrateRequest

end Reading

/-- A run of its own starts on the disk that it finds. -/
theorem Run.with_settings_meets {α : Type} {x : Run α} {settings : Settings} {context : RunContext}
    {s : RunState} {Q : α → RunState → Prop} {E : RunState → Prop}
    (h : ∀ t : RunState, t.disk = s.disk → x.Meets { context with settings := settings } t Q E) :
    (Run.withSettings settings x).Meets context s Q E :=
  h _ rfl

namespace MigrateRequest

/-- The units that a migration has discovered have keys, and what it has noted so far holds on a
disk. -/
structure MigrationState.Holds (output : Path) (d : Disk) (m : MigrationState) : Prop where
  keyed : ∀ found, m.found = some found → ∀ c ∈ found.components, c.IsKeyed
  noted : ∃ done failed, m.manifest.Holds output d done failed

section Steps

open Run (Meets)

-- Whether a computation meets something is not to be found out by running it.
attribute [local irreducible] Run.Meets

variable {q : MigrateRequest} {now : Instant} {name : String} {m : MigrationState}
  {found : DiscoveryResult} {context : RunContext} {s : RunState}

/-- Writing the files of a unit takes no module away, and if it succeeds, the unit's own module is
there. -/
theorem write_artifacts_meets {b : Bundle} (hname : isValidName name) (hb : b.name = name)
    (hobservers : context.observers = []) (hs : s.disk.IsProper) (hout : s.disk.IsOutside q.output)
    (component : Component) :
    Meets (q.writeArtifacts name component b) context s
      (fun _ t => RunState.KeepsUnits q.output (fun _ => True) s t ∧ t.disk.HasModule q.output name)
      (RunState.KeepsUnits q.output (fun _ => True) s) := by
  have hstay := RunContext.observers_stay_of_nil hobservers
    (RunState.KeepsUnits q.output fun _ => True)
  unfold writeArtifacts
  refine Run.meets_bind (Q := fun outcome t => RunState.KeepsUnits q.output (fun _ => True) s t ∧
    (outcome = .ok () → t.disk.HasModule q.output name)) (Run.meets_attempt ?_) ?_
  · subst hb
    exact (Run.write_bundle_meets hname hobservers hs hout).mono (fun _ _ h => ⟨h.1, fun _ => h.2⟩)
      fun t h failure => ⟨h, nofun⟩
  · intro outcome t ht
    split
    · exact Run.meets_pure ⟨ht.1, ht.2 rfl⟩
    · split
      · exact Run.meets_bind ((Run.stays_place ..).meets hstay ht.1) fun _ _ h => Run.meets_fault h
      · exact Run.meets_trouble ht.1
    · exact Run.meets_throw ht.1

/-- Migrating the unit with a name takes no module away, and if it succeeds, and is no dry run, the
unit's module is there. -/
theorem migrate_one_meets (hobservers : context.observers = []) (hs : s.disk.IsProper)
    (hout : s.disk.IsOutside q.output) (hname : isValidName name)
    (hkeyed : ∀ c ∈ found.components, c.IsKeyed) :
    Meets (q.migrateOne now found name) context s
      (fun _ t => RunState.KeepsUnits q.output (fun _ => True) s t ∧
        (q.dryRun = false → t.disk.HasModule q.output name))
      (RunState.KeepsUnits q.output (fun _ => True) s) := by
  have hstay := RunContext.observers_stay_of_nil hobservers
    (RunState.KeepsUnits q.output fun _ => True)
  have hstart := refl_of (RunState.KeepsUnits q.output fun _ => True) s
  unfold migrateOne
  split
  · exact Run.meets_bind ((Run.stays_place ..).meets hstay hstart) fun _ _ h => Run.meets_fault h
  · next component htarget =>
      have hnamed := target_of_name hkeyed hname htarget
      refine Run.meets_bind ((stays_parse_unit component none).meets hstay hstart)
        fun parse t ht => Run.meets_read_bind (Run.meets_use_bind (fun _ _ => ht) fun readiness _ => ?_)
      have htransform := ((stays_transform_unit component none).meets hstay ht).and
        (Run.transform_unit_component context t component none)
      refine Run.meets_bind (htransform.mono (fun _ _ h => h) fun _ h => h.1) fun result u hu =>
        Run.meets_bind ((stays_check_outcome component result).meets hstay hu.1) fun _ v hv =>
          Run.meets_bind ((stays_validation_of component result).meets hstay hv) fun report w hw => ?_
      split
      · next hdry => exact Run.meets_pure ⟨hw, fun hwet => absurd hdry (by simp [hwet])⟩
      · have hbundle : (buildBundle result (some readiness) report q.skipTests now.dateText).name =
            name := (congrArg Component.name hu.2).trans hnamed
        exact (write_artifacts_meets hname hbundle hobservers (hw hs).proper (hout.of_cwd (hw hs).cwd)
          component).mono (fun _ _ h => ⟨trans_of _ hw h.1, fun _ => h.2⟩) fun _ h => trans_of _ hw h

/-- What has been noted still holds once the outcome of a unit is noted too. -/
theorem MigrationState.Holds.settle {d : Disk} (hm : m.Holds q.output d) (hname : isValidName name)
    {outcome : Except Failure Nat}
    (hmodule : ∀ files, outcome = .ok files → q.dryRun = false → d.HasModule q.output name) :
    (m.settle q now name outcome).Holds q.output d := by
  obtain ⟨hkeyed, done, failed, hlists, hplain, hmodules⟩ := hm
  unfold MigrationState.settle
  split
  · next files =>
      unfold MigrationState.succeed
      split
      · exact ⟨hkeyed, done, failed, hlists, hplain, hmodules⟩
      · next hwet =>
          dsimp only
          split
          · refine ⟨hkeyed, _, _, hlists.add_success name, hplain.add_success _, fun other hother => ?_⟩
            have hcases : other ∈ done ∨ other = name := by
              split at hother
              · exact .inl hother
              · simpa using hother
            rcases hcases with hold | rfl
            · exact hmodules other hold
            · exact ⟨hname, hmodule files rfl (by simpa using hwet)⟩
          · exact ⟨hkeyed, done, failed, hlists, hplain, hmodules⟩
  · next f =>
      unfold MigrationState.fail
      refine ⟨hkeyed, ?_⟩
      dsimp only
      split
      · exact ⟨done, failed, hlists, hplain, hmodules⟩
      · exact ⟨_, _, hlists.add_failure name _ now, hplain.add_failure _ _ now, fun other hother =>
          hmodules other (List.mem_of_mem_erase hother)⟩
  · exact ⟨hkeyed, done, failed, hlists, hplain, hmodules⟩

theorem MigrationState.Holds.of_keeps_units {d d' : Disk} (hm : m.Holds q.output d)
    (hkept : d.KeepsUnits q.output (fun _ => True) d') : m.Holds q.output d' := by
  obtain ⟨hkeyed, done, failed, hnoted⟩ := hm
  exact ⟨hkeyed, done, failed, hnoted.of_keeps_modules hkept.toKeepsModules fun _ _ => trivial⟩

theorem discover_units_keyed :
    Meets q.discoverUnits context s (fun found _ => ∀ c ∈ found.components, c.IsKeyed)
      fun _ => True := by
  refine Run.meets_bind Run.meets_trivial fun isDirectory t _ => ?_
  split
  · exact Run.discover_keyed q.source
  · exact Run.meets_bind Run.meets_trivial fun _ _ _ => Run.meets_fault trivial

/-- Migrating one of the discovered units leaves a sound disk on which holds what is noted then. -/
theorem migrate_found_meets (hobservers : context.observers = []) (hs : s.disk.IsSound q.output)
    (hname : isValidName name) (hm : m.Holds q.output s.disk)
    (hkeyed : ∀ c ∈ found.components, c.IsKeyed) :
    Meets (do
        let outcome ← Run.attempt (q.migrateOne now found name)
        return ({ m with found := some found } : MigrationState).settle q now name outcome) context s
      (fun m t => t.disk.IsSound q.output ∧ m.Holds q.output t.disk)
      fun t => t.disk.IsSound q.output := by
  have hm' : MigrationState.Holds q.output s.disk { m with found := some found } :=
    ⟨fun found' heq => (Option.some.inj heq) ▸ hkeyed, hm.noted⟩
  have hattempt : Meets (Run.attempt (q.migrateOne now found name)) context s
      (fun outcome t => RunState.KeepsUnits q.output (fun _ => True) s t ∧
        ∀ files, outcome = .ok files → q.dryRun = false → t.disk.HasModule q.output name)
      fun t => t.disk.IsSound q.output :=
    Run.meets_attempt ((migrate_one_meets hobservers hs.proper hs.outside hname hkeyed).mono
      (fun _ _ h => ⟨h.1, fun _ _ => h.2⟩) fun _ h _ => ⟨h, nofun⟩)
  refine Run.meets_bind hattempt fun outcome t ht => ?_
  have hkept := ht.1 hs.proper
  exact Run.meets_pure ⟨hs.of_keeps_units hkept, (hm'.of_keeps_units hkept).settle hname ht.2⟩

/-- Migrating one unit leaves a sound disk on which holds what is noted then. -/
theorem migrate_next_meets (hobservers : context.observers = []) (hs : s.disk.IsSound q.output)
    (hname : isValidName name) (hm : m.Holds q.output s.disk) :
    Meets (q.migrateNext now name m) context s
      (fun m t => t.disk.IsSound q.output ∧ m.Holds q.output t.disk)
      fun t => t.disk.IsSound q.output := by
  have hstay := RunContext.observers_stay_of_nil hobservers
    (RunState.KeepsUnits q.output fun _ => True)
  unfold migrateNext
  dsimp only
  split
  · next found hfound =>
      exact migrate_found_meets hobservers hs hname hm (hm.keyed found hfound)
  · have hdiscover := ((stays_discover_units q).meets hstay (refl_of _ s)).and discover_units_keyed
    have hattempt : Meets (Run.attempt q.discoverUnits) context s
        (fun outcome t => RunState.KeepsUnits q.output (fun _ => True) s t ∧
          ∀ found, outcome = .ok found → ∀ c ∈ found.components, c.IsKeyed)
        fun t => t.disk.IsSound q.output := by
      refine Run.meets_attempt (hdiscover.mono (fun found t h => ⟨h.1, fun _ heq => ?_⟩)
        fun _ h _ => ⟨h.1, nofun⟩)
      cases heq
      exact h.2
    refine Run.meets_bind hattempt fun outcome t ht => ?_
    have hkept := ht.1 hs.proper
    have hsound := hs.of_keeps_units hkept
    have hholds := hm.of_keeps_units hkept
    split
    · exact Run.meets_pure ⟨hsound, hholds.settle hname nofun⟩
    · next found => exact migrate_found_meets hobservers hsound hname hholds (ht.2 found rfl)

/-- Migrating units leaves a sound disk on which holds what is noted in the end. -/
theorem migrate_all_meets (hobservers : context.observers = []) {force : Bool} {names : List String}
    (hnames : ∀ name ∈ names, isValidName name) (hs : s.disk.IsSound q.output)
    (hm : m.Holds q.output s.disk) :
    Meets (q.migrateAll now force names m) context s
      (fun m t => t.disk.IsSound q.output ∧ m.Holds q.output t.disk)
      fun t => t.disk.IsSound q.output := by
  induction names generalizing m s with
  | nil => exact Run.meets_pure ⟨hs, hm⟩
  | cons name names ih =>
      obtain ⟨hname, hnames⟩ := List.forall_mem_cons.mp hnames
      unfold migrateAll
      split
      · exact ih hnames hs ⟨hm.keyed, hm.noted⟩
      · refine Run.meets_bind (migrate_next_meets hobservers hs hname hm) fun m t ht => ?_
        split
        · exact Run.meets_pure ht
        · exact ih hnames ht.1 ht.2

theorem finish_sound (hobservers : context.observers = []) (hs : s.disk.IsSound q.output)
    (hm : m.Holds q.output s.disk) :
    ((q.finish now m).exec context s).2.disk.IsSound q.output := by
  obtain ⟨done, failed, hnoted⟩ := hm.noted
  refine Run.meets_iff_state (P := fun t => t.disk.IsSound q.output) |>.mp ?_
  unfold finish
  split
  · exact Run.meets_pure hs
  · next manifest hfinish =>
      have hfinished : manifest = (m.manifest.finish now).2 := (congrArg Prod.snd hfinish).symm
      have hholds : manifest.Holds q.output s.disk done failed :=
        hfinished ▸ ⟨hnoted.lists.finish now, hnoted.plain.finish now, hnoted.modules⟩
      have hsaved := Run.save_manifest_sound hobservers hs hholds
      refine Run.meets_bind (Q := fun _ t => t.disk.IsSound q.output) (Run.meets_attempt ?_)
        fun outcome t ht => ?_
      · exact (Run.meets_iff_state.mpr hsaved).mono (fun _ _ h => h) fun _ h _ => h
      · split
        · exact Run.meets_pure ht
        · split <;> exact Run.meets_pure ht
        · exact Run.meets_pure ht

/-- Targets that pass the check are texts, and valid names. -/
theorem check_names_eq_ok {targets : List Json} {names : List String}
    (h : checkNames targets = .ok names) :
    targets = names.map .str ∧ ∀ name ∈ names, isValidName name := by
  induction targets generalizing names with
  | nil =>
      cases h
      exact ⟨rfl, List.forall_mem_nil _⟩
  | cons target targets ih =>
      unfold checkNames at h
      split at h
      · cases ‹_ :: _ = []›
      · next name rest heq =>
          obtain ⟨rfl, rfl⟩ := List.cons.inj heq
          split at h
          · next hname =>
              cases hrest : checkNames targets with
              | error outcome =>
                  rw [hrest] at h
                  cases h
              | ok later =>
                  rw [hrest] at h
                  cases h
                  obtain ⟨htargets, hvalid⟩ := ih hrest
                  exact ⟨by rw [htargets, List.map_cons], List.forall_mem_cons.mpr ⟨hname, hvalid⟩⟩
          · split at h <;> cases h
      · cases h

/-- Carrying out a plan leaves a sound disk if the plan's manifest holds. -/
theorem carry_out_sound (hobservers : context.observers = []) (hs : s.disk.IsSound q.output)
    {plan : Plan} (hplan : ∃ done failed, plan.manifest.Holds q.output s.disk done failed) :
    ((q.carryOut now plan).exec context s).2.disk.IsSound q.output := by
  refine Run.meets_iff_state (P := fun t => t.disk.IsSound q.output) |>.mp ?_
  unfold carryOut
  split
  · exact Run.meets_pure hs
  · next names hnames =>
      have hmigrated : Meets (Run.withSettings plan.table.settings
          (q.migrateAll now plan.force names { manifest := plan.manifest })) context s
          (fun m t => t.disk.IsSound q.output ∧ m.Holds q.output t.disk)
          fun t => t.disk.IsSound q.output := by
        refine Run.with_settings_meets fun t ht => ?_
        rw [← ht] at hs hplan
        have hstart : MigrationState.Holds q.output t.disk { manifest := plan.manifest } :=
          ⟨fun _ hfound => (nomatch hfound), hplan⟩
        have hobservers : ({ context with settings := plan.table.settings } : RunContext).observers =
            [] := hobservers
        exact migrate_all_meets hobservers (check_names_eq_ok hnames).2 hs hstart
      refine Run.meets_bind hmigrated fun m t ht => ?_
      split
      · exact Run.meets_pure ht.1
      · split
        · exact Run.meets_pure ht.1
        · exact Run.meets_iff_state.mpr (finish_sound hobservers ht.1 ht.2)

theorem load_or_create_manifest_meets (hobservers : context.observers = []) {output : Path}
    (hs : s.disk.IsSound output) {config : Assoc Json}
    (hconfig : ∀ entry ∈ config, entry.2.isHashable) (hkeys : (Assoc.keys config).Nodup) :
    Meets (Run.loadOrCreateManifest output now config) context s
      (fun manifest t => t.disk.IsSound output ∧
        ∃ done failed, manifest.Holds output t.disk done failed)
      fun t => t.disk.IsSound output := by
  have hload := ((Run.stays_load_manifest output now).meets
    (RunContext.observers_stay_of_nil hobservers (RunState.KeepsUnits output fun _ => True))
    (refl_of _ s)).and (Run.load_manifest_meets hs)
  unfold Run.loadOrCreateManifest
  refine Run.meets_bind (hload.mono (fun _ _ h => h) fun _ h => hs.of_keeps_units (h.1 hs.proper))
    fun loaded t ht => ?_
  have hkept := ht.1 hs.proper
  have hsound := hs.of_keeps_units hkept
  cases loaded with
  | none =>
      exact Run.meets_pure ⟨hsound, [], [], Manifest.lists_empty now config,
        Manifest.is_plain_empty now hconfig hkeys, fun _ => nofun⟩
  | some m =>
      obtain ⟨-, done, failed, -, hm⟩ := ht.2
      have hholds : m.Holds output t.disk done failed :=
        hm.of_keeps_modules hkept.toKeepsModules fun _ _ => trivial
      refine Run.meets_pure ⟨hsound, done, failed, ?_⟩
      split
      · exact hholds
      · exact ⟨⟨hm.lists.successful, hm.lists.components, hm.lists.nodup_done,
          hm.lists.nodup_failed, hm.lists.disjoint⟩, ⟨hm.plain.failed, hconfig, hkeys,
          hm.plain.startTime, hm.plain.endTime, hm.plain.duration, hm.plain.version⟩,
          hholds.modules⟩

theorem is_hashable_noted : ∀ entry ∈ q.noted, entry.2.isHashable := by
  simp [noted, Json.isHashable]

theorem nodup_keys_noted : (Assoc.keys q.noted).Nodup := by
  simp [noted, Assoc.keys]

/-- What is prepared leaves a sound disk on which the manifest of the plan holds.  A rollback needs
a path to the output directory that does not go up. -/
theorem prepare_meets (hobservers : context.observers = []) (hs : s.disk.IsSound q.output)
    (hup : q.rollback → ".." ∉ q.output.parts) :
    Meets (q.prepare now) context s
      (fun preparation t => t.disk.IsSound q.output ∧ ∀ plan, preparation = .ready plan →
        ∃ done failed, plan.manifest.Holds q.output t.disk done failed)
      fun t => t.disk.IsSound q.output := by
  have hstay := RunContext.observers_stay_of_nil hobservers
    (RunState.KeepsUnits q.output fun _ => True)
  unfold prepare
  split
  · next hrollback =>
      exact Run.meets_bind (Q := fun _ t => t.disk.IsSound q.output) (Run.meets_iff_state.mpr
        (Run.rollback_sound hobservers hs (hup hrollback)))
        fun _ _ ht => Run.meets_pure ⟨ht, nofun⟩
  · split
    · exact Run.meets_bind (Q := fun _ t => t.disk.IsSound q.output) (Run.meets_iff_state.mpr
        (Run.cleanup_sound hobservers hs)) fun _ _ ht => Run.meets_pure ⟨ht, nofun⟩
    · have hloaded := (stays_load_settings q.config q.source).meets hstay (refl_of _ s)
      refine Run.meets_bind (hloaded.mono (fun _ _ h => h) fun _ h => hs.of_keeps_units (h hs.proper))
        fun table t ht => ?_
      refine Run.meets_bind (load_or_create_manifest_meets hobservers
        (hs.of_keeps_units (ht hs.proper)) is_hashable_noted nodup_keys_noted) fun manifest u hu => ?_
      have htargets := (stays_targets q manifest).meets hstay (refl_of _ u)
      refine Run.meets_bind (htargets.mono (fun _ _ h => h)
        fun _ h => hu.1.of_keeps_units (h hu.1.proper)) fun targets v hv => ?_
      have hkept := hv hu.1.proper
      split
      · exact Run.meets_pure ⟨hu.1.of_keeps_units hkept, nofun⟩
      · refine Run.meets_pure ⟨hu.1.of_keeps_units hkept, fun plan hplan => ?_⟩
        cases hplan
        obtain ⟨done, failed, hm⟩ := hu.2
        exact ⟨done, failed, hm.of_keeps_modules hkept.toKeepsModules fun _ _ => trivial⟩

/-- One use of the command leaves a sound disk. -/
theorem run_sound (hobservers : context.observers = []) (hs : s.disk.IsSound q.output)
    (hup : q.rollback → ".." ∉ q.output.parts) :
    ((q.run now).exec context s).2.disk.IsSound q.output := by
  refine Run.meets_iff_state (P := fun t => t.disk.IsSound q.output) |>.mp ?_
  have hprepared : Meets (Run.attempt (q.prepare now)) context s
      (fun outcome t => t.disk.IsSound q.output ∧ ∀ plan, outcome = .ok (.ready plan) →
        ∃ done failed, plan.manifest.Holds q.output t.disk done failed)
      fun t => t.disk.IsSound q.output :=
    Run.meets_attempt ((prepare_meets hobservers hs hup).mono
      (fun _ _ h => ⟨h.1, fun plan heq => h.2 plan (Except.ok.inj heq)⟩) fun _ h _ => ⟨h, nofun⟩)
  unfold run
  refine Run.meets_bind hprepared fun outcome t ht => ?_
  split
  · exact Run.meets_pure ht.1
  · next plan => exact Run.meets_iff_state.mpr (carry_out_sound hobservers ht.1 (ht.2 plan rfl))
  · exact Run.meets_pure ht.1
  · split <;> exact Run.meets_pure ht.1

end Steps

end MigrateRequest

end ComponentMigration
