import ComponentMigration.Proofs.Command.Migrate

/-!
# Uses of the command one after the other

The command is used again and again for one output directory, which is empty at first.  Between two
uses anything may happen to the disk, as long as the modules in the output directory stay and no
manifest comes up there: sources may change, and files may be put where the directories of units
would have to be.  The manifest stays sound all the time (`Migrated.sound`).
-/

namespace ComponentMigration

/-- An output directory in which nothing stands, not even the working directory. -/
structure Disk.IsEmptyAt (output : Path) (d : Disk) : Prop where
  proper : d.IsProper
  straight : ".." ∉ d.cwd.parts
  outside : d.IsOutside output
  nothing : ∀ name rest, d.under? output (name :: rest) = none

/-- What uses of the command for an output directory make of a disk.  A use starts with nothing but
the disk; its request is one of those allowed.  In between, the disk may change in any way that
leaves the modules in the output directory alone and brings up no manifest there. -/
inductive Migrated (output : Path) (allowed : MigrateRequest → Prop) (start : Disk) : Disk → Prop
  | start : Migrated output allowed start start
  | use {s : RunState} (h : Migrated output allowed start s.disk) {context : RunContext}
      (hobservers : context.observers = []) {q : MigrateRequest} (houtput : q.output = output)
      (hallowed : allowed q) (now : Instant) :
      Migrated output allowed start ((q.run now).exec context s).2.disk
  | change {d d' : Disk} (h : Migrated output allowed start d)
      (hkept : d.KeepsUnits output (fun _ => True) d') : Migrated output allowed start d'

/-- An output directory that is not there is empty. -/
theorem Disk.IsEmptyAt.of_absent {d : Disk} {output : Path} (hd : d.IsProper)
    (hstraight : ".." ∉ d.cwd.parts)
    (habsent : ∀ entry ∈ d.entries, ¬(d.locate output).parts <+: entry.1.parts)
    (hcwd : ¬(d.locate output).parts <+: d.cwd.parts) : d.IsEmptyAt output := by
  refine ⟨hd, hstraight, fun c hprefix => hcwd ((List.prefix_append _ _).trans hprefix),
    fun name rest => ?_⟩
  have hnone : d.entries.find? (·.1.parts == (d.locate output).parts ++ name :: rest) = none := by
    refine List.find?_eq_none.mpr fun entry hentry heq => habsent entry hentry ?_
    rw [beq_iff_eq.mp heq]
    exact List.prefix_append _ _
  rw [Disk.under?, Disk.at?, hnone]
  rfl

theorem Disk.exists_of_is_file {d : Disk} {p : Path} (h : d.isFile p) :
    ∃ content, d.entry? p = some (.file content) := by
  unfold isFile at h
  split at h
  · next content hentry => exact ⟨content, hentry⟩
  · cases h

section Histories

variable {output : Path} {allowed : MigrateRequest → Prop} {start d : Disk}

theorem Disk.IsEmptyAt.sound (h : start.IsEmptyAt output) : start.IsSound output :=
  ⟨h.proper, h.straight, h.outside, fun _ hthere => nomatch (h.nothing _ _).symm.trans hthere⟩

/-- The manifest is sound after any uses of the command, if rollbacks have a path to the output
directory that does not go up. -/
theorem Migrated.sound (hempty : start.IsEmptyAt output)
    (hup : ∀ q, allowed q → q.rollback → ".." ∉ output.parts)
    (h : Migrated output allowed start d) : d.IsSound output := by
  induction h with
  | start => exact hempty.sound
  | use _ hobservers houtput hallowed now ih =>
      subst houtput
      exact MigrateRequest.run_sound hobservers ih (hup _ hallowed)
  | change _ hkept ih => exact ih.of_keeps_units hkept

end Histories

section Example

/-- The tree of the module that a function component becomes that returns one element. -/
def cardModuleTree : Node :=
  .mk { kind := "program", endLine := 17 }
    [.mk { kind := "import_statement", startLine := 8, endLine := 8, text := "import React from \"react\";" }
      [.mk { kind := "import_clause", startLine := 8, endLine := 8, text := "React" }
        [.mk { kind := "identifier", startLine := 8, endLine := 8, text := "React" } []],
        .mk { kind := "string", field := "source", startLine := 8, endLine := 8, text := "\"react\"" }
          [.mk { kind := "string_fragment", startLine := 8, endLine := 8, text := "react" } []]],
      .mk
          { kind := "export_statement", startLine := 10, endLine := 11
            text := "export interface CardProps \x7b\n\x7d" }
        [.mk
            { kind := "interface_declaration", field := "declaration", startLine := 10, endLine := 11
              text := "interface CardProps \x7b\n\x7d" }
          [.mk { kind := "type_identifier", field := "name", startLine := 10, endLine := 10
                 text := "CardProps" } [],
            .mk { kind := "interface_body", field := "body", startLine := 10, endLine := 11
                  text := "\x7b\n\x7d" } []]],
      .mk
          { kind := "export_statement", startLine := 13, endLine := 15
            text := "export function Card() \x7b\n  return <p/>;\n\x7d" }
        [.mk
            { kind := "function_declaration", field := "declaration", startLine := 13, endLine := 15
              text := "function Card() \x7b\n  return <p/>;\n\x7d" }
          [.mk { kind := "identifier", field := "name", startLine := 13, endLine := 13, text := "Card" } [],
            .mk { kind := "formal_parameters", field := "parameters", startLine := 13, endLine := 13
                  text := "()" } [],
            .mk
                { kind := "statement_block", field := "body", startLine := 13, endLine := 15
                  text := "\x7b\n  return <p/>;\n\x7d" }
              [.mk { kind := "return_statement", startLine := 14, endLine := 14, text := "return <p/>;" }
                [.mk { kind := "jsx_self_closing_element", startLine := 14, endLine := 14
                       text := "<p/>" }
                  [.mk { kind := "identifier", field := "name", startLine := 14, endLine := 14
                         text := "p" } []]]]]],
      .mk { kind := "export_statement", startLine := 17, endLine := 17, text := "export default Card;" }
        [.mk { kind := "identifier", field := "value", startLine := 17, endLine := 17
               text := "Card" } []]]

/-- The trees of the file of this component and of its module. -/
def cardContext : RunContext :=
  { grammar := fun _ text =>
      if text == "export function Card() \x7b return <p/>; \x7d" then cardTree else cardModuleTree }

/-- The migration of this component into an output directory. -/
def cardMigration (output : Path) : MigrateRequest :=
  { name := some "Card", source := ⟨"", ["src"]⟩, output := output }

/-- The state after this migration. -/
def migratedCard (output : Path) : RunState :=
  (((cardMigration output).run ⟨0⟩).exec cardContext { disk := cardDisk }).2

/-- A rollback for an output directory. -/
def rollbackOf (output : Path) : MigrateRequest := { output := output, rollback := true }

/-- An output directory whose name cannot be shown. -/
def unshownOutput : Path := ⟨"", ["[", "b]"]⟩

/-- The migration writes a manifest.  Where the output directory cannot be shown, a rollback after it
ends with success and leaves the module. -/
theorem migrated_card_runs :
    (migratedCard ⟨"", ["out"]⟩).disk.isFile (Run.manifestPath ⟨"", ["out"]⟩) = true ∧
    (fun r : Except Failure CommandOutcome × RunState =>
      (r.1.toOption.map CommandOutcome.exit, r.2.disk.isFile (Disk.modulePath unshownOutput "Card")))
      (((rollbackOf unshownOutput).run ⟨0⟩).exec cardContext (migratedCard unshownOutput)) =
      (some 0, true) :=
  ⟨by decide +kernel, by decide +kernel⟩

theorem card_disk_empty {output : Path}
    (habsent : ∀ entry ∈ cardDisk.entries, ¬(cardDisk.locate output).parts <+: entry.1.parts)
    (hcwd : ¬(cardDisk.locate output).parts <+: cardDisk.cwd.parts) : cardDisk.IsEmptyAt output :=
  .of_absent (by unfold Disk.IsProper; decide) (by decide) habsent hcwd

theorem migrated_card (output : Path) (allowed : MigrateRequest → Prop)
    (hallowed : allowed (cardMigration output)) :
    Migrated output allowed cardDisk (migratedCard output).disk :=
  .use (s := { disk := cardDisk }) .start rfl rfl hallowed ⟨0⟩

end Example

/-- After any uses of the command for an output directory that was empty at first, the manifest there
lists no name twice as successful, none twice as failed and none as both, and the module of every
successful name is there; so it is for what is read from the manifest.  A path to the output
directory must not go up. -/
theorem migrated_manifest_lists_units {output : Path} {start d : Disk}
    (hempty : start.IsEmptyAt output) (hup : ".." ∉ output.parts)
    (h : Migrated output (fun _ => True) start d) :
    (∀ content, d.entry? (Run.manifestPath output) = some (.file content) →
      ∃ (m : Manifest) (done failed : List String),
        Disk.textOf content = .ok m.toJson.indented ∧ m.Lists done failed ∧
        ∀ name ∈ done, d.isFile (Disk.modulePath output name)) ∧
    ∀ {context : RunContext} {s t : RunState} {now : Instant} {m : Manifest}, s.disk = d →
      (Run.loadManifest output now).exec context s = (.ok (some m), t) →
      ∃ done failed, m.Lists done failed ∧
        ∀ name ∈ done, d.isFile (Disk.modulePath output name) := by
  have hsound := h.sound hempty fun _ _ _ => hup
  refine ⟨fun content hentry => ?_, ?_⟩
  · have hunder := Disk.under_of_entry hentry
    obtain ⟨done, failed, m, hm, hwritten⟩ := hsound.manifest content hunder
    cases hwritten.symm.trans hunder
    exact ⟨m, done, failed, Json.text_of_encode_indented _, hm.lists, fun name hname =>
      Disk.is_file_of_has_module (hm.modules name hname).1 (hm.modules name hname).2 hentry⟩
  · rintro context s t now m rfl hload
    have hloaded : (Run.loadManifest output now).Meets context s _ _ :=
      Run.load_manifest_meets hsound
    rw [Run.Meets, hload] at hloaded
    obtain ⟨⟨content, hentry⟩, done, failed, -, hm⟩ := hloaded
    exact ⟨done, failed, hm.lists, fun name hname =>
      Disk.is_file_of_has_module (hm.modules name hname).1 (hm.modules name hname).2 hentry⟩

theorem migrated_manifest_lists_card :
    ∃ content, (migratedCard ⟨"", ["out"]⟩).disk.entry? (Run.manifestPath ⟨"", ["out"]⟩) =
        some (.file content) ∧
      ∃ (m : Manifest) (done failed : List String),
        Disk.textOf content = .ok m.toJson.indented ∧ m.Lists done failed ∧
        ∀ name ∈ done,
          (migratedCard ⟨"", ["out"]⟩).disk.isFile (Disk.modulePath ⟨"", ["out"]⟩ name) := by
  have hempty : cardDisk.IsEmptyAt ⟨"", ["out"]⟩ := card_disk_empty (by decide) (by decide)
  obtain ⟨content, hentry⟩ := Disk.exists_of_is_file migrated_card_runs.1
  exact ⟨content, hentry,
    (migrated_manifest_lists_units hempty (by decide) (migrated_card _ _ trivial)).1 content hentry⟩

/-- A command that tells a fault does not end with success. -/
theorem failed_exit_ne_zero (console : Console) (f : Fault) :
    (CommandOutcome.failed console f).exit ≠ 0 := by
  unfold CommandOutcome.failed Fault.exitCode
  split <;> exact Nat.succ_ne_zero _

/-- A rollback that ends with success has rolled back. -/
theorem MigrateRequest.rolled_back_of_exit {q : MigrateRequest} (hrollback : q.rollback)
    {now : Instant} {context : RunContext} {s t : RunState} {outcome : CommandOutcome}
    (hrun : (q.run now).exec context s = (.ok outcome, t)) (hexit : outcome.exit = 0) :
    ∃ removed, (Run.rollback q.output now).exec context s = (.ok removed, t) := by
  have hrolled : Run.Meets (Run.rollback q.output now) context s
      (fun removed t => (Run.rollback q.output now).exec context s = (.ok removed, t))
      fun _ => True := by
    unfold Run.Meets
    split
    · next hexec => exact hexec
    · trivial
  have hprepared : Run.Meets (Run.attempt (q.prepare now)) context s
      (fun prepared t => ∀ preparation, prepared = .ok preparation →
        (∃ line, preparation = .done line) ∧
        ∃ removed, (Run.rollback q.output now).exec context s = (.ok removed, t))
      fun _ => True := by
    refine Run.meets_attempt ?_
    unfold prepare
    rw [if_pos hrollback]
    refine Run.meets_bind (hrolled.mono (fun _ _ h => h) fun _ _ _ => nofun)
      fun removed t hexec preparation heq => ?_
    cases heq
    exact ⟨⟨_, rfl⟩, removed, hexec⟩
  have hended : Run.Meets (q.run now) context s (fun outcome t => outcome.exit = 0 →
      ∃ removed, (Run.rollback q.output now).exec context s = (.ok removed, t)) fun _ => True := by
    unfold run
    refine Run.meets_bind hprepared fun prepared t ht => ?_
    split
    · exact fun _ => (ht _ rfl).2
    · obtain ⟨⟨line, hline⟩, -⟩ := ht _ rfl
      cases hline
    · exact fun hzero => absurd hzero (failed_exit_ne_zero _ _)
    · split
      · exact fun hzero => absurd hzero (failed_exit_ne_zero _ _)
      · exact fun hzero => nomatch hzero
  rw [Run.Meets, hrun] at hended
  exact hended hexit

/-- After any uses of the command for an output directory that was empty at first, a rollback that
ends with success leaves no manifest there and nothing of the units that the manifest listed as
successful; nothing else on the disk is changed.  Earlier rollbacks need a path to the output
directory that does not go up. -/
theorem rollback_removes_listed_units {output : Path} {start : Disk}
    (hempty : start.IsEmptyAt output) {s : RunState}
    (h : Migrated output (fun q => q.rollback → ".." ∉ output.parts) start s.disk)
    {context : RunContext} (hobservers : context.observers = []) {q : MigrateRequest}
    (houtput : q.output = output) (hrollback : q.rollback) {now : Instant} {t : RunState}
    {outcome : CommandOutcome} (hrun : (q.run now).exec context s = (.ok outcome, t))
    (hexit : outcome.exit = 0) :
    t.disk.entry? (Run.manifestPath output) = none ∧ ∃ done, s.disk.ListsDone output done ∧
      s.disk.RemovesBelow (s.disk.locate output).parts
        (fun c => c = Manifest.fileName ∨ c ∈ done) t.disk ∧
      ∀ name ∈ done, ∀ rest, t.disk.under? output (name :: rest) = none := by
  subst houtput
  obtain ⟨removed, hrolled⟩ := MigrateRequest.rolled_back_of_exit hrollback hrun hexit
  exact Run.rollback_removes hobservers (h.sound hempty fun _ hup => hup) hrolled

theorem rollback_of_unshown :
    ∃ outcome t, ((rollbackOf unshownOutput).run ⟨0⟩).exec cardContext (migratedCard unshownOutput) =
        (.ok outcome, t) ∧ outcome.exit = 0 ∧
      t.disk.isFile (Disk.modulePath unshownOutput "Card") := by
  have hends := migrated_card_runs.2
  cases hexec : ((rollbackOf unshownOutput).run ⟨0⟩).exec cardContext (migratedCard unshownOutput) with
  | mk result t =>
      rw [hexec] at hends
      obtain ⟨hexit, hfile⟩ := Prod.mk.inj hends
      cases result with
      | error failure => cases hexit
      | ok outcome => exact ⟨outcome, t, rfl, Option.some.inj hexit, hfile⟩

theorem unshown_empty : cardDisk.IsEmptyAt unshownOutput := card_disk_empty (by decide) (by decide)

theorem rollback_removes_listed_units_unshown :
    ∃ t : RunState, t.disk.entry? (Run.manifestPath unshownOutput) = none ∧ ∃ done,
      (migratedCard unshownOutput).disk.ListsDone unshownOutput done ∧
      (migratedCard unshownOutput).disk.RemovesBelow
        ((migratedCard unshownOutput).disk.locate unshownOutput).parts
        (fun c => c = Manifest.fileName ∨ c ∈ done) t.disk ∧
      ∀ name ∈ done, ∀ rest, t.disk.under? unshownOutput (name :: rest) = none := by
  obtain ⟨outcome, t, hrun, hexit, -⟩ := rollback_of_unshown
  exact ⟨t, rollback_removes_listed_units unshown_empty (migrated_card _ _ nofun) rfl rfl rfl hrun
    hexit⟩

/-- A migration that breaks off after the files of a unit are written lists no unit, and the rollback
leaves these files. -/
theorem rollback_leaves_unlisted_unit :
    cardDisk.IsEmptyAt unshownOutput ∧
    Migrated unshownOutput (fun q => q.rollback = false) cardDisk (migratedCard unshownOutput).disk ∧
    ∃ outcome t, ((rollbackOf unshownOutput).run ⟨0⟩).exec cardContext (migratedCard unshownOutput) =
        (.ok outcome, t) ∧ outcome.exit = 0 ∧
      t.disk.isFile (Disk.modulePath unshownOutput "Card") :=
  ⟨unshown_empty, migrated_card _ _ rfl, rollback_of_unshown⟩

end ComponentMigration
