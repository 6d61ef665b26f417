import ComponentMigration.Pipeline.Run
import ComponentMigration.Proofs.Pipeline.Stages
import ComponentMigration.Proofs.Run.Engines

/-!
# The work of the phases

What the phases of the pipeline do besides what every computation may do is to announce progress,
warnings and units, to keep the results of units, and to write reports.  A relation that all of this
stays within is one that the phases stay within; `RunRequest.work_quiet` says so for the marks of a
run: none of the phases announces a phase by itself.
-/

namespace ComponentMigration

/-- A relation that the announcements of progress, warnings and units stay within. -/
structure Listener.StaysWithin (listener : Listener) (R : RunState → RunState → Prop) : Prop where
  moveTo : ∀ (s : RunState) phase share message, R s (s.moveTo listener phase share message)
  warn : ∀ (s : RunState) message, R s (s.warn listener message)
  unit : ∀ (s : RunState) id phase, R s (s.announce listener (.unit id phase))
  progress : ∀ (s : RunState) (change : Progress → Progress),
    R s { s with board := { s.board with progress := change s.board.progress } }

/-- A relation that warnings and changes of anything but the milestones stay within. -/
structure Listener.RemarksStay (listener : Listener) (R : RunState → RunState → Prop) : Prop where
  warn : ∀ (s : RunState) message, R s (s.warn listener message)
  progress : ∀ (s : RunState) (change : Progress → Progress),
    (∀ p, (change p).milestones = p.milestones) →
      R s { s with board := { s.board with progress := change s.board.progress } }

theorem Listener.StaysWithin.remarks {listener : Listener} {R : RunState → RunState → Prop}
    (h : listener.StaysWithin R) : listener.RemarksStay R where
  warn := h.warn
  progress s change _ := h.progress s change

section Observers

variable {R : RunState → RunState → Prop} {context : RunContext}

/-- A run of the pipeline notes the faults for its listener, after the other observers. -/
theorem RunContext.ObserversStay.note_fault (h : context.ObserversStay R) {listener : Listener}
    (hnote : ∀ f s, R s (RunState.noteFault listener f s)) :
    RunContext.ObserversStay R
      { context with observers := context.observers ++ [RunState.noteFault listener] } := by
  intro observe hobserve f s
  rcases List.mem_append.mp hobserve with hobserve | hobserve
  · exact h observe hobserve f s
  · obtain rfl := List.mem_singleton.mp hobserve
    exact hnote f s

end Observers

/-- Announcing progress, warnings and units announces no phase. -/
theorem Listener.marks_stay (listener : Listener) :
    listener.StaysWithin (InvImage Board.SameMarks RunState.board) where
  moveTo _ phase share message := RunState.marks_move_to phase share message
  warn _ message := RunState.marks_warn message
  unit s id phase := by
    show (s.announce listener (.unit id phase)).board.marks = s.board.marks
    rw [RunState.marks_announce]
    exact List.append_nil _
  progress _ _ := rfl

namespace RunRequest

variable {R : RunState → RunState → Prop} {q : RunRequest}

theorem stays_on_progress (h : q.listener.RemarksStay R) {change : Progress → Progress}
    (hchange : ∀ p, (change p).milestones = p.milestones) : (onProgress change).Stays R :=
  Run.stays_modify fun s => h.progress s change hchange

variable [RunState.IsLax R]

theorem stays_for_m_warn {α : Type} (h : q.listener.RemarksStay R) (messages : List α)
    (text : α → String) :
    Run.Stays R (messages.forM fun m => modify (RunState.warn q.listener (text m))) :=
  Run.stays_for_m (fun m => Run.stays_modify fun s => h.warn s (text m)) messages

theorem stays_discover_phase (h : q.listener.RemarksStay R) : q.discoverPhase.Stays R :=
  Run.stays_bind (stays_discover q.root) fun found =>
    Run.stays_bind (stays_on_progress h fun _ => rfl) fun _ =>
      Run.stays_bind (stays_for_m_warn h found.issues _) fun _ => Run.stays_pure found

theorem stays_analyze_phase (h : q.listener.RemarksStay R) (components : List Component) :
    (q.analyzePhase components).Stays R :=
  Run.stays_bind (stays_analyze components []) fun analysis =>
    Run.stays_bind (stays_on_progress h fun _ => rfl) fun _ =>
      Run.stays_bind (stays_for_m_warn h analysis.warnings _) fun _ => Run.stays_pure analysis

theorem stays_note_assessed (h : q.listener.StaysWithin R) (total : Nat) (c : Component) :
    (q.noteAssessed total c).Stays R :=
  Run.stays_bind Run.stays_get fun _ =>
    Run.stays_bind (Run.stays_modify fun s => h.moveTo s _ _ _) fun _ =>
      Run.stays_modify fun s => h.unit s _ _

theorem stays_inventory_phase {v : StageValues}
    (hnote : ∀ c, (q.noteAssessed (max v.units.length 1) c).Stays R) :
    (q.inventoryPhase v).Stays R :=
  Run.stays_bind Run.stays_get fun _ => stays_inventory _ _ _ _ _ hnote

theorem stays_report_phase (hdisk : ∀ (s : RunState) disk, R s { s with disk := disk })
    (options : PipelineSettings) (inventory : Inventory) (analysis : Option DependencyAnalysis) :
    (reportPhase options inventory analysis).Stays R := by
  unfold reportPhase
  split
  · exact Run.stays_bind (Run.stays_use _) fun _ => stays_write_reports hdisk _ _ _
  · exact Run.stays_pure []

theorem stays_require_parsed (id : String) (outcome : ParseOutcome) :
    (requireParsed id outcome).Stays R := by
  unfold requireParsed
  grind

theorem stays_tell_parsed (h : q.listener.StaysWithin R) (total : Nat) (id : String) :
    (q.tellParsed total id).Stays R :=
  Run.stays_bind Run.stays_get fun _ =>
    Run.stays_bind (stays_on_progress h.remarks fun _ => rfl) fun _ =>
      Run.stays_bind (Run.stays_modify fun s => h.moveTo s _ _ _) fun _ =>
        Run.stays_modify fun s => h.unit s _ _

theorem stays_tell_transformed (h : q.listener.StaysWithin R) (total : Nat) (id : String) :
    (q.tellTransformed total id).Stays R :=
  Run.stays_bind Run.stays_get fun _ =>
    Run.stays_bind (Run.stays_modify fun s => h.moveTo s _ _ _) fun _ =>
      Run.stays_modify fun s => h.unit s _ _

theorem stays_warn_unless_equivalent (h : q.listener.RemarksStay R) (id : String)
    (report : ValidationReport) : (q.warnUnlessEquivalent id report).Stays R := by
  unfold warnUnlessEquivalent
  split
  · exact Run.stays_modify fun s => h.warn s _
  · exact Run.stays_pure ()

theorem stays_require_transformed : requireTransformed.Stays R := by
  unfold requireTransformed
  grind

theorem stays_parse_phase {components : List Component}
    (hkeep : ∀ r, (q.keepParse (max components.length 1) r).Stays R) :
    (q.parsePhase components).Stays R := by
  refine Run.stays_bind Run.stays_read fun context => Run.stays_use_bind fun limits hlimits => ?_
  have hpos : ∀ n, limits.batchSize.int? = some n → 0 < n := fun n =>
    BatchLimits.batch_size_pos hlimits
  exact Run.stays_bind (BatchJob.stays_run (fun c => stays_parse_unit c none)
    (Run.stays_checkpoint _) hkeep hpos {} components) fun _ => Run.stays_pure _

theorem stays_validate_one (h : q.listener.RemarksStay R)
    (hvalidations : ∀ (s : RunState) validations,
      R s { s with results := { s.results with validations := validations } }) (c : Component) :
    (q.validateOne c).Stays R := by
  refine Run.stays_bind (Run.stays_place ..) fun place => Run.stays_bind (Run.stays_checkpoint place)
    fun _ => Run.stays_bind Run.stays_get fun s => ?_
  split
  · exact Run.stays_pure ()
  · exact Run.stays_bind (Run.stays_use _) fun report =>
      Run.stays_bind (Run.stays_modify fun s => hvalidations s _) fun _ =>
        stays_warn_unless_equivalent h _ _

theorem stays_keep_parse (h : q.listener.StaysWithin R)
    (hparses : ∀ (s : RunState) parses,
      R s { s with results := { s.results with parses := parses } })
    (total : Nat) (r : TaskResult ParseOutcome) : (q.keepParse total r).Stays R :=
  Run.stays_bind (Run.stays_modify fun s => hparses s _) fun _ =>
    Run.stays_bind (stays_require_parsed _ _) fun _ => stays_tell_parsed h total r.key

section Transforming

variable (h : q.listener.StaysWithin R)
  (hresults : ∀ (s : RunState) transforms validations, R s { s with
    results := { s.results with transforms := transforms, validations := validations } })
include h hresults

theorem stays_keep_transform (candidates : List Component) (r : TaskResult TransformOutcome) :
    (q.keepTransform candidates r).Stays R := by
  unfold keepTransform
  cases r.transformOutcome candidates with
  | none => exact Run.stays_trouble _
  | some outcome =>
      exact Run.stays_bind (Run.stays_modify fun s => hresults s _ s.results.validations) fun _ =>
        stays_tell_transformed h _ _

theorem stays_transform_units (components : List Component) (inventory : Inventory) :
    (q.transformUnits components inventory).Stays R := by
  refine Run.stays_bind Run.stays_read fun context => Run.stays_bind (Run.stays_use _) fun levels => ?_
  dsimp only
  split
  · exact Run.stays_pure ()
  · exact Run.stays_bind (stays_transform_batch _ _ (stays_keep_transform h hresults _)) fun _ =>
      Run.stays_bind stays_require_transformed fun _ =>
        Run.stays_for_m (stays_validate_one h.remarks fun s => hresults s s.results.transforms) _

theorem stays_output_phase (hdisk : ∀ (s : RunState) disk, R s { s with disk := disk })
    (v : StageValues) : (q.outputPhase v).Stays R := by
  have htransform := stays_transform_units h hresults
  have hreport := stays_report_phase hdisk
  refine Run.stays_bind Run.stays_read fun context => ?_
  grind

end Transforming

end RunRequest

/-- Work of phases that announces no phase, whatever else it does. -/
structure PhaseWork.Quiet (work : PhaseWork) : Prop where
  discover : work.discover.Quiet
  parse : ∀ components, (work.parse components).Quiet
  analyze : ∀ components, (work.analyze components).Quiet
  assess : ∀ v, (work.assess v).Quiet
  write : ∀ v, (work.write v).Quiet

/-- None of the phases of the pipeline announces a phase by itself. -/
theorem RunRequest.work_quiet (q : RunRequest) : q.work.Quiet := by
  have h := q.listener.marks_stay
  have hdisk : ∀ (s : RunState) disk,
      InvImage Board.SameMarks RunState.board s { s with disk := disk } := fun _ _ => rfl
  exact
    { discover := (stays_discover_phase h.remarks).keeps
      parse := fun _ => (stays_parse_phase (stays_keep_parse h (fun _ _ => rfl) _)).keeps
      analyze := fun components => (stays_analyze_phase h.remarks components).keeps
      assess := fun _ => (stays_inventory_phase (stays_note_assessed h _)).keeps
      write := fun v => (stays_output_phase h (fun _ _ _ => rfl) hdisk v).keeps }

end ComponentMigration
