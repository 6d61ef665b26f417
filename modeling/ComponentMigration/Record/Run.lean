import ComponentMigration.Fault.Explanation
import ComponentMigration.Fault.Recovery
import ComponentMigration.Json.Display
import ComponentMigration.Json.Value
import ComponentMigration.Pipeline.Run
import ComponentMigration.Record.Outcome
import ComponentMigration.Report.Markdown
import ComponentMigration.Settings.Table

/-!
# Records of runs

Faults, recoveries, progress, announcements and the outcome of a pipeline, as values of the data
notation.
-/

namespace ComponentMigration

/-- The context of a table. -/
def FaultContext.ofJson (v : Json) : FaultContext :=
  { unit := v.textAt? "unit"
    operation := v.textAt? "operation"
    correlationId := v.textAt? "correlation_id"
    filePath := v.textAt? "file_path"
    phase := v.textAt? "phase"
    data := (v.field "data").fields }

/-- The context in a table, if it has one. -/
def FaultContext.of? (v : Json) : Option FaultContext :=
  (v.tableAt? "context").map FaultContext.ofJson

/-- What a fault is and where it happened. -/
def Fault.summaryFields (f : Fault) : Assoc Json :=
  [("code", .str f.codeHead), ("message", .str f.message), ("category", .str f.category.label),
    ("severity", .str f.severity.label), ("unit", Json.ofText? f.context.unit),
    ("operation", Json.ofText? f.context.operation), ("phase", Json.ofText? f.context.phase),
    ("file_path", Json.ofText? f.context.filePath)]

/-- What else is known about a fault. -/
def Fault.detailFields (f : Fault) : Assoc Json :=
  [("recoverable", .bool f.recoverable), ("correlation_id", Json.ofText? f.context.correlationId),
    ("data", .obj f.context.data)]

/-- A recovery as a table. -/
def Recovery.toJson (r : Recovery) : Json :=
  .obj [("success", .bool r.success), ("action", .str r.action), ("message", .str r.message),
    ("data", .obj r.data), ("requires_manual_review", .bool r.requiresManualReview)]

/-- An explanation as a table. -/
def Explanation.toJson (e : Explanation) : Json :=
  .obj [("title", .str e.title), ("explanation", .str e.explanation),
    ("suggestions", Json.texts e.suggestions), ("workaround", Json.ofText? e.workaround),
    ("is_known_issue", .bool e.isKnownIssue)]

/-- A log in numbers as a table. -/
def ErrorLog.toJson (log : ErrorLog) : Json :=
  .obj [("total", Json.nat log.total), ("retained", Json.nat log.history.length),
    ("by_category", Json.counts log.byCategory), ("by_severity", Json.counts log.bySeverity),
    ("recent", .arr (log.recent.map fun f => Json.texts [f.codeHead, f.message]))]

/-- A strategy as a row. -/
def Strategy.toJson (s : Strategy) : Json :=
  .arr [.str s.name, s.priority, .bool s.autoRecoverable,
    Json.texts (Text.sorted (Text.unique (s.categories.map Category.label)))]

/-- The policy of a table. -/
def RetryPolicy.ofJson (v : Json) : RetryPolicy :=
  ⟨(v.get? "max_attempts").getD (.int 3), (v.get? "base_delay").getD (.float 1.0),
    (v.get? "max_delay").getD (.float 10.0)⟩

/-- What a label stands for; a label that is not known is refused. -/
def Json.labelled (read : String → Option α) (v : Json) : Usable α :=
  match v.text?.bind read with
  | some a => .ok a
  | none => .error ⟨.badValue, v.literal ++ " is not known", none⟩

/-- What the label of a field stands for; without a label, the default. -/
def Json.labelledAt (v : Json) (key : String) (read : String → Option α) (default : α) : Usable α :=
  match v.field key with
  | .null => .ok default
  | label => label.labelled read

/-- The strategy of a table: its recovery tells the fault's message. -/
def Strategy.ofJson (v : Json) : Usable Strategy := do
  let categories ← (← (← v.need "categories").members).mapM (Json.labelled Category.ofLabel?)
  let name := (← v.need "name").display
  let priority ← v.need "priority"
  return { name := name
           priority := priority
           autoRecoverable := v.boolAt "auto"
           categories := categories
           action := .custom fun f =>
             { success := v.boolAt "success" true, action := name,
               message := "custom: " ++ f.message } }

/-- The name of the group that a value stands for, where a list is a fixed sequence. -/
def groupName : Json → String
  | .arr items => Text.tupleText (items.map Json.literal)
  | other => other.display

/-- Whether a value is the number of a missing file. -/
def isMissingNumber (v : Json) : Bool := v == .int 2

/-- The fault of a class and a cause that a table describes; a cancellation has only a message and a
context. -/
def Fault.ofJson (cls : FaultClass) (cause : Option Cause) (v : Json) : Usable Fault := do
  let context := (FaultContext.of? v).getD {}
  if cls == .cancelled then return Fault.cancelled (v.textAt "message" "cancelled") context
  let f := Fault.of cls (v.textAt "message" "") context cause (v.boolAt "recoverable" true)
  return { f with
    category := ← v.labelledAt "category" Category.ofLabel? f.category
    severity := ← v.labelledAt "severity" Severity.ofLabel? f.severity }

/-- Progress as a table, with its two values as they are shown. -/
def Progress.toJson (p : Progress) : Json :=
  let (phase, overall) := p.shown
  .obj [("phase", .str p.phase.label), ("phase_progress", .float phase),
    ("overall_progress", .float overall), ("discovered", Json.nat p.discovered),
    ("parsed", Json.nat p.parsed), ("analyzed", Json.nat p.analyzed),
    ("errors", Json.nat p.errors), ("warnings", Json.nat p.warnings), ("message", .str p.message)]

/-- The name of an event. -/
def Event.name : Event → String
  | .phaseStart _ => "phase_start"
  | .phaseComplete _ => "phase_complete"
  | .progress => "progress"
  | .error _ _ => "error"
  | .warning _ => "warning"
  | .unit _ _ => "unit"

/-- What an announcement tells after its name. -/
def Announcement.details (a : Announcement) : List Json :=
  let p := a.progress
  let (phaseProgress, overall) := p.shown
  match a.event with
  | .phaseStart phase => [.str phase.label, .float overall]
  | .phaseComplete phase => [.str phase.label, .float overall]
  | .progress =>
    [.str p.phase.label, .float phaseProgress, .float overall, Json.nat p.discovered,
      Json.nat p.parsed, Json.nat p.analyzed, Json.nat p.errors, Json.nat p.warnings,
      .str p.message]
  | .error f phase =>
    [.str f.codeHead, .str f.category.label, .str f.severity.label, .str f.message,
      Json.ofText? f.context.unit, .str phase, .bool f.recoverable]
  | .warning message => [.str message]
  | .unit id phase => Json.texts [id, phase.label] |>.items

/-- An announcement as a row. -/
def Announcement.toJson (a : Announcement) : Json := .arr (.str a.event.name :: a.details)

/-- The announced units of a phase, in order. -/
def Board.units (b : Board) (phase : Phase) : List String :=
  b.announcements.filterMap fun a =>
    match a.event with
    | .unit id p => if p == phase then some id else none
    | _ => none

/-- The announced warnings, in order. -/
def Board.warnings (b : Board) : List String :=
  b.announcements.filterMap fun a =>
    match a.event with
    | .warning message => some message
    | _ => none

/-- What is told about a parsed unit. -/
def ParseOutcome.row (p : ParseOutcome) : Json :=
  .arr [.bool p.success, .ofQuantity p.complexity, .int p.cognitive, Json.texts p.errors,
    .bool p.requiresManualReview]

/-- What is told about an assessed unit. -/
def Readiness.row (r : Readiness) : Json :=
  .arr [.int r.overallScore, .str r.level.label, .str r.effort.label, .str r.risk.label]

/-- What is told about a transformed unit: its code, or only how long that is. -/
def TransformOutcome.row (id : String) (withCode : Bool) (t : TransformOutcome) : Json :=
  .arr [.str id, .bool t.success, if withCode then .str t.code else Json.nat t.code.length,
    Json.texts t.warnings, .str t.migrationEffort]

/-- What is told about a validated unit. -/
def ValidationReport.row (r : ValidationReport) : Json :=
  .arr [.bool r.comparison.equivalent, .int r.comparison.score, .float r.quality.overall]

/-- Numbers about a run as a table. -/
def RunMetrics.toJson (m : RunMetrics) : Json :=
  .obj [("units_processed", Json.nat m.unitsProcessed), ("peak_errors", Json.nat m.errors),
    ("errors_by_category", Json.counts m.errorsByCategory),
    ("errors_by_severity", Json.counts m.errorsBySeverity), ("transformed", Json.nat m.transformed)]

/-- What the phases of a run gave; what a phase did not give is absent. -/
def StageValues.fields (v : StageValues) : Assoc Json :=
  [("components", Json.ofOption (fun d => Json.texts (d.components.map Component.id)) v.discovery),
    ("issues", Json.ofOption (fun d => .arr (d.issues.map DiscoveryIssue.toJson)) v.discovery),
    ("metrics", Json.ofOption (fun a => a.metrics.toJson) v.analysis),
    ("cycles", Json.ofOption (fun a => .arr (a.graph.cycles.map Json.texts)) v.analysis),
    ("analysis_warnings", Json.ofOption (fun a => Json.texts a.warnings) v.analysis),
    ("readiness", Json.ofOption (fun i => .obj (i.components.map fun r => (r.unitId, r.row)))
      v.inventory),
    ("reports", Json.texts (v.reports.map Path.toText))]

/-- The results of single units. -/
def UnitResults.fields (r : UnitResults) (withCode : Bool) : Assoc Json :=
  [("parses", .obj (r.parses.map fun (id, p) => (id, p.row))),
    ("transformations", .arr (r.transforms.map fun (id, t) => t.row id withCode)),
    ("validations", .obj (r.validations.map fun (id, v) => (id, v.row)))]

/-- The outcome of a run, without its errors. -/
def PipelineOutcome.fields (o : PipelineOutcome) (withCode : Bool) : Assoc Json :=
  [("success", .bool o.success), ("phase", .str o.phase.label), ("run_id", .str o.runId)] ++
    o.values.fields ++ o.results.fields withCode ++
    [("warnings", Json.texts o.warnings), ("run_metrics", o.metrics.toJson),
      ("phases", Json.texts (o.metrics.phases.map Phase.label)), ("progress", o.progress.toJson),
      ("error_count", Json.nat o.progress.errors)]

/-- The settings whose values are always floating-point numbers. -/
def numericSettings : List String :=
  ["cluster_threshold", "together_cohesion", "staged_cohesion", "weeks_per_component", "base_delay",
    "max_delay", "phase_timeout"]

/-- An integer as a floating-point number; any other value stays. -/
def Json.asFloat (v : Json) : Json :=
  match v with
  | .int n => .float (Number.ofInt n)
  | other => other

/-- A setting as it is shown: fractions and tables of weights as floating-point numbers. -/
def shownSetting (key : String) (v : Json) : Json :=
  if numericSettings.contains key then v.asFloat
  else if key == "weights" || key == "effort_multipliers" then
    match v with
    | .obj fields => .obj (fields.map fun (k, w) => (k, w.asFloat))
    | other => other
  else v

/-- Settings as a table of tables. -/
def SettingsTable.toJson (t : SettingsTable) : Json :=
  .obj (t.map fun (name, values) => (name, .obj (values.map fun (k, v) => (k, shownSetting k v))))

end ComponentMigration
