import ComponentMigration.Artifact.Bundle
import ComponentMigration.Dependency.Analyze
import ComponentMigration.Module.Transform
import ComponentMigration.Project.Discovery
import ComponentMigration.Proofs.Run.Batch
import ComponentMigration.Readiness.Inventory

/-!
# What the engines leave alone

Discovery, parsing, analysis, assessment and transformation read files and record faults, and do
nothing else to the state of a run: they stay within every lax relation.  Reports are written to the
disk besides.
-/

namespace ComponentMigration

variable {R : RunState → RunState → Prop} [RunState.IsLax R]

@[grind ←] theorem stays_parse_as (path : Path) (source : String) :
    (Run.parseAs path source).Stays R := by
  unfold Run.parseAs
  grind

theorem stays_read_source {file : SourceFile} (hsize : Run.Stays R file.size)
    (htext : Run.Stays R file.text) (component : Component) :
    (Run.readSource component file).Stays R := by
  have htake : Run.Stays R file.take := by
    unfold SourceFile.take
    grind
  unfold Run.readSource
  grind

theorem stays_parse_text (component : Component) (text : String) :
    (Run.parseText component text).Stays R := by
  unfold Run.parseText
  grind

theorem stays_parse_once {file : SourceFile} (hsize : Run.Stays R file.size)
    (htext : Run.Stays R file.text) (component : Component) (source : Option String) :
    (Run.parseOnce component file source).Stays R := by
  refine Run.stays_bind ?_ fun text => stays_parse_text component text
  have hread := stays_read_source hsize htext component
  unfold Run.sourceOf
  grind

theorem stays_parse_file (component : Component) (path : Path) (source : Option String) :
    (Run.parseOnce component (.ofPath path) source).Stays R := by
  have hsize : Run.Stays R (Run.onDisk fun d => (d.size path, d)) :=
    Run.stays_on_disk_of_kept fun _ => ⟨rfl, rfl⟩
  exact stays_parse_once hsize (Run.stays_read_text path) component source

theorem stays_parse_unit (component : Component) (source : Option String) :
    (Run.parseUnit component source).Stays R := by
  have honce := stays_parse_file (R := R) component (Path.ofText component.absolutePath) source
  unfold Run.parseUnit Run.parseFrom
  grind

theorem stays_scan_files (root : Path) : (Run.scanFiles root).Stays R := by
  unfold Run.scanFiles
  grind

theorem stays_load_coverage (root : Path) : (Run.loadCoverage root).Stays R := by
  refine Run.stays_bind Run.stays_read fun context => Run.stays_bind (Run.stays_use _) fun path =>
    Run.stays_bind (Run.stays_exists path) fun found => ?_
  split
  · exact Run.stays_pure []
  · refine Run.stays_bind (Run.stays_attempt (Run.stays_read_text path)) fun outcome => ?_
    grind

theorem stays_read_file_bytes (path : Path) (rel : String) :
    (Run.readFileBytes path rel).Stays R := by
  have hbytes : Run.Stays R (Run.onDisk (·.readBytes path)) := Run.stays_read_bytes path
  unfold Run.readFileBytes
  grind

theorem stays_file_place (rel : String) : (Run.filePlace rel).Stays R := Run.stays_place ..

theorem stays_read_source_file (path : Path) (rel : String) :
    (Run.readSourceFile path rel).Stays R := by
  have hundecoded : ∀ t, (Run.undecodedFile rel t).Stays R := fun t =>
    Run.stays_bind (stays_file_place rel) fun _ => Run.stays_record _
  refine Run.stays_bind (stays_file_place rel) fun place => Run.stays_bind (Run.stays_attempt
    (Run.stays_with_recovery (stays_read_file_bytes path rel) place _)) fun outcome => ?_
  grind

theorem stays_analyze_file (path root : Path) (coverage : Assoc Float) :
    (Run.analyzeFile path root coverage).Stays R := by
  refine Run.stays_bind (stays_read_source_file path _) fun outcome => ?_
  grind

theorem stays_analyze_sources (root : Path) (coverage : Assoc Float) (paths : List Path)
    (units : List Component) (issues : List DiscoveryIssue) :
    (Run.analyzeSources root coverage paths units issues).Stays R := by
  induction paths generalizing units issues with
  | nil => exact Run.stays_pure _
  | cons path rest ih =>
      exact Run.stays_bind (Run.stays_place ..) fun _ => Run.stays_bind (Run.stays_checkpoint _)
        fun _ => Run.stays_bind (stays_analyze_file path root coverage) fun _ => ih _ _

theorem stays_discover (root : Path) : (Run.discover root).Stays R :=
  Run.stays_bind Run.stays_get fun _ => Run.stays_bind (Run.stays_use _) fun root =>
    Run.stays_bind (stays_scan_files root) fun _ => Run.stays_bind (stays_load_coverage root)
      fun _ => Run.stays_bind (stays_analyze_sources ..) fun _ =>
        Run.stays_bind (Run.stays_use _) fun _ => Run.stays_pure _

theorem stays_read_document (path : String) : (Run.readDocument path).Stays R := by
  have htext : Run.Stays R (Run.onDisk (·.readTextReplacing (Path.ofText path))) :=
    Run.stays_read_text_replacing _
  unfold Run.readDocument
  grind

theorem stays_document_of (documents : Assoc Document) (file absolute : String) :
    (Run.documentOf documents file absolute).Stays R := by
  have hread : Run.Stays R (some <$> Run.readDocument absolute) :=
    Run.stays_map some (stays_read_document absolute)
  unfold Run.documentOf
  split
  · exact Run.stays_pure _
  · refine Run.stays_bind (Run.stays_place ..) fun place => ?_
    refine Run.stays_bind (Run.stays_attempt (Run.stays_with_recovery hread place _)) fun outcome => ?_
    grind

theorem stays_record_broken (file reason : String) (units : List Component) :
    (Run.recordBroken file reason units).Stays R := by
  induction units with
  | nil => exact Run.stays_pure ()
  | cons u rest ih =>
      exact Run.stays_bind (Run.stays_place ..) fun _ => Run.stays_bind (Run.stays_record _)
        fun _ => ih

theorem stays_read_file (documents : Assoc Document) (file : String) (units : List Component) :
    (Run.readFile documents file units).Stays R := by
  have hobstacle : ∀ r, (Run.recordObstacle r).Stays R := by
    intro r
    unfold Run.recordObstacle
    split
    · exact stays_record_broken ..
    · exact Run.stays_pure ()
  exact Run.stays_bind (Run.stays_place ..) fun _ => Run.stays_bind (Run.stays_checkpoint _)
    fun _ => Run.stays_bind (stays_document_of ..) fun _ => Run.stays_bind (hobstacle _)
      fun _ => Run.stays_pure _

theorem stays_gather_file (documents : Assoc Document) (primary : Assoc String)
    (state : AnalysisState) (entry : String × List Component) :
    (Run.gatherFile documents primary state entry).Stays R := by
  refine Run.stays_bind (stays_read_file documents entry.1 entry.2) fun reading => ?_
  grind

theorem stays_analyze (components : List Component) (documents : Assoc Document) :
    (Run.analyze components documents).Stays R :=
  Run.stays_bind (Run.stays_foldl_m (stays_gather_file documents _) _ _) fun _ =>
    Run.stays_bind Run.stays_read fun _ => Run.stays_use _

theorem stays_assess_all (parses : Assoc ParseOutcome) (analysis : Option DependencyAnalysis)
    {onUnit : Component → Run Unit} (hunit : ∀ c, (onUnit c).Stays R)
    (components : List Component) :
    (Run.assessAll parses analysis onUnit components).Stays R := by
  induction components with
  | nil => exact Run.stays_pure []
  | cons c rest ih =>
      exact Run.stays_bind (Run.stays_place ..) fun _ => Run.stays_bind (Run.stays_checkpoint _)
        fun _ => Run.stays_bind Run.stays_read fun _ => Run.stays_bind (Run.stays_use _) fun _ =>
          Run.stays_bind (hunit c) fun _ => Run.stays_bind ih fun _ => Run.stays_pure _

theorem stays_inventory (generatedAt source : String) (components : List Component)
    (parses : Assoc ParseOutcome) (analysis : Option DependencyAnalysis)
    {onUnit : Component → Run Unit} (hunit : ∀ c, (onUnit c).Stays R) :
    (Run.inventory generatedAt source components parses analysis onUnit).Stays R :=
  Run.stays_bind (stays_assess_all parses analysis hunit components) fun _ =>
    Run.stays_bind Run.stays_read fun _ => Run.stays_use _

theorem stays_unit_text (component : Component) (source : Option String) :
    (Run.unitText component source).Stays R := by
  unfold Run.unitText
  split
  · exact Run.stays_pure _
  · exact Run.stays_read_text _

theorem stays_transform_text (component : Component) (text : String) :
    (Run.transformText component text).Stays R := by
  have hsite : ∀ document context site,
      (Run.transformSite component text document context site).Stays R := by
    intro document context site
    unfold Run.transformSite
    grind
  unfold Run.transformText
  grind

theorem stays_transform_from (component : Component) {source : Run String}
    (hsource : source.Stays R) : (Run.transformFrom component source).Stays R := by
  refine Run.stays_bind (Run.stays_place ..) fun place => Run.stays_bind (Run.stays_checkpoint place)
    fun _ => Run.stays_bind (Run.stays_attempt (Run.stays_with_recovery
      (Run.stays_bind hsource (stays_transform_text component)) place _)) fun outcome => ?_
  grind

theorem stays_transform_unit (component : Component) (source : Option String) :
    (Run.transformUnit component source).Stays R :=
  stays_transform_from component (stays_unit_text component source)

theorem stays_transform_batch (components : List Component) (sources : Assoc String)
    {onResult : TaskResult TransformOutcome → Run Unit} (hresult : ∀ r, (onResult r).Stays R) :
    (Run.transformBatch components sources onResult).Stays R := by
  refine Run.stays_bind Run.stays_read fun context => Run.stays_use_bind fun limits hlimits => ?_
  have hpos : ∀ n, limits.batchSize.int? = some n → 0 < n := fun n =>
    BatchLimits.batch_size_pos hlimits
  exact Run.stays_bind (BatchJob.stays_run
    (fun c => stays_transform_from c (stays_unit_text c _)) (Run.stays_checkpoint _) hresult hpos _
      components) fun results => Run.stays_pure _

/-- Writing files stays within relations that do not look at the disk. -/
theorem stays_write_files (hdisk : ∀ (s : RunState) disk, R s { s with disk := disk })
    (directory : Path) (files : List (String × String)) :
    (Run.writeFiles directory files).Stays R := by
  induction files with
  | nil => exact Run.stays_pure ()
  | cons file rest ih =>
      have hwrite : ∀ path text, (Run.writeFile path text).Stays R := fun path text =>
        Run.stays_bind (Run.stays_on_disk fun s => hdisk s _) fun _ =>
          Run.stays_on_disk fun s => hdisk s _
      exact Run.stays_bind (hwrite _ _) fun _ => ih

theorem stays_write_reports (hdisk : ∀ (s : RunState) disk, R s { s with disk := disk })
    (inventory : Inventory) (analysis : Option DependencyAnalysis) (output : Path) :
    (Run.writeReports inventory analysis output).Stays R :=
  Run.stays_bind (Run.stays_on_disk fun s => hdisk s _) fun _ =>
    Run.stays_bind (stays_write_files hdisk ..) fun _ => Run.stays_pure _

end ComponentMigration
