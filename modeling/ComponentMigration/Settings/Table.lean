import ComponentMigration.Settings.Basic
import ComponentMigration.Fault.Basic
import ComponentMigration.Json.Display
import ComponentMigration.Run.Token
import ComponentMigration.Sorting

/-!
# Settings as tables of values

A configuration file gives sections of keys and values.  `merge` lays them over the defaults;
sections and keys that are not known change nothing.  `validate` checks the ranges, in a fixed
order, and tells the first violation.  A value of the wrong sort is found only where a check has to
compare it; one that no check compares is kept as it is, and `settings` says what trouble its use
meets.
-/

namespace ComponentMigration

/-- Sections of keys and values. -/
abbrev SettingsTable := Assoc (Assoc Json)

namespace SettingsTable

/-- The weights as a table. -/
def weightTable (weights : Assoc Quantity) : Json :=
  .obj (weights.map fun (name, w) => (name, Json.ofQuantity w))

/-- The defaults. -/
def default : SettingsTable :=
  [("discovery",
      [("include", Json.texts ["*.tsx", "*.ts", "*.jsx", "*.js"]),
        ("exclude", Json.texts ["*.test.*", "*.spec.*", "*.stories.*", "*.d.ts"]),
        ("skip_dirs", Json.texts
          [".cache", ".git", ".next", ".turbo", "build", "coverage", "dist", "node_modules",
            "out"]),
        ("max_files", .int 10000), ("coverage_report", .null)]),
    ("parser", [("max_file_size", .int 1048576)]),
    ("analysis",
      [("include_transitive", .bool true), ("max_depth", .int 5), ("detect_cycles", .bool true),
        ("generate_clusters", .bool true), ("cluster_threshold", .float 0.3),
        ("together_cohesion", .float 0.7), ("staged_cohesion", .float 0.4),
        ("high_risk_bindings", .int 5)]),
    ("inventory",
      [("readiness_threshold", .int 75), ("weights", weightTable defaultWeights),
        ("effort_cut_points", .arr [.int 2, .int 4, .int 6]),
        ("risk_cut_points", .arr [.int 2, .int 4, .int 6]),
        ("max_components_per_phase", .int 10), ("weeks_per_component", .float 0.5),
        ("effort_multipliers",
          .obj [("low", .int 1), ("medium", .int 2), ("high", .int 4), ("very-high", .int 8)])]),
    ("transform",
      [("extract_business_logic", .bool true), ("compat_layer", .bool false),
        ("parallel", .bool false), ("max_concurrency", .int 4), ("batch_size", .int 8),
        ("prioritize_by_complexity", .bool true), ("group_by_similarity", .bool false),
        ("transform_levels", Json.texts ["ready"])]),
    ("pipeline",
      [("mode", .str "full-pipeline"), ("parallel", .bool false), ("max_workers", .int 4),
        ("batch_size", .int 8), ("skip_errors", .bool true), ("generate_reports", .bool true),
        ("output_dir", .str "migration-reports"), ("transform", .bool false),
        ("dry_run", .bool false), ("phase_timeout", .null)]),
    ("retry",
      [("max_attempts", .int 3), ("base_delay", .float 1.0), ("max_delay", .float 10.0)])]

/-- The value of a key in a section. -/
def value (t : SettingsTable) (sectionName key : String) : Json :=
  ((t.get? sectionName).bind (Assoc.get? · key)).getD .null

/-- One value laid over another: the two tables of numbers are merged key by key. -/
def overlay (key : String) (old new : Json) : Json :=
  if key == "weights" || key == "effort_multipliers" then
    match old, new with
    | .obj o, .obj n => .obj (Assoc.update o n)
    | _, _ => new
  else new

/-- Lays the values of a section over a section; keys that it does not have are left out. -/
def overlaySection (base : Assoc Json) (values : Assoc Json) : Assoc Json :=
  values.foldl (fun acc (key, v) =>
    match acc.get? key with
    | some old => acc.set key (overlay key old v)
    | none => acc) base

/-- A violation of the rules for settings. -/
def violation (message : String) : Failure := .fault (Fault.of .configuration message)

/-- Checks that a rule holds. -/
def require (holds : Bool) (complaint : String) : Except Failure Unit :=
  if holds then .ok () else .error (violation complaint)

/-- A value that can be used, or the failure that its use is. -/
def need (value : Usable α) : Except Failure α :=
  match value with
  | .ok a => .ok a
  | .error t => .error (.trouble t)

/-- Lays sections over a table. -/
def overlayAll (t : SettingsTable) : Assoc Json → Except Failure SettingsTable
  | [] => .ok t
  | (name, values) :: rest =>
    match t.get? name with
    | none => overlayAll t rest
    | some base =>
      match values with
      | .obj fields => overlayAll (t.set name (overlaySection base fields)) rest
      | _ => .error (violation ("Config section [" ++ name ++ "] must be a table"))

/-- A number that is compared with one of another sort on its left. -/
def comparedTo (relation left : String) (v : Json) : Usable Quantity :=
  match v.quantity? with
  | some q => .ok q
  | none => .error (.incomparable relation left v.sortName)

/-- A number that is compared with one of another sort on its right. -/
def comparedWith (relation right : String) (v : Json) : Usable Quantity :=
  match v.quantity? with
  | some q => .ok q
  | none => .error (.incomparable relation v.sortName right)

/-- A number between two others, ends included. -/
def between (low high : Quantity) (v : Json) : Except Failure Bool := do
  let q ← need (comparedTo "<=" "int" v)
  return low.isAtMost q && q.isAtMost high

/-- A number below one. -/
def belowOne (v : Json) : Except Failure Bool := do
  return (← need (comparedWith "<" "int" v)).isLess 1

/-- Checks that the weights have exactly the known names. -/
def checkWeightNames (weights : Json) : Except Failure Unit := do
  let found ← need weights.members
  if let some v := found.find? (!·.isHashable) then throw (.trouble (.unhashable v))
  let names := found.filterMap Json.text?
  let known := defaultWeights.keys
  let missing := known.filter fun k => !names.contains k
  if !missing.isEmpty then
    throw (violation ("Missing readiness weights: " ++
      String.intercalate ", " (Text.sorted missing)))
  let others := found.filter fun v => !v.text?.any known.contains
  if let some v := others.find? (·.text?.isNone) then
    throw (.trouble ⟨.wrongType, "expected str instance, " ++ v.sortName ++ " found", none⟩)
  let unknown := Text.unique (others.filterMap Json.text?)
  if !unknown.isEmpty then
    throw (violation ("Unknown readiness weights: " ++
      String.intercalate ", " (Text.sorted unknown)))

/-- The sum of values, as far as they are numbers. -/
def sumOf (values : List Json) : Usable Quantity :=
  values.foldlM (fun total v =>
    match v.quantity? with
    | some q => total.add q
    | none => .error (.unsupported "+" total.sortName v.sortName)) 0

/-- The sum of the weights. -/
def weightSum (weights : Json) : Except Failure Quantity :=
  match weights with
  | .obj fields => need (sumOf (fields.map Prod.snd))
  | _ => .error (.trouble (.lacks weights "values"))

/-- Whether a sum is one, but for rounding. -/
def isAboutOne (sum : Quantity) : Usable Bool := do
  let difference ← (← sum.sub (.real 1.0)).toFloat
  return !(difference.abs > 1e-6)

/-- Checks that weights have the known names and sum up to one. -/
def checkWeights (weights : Json) : Except Failure Unit := do
  checkWeightNames weights
  let sum ← weightSum weights
  if !(← need (isAboutOne sum)) then
    throw (violation ("Readiness weights must sum to 1.0 (got " ++
      Number.fixed 3 (← need sum.toFloat) ++ ")"))

/-- The number of members of a value. -/
def lengthOf (v : Json) : Usable Nat :=
  match v.members with
  | .ok members => .ok members.length
  | .error _ => .error ⟨.wrongType, "object of type '" ++ v.sortName ++ "' has no len()", none⟩

/-- Whether sorting leaves every value in its place, or puts an equal one there. -/
def isSorted (values : List Json) : Usable Bool := do
  let places := values.zipIdx
  let sorted ← Sorting.sortBy (fun p q => p.1.isLess q.1) places
  return (places.zip sorted).all fun (p, q) => p.2 == q.2 || p.1 == q.1

/-- Checks that cut points are three ascending numbers. -/
def checkCutPoints (name : String) (v : Json) : Except Failure Unit := do
  let bad := violation (name ++ " must be three ascending integers")
  if (← need (lengthOf v)) != 3 then throw bad
  if !(← need (isSorted (← need v.members))) then throw bad

/-- The modes of a run. -/
def modes : List String := ["discovery-only", "analysis-only", "full-pipeline"]

/-- Checks that a value is the name of a mode. -/
def checkMode (mode : Json) : Except Failure Unit :=
  require (mode.text?.any modes.contains) ("Unknown pipeline mode '" ++ mode.display ++
    "' (expected one of " ++ String.intercalate ", " modes ++ ")")

/-- Checks the ranges of all settings, in order. -/
def validate (t : SettingsTable) : Except Failure Unit := do
  checkWeights (t.value "inventory" "weights")
  require (← between 0 100 (t.value "inventory" "readiness_threshold"))
    "readiness_threshold must be between 0 and 100"
  checkCutPoints "effort_cut_points" (t.value "inventory" "effort_cut_points")
  checkCutPoints "risk_cut_points" (t.value "inventory" "risk_cut_points")
  require (!(← belowOne (t.value "inventory" "max_components_per_phase")))
    "max_components_per_phase must be at least 1"
  checkMode (t.value "pipeline" "mode")
  require (!(← belowOne (t.value "pipeline" "max_workers"))) "Worker counts must be at least 1"
  require (!(← belowOne (t.value "transform" "max_concurrency"))) "Worker counts must be at least 1"
  require (!(← belowOne (t.value "retry" "max_attempts"))) "retry.max_attempts must be at least 1"
  require (← between 0 1 (t.value "analysis" "cluster_threshold"))
    "cluster_threshold must be between 0 and 1"

/-- Lays sections over the defaults and checks the result. -/
def merge (overrides : Assoc Json) : Except Failure SettingsTable := do
  let t ← overlayAll default overrides
  validate t
  return t

/-- The table without values that say nothing, as a file keeps it. -/
def withoutNulls (t : SettingsTable) : SettingsTable :=
  t.map fun (name, values) =>
    (name, values.filter fun (_, v) => match v with
      | .null => false
      | _ => true)

/-- The table as one value per section. -/
def asOverrides (t : SettingsTable) : Assoc Json := t.map fun (name, values) => (name, .obj values)

/-- Whether a value counts as switched on. -/
def switch (t : SettingsTable) (sectionName key : String) : Bool := (t.value sectionName key).truthy

/-- File name patterns: the members of a value, which have to be texts where they are matched. -/
def patternsOf (v : Json) : Usable (List (Usable String)) :=
  v.members.map fun members => members.map fun m =>
    match m with
    | .str s => .ok s
    | other => .error (.notPath other)

/-- Names to be looked up in: the texts among the members of a value. -/
def namesOf (v : Json) : Usable (List String) := do
  let members ← v.members
  match members.find? (!·.isHashable) with
  | some m => .error (.unhashable m)
  | none => return members.filterMap Json.text?

/-- A path. -/
def pathOf (v : Json) : Usable String :=
  match v with
  | .str s => .ok s
  | other => .error (.notPath other)

/-- A path, unless the value says nothing. -/
def optionalPathOf (v : Json) : Usable (Option String) :=
  if v.truthy then (pathOf v).map some else .ok none

/-- An integer that steps are counted by. -/
def stepOf (v : Json) : Usable Int :=
  match v.quantity?.bind Quantity.int? with
  | some n => .ok n
  | none => .error (.notInteger v.sortName)

/-- A number that counts are multiplied by. -/
def factorOf (v : Json) : Usable Quantity :=
  match v.quantity?, v with
  | some q, _ => .ok q
  | none, .str _ => .error (.notReal v)
  | none, .arr _ => .error (.notReal v)
  | none, _ => .error (.unsupported "*" "int" v.sortName)

/-- A table. -/
def tableOf (v : Json) : Usable (Assoc Json) :=
  match v with
  | .obj fields => .ok fields
  | other => .error (.lacks other "get")

/-- The members of a value as upper limits of points. -/
def limitsOf (v : Json) : List (Usable Quantity) :=
  match v.members with
  | .ok members => members.map (comparedTo "<=" "int")
  | .error _ => []

/-- The settings that a checked table stands for. -/
def settings (t : SettingsTable) : Settings :=
  { discovery :=
      { includePatterns := patternsOf (t.value "discovery" "include")
        excludePatterns := patternsOf (t.value "discovery" "exclude")
        skipDirs := namesOf (t.value "discovery" "skip_dirs")
        maxFiles := comparedTo ">=" "int" (t.value "discovery" "max_files")
        coverageReport := optionalPathOf (t.value "discovery" "coverage_report") }
    parser := { maxFileSize := comparedTo ">" "int" (t.value "parser" "max_file_size") }
    analysis :=
      { includeTransitive := t.switch "analysis" "include_transitive"
        maxDepth := comparedTo ">=" "int" (t.value "analysis" "max_depth")
        detectCycles := t.switch "analysis" "detect_cycles"
        generateClusters := t.switch "analysis" "generate_clusters"
        clusterThreshold := comparedTo "<" "float" (t.value "analysis" "cluster_threshold")
        togetherCohesion := comparedTo ">=" "float" (t.value "analysis" "together_cohesion")
        stagedCohesion := comparedTo ">=" "float" (t.value "analysis" "staged_cohesion")
        highRiskBindings := comparedTo ">" "int" (t.value "analysis" "high_risk_bindings") }
    inventory :=
      { readinessThreshold := (t.value "inventory" "readiness_threshold").quantity?.getD 0
        weights := (t.value "inventory" "weights").fields.filterMap fun (name, v) =>
          v.quantity?.map fun w => (name, w)
        effortCutPoints := limitsOf (t.value "inventory" "effort_cut_points")
        riskCutPoints := limitsOf (t.value "inventory" "risk_cut_points")
        maxComponentsPerPhase := stepOf (t.value "inventory" "max_components_per_phase")
        weeksPerComponent := factorOf (t.value "inventory" "weeks_per_component")
        effortMultipliers := tableOf (t.value "inventory" "effort_multipliers") }
    transform :=
      { extractBusinessLogic := t.switch "transform" "extract_business_logic"
        compatLayer := t.switch "transform" "compat_layer"
        parallel := t.switch "transform" "parallel"
        maxConcurrency := comparedWith ">" "int" (t.value "transform" "max_concurrency")
        batchSize := comparedWith ">" "int" (t.value "transform" "batch_size")
        prioritizeByComplexity := t.switch "transform" "prioritize_by_complexity"
        groupBySimilarity := t.switch "transform" "group_by_similarity"
        transformLevels := namesOf (t.value "transform" "transform_levels") }
    pipeline :=
      { mode := (t.value "pipeline" "mode").text?.getD ""
        parallel := t.switch "pipeline" "parallel"
        maxWorkers := comparedWith ">" "int" (t.value "pipeline" "max_workers")
        batchSize := comparedWith ">" "int" (t.value "pipeline" "batch_size")
        skipErrors := t.switch "pipeline" "skip_errors"
        generateReports := t.switch "pipeline" "generate_reports"
        outputDir := pathOf (t.value "pipeline" "output_dir")
        transform := t.switch "pipeline" "transform"
        dryRun := t.switch "pipeline" "dry_run"
        phaseTimeout := Token.secondsOf (t.value "pipeline" "phase_timeout") }
    retry := ⟨t.value "retry" "max_attempts", t.value "retry" "base_delay",
      t.value "retry" "max_delay"⟩ }

end SettingsTable

end ComponentMigration
