import ComponentMigration.Fault.Recovery
import ComponentMigration.Readiness.Score
import ComponentMigration.Sorting

/-!
# The inventory

The inventory has sections by level, the roadmap in phases, and the summary.
-/

namespace ComponentMigration

/-- Title, description and recommendations of a level's section. -/
def ReadinessLevel.sectionText : ReadinessLevel → String × String × List String
  | .ready =>
    ("Ready for Extraction",
      "Components that are well-structured and ready for immediate extraction",
      ["Extract these components first to establish baseline",
        "Use as reference examples for other components",
        "Validate extraction process with these components"])
  | .needsWork =>
    ("Needs Preparation", "Components that require some preparation before extraction",
      ["Focus on improving test coverage", "Add missing documentation",
        "Simplify prop interfaces"])
  | .complex =>
    ("Complex Components",
      "Components with significant complexity that need careful planning",
      ["Break down into smaller components", "Separate business logic from presentation",
        "Consider refactoring before extraction"])
  | .highRisk =>
    ("High-Risk Components", "Components that pose significant extraction challenges",
      ["Requires significant refactoring", "Consider complete rewrite in target framework",
        "Extensive testing required before migration"])
  | .other label => (label, "", [])

/-- The mean of scores with one decimal place. -/
def averageScore (readiness : List Readiness) : Float :=
  if readiness.isEmpty then 0.0
  else
    Number.roundPlaces 1
      (Number.ofInt (readiness.foldl (fun n r => n + r.overallScore) 0) /
        Number.ofInt readiness.length)

/-- The section of a level, if it has units. -/
def sectionOf (readiness : List Readiness) (level : ReadinessLevel) : Option InventorySection :=
  let members := readiness.filter (·.level == level)
  if members.isEmpty then none
  else
    let (title, description, advice) := level.sectionText
    some { level := level, title := title, description := description,
           units := members.map (·.unitId), recommendations := advice,
           averageScore := averageScore members }

/-- The sections of an inventory. -/
def sectionsOf (readiness : List Readiness) : List InventorySection :=
  ReadinessLevel.all.filterMap (sectionOf readiness)

/-- A time in weeks, in months if it is long. -/
def formatWeeks (weeks : Quantity) : Usable String := do
  if weeks.isAtMost 1 then return "1 week"
  else if weeks.isAtMost 4 then return weeks.text ++ " weeks"
  else return toString (← (← weeks.div 4).ceil) ++ " months"

/-- The integer quotient, rounded up, by a positive number. -/
def ceilDiv (n k : Int) : Int := (n + k - 1) / k

/-- Whether one unit is migrated before another: higher scores first, then by id. -/
def Readiness.before (a b : Readiness) : Bool :=
  if a.overallScore == b.overallScore then Text.le a.unitId b.unitId
  else b.overallScore ≤ a.overallScore

/-- How long a phase with so many units takes. -/
def phaseDuration (options : InventorySettings) (units : Nat) : Usable String := do
  let weeks ← (← Quantity.mul (.whole units) (← options.weeksPerComponent)).ceil
  formatWeeks (.whole weeks)

/-- A phase of the roadmap. -/
def roadmapPhase (options : InventorySettings) (number : Nat) (units : List String) :
    Usable RoadmapPhase := do
  let duration ← phaseDuration options units.length
  let name := if number == 1 then "Foundation" else if number == 2 then "Core Components"
    else "Advanced Components"
  let description :=
    if number == 1 then "Extract ready components to establish migration foundation"
    else if number == 2 then "Migrate core functionality components"
    else "Handle complex and high-risk components"
  return { number := number
           name := "Phase " ++ toString number ++ ": " ++ name
           units := units
           duration := duration
           developers := ceilDiv units.length 20
           dependencies :=
             if number > 1 then ["Phase " ++ toString (number - 1) ++ " completion"] else []
           successCriteria :=
             ["All phase components migrated successfully", "Integration tests passing",
               "Performance benchmarks met"]
           description := description }

/-- The units of the phases: all units by score, cut into pieces of one size. -/
def phaseUnits (size : Nat) (readiness : List Readiness) : List (List String) :=
  chunks size ((readiness.mergeSort Readiness.before).map (·.unitId))

/-- The roadmap of an inventory. -/
def roadmapOf (options : InventorySettings) (readiness : List Readiness) : Usable Roadmap := do
  let size ← options.maxComponentsPerPhase
  let phases ← (phaseUnits size.toNat readiness).zipIdx.mapM fun (units, i) =>
    roadmapPhase options (i + 1) units
  let weeks := Number.ceilInt (Number.ofInt ((phases.length : Int) * 3) * 0.8)
  return { phases := phases
           totalDuration :=
             if weeks ≤ 4 then toString weeks ++ " weeks"
             else toString (ceilDiv weeks 4) ++ " months"
           developers := ceilDiv readiness.length 20
           successMetrics :=
             ["All components successfully migrated", "No functionality regression",
               "Performance maintained or improved", "Test coverage maintained"] }

/-- Whether more than a share of the units satisfy a condition. -/
def moreThan (share : Float) (readiness : List Readiness) (p : Readiness → Bool) : Bool :=
  Number.ofInt (readiness.filter p).length > Number.ofInt readiness.length * share

/-- The recommendations of the summary. -/
def keyRecommendations (readiness : List Readiness) : List String :=
  let ready := (readiness.filter (·.level == .ready)).length
  let highRisk := (readiness.filter (·.level == .highRisk)).length
  (if ready > 0 then
    ["Start with " ++ toString ready ++ " ready components to establish migration process"]
    else []) ++
    (if highRisk > 0 then
      [toString highRisk ++ " high-risk components require significant refactoring"] else []) ++
    (if moreThan 0.3 readiness fun r => r.criteria.testCoverage < 50 then
      ["Improve test coverage across the codebase before migration"] else []) ++
    (if readiness.any fun r => r.criteria.dependencyComplexity < 50 then
      ["Simplify dependency structures for easier extraction"] else [])

/-- The risks of the summary. -/
def criticalRisks (readiness : List Readiness) (analysis : Option DependencyAnalysis) :
    List String :=
  let critical := (readiness.filter (·.risk == .critical)).length
  let cycles := (analysis.map fun a => a.graph.cycles.length).getD 0
  (if critical > 0 then
    [toString critical ++ " components have critical extraction risks"] else []) ++
    (if cycles > 0 then [toString cycles ++ " circular dependencies detected"] else []) ++
    (if moreThan 0.5 readiness fun r => r.criteria.testCoverage == 0 then
      ["Over 50% of components lack test coverage"] else []) ++
    (if moreThan 0.4 readiness fun r => r.criteria.documentation < 30 then
      ["Significant portion of components lack proper documentation"] else [])

/-- The points of effort that a unit adds to a total. -/
def addEffort (multipliers : Assoc Json) (total : Quantity) (r : Readiness) : Usable Quantity :=
  let points := (multipliers.get? r.effort.label).getD (.int 1)
  match points.quantity? with
  | some q => total.add q
  | none => .error (.unsupported "+" total.sortName points.sortName)

/-- The effort of all units in months of one person. -/
def personMonths (options : InventorySettings) (readiness : List Readiness) : Usable Int := do
  if readiness.isEmpty then return 0
  let points ← readiness.foldlM (addEffort (← options.effortMultipliers)) 0
  (← points.div 4).ceil

/-- The summary of an inventory. -/
def summaryOf (options : InventorySettings) (components : List Component)
    (readiness : List Readiness) (analysis : Option DependencyAnalysis) :
    Usable InventorySummary := do
  let months ← personMonths options readiness
  return { totalComponents := readiness.length
           byLevel := Assoc.count (readiness.map (·.level.label))
           byKind := Assoc.count (components.map (·.kind.label))
           byComplexity := Assoc.count (components.map (·.complexity.label))
           averageScore := averageScore readiness
           estimatedPersonMonths := months
           keyRecommendations := keyRecommendations readiness
           criticalRisks := criticalRisks readiness analysis }

/-- The inventory of assessed units. -/
def inventoryOf (options : InventorySettings) (generatedAt source : String)
    (components : List Component) (readiness : List Readiness)
    (analysis : Option DependencyAnalysis) : Usable Inventory := do
  let roadmap ← roadmapOf options readiness
  let summary ← summaryOf options components readiness analysis
  return { generatedAt := generatedAt
           threshold := options.readinessThreshold
           source := source
           components := readiness
           sections := sectionsOf readiness
           roadmap := roadmap
           summary := summary }

/-- Assesses units one after the other; `onUnit` is told of each. -/
def Run.assessAll (parses : Assoc ParseOutcome) (analysis : Option DependencyAnalysis)
    (onUnit : Component → Run Unit) : List Component → Run (List Readiness)
  | [] => return []
  | c :: rest => do
    let context ← Run.place none (some "inventory-generation") none none
    Run.checkpoint context
    let r ← Run.use (assess (← read).settings.inventory c (parses.get? c.id) analysis)
    onUnit c
    let later ← Run.assessAll parses analysis onUnit rest
    return r :: later

/-- Makes the inventory of discovered units. -/
def Run.inventory (generatedAt source : String) (components : List Component)
    (parses : Assoc ParseOutcome) (analysis : Option DependencyAnalysis)
    (onUnit : Component → Run Unit) : Run Inventory := do
  let readiness ← Run.assessAll parses analysis onUnit components
  Run.use (inventoryOf (← read).settings.inventory generatedAt source components readiness analysis)

end ComponentMigration
