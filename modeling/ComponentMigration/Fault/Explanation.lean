import ComponentMigration.Fault.Basic

/-!
# Explanations of faults

A person is told a title, what happened, what to do about it, and a workaround if there is one.
-/

namespace ComponentMigration

/-- What a person is told about a fault. -/
structure Explanation where
  title : String
  explanation : String
  suggestions : List String
  workaround : Option String := none
  isKnownIssue : Bool := false
  deriving DecidableEq, Repr

/-- The explanation of a category. -/
def Category.explanation : Category → Explanation
  | .configuration =>
    { title := "Configuration Error"
      explanation := "The migration configuration is missing or contains invalid values."
      suggestions :=
        ["Check uimigrate.toml for typos and out-of-range values",
          "Remove the config file to fall back to defaults"] }
  | .fileSystem =>
    { title := "File System Error"
      explanation := "A file or directory could not be read or written."
      suggestions :=
        ["Verify the path exists and is readable", "Check permissions on the output directory",
          "Make sure there is free disk space"] }
  | .parsing =>
    { title := "Parsing Error"
      explanation := "The component source contains syntax the parser could not understand."
      suggestions :=
        ["Run the project's own compiler or linter on the file",
          "Fix the reported syntax error and re-run discovery"]
      workaround :=
        "The component is flagged for manual review and excluded from automatic migration."
      isKnownIssue := true }
  | .validation =>
    { title := "Validation Error"
      explanation := "The migrated component does not match the source component."
      suggestions :=
        ["Review the reported differences",
          "Re-run the migration with --regenerate after fixing the source"] }
  | .transformation =>
    { title := "Transformation Error"
      explanation := "The component could not be converted into the target shape."
      suggestions :=
        ["Simplify the component or split it into smaller units",
          "Migrate the component manually"]
      workaround := "The component is marked as requiring manual review."
      isKnownIssue := true }
  | .generation =>
    { title := "Generation Error"
      explanation := "Output artifacts or reports could not be produced."
      suggestions := ["Check the output directory", "Re-run with --verbose for details"] }
  | .memory =>
    { title := "Out of Memory"
      explanation := "The pipeline ran out of memory while processing the project."
      suggestions :=
        ["Lower max_workers or batch_size",
          "Narrow the include patterns to a subset of the project"] }
  | .timeout =>
    { title := "Timeout"
      explanation := "A pipeline phase took longer than its configured time limit."
      suggestions := ["Increase pipeline.phase_timeout", "Run a narrower discovery"] }
  | .dependency =>
    { title := "Dependency Error"
      explanation := "A dependency of the component could not be resolved."
      suggestions :=
        ["Check the import path", "Make sure the dependency is part of the scanned tree"] }
  | .businessLogic =>
    { title := "Business Logic Incomplete"
      explanation := "Business logic from the source component is missing in the output."
      suggestions := ["Compare the generated hook against the source functions"]
      workaround := "Port the missing functions by hand." }
  | .runtime =>
    { title := "Unexpected Error"
      explanation := "An unexpected error occurred while running the pipeline."
      suggestions := ["Re-run with --verbose", "Report the error code if the problem persists"] }
  | .network =>
    { title := "Network Error"
      explanation := "A remote resource could not be reached."
      suggestions := ["Check connectivity and retry"] }

/-- The explanation of a fault, with the unit it concerns. -/
def Fault.explanation (f : Fault) : Explanation :=
  let base := f.category.explanation
  match f.context.unit with
  | some unit =>
    if unit.isEmpty then base
    else { base with explanation := base.explanation ++ " (component: " ++ unit ++ ")" }
  | none => base

end ComponentMigration
