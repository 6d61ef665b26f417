import Mathlib.Logic.Basic
import ComponentMigration.Project.Discovery
import ComponentMigration.Proofs.Run.Exec

/-!
# Coverage reports

A report has to be a table of tables as far as it is looked at (`exists_coverage_of`).  Loading a
report that is there comes to percentages if its text is that of such a report, or if it cannot be
read at all; otherwise it fails (`load_coverage_cases`).
-/

namespace ComponentMigration

/-- An entry of a report that can be used: if it tells of lines it does so by a table, and their
percentage is not too large to be computed with. -/
structure IsReportEntry (fields : Assoc Json) : Prop where
  lines : ∀ lines, fields.get? "lines" = some lines → ∃ measures, lines = .obj measures ∧
    ∀ n, Assoc.get? measures "pct" = some (.int n) → Number.isTooLarge n = false

/-- A report that can be used: a table in which every table but that of the totals can be. -/
def IsReport (report : Json) : Prop :=
  ∃ files, report = .obj files ∧
    ∀ key fields, (key, .obj fields) ∈ files → key ≠ "total" → IsReportEntry fields

/-- The text of a report that can be used, or of none at all; one whose values stand too deep in one
another is neither. -/
structure IsReportText (text : String) : Prop where
  shallow : ∀ t, Json.parse text = .error t → t.sort ≠ .tooDeep
  usable : ∀ report, Json.parse text = .ok report → IsReport report

section Reports

variable {fields : Assoc Json} {report : Json}

theorem exists_to_float {v : Json} {q : Quantity} (hq : v.quantity? = some q) :
    (∃ x, q.toFloat = .ok x) ↔ ∀ n, v = .int n → Number.isTooLarge n = false := by
  cases v with
  | int n =>
      cases hq
      cases hlarge : Number.isTooLarge n <;> simp [Quantity.toFloat, Quantity.floatOfInt, hlarge]
  | float x =>
      cases hq
      exact iff_of_true ⟨x, rfl⟩ nofun
  | bool b =>
      cases hq
      exact iff_of_true ⟨_, rfl⟩ nofun
  | _ => cases hq

theorem exists_line_percentage :
    (∃ pct, linePercentage (.obj fields) = .ok pct) ↔ IsReportEntry fields := by
  unfold linePercentage Json.get?
  dsimp only
  constructor
  · rintro ⟨pct, hpct⟩
    refine ⟨fun lines hlines => ?_⟩
    rw [hlines, Option.getD_some] at hpct
    cases lines with
    | obj measures =>
        refine ⟨measures, rfl, fun n hn => ?_⟩
        dsimp only at hpct
        rw [hn] at hpct
        cases hfloat : Quantity.toFloat (.whole n) with
        | ok x => exact (exists_to_float (v := .int n) rfl).mp ⟨x, hfloat⟩ n rfl
        | error t =>
            dsimp only [Json.quantity?] at hpct
            rw [hfloat] at hpct
            cases hpct
    | _ => cases hpct
  · rintro ⟨h⟩
    cases hlines : fields.get? "lines" with
    | none => exact ⟨none, rfl⟩
    | some lines =>
        obtain ⟨measures, rfl, hpct⟩ := h lines hlines
        rw [Option.getD_some]
        dsimp only
        cases hv : Assoc.get? measures "pct" with
        | none => exact ⟨none, rfl⟩
        | some v =>
            dsimp only
            cases hq : v.quantity? with
            | none => exact ⟨none, rfl⟩
            | some q =>
                obtain ⟨x, hx⟩ := (exists_to_float hq).mpr fun n hn => hpct n (hn ▸ hv)
                exact ⟨some x, congrArg (Except.map some) hx⟩

theorem exists_add_coverage (coverage : Assoc Float) (key : String) (v : Json) :
    (∃ after, addCoverage coverage (key, v) = .ok after) ↔
      ∀ fields, v = .obj fields → key ≠ "total" → IsReportEntry fields := by
  cases v with
  | obj fields =>
      unfold addCoverage
      by_cases htotal : key = "total"
      · simp [htotal]
      · have hkey : ¬(key == "total") = true := by simpa using htotal
        dsimp only
        rw [if_neg hkey]
        constructor
        · rintro ⟨after, hafter⟩ _ ⟨⟩ -
          obtain ⟨pct, hpct, -⟩ := bind_eq_ok.mp hafter
          exact exists_line_percentage.1 ⟨pct, hpct⟩
        · intro h
          obtain ⟨pct, hpct⟩ := exists_line_percentage.2 (h fields rfl htotal)
          cases pct with
          | none => exact ⟨coverage, bind_eq_ok.mpr ⟨none, hpct, rfl⟩⟩
          | some pct => exact ⟨_, bind_eq_ok.mpr ⟨some pct, hpct, rfl⟩⟩
  | _ => exact iff_of_true ⟨coverage, rfl⟩ nofun

theorem exists_add_coverages (files : Assoc Json) (coverage : Assoc Float) :
    (∃ after, files.foldlM addCoverage coverage = .ok after) ↔
      ∀ key fields, (key, .obj fields) ∈ files → key ≠ "total" → IsReportEntry fields := by
  induction files generalizing coverage with
  | nil => exact iff_of_true ⟨coverage, rfl⟩ nofun
  | cons entry files ih =>
      obtain ⟨key, v⟩ := entry
      have hfirst := exists_add_coverage coverage key v
      rw [List.foldlM_cons]
      constructor
      · rintro ⟨after, hafter⟩ key' fields hmem hkey'
        obtain ⟨next, hnext, hafter⟩ := bind_eq_ok.mp hafter
        rcases List.mem_cons.mp hmem with heq | hmem
        · obtain ⟨rfl, rfl⟩ := Prod.mk.inj heq
          exact hfirst.mp ⟨next, hnext⟩ fields rfl hkey'
        · exact (ih next).mp ⟨after, hafter⟩ key' fields hmem hkey'
      · intro h
        obtain ⟨next, hnext⟩ := hfirst.mpr fun fields hv =>
          h key fields (hv ▸ List.mem_cons_self)
        obtain ⟨after, hafter⟩ := (ih next).mpr fun key' fields hmem =>
          h key' fields (List.mem_cons_of_mem _ hmem)
        exact ⟨after, bind_eq_ok.mpr ⟨next, hnext, hafter⟩⟩

/-- The percentages of a report can be had exactly if it can be used. -/
theorem exists_coverage_of : (∃ coverage, coverageOf report = .ok coverage) ↔ IsReport report := by
  unfold coverageOf IsReport
  cases report with
  | obj files => simp [exists_add_coverages]
  | _ => exact iff_of_false nofun nofun

instance (report : Json) : Decidable (IsReport report) :=
  match hcoverage : coverageOf report with
  | .ok coverage => isTrue (exists_coverage_of.1 ⟨coverage, hcoverage⟩)
  | .error t => isFalse fun h => by
      obtain ⟨coverage, hok⟩ := exists_coverage_of.2 h
      rw [hcoverage] at hok
      cases hok

theorem is_report_text_of_parse {text : String} (h : Json.parse text = .ok report) :
    IsReportText text ↔ IsReport report := by
  refine ⟨fun htext => htext.usable report h, fun hreport => ?_⟩
  refine ⟨fun t ht => ?_, fun other hother => ?_⟩
  · rw [h] at ht
    cases ht
  · rwa [← Except.ok.inj (h.symm.trans hother)]

theorem is_report_text_of_flaw {text : String} {t : Trouble} (h : Json.parse text = .error t) :
    IsReportText text ↔ t.sort ≠ .tooDeep := by
  refine ⟨fun htext => htext.shallow t h, fun hshallow => ?_⟩
  refine ⟨fun other hother => ?_, fun report hreport => ?_⟩
  · rwa [← Except.error.inj (h.symm.trans hother)]
  · rw [h] at hreport
    cases hreport

instance (text : String) : Decidable (IsReportText text) :=
  match hparse : Json.parse text with
  | .ok report => decidable_of_iff (IsReport report) (is_report_text_of_parse hparse).symm
  | .error t => decidable_of_iff (t.sort ≠ .tooDeep) (is_report_text_of_flaw hparse).symm

end Reports

section Loading

variable {context : RunContext} {s : RunState} {root path : Path} {place : List String}
  {bytes : List UInt8}

/-- The next reading of a file's text comes to a text. -/
def Disk.Tells (d : Disk) (path : Path) (text : String) : Prop := (d.readText path).1 = .ok text

instance (d : Disk) (path : Path) (text : String) : Decidable (d.Tells path text) :=
  match hread : (d.readText path).1 with
  | .ok other => decidable_of_iff (other = text) (by rw [Disk.Tells, hread, Except.ok.injEq])
  | .error t => isFalse (by rw [Disk.Tells, hread]; nofun)

theorem Disk.Tells.unique {d : Disk} {text other : String} (h : d.Tells path text)
    (hother : d.Tells path other) : other = text :=
  Except.ok.inj (hother.symm.trans h)

/-- What goes wrong with the reading of a file's text lets a report be ignored. -/
theorem is_unreadable_of_read_text {d : Disk} {t : Trouble}
    (hfile : d.find path = .found ⟨"/", place⟩ (.file bytes)) (h : (d.readText path).1 = .error t) :
    isUnreadable t = true := by
  unfold Disk.readText Disk.content at h
  split at h
  · cases h
    rfl
  · rw [hfile] at h
    dsimp only [Disk.textOf] at h
    split at h
    · cases h
    · cases h
      rfl

/-- What is made of the text of a report. -/
theorem report_text_cases (context : RunContext) (text : String) (s : RunState) :
    ∃ outcome : Except Failure (Assoc Float),
      (match Json.parse text with
        | .error t => if t.sort == .tooDeep then Run.trouble t else return []
        | .ok report => Run.use (coverageOf report) : Run (Assoc Float)).exec context s =
          (outcome, s) ∧
        (IsReportText text ∧ (∃ coverage, outcome = .ok coverage) ∨
          ¬IsReportText text ∧ ∃ t, outcome = .error (.trouble t)) := by
  cases hparse : Json.parse text with
  | error t =>
      rw [is_report_text_of_flaw hparse]
      dsimp only
      by_cases hdeep : t.sort = .tooDeep
      · rw [if_pos (beq_iff_eq.mpr hdeep)]
        exact ⟨_, rfl, .inr ⟨not_not.mpr hdeep, t, rfl⟩⟩
      · rw [if_neg (by simpa using hdeep)]
        exact ⟨_, rfl, .inl ⟨hdeep, _, rfl⟩⟩
  | ok report =>
      rw [is_report_text_of_parse hparse]
      dsimp only
      rw [← exists_coverage_of]
      cases coverageOf report with
      | ok coverage => exact ⟨_, rfl, .inl ⟨⟨coverage, rfl⟩, coverage, rfl⟩⟩
      | error t => exact ⟨_, rfl, .inr ⟨nofun, t, rfl⟩⟩

/-- What loading a report that is there comes to: percentages if its text is that of a report or
cannot be had, or else a trouble. -/
theorem load_coverage_cases (hpath : coveragePath context.settings.discovery root = .ok path)
    (hfile : s.disk.find path = .found ⟨"/", place⟩ (.file bytes)) :
    ∃ outcome, (Run.loadCoverage root).exec context s =
        (outcome, { s with disk := (s.disk.readText path).2 }) ∧
      ((∃ coverage, outcome = .ok coverage) ∧
          (∀ text, s.disk.Tells path text → IsReportText text) ∨
        (∃ t, outcome = .error (.trouble t)) ∧
          ∃ text, s.disk.Tells path text ∧ ¬IsReportText text) := by
  have hlook : s.disk.look path = .ok (some (.file bytes)) := by rw [Disk.look, hfile]
  have hexists : (Run.exists? path).exec context s = (.ok true, s) :=
    Run.exec_exists_of_look hlook
  unfold Run.loadCoverage
  rw [Run.exec_bind_of_ok Run.exec_read, hpath, Run.exec_bind_of_ok (Run.exec_use_ok path),
    Run.exec_bind_of_ok hexists]
  simp only [Bool.not_true, Bool.false_eq_true, if_false]
  rw [Run.exec_bind_of_ok (Run.exec_attempt _), Run.exec_on_disk]
  dsimp only
  unfold Disk.Tells
  generalize hread : s.disk.readText path = read
  obtain ⟨result, disk⟩ := read
  cases result with
  | error t =>
      have hignored := is_unreadable_of_read_text hfile (congrArg Prod.fst hread)
      dsimp only [Except.mapError]
      rw [if_pos hignored]
      exact ⟨_, rfl, .inl ⟨⟨_, rfl⟩, nofun⟩⟩
  | ok text =>
      obtain ⟨outcome, hexec, hcases⟩ := report_text_cases context text
        { s with disk := disk }
      refine ⟨outcome, hexec, ?_⟩
      rcases hcases with ⟨husable, hok⟩ | ⟨hunusable, herror⟩
      · refine .inl ⟨hok, ?_⟩
        rintro _ ⟨⟩
        exact husable
      · exact .inr ⟨herror, text, rfl, hunusable⟩

/-- Where there is no report, there is no coverage. -/
theorem load_coverage_of_none (hpath : coveragePath context.settings.discovery root = .ok path)
    (hlook : s.disk.look path = .ok none) :
    (Run.loadCoverage root).exec context s = (.ok [], s) := by
  have hexists : (Run.exists? path).exec context s = (.ok false, s) :=
    Run.exec_exists_of_look hlook
  unfold Run.loadCoverage
  rw [Run.exec_bind_of_ok Run.exec_read, hpath, Run.exec_bind_of_ok (Run.exec_use_ok path),
    Run.exec_bind_of_ok hexists]
  rfl

end Loading

end ComponentMigration
