import ComponentMigration.Equivalence.Compare
import ComponentMigration.Proofs.Assoc
import ComponentMigration.Proofs.Number.Binary64

/-!
# When a unit and its counterpart are equivalent

The verdict is put together from issues and differences of several kinds, of which only a few count.
`none_counts_issues_iff` says which units have no issue that counts as an error, one kind of issue after
the other, and `equivalent_iff_keeps` what that comes to: the counterpart has to keep the name, the
required props, the functions and their number, and the critical dependencies.  Nothing else matters,
neither types nor order nor what else the counterpart has.
-/

namespace ComponentMigration

/-- The last of the props with a name. -/
def Component.lastProp? (c : Component) (name : String) : Option PropSpec :=
  c.props.reverse.find? (·.name == name)

/-- What a unit's counterpart has to keep of it. -/
structure Component.Keeps (source migrated : Component) : Prop where
  name : source.name = migrated.name
  requiredProps : ∀ name p, source.lastProp? name = some p → p.required = true →
    name ∈ migrated.props.map PropSpec.name
  logic : ∀ l ∈ source.businessLogic, l.name ∈ migrated.businessLogic.map LogicSpec.name
  logicCount : source.businessLogic.length = migrated.businessLogic.length
  criticalDependencies : ∀ d ∈ source.dependencies, d.critical = true →
    d.name ∈ migrated.dependencies.map Dependency.name

section PropTables

variable {props : List PropSpec} {name : String} {p : PropSpec}

theorem get?_fold_set (props : List PropSpec) (t : Assoc PropSpec) (name : String) :
    (props.foldl (fun acc p => acc.set p.name p) t).get? name =
      (props.reverse.find? (·.name == name)).or (t.get? name) := by
  induction props generalizing t with
  | nil => rfl
  | cons p props ih =>
      rw [List.foldl_cons, ih, List.reverse_cons, List.find?_append, Option.or_assoc]
      congr 1
      by_cases hname : p.name = name
      · subst hname
        simp
      · rw [Assoc.get?_set_of_ne _ _ hname]
        simp [hname]

/-- The table has the last prop of every name. -/
theorem get?_prop_table (props : List PropSpec) (name : String) :
    (propTable props).get? name = props.reverse.find? (·.name == name) := by
  rw [propTable, get?_fold_set]
  exact Option.or_none

theorem nodup_keys_prop_table (props : List PropSpec) : (propTable props).keys.Nodup := by
  have hfold : ∀ (props : List PropSpec) (t : Assoc PropSpec), t.keys.Nodup →
      (props.foldl (fun acc p => acc.set p.name p) t).keys.Nodup := by
    intro props
    induction props with
    | nil => exact fun _ h => h
    | cons p props ih => exact fun t h => ih _ (Assoc.nodup_keys_set h)
  exact hfold props [] List.nodup_nil

theorem mem_prop_table :
    (name, p) ∈ propTable props ↔ props.reverse.find? (·.name == name) = some p := by
  rw [← get?_prop_table, Assoc.get?_eq_some_iff (nodup_keys_prop_table props)]

theorem get?_prop_table_eq_none_iff :
    (propTable props).get? name = none ↔ name ∉ props.map PropSpec.name := by
  rw [get?_prop_table, List.find?_eq_none]
  simp

end PropTables

section Issues

variable {strict : Bool} {source migrated : Component}

/-- None of some issues counts as an error. -/
def NoneCounts (issues : List Issue) : Prop := ∀ i ∈ issues, i.gravity ≠ .error

theorem none_counts_append {first second : List Issue} :
    NoneCounts (first ++ second) ↔ NoneCounts first ∧ NoneCounts second := List.forall_mem_append

/-- Issues that all count as errors must not be there at all. -/
theorem none_counts_map_iff {α : Type} {items : List α} {issue : α → Issue}
    (herror : ∀ a, (issue a).gravity = .error) : NoneCounts (items.map issue) ↔ items = [] := by
  constructor
  · intro h
    refine List.eq_nil_iff_forall_not_mem.mpr fun a ha => ?_
    exact h _ (List.mem_map_of_mem ha) (herror a)
  · rintro rfl
    exact List.forall_mem_nil _

theorem none_counts_map_of_warning {α : Type} (items : List α) (issue : α → Issue)
    (hwarning : ∀ a, (issue a).gravity = .warning) : NoneCounts (items.map issue) := by
  intro i hi
  obtain ⟨a, -, rfl⟩ := List.mem_map.mp hi
  rw [hwarning]
  decide

theorem none_counts_name_iff :
    NoneCounts (nameIssues source migrated) ↔ source.name = migrated.name := by
  by_cases hname : source.name = migrated.name
  · simp [nameIssues, hname, NoneCounts]
  · simp [nameIssues, hname, NoneCounts]

theorem none_counts_prop_issue_iff {after : Assoc PropSpec} {name : String} {p : PropSpec} :
    (∀ i, propIssue? strict after name p = some i → i.gravity ≠ .error) ↔
      (p.required = true → after.get? name ≠ none) := by
  unfold propIssue?
  cases hget : after.get? name with
  | none =>
      cases hrequired : p.required with
      | true => simp [missingProp]
      | false => simp [missingProp]
  | some q =>
      dsimp only
      split <;> simp

/-- A prop is missed if the last one of its name is required. -/
theorem none_counts_prop_iff :
    NoneCounts (propIssues strict source migrated) ↔
      ∀ name p, source.lastProp? name = some p → p.required = true →
        name ∈ migrated.props.map PropSpec.name := by
  have hnew := none_counts_map_of_warning
    ((propTable migrated.props).keys.filter fun name => !(propTable source.props).has name)
    (fun name =>
      ⟨"NEW_PROP", "New prop '" ++ name ++ "' added in migrated component", .warning,
        "props." ++ name⟩) fun _ => rfl
  rw [propIssues, none_counts_append, and_iff_left hnew, NoneCounts]
  constructor
  · intro h name p hlast hrequired
    have hentry := none_counts_prop_issue_iff.1 fun i hi =>
      h i (List.mem_filterMap.mpr ⟨(name, p), mem_prop_table.2 hlast, hi⟩)
    exact not_not.mp (mt get?_prop_table_eq_none_iff.2 (hentry hrequired))
  · intro h i hi
    obtain ⟨⟨name, p⟩, hentry, hissue⟩ := List.mem_filterMap.mp hi
    refine none_counts_prop_issue_iff.2 (fun hrequired => ?_) i hissue
    exact mt get?_prop_table_eq_none_iff.1
      (not_not.mpr (h name p (mem_prop_table.1 hentry) hrequired))

theorem none_counts_logic_iff :
    NoneCounts (logicIssues source migrated) ↔
      ∀ l ∈ source.businessLogic, l.name ∈ migrated.businessLogic.map LogicSpec.name := by
  rw [logicIssues, none_counts_map_iff fun _ => rfl, List.filter_eq_nil_iff]
  simp

theorem none_counts_kind : NoneCounts (kindIssues source migrated) := by
  rw [kindIssues]
  split <;> simp [NoneCounts]

theorem none_counts_dependency_iff :
    NoneCounts (dependencyIssues source migrated) ↔
      ∀ d ∈ source.dependencies, d.critical = true →
        d.name ∈ migrated.dependencies.map Dependency.name := by
  rw [dependencyIssues, none_counts_map_iff fun _ => rfl, List.filter_eq_nil_iff]
  simp

theorem none_counts_pattern : NoneCounts (patternIssues source migrated) :=
  none_counts_map_of_warning _ _ fun _ => rfl

/-- A unit has no issue that counts as an error if its counterpart keeps everything but, perhaps, the
number of functions. -/
theorem none_counts_issues_iff :
    NoneCounts (issuesOf strict source migrated) ∧
        source.businessLogic.length = migrated.businessLogic.length ↔
      source.Keeps migrated := by
  rw [issuesOf, none_counts_append, none_counts_append, none_counts_append, none_counts_append,
    none_counts_append, none_counts_name_iff, none_counts_prop_iff, none_counts_logic_iff,
    none_counts_dependency_iff, and_iff_left none_counts_kind, and_iff_left none_counts_pattern]
  constructor
  · rintro ⟨⟨⟨⟨hname, hprops⟩, hlogic⟩, hdependencies⟩, hcount⟩
    exact ⟨hname, hprops, hlogic, hcount, hdependencies⟩
  · intro h
    exact ⟨⟨⟨⟨h.name, h.requiredProps⟩, h.logic⟩, h.criticalDependencies⟩, h.logicCount⟩

/-- Only the number of functions may not differ. -/
theorem differences_count_iff :
    (∀ d ∈ differencesOf source migrated, d.gravity ≠ .error ∧ d.gravity ≠ .critical) ↔
      source.businessLogic.length = migrated.businessLogic.length := by
  have hharmless : ∀ category description gravity before after,
      gravity ≠ .error ∧ gravity ≠ .critical →
        ∀ d ∈ countDifference category description gravity before after,
          d.gravity ≠ .error ∧ d.gravity ≠ .critical := by
    intro category description gravity before after hgravity d hd
    rw [countDifference] at hd
    split at hd
    · exact absurd hd List.not_mem_nil
    · rw [List.mem_singleton.mp hd]
      exact hgravity
  rw [differencesOf, List.forall_mem_append, List.forall_mem_append, List.forall_mem_append,
    and_iff_left (hharmless _ _ _ _ _ (by decide)), and_iff_left (hharmless _ _ _ _ _ (by decide)),
    and_iff_right (hharmless _ _ _ _ _ (by decide)), countDifference]
  by_cases hcount : source.businessLogic.length = migrated.businessLogic.length
  · simp [hcount]
  · simp [hcount]

end Issues

/-- If all names are kept, that is a hundred percent. -/
theorem kept_percentage_eq_hundred {before after : List String} (h : ∀ x ∈ before, x ∈ after) :
    keptPercentage before after = 100.0 := by
  rw [keptPercentage]
  split
  · rfl
  · next hempty =>
      have hpos : 0 < before.length :=
        List.length_pos_iff.mpr (by simpa [List.isEmpty_iff] using hempty)
      have hkept : before.filter after.contains = before :=
        List.filter_eq_self.mpr fun x hx => by simpa using h x hx
      have hnearest : Number.ofFraction ⟨false, 100 * before.length, before.length⟩ =
          Number.ofFraction ⟨false, 100, 1⟩ := by
        have hbits := Number.nearest_bits_mul_right Nat.one_pos hpos 100
        rw [Nat.one_mul] at hbits
        simp only [Number.ofFraction, hbits]
      dsimp only
      rw [hkept, hnearest]
      decide

section Comparisons

variable (strict : Bool) (source migrated c : Component)

/-- A unit is equivalent to a counterpart that keeps what has to be kept. -/
theorem equivalent_iff_keeps :
    (compareUnits strict source migrated).equivalent = true ↔ source.Keeps migrated := by
  have hissues : (!(issuesOf strict source migrated).any (·.gravity == .error)) = true ↔
      NoneCounts (issuesOf strict source migrated) := by
    simp [NoneCounts]
  have hdifferences : (!(differencesOf source migrated).any fun d =>
      d.gravity == .error || d.gravity == .critical) = true ↔
      ∀ d ∈ differencesOf source migrated, d.gravity ≠ .error ∧ d.gravity ≠ .critical := by
    simp
  rw [compareUnits]
  dsimp only
  rw [Bool.and_eq_true, hissues, hdifferences, differences_count_iff, none_counts_issues_iff]

/-- Nothing is found where a unit is compared with itself. -/
theorem issues_of_self : issuesOf strict c c = [] := by
  have hprops : propIssues strict c c = [] := by
    rw [propIssues, List.append_eq_nil_iff, List.filterMap_eq_nil_iff, List.map_eq_nil_iff,
      List.filter_eq_nil_iff]
    constructor
    · rintro ⟨name, p⟩ hentry
      have hget := (Assoc.get?_eq_some_iff (nodup_keys_prop_table c.props)).mpr hentry
      simp [propIssue?, hget]
    · intro name hname
      obtain ⟨entry, hentry, rfl⟩ := List.mem_map.mp hname
      have hhas : (propTable c.props).has entry.1 = true :=
        List.any_eq_true.mpr ⟨entry, hentry, beq_self_eq_true _⟩
      simp [hhas]
  have hlogic : logicIssues c c = [] := by
    rw [logicIssues, List.map_eq_nil_iff, List.filter_eq_nil_iff]
    intro l hl
    simp [List.mem_map_of_mem (f := LogicSpec.name) hl]
  have hdependencies : dependencyIssues c c = [] := by
    rw [dependencyIssues, List.map_eq_nil_iff, List.filter_eq_nil_iff]
    intro d hd
    simp [List.mem_map_of_mem (f := Dependency.name) hd]
  have hpatterns : patternIssues c c = [] := by
    rw [patternIssues, List.map_eq_nil_iff, List.filter_eq_nil_iff]
    intro p hp
    simp [hp]
  simp [issuesOf, nameIssues, kindIssues, hprops, hlogic, hdependencies, hpatterns]

theorem differences_of_self : differencesOf c c = [] := by
  simp [differencesOf, countDifference]

/-- A unit and its counterpart are equivalent exactly if the counterpart has the same name, all props
whose last declaration is required, all functions and as many of them, and all critical dependencies.
Equivalence says that the counterpart is valid and has all of the logic.  A unit is equivalent to
itself, with nothing to be found and full scores. -/
theorem equivalence_verdict :
    ((compareUnits strict source migrated).equivalent = true ↔ source.Keeps migrated) ∧
    ((compareUnits strict source migrated).equivalent = true →
      (compareUnits strict source migrated).valid = true ∧
        (compareUnits strict source migrated).logicPreservation = 100.0) ∧
    compareUnits strict c c =
      { equivalent := true, valid := true, score := 100, logicPreservation := 100.0,
        typeSafety := 100.0, issues := [], differences := [] } := by
  refine ⟨equivalent_iff_keeps strict source migrated, fun hequivalent => ⟨?_, ?_⟩, ?_⟩
  · exact (Bool.and_eq_true_iff.mp hequivalent).1
  · have hkeeps := (equivalent_iff_keeps strict source migrated).mp hequivalent
    refine kept_percentage_eq_hundred fun name hname => ?_
    obtain ⟨l, hl, rfl⟩ := List.mem_map.mp hname
    exact hkeeps.logic l hl
  · rw [compareUnits, issues_of_self, differences_of_self,
      kept_percentage_eq_hundred fun _ h => h, kept_percentage_eq_hundred fun _ h => h]
    rfl

end Comparisons

end ComponentMigration
