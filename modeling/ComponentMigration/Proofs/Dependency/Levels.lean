import ComponentMigration.Proofs.Dependency.Circular
import ComponentMigration.Proofs.Dependency.Provenance

/-!
# Levels and risks of dependencies

While details are gathered, each has the risk that its relation, its bindings and its path make
(`Gathered.Graded`).  An analysis that looks for cycles raises those that reported cycles run along
and leaves the others as they are; links through other units are added after that
(`analyze_grades_by_cycles`).
-/

namespace ComponentMigration

section Grading

variable {g : Gathered} {bound : Quantity} {primary : Assoc String}

/-- Details with the risk that they make by themselves. -/
def Gathered.Graded (g : Gathered) (bound : Quantity) : Prop :=
  ∀ d ∈ g.details, d.risk = d.baseRisk bound

/-- A detail that is extended is graded anew. -/
theorem Detail.Takes.risk {use : ImportUse} {d d' : Detail} (h : d.Takes bound primary use d')
    (hgraded : d.risk = d.baseRisk bound) : d'.risk = d'.baseRisk bound := by
  cases h with
  | joined _ h => exact h.risk
  | other _ => exact hgraded

theorem Gathered.Graded.add (h : g.Graded bound) (use : ImportUse) :
    (g.add bound primary use).Graded bound := by
  rcases g.add_cases bound primary use with ⟨-, merged, hmerged, hadd⟩ | ⟨-, fresh, hfresh, hadd⟩
  · rw [hadd]
    exact List.forall_mem_map.mpr fun d hd => (hmerged d).risk (h d hd)
  · rw [hadd]
    exact List.forall_mem_append.mpr ⟨h, List.forall_mem_singleton.mpr hfresh.risk⟩

theorem Gathered.Graded.add_uses (h : g.Graded bound) (uses : List ImportUse) :
    (g.addUses bound primary uses).Graded bound := by
  induction uses generalizing g with
  | nil => exact h
  | cons use rest ih => exact ih (h.add use)

/-- By itself no detail is critical. -/
theorem Detail.base_risk_cases (d : Detail) (bound : Quantity) :
    d.baseRisk bound = .high ∨ d.baseRisk bound = .medium ∨ d.baseRisk bound = .low := by
  unfold baseRisk
  split
  · exact .inl rfl
  · split
    · exact .inr (.inl rfl)
    · exact .inr (.inr rfl)

end Grading

section Raising

variable {cycles : List (List String)} {d : Detail} {bound : Quantity} {x y : String}

/-- The longest of several cycles and a length known before is longer than `k` if one of them is. -/
theorem lt_longest {k : Nat} (longest : Option Nat) :
    (∃ n ∈ cycles.foldl (fun longest c => some (max (longest.getD 0) c.length)) longest, k < n) ↔
      (∃ n ∈ longest, k < n) ∨ ∃ cycle ∈ cycles, k < cycle.length := by
  induction cycles generalizing longest with
  | nil => simp
  | cons cycle rest ih =>
      have hknown : k < longest.getD 0 ↔ ∃ n ∈ longest, k < n := by
        cases longest <;> simp
      rw [List.foldl_cons, ih, List.exists_mem_cons_iff, ← or_assoc, ← hknown]
      simp

/-- The length that an edge has from the reported cycles through it. -/
theorem lt_cyclic_length {k n : Nat} (h : cyclicLength cycles x y = some n) :
    k < n ↔ ∃ cycle ∈ cycles, (x, y) ∈ cycleEdges cycle ∧ k < cycle.length := by
  have hlongest : (∃ m ∈ cyclicLength cycles x y, k < m) ↔ (∃ m ∈ none, k < m) ∨
      ∃ cycle ∈ cycles.filter fun c => (cycleEdges c).contains (x, y), k < cycle.length :=
    lt_longest none
  rw [h] at hlongest
  simpa [and_assoc] using hlongest

/-- A detail that a reported cycle runs along is raised, and the others stay as they are. -/
theorem Detail.mark_cycle_cases (d : Detail) (cycles : List (List String)) :
    (∃ n, cyclicLength cycles d.source d.target = some n ∧ (d.markCycle cycles).level = .circular ∧
        (d.markCycle cycles).risk = d.risk.max (if n > 2 then .critical else .high)) ∨
      (¬ ToldEdge cycles d.ends ∧ d.markCycle cycles = d) := by
  unfold markCycle
  split
  · next n hlength => exact .inl ⟨n, hlength, rfl, rfl⟩
  · next hnone =>
      refine .inr ⟨fun htold => ?_, rfl⟩
      have hsome := is_some_cyclic_length.mpr htold
      rw [hnone] at hsome
      cases hsome

/-- A graded detail that is raised becomes critical if a reported cycle of more than two nodes runs
along it, and else high. -/
theorem Detail.risk_mark_cycle (hgraded : d.risk = d.baseRisk bound)
    (hlevel : (d.markCycle cycles).level = .circular) (hdirect : d.level = .direct) :
    ((d.markCycle cycles).risk = .high ∨ (d.markCycle cycles).risk = .critical) ∧
      ((d.markCycle cycles).risk = .critical ↔
        ∃ cycle ∈ cycles, d.ends ∈ cycleEdges cycle ∧ 2 < cycle.length) := by
  rcases d.mark_cycle_cases cycles with ⟨n, hlength, -, hrisk⟩ | ⟨-, hsame⟩
  · have hmax : ∀ raised, raised = .high ∨ raised = .critical → d.risk.max raised = raised := by
      rw [hgraded]
      rcases d.base_risk_cases bound with hbase | hbase | hbase <;> rw [hbase] <;>
        rintro _ (rfl | rfl) <;> rfl
    rw [hrisk, Detail.ends, ← lt_cyclic_length hlength]
    by_cases hlong : n > 2
    · rw [if_pos hlong, hmax _ (.inr rfl)]
      exact ⟨.inr rfl, iff_of_true rfl hlong⟩
    · rw [if_neg hlong, hmax _ (.inl rfl)]
      exact ⟨.inl rfl, iff_of_false (by decide) hlong⟩
  · rw [hsame, hdirect] at hlevel
    cases hlevel

end Raising

/-- What an analysis that looks for cycles says of the dependencies that units have by themselves,
one for each edge: those on reported cycles are told to be circular, like their edges, and have at
least a high risk; the others stay direct and have the risk that they make by themselves. -/
structure DependencyAnalysis.GradesByCycles (a : DependencyAnalysis) (options : AnalysisSettings)
    (own : List Detail) : Prop where
  distinct : a.graph.ends.Nodup
  joined : a.graph.ends.Perm (own.map (·.ends))
  levels : ∀ d ∈ own, d.level = .direct ∨ d.level = .circular
  circular : ∀ d ∈ own, d.level = .circular ↔ ToldEdge a.graph.cycles d.ends
  marked : ∀ d ∈ own, ∃ e ∈ a.graph.edges, e.ends = d.ends ∧
    (d.level = .circular ↔ e.isCyclic = true)
  raised : ∀ d ∈ own, d.level = .circular → d.risk = .high ∨ d.risk = .critical
  critical : ∀ d ∈ own, d.level = .circular → (d.risk = .critical ↔
    ∃ cycle ∈ a.graph.cycles, d.ends ∈ cycleEdges cycle ∧ 2 < cycle.length)
  kept : ∀ d ∈ own, d.level = .direct →
    ∃ bound, options.highRiskBindings = .ok bound ∧ d.risk = d.baseRisk bound

section Analyses

variable {options : AnalysisSettings} {components : List Component} {g : Gathered}
  {ids warnings : List String} {a : DependencyAnalysis}

theorem grades_by_cycles_of_analysis_of {bound : Quantity} (hcycles : options.detectCycles = true)
    (hwithin : g.Within ids) (hsub : ids ⊆ components.map (·.id)) (hgraded : g.Graded bound)
    (hbound : g.details ≠ [] → options.highRiskBindings = .ok bound)
    (h : analysisOf options components g warnings = .ok a) :
    a.GradesByCycles options (options.markDetails a.graph g.details) := by
  obtain ⟨-, -, hcyclic⟩ := marked_of_analysis_of hcycles hwithin.direct h
  have hof := analysis_of_eq_ok (fun d hd => by simp [hwithin.direct d hd]) h
  have hconsistent := hof.consistent hwithin hsub
  have hown : options.markDetails a.graph g.details =
      g.details.map (·.markCycle a.graph.cycles) := if_pos hcycles
  have hjoined : a.graph.ends.Perm ((options.markDetails a.graph g.details).map (·.ends)) := by
    rw [AnalysisSettings.ends_mark_details]
    exact hof.ends_perm hwithin hsub
  have hcircular : ∀ d ∈ options.markDetails a.graph g.details,
      d.level = .circular ↔ ToldEdge a.graph.cycles d.ends := by
    rw [hown, List.forall_mem_map]
    intro d hmem
    rw [Detail.level_mark_cycle_eq_circular_iff (hwithin.direct d hmem), Detail.ends_mark_cycle]
  refine ⟨hconsistent.distinct, hjoined, ?_, hcircular, ?_, ?_, ?_, ?_⟩
  · rw [hown, List.forall_mem_map]
    intro d hmem
    rcases d.mark_cycle_cases a.graph.cycles with ⟨_, _, hlevel, _⟩ | ⟨-, hsame⟩
    · exact .inr hlevel
    · rw [hsame]
      exact .inl (hwithin.direct d hmem)
  · intro d hd
    have hends : d.ends ∈ a.graph.ends := hjoined.mem_iff.mpr (List.mem_map_of_mem hd)
    obtain ⟨e, he, hsame⟩ := List.mem_map.mp hends
    exact ⟨e, he, hsame, by rw [hcircular d hd, hcyclic e he, hsame]⟩
  · rw [hown, List.forall_mem_map]
    intro d hmem hlevel
    exact (Detail.risk_mark_cycle (hgraded d hmem) hlevel (hwithin.direct d hmem)).1
  · rw [hown, List.forall_mem_map]
    intro d hmem hlevel
    rw [Detail.ends_mark_cycle]
    exact (Detail.risk_mark_cycle (hgraded d hmem) hlevel (hwithin.direct d hmem)).2
  · rw [hown, List.forall_mem_map]
    intro d hmem hlevel
    refine ⟨bound, hbound (List.ne_nil_of_mem hmem), ?_⟩
    rcases d.mark_cycle_cases a.graph.cycles with ⟨_, _, hraised, _⟩ | ⟨-, hsame⟩
    · rw [hraised] at hlevel
      cases hlevel
    · rw [hsame]
      exact hgraded d hmem

end Analyses

/-- An analysis that looks for cycles tells the dependencies that units have by themselves by the
reported cycles; links through other units come after them and are never circular. -/
theorem analyze_grades_by_cycles {components : List Component} {documents : Assoc Document}
    {context : RunContext} {s t : RunState} {a : DependencyAnalysis}
    (hcycles : context.settings.analysis.detectCycles = true)
    (hrun : (Run.analyze components documents).exec context s = (.ok a, t)) :
    ∃ own through, a.details = own ++ through ∧
      a.GradesByCycles context.settings.analysis own ∧
      context.settings.analysis.transitiveOf a.graph components = .ok through ∧
      ∀ d ∈ through, d.level = .transitive := by
  obtain ⟨readings, state, hof, htells, hfrom, hanalysis⟩ := analyze_eq_ok hrun
  obtain ⟨through, hthrough, hdetails⟩ := details_of_analysis_of hanalysis
  have hgraded : state.gathered.Graded context.settings.analysis.bindingsBound := by
    rw [hfrom.gathered]
    exact Gathered.Graded.add_uses (fun d hd => absurd hd List.not_mem_nil) _
  refine ⟨_, through, hdetails, ?_, hthrough, fun d hd =>
    AnalysisSettings.level_of_mem_transitive_of hthrough hd⟩
  refine grades_by_cycles_of_analysis_of hcycles htells.gathered hof.analyzed_ids_subset hgraded
    (fun hsome => hfrom.bounded fun hnone => hsome ?_) hanalysis
  rw [hfrom.gathered, hnone]
  rfl

/-- Of the three units, the circle makes its dependencies critical, and the shortcut stays low. -/
theorem analyze_grades_by_cycles_loop :
    ∃ a t own through, (Run.analyze loopUnits loopDocuments).exec loopContext {} = (.ok a, t) ∧
      a.details = own ++ through ∧ a.GradesByCycles loopContext.settings.analysis own ∧
      (∃ d ∈ own, d.ends = ("a", "b") ∧ d.level = .circular ∧ d.risk = .critical) ∧
      (∃ d ∈ own, d.ends = ("a", "c") ∧ d.level = .direct) ∧
      ∀ d ∈ through, d.level = .transitive := by
  obtain ⟨a, hrun, hanalysis⟩ := analyze_loop
  obtain ⟨own, through, hdetails, hgrades, -, hthrough⟩ := analyze_grades_by_cycles rfl hrun
  have hlevel : ∀ d ∈ loopDetails, d.level = .direct := by decide
  obtain ⟨hreported, -, -⟩ := marked_of_analysis_of rfl hlevel hanalysis
  rw [detect_cycles_loop] at hreported
  have hof := analysis_of_eq_ok (fun d hd => by simp [hlevel d hd]) hanalysis
  have hends : a.graph.ends = loopDetails.map (·.ends) := by
    rw [hof.ends]
    exact congrArg (List.map GraphEdge.ends) (List.mergeSort_of_pairwise (by decide))
  have htold : ∀ edge, ToldEdge a.graph.cycles edge ↔ edge ∈ cycleEdges ["a", "b", "c"] := by
    intro edge
    rw [hreported]
    simp [ToldEdge]
  have hown : ∀ edge ∈ loopDetails.map (·.ends), ∃ d ∈ own, d.ends = edge := by
    rw [← hends]
    intro edge hedge
    exact List.mem_map.mp (hgrades.joined.subset hedge)
  refine ⟨a, {}, own, through, hrun, hdetails, hgrades, ?_, ?_, hthrough⟩
  · obtain ⟨d, hd, hedge⟩ := hown ("a", "b") (by decide)
    have hcircular : d.level = .circular := by
      rw [hgrades.circular d hd, htold, hedge]
      decide
    refine ⟨d, hd, hedge, hcircular, (hgrades.critical d hd hcircular).mpr ?_⟩
    rw [hreported, hedge]
    exact ⟨["a", "b", "c"], List.mem_singleton.mpr rfl, by decide⟩
  · obtain ⟨d, hd, hedge⟩ := hown ("a", "c") (by decide)
    refine ⟨d, hd, hedge, (hgrades.levels d hd).resolve_right fun hcircular => ?_⟩
    rw [hgrades.circular d hd, htold, hedge] at hcircular
    revert hcircular
    decide

end ComponentMigration
