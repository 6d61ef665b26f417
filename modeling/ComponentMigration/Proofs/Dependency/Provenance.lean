import ComponentMigration.Proofs.Dependency.Analyze

/-!
# Where an analysis comes from

An analysis that returns has read every file once and has added the uses of imports of one file
after the other, so that its details and packages are those of one list of uses (`analyze_reads`).
The bound on bindings is only looked at where there are uses.
-/

namespace ComponentMigration

variable {documents : Assoc Document} {context : RunContext} {s t : RunState}

/-- The bound that details are graded by, if it can be used; any other one serves as well where
there is nothing to grade. -/
def AnalysisSettings.bindingsBound (options : AnalysisSettings) : Quantity :=
  match options.highRiskBindings with
  | .ok bound => bound
  | .error _ => 0

theorem Gathered.add_uses_append (g : Gathered) (bound : Quantity) (primary : Assoc String)
    (uses more : List ImportUse) :
    g.addUses bound primary (uses ++ more) =
      (g.addUses bound primary uses).addUses bound primary more :=
  List.foldl_append

/-- How the readings of files came about and what they added. -/
structure GatheredFrom (components : List Component) (documents : Assoc Document)
    (options : AnalysisSettings) (readings : List FileReading) (state : AnalysisState) : Prop where
  files : readings.map (fun r => (r.file, r.units)) = (unitsByFile components).sorted
  atHand : ∀ r ∈ readings, ∀ d,
    documents.get? ((r.units.head?.map (·.absolutePath)).getD "") = some d → r.document = .ok d
  gathered : state.gathered =
    Gathered.addUses {} options.bindingsBound (primaryUnits (unitsByFile components))
      (readings.flatMap (·.uses (primaryUnits (unitsByFile components))))
  bounded : (readings.flatMap (·.uses (primaryUnits (unitsByFile components)))) ≠ [] →
    options.highRiskBindings = .ok options.bindingsBound

section Files

variable {primary : Assoc String} {state state' : AnalysisState}

/-- A file adds its uses, and needs the bound if it has some. -/
theorem gather_file_adds {entry : String × List Component}
    (h : (Run.gatherFile documents primary state entry).exec context s = (.ok state', t)) :
    ∃ r, (Run.readFile documents entry.1 entry.2).exec context s = (.ok r, t) ∧
      state'.gathered = state.gathered.addUses context.settings.analysis.bindingsBound primary
        (r.uses primary) ∧
      (r.uses primary ≠ [] → context.settings.analysis.highRiskBindings =
        .ok context.settings.analysis.bindingsBound) := by
  unfold Run.gatherFile at h
  obtain ⟨r, u, hread, h⟩ := Run.exec_bind_eq_ok.mp h
  dsimp only at h
  split at h
  · next hempty =>
      cases h
      rw [List.isEmpty_iff] at hempty
      exact ⟨r, hread, by rw [hempty]; rfl, fun hsome => absurd hempty hsome⟩
  · rw [Run.exec_bind, Run.exec_read] at h
    obtain ⟨bound, u', hused, hlast⟩ := Run.exec_bind_eq_ok.mp h
    obtain ⟨hbound, rfl⟩ := Run.exec_use_eq_ok.mp hused
    cases hlast
    have hsame : context.settings.analysis.bindingsBound = bound := by
      rw [AnalysisSettings.bindingsBound, hbound]
    exact ⟨r, hread, by rw [hsame], fun _ => hsame ▸ hbound⟩

/-- Files add their uses one after the other. -/
theorem gather_files_adds {entries : List (String × List Component)}
    (h : (entries.foldlM (Run.gatherFile documents primary) state).exec context s =
      (.ok state', t)) :
    ∃ readings, (entries.mapM fun entry => Run.readFile documents entry.1 entry.2).exec context s =
        (.ok readings, t) ∧
      (∀ r ∈ readings, ∀ d,
        documents.get? ((r.units.head?.map (·.absolutePath)).getD "") = some d →
          r.document = .ok d) ∧
      state'.gathered = state.gathered.addUses context.settings.analysis.bindingsBound primary
        (readings.flatMap (·.uses primary)) ∧
      (readings.flatMap (·.uses primary) ≠ [] → context.settings.analysis.highRiskBindings =
        .ok context.settings.analysis.bindingsBound) := by
  induction entries generalizing state s with
  | nil =>
      cases h
      exact ⟨[], rfl, fun r hr => absurd hr List.not_mem_nil, rfl, fun hsome => absurd rfl hsome⟩
  | cons entry rest ih =>
      rw [List.foldlM_cons] at h
      obtain ⟨middle, u, hfirst, hrest⟩ := Run.exec_bind_eq_ok.mp h
      obtain ⟨r, hread, hadds, hbound⟩ := gather_file_adds hfirst
      obtain ⟨readings, hreadings, hatHand, hmore, hbounds⟩ := ih hrest
      obtain ⟨-, hunits, hdocument⟩ := read_file_eq_ok hread
      refine ⟨r :: readings, ?_, ?_, ?_, ?_⟩
      · rw [List.mapM_cons]
        exact Run.exec_bind_eq_ok.mpr
          ⟨r, u, hread, Run.exec_bind_eq_ok.mpr ⟨readings, t, hreadings, rfl⟩⟩
      · intro r' hr'
        rcases List.mem_cons.mp hr' with rfl | hr'
        · rw [hunits]
          exact hdocument
        · exact hatHand r' hr'
      · rw [hmore, hadds, List.flatMap_cons, Gathered.add_uses_append]
      · intro hsome
        rw [List.flatMap_cons, Ne, List.append_eq_nil_iff, not_and_or] at hsome
        exact hsome.elim hbound hbounds

end Files

/-- The details of an analysis are those that were gathered, with their places on cycles, and the
links through other units. -/
theorem details_of_analysis_of {options : AnalysisSettings} {components : List Component}
    {g : Gathered} {warnings : List String} {a : DependencyAnalysis}
    (h : analysisOf options components g warnings = .ok a) :
    ∃ through, options.transitiveOf a.graph components = .ok through ∧
      a.details = options.markDetails a.graph g.details ++ through := by
  unfold analysisOf at h
  obtain ⟨through, hthrough, h⟩ := bind_eq_ok.mp h
  obtain ⟨clusters, -, h⟩ := bind_eq_ok.mp h
  cases h
  exact ⟨through, hthrough, rfl⟩

/-- A detail apart from what reported cycles raise: its level and its risk. -/
def Detail.unraised (d : Detail) : Detail := { d with level := .direct, risk := .low }

namespace AnalysisSettings

variable {options : AnalysisSettings} {g : DependencyGraph} {details : List Detail}

/-- Reported cycles raise the levels and risks of details, and leave the rest of them alone. -/
theorem unraised_mark_details :
    (options.markDetails g details).map (·.unraised) = details.map (·.unraised) := by
  have hmark : ∀ d : Detail, (d.markCycle g.cycles).unraised = d.unraised := by
    intro d
    unfold Detail.markCycle
    split <;> rfl
  unfold markDetails
  split
  · rw [List.map_map]
    exact List.map_congr_left fun d _ => hmark d
  · rfl

/-- Links through other units are none of packages. -/
theorem is_external_of_mem_transitive_of {components : List Component}
    (h : options.transitiveOf g components = .ok details) {d : Detail} (hd : d ∈ details) :
    d.isExternal = false := by
  unfold transitiveOf at h
  split at h
  · obtain ⟨maxDepth, -, hdetails⟩ := bind_eq_ok.mp h
    cases hdetails
    obtain ⟨id, -, hlinks⟩ := List.mem_flatMap.mp hd
    obtain ⟨entry, -, rfl⟩ := List.mem_map.mp hlinks
    rfl
  · cases h
    exact absurd hd List.not_mem_nil

end AnalysisSettings

/-- The packages of an analysis are those that were registered, by name. -/
theorem external_of_analysis_of {options : AnalysisSettings} {components : List Component}
    {g : Gathered} {warnings : List String} {a : DependencyAnalysis}
    (h : analysisOf options components g warnings = .ok a) : a.external = g.external.sorted := by
  unfold analysisOf at h
  obtain ⟨through, -, h⟩ := bind_eq_ok.mp h
  obtain ⟨clusters, -, h⟩ := bind_eq_ok.mp h
  cases h
  rfl

theorem Detail.eq_of_unraised {d x : Detail} (h : d.unraised = x.unraised) :
    d.ends = x.ends ∧ d.bindings = x.bindings ∧ d.usages = x.usages := by
  refine ⟨?_, ?_, ?_⟩
  · show d.unraised.ends = x.unraised.ends
    rw [h]
  · show d.unraised.bindings = x.unraised.bindings
    rw [h]
  · show d.unraised.usages = x.unraised.usages
    rw [h]

/-- The details that units have by themselves are those that were gathered, apart from what reported
cycles raise. -/
def DependencyAnalysis.TakesOver (a : DependencyAnalysis) (g : Gathered) : Prop :=
  (a.details.filter (·.level != .transitive)).map (·.unraised) = g.details.map (·.unraised)

section TakenOver

variable {a : DependencyAnalysis} {g : Gathered} {x d : Detail}

theorem takes_over_of_analysis_of {options : AnalysisSettings} {components : List Component}
    {warnings : List String} (hlevel : ∀ d ∈ g.details, d.level ≠ .transitive)
    (h : analysisOf options components g warnings = .ok a) : a.TakesOver g := by
  obtain ⟨through, hthrough, hdetails⟩ := details_of_analysis_of h
  have hnone : through.filter (·.level != .transitive) = [] := by
    rw [List.filter_eq_nil_iff]
    intro d hd
    simp [AnalysisSettings.level_of_mem_transitive_of hthrough hd]
  have hown : (options.markDetails a.graph g.details).filter (·.level != .transitive) =
      options.markDetails a.graph g.details := by
    rw [List.filter_eq_self]
    intro d hd
    simpa using AnalysisSettings.level_mark_details hlevel d hd
  rw [DependencyAnalysis.TakesOver, hdetails, List.filter_append, hnone, List.append_nil, hown,
    AnalysisSettings.unraised_mark_details]

theorem DependencyAnalysis.TakesOver.exists_gathered (h : a.TakesOver g) (hx : x ∈ a.details)
    (hlevel : x.level ≠ .transitive) : ∃ d ∈ g.details, d.unraised = x.unraised := by
  have hmem : x ∈ a.details.filter (·.level != .transitive) :=
    List.mem_filter.mpr ⟨hx, by simpa using hlevel⟩
  have hunraised := List.mem_map_of_mem (f := Detail.unraised) hmem
  rw [h] at hunraised
  exact List.mem_map.mp hunraised

theorem DependencyAnalysis.TakesOver.exists_own (h : a.TakesOver g) (hd : d ∈ g.details) :
    ∃ x ∈ a.details, x.level ≠ .transitive ∧ x.unraised = d.unraised := by
  have hunraised := List.mem_map_of_mem (f := Detail.unraised) hd
  rw [← h] at hunraised
  obtain ⟨x, hx, hsame⟩ := List.mem_map.mp hunraised
  obtain ⟨hx, hlevel⟩ := List.mem_filter.mp hx
  exact ⟨x, hx, by simpa using hlevel, hsame⟩

end TakenOver

/-- An analysis that returns has read every file, one after the other, and is that of what the
readings have added. -/
theorem analyze_reads {components : List Component} {a : DependencyAnalysis}
    (hrun : (Run.analyze components documents).exec context s = (.ok a, t)) :
    ∃ readings state,
      ((unitsByFile components).sorted.mapM fun entry =>
        Run.readFile documents entry.1 entry.2).exec context s = (.ok readings, t) ∧
      ReadingsOf components readings ∧ state.Tells readings ∧
      GatheredFrom components documents context.settings.analysis readings state ∧
      analysisOf context.settings.analysis components state.gathered state.warnings = .ok a := by
  unfold Run.analyze at hrun
  obtain ⟨state, u, hgather, hrun⟩ := Run.exec_bind_eq_ok.mp hrun
  obtain ⟨_, u', hread, hrun⟩ := Run.exec_bind_eq_ok.mp hrun
  cases hread
  obtain ⟨hanalysis, rfl⟩ := Run.exec_use_eq_ok.mp hrun
  have hnone : AnalysisState.Tells {} [] := ⟨⟨List.nodup_nil, by simp, by simp⟩, rfl⟩
  obtain ⟨readings, hreadings, hfiles, htells⟩ := gather_files_tells hnone hgather
  obtain ⟨same, hsame, hatHand, hgathered, hbounded⟩ := gather_files_adds hgather
  -- Both accounts are of the one run of readings.
  obtain rfl : same = readings := by
    have heq := hsame.symm.trans hreadings
    simpa using heq
  exact ⟨same, state, hsame, ReadingsOf.of_entries hfiles, by simpa using htells,
    ⟨hfiles, hatHand, hgathered, hbounded⟩, hanalysis⟩

/-- An analysis that returns is that of what the readings of all files have added. -/
theorem analyze_eq_ok {components : List Component} {a : DependencyAnalysis}
    (hrun : (Run.analyze components documents).exec context s = (.ok a, t)) :
    ∃ readings state, ReadingsOf components readings ∧ state.Tells readings ∧
      GatheredFrom components documents context.settings.analysis readings state ∧
      analysisOf context.settings.analysis components state.gathered state.warnings = .ok a := by
  obtain ⟨readings, state, -, hanalysis⟩ := analyze_reads hrun
  exact ⟨readings, state, hanalysis⟩

end ComponentMigration
