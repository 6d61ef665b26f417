import ComponentMigration.Proofs.Dependency.Circular
import ComponentMigration.Proofs.Dependency.Distance
import ComponentMigration.Proofs.Dependency.Provenance

/-!
# Links through other units

An analysis tells of a link through other units wherever one unit comes to another one along the
dependencies between units in at least two steps, and at most as many as it looks for.  The search
from a unit finds such units with their distances, so each pair of units is told once and its risk
tells how far apart they are (`analyze_links_through_units`).
-/

namespace ComponentMigration

/-- One unit depends on another one. -/
def DependencyGraph.JoinsUnits (g : DependencyGraph) (ids : List String) (x y : String) : Prop :=
  x ∈ ids ∧ y ∈ ids ∧ g.Leads x y

/-- A link through other units by the number of its steps. -/
def throughDetail (x y : String) (n : Nat) : Detail :=
  { source := x, target := y, level := .transitive, risk := if n > 2 then .medium else .low }

section Tables

variable {g : DependencyGraph} {components : List Component} {ids : List String} {x y : String}

/-- The edges between units. -/
def DependencyGraph.unitTable (g : DependencyGraph) (ids : List String) : Adjacency :=
  (g.adjacency.filter fun (s, _) => ids.contains s).map fun (s, ts) => (s, ts.filter ids.contains)

theorem DependencyGraph.Counted.nodup_keys_adjacency (h : g.Counted) : g.adjacency.keys.Nodup := by
  rw [Assoc.keys, adjacency, List.map_map]
  exact h.distinct

/-- The table of edges between units has the dependencies between units. -/
theorem DependencyGraph.Counted.has_edge_unit_table_iff (h : g.Counted) :
    (g.unitTable ids).HasEdge x y ↔ g.JoinsUnits ids x y := by
  have hkeys : (g.unitTable ids).keys.Nodup := by
    rw [Assoc.keys, unitTable, List.map_map]
    exact (List.filter_sublist.map _).nodup h.nodup_keys_adjacency
  rw [JoinsUnits, ← h.has_edge_iff, Adjacency.has_edge_iff_of_nodup hkeys,
    Adjacency.has_edge_iff_of_nodup h.nodup_keys_adjacency]
  simp only [unitTable, List.mem_map, List.mem_filter, List.contains_iff_mem, Prod.exists,
    Prod.mk.injEq]
  constructor
  · rintro ⟨_, ⟨_, targets, ⟨hentry, hx⟩, rfl, rfl⟩, hy⟩
    obtain ⟨hy, hunit⟩ := List.mem_filter.mp hy
    exact ⟨hx, List.contains_iff_mem.mp hunit, targets, hentry, hy⟩
  · rintro ⟨hx, hunit, targets, hentry, hy⟩
    exact ⟨_, ⟨x, targets, ⟨hentry, hx⟩, rfl, rfl⟩,
      List.mem_filter.mpr ⟨hy, List.contains_iff_mem.mpr hunit⟩⟩

end Tables

section Links

variable {g : DependencyGraph} {components : List Component} {limit : Quantity} {n : Int}
  {x y : String} {d : Detail}

/-- The nodes that a unit comes to in two steps or more. -/
def DependencyGraph.farther (g : DependencyGraph) (ids : List String) (limit : Quantity)
    (x : String) : Assoc Nat :=
  (reachableBefore (g.unitTable ids) x limit).sorted.filter fun (t, depth) =>
    2 ≤ depth && !(((g.unitTable ids).get? x).getD []).contains t

theorem transitive_details_eq (g : DependencyGraph) (components : List Component)
    (limit : Quantity) :
    transitiveDetails g components limit =
      (Text.sorted (Text.unique (components.map (·.id)))).flatMap fun x =>
        (g.farther (Text.unique (components.map (·.id))) limit x).map fun e =>
          throughDetail x e.1 e.2 := rfl

/-- Nodes that are two steps away or more are no targets. -/
theorem DependencyGraph.Counted.mem_farther {ids : List String} (h : g.Counted)
    (hn : limit.int? = some n) {k : Nat} :
    (y, k) ∈ g.farther ids limit x ↔
      y ≠ x ∧ Distance (g.JoinsUnits ids) x y k ∧ 2 ≤ k ∧ k ≤ n := by
  have hsame : ∀ {a b}, (g.unitTable ids).HasEdge a b ↔ g.JoinsUnits ids a b :=
    h.has_edge_unit_table_iff
  rw [farther, List.mem_filter, Assoc.sorted, List.mem_mergeSort, mem_reachable_before hn,
    Bool.and_eq_true, decide_eq_true_eq, Bool.not_eq_true', ← Bool.not_eq_true,
    List.contains_iff_mem]
  constructor
  · rintro ⟨⟨hne, hdistance, -, hle⟩, htwo, -⟩
    exact ⟨hne, hdistance.congr hsame, htwo, hle⟩
  · rintro ⟨hne, hdistance, htwo, hle⟩
    have hdistance := hdistance.congr hsame.symm
    refine ⟨⟨hne, hdistance, by omega, hle⟩, htwo, fun hdirect => ?_⟩
    have := hdistance.le_one hdirect
    omega

/-- A walk between units that takes a step joins units. -/
theorem DependencyGraph.units_of_walk {ids : List String} {k : Nat}
    (h : Walk (g.JoinsUnits ids) x y k) (hpos : 0 < k) : x ∈ ids ∧ y ∈ ids := by
  induction h with
  | here => cases hpos
  | @step _ _ k before last ih =>
      refine ⟨?_, last.2.1⟩
      rcases Nat.eq_zero_or_pos k with rfl | hpos
      · rw [before.eq_of_zero]
        exact last.1
      · exact (ih hpos).1

/-- The links are those between different units that are at least two steps apart, and no further
than the limit. -/
theorem DependencyGraph.Counted.mem_transitive_details (h : g.Counted)
    (hn : limit.int? = some n) :
    d ∈ transitiveDetails g components limit ↔ ∃ x y k, d = throughDetail x y k ∧ x ≠ y ∧
      Distance (g.JoinsUnits (components.map (·.id))) x y k ∧ 2 ≤ k ∧ k ≤ n := by
  have hsame : ∀ {a b}, g.JoinsUnits (Text.unique (components.map (·.id))) a b ↔
      g.JoinsUnits (components.map (·.id)) a b := by
    intro a b
    rw [JoinsUnits, JoinsUnits, mem_unique, mem_unique]
  rw [transitive_details_eq, List.mem_flatMap]
  constructor
  · rintro ⟨x, -, hd⟩
    obtain ⟨⟨y, k⟩, hmem, rfl⟩ := List.mem_map.mp hd
    obtain ⟨hne, hdistance, htwo, hle⟩ := (h.mem_farther hn).mp hmem
    exact ⟨x, y, k, rfl, hne.symm, hdistance.congr hsame, htwo, hle⟩
  · rintro ⟨x, y, k, rfl, hne, hdistance, htwo, hle⟩
    have hdistance := hdistance.congr hsame.symm
    have hunit := (units_of_walk hdistance.walk (by omega)).1
    refine ⟨x, by simpa [Text.sorted] using hunit, List.mem_map.mpr ⟨(y, k), ?_, rfl⟩⟩
    exact (h.mem_farther hn).mpr ⟨hne.symm, hdistance, htwo, hle⟩

/-- No link is told twice. -/
theorem nodup_ends_transitive_details (g : DependencyGraph) (components : List Component)
    (limit : Quantity) : ((transitiveDetails g components limit).map (·.ends)).Nodup := by
  have hends : ∀ x, ((g.farther (Text.unique (components.map (·.id))) limit x).map fun e =>
      throughDetail x e.1 e.2).map (·.ends) =
        (g.farther (Text.unique (components.map (·.id))) limit x).keys.map (x, ·) := by
    intro x
    rw [Assoc.keys, List.map_map, List.map_map]
    rfl
  rw [transitive_details_eq, List.map_flatMap, List.nodup_flatMap]
  refine ⟨fun x _ => ?_, ?_⟩
  · rw [hends]
    refine List.Nodup.map (fun _ _ heq => congrArg Prod.snd heq) ?_
    have hkeys := (reachable_before_spec (g.unitTable (Text.unique (components.map (·.id)))) x
      limit).1
    have hperm := List.mergeSort_perm (reachableBefore
      (g.unitTable (Text.unique (components.map (·.id)))) x limit) fun a b => !decide (b.1 < a.1)
    exact (List.filter_sublist.map _).nodup ((hperm.map _).nodup_iff.mpr hkeys)
  · have hdistinct : (Text.sorted (Text.unique (components.map (·.id)))).Nodup :=
      (List.mergeSort_perm _ _).nodup_iff.mpr (nodup_unique _)
    refine hdistinct.imp fun {x x'} hne => ?_
    rw [Function.onFun_apply, hends, hends]
    intro edge hedge hedge'
    obtain ⟨_, -, rfl⟩ := List.mem_map.mp hedge
    obtain ⟨_, -, heq⟩ := List.mem_map.mp hedge'
    exact hne (congrArg Prod.fst heq).symm

end Links

/-- What an analysis tells of links through other units: they join different units that are at least
two steps apart, and at most as many as the analysis looks for.  Each pair of units is told once,
and more than two steps are riskier. -/
structure DependencyAnalysis.LinksThroughUnits (a : DependencyAnalysis) (ids : List String)
    (limit : Int) : Prop where
  once : ((a.details.filter (·.level == .transitive)).map (·.ends)).Nodup
  linked : ∀ x y, (x, y) ∈ (a.details.filter (·.level == .transitive)).map (·.ends) ↔
    x ∈ ids ∧ y ∈ ids ∧ x ≠ y ∧
      ∃ n, Distance (a.graph.JoinsUnits ids) x y n ∧ 2 ≤ n ∧ n ≤ limit
  risks : ∀ d ∈ a.details, d.level = .transitive →
    ∀ n, Distance (a.graph.JoinsUnits ids) d.source d.target n →
      d.risk = if n > 2 then .medium else .low

section Analyses

variable {options : AnalysisSettings} {components : List Component} {g : Gathered}
  {warnings : List String} {a : DependencyAnalysis}

/-- An analysis that looks for links through other units looks for them within its depth. -/
theorem AnalysisSettings.eq_transitive_details {graph : DependencyGraph} {through : List Detail}
    {limit : Quantity} (hthrough : options.includeTransitive = true)
    (hdepth : options.maxDepth = .ok limit)
    (h : options.transitiveOf graph components = .ok through) :
    through = transitiveDetails graph components limit := by
  rw [transitiveOf, hthrough, Bool.true_and] at h
  split at h
  · rw [hdepth] at h
    exact (Except.ok.inj h).symm
  · next hnone =>
      obtain rfl : components = [] := by simpa using hnone
      cases h
      simp [transitive_details_eq, Text.sorted, Text.unique]

/-- The details through other units are the links that are looked for. -/
theorem transitive_of_analysis_of (hlevel : ∀ d ∈ g.details, d.level ≠ .transitive)
    (h : analysisOf options components g warnings = .ok a) :
    options.transitiveOf a.graph components = .ok (a.details.filter (·.level == .transitive)) := by
  obtain ⟨through, hlinks, hdetails⟩ := details_of_analysis_of h
  rw [hlinks, hdetails, List.filter_append, List.filter_eq_nil_iff.mpr, List.nil_append,
    List.filter_eq_self.mpr]
  · intro d hd
    rw [AnalysisSettings.level_of_mem_transitive_of hlinks hd]
    rfl
  · intro d hd
    simpa using AnalysisSettings.level_mark_details hlevel d hd

theorem links_through_units_of_analysis_of {ids : List String} {limit : Quantity} {n : Int}
    (hthrough : options.includeTransitive = true) (hdepth : options.maxDepth = .ok limit)
    (hn : limit.int? = some n) (hwithin : g.Within ids) (hsub : ids ⊆ components.map (·.id))
    (h : analysisOf options components g warnings = .ok a) :
    a.LinksThroughUnits (components.map (·.id)) n := by
  have hlevel : ∀ d ∈ g.details, d.level ≠ .transitive := fun d hd => by
    simp [hwithin.direct d hd]
  have hcounted := ((analysis_of_eq_ok hlevel h).consistent hwithin hsub).counted
  have hfilter : a.details.filter (·.level == .transitive) =
      transitiveDetails a.graph components limit :=
    AnalysisSettings.eq_transitive_details hthrough hdepth (transitive_of_analysis_of hlevel h)
  refine ⟨?_, fun x y => ?_, fun d hd htransitive k hk => ?_⟩
  · rw [hfilter]
    exact nodup_ends_transitive_details a.graph components limit
  · rw [hfilter, List.mem_map]
    constructor
    · rintro ⟨d, hd, hends⟩
      obtain ⟨x, y, k, rfl, hne, hdistance, htwo, hle⟩ := (hcounted.mem_transitive_details hn).mp hd
      cases hends
      obtain ⟨hx, hy⟩ := DependencyGraph.units_of_walk hdistance.walk (by omega)
      exact ⟨hx, hy, hne, k, hdistance, htwo, hle⟩
    · rintro ⟨-, -, hne, k, hdistance, htwo, hle⟩
      exact ⟨throughDetail x y k,
        (hcounted.mem_transitive_details hn).mpr ⟨x, y, k, rfl, hne, hdistance, htwo, hle⟩, rfl⟩
  · have hmem : d ∈ transitiveDetails a.graph components limit :=
      hfilter ▸ List.mem_filter.mpr ⟨hd, by rw [htransitive]; rfl⟩
    obtain ⟨x, y, k', rfl, -, hdistance, -⟩ := (hcounted.mem_transitive_details hn).mp hmem
    rw [hk.unique hdistance]
    rfl

end Analyses

/-- The search finds the nodes within a number of steps, each once and with its distance.  So an
analysis that looks for links through other units tells those between different units that are at
least two steps apart, and at most as many as it looks for. -/
theorem analyze_links_through_units :
    (∀ (g : Adjacency) (start : String) (limit : Quantity) (n : Int), limit.int? = some n →
      (reachableBefore g start limit).keys.Nodup ∧
        ∀ t d, (t, d) ∈ reachableBefore g start limit ↔
          t ≠ start ∧ Distance g.HasEdge start t d ∧ 1 ≤ d ∧ d ≤ n) ∧
      ∀ (components : List Component) (documents : Assoc Document) (context : RunContext)
        (s t : RunState) (a : DependencyAnalysis) (limit : Quantity) (n : Int),
        context.settings.analysis.includeTransitive = true →
        context.settings.analysis.maxDepth = .ok limit → limit.int? = some n →
        (Run.analyze components documents).exec context s = (.ok a, t) →
          a.LinksThroughUnits (components.map (·.id)) n := by
  refine ⟨fun g start limit n hn =>
    ⟨(reachable_before_spec g start limit).1, fun t d => mem_reachable_before hn⟩, ?_⟩
  intro components documents context s t a limit n hthrough hdepth hn hrun
  obtain ⟨readings, state, hof, htells, -, hanalysis⟩ := analyze_eq_ok hrun
  exact links_through_units_of_analysis_of hthrough hdepth hn htells.gathered
    hof.analyzed_ids_subset hanalysis

/-- Back at its start a search goes no further round.  The second of the three units depends on the
first one through the third one. -/
theorem analyze_links_through_units_loop :
    ("c", 2) ∈ reachableBefore [("a", ["b"]), ("b", ["a", "c"])] "a" 2 ∧
      ∃ a t, (Run.analyze loopUnits loopDocuments).exec loopContext {} = (.ok a, t) ∧
        a.LinksThroughUnits ["a", "b", "c"] 5 ∧
        ∃ d ∈ a.details, d.level = .transitive ∧ d.ends = ("b", "a") ∧ d.risk = .low := by
  obtain ⟨hreach, hlinks⟩ := analyze_links_through_units
  refine ⟨((hreach _ "a" 2 2 rfl).2 "c" 2).mpr ⟨by decide, ?_, by decide, by decide⟩, ?_⟩
  · refine .of_two_steps (by decide) ?_ (y := "b") ?_ ?_ <;> unfold Adjacency.HasEdge <;> decide
  obtain ⟨a, hrun, hanalysis⟩ := analyze_loop
  have hlinks : a.LinksThroughUnits ["a", "b", "c"] 5 := hlinks _ _ _ _ _ _ 5 5 rfl rfl rfl hrun
  refine ⟨a, {}, hrun, hlinks, ?_⟩
  have hlevel : ∀ d ∈ loopDetails, d.level ≠ .transitive := by decide
  have hends : a.graph.ends = loopDetails.map (·.ends) := by
    rw [(analysis_of_eq_ok hlevel hanalysis).ends]
    exact congrArg (List.map GraphEdge.ends) (List.mergeSort_of_pairwise (by decide))
  have hdistance : Distance (a.graph.JoinsUnits ["a", "b", "c"]) "b" "a" 2 := by
    refine .of_two_steps (by decide) ?_ (y := "c") ?_ ?_ <;>
      unfold DependencyGraph.JoinsUnits DependencyGraph.Leads <;> rw [hends] <;> decide
  have hmem := (hlinks.linked "b" "a").mpr
    ⟨by decide, by decide, by decide, 2, hdistance, by decide, by decide⟩
  obtain ⟨d, hd, hjoined⟩ := List.mem_map.mp hmem
  obtain ⟨hd, htransitive⟩ := List.mem_filter.mp hd
  have htransitive : d.level = .transitive := by simpa using htransitive
  obtain ⟨hsource, htarget⟩ := Prod.mk.inj hjoined
  have hrisk := hlinks.risks d hd htransitive 2
  rw [hsource, htarget] at hrisk
  exact ⟨d, hd, htransitive, hjoined, hrisk hdistance⟩

end ComponentMigration
