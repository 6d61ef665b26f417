import ComponentMigration.Proofs.Assoc
import ComponentMigration.Proofs.Sorting
import ComponentMigration.Readiness.Inventory

/-!
# The sections of an inventory

A level has a section if it has units, and the section has exactly these (`section_of_eq_some`,
`section_of_eq_none`).  An assessed unit has one of the levels of reports, so the sections partition
the units (`sections_partition`), and the summary counts for every level the units of its section
(`by_level_perm`).
-/

namespace ComponentMigration

variable {readiness : List Readiness} {level : ReadinessLevel} {x y : InventorySection}

namespace ReadinessLevel

theorem nodup_all : all.Nodup := by decide

theorem of_score_mem_all (score threshold : Quantity) : ofScore score threshold ∈ all := by
  unfold ofScore
  split
  · decide
  · split
    · decide
    · split <;> decide

/-- The levels of reports are told apart by their labels. -/
theorem label_eq_label_iff {level other : ReadinessLevel} (h : level ∈ all) (hother : other ∈ all) :
    level.label = other.label ↔ level = other := by
  have hall : ∀ a ∈ all, ∀ b ∈ all, a.label = b.label ↔ a = b := by decide
  exact hall level h other hother

end ReadinessLevel

/-- An assessed unit has the level of its score. -/
theorem level_of_assess {options : InventorySettings} {c : Component} {parse : Option ParseOutcome}
    {analysis : Option DependencyAnalysis} {r : Readiness}
    (h : assess options c parse analysis = .ok r) :
    r.level = ReadinessLevel.ofScore (.whole r.overallScore) options.readinessThreshold := by
  obtain ⟨criteria, -, h⟩ := bind_eq_ok.mp h
  obtain ⟨score, -, h⟩ := bind_eq_ok.mp h
  obtain ⟨effort, -, h⟩ := bind_eq_ok.mp h
  obtain ⟨risk, -, h⟩ := bind_eq_ok.mp h
  cases h
  rfl

/-- The ids of the units of a level. -/
def unitsAt (readiness : List Readiness) (level : ReadinessLevel) : List String :=
  (readiness.filter (·.level == level)).map (·.unitId)

theorem section_of_eq_some (h : sectionOf readiness level = some x) :
    x.level = level ∧ x.units = unitsAt readiness level ∧ x.units ≠ [] := by
  unfold sectionOf at h
  dsimp only at h
  split at h
  · cases h
  · next hmembers =>
      cases h
      refine ⟨rfl, rfl, fun hnil => hmembers ?_⟩
      rw [List.map_eq_nil_iff.mp hnil]
      rfl

theorem section_of_eq_none (h : sectionOf readiness level = none) :
    unitsAt readiness level = [] := by
  unfold sectionOf at h
  dsimp only at h
  split at h
  · next hmembers => rw [unitsAt, List.isEmpty_iff.mp hmembers, List.map_nil]
  · cases h

/-- Sections that partition assessed units by their levels. -/
structure Partitions (sections : List InventorySection) (readiness : List Readiness) : Prop where
  nonempty : ∀ x ∈ sections, x.units ≠ []
  in_order : (sections.map (·.level)).Sublist ReadinessLevel.all
  units_eq : ∀ x ∈ sections, x.units = unitsAt readiness x.level
  complete : (sections.flatMap (·.units)).Perm (readiness.map (·.unitId))
  placed : ∀ r ∈ readiness, ∃ x ∈ sections, x.level = r.level ∧
    ∀ y ∈ sections, r.unitId ∈ y.units ↔ y = x

theorem mem_sections_of :
    x ∈ sectionsOf readiness ↔ ∃ level ∈ ReadinessLevel.all, sectionOf readiness level = some x :=
  List.mem_filterMap

theorem section_of_level (h : x ∈ sectionsOf readiness) : sectionOf readiness x.level = some x := by
  obtain ⟨level, -, hsection⟩ := mem_sections_of.1 h
  rwa [(section_of_eq_some hsection).1]

/-- A unit's level has a section. -/
theorem exists_section {r : Readiness} (hr : r ∈ readiness) (hlevel : r.level ∈ ReadinessLevel.all) :
    ∃ x ∈ sectionsOf readiness, x.level = r.level ∧ r.unitId ∈ x.units := by
  have hunit : r.unitId ∈ unitsAt readiness r.level :=
    List.mem_map_of_mem (List.mem_filter.mpr ⟨hr, beq_self_eq_true _⟩)
  cases hsection : sectionOf readiness r.level with
  | none =>
      rw [section_of_eq_none hsection] at hunit
      cases hunit
  | some x =>
      obtain ⟨hx, hunits, -⟩ := section_of_eq_some hsection
      exact ⟨x, mem_sections_of.2 ⟨r.level, hlevel, hsection⟩, hx, hunits ▸ hunit⟩

theorem sections_levels_sublist (readiness : List Readiness) :
    ((sectionsOf readiness).map (·.level)).Sublist ReadinessLevel.all := by
  unfold sectionsOf
  induction ReadinessLevel.all with
  | nil => exact List.Sublist.slnil
  | cons level levels ih =>
      rw [List.filterMap_cons]
      split
      · exact ih.cons level
      · next hsection =>
          rw [List.map_cons, (section_of_eq_some hsection).1]
          exact ih.cons_cons level

theorem flat_map_sections :
    (sectionsOf readiness).flatMap (·.units) = ReadinessLevel.all.flatMap (unitsAt readiness) := by
  unfold sectionsOf
  induction ReadinessLevel.all with
  | nil => rfl
  | cons level levels ih =>
      rw [List.filterMap_cons, List.flatMap_cons, ← ih]
      split
      · next hnone => rw [section_of_eq_none hnone, List.nil_append]
      · next hsome => rw [List.flatMap_cons, (section_of_eq_some hsome).2.1]

/-- The units of all levels are the units. -/
theorem flat_map_units_at_perm (hlevels : ∀ r ∈ readiness, r.level ∈ ReadinessLevel.all) :
    (ReadinessLevel.all.flatMap (unitsAt readiness)).Perm (readiness.map (·.unitId)) := by
  have hgathered := flat_map_keys_perm (fun r : Readiness => r.level)
    ReadinessLevel.nodup_all hlevels
  rw [show unitsAt readiness = fun level =>
    (readiness.filter (·.level == level)).map (·.unitId) from rfl, ← List.map_flatMap]
  exact hgathered.map _

/-- Units with distinct ids are in one section each, that of their level. -/
theorem sections_partition (hids : (readiness.map (·.unitId)).Nodup)
    (hlevels : ∀ r ∈ readiness, r.level ∈ ReadinessLevel.all) :
    Partitions (sectionsOf readiness) readiness where
  nonempty _ hx := (section_of_eq_some (section_of_level hx)).2.2
  in_order := sections_levels_sublist readiness
  units_eq _ hx := (section_of_eq_some (section_of_level hx)).2.1
  complete := flat_map_sections ▸ flat_map_units_at_perm hlevels
  placed r hr := by
    obtain ⟨x, hx, hlevel, hunit⟩ := exists_section hr (hlevels r hr)
    refine ⟨x, hx, hlevel, fun y hy => ⟨fun hmem => ?_, fun heq => heq ▸ hunit⟩⟩
    -- the unit with this id is the only one, so the section is of its level
    rw [(section_of_eq_some (section_of_level hy)).2.1] at hmem
    obtain ⟨r', hr', hid⟩ := List.mem_map.mp hmem
    obtain ⟨hr', hlevel'⟩ := List.mem_filter.mp hr'
    have hsame : r' = r := List.inj_on_of_nodup_map hids hr' hr hid
    have hlevels : y.level = x.level := by rw [hlevel, ← hsame, eq_of_beq hlevel']
    have hy := section_of_level hy
    rw [hlevels, section_of_level hx] at hy
    exact (Option.some.inj hy).symm

theorem count_level_label (hlevels : ∀ r ∈ readiness, r.level ∈ ReadinessLevel.all)
    (hlevel : level ∈ ReadinessLevel.all) :
    (readiness.map (·.level.label)).count level.label = (unitsAt readiness level).length := by
  rw [List.count, List.countP_map, List.countP_eq_length_filter, unitsAt, List.length_map]
  congr 1
  refine List.filter_congr fun r hr => ?_
  rw [Bool.eq_iff_iff, Function.comp_apply, beq_iff_eq, beq_iff_eq,
    ReadinessLevel.label_eq_label_iff (hlevels r hr) hlevel]

/-- The summary's numbers by level are those of the units in the sections. -/
theorem by_level_perm (hlevels : ∀ r ∈ readiness, r.level ∈ ReadinessLevel.all) :
    (Assoc.count (readiness.map (·.level.label))).Perm
      ((sectionsOf readiness).map fun x => (x.level.label, x.units.length)) := by
  have hlabels : ((sectionsOf readiness).map fun x => (x.level.label, x.units.length)).Nodup := by
    have hall : (ReadinessLevel.all.map (·.label)).Nodup := by decide
    have hsub := (sections_levels_sublist readiness).map (·.label)
    refine .of_map Prod.fst ?_
    rw [List.map_map] at hsub ⊢
    exact hsub.nodup hall
  rw [List.perm_ext_iff_of_nodup (.of_map _ (Assoc.nodup_keys_count _)) hlabels]
  rintro ⟨label, n⟩
  rw [Assoc.mem_count, List.mem_map, List.mem_map]
  constructor
  · rintro ⟨⟨r, hr, rfl⟩, rfl⟩
    obtain ⟨x, hx, hlevel, -⟩ := exists_section hr (hlevels r hr)
    refine ⟨x, hx, ?_⟩
    rw [count_level_label hlevels (hlevels r hr), (section_of_eq_some (section_of_level hx)).2.1,
      hlevel]
  · rintro ⟨x, hx, heq⟩
    cases heq
    obtain ⟨-, hunits, hnonempty⟩ := section_of_eq_some (section_of_level hx)
    have hlevel := (sections_levels_sublist readiness).subset (List.mem_map_of_mem hx)
    obtain ⟨id, hid⟩ := List.exists_mem_of_ne_nil _ (hunits ▸ hnonempty)
    obtain ⟨r, hr, -⟩ := List.mem_map.mp hid
    obtain ⟨hr, hlevel'⟩ := List.mem_filter.mp hr
    refine ⟨⟨r, hr, ?_⟩, ?_⟩
    · rw [eq_of_beq hlevel']
    · rw [count_level_label hlevels hlevel, hunits]

end ComponentMigration
