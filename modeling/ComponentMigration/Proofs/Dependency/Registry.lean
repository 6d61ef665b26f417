import ComponentMigration.Proofs.Dependency.Gathering
import ComponentMigration.Proofs.Text.Order

/-!
# The registry of packages

A use of an import either extends the detail of its unit and target or makes one
(`Gathered.add_cases`), and only a detail that is made of a package is registered.  So the registry
has for every package the units that details of the package lead away from (`RegistryOf`), and the
first use of a unit that leads to a target decides whether its detail is one of a package
(`Gathered.Records`).
-/

namespace ComponentMigration

section Users

variable {details : List Detail} {p id : String}

/-- The units that details of a package lead away from. -/
def usersOf (details : List Detail) (p : String) : List String :=
  (details.filter fun d => d.isExternal && d.target == p).map (·.source)

theorem mem_users_of :
    id ∈ usersOf details p ↔ ∃ d ∈ details, d.ends = (id, p) ∧ d.isExternal = true := by
  unfold usersOf
  simp only [List.mem_map, List.mem_filter, Bool.and_eq_true, beq_iff_eq, Detail.ends,
    Prod.mk.injEq]
  constructor
  · rintro ⟨d, ⟨hd, hexternal, hp⟩, hid⟩
    exact ⟨d, hd, ⟨hid, hp⟩, hexternal⟩
  · rintro ⟨d, hd, ⟨hid, hp⟩, hexternal⟩
    exact ⟨d, ⟨hd, hexternal, hp⟩, hid⟩

/-- Extended details stay those of their packages. -/
theorem users_of_map {merged : Detail → Detail}
    (hmerged : ∀ d, (merged d).ends = d.ends ∧ (merged d).isExternal = d.isExternal) :
    usersOf (details.map merged) = usersOf details := by
  funext p
  have hsource : ∀ d, (merged d).source = d.source := fun d => congrArg Prod.fst (hmerged d).1
  have htarget : ∀ d, (merged d).target = d.target := fun d => congrArg Prod.snd (hmerged d).1
  unfold usersOf
  simp only [List.filter_map, List.map_map, Function.comp_def, hsource, htarget,
    (hmerged _).2]

/-- A new detail of a package adds a user. -/
theorem users_of_append (details : List Detail) (fresh : Detail) (p : String) :
    usersOf (details ++ [fresh]) p = usersOf details p ++
      if fresh.isExternal = true ∧ fresh.target = p then [fresh.source] else [] := by
  unfold usersOf
  rw [List.filter_append, List.map_append, List.filter_singleton]
  by_cases hfresh : fresh.isExternal = true ∧ fresh.target = p
  · simp [hfresh]
  · have hfalse : (fresh.isExternal && fresh.target == p) = false := by simpa using hfresh
    rw [if_neg hfresh, hfalse]
    rfl

end Users

/-- A registry that has every package with its users, sorted and counted, once. -/
structure RegistryOf (registry : Assoc ExternalPackage) (users : String → List String) : Prop where
  distinct : registry.keys.Nodup
  absent : ∀ p, users p = [] → registry.get? p = none
  present : ∀ p, users p ≠ [] → ∃ e, registry.get? p = some e ∧
    e.usedBy = Text.sorted (users p) ∧ e.usageCount = (users p).length

/-- A new user of a package is added to its users. -/
theorem RegistryOf.register {registry : Assoc ExternalPackage} {users users' : String → List String}
    {name id : String} (h : RegistryOf registry users) (hnew : id ∉ users name)
    (hname : users' name = users name ++ [id]) (hother : ∀ p, p ≠ name → users' p = users p) :
    RegistryOf (registerExternal registry name id) users' := by
  -- Whether the package was registered before or is new, these are its users so far.
  obtain ⟨entry, hentry, husers, hcount⟩ : ∃ entry : ExternalPackage,
      (registry.get? name).getD
        (let classification := classifyPackage name
         { name := name
           classification := classification
           disposition := suggestDisposition name classification
           isDev := isDevClass classification }) = entry ∧
      entry.usedBy = Text.sorted (users name) ∧ entry.usageCount = (users name).length := by
    by_cases hnone : users name = []
    · rw [h.absent name hnone, hnone]
      exact ⟨_, rfl, List.mergeSort_nil.symm, rfl⟩
    · obtain ⟨e, he, husers, hcount⟩ := h.present name hnone
      rw [he]
      exact ⟨e, rfl, husers, hcount⟩
  have hregister : registerExternal registry name id = registry.set name
      { entry with
        usageCount := entry.usageCount + 1
        usedBy := Text.sorted (entry.usedBy ++ [id]) } := by
    rw [registerExternal, hentry]
    have hnot : entry.usedBy.contains id = false := by
      rw [husers, Bool.eq_false_iff, Ne, List.contains_iff_mem, (sorted_perm _).mem_iff]
      exact hnew
    simp only [hnot]
    rfl
  rw [hregister]
  refine ⟨Assoc.nodup_keys_set h.distinct, fun p hnone => ?_, fun p hsome => ?_⟩
  · by_cases hp : p = name
    · rw [hp, hname] at hnone
      simp at hnone
    · rw [Assoc.get?_set_of_ne _ _ (Ne.symm hp)]
      exact h.absent p (hother p hp ▸ hnone)
  · by_cases hp : p = name
    · subst hp
      refine ⟨_, Assoc.get?_set_self _ _ _, ?_, ?_⟩
      · rw [hname]
        exact sorted_eq_of_perm (by rw [husers]; exact (sorted_perm _).append_right _)
      · show entry.usageCount + 1 = _
        rw [hname, hcount, List.length_append]
        rfl
    · rw [Assoc.get?_set_of_ne _ _ (Ne.symm hp), hother p hp]
      exact h.present p (hother p hp ▸ hsome)

/-- Registering a detail that joins what no other one does keeps the registry that of the
details. -/
theorem RegistryOf.add_detail {registry : Assoc ExternalPackage} {details : List Detail}
    {fresh : Detail} (h : RegistryOf registry (usersOf details))
    (hnew : fresh.ends ∉ details.map (·.ends)) :
    RegistryOf
      (if fresh.isExternal then registerExternal registry fresh.target fresh.source else registry)
      (usersOf (details ++ [fresh])) := by
  split
  · next hpackage =>
      refine h.register ?_ ?_ ?_
      · intro hold
        obtain ⟨d, hd, hjoins, -⟩ := mem_users_of.1 hold
        exact hnew (List.mem_map.mpr ⟨d, hd, hjoins⟩)
      · rw [users_of_append, if_pos ⟨hpackage, rfl⟩]
      · intro p hp
        rw [users_of_append, if_neg fun hsame => hp hsame.2.symm, List.append_nil]
  · next hfile =>
      have hsame : usersOf (details ++ [fresh]) = usersOf details := by
        funext p
        rw [users_of_append, if_neg fun hsame => hfile hsame.1, List.append_nil]
      rw [hsame]
      exact h

namespace Gathered

variable {g : Gathered} {primary : Assoc String} {uses : List ImportUse}

/-- What uses of imports leave behind: each has a detail of what it joins, every detail comes from
one of them, and the registry has every package with its users. -/
structure Records (g : Gathered) (primary : Assoc String) (uses : List ImportUse) : Prop where
  told : ∀ use ∈ uses, use.ends primary ∈ g.details.map (·.ends)
  origin : ∀ d ∈ g.details, ∃ use ∈ uses, d.ends = use.ends primary ∧
    d.isExternal = use.isExternal
  registry : RegistryOf g.external (usersOf g.details)

theorem Records.add (h : g.Records primary uses) (bound : Quantity) (use : ImportUse) :
    (g.add bound primary use).Records primary (uses ++ [use]) := by
  rcases g.add_cases bound primary use with
    ⟨hknown, merged, hmerged, hadd⟩ | ⟨hnew, fresh, hfresh, hadd⟩
  · have hsame : (g.details.map merged).map (·.ends) = g.details.map (·.ends) := by
      rw [List.map_map]
      exact List.map_congr_left fun d _ => (hmerged d).ends
    rw [hadd]
    refine ⟨?_, ?_, ?_⟩
    · rw [List.forall_mem_append, List.forall_mem_singleton]
      exact ⟨fun use huse => hsame ▸ h.told use huse, hsame ▸ hknown⟩
    · intro d hd
      obtain ⟨d, hmem, rfl⟩ := List.mem_map.mp hd
      obtain ⟨use', huse', hjoins, hsort⟩ := h.origin d hmem
      exact ⟨use', List.mem_append_left _ huse', (hmerged d).ends.trans hjoins,
        (hmerged d).isExternal.trans hsort⟩
    · rw [users_of_map fun d => ⟨(hmerged d).ends, (hmerged d).isExternal⟩]
      exact h.registry
  · have hends := hfresh.ends
    have hexternal := hfresh.isExternal
    rw [hadd]
    refine ⟨?_, ?_, ?_⟩
    · rw [List.forall_mem_append, List.forall_mem_singleton, List.map_append]
      refine ⟨fun use huse => List.mem_append_left _ (h.told use huse), ?_⟩
      exact List.mem_append_right _ (List.mem_singleton.mpr hends.symm)
    · intro d hd
      rcases List.mem_append.mp hd with hd | hd
      · obtain ⟨use', huse', hsame⟩ := h.origin d hd
        exact ⟨use', List.mem_append_left _ huse', hsame⟩
      · rw [List.mem_singleton.mp hd]
        exact ⟨use, List.mem_append_right _ (List.mem_singleton.mpr rfl), hends, hexternal⟩
    · obtain ⟨hsource, htarget⟩ := Prod.mk.inj hends
      rw [← hexternal, ← hsource, ← htarget]
      exact h.registry.add_detail (hends ▸ hnew)

theorem Records.add_uses (h : g.Records primary uses) (bound : Quantity)
    (more : List ImportUse) : (g.addUses bound primary more).Records primary (uses ++ more) := by
  induction more generalizing g uses with
  | nil =>
      rw [List.append_nil]
      exact h
  | cons use rest ih =>
      have hrest := ih (h.add bound use)
      rwa [List.append_assoc, List.singleton_append] at hrest

/-- Nothing is left behind at the start. -/
theorem Records.nil (primary : Assoc String) : Records {} primary [] :=
  ⟨fun _ huse => absurd huse List.not_mem_nil, fun _ hd => absurd hd List.not_mem_nil,
    List.nodup_nil, fun _ _ => rfl, fun _ hsome => absurd rfl hsome⟩

end Gathered

end ComponentMigration
