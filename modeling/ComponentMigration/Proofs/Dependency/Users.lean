import ComponentMigration.Proofs.Dependency.Packages

/-!
# The users of packages

The registry of an analysis is an account of its details: it has an entry for every package that a
detail leads to, and the entry lists the units that these details lead away from, in the order of
texts and each once, with their number (`analyze_accounts_for_packages`).  A unit that imports a
package several times has one detail of it and is counted once.
-/

namespace ComponentMigration

section Users

variable {details more : List Detail} {p : String}

/-- Details that differ only in what reported cycles raise have the same users. -/
theorem users_of_eq_of_unraised (h : details.map (·.unraised) = more.map (·.unraised)) :
    usersOf details = usersOf more := by
  have hsame : ∀ details : List Detail, usersOf (details.map (·.unraised)) = usersOf details :=
    fun details => users_of_map fun _ => ⟨rfl, rfl⟩
  rw [← hsame details, h, hsame more]

/-- Details that are none of packages add no users. -/
theorem users_of_append_of_internal (h : ∀ d ∈ more, d.isExternal = false) :
    usersOf (details ++ more) p = usersOf details p := by
  have hnone : usersOf more p = [] := by
    rw [usersOf, List.map_eq_nil_iff, List.filter_eq_nil_iff]
    intro d hd
    simp [h d hd]
  rw [usersOf, List.filter_append, List.map_append]
  exact (congrArg (usersOf details p ++ ·) hnone).trans (List.append_nil _)

/-- A unit has at most one detail of a package. -/
theorem users_of_nodup (h : (details.map (·.ends)).Nodup) (p : String) :
    (usersOf details p).Nodup := by
  refine List.Nodup.map_on ?_ ((List.Nodup.of_map _ h).filter _)
  intro d hd e he hsource
  obtain ⟨hd, hdp⟩ := List.mem_filter.mp hd
  obtain ⟨he, hep⟩ := List.mem_filter.mp he
  simp only [Bool.and_eq_true, beq_iff_eq] at hdp hep
  exact List.inj_on_of_nodup_map h hd he (Prod.ext hsource (hdp.2.trans hep.2.symm))

end Users

section Names

variable {registry : Assoc ExternalPackage} {g : Gathered}

/-- Packages that are registered under their names. -/
def NamesPackages (registry : Assoc ExternalPackage) : Prop :=
  ∀ p e, (p, e) ∈ registry → e.name = p

theorem NamesPackages.register (h : NamesPackages registry) (name id : String) :
    NamesPackages (registerExternal registry name id) := by
  intro p e he
  rcases Assoc.mem_or_eq_of_mem_set he with hold | hnew
  · exact h p e hold
  · obtain ⟨rfl, rfl⟩ := Prod.mk.inj hnew
    show ((registry.get? p).getD _).name = p
    cases hget : registry.get? p with
    | none => rfl
    | some entry => exact h p entry (Assoc.mem_of_get? hget)

theorem NamesPackages.add_uses (h : NamesPackages g.external) (bound : Quantity)
    (primary : Assoc String) (uses : List ImportUse) :
    NamesPackages (g.addUses bound primary uses).external := by
  induction uses generalizing g with
  | nil => exact h
  | cons use rest ih =>
      refine ih (g := g.add bound primary use) ?_
      rcases g.add_cases bound primary use with ⟨-, merged, -, hadd⟩ | ⟨-, fresh, -, hadd⟩
      · rw [hadd]
        exact h
      · rw [hadd]
        dsimp only
        split
        · exact h.register _ _
        · exact h

end Names

/-- A registry of packages that accounts for the details of an analysis. -/
structure DependencyAnalysis.AccountsForPackages (a : DependencyAnalysis) : Prop where
  distinct : a.external.keys.Nodup
  named : ∀ p e, (p, e) ∈ a.external → e.name = p
  registered : ∀ p, p ∈ a.external.keys ↔ ∃ d ∈ a.details, d.isExternal = true ∧ d.target = p
  rising : ∀ p e, (p, e) ∈ a.external → e.usedBy.Pairwise (· < ·)
  users : ∀ p e, (p, e) ∈ a.external → ∀ id,
    id ∈ e.usedBy ↔ ∃ d ∈ a.details, d.isExternal = true ∧ d.target = p ∧ d.source = id
  counted : ∀ p e, (p, e) ∈ a.external → e.usageCount = e.usedBy.length

/-- A registry that has every package with its users, by name, accounts for the details of which
these are the users. -/
theorem RegistryOf.accounts_for_packages {registry : Assoc ExternalPackage} {a : DependencyAnalysis}
    (h : RegistryOf registry (usersOf a.details)) (hnamed : NamesPackages registry)
    (hexternal : a.external = registry.sorted)
    (hnodup : ∀ p, (usersOf a.details p).Nodup) : a.AccountsForPackages := by
  have hperm : a.external.Perm registry := hexternal ▸ List.mergeSort_perm _ _
  have hused : ∀ {p id}, id ∈ usersOf a.details p ↔
      ∃ d ∈ a.details, d.isExternal = true ∧ d.target = p ∧ d.source = id := by
    intro p id
    rw [mem_users_of]
    simp only [Detail.ends, Prod.mk.injEq, and_comm]
  have hentry : ∀ {p e}, (p, e) ∈ a.external →
      usersOf a.details p ≠ [] ∧ e.usedBy = Text.sorted (usersOf a.details p) ∧
        e.usageCount = (usersOf a.details p).length := by
    intro p e he
    have hget := (Assoc.get?_eq_some_iff h.distinct).mpr (hperm.mem_iff.mp he)
    have hsome : usersOf a.details p ≠ [] := by
      intro hnone
      rw [h.absent p hnone] at hget
      cases hget
    obtain ⟨e', hget', husers, hcount⟩ := h.present p hsome
    obtain rfl : e' = e := Option.some.inj (hget'.symm.trans hget)
    exact ⟨hsome, husers, hcount⟩
  refine ⟨(hperm.map _).nodup_iff.mpr h.distinct, fun p e he => hnamed p e (hperm.mem_iff.mp he),
    fun p => ⟨fun hp => ?_, ?_⟩, ?_, ?_, ?_⟩
  · obtain ⟨⟨_, e⟩, he, rfl⟩ := List.mem_map.mp hp
    obtain ⟨id, hid⟩ := List.exists_mem_of_ne_nil _ (hentry he).1
    obtain ⟨d, hd, hpackage, htarget, -⟩ := hused.mp hid
    exact ⟨d, hd, hpackage, htarget⟩
  · rintro ⟨d, hd, hpackage, htarget⟩
    have hid := hused.mpr ⟨d, hd, hpackage, htarget, rfl⟩
    obtain ⟨e, hget, -⟩ := h.present p (List.ne_nil_of_mem hid)
    exact List.mem_map.mpr ⟨(p, e), hperm.mem_iff.mpr (Assoc.mem_of_get? hget), rfl⟩
  · intro p e he
    rw [(hentry he).2.1]
    exact pairwise_lt_sorted (hnodup p)
  · intro p e he id
    rw [(hentry he).2.1, (sorted_perm _).mem_iff]
    exact hused
  · intro p e he
    rw [(hentry he).2.2, (hentry he).2.1, (sorted_perm _).length_eq]

/-- Whenever an analysis returns, whatever its units import and in whichever order, its registry of
packages accounts for its details. -/
theorem analyze_accounts_for_packages {components : List Component} {documents : Assoc Document}
    {context : RunContext} {s t : RunState} {a : DependencyAnalysis}
    (hrun : (Run.analyze components documents).exec context s = (.ok a, t)) :
    a.AccountsForPackages := by
  obtain ⟨readings, state, -, htells, hfrom, hanalysis⟩ := analyze_eq_ok hrun
  obtain ⟨through, hthrough, hdetails⟩ := details_of_analysis_of hanalysis
  have hregistry := hfrom.records.registry
  have hown : usersOf (context.settings.analysis.markDetails a.graph state.gathered.details) =
      usersOf state.gathered.details :=
    users_of_eq_of_unraised AnalysisSettings.unraised_mark_details
  have husers : usersOf a.details = usersOf state.gathered.details := by
    rw [hdetails, ← hown]
    funext p
    exact users_of_append_of_internal fun d hd =>
      AnalysisSettings.is_external_of_mem_transitive_of hthrough hd
  have hnamed : NamesPackages state.gathered.external := by
    rw [hfrom.gathered]
    exact NamesPackages.add_uses (fun p e he => absurd he List.not_mem_nil) _ _ _
  rw [← husers] at hregistry
  refine hregistry.accounts_for_packages hnamed (external_of_analysis_of hanalysis) fun p => ?_
  rw [husers]
  exact users_of_nodup htells.gathered.distinct p

/-- A unit that imports two modules of a package is its one user. -/
theorem analyze_accounts_for_packages_app :
    ∃ a t, (Run.analyze ((appImporting ["react", "./util", "react/jsx-runtime"]).units appOrigin)
        [("App.tsx", appImporting ["react", "./util", "react/jsx-runtime"])]).exec loopContext {} =
          (.ok a, t) ∧
      a.AccountsForPackages ∧
      ∃ e, ("react", e) ∈ a.external ∧ e.usedBy = ["App.tsx:App"] ∧ e.usageCount = 1 := by
  have herrors : (appImporting ["react", "./util", "react/jsx-runtime"]).hasErrors = false := by
    decide
  have hone : ((appImporting ["react", "./util", "react/jsx-runtime"]).units appOrigin).length =
      1 := by decide
  obtain ⟨a, t, hrun⟩ := analyze_app_returns herrors hone
  have haccounts := analyze_accounts_for_packages hrun
  have hregistry :
      (gatheredOfApp ["react", "./util", "react/jsx-runtime"]).external =
        [("react",
          { name := "react", classification := "framework", usageCount := 1
            usedBy := ["App.tsx:App"], disposition := "keep" })] := by decide +kernel
  have hentry := external_of_analyze_app herrors hone hrun
  rw [hregistry, Assoc.sorted, List.mergeSort_singleton] at hentry
  have hmem := hentry ▸ List.mem_singleton.mpr rfl
  exact ⟨a, t, hrun, haccounts, _, hmem, rfl, haccounts.counted _ _ hmem⟩

end ComponentMigration
