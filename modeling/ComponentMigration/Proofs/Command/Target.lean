import ComponentMigration.Proofs.Artifact.Module
import ComponentMigration.Proofs.Component.Units
import ComponentMigration.Proofs.Module.Drafting
import ComponentMigration.Proofs.Module.Transform
import ComponentMigration.Proofs.Run.Engines

/-!
# The unit that a name stands for

A unit that is asked for by name is migrated under that name.  The id of every discovered unit is
made of its file and its name with a colon between, and no name has a colon, so the unit that is
found for a name has that name (`target_of_name`).  Whatever is drafted for a unit is drafted for
that unit, so the outcome of its transformation is about it (`transform_unit_component`).
-/

namespace ComponentMigration

section Drafts

-- Whether a computation meets something is not to be found out by running it.
attribute [local irreducible] Run.Meets

theorem Draft.outcome_component (d : Draft) (grammar : Grammar) (compat : Bool) (source : String)
    (site : Site) : (d.outcome grammar compat source site).component = d.component := by
  unfold Draft.outcome
  dsimp only
  split <;> rfl

/-- The outcome of transforming a unit is about that unit. -/
theorem Run.transform_unit_component (context : RunContext) (s : RunState) (component : Component)
    (source : Option String) :
    (Run.transformUnit component source).Meets context s
      (fun outcome _ => outcome.component = component) fun _ => True := by
  refine Run.transform_from_meets (fun _ => rfl) (fun text s => ?_) s _
  refine Run.meets_bind Run.meets_trivial fun place s _ =>
    Run.meets_bind Run.meets_trivial fun document s _ => ?_
  split
  · exact Run.meets_fault trivial
  · split
    · exact Run.meets_fault trivial
    · refine Run.meets_read_bind ?_
      dsimp only
      split
      · exact Run.meets_throw trivial
      · next draft hdraft =>
          refine Run.meets_read_bind (Run.meets_pure ?_)
          exact (draft.outcome_component _ _ _ _).trans (Draft.of_site_component hdraft)

end Drafts

/-- A unit whose id is made of its file and its name. -/
def Component.IsKeyed (c : Component) : Prop := c.id = c.filePath ++ ":" ++ c.name

section Discovered

theorem IsAssembled.is_keyed {d : Document} {o : DocumentOrigin} {c : Component}
    (h : IsAssembled d o c) : c.IsKeyed := by
  rw [Component.IsKeyed, h.file_path, h.id_eq]

theorem Run.is_keyed_add_units {units found : List Component} (hunits : ∀ c ∈ units, c.IsKeyed)
    (hfound : ∀ c ∈ found, c.IsKeyed) : ∀ c ∈ Run.addUnits units found, c.IsKeyed := by
  induction found generalizing units with
  | nil => exact hunits
  | cons c found ih =>
      obtain ⟨hc, hfound⟩ := List.forall_mem_cons.mp hfound
      refine ih ?_ hfound
      dsimp only
      split
      · exact hunits
      · exact List.forall_mem_append.mpr ⟨hunits, List.forall_mem_singleton.mpr hc⟩

variable {context : RunContext} {s : RunState}

theorem Run.analyze_file_keyed (path root : Path) (coverage : Assoc Float) :
    (Run.analyzeFile path root coverage).Meets context s
      (fun result _ => ∀ c ∈ result.1, c.IsKeyed) fun _ => True := by
  refine Run.meets_bind Run.meets_trivial fun read t _ => ?_
  split
  · refine Run.meets_read_bind ?_
    split
    · exact fun _ => nofun
    · exact trivial
  · refine Run.meets_bind Run.meets_trivial fun document t _ => ?_
    exact fun c hc => (assembled_units document _ c hc).is_keyed

theorem Run.analyze_sources_keyed (root : Path) (coverage : Assoc Float) (paths : List Path)
    {units : List Component} (hunits : ∀ c ∈ units, c.IsKeyed) (issues : List DiscoveryIssue) :
    (Run.analyzeSources root coverage paths units issues).Meets context s
      (fun result _ => ∀ c ∈ result.1, c.IsKeyed) fun _ => True := by
  induction paths generalizing units issues s with
  | nil => exact hunits
  | cons path paths ih =>
      refine Run.meets_bind Run.meets_trivial fun place t _ =>
        Run.meets_bind Run.meets_trivial fun _ t _ =>
          Run.meets_bind (Run.analyze_file_keyed path root coverage) fun result t hresult => ?_
      exact ih (Run.is_keyed_add_units hunits hresult) _

/-- The id of every discovered unit is made of its file and its name. -/
theorem Run.discover_keyed (root : Path) :
    (Run.discover root).Meets context s (fun found _ => ∀ c ∈ found.components, c.IsKeyed)
      fun _ => True := by
  refine Run.meets_get_bind (Run.meets_use_bind (fun _ _ => trivial) fun place _ =>
    Run.meets_bind Run.meets_trivial fun files t _ =>
      Run.meets_bind Run.meets_trivial fun coverage t _ =>
        Run.meets_bind (Run.analyze_sources_keyed _ _ _ (List.forall_mem_nil _) _) fun result t hresult =>
          Run.meets_use_bind (fun _ _ => trivial) fun statistics _ => ?_)
  exact hresult

/-- The unit that is found for a name has that name. -/
theorem MigrateRequest.target_of_name {found : DiscoveryResult} {name : String} {c : Component}
    (hkeyed : ∀ c ∈ found.components, c.IsKeyed) (hname : isValidName name)
    (h : MigrateRequest.targetOf found name = some c) : c.name = name := by
  unfold MigrateRequest.targetOf at h
  rcases Option.or_eq_some_iff.mp h with hfirst | ⟨-, hsecond⟩
  · have hmatch := List.find?_some hfirst
    simp only [Bool.and_eq_true, beq_iff_eq] at hmatch
    exact hmatch.1
  · have hmatch := List.find?_some hsecond
    rw [Bool.or_eq_true, beq_iff_eq, beq_iff_eq] at hmatch
    rcases hmatch with hnamed | hid
    · exact hnamed
    · rw [hkeyed c (List.mem_of_find?_eq_some hsecond)] at hid
      have hcolon : ':' ∈ name.toList := by
        rw [← hid]
        simp
      exact absurd hcolon (not_mem_of_valid_name hname (by decide))

end Discovered

end ComponentMigration
