import Mathlib.Data.List.Nodup
import ComponentMigration.Component.Discovery

/-!
# The units of one document

Every unit of a document is put together for the document's file (`assembled_units`), so its id is
made of the file and its name, and its grade is a known one.  The names of the units are distinct
(`nodup_unit_names`): of the candidates the first one of each name counts, and what is recovered from
the text is added only under new names.
-/

namespace ComponentMigration

variable {d : Document} {o : DocumentOrigin} {units : List Component}

/-- A unit that is put together for a document. -/
def IsAssembled (d : Document) (o : DocumentOrigin) (c : Component) : Prop :=
  ∃ name kind props logic patterns startLine endLine documentation,
    c = assembleUnit d o name kind props logic patterns startLine endLine documentation

namespace IsAssembled

variable {c : Component}

theorem file_path (h : IsAssembled d o c) : c.filePath = o.file := by
  obtain ⟨_, _, _, _, _, _, _, _, rfl⟩ := h
  rfl

theorem id_eq (h : IsAssembled d o c) : c.id = o.file ++ ":" ++ c.name := by
  obtain ⟨_, _, _, _, _, _, _, _, rfl⟩ := h
  rfl

theorem has_rank (h : IsAssembled d o c) : c.complexity.rank?.isSome = true := by
  have hscore : ∀ score, (Complexity.ofScore score).rank?.isSome = true := by
    intro score
    unfold Complexity.ofScore
    split
    · rfl
    · split
      · rfl
      · split <;> rfl
  obtain ⟨_, _, _, _, _, _, _, _, rfl⟩ := h
  exact hscore _

end IsAssembled

/-- What holds of some units and is kept when a unit with a new name comes in holds when the
recovered ones have come in. -/
theorem add_recovered_induction {motive : List Component → Prop}
    (declarations : List (String × ComponentKind × Nat)) (hunits : motive units)
    (hadd : ∀ units c, motive units → IsAssembled d o c → ¬units.any (·.name == c.name) = true →
      motive (units ++ [c])) : motive (addRecovered d o units declarations) := by
  induction declarations generalizing units with
  | nil => exact hunits
  | cons declaration declarations ih =>
      obtain ⟨name, kind, line⟩ := declaration
      unfold addRecovered
      split
      · exact ih hunits
      · next hnew => exact ih (hadd _ _ hunits ⟨_, _, _, _, _, _, _, _, rfl⟩ hnew)

/-- What holds of the candidates and is kept when a unit with a new name comes in holds of the units
of a document. -/
theorem units_induction {motive : List Component → Prop} (d : Document) (o : DocumentOrigin)
    (hcandidates : motive ((d.candidates o).map (·.unit d o)))
    (hadd : ∀ units c, motive units → IsAssembled d o c → ¬units.any (·.name == c.name) = true →
      motive (units ++ [c])) : motive (d.units o) := by
  unfold Document.units
  dsimp only
  split
  · exact add_recovered_induction _ hcandidates hadd
  · exact hcandidates

/-- Every unit of a document is put together for it. -/
theorem assembled_units (d : Document) (o : DocumentOrigin) : ∀ c ∈ d.units o, IsAssembled d o c := by
  refine units_induction (motive := fun units => ∀ c ∈ units, IsAssembled d o c) d o ?_ ?_
  · intro c hc
    obtain ⟨candidate, -, rfl⟩ := List.mem_map.mp hc
    exact ⟨_, _, _, _, _, _, _, _, rfl⟩
  · exact fun units c hunits hc _ =>
      List.forall_mem_append.mpr ⟨hunits, List.forall_mem_singleton.mpr hc⟩

theorem nodup_concat_name {α : Type} {name : α → String} {items : List α} {x : α}
    (h : (items.map name).Nodup) (hnew : ¬items.any (name · == name x) = true) :
    ((items ++ [x]).map name).Nodup := by
  rw [List.map_append, List.map_singleton, ← List.concat_eq_append]
  refine h.concat fun hmem => hnew ?_
  obtain ⟨y, hy, hname⟩ := List.mem_map.mp hmem
  exact List.any_eq_true.mpr ⟨y, hy, beq_iff_eq.mpr hname⟩

/-- The first candidates of each name have distinct names. -/
theorem nodup_first_by_name (candidates : List Candidate) :
    ((firstByName candidates).map Candidate.name).Nodup := by
  suffices h : ∀ kept : List Candidate, (kept.map Candidate.name).Nodup →
      ((candidates.foldl
        (fun acc c => if acc.any (·.name == c.name) then acc else acc ++ [c]) kept).map
          Candidate.name).Nodup from h [] List.nodup_nil
  induction candidates with
  | nil => exact fun _ h => h
  | cons c candidates ih =>
      intro kept hkept
      refine ih _ ?_
      dsimp only
      split
      · exact hkept
      · next hnew => exact nodup_concat_name hkept hnew

/-- The units of a document have distinct names. -/
theorem nodup_unit_names (d : Document) (o : DocumentOrigin) :
    ((d.units o).map Component.name).Nodup := by
  refine units_induction (motive := fun units => (units.map Component.name).Nodup) d o ?_ ?_
  · rw [List.map_map]
    exact nodup_first_by_name _
  · exact fun units c hunits _ hnew => nodup_concat_name hunits hnew

end ComponentMigration
