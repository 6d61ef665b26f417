import ComponentMigration.Proofs.Manifest.Basic

/-!
# What a manifest says of single units

A stored manifest is consistent if it lists nothing twice and nothing as both successful and failed,
whatever values its entries are.  Noting the outcome of a unit keeps it so, says of this unit what
has been noted last, and says the same as before of all others (`Agree`).
-/

namespace ComponentMigration

namespace Json

variable {v : Json} {s : String}

/-- Only a text equals a text. -/
theorem beq_str_iff : (v == .str s) = true ↔ v = .str s := by
  cases v with
  | str t => simp [beq_str]
  | bool b | int n | float x =>
      refine iff_of_false (Bool.eq_false_iff.mp ?_) fun h => by cases h
      change beq _ (.str s) = false
      rw [beq]
      rfl
  | null | arr items | obj fields =>
      refine iff_of_false (Bool.eq_false_iff.mp ?_) fun h => by cases h
      change beq _ (.str s) = false
      rw [beq]
      all_goals simp

theorem str_beq_iff : (Json.str s == v) = true ↔ v = .str s := by
  cases v with
  | str t =>
      rw [beq_str, beq_iff_eq, Json.str.injEq]
      exact eq_comm
  | _ =>
      refine iff_of_false (Bool.eq_false_iff.mp ?_) fun h => by cases h
      change beq (.str s) _ = false
      rw [beq]
      all_goals simp

end Json

namespace Manifest

/-- A manifest without duplicate or contradictory entries. -/
structure IsConsistent (m : Manifest) : Prop where
  successful : m.successful.Pairwise fun v w => (v == w) = false
  failed : (m.failed.map FailedUnit.component).Pairwise fun v w => (v == w) = false
  disjoint : ∀ v ∈ m.successful, ∀ f ∈ m.failed, (v == f.component) = false

instance (m : Manifest) : Decidable m.IsConsistent :=
  decidable_of_iff (m.successful.Pairwise (fun v w => (v == w) = false) ∧
      (m.failed.map FailedUnit.component).Pairwise (fun v w => (v == w) = false) ∧
      ∀ v ∈ m.successful, ∀ f ∈ m.failed, (v == f.component) = false)
    ⟨fun h => ⟨h.1, h.2.1, h.2.2⟩, fun h => ⟨h.successful, h.failed, h.disjoint⟩⟩

/-- The entries of a failed unit. -/
def failures (m : Manifest) (name : Json) : List FailedUnit :=
  m.failed.filter fun f => f.component == name

/-- Manifests that say the same of the units for which a test holds. -/
structure Agree (test : Json → Bool) (m m' : Manifest) : Prop where
  successful : m'.successful.filter test = m.successful.filter test
  failed : (m'.failed.filter fun f => test f.component) = m.failed.filter fun f => test f.component

variable {m m' : Manifest} {name : String} {test : Json → Bool}

theorem is_consistent_empty (now : Instant) (config : Assoc Json) :
    (empty now config).IsConsistent :=
  ⟨List.Pairwise.nil, List.Pairwise.nil, List.forall_mem_nil _⟩

theorem is_successful_iff : m.isSuccessful (.str name) = true ↔ .str name ∈ m.successful := by
  simp [isSuccessful, Json.beq_str_iff]

section Erasing

variable {items : List Json}

theorem erase_first_sublist (v : Json) (items : List Json) :
    (eraseFirst v items).Sublist items := by
  induction items with
  | nil => exact List.Sublist.refl []
  | cons x rest ih =>
      unfold eraseFirst
      split
      · exact List.sublist_cons_self x rest
      · exact ih.cons_cons x

theorem erase_first_filter (htest : test (.str name) = false) (items : List Json) :
    (eraseFirst (.str name) items).filter test = items.filter test := by
  induction items with
  | nil => rfl
  | cons x rest ih =>
      unfold eraseFirst
      split
      · next hx =>
          obtain rfl := Json.beq_str_iff.1 hx
          rw [List.filter_cons_of_neg (by simp [htest])]
      · rw [List.filter_cons, List.filter_cons, ih]

/-- Of different values none is left that equals the one that was erased. -/
theorem not_mem_erase_first (h : items.Pairwise fun v w => (v == w) = false) :
    .str name ∉ eraseFirst (.str name) items := by
  induction items with
  | nil => exact List.not_mem_nil
  | cons x rest ih =>
      obtain ⟨hx, hrest⟩ := List.pairwise_cons.mp h
      unfold eraseFirst
      split
      · next heq =>
          obtain rfl := Json.beq_str_iff.1 heq
          exact fun hmem => by simpa [Json.beq_str] using hx _ hmem
      · next hne =>
          rw [List.mem_cons, not_or]
          exact ⟨fun heq => hne (Json.beq_str_iff.2 heq.symm), ih hrest⟩

end Erasing

section Consistent

theorem failed_except_sublist (m : Manifest) (name : Json) :
    (m.failedExcept name).Sublist m.failed :=
  List.filter_sublist

theorem component_ne_of_mem {f : FailedUnit} (hf : f ∈ m.failedExcept (.str name)) :
    f.component ≠ .str name := by
  intro heq
  simpa [heq, Json.beq_str] using (List.mem_filter.mp hf).2

theorem failures_failed_except (m : Manifest) (name : Json) :
    ((m.failedExcept name).filter fun f => f.component == name) = [] :=
  List.filter_eq_nil_iff.mpr fun f hf => by simpa using (List.mem_filter.mp hf).2

theorem IsConsistent.add_success (h : m.IsConsistent) (name : String) :
    (m.addSuccess (.str name)).IsConsistent := by
  refine ⟨?_, h.failed.sublist ((failed_except_sublist m _).map _), fun v hv f hf => ?_⟩
  · show (if m.isSuccessful (.str name) then m.successful else _).Pairwise _
    split
    · exact h.successful
    · next hnew =>
        refine List.pairwise_append.mpr
          ⟨h.successful, List.pairwise_singleton _ _, fun v hv w hw => ?_⟩
        obtain rfl := List.mem_singleton.mp hw
        refine Bool.eq_false_iff.mpr fun heq => hnew (is_successful_iff.2 ?_)
        exact Json.beq_str_iff.1 heq ▸ hv
  · have hv : v ∈ m.successful ∨ v = .str name := by
      simp only [Manifest.addSuccess] at hv
      split at hv
      · exact Or.inl hv
      · simpa using hv
    rcases hv with hv | rfl
    · exact h.disjoint v hv f (List.mem_of_mem_filter hf)
    · exact Bool.eq_false_iff.mpr fun heq => component_ne_of_mem hf (Json.str_beq_iff.1 heq)

theorem IsConsistent.add_failure (h : m.IsConsistent) (name : String) (error : Json)
    (now : Instant) : (m.addFailure (.str name) error now).IsConsistent := by
  refine ⟨h.successful.sublist (erase_first_sublist _ _), ?_, fun v hv f hf => ?_⟩
  · show ((m.failedExcept (.str name) ++ [_]).map FailedUnit.component).Pairwise _
    rw [List.map_append, List.pairwise_append]
    refine ⟨h.failed.sublist ((failed_except_sublist m _).map _), List.pairwise_singleton _ _, ?_⟩
    intro v hv w hw
    obtain ⟨f, hf, rfl⟩ := List.mem_map.mp hv
    obtain rfl := List.mem_singleton.mp hw
    exact Bool.eq_false_iff.mpr fun heq => component_ne_of_mem hf (Json.beq_str_iff.1 heq)
  · rcases List.mem_append.mp hf with hf | hf
    · exact h.disjoint v ((erase_first_sublist _ _).mem hv) f (List.mem_of_mem_filter hf)
    · obtain rfl := List.mem_singleton.mp hf
      exact Bool.eq_false_iff.mpr fun heq =>
        not_mem_erase_first h.successful (Json.beq_str_iff.1 heq ▸ hv)

/-- A unit that has been noted as successful is so, and it is not failed. -/
theorem is_successful_add_success (m : Manifest) (name : String) :
    (m.addSuccess (.str name)).isSuccessful (.str name) = true ∧
      (m.addSuccess (.str name)).failures (.str name) = [] := by
  refine ⟨is_successful_iff.2 ?_, failures_failed_except m _⟩
  show .str name ∈ if m.isSuccessful (.str name) then m.successful else _
  split
  · next hold => exact is_successful_iff.1 hold
  · exact List.mem_append_right _ (List.mem_singleton_self _)

/-- A unit that has been noted as failed is so with its error, once, and it is not successful. -/
theorem IsConsistent.failures_add_failure (h : m.IsConsistent) (name : String) (error : Json)
    (now : Instant) :
    (m.addFailure (.str name) error now).isSuccessful (.str name) = false ∧
      (m.addFailure (.str name) error now).failures (.str name) =
        [⟨.str name, error, .str now.text⟩] := by
  refine ⟨Bool.eq_false_iff.mpr fun hs =>
    not_mem_erase_first h.successful (is_successful_iff.1 hs), ?_⟩
  show ((m.failedExcept (.str name) ++ [_]).filter fun f : FailedUnit =>
    f.component == Json.str name) = _
  rw [List.filter_append, failures_failed_except]
  simp [Json.beq_str]

/-- A successful unit is not failed. -/
theorem IsConsistent.failures_of_successful (h : m.IsConsistent)
    (hsuccessful : m.isSuccessful (.str name) = true) : m.failures (.str name) = [] := by
  refine List.filter_eq_nil_iff.mpr fun f hf heq => ?_
  have hdisjoint := h.disjoint _ (is_successful_iff.1 hsuccessful) f hf
  rw [Json.beq_str_iff.1 heq, Json.beq_str] at hdisjoint
  simp at hdisjoint

end Consistent

theorem IsConsistent.of_lists (h : m.IsConsistent) (hsuccessful : m'.successful = m.successful)
    (hfailed : m'.failed = m.failed) : m'.IsConsistent where
  successful := hsuccessful ▸ h.successful
  failed := hfailed ▸ h.failed
  disjoint := hsuccessful ▸ hfailed ▸ h.disjoint

namespace Agree

theorem of_lists (hsuccessful : m'.successful = m.successful) (hfailed : m'.failed = m.failed) :
    Agree test m m' :=
  ⟨congrArg _ hsuccessful, congrArg _ hfailed⟩

theorem refl (test : Json → Bool) (m : Manifest) : Agree test m m := ⟨rfl, rfl⟩

theorem trans {m'' : Manifest} (hfirst : Agree test m m') (hsecond : Agree test m' m'') :
    Agree test m m'' :=
  ⟨hsecond.successful.trans hfirst.successful, hsecond.failed.trans hfirst.failed⟩

theorem failed_except (htest : test (.str name) = false) (m : Manifest) :
    ((m.failedExcept (.str name)).filter fun f => test f.component) =
      m.failed.filter fun f => test f.component := by
  rw [failedExcept, List.filter_filter]
  refine List.filter_congr fun f _ => ?_
  cases heq : f.component == .str name with
  | false => simp
  | true => simp [Json.beq_str_iff.1 heq, htest]

theorem add_success (htest : test (.str name) = false) (m : Manifest) :
    Agree test m (m.addSuccess (.str name)) := by
  refine ⟨?_, failed_except htest m⟩
  show (if m.isSuccessful (.str name) then m.successful else _).filter test = _
  split
  · rfl
  · rw [List.filter_append, List.filter_singleton, htest]
    exact List.append_nil _

theorem add_failure (htest : test (.str name) = false) (m : Manifest) (error : Json)
    (now : Instant) : Agree test m (m.addFailure (.str name) error now) := by
  refine ⟨erase_first_filter htest _, ?_⟩
  show ((m.failedExcept (.str name) ++ [_]).filter fun f : FailedUnit => test f.component) = _
  rw [List.filter_append, failed_except htest, List.filter_singleton, htest]
  exact List.append_nil _

/-- Manifests that agree on a unit list it alike. -/
theorem status (h : Agree (· == .str name) m m') :
    m'.isSuccessful (.str name) = m.isSuccessful (.str name) ∧
      m'.failures (.str name) = m.failures (.str name) := by
  refine ⟨?_, h.failed⟩
  rw [Bool.eq_iff_iff, is_successful_iff, is_successful_iff]
  have hmem : ∀ items : List Json, .str name ∈ items ↔ .str name ∈ items.filter (· == .str name) :=
    fun items => by simp [Json.beq_str]
  rw [hmem, h.successful, ← hmem]

end Agree

end Manifest

end ComponentMigration
