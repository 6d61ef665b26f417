import Mathlib.Data.List.Nodup
import ComponentMigration.Manifest.Store
import ComponentMigration.Proofs.Json.ReadBack

/-!
# Manifests that list every unit once

A manifest lists units well if no name is listed twice as successful or twice as failed, and none as
both.  Noting a success or a failure keeps it so, and so does writing the manifest and reading it
back: whatever is read from the written form of a plain manifest lists the same names
(`lists_of_read`).
-/

namespace ComponentMigration

namespace Json

theorem beq_str (a b : String) : (Json.str a == .str b) = (a == b) := by
  change Json.beq (.str a) (.str b) = _
  rw [beq]

theorem reads_back_of_hashable {v : Json} (h : v.isHashable) : ReadsBack v := by
  cases v with
  | null => exact reads_back_null
  | bool b => exact reads_back_bool b
  | int n => exact reads_back_int n
  | float x => exact reads_back_float x
  | str s => exact reads_back_str s
  | arr items => cases h
  | obj fields => cases h

variable {v w : Json}

theorem hashable_of_shape (h : v.shape = w.shape) (hw : w.isHashable) : v.isHashable := by
  cases v <;> cases w <;> first | rfl | cases h | cases hw

theorem eq_str_of_shape {s : String} (h : v.shape = .str s) : v = .str s := by
  cases v <;> cases h
  rfl

theorem exists_items_of_shape {items : List Json} (h : v.shape = .arr items) :
    ∃ vs, v = .arr vs ∧ vs.map shape = items := by
  cases v <;> cases h
  exact ⟨_, rfl, (shape_items_eq_map _).symm⟩

theorem exists_fields_of_shape {fields : List (String × Json)} (h : v.shape = .obj fields) :
    ∃ fs, v = .obj fs ∧ (fs.map fun (k, v) => (k, shape v)) = fields := by
  cases v <;> cases h
  exact ⟨_, rfl, (shape_fields_eq_map _).symm⟩

theorem exists_field_of_shapes {fs rest : List (String × Json)} {k : String}
    (h : (fs.map fun (k, v) => (k, shape v)) = (k, w) :: rest) :
    ∃ v later, fs = (k, v) :: later ∧ v.shape = w ∧
      (later.map fun (k, v) => (k, shape v)) = rest := by
  obtain ⟨⟨k', v⟩, later, rfl, heq, hlater⟩ := List.map_eq_cons_iff.mp h
  obtain ⟨rfl, hv⟩ := Prod.mk.inj heq
  exact ⟨v, later, rfl, hv, hlater⟩

end Json

namespace Manifest

/-- A manifest that lists these names as successful and as failed, every name once. -/
structure Lists (done failed : List String) (m : Manifest) : Prop where
  successful : m.successful = done.map .str
  components : m.failed.map FailedUnit.component = failed.map .str
  nodup_done : done.Nodup
  nodup_failed : failed.Nodup
  disjoint : ∀ name ∈ done, name ∉ failed

/-- A manifest whose other values are neither lists nor tables. -/
structure IsPlain (m : Manifest) : Prop where
  failed : ∀ f ∈ m.failed, f.error.isHashable ∧ f.timestamp.isHashable
  config : ∀ entry ∈ m.config, entry.2.isHashable
  keys : (Assoc.keys m.config).Nodup
  startTime : m.startTime.isHashable
  endTime : m.endTime.isHashable
  duration : m.duration.isHashable
  version : m.version.isHashable

section Noting

variable {m : Manifest} {done failed : List String}

theorem lists_empty (now : Instant) (config : Assoc Json) : (empty now config).Lists [] [] :=
  ⟨rfl, rfl, List.nodup_nil, List.nodup_nil, List.forall_mem_nil _⟩

theorem is_plain_empty (now : Instant) {config : Assoc Json}
    (hconfig : ∀ entry ∈ config, entry.2.isHashable) (hkeys : (Assoc.keys config).Nodup) :
    (empty now config).IsPlain :=
  ⟨List.forall_mem_nil _, hconfig, hkeys, rfl, rfl, rfl, rfl⟩

theorem Lists.is_successful_iff (h : m.Lists done failed) (name : String) :
    m.isSuccessful (.str name) = true ↔ name ∈ done := by
  rw [isSuccessful, h.successful, List.any_map, List.any_eq_true]
  constructor
  · rintro ⟨other, hmem, heq⟩
    rw [Function.comp_apply, Json.beq_str, beq_iff_eq] at heq
    exact heq ▸ hmem
  · intro hmem
    exact ⟨name, hmem, by rw [Function.comp_apply, Json.beq_str, beq_self_eq_true]⟩

theorem Lists.failed_except (h : m.Lists done failed) (name : String) :
    (m.failedExcept (.str name)).map FailedUnit.component =
      (failed.filter (· != name)).map .str := by
  have hcomp : (fun f : FailedUnit => !(f.component == .str name)) =
      (fun v => !(v == .str name)) ∘ FailedUnit.component := rfl
  rw [failedExcept, hcomp, ← List.filter_map, h.components, List.filter_map]
  congr 2

/-- Noting a success lists the name as successful, once, and no longer as failed. -/
theorem Lists.add_success (h : m.Lists done failed) (name : String) :
    (m.addSuccess (.str name)).Lists (if name ∈ done then done else done ++ [name])
      (failed.filter (· != name)) := by
  refine ⟨?_, h.failed_except name, ?_, h.nodup_failed.filter _, ?_⟩
  · change (if m.isSuccessful (.str name) then m.successful else m.successful ++ [.str name]) = _
    simp only [h.is_successful_iff, h.successful]
    split <;> simp
  · split
    · exact h.nodup_done
    · next hnot => exact h.nodup_done.append (List.nodup_singleton name) (by simpa using hnot)
  · intro other hother hfailed
    obtain ⟨hmem, hne⟩ := List.mem_filter.mp hfailed
    split at hother
    · exact h.disjoint other hother hmem
    · rcases List.mem_append.mp hother with hother | hother
      · exact h.disjoint other hother hmem
      · simp [List.mem_singleton.mp hother] at hne

theorem erase_first_map (name : String) (done : List String) :
    eraseFirst (.str name) (done.map .str) = (done.erase name).map .str := by
  induction done with
  | nil => rfl
  | cons first rest ih =>
      rw [List.map_cons, eraseFirst, Json.beq_str, List.erase_cons]
      split
      · rfl
      · rw [ih, List.map_cons]

/-- Noting a failure lists the name as failed, once, and no longer as successful. -/
theorem Lists.add_failure (h : m.Lists done failed) (name : String) (error : Json) (now : Instant) :
    (m.addFailure (.str name) error now).Lists (done.erase name)
      (failed.filter (· != name) ++ [name]) := by
  refine ⟨?_, ?_, h.nodup_done.erase name, ?_, ?_⟩
  · rw [← erase_first_map, ← h.successful]
    rfl
  · change (m.failedExcept (.str name) ++ [_]).map FailedUnit.component = _
    rw [List.map_append, h.failed_except, List.map_append]
    rfl
  · exact (h.nodup_failed.filter _).append (List.nodup_singleton name) (by simp)
  · intro other hother hfailed
    have hmem := List.mem_of_mem_erase hother
    rcases List.mem_append.mp hfailed with hfailed | hfailed
    · exact h.disjoint other hmem (List.mem_of_mem_filter hfailed)
    · rw [List.mem_singleton.mp hfailed] at hother
      exact h.nodup_done.not_mem_erase hother

theorem IsPlain.add_success (h : m.IsPlain) (name : Json) : (m.addSuccess name).IsPlain :=
  ⟨fun f hf => h.failed f (List.mem_of_mem_filter hf), h.config, h.keys, h.startTime, h.endTime,
    h.duration, h.version⟩

theorem IsPlain.add_failure (h : m.IsPlain) (name : Json) (error : String) (now : Instant) :
    (m.addFailure name (.str error) now).IsPlain := by
  refine ⟨fun f hf => ?_, h.config, h.keys, h.startTime, h.endTime, h.duration, h.version⟩
  rcases List.mem_append.mp hf with hf | hf
  · exact h.failed f (List.mem_of_mem_filter hf)
  · rw [List.mem_singleton.mp hf]
    exact ⟨rfl, rfl⟩

/-- Noting the end of a migration changes no list. -/
theorem Lists.finish (h : m.Lists done failed) (now : Instant) : (m.finish now).2.Lists done failed := by
  unfold Manifest.finish
  dsimp only
  split <;> exact ⟨h.successful, h.components, h.nodup_done, h.nodup_failed, h.disjoint⟩

theorem IsPlain.finish (h : m.IsPlain) (now : Instant) : (m.finish now).2.IsPlain := by
  unfold Manifest.finish
  dsimp only
  split
  · exact ⟨h.failed, h.config, h.keys, h.startTime, rfl, rfl, h.version⟩
  · exact ⟨h.failed, h.config, h.keys, h.startTime, rfl, h.duration, h.version⟩

end Noting

section ReadingBack

variable {m m' : Manifest} {done failed : List String} {v : Json} {now : Instant}

/-- A failed unit as a value. -/
def failedJson (f : FailedUnit) : Json :=
  .obj [("component", f.component), ("error", f.error), ("timestamp", f.timestamp)]

theorem Lists.hashable_components (h : m.Lists done failed) :
    ∀ f ∈ m.failed, f.component.isHashable := by
  intro f hf
  have hmem : f.component ∈ failed.map Json.str := h.components ▸ List.mem_map_of_mem hf
  obtain ⟨name, -, heq⟩ := List.mem_map.mp hmem
  rw [← heq]
  rfl

/-- Whatever is read from the written form of a manifest has its shape. -/
theorem shape_of_read (hlists : m.Lists done failed) (hplain : m.IsPlain)
    (h : Json.read m.toJson.indented = .ok v) : v.shape = m.toJson.shape := by
  have hsuccessful : Json.ReadsBack (.arr m.successful) := by
    refine Json.reads_back_arr fun v hv => ?_
    rw [hlists.successful] at hv
    obtain ⟨name, -, rfl⟩ := List.mem_map.mp hv
    exact Json.reads_back_str name
  have hfailed : Json.ReadsBack (.arr (m.failed.map failedJson)) := by
    refine Json.reads_back_arr fun v hv => ?_
    obtain ⟨f, hf, rfl⟩ := List.mem_map.mp hv
    obtain ⟨herror, htimestamp⟩ := hplain.failed f hf
    refine Json.reads_back_obj ?_ (by simp [Assoc.keys])
    simp only [List.forall_mem_cons]
    exact ⟨Json.reads_back_of_hashable (hlists.hashable_components f hf),
      Json.reads_back_of_hashable herror, Json.reads_back_of_hashable htimestamp,
      List.forall_mem_nil _⟩
  have hconfig : Json.ReadsBack (.obj m.config) :=
    Json.reads_back_obj (fun entry hentry => Json.reads_back_of_hashable (hplain.config entry hentry))
      hplain.keys
  refine Json.shape_eq_of_read_indented ?_ (by simp [Assoc.keys]) h
  simp only [List.forall_mem_cons]
  exact ⟨hsuccessful, hfailed, hconfig, Json.reads_back_of_hashable hplain.startTime,
    Json.reads_back_of_hashable hplain.endTime, Json.reads_back_of_hashable hplain.duration,
    Json.reads_back_of_hashable hplain.version, List.forall_mem_nil _⟩

theorem map_shape_strs (names : List String) :
    (names.map Json.str).map Json.shape = names.map Json.str := by
  rw [List.map_map]
  exact List.map_congr_left fun _ _ => rfl

theorem eq_strs_of_shape {vs : List Json} {names : List String}
    (h : vs.map Json.shape = names.map Json.str) : vs = names.map Json.str := by
  induction vs generalizing names with
  | nil =>
      cases names with
      | nil => rfl
      | cons name names => cases h
  | cons v vs ih =>
      cases names with
      | nil => cases h
      | cons name names =>
          obtain ⟨hv, hvs⟩ := List.cons.inj h
          rw [Json.eq_str_of_shape hv, ih hvs, List.map_cons]

/-- A stored entry with the shape of a failed unit stands for that unit. -/
theorem failed_unit_of_shape {f f' : FailedUnit} (hshape : v.shape = (failedJson f).shape)
    (hf : f.error.isHashable ∧ f.timestamp.isHashable) (h : failedUnit now v = .ok f') :
    f'.component.shape = f.component.shape ∧ f'.error.isHashable ∧ f'.timestamp.isHashable := by
  have htable : (failedJson f).shape = .obj [("component", f.component.shape),
      ("error", f.error.shape), ("timestamp", f.timestamp.shape)] := rfl
  rw [htable] at hshape
  obtain ⟨fs, rfl, hfs⟩ := Json.exists_fields_of_shape hshape
  obtain ⟨component, fs, rfl, hcomponent, hfs⟩ := Json.exists_field_of_shapes hfs
  obtain ⟨error, fs, rfl, herror, hfs⟩ := Json.exists_field_of_shapes hfs
  obtain ⟨timestamp, fs, rfl, htimestamp, hfs⟩ := Json.exists_field_of_shapes hfs
  obtain rfl := List.map_eq_nil_iff.mp hfs
  have hf' : f' = ⟨component, error, timestamp⟩ := (Except.ok.inj h).symm
  rw [hf']
  exact ⟨hcomponent, Json.hashable_of_shape herror hf.1, Json.hashable_of_shape htimestamp hf.2⟩

theorem failed_units_of_shape {vs : List Json} {fs fs' : List FailedUnit}
    (hshape : vs.map Json.shape = (fs.map failedJson).map Json.shape)
    (hfs : ∀ f ∈ fs, f.error.isHashable ∧ f.timestamp.isHashable)
    (h : vs.mapM (failedUnit now) = .ok fs') :
    (fs'.map FailedUnit.component).map Json.shape = (fs.map FailedUnit.component).map Json.shape ∧
      ∀ f ∈ fs', f.error.isHashable ∧ f.timestamp.isHashable := by
  induction vs generalizing fs fs' with
  | nil =>
      obtain rfl : fs = [] := by simpa using hshape.symm
      cases h
      exact ⟨rfl, List.forall_mem_nil _⟩
  | cons v vs ih =>
      cases fs with
      | nil => cases hshape
      | cons f fs =>
          obtain ⟨hv, hvs⟩ := List.cons.inj hshape
          obtain ⟨hf, hfs⟩ := List.forall_mem_cons.mp hfs
          rw [List.mapM_cons] at h
          obtain ⟨f', hf', h⟩ := bind_eq_ok.mp h
          obtain ⟨later, hlater, h⟩ := bind_eq_ok.mp h
          cases h
          obtain ⟨hcomponent, hplain⟩ := failed_unit_of_shape hv hf hf'
          obtain ⟨hcomponents, hplains⟩ := ih hvs hfs hlater
          refine ⟨?_, List.forall_mem_cons.mpr ⟨hplain, hplains⟩⟩
          simp only [List.map_cons, hcomponent, hcomponents]

/-- A stored value with the shape of a manifest stands for one that lists the same names. -/
theorem lists_of_shape (hlists : m.Lists done failed) (hplain : m.IsPlain)
    (hshape : v.shape = m.toJson.shape) (h : ofJson now v = .ok m') :
    m'.Lists done failed ∧ m'.IsPlain := by
  have htable : m.toJson.shape = .obj [("successful", (Json.arr m.successful).shape),
      ("failed", (Json.arr (m.failed.map failedJson)).shape), ("config", (Json.obj m.config).shape),
      ("start_time", m.startTime.shape), ("end_time", m.endTime.shape),
      ("duration", m.duration.shape), ("version", m.version.shape)] := rfl
  rw [htable] at hshape
  obtain ⟨fs, rfl, hfs⟩ := Json.exists_fields_of_shape hshape
  obtain ⟨successful, fs, rfl, hsuccessful, hfs⟩ := Json.exists_field_of_shapes hfs
  obtain ⟨failures, fs, rfl, hfailures, hfs⟩ := Json.exists_field_of_shapes hfs
  obtain ⟨config, fs, rfl, hconfig, hfs⟩ := Json.exists_field_of_shapes hfs
  obtain ⟨start, fs, rfl, hstart, hfs⟩ := Json.exists_field_of_shapes hfs
  obtain ⟨ended, fs, rfl, hended, hfs⟩ := Json.exists_field_of_shapes hfs
  obtain ⟨duration, fs, rfl, hduration, hfs⟩ := Json.exists_field_of_shapes hfs
  obtain ⟨version, fs, rfl, hversion, hfs⟩ := Json.exists_field_of_shapes hfs
  obtain rfl := List.map_eq_nil_iff.mp hfs
  rw [Json.shape_arr] at hsuccessful hfailures
  rw [Json.shape_obj, Json.shape_fields_eq_map] at hconfig
  obtain ⟨vs, rfl, hvs⟩ := Json.exists_items_of_shape hsuccessful
  obtain ⟨units, rfl, hunits⟩ := Json.exists_items_of_shape hfailures
  obtain ⟨entries, rfl, hentries⟩ := Json.exists_fields_of_shape hconfig
  obtain ⟨vs', hvs', h⟩ := bind_eq_ok.mp h
  obtain ⟨units', hunits', h⟩ := bind_eq_ok.mp h
  obtain ⟨failures, hfailures', h⟩ := bind_eq_ok.mp h
  obtain ⟨table, htable', h⟩ := bind_eq_ok.mp h
  cases hvs'
  cases hunits'
  cases htable'
  cases h
  obtain ⟨hcomponents, hplains⟩ := failed_units_of_shape hunits hplain.failed hfailures'
  rw [hlists.successful, map_shape_strs] at hvs
  rw [hlists.components, map_shape_strs] at hcomponents
  refine ⟨⟨eq_strs_of_shape hvs, eq_strs_of_shape hcomponents, hlists.nodup_done,
    hlists.nodup_failed, hlists.disjoint⟩, hplains, ?_, ?_, ?_, ?_, ?_, ?_⟩
  · intro entry hentry
    have hmem : (entry.1, entry.2.shape) ∈ m.config.map fun (k, v) => (k, v.shape) :=
      hentries ▸ List.mem_map_of_mem (f := fun (k, v) => (k, Json.shape v)) hentry
    obtain ⟨old, hold, heq⟩ := List.mem_map.mp hmem
    exact Json.hashable_of_shape (Prod.mk.inj heq).2.symm (hplain.config old hold)
  · have hkeys := congrArg (List.map Prod.fst) hentries
    rw [List.map_map, List.map_map] at hkeys
    change (entries.map Prod.fst).Nodup
    exact hkeys ▸ hplain.keys
  · dsimp only
    split
    · exact Json.hashable_of_shape hstart hplain.startTime
    · rfl
  · exact Json.hashable_of_shape hended hplain.endTime
  · exact Json.hashable_of_shape hduration hplain.duration
  · exact Json.hashable_of_shape hversion hplain.version

/-- A manifest that is read from the written form of a plain one lists the same names. -/
theorem lists_of_read (hlists : m.Lists done failed) (hplain : m.IsPlain)
    (hread : Json.read m.toJson.indented = .ok v) (h : ofJson now v = .ok m') :
    m'.Lists done failed ∧ m'.IsPlain :=
  lists_of_shape hlists hplain (shape_of_read hlists hplain hread) h

end ReadingBack

end Manifest

end ComponentMigration
