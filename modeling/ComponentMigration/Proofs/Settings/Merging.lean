import ComponentMigration.Proofs.Assoc
import ComponentMigration.Proofs.Settings.Validation

/-!
# Settings laid over defaults

Laying overrides over a table gives every key the value that they have for it, and leaves all other
keys as they are (`overlay_all_eq`).  So what the overrides say of sections and keys that the table
does not have makes no difference (`overlay_all_known`).  The result without the values that say
nothing can be laid over the table in turn, and gives itself: a value that was laid over one before
is that one or the value laid over it (`overlay_overlay`), and a value that says nothing was not laid
over anything.
-/

namespace ComponentMigration.SettingsTable

variable {t t' base : SettingsTable} {overrides : Assoc Json} {name key : String}
  {fields values : Assoc Json} {old new v : Json}

/-- A table in which no section, no key of a section, and no key of a value that is a table comes
twice. -/
structure IsOrderly (t : SettingsTable) : Prop where
  sections : t.keys.Nodup
  keys : ∀ entry ∈ t, (Assoc.keys entry.2).Nodup
  tables : ∀ entry ∈ t, ∀ field ∈ entry.2, (Assoc.keys field.2.fields).Nodup

/-- Overrides in which no section and no key of a section comes twice, and every key has a value. -/
structure IsOverrides (overrides : Assoc Json) : Prop where
  sections : overrides.keys.Nodup
  keys : ∀ name fields, (name, .obj fields) ∈ overrides → (Assoc.keys fields).Nodup
  values : ∀ name fields, (name, .obj fields) ∈ overrides → ∀ entry ∈ fields, entry.2 ≠ .null

section Values

/-- What a key comes to when values are laid over a section. -/
def overlaid (values : Assoc Json) (key : String) (old : Json) : Json :=
  match values.get? key with
  | some v => overlay key old v
  | none => old

theorem overlay_cases (key : String) (old new : Json) :
    overlay key old new = new ∨
      ∃ o n, old = .obj o ∧ new = .obj n ∧ overlay key old new = .obj (Assoc.update o n) := by
  unfold overlay
  split
  · split
    · next o n => exact .inr ⟨o, n, rfl, rfl, rfl⟩
    · exact .inl rfl
  · exact .inl rfl

/-- A value laid over one that it was laid over before stays. -/
theorem overlay_overlay (hold : (Assoc.keys old.fields).Nodup) (key : String)
    (new : Json) : overlay key old (overlay key old new) = overlay key old new := by
  rcases overlay_cases key old new with h | ⟨o, n, rfl, rfl, h⟩
  · rw [h, h]
  · rw [h]
    rcases overlay_cases key (.obj o) (.obj (Assoc.update o n)) with h' | ⟨o', n', ho, hn, h'⟩
    · exact h'
    · cases ho
      cases hn
      have hkeys : (Assoc.keys o).Nodup := hold
      rw [h', Assoc.update_of_prefix (Assoc.nodup_keys_update hkeys n)
        (Assoc.prefix_keys_update o n)]

theorem overlay_self (hold : (Assoc.keys old.fields).Nodup) (key : String) :
    overlay key old old = old := by
  rcases overlay_cases key old old with h | ⟨o, n, rfl, hn, h⟩
  · exact h
  · cases hn
    have hkeys : (Assoc.keys o).Nodup := hold
    rw [h, Assoc.update_of_prefix hkeys (List.prefix_refl _)]

theorem overlay_ne_null (h : new ≠ .null) : overlay key old new ≠ .null := by
  rcases overlay_cases key old new with heq | ⟨o, n, -, -, heq⟩
  · rwa [heq]
  · rw [heq]
    nofun

end Values

section Sections

/-- Values laid over a section give every key of it what it comes to. -/
theorem overlay_section_eq (hfields : Assoc.keys fields |>.Nodup)
    (hvalues : Assoc.keys values |>.Nodup) :
    overlaySection fields values = fields.map fun entry =>
      (entry.1, overlaid values entry.1 entry.2) := by
  induction values generalizing fields with
  | nil => exact (List.map_id fields).symm
  | cons first rest ih =>
      obtain ⟨key, v⟩ := first
      obtain ⟨hnotin, hrest⟩ := List.nodup_cons.mp hvalues
      have hothers : ∀ k, k ≠ key → ∀ old, overlaid ((key, v) :: rest) k old = overlaid rest k old := by
        intro k hk old
        rw [overlaid, overlaid, Assoc.get?_cons_of_ne (Ne.symm hk)]
      unfold overlaySection
      rw [List.foldl_cons]
      dsimp only
      split
      · next old hold =>
          have hmem := Assoc.mem_of_get? hold
          have hkeys : Assoc.keys fields |>.Nodup := hfields
          show overlaySection _ rest = _
          rw [ih (Assoc.nodup_keys_set hkeys) hrest,
            Assoc.set_eq_map hkeys (List.mem_map_of_mem hmem), List.map_map]
          refine List.map_congr_left fun entry hentry => ?_
          obtain ⟨k, o⟩ := entry
          by_cases hk : k = key
          · -- The key is set once, to what it comes to.
            subst hk
            obtain rfl : o = old := Option.some.inj
              (((Assoc.get?_eq_some_iff hkeys).mpr hentry).symm.trans hold)
            have hunset : Assoc.get? rest k = none := Assoc.get?_eq_none_iff.mpr hnotin
            simp only [Function.comp_apply, if_true, overlaid, hunset, Assoc.get?_cons_self]
          · simp [hk, hothers k hk]
      · next hnone =>
          show overlaySection fields rest = _
          rw [ih hfields hrest]
          refine List.map_congr_left fun entry hentry => ?_
          have hne : entry.1 ≠ key := fun heq =>
            Assoc.get?_eq_none_iff.mp hnone (heq ▸ List.mem_map_of_mem hentry)
          rw [hothers entry.1 hne]

theorem get?_overlay_section (fields values : Assoc Json) (key : String) :
    ((overlaySection fields values).get? key).isSome = (fields.get? key).isSome := by
  induction values generalizing fields with
  | nil => rfl
  | cons first rest ih =>
      unfold overlaySection
      rw [List.foldl_cons]
      dsimp only
      split
      · next old hold =>
          refine (ih _).trans ?_
          by_cases hk : first.1 = key
          · rw [hk, Assoc.get?_set_self, ← hk, hold]
            rfl
          · rw [Assoc.get?_set_of_ne _ _ hk]
      · exact ih _

/-- Keys that a section does not have change nothing. -/
theorem overlay_section_filter (known : String → Bool)
    (h : ∀ key, (fields.get? key).isSome = known key) (values : Assoc Json) :
    overlaySection fields (values.filter fun entry => known entry.1) = overlaySection fields values := by
  induction values generalizing fields with
  | nil => rfl
  | cons first rest ih =>
      have hstep : overlaySection fields (first :: rest) =
          overlaySection (overlaySection fields [first]) rest := rfl
      have hlater := ih fun key => (get?_overlay_section fields [first] key).trans (h key)
      cases hknown : known first.1 with
      | true =>
          rw [List.filter_cons_of_pos (by exact hknown), hstep, ← hlater]
          rfl
      | false =>
          have hnone : fields.get? first.1 = none := by
            rw [← Option.isNone_iff_eq_none, ← Option.not_isSome, h, hknown]
            rfl
          have hsame : overlaySection fields [first] = fields := by
            simp [overlaySection, hnone]
          rw [List.filter_cons_of_neg (by simp [hknown]), hstep, ← hlater, hsame]

end Sections

section Tables

/-- What a section comes to when overrides are laid over it. -/
def overlaidSection (overrides : Assoc Json) (name : String) (fields : Assoc Json) : Assoc Json :=
  match overrides.get? name with
  | some (.obj values) => overlaySection fields values
  | _ => fields

theorem overlaid_section_of_ne {name' : String} (hne : name' ≠ name) (v : Json)
    (overrides : Assoc Json) (fields : Assoc Json) :
    overlaidSection ((name', v) :: overrides) name fields = overlaidSection overrides name fields := by
  rw [overlaidSection, overlaidSection, Assoc.get?_cons_of_ne hne]

theorem overlay_all_cons (t : SettingsTable) (name : String) (values : Json) (rest : Assoc Json) :
    overlayAll t ((name, values) :: rest) =
      match t.get? name with
      | none => overlayAll t rest
      | some base =>
        match values with
        | .obj fields => overlayAll (t.set name (overlaySection base fields)) rest
        | _ => .error (violation ("Config section [" ++ name ++ "] must be a table")) := rfl

/-- Overrides laid over a table give every section what it comes to. -/
theorem overlay_all_eq (ht : t.keys.Nodup) (hoverrides : overrides.keys.Nodup)
    (h : overlayAll t overrides = .ok t') :
    t' = t.map fun entry => (entry.1, overlaidSection overrides entry.1 entry.2) := by
  induction overrides generalizing t with
  | nil =>
      cases h
      exact (List.map_id _).symm
  | cons first rest ih =>
      obtain ⟨name, v⟩ := first
      obtain ⟨hnotin, hrest⟩ := List.nodup_cons.mp hoverrides
      rw [overlay_all_cons] at h
      split at h
      · next hnone =>
          rw [ih ht hrest h]
          refine List.map_congr_left fun entry hentry => ?_
          have hne : name ≠ entry.1 := fun heq =>
            Assoc.get?_eq_none_iff.mp hnone (heq ▸ List.mem_map_of_mem hentry)
          rw [overlaid_section_of_ne hne]
      · next fields hfields =>
          split at h
          · next values =>
              rw [ih (Assoc.nodup_keys_set ht) hrest h,
                Assoc.set_eq_map ht (List.mem_map_of_mem (Assoc.mem_of_get? hfields)), List.map_map]
              refine List.map_congr_left fun entry hentry => ?_
              obtain ⟨name', fields'⟩ := entry
              by_cases hname : name' = name
              · subst hname
                obtain rfl : fields' = fields := Option.some.inj
                  (((Assoc.get?_eq_some_iff ht).mpr hentry).symm.trans hfields)
                have hunset : Assoc.get? rest name' = none := Assoc.get?_eq_none_iff.mpr hnotin
                simp only [Function.comp_apply, if_true, overlaidSection, hunset,
                  Assoc.get?_cons_self]
              · rw [overlaid_section_of_ne (Ne.symm hname)]
                simp [hname]
          · cases h

/-- Overrides all of whose sections are tables can be laid over any table. -/
theorem overlay_all_of_tables (h : ∀ entry ∈ overrides, ∃ fields, entry.2 = .obj fields)
    (t : SettingsTable) : ∃ t', overlayAll t overrides = .ok t' := by
  induction overrides generalizing t with
  | nil => exact ⟨t, rfl⟩
  | cons first rest ih =>
      obtain ⟨⟨values, hvalues⟩, hrest⟩ := List.forall_mem_cons.mp h
      obtain ⟨name, v⟩ := first
      obtain rfl : v = .obj values := hvalues
      rw [overlay_all_cons]
      split
      · exact ih hrest t
      · exact ih hrest _

/-- Whether a value says something. -/
def isGiven : Json → Bool
  | .null => false
  | _ => true

theorem is_given_of_ne_null (h : v ≠ .null) : isGiven v = true := by
  cases v with
  | null => exact absurd rfl h
  | _ => rfl

theorem without_nulls_eq (t : SettingsTable) : t.withoutNulls =
    t.map fun entry => (entry.1, entry.2.filter fun field => isGiven field.2) := rfl

/-- A section that values were laid over, laid without the values that say nothing over the section
that it came from, gives itself. -/
theorem overlay_section_saved (hfields : Assoc.keys fields |>.Nodup)
    (htables : ∀ field ∈ fields, (Assoc.keys field.2.fields).Nodup)
    (hvalues : Assoc.keys values |>.Nodup) (hnull : ∀ entry ∈ values, entry.2 ≠ .null) :
    overlaySection fields ((overlaySection fields values).filter fun field => isGiven field.2) =
      overlaySection fields values := by
  have heq := overlay_section_eq hfields hvalues
  have hkeys : (Assoc.keys (overlaySection fields values)).Nodup := by
    have hsame : Assoc.keys (overlaySection fields values) = Assoc.keys fields := by
      rw [heq, Assoc.keys, List.map_map]
      rfl
    exact hsame ▸ hfields
  rw [overlay_section_eq hfields (hkeys.sublist (List.filter_sublist.map Prod.fst))]
  conv_rhs => rw [heq]
  refine List.map_congr_left fun entry hentry => ?_
  obtain ⟨key, old⟩ := entry
  have hold : (Assoc.keys old.fields).Nodup := htables (key, old) hentry
  have hget : (overlaySection fields values).get? key = some (overlaid values key old) := by
    rw [heq, Assoc.get?_map, (Assoc.get?_eq_some_iff hfields).mpr hentry]
    rfl
  have hlaid : overlaid values key old = old ∨
      ∃ v, v ≠ .null ∧ overlaid values key old = overlay key old v := by
    unfold overlaid
    split
    · next v hv => exact .inr ⟨v, hnull _ (Assoc.mem_of_get? hv), rfl⟩
    · exact .inl rfl
  dsimp only
  rw [overlaid, Assoc.get?_filter hkeys, hget, Option.filter_some]
  rcases hlaid with hkept | ⟨v, hv, hlaid⟩
  · -- The key had its old value, which may say nothing.
    rw [hkept]
    split
    · next v hv =>
        split at hv
        · cases hv
          rw [overlay_self hold]
        · cases hv
    · rfl
  · rw [hlaid, if_pos (is_given_of_ne_null (overlay_ne_null hv))]
    dsimp only
    rw [overlay_overlay hold]

theorem get?_as_overrides (t : SettingsTable) (name : String) :
    t.asOverrides.get? name = (t.get? name).map .obj := by
  exact Assoc.get?_map (fun _ fields => Json.obj fields) t name

/-- The result of laying overrides over an orderly table, without the values that say nothing, gives
itself when it is laid over that table. -/
theorem overlay_all_saved (ht : t.IsOrderly) (hoverrides : IsOverrides overrides)
    (h : overlayAll t overrides = .ok t') : overlayAll t t'.withoutNulls.asOverrides = .ok t' := by
  have heq := overlay_all_eq ht.sections hoverrides.sections h
  have hkeys : t'.keys = t.keys := by
    rw [heq, Assoc.keys, List.map_map]
    rfl
  have hsaved : Assoc.keys t'.withoutNulls.asOverrides = t'.keys := by
    rw [without_nulls_eq, asOverrides, Assoc.keys, List.map_map, List.map_map]
    rfl
  have htables : ∀ entry ∈ t'.withoutNulls.asOverrides, ∃ fields, entry.2 = .obj fields := by
    intro entry hentry
    obtain ⟨_, -, rfl⟩ := List.mem_map.mp hentry
    exact ⟨_, rfl⟩
  obtain ⟨t'', h''⟩ := overlay_all_of_tables htables t
  rw [h'']
  refine congrArg Except.ok ?_
  rw [overlay_all_eq ht.sections (by rw [hsaved, hkeys]; exact ht.sections) h'']
  conv_rhs => rw [heq]
  refine List.map_congr_left fun entry hentry => ?_
  obtain ⟨name, fields⟩ := entry
  have hget : t'.withoutNulls.asOverrides.get? name =
      some (.obj ((overlaidSection overrides name fields).filter fun field => isGiven field.2)) := by
    rw [get?_as_overrides, without_nulls_eq,
      Assoc.get?_map fun _ (fields : Assoc Json) => fields.filter fun field => isGiven field.2, heq,
      Assoc.get?_map, (Assoc.get?_eq_some_iff ht.sections).mpr hentry]
    rfl
  have hfields := ht.keys _ hentry
  have htables := ht.tables _ hentry
  dsimp only at hfields htables ⊢
  rw [overlaidSection, hget]
  dsimp only
  unfold overlaidSection
  split
  · next values hvalues =>
      have hmem := Assoc.mem_of_get? hvalues
      rw [overlay_section_saved hfields htables (hoverrides.keys name values hmem)
        (hoverrides.values name values hmem)]
  · -- Nothing was laid over the section, as if there were no values for it.
    have hkeys : (Assoc.keys ([] : Assoc Json)).Nodup := List.nodup_nil
    have hnothing := overlay_section_saved hfields htables hkeys (List.forall_mem_nil _)
    exact congrArg (Prod.mk name) hnothing

end Tables

section Known

/-- Whether a table has a key in a section. -/
def hasKey (t : SettingsTable) (name key : String) : Bool :=
  ((t.get? name).bind (Assoc.get? · key)).isSome

/-- What overrides say of the keys of a section. -/
def knownValues (t : SettingsTable) (name : String) : Json → Json
  | .obj values => .obj (values.filter fun entry => t.hasKey name entry.1)
  | other => other

/-- What overrides say of the sections and keys of a table. -/
def known (t : SettingsTable) (overrides : Assoc Json) : Assoc Json :=
  (overrides.filter fun entry => (t.get? entry.1).isSome).map fun entry =>
    (entry.1, t.knownValues entry.1 entry.2)

/-- Sections and keys that a table does not have change nothing. -/
theorem overlay_all_known (hsections : ∀ name, (t.get? name).isSome = (base.get? name).isSome)
    (hkeys : ∀ name key, t.hasKey name key = base.hasKey name key) (overrides : Assoc Json) :
    overlayAll t (base.known overrides) = overlayAll t overrides := by
  induction overrides generalizing t with
  | nil => rfl
  | cons first rest ih =>
      obtain ⟨name, values⟩ := first
      have hname := hsections name
      cases hget : t.get? name with
      | none =>
          rw [hget] at hname
          have hknown : base.known ((name, values) :: rest) = base.known rest := by
            rw [known, List.filter_cons_of_neg (by simp [← hname])]
            rfl
          rw [hknown, overlay_all_cons, hget]
          exact ih hsections hkeys
      | some fields =>
          rw [hget] at hname
          have hknown : base.known ((name, values) :: rest) =
              (name, base.knownValues name values) :: base.known rest := by
            rw [known, List.filter_cons_of_pos (by simp [← hname])]
            rfl
          rw [hknown, overlay_all_cons, overlay_all_cons, hget]
          cases values with
          | obj given =>
              have hknows : ∀ key, (Assoc.get? fields key).isSome = base.hasKey name key := by
                intro key
                rw [← hkeys, hasKey, hget]
                rfl
              have hfilter := overlay_section_filter (base.hasKey name) hknows given
              dsimp only [knownValues]
              rw [hfilter]
              refine ih (fun other => ?_) fun other key => ?_
              · rw [← hsections]
                by_cases hother : name = other
                · rw [← hother, Assoc.get?_set_self, hget]
                  rfl
                · rw [Assoc.get?_set_of_ne _ _ hother]
              · rw [← hkeys, hasKey, hasKey]
                by_cases hother : name = other
                · rw [← hother, Assoc.get?_set_self, hget]
                  exact get?_overlay_section fields given key
                · rw [Assoc.get?_set_of_ne _ _ hother]
          | _ => rfl

end Known

theorem is_orderly_default : default.IsOrderly := ⟨by decide, by decide, by decide⟩

/-- Settings that are accepted and stored without the values that say nothing are accepted again, and
are the same then; and what overrides say of unknown sections and keys changes nothing, whether they
are accepted or not. -/
theorem merge_restores_saved :
    (∀ overrides t, IsOverrides overrides → merge overrides = .ok t →
      merge t.withoutNulls.asOverrides = .ok t) ∧
    ∀ overrides, merge (default.known overrides) = merge overrides := by
  refine ⟨fun overrides t hoverrides h => ?_, fun overrides => ?_⟩
  · obtain ⟨t', hlaid, h⟩ := bind_eq_ok.mp h
    obtain ⟨⟨⟩, hvalid, h⟩ := bind_eq_ok.mp h
    cases h
    exact bind_eq_ok.mpr ⟨t, overlay_all_saved is_orderly_default hoverrides hlaid,
      bind_eq_ok.mpr ⟨(), hvalid, rfl⟩⟩
  · rw [merge, overlay_all_known (fun _ => rfl) (fun _ _ => rfl)]
    rfl

/-- Overrides of two weights and a switch, with a key that is not known: the settings have no deadline
and no coverage report, which are left out when they are stored. -/
theorem merge_restores_saved_weights :
    ∃ t, merge [("pipeline", .obj [("dry_run", .bool true), ("bogus", .int 1)]),
        ("inventory", .obj [("weights", .obj [("documentation", .float 0.15),
          ("pattern_compliance", .float 0.05)])])] = .ok t ∧
      IsOverrides [("pipeline", .obj [("dry_run", .bool true), ("bogus", .int 1)]),
        ("inventory", .obj [("weights", .obj [("documentation", .float 0.15),
          ("pattern_compliance", .float 0.05)])])] ∧
      merge t.withoutNulls.asOverrides = .ok t := by
  have hrun : (merge [("pipeline", .obj [("dry_run", .bool true), ("bogus", .int 1)]),
      ("inventory", .obj [("weights", .obj [("documentation", .float 0.15),
        ("pattern_compliance", .float 0.05)])])]).toOption.isSome = true := by
    decide +kernel
  obtain ⟨t, ht⟩ := Option.isSome_iff_exists.mp hrun
  have hmerged := eq_ok_of_to_option ht
  have hoverrides : IsOverrides [("pipeline", .obj [("dry_run", .bool true), ("bogus", .int 1)]),
      ("inventory", .obj [("weights", .obj [("documentation", .float 0.15),
        ("pattern_compliance", .float 0.05)])])] := by
    refine ⟨by decide, fun name fields h => ?_, fun name fields h => ?_⟩
    · rcases List.mem_cons.mp h with h | h
      · cases h
        decide
      · cases List.mem_singleton.mp h
        decide
    · rcases List.mem_cons.mp h with h | h
      · cases h
        simp
      · cases List.mem_singleton.mp h
        simp
  exact ⟨t, hmerged, hoverrides, merge_restores_saved.1 _ t hoverrides hmerged⟩

end ComponentMigration.SettingsTable
