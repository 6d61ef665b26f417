import ComponentMigration.Command.Analyze
import ComponentMigration.Proofs.Manifest.Rollback

/-!
# What a manifest file may hold

A manifest is loaded if the bytes of its file are a document that has the form of a manifest
(`Manifest.IsStored`).  Bytes that are a text but no document are told as a fault of the file system.
Everything else, which is a text that is not decoded, a document that cannot be read though it is
well formed, and a value of any other form, ends the command by a trouble that nobody handles
(`manifest_file_ends`).
-/

namespace ComponentMigration

/-!
## Troubles that are none with files
-/

namespace Usable

variable {α β : Type}

/-- What can be used, or else meets a trouble that is none with files. -/
def IsInternal (x : Usable α) : Prop := ∀ t, x = .error t → t.isSystem = false

theorem is_internal_ok (a : α) : IsInternal (.ok a) := nofun

theorem IsInternal.bind {x : Usable α} {f : α → Usable β} (hx : x.IsInternal)
    (hf : ∀ a, (f a).IsInternal) : Usable.IsInternal (x >>= f) := by
  cases x with
  | error t => exact fun t' h => hx t' (congrArg Except.error (Except.error.inj h))
  | ok a => exact hf a

theorem is_internal_map_m {f : α → Usable β} (hf : ∀ a, (f a).IsInternal) (xs : List α) :
    Usable.IsInternal (xs.mapM f) := by
  induction xs with
  | nil => exact is_internal_ok []
  | cons x xs ih =>
      rw [List.mapM_cons]
      exact (hf x).bind fun y => ih.bind fun ys => is_internal_ok (y :: ys)

theorem is_internal_foldl_m {f : β → α → Usable β} (hf : ∀ b a, (f b a).IsInternal)
    (xs : List α) (b : β) : Usable.IsInternal (xs.foldlM f b) := by
  induction xs generalizing b with
  | nil => exact is_internal_ok b
  | cons x xs ih =>
      rw [List.foldlM_cons]
      exact (hf b x).bind fun next => ih next

end Usable

/-!
## The form of a manifest
-/

namespace Json

/-- A value that stands for a pair with a key: it has two members, and the first one can be looked
up. -/
def IsPair (v : Json) : Prop :=
  ∃ key value, v.members = .ok [key, value] ∧ key.isHashable = true

/-- A value that stands for a table: it is one, or its members are pairs. -/
def IsTable (v : Json) : Prop :=
  (∃ fields, v = .obj fields) ∨ ∃ items, v.members = .ok items ∧ ∀ item ∈ items, item.IsPair

end Json

namespace Manifest

/-- A value that stands for a failed unit: a table with a unit and an error, and perhaps a point in
time, and nothing else. -/
structure IsFailedEntry (v : Json) : Prop where
  table : ∃ fields, v = .obj fields ∧
    ∀ entry ∈ fields, entry.1 ∈ ["component", "error", "timestamp"]
  component : ∃ component, v.get? "component" = some component
  error : ∃ error, v.get? "error" = some error

/-- A value that stands for a manifest: a table whose units are listed, as far as there are any, and
whose settings are a table. -/
structure IsStored (v : Json) : Prop where
  table : ∃ fields, v = .obj fields
  successful : ∀ units, v.get? "successful" = some units → ∃ items, units.members = .ok items
  failed : ∀ units, v.get? "failed" = some units →
    ∃ items, units.members = .ok items ∧ ∀ item ∈ items, IsFailedEntry item
  config : ∀ config, v.get? "config" = some config → config.IsTable

section Form

variable {now : Instant} {v : Json}

/-- A field that may be missing can be used if it can be where it is there. -/
theorem exists_field_eq_ok {α : Type} (v : Json) (key : String) (f : Json → Usable α) {other : Json}
    (hother : ∃ a, f other = .ok a) :
    (∃ a, f ((v.get? key).getD other) = .ok a) ↔
      ∀ field, v.get? key = some field → ∃ a, f field = .ok a := by
  cases v.get? key with
  | none => simpa using hother
  | some field => simp

theorem exists_add_pair (acc : List (Json × Json)) :
    (∃ after, addPair acc v = .ok after) ↔ v.IsPair := by
  unfold Json.IsPair
  constructor
  · rintro ⟨after, h⟩
    obtain ⟨items, hitems, h⟩ := bind_eq_ok.mp h
    split at h
    · next key value =>
        split at h
        · next hkey => exact ⟨key, value, hitems, hkey⟩
        · cases h
    · cases h
  · rintro ⟨key, value, hitems, hkey⟩
    refine ⟨setPair key value acc, bind_eq_ok.mpr ⟨_, hitems, ?_⟩⟩
    dsimp only
    rw [if_pos hkey]
    rfl

theorem exists_add_pairs (items : List Json) (acc : List (Json × Json)) :
    (∃ after, items.foldlM addPair acc = .ok after) ↔ ∀ item ∈ items, item.IsPair := by
  induction items generalizing acc with
  | nil => exact iff_of_true ⟨acc, rfl⟩ (List.forall_mem_nil _)
  | cons item items ih =>
      rw [List.foldlM_cons, List.forall_mem_cons]
      constructor
      · rintro ⟨after, h⟩
        obtain ⟨next, hnext, h⟩ := bind_eq_ok.mp h
        exact ⟨(exists_add_pair acc).mp ⟨next, hnext⟩, (ih next).mp ⟨after, h⟩⟩
      · rintro ⟨hitem, hitems⟩
        obtain ⟨next, hnext⟩ := (exists_add_pair acc).mpr hitem
        obtain ⟨after, h⟩ := (ih next).mpr hitems
        exact ⟨after, bind_eq_ok.mpr ⟨next, hnext, h⟩⟩

theorem exists_table_of : (∃ table, tableOf v = .ok table) ↔ v.IsTable := by
  have hpairs : (∃ table : Assoc Json, (do
      let pairs ← (← v.members).foldlM addPair []
      return pairs.map fun pair => (keyText pair.1, pair.2) : Usable (Assoc Json)) =
        .ok table) ↔ ∃ items, v.members = .ok items ∧ ∀ item ∈ items, item.IsPair := by
    constructor
    · rintro ⟨table, h⟩
      obtain ⟨items, hitems, h⟩ := bind_eq_ok.mp h
      obtain ⟨pairs, h, -⟩ := bind_eq_ok.mp h
      exact ⟨items, hitems, (exists_add_pairs items []).mp ⟨pairs, h⟩⟩
    · rintro ⟨items, hitems, h⟩
      obtain ⟨pairs, h⟩ := (exists_add_pairs items []).mpr h
      exact ⟨_, bind_eq_ok.mpr ⟨items, hitems, bind_eq_ok.mpr ⟨pairs, h, rfl⟩⟩⟩
  unfold Json.IsTable
  rw [← hpairs]
  cases v with
  | obj fields => exact iff_of_true ⟨fields, rfl⟩ (.inl ⟨fields, rfl⟩)
  | _ => exact (or_iff_right (by simp)).symm

theorem exists_failed_unit : (∃ f, failedUnit now v = .ok f) ↔ IsFailedEntry v := by
  constructor
  · rintro ⟨f, h⟩
    unfold failedUnit at h
    dsimp only at h
    split at h
    · next fields =>
        split at h
        · next hknown =>
            split at h
            · next component error hcomponent herror =>
                exact ⟨⟨fields, rfl, by simpa using hknown⟩, ⟨component, hcomponent⟩,
                  ⟨error, herror⟩⟩
            · cases h
        · cases h
    · cases h
  · rintro ⟨⟨fields, rfl, hknown⟩, ⟨component, hcomponent⟩, error, herror⟩
    have hall : (fields.all fun field => ["component", "error", "timestamp"].contains field.1) =
        true := by simpa using hknown
    unfold failedUnit
    dsimp only
    rw [if_pos hall, hcomponent, herror]
    exact ⟨_, rfl⟩

theorem exists_failed_units : (∃ fs, (v.members >>= fun items => items.mapM (failedUnit now)) =
    .ok fs) ↔ ∃ items, v.members = .ok items ∧ ∀ item ∈ items, IsFailedEntry item := by
  constructor
  · rintro ⟨fs, h⟩
    obtain ⟨items, hitems, h⟩ := bind_eq_ok.mp h
    exact ⟨items, hitems, fun item hitem =>
      exists_failed_unit.1 (exists_map_m_eq_ok.mp ⟨fs, h⟩ item hitem)⟩
  · rintro ⟨items, hitems, hentries⟩
    obtain ⟨fs, h⟩ := exists_map_m_eq_ok.mpr fun item hitem =>
      exists_failed_unit.2 (hentries item hitem)
    exact ⟨fs, bind_eq_ok.mpr ⟨items, hitems, h⟩⟩

/-- A value is taken for a manifest exactly if it has the form of one. -/
theorem exists_of_json : (∃ m, ofJson now v = .ok m) ↔ IsStored v := by
  have hnone : ∃ items, (Json.arr []).members = .ok items := ⟨[], rfl⟩
  have hnobody : ∃ fs, ((Json.arr []).members >>= fun items => items.mapM (failedUnit now)) =
      .ok fs := ⟨[], rfl⟩
  have hempty : ∃ table, tableOf (.obj []) = .ok table := ⟨[], rfl⟩
  have hsuccessful := exists_field_eq_ok v "successful" Json.members hnone
  have hfailed := exists_field_eq_ok v "failed"
    (fun units => units.members >>= fun items => items.mapM (failedUnit now)) hnobody
  have hconfig := exists_field_eq_ok v "config" tableOf hempty
  simp only [exists_failed_units, exists_table_of] at hfailed hconfig
  constructor
  · rintro ⟨m, h⟩
    unfold ofJson at h
    split at h
    · next fields =>
        obtain ⟨successful, hs, h⟩ := bind_eq_ok.mp h
        obtain ⟨units, hunits, h⟩ := bind_eq_ok.mp h
        obtain ⟨failed, hf, h⟩ := bind_eq_ok.mp h
        obtain ⟨config, hc, h⟩ := bind_eq_ok.mp h
        exact ⟨⟨fields, rfl⟩, hsuccessful.mp ⟨successful, hs⟩,
          hfailed.mp (exists_failed_units.1 ⟨failed, bind_eq_ok.mpr ⟨units, hunits, hf⟩⟩),
          hconfig.mp (exists_table_of.1 ⟨config, hc⟩)⟩
    · cases h
  · rintro ⟨⟨fields, rfl⟩, hs, hf, hc⟩
    obtain ⟨successful, hs⟩ := hsuccessful.mpr hs
    obtain ⟨failed, hf⟩ := exists_failed_units.2 (hfailed.mpr hf)
    obtain ⟨units, hunits, hf⟩ := bind_eq_ok.mp hf
    obtain ⟨config, hc⟩ := exists_table_of.2 (hconfig.mpr hc)
    exact ⟨_, bind_eq_ok.mpr ⟨successful, hs, bind_eq_ok.mpr ⟨units, hunits,
      bind_eq_ok.mpr ⟨failed, hf, bind_eq_ok.mpr ⟨config, hc, rfl⟩⟩⟩⟩⟩

/-- Whatever is wrong with the form of a value, the trouble is none with files. -/
theorem is_internal_of_json (now : Instant) (v : Json) : (ofJson now v).IsInternal := by
  have hmembers : ∀ v : Json, v.members.IsInternal := by
    rintro v t h
    unfold Json.members at h
    split at h <;> cases h
    rfl
  have hunit : ∀ v, (failedUnit now v).IsInternal := by
    intro v t h
    unfold failedUnit at h
    dsimp only at h
    split at h
    · split at h
      · split at h <;> cases h
        rfl
      · cases h
        rfl
    · cases h
      rfl
  have hpair : ∀ acc item, (addPair acc item).IsInternal := by
    refine fun acc item => (hmembers item).bind fun items t h => ?_
    split at h
    · split at h <;> cases h
      rfl
    · cases h
      rfl
  have htable : ∀ v, (tableOf v).IsInternal := by
    intro v
    have hpairs := (hmembers v).bind fun items => (Usable.is_internal_foldl_m hpair items []).bind
      fun pairs => Usable.is_internal_ok (pairs.map fun pair => (keyText pair.1, pair.2))
    cases v with
    | obj fields => exact Usable.is_internal_ok fields
    | _ => exact hpairs
  unfold ofJson
  split
  · exact (hmembers _).bind fun successful => (hmembers _).bind fun units =>
      (Usable.is_internal_map_m hunit units).bind fun failed => (htable _).bind fun config =>
        Usable.is_internal_ok _
  · rintro t ⟨⟩
    rfl

instance (v : Json) : Decidable (IsStored v) :=
  match hm : ofJson ⟨0⟩ v with
  | .ok m => isTrue (exists_of_json.1 ⟨m, hm⟩)
  | .error t => isFalse fun h => by
      obtain ⟨m, hok⟩ := exists_of_json.2 h
      cases hm.symm.trans hok

end Form

end Manifest

/-!
## Loading the file
-/

namespace Manifest

/-- Bytes that are the text of a manifest. -/
def IsManifestFile (content : List UInt8) : Prop :=
  ∃ text v, Disk.textOf content = .ok text ∧ Json.read text = .ok v ∧ IsStored v

/-- Bytes that are a text but no document. -/
def IsMalformedFile (content : List UInt8) : Prop :=
  ∃ text, Disk.textOf content = .ok text ∧ Json.read text = .error .malformed

/-- The fault that a manifest is told as whose text is no document. -/
def corruptFault (output : Path) : Fault :=
  Fault.of .fileSystem ("Cannot read manifest " ++ (Run.manifestPath output).toText ++ ": ")
    { operation := some "load_manifest", filePath := some (Run.manifestPath output).toText }
    (some (.trouble .malformedJson))

end Manifest

namespace Disk

variable {d : Disk} {p output : Path} {content : List UInt8}

/-- A file that is ready to be read: the next reading of its text does not fail for a while. -/
structure Offers (p : Path) (content : List UInt8) (d : Disk) : Prop where
  file : d.entry? p = some (.file content)
  ready : takeTextFault p.name d.pending = none

theorem Offers.read_text (h : d.Offers p content) : d.readText p = (textOf content, d) := by
  have hcontent : d.content p = .ok content := by
    have hfile := h.file
    unfold entry? at hfile
    split at hfile
    · next hfind =>
        cases hfile
        rw [Disk.content, hfind]
    · cases hfile
  rw [readText, h.ready]
  dsimp only
  rw [hcontent]

/-- What is found at a path can be looked up. -/
theorem look_of_entry {e : Entry} (h : d.entry? p = some e) : d.look p = .ok (some e) := by
  unfold entry? at h
  split at h
  · next hfind =>
      cases h
      rw [look, hfind]
  · cases h

/-- A path fits if one that leads on from it does. -/
theorem fits_of_join {c : String} (h : Fits (output.join ⟨"", [c]⟩)) : Fits output := by
  obtain ⟨root, parts⟩ := output
  rw [join_relative] at h
  by_cases hparts : parts = []
  · subst hparts
    by_cases hroot : root = ""
    · subst hroot
      exact ⟨by decide, by decide⟩
    · simp only [Fits, Path.toText, List.nil_append, List.isEmpty_cons, Bool.and_false,
        Bool.false_eq_true, if_false, String.toList_append, List.mem_append, not_or,
        String.utf8ByteSize_append] at h
      simp only [Fits, Path.toText, List.isEmpty_nil, Bool.and_true, String.isEmpty_iff, hroot,
        if_false, String.intercalate_nil, String.append_empty]
      exact ⟨h.1.1, by omega⟩
  · exact fits_of_deeper hparts h

/-- Where a manifest is found, the path of the output directory leads to that directory. -/
theorem find_output {e : Entry} (h : d.entry? (Run.manifestPath output) = some e) :
    d.find output = .found ⟨"/", (d.locate output).parts⟩ .directory := by
  have hfound : ∀ obstacle, d.find (output.join ⟨"", [Manifest.fileName]⟩) ≠ .lost obstacle := by
    intro obstacle hlost
    rw [manifest_path_eq, entry?, hlost] at h
    cases h
  rw [find_of_fits (fits_of_join (fits_of_find hfound))]
  exact walk_output hfound

end Disk

namespace Run

variable {context : RunContext} {s : RunState} {output : Path} {now : Instant}
  {content : List UInt8} {text : String} {v : Json}

/-- Reading the value in a file that is there comes to what its text is read as. -/
theorem exec_read_json (context : RunContext) {p : Path} (h : s.disk.Offers p content) :
    (readJson p).exec context s = ((Disk.textOf content >>= Json.parse).mapError .trouble, s) := by
  rw [readJson, exec_bind, exec_on_disk, h.read_text]
  cases Disk.textOf content with
  | error t => rfl
  | ok text =>
      show (use (Json.parse text)).exec context s = ((Json.parse text).mapError .trouble, s)
      cases Json.parse text <;> rfl

/-- Loading a manifest that is there comes to what the value in its file stands for, and the state
stays.  Only a document that is malformed is told as a fault. -/
theorem exec_load_manifest (h : s.disk.Offers (manifestPath output) content) :
    (loadManifest output now).exec context s =
      (match Disk.textOf content with
        | .error t => .error (.trouble t)
        | .ok text =>
          match Json.read text with
          | .error .malformed => .error (.fault (Manifest.corruptFault output))
          | .error flaw => .error (.trouble flaw.trouble)
          | .ok v => ((Manifest.ofJson now v).map some).mapError .trouble, s) := by
  have hread := exec_read_json context h
  unfold loadManifest
  dsimp only
  rw [exec_bind_of_ok (exec_exists_of_look (Disk.look_of_entry h.file))]
  simp only [Option.isSome_some, Bool.not_true, Bool.false_eq_true, if_false]
  rw [exec_bind_of_ok (exec_attempt _), hread]
  cases htext : Disk.textOf content with
  | error t =>
      have hsort : t.sort = .undecodable := by
        unfold Disk.textOf at htext
        split at htext <;> cases htext
        rfl
      have hraw : (t.sort == .malformedJson || t.sort.family == .system ||
          t.sort.family == .timeout) = false := by rw [hsort]; rfl
      rw [show (Except.error t >>= Json.parse : Usable Json) = .error t from rfl]
      dsimp only [Except.mapError]
      rw [hraw, if_neg Bool.false_ne_true, exec_bind, exec_trouble]
  | ok text =>
      rw [show (Except.ok text >>= Json.parse : Usable Json) = Json.parse text from rfl, Json.parse]
      dsimp only
      cases Json.read text with
      | error flaw =>
          dsimp only [Except.mapError]
          cases flaw with
          | malformed =>
              have htold : Json.Flaw.malformed.trouble.text = "" := by decide
              have hkind : (Json.Flaw.malformed.trouble.sort == .malformedJson ||
                  Json.Flaw.malformed.trouble.sort.family == .system ||
                  Json.Flaw.malformed.trouble.sort.family == .timeout) = true := rfl
              rw [if_pos hkind, exec_bind, exec_fault, htold, String.append_empty]
              rfl
          | tooDeep => rfl
          | tooManyDigits count => rfl
      | ok v =>
          dsimp only [Except.mapError]
          rw [pure_bind]
          cases Manifest.ofJson now v <;> rfl

theorem load_manifest_of_read {m : Manifest} (h : s.disk.Offers (manifestPath output) content)
    (htext : Disk.textOf content = .ok text) (hread : Json.read text = .ok v)
    (hm : Manifest.ofJson now v = .ok m) :
    (loadManifest output now).exec context s = (.ok (some m), s) := by
  rw [exec_load_manifest h, htext]
  dsimp only
  rw [hread]
  dsimp only
  rw [hm]
  rfl

theorem load_manifest_of_manifest_file (h : s.disk.Offers (manifestPath output) content)
    (hfile : Manifest.IsManifestFile content) :
    ∃ m, (loadManifest output now).exec context s = (.ok (some m), s) := by
  obtain ⟨text, v, htext, hread, hstored⟩ := hfile
  obtain ⟨m, hm⟩ := Manifest.exists_of_json.2 hstored
  exact ⟨m, load_manifest_of_read h htext hread hm⟩

theorem load_manifest_of_malformed_file (context : RunContext) (now : Instant)
    (h : s.disk.Offers (manifestPath output) content) (hfile : Manifest.IsMalformedFile content) :
    (loadManifest output now).exec context s =
      (.error (.fault (Manifest.corruptFault output)), s) := by
  obtain ⟨text, htext, hread⟩ := hfile
  rw [exec_load_manifest h, htext]
  dsimp only
  rw [hread]

/-- A file that holds no manifest although its document is not malformed is told by a trouble. -/
theorem load_manifest_of_other_file (context : RunContext) (now : Instant)
    (h : s.disk.Offers (manifestPath output) content)
    (hmanifest : ¬Manifest.IsManifestFile content) (hmalformed : ¬Manifest.IsMalformedFile content) :
    ∃ t, t.isSystem = false ∧
      (loadManifest output now).exec context s = (.error (.trouble t), s) := by
  rw [exec_load_manifest h]
  cases htext : Disk.textOf content with
  | error t =>
      refine ⟨t, ?_, rfl⟩
      unfold Disk.textOf at htext
      split at htext <;> cases htext
      rfl
  | ok text =>
      dsimp only
      cases hread : Json.read text with
      | error flaw =>
          cases flaw with
          | malformed => exact absurd ⟨text, htext, hread⟩ hmalformed
          | tooDeep => exact ⟨_, rfl, rfl⟩
          | tooManyDigits count => exact ⟨_, rfl, rfl⟩
      | ok v =>
          dsimp only
          cases hm : Manifest.ofJson now v with
          | error t => exact ⟨t, Manifest.is_internal_of_json now v t hm, rfl⟩
          | ok m =>
              exact absurd ⟨text, v, htext, hread, Manifest.exists_of_json.1 ⟨m, hm⟩⟩ hmanifest

end Run

/-!
## Commands that load the file
-/

namespace MigrateRequest

variable {q : MigrateRequest} {context : RunContext} {s u : RunState} {now : Instant}
  {content : List UInt8} {failure : Failure}

/-- The state in which a request loads its manifest: at once if it undoes something, and else when
its settings have been loaded. -/
def ReachesManifest (q : MigrateRequest) (context : RunContext) (s u : RunState) : Prop :=
  if q.rollback || q.cleanup then u = s
  else ∃ table, (loadSettings q.config q.source).exec context s = (.ok table, u)

/-- A manifest that cannot be loaded ends the preparation of whatever is asked for. -/
theorem prepare_of_unloaded (hreach : q.ReachesManifest context s u)
    (hfile : u.disk.Offers (Run.manifestPath q.output) content)
    (hload : (Run.loadManifest q.output now).exec context u = (.error failure, u)) :
    (q.prepare now).exec context s = (.error failure, u) := by
  unfold ReachesManifest at hreach
  unfold prepare
  cases hrollback : q.rollback with
  | true =>
      obtain rfl : u = s := by simpa [hrollback] using hreach
      rw [if_pos rfl, Run.exec_bind, Run.rollback, Run.exec_bind, hload]
  | false =>
      rw [if_neg Bool.false_ne_true]
      cases hcleanup : q.cleanup with
      | true =>
          obtain rfl : u = s := by simpa [hrollback, hcleanup] using hreach
          have hdirectory : u.disk.look q.output = .ok (some .directory) := by
            rw [Disk.look, Disk.find_output hfile.file]
          have hclean : (Run.cleanup q.output now).exec context u = (.error failure, u) := by
            rw [Run.cleanup, Run.exec_bind_of_ok (Run.exec_is_directory_of_look hdirectory)]
            simp only [beq_self_eq_true, Bool.not_true, Bool.false_eq_true, if_false]
            rw [Run.exec_bind, hload]
          rw [if_pos rfl, Run.exec_bind, hclean]
      | false =>
          obtain ⟨table, htable⟩ : ∃ table,
              (loadSettings q.config q.source).exec context s = (.ok table, u) := by
            simpa [hrollback, hcleanup] using hreach
          have hcreate : (Run.loadOrCreateManifest q.output now q.noted).exec context u =
              (.error failure, u) := by
            rw [Run.loadOrCreateManifest, Run.exec_bind, hload]
          rw [if_neg Bool.false_ne_true, Run.exec_bind_of_ok htable, Run.exec_bind, hcreate]

/-- How a command ends whose preparation fails: faults and troubles with files are told. -/
def unprepared : Failure → CommandOutcome
  | .fault f => CommandOutcome.failed {} f
  | .trouble t =>
    if t.isSystem then
      CommandOutcome.failed {} (Fault.of .fileSystem t.text {} (some (.trouble t.sort)))
    else CommandOutcome.crashed {} (.trouble t)

theorem run_of_unprepared (h : (q.prepare now).exec context s = (.error failure, u)) :
    (q.run now).exec context s = (.ok (unprepared failure), u) := by
  rw [run, Run.exec_bind_of_ok (Run.exec_attempt _), h]
  cases failure with
  | fault f => rfl
  | trouble t =>
      dsimp only [unprepared]
      split <;> rfl

/-- What becomes of a command whose manifest file holds some bytes, whatever they are.  The bytes of a
manifest are loaded.  A text that is no document is told as a fault of the file system, with its exit
code.  With any other bytes the command ends by a trouble that nobody handles. -/
theorem manifest_file_ends (hreach : q.ReachesManifest context s u)
    (hfile : u.disk.Offers (Run.manifestPath q.output) content) :
    (Manifest.IsManifestFile content →
      ∃ m, (Run.loadManifest q.output now).exec context u = (.ok (some m), u)) ∧
    (Manifest.IsMalformedFile content →
      (Run.loadManifest q.output now).exec context u =
          (.error (.fault (Manifest.corruptFault q.output)), u) ∧
        ∃ outcome, (q.run now).exec context s = (.ok outcome, u) ∧ outcome.crash = none ∧
          outcome.exit = 4 ∧ outcome.console.faults = [Manifest.corruptFault q.output]) ∧
    (¬Manifest.IsManifestFile content → ¬Manifest.IsMalformedFile content →
      ∃ t, (Run.loadManifest q.output now).exec context u = (.error (.trouble t), u) ∧
        (q.run now).exec context s = (.ok (CommandOutcome.crashed {} (.trouble t)), u)) := by
  refine ⟨Run.load_manifest_of_manifest_file hfile, fun hmalformed => ?_,
    fun hmanifest hmalformed => ?_⟩
  · have hload := Run.load_manifest_of_malformed_file context now hfile hmalformed
    exact ⟨hload, _, run_of_unprepared (prepare_of_unloaded hreach hfile hload), rfl, rfl, rfl⟩
  · obtain ⟨t, hinternal, hload⟩ := Run.load_manifest_of_other_file context now hfile hmanifest
      hmalformed
    have hrun := run_of_unprepared (prepare_of_unloaded hreach hfile hload)
    rw [unprepared, hinternal, if_neg Bool.false_ne_true] at hrun
    exact ⟨t, hload, hrun⟩

end MigrateRequest

/-- An output directory whose manifest file holds a text. -/
def manifestedDisk (text : String) : Disk :=
  { entries := [(⟨"/", ["proj"]⟩, .directory), (⟨"/", ["proj", "out"]⟩, .directory),
      (⟨"/", ["proj", "out", Manifest.fileName]⟩, .file (Text.encodeUtf8 text))] }

/-- The request to roll back what is in an output directory. -/
def outRollback : MigrateRequest := { output := ⟨"", ["out"]⟩, rollback := true }

/-- A manifest that is cut off is told as a fault of the file system. -/
theorem manifest_file_ends_cut_off :
    ∃ outcome, (outRollback.run ⟨0⟩).exec { grammar := fun _ _ => default }
        { disk := manifestedDisk "[" } = (.ok outcome, { disk := manifestedDisk "[" }) ∧
      outcome.crash = none ∧ outcome.exit = 4 ∧
      outcome.console.faults = [Manifest.corruptFault ⟨"", ["out"]⟩] := by
  have hfile : (manifestedDisk "[").Offers (Run.manifestPath outRollback.output)
      (Text.encodeUtf8 "[") := ⟨by decide, rfl⟩
  have hmalformed : Manifest.IsMalformedFile (Text.encodeUtf8 "[") :=
    ⟨"[", by decide, rfl⟩
  have hreach : outRollback.ReachesManifest { grammar := fun _ _ => default }
      { disk := manifestedDisk "[" } { disk := manifestedDisk "[" } := rfl
  exact ((MigrateRequest.manifest_file_ends hreach hfile).2.1 hmalformed).2

/-- A manifest that is a list is no fault: the command is broken off. -/
theorem listed_manifest_breaks_off :
    (∃ t, ((Run.loadManifest ⟨"", ["out"]⟩ ⟨0⟩).exec { grammar := fun _ _ => default }
        { disk := manifestedDisk "[]" }).1 = .error (.trouble t)) ∧
      ((Run.command ["migrate", "--rollback", "-o", "out"] ⟨0⟩).exec
        { grammar := fun _ _ => default } { disk := manifestedDisk "[]" }).1.toOption.map
          (·.crash.isSome) = some true := by
  constructor
  · exact ⟨.lacks (.arr []) "get", rfl⟩
  · decide

end ComponentMigration
