import ComponentMigration.Proofs.Fault.Recovery
import ComponentMigration.Proofs.Run.Disk

/-!
# What a computation does not see

A disk and the same disk without one file lead every path to the same place, unless the path leads
to that file or through it (`find_apart`).  A computation is blind to what two states differ in if it
ends alike from both and leaves states that differ in no more.  There is one lemma for each way of
building computations and one for each part of an operation that is tried again
(`blind_with_recovery`).
-/

namespace ComponentMigration

/-- Two disks of which the second one lacks a file that no directory on the way to the working
directory is. -/
structure Disk.LacksFile (place : List String) (bytes : List UInt8) (d d' : Disk) : Prop where
  cwd : d'.cwd = d.cwd
  here : d.at? place = some (.file bytes)
  gone : d'.at? place = none
  others : ∀ q, q ≠ place → d'.at? q = d.at? q
  inside : ¬place <+: d.cwd.parts

namespace Disk

variable {d d' : Disk} {place q parts : List String} {bytes : List UInt8} {e : Entry} {p : Path}

/-- Where paths lead on two disks of which one lacks a file: to the same place, through the file, or
to the file. -/
inductive WaysApart (place : List String) (bytes : List UInt8) : Whereabouts → Whereabouts → Prop
  | same (way : Whereabouts) : WaysApart place bytes way way
  | through : WaysApart place bytes (.lost .throughFile) (.lost .missing)
  | ending : WaysApart place bytes (.found ⟨"/", place⟩ (.file bytes)) (.free ⟨"/", place⟩)

theorem walk_apart (h : LacksFile place bytes d d') (parts : List String) :
    WaysApart place bytes (d.walk q e parts) (d'.walk q e parts) := by
  induction parts generalizing q e with
  | nil => exact .same _
  | cons c rest ih =>
      rw [walk_cons, walk_cons, h.cwd]
      by_cases he : e ≠ .directory
      · rw [if_pos he, if_pos he]
        exact .same _
      rw [if_neg he, if_neg he]
      by_cases hup : c = ".."
      · rw [if_pos hup, if_pos hup]
        exact ih
      rw [if_neg hup, if_neg hup]
      by_cases hsize : nameLimit < c.utf8ByteSize
      · rw [if_pos hsize, if_pos hsize]
        exact .same _
      rw [if_neg hsize, if_neg hsize]
      by_cases hplace : q ++ [c] = place
      · -- The file is reached: nothing leads on from it, and without it there is a free place.
        rw [hplace, h.here, h.gone]
        dsimp only
        rw [if_neg h.inside]
        cases rest with
        | nil => exact .ending
        | cons next rest => exact .through
      · rw [h.others _ hplace]
        cases d.at? (q ++ [c]) with
        | some e => exact ih
        | none =>
            dsimp only
            split_ifs
            · exact ih
            · exact .same _
            · exact .same _

theorem find_apart (h : LacksFile place bytes d d') (p : Path) :
    WaysApart place bytes (d.find p) (d'.find p) := by
  unfold find
  dsimp only
  split_ifs
  · exact .same _
  · exact .same _
  · rw [h.cwd]
    exact walk_apart h _

/-- A path to the file that one of the disks lacks reads as its place. -/
theorem locate_of_find_file (hfile : d.find p = .found ⟨"/", place⟩ (.file bytes)) :
    (d.locate p).parts = place :=
  (congrArg Path.parts (find_found hfile).1).symm

/-- Where a path leads depends on the entries and the working directory alone. -/
theorem find_of_entries (h : d'.entries = d.entries ∧ d'.cwd = d.cwd) (p : Path) :
    d'.find p = d.find p := by
  have hat : ∀ q, d'.at? q = d.at? q := fun q => by rw [at?, h.1, at?]
  have hwalk : ∀ parts q e, d'.walk q e parts = d.walk q e parts := by
    intro parts
    induction parts with
    | nil => exact fun _ _ => rfl
    | cons c rest ih =>
        intro q e
        rw [walk_cons, walk_cons, hat, h.2]
        simp only [ih]
  have hroot : d'.follow [] (d'.inside []) .directory (d.cwd.join p).parts =
      d.follow [] (d.inside []) .directory (d.cwd.join p).parts := hwalk _ [] .directory
  rw [find, find, h.2, hroot]

theorem is_directory_apart (h : LacksFile place bytes d d') (p : Path) :
    d'.isDirectory p = d.isDirectory p := by
  unfold isDirectory entry?
  have hways := find_apart h p
  generalize d.find p = way, d'.find p = other at hways
  cases hways <;> rfl

/-- Whether a directory stands at a path can be told on both disks, or on neither. -/
theorem look_directory_apart (h : LacksFile place bytes d d') (p : Path) :
    (d'.look p).map (· == some .directory) = (d.look p).map (· == some .directory) := by
  unfold look
  have hways := find_apart h p
  generalize d.find p = way, d'.find p = other at hways
  cases hways <;> rfl

/-- A path can be resolved on both disks, or on neither. -/
theorem resolve_apart (h : LacksFile place bytes d d') (p : Path) : d'.resolve p = d.resolve p := by
  unfold resolve locate
  rw [h.cwd]
  have hways := find_apart h p
  generalize d.find p = way, d'.find p = other at hways
  cases hways <;> rfl

/-- Nothing can be looked up at a path to the file on the disk that lacks it. -/
theorem look_of_lacks_file (h : LacksFile place bytes d d')
    (hfile : d.find p = .found ⟨"/", place⟩ (.file bytes)) : d'.look p = .ok none := by
  have hways := find_apart h p
  have hgone : d'.find p ≠ .found ⟨"/", place⟩ (.file bytes) := by
    intro hfound
    obtain ⟨-, hdirectory | hat⟩ := find_found hfound
    · cases hdirectory
    · rw [locate_of_find_file hfound, h.gone] at hat
      cases hat
  rw [hfile] at hways
  unfold look
  generalize d'.find p = other at hways hgone
  cases hways with
  | same => exact absurd rfl hgone
  | ending => rfl

/-- A file on the disk that lacks one is a file on the other disk. -/
theorem is_file_of_lacks_file (h : LacksFile place bytes d d') (hfile : d'.isFile p = true) :
    d.isFile p = true := by
  unfold isFile entry? at hfile ⊢
  have hways := find_apart h p
  generalize d.find p = way, d'.find p = other at hways hfile
  cases hways with
  | same => exact hfile
  | through => exact hfile
  | ending => cases hfile

theorem is_file_apart (h : LacksFile place bytes d d') (hp : (d.locate p).parts ≠ place) :
    d'.isFile p = d.isFile p := by
  unfold isFile entry?
  have hways := find_apart h p
  have hother := @locate_of_find_file d place bytes p
  generalize d.find p = way, d'.find p = other at hways hother
  cases hways with
  | same => rfl
  | through => rfl
  | ending => exact absurd (hother rfl) hp

/-- A file that stands elsewhere has the same content on both disks. -/
theorem content_apart (h : LacksFile place bytes d d') (hp : (d.locate p).parts ≠ place)
    (hfile : d.isFile p = true) : d'.content p = d.content p := by
  unfold content
  unfold isFile entry? at hfile
  have hways := find_apart h p
  have hother := @locate_of_find_file d place bytes p
  generalize d.find p = way, d'.find p = other at hways hother hfile
  cases hways with
  | same => rfl
  | through => cases hfile
  | ending => exact absurd (hother rfl) hp

theorem lacks_file_filter (hd : d.IsProper) (hfile : d.find p = .found ⟨"/", place⟩ (.file bytes))
    (hinside : ¬place <+: d.cwd.parts) :
    LacksFile place bytes d { d with entries := d.entries.filter (·.1 != ⟨"/", place⟩) } where
  cwd := rfl
  here := by
    obtain ⟨-, hdirectory | hat⟩ := find_found hfile
    · cases hdirectory
    · rwa [locate_of_find_file hfile] at hat
  gone := (removes_place hd place).2
  others q hq := by
    rw [at_filter hd (· != ⟨"/", place⟩)]
    simp [hq]
  inside := hinside

end Disk

/-- The failures that reads of bytes still meet. -/
def byteFaults (pending : List PendingFaults) : List PendingFaults :=
  pending.map fun f => { f with textReads := 0 }

theorem take_byte_fault_map (name : String) (pending : List PendingFaults) :
    (Disk.takeByteFault name pending).map byteFaults =
      Disk.takeByteFault name (byteFaults pending) := by
  induction pending with
  | nil => rfl
  | cons f rest ih =>
      rw [byteFaults, List.map_cons, ← byteFaults, Disk.takeByteFault, Disk.takeByteFault, ← ih]
      split_ifs
      · rfl
      · cases Disk.takeByteFault name rest <;> rfl

theorem byte_faults_take_text_fault {name : String} {pending after : List PendingFaults}
    (h : Disk.takeTextFault name pending = some after) : byteFaults after = byteFaults pending := by
  induction pending generalizing after with
  | nil => cases h
  | cons f rest ih =>
      rw [Disk.takeTextFault] at h
      split at h
      · cases h
        rfl
      · obtain ⟨later, hlater, rfl⟩ := Option.map_eq_some_iff.mp h
        exact congrArg (_ :: ·) (ih hlater)

/-- Reading a text changes nothing but the failures that reads of texts still meet. -/
theorem read_text_apart (d : Disk) (p : Path) :
    (d.readText p).2 = { d with pending := (d.readText p).2.pending } ∧
      byteFaults (d.readText p).2.pending = byteFaults d.pending := by
  unfold Disk.readText
  split
  · next pending htake => exact ⟨rfl, byte_faults_take_text_fault htake⟩
  · split <;> exact ⟨rfl, rfl⟩

/-- States that differ at most in that they have two given disks, and in the failures that reads of
texts still meet. -/
structure RunState.Apart (d d' : Disk) (s t : RunState) : Prop where
  left : s.disk.entries = d.entries ∧ s.disk.cwd = d.cwd
  right : t.disk.entries = d'.entries ∧ t.disk.cwd = d'.cwd
  faults : byteFaults t.disk.pending = byteFaults s.disk.pending
  rest : t = { s with disk := t.disk }

/-- The observers of faults do not tell states apart that are related. -/
def RunContext.ObserversBlind (R : RunState → RunState → Prop) (context : RunContext) : Prop :=
  ∀ observe ∈ context.observers, ∀ f s t, R s t → R (observe f s) (observe f t)

/-- A computation that ends alike from states that are related, and leaves states that are. -/
def Run.Blind (R : RunState → RunState → Prop) (x : Run α) : Prop :=
  ∀ context s t, context.ObserversBlind R → R s t →
    (x.exec context t).1 = (x.exec context s).1 ∧ R (x.exec context s).2 (x.exec context t).2

namespace Run

section Building

variable {α β : Type} {R : RunState → RunState → Prop} {x : Run α}

theorem blind_pure (a : α) : Blind R (pure a) := fun _ _ _ _ h => ⟨rfl, h⟩

theorem blind_throw (failure : Failure) : Blind R (throw failure : Run α) :=
  fun _ _ _ _ h => ⟨rfl, h⟩

theorem blind_fault (f : Fault) : Blind R (fault f : Run α) := blind_throw _

theorem blind_trouble (t : Trouble) : Blind R (trouble t : Run α) := blind_throw _

theorem blind_read : Blind R (read : Run RunContext) := fun _ _ _ _ h => ⟨rfl, h⟩

theorem blind_use (value : Usable α) : Blind R (use value) := by
  cases value with
  | ok a => exact blind_pure a
  | error t => exact blind_trouble t

theorem blind_attempt (hx : Blind R x) : Blind R (attempt x) := by
  intro context s t hobservers h
  obtain ⟨hresult, hstates⟩ := hx context s t hobservers h
  rw [exec_attempt, exec_attempt, hresult]
  exact ⟨rfl, hstates⟩

theorem blind_bind {f : α → Run β} (hx : Blind R x) (hf : ∀ a, Blind R (f a)) :
    Blind R (x >>= f) := by
  intro context s t hobservers h
  obtain ⟨hresult, hstates⟩ := hx context s t hobservers h
  rw [exec_bind, exec_bind]
  generalize x.exec context s = ended, x.exec context t = other at hresult hstates
  obtain ⟨result, s'⟩ := ended
  obtain ⟨result', t'⟩ := other
  obtain rfl : result' = result := hresult
  cases result' with
  | error failure => exact ⟨rfl, hstates⟩
  | ok a => exact hf a context s' t' hobservers hstates

/-- What looks at the state is blind if it looks at nothing that makes a difference. -/
theorem blind_get_bind {f : RunState → Run β} (hf : ∀ s, Blind R (f s))
    (hsame : ∀ s t, R s t → f t = f s) : Blind R (get >>= f) := by
  intro context s t hobservers h
  rw [exec_bind, exec_bind, exec_get, exec_get]
  dsimp only
  rw [hsame s t h]
  exact hf s context s t hobservers h

theorem blind_modify {change : RunState → RunState} (h : ∀ s t, R s t → R (change s) (change t)) :
    Blind R (modify change) := fun _ s t _ hst => ⟨rfl, h s t hst⟩

end Building

section Recovery

variable {α : Type} {d d' : Disk} {operation : Run α}

/-- A change of the state that leaves the disk alone. -/
theorem blind_modify_apart {change : RunState → RunState}
    (h : ∀ (s : RunState) (disk : Disk), change { s with disk := disk } =
      { change s with disk := disk }) (hdisk : ∀ s, (change s).disk = s.disk) :
    Blind (RunState.Apart d d') (modify change) := by
  refine blind_modify fun s t hst => ?_
  refine ⟨?_, ?_, ?_, ?_⟩
  · rw [hdisk]
    exact hst.left
  · rw [hdisk]
    exact hst.right
  · rw [hdisk, hdisk]
    exact hst.faults
  · rw [hdisk, hst.rest, h]

theorem blind_classify (failure : Failure) (place : Option FaultContext) :
    Blind (RunState.Apart d d') (classify failure place) :=
  blind_bind (blind_modify_apart (fun _ _ => rfl) fun _ => rfl) fun _ => blind_pure _

/-- A fault that is recorded goes to the observers, one after the other. -/
theorem blind_record (f : Fault) : Blind (RunState.Apart d d') (record f) := by
  intro context s t hobservers h
  have hlog : t.log = s.log := by rw [h.rest]
  have hfold : ∀ observers ⊆ context.observers, ∀ (g : Fault) (s t : RunState), s.Apart d d' t →
      (observers.foldl (fun s observe => observe g s) s).Apart d d'
        (observers.foldl (fun s observe => observe g s) t) := by
    intro observers hsub g
    induction observers with
    | nil => exact fun _ _ h => h
    | cons observe rest ih =>
        intro s t h
        exact ih (fun o ho => hsub (List.mem_cons_of_mem _ ho)) _ _
          (hobservers observe (hsub List.mem_cons_self) g s t h)
  rw [exec_record, exec_record, hlog]
  refine ⟨rfl, hfold _ (List.Subset.refl _) _ _ _ ⟨h.left, h.right, h.faults, ?_⟩⟩
  rw [h.rest]

theorem blind_recover_by (f : Fault) (strategies : List Strategy) :
    Blind (RunState.Apart d d') (recoverBy f strategies) := by
  induction strategies with
  | nil => exact blind_pure none
  | cons strategy rest ih =>
      unfold recoverBy
      split
      · refine blind_bind (blind_modify_apart (fun _ _ => rfl) fun _ => rfl) fun _ =>
          blind_bind (blind_use _) fun r => ?_
        split
        · exact blind_pure _
        · exact ih
      · exact ih

theorem blind_recover (f : Fault) : Blind (RunState.Apart d d') (recover f) := by
  unfold recover
  split
  · exact blind_get_bind (fun s => blind_recover_by f s.log.strategies) fun s t h => by rw [h.rest]
  · exact blind_pure none

theorem blind_next_attempt (r : Recovery) : Blind (RunState.Apart d d') (nextAttempt r) := by
  unfold nextAttempt
  split
  · exact blind_trouble _
  · split
    · exact blind_pure _
    · exact blind_trouble _

theorem blind_place (unit operation filePath phase : Option String) :
    Blind (RunState.Apart d d') (place unit operation filePath phase) :=
  blind_bind blind_read fun _ => blind_pure _

theorem blind_checkpoint (place : FaultContext) :
    Blind (RunState.Apart d d') (checkpoint place) := by
  intro context s t hobservers h
  have htoken : t.token = s.token := by rw [h.rest]
  simp only [checkpoint, exec_bind, exec_get, exec_read, exec_set, htoken]
  have hafter : ∀ token, RunState.Apart d d' { s with token := token } { t with token := token } :=
    fun token => ⟨h.left, h.right, h.faults, by rw [h.rest]⟩
  cases (s.token.check context.clock place).1 with
  | none => exact ⟨rfl, hafter _⟩
  | some f => exact ⟨rfl, hafter _⟩

theorem blind_attempt_once (hoperation : Blind (RunState.Apart d d') operation)
    (base : FaultContext) (absorb : Fault → Recovery → α) (i : Int) :
    Blind (RunState.Apart d d') (attemptOnce operation base absorb i) := by
  refine blind_bind (blind_attempt hoperation) fun outcome => ?_
  cases outcome with
  | ok a => exact blind_pure _
  | error failure =>
      dsimp only
      split
      · exact blind_throw _
      · refine blind_bind (blind_classify failure _) fun f => blind_bind (blind_record f) fun f =>
          blind_bind (blind_recover f) fun recovery => ?_
        cases recovery with
        | none => exact blind_fault f
        | some r =>
            dsimp only
            split
            · exact blind_bind (blind_next_attempt r) fun _ => blind_pure _
            · exact blind_pure _

/-- An operation that is blind is so when it is tried again and again. -/
theorem blind_with_recovery (hoperation : Blind (RunState.Apart d d') operation)
    (base : FaultContext) (absorb : Fault → Recovery → α) :
    Blind (RunState.Apart d d') (withRecovery operation base absorb) := by
  have hloop : ∀ fuel i,
      Blind (RunState.Apart d d') (withRecovery.loop operation base absorb fuel i) := by
    intro fuel
    induction fuel with
    | zero =>
        intro i
        refine blind_bind (blind_attempt_once hoperation base absorb i) fun attempted => ?_
        cases attempted with
        | finished a => exact blind_pure a
        | again f next => exact blind_fault f
    | succ fuel ih =>
        intro i
        refine blind_bind (blind_attempt_once hoperation base absorb i) fun attempted => ?_
        cases attempted with
        | finished a => exact blind_pure a
        | again f next => exact ih next
  exact blind_get_bind (fun s => hloop _ _) fun s t h => by rw [h.rest]

end Recovery

section Reading

variable {d d' : Disk} {place : List String} {bytes : List UInt8} {p : Path}

/-- The bytes of another file are read alike whether or not a file is there. -/
theorem blind_read_bytes (h : d.LacksFile place bytes d') (hp : (d.locate p).parts ≠ place)
    (hfile : d.isFile p = true) : Blind (RunState.Apart d d') (onDisk (·.readBytes p)) := by
  intro context s t _ hst
  have hcontent : t.disk.content p = s.disk.content p := by
    rw [Disk.content, Disk.find_of_entries hst.right, Disk.content, Disk.find_of_entries hst.left]
    exact Disk.content_apart h hp hfile
  have hfaults : (Disk.takeByteFault p.name t.disk.pending).map byteFaults =
      (Disk.takeByteFault p.name s.disk.pending).map byteFaults := by
    rw [take_byte_fault_map, take_byte_fault_map, hst.faults]
  have hafter : ∀ pending pending', byteFaults pending' = byteFaults pending →
      RunState.Apart d d' { s with disk := { s.disk with pending := pending } }
        { t with disk := { t.disk with pending := pending' } } :=
    fun _ _ hpending => ⟨hst.left, hst.right, hpending, by rw [hst.rest]⟩
  rw [exec_on_disk, exec_on_disk, Disk.readBytes, Disk.readBytes]
  cases hleft : Disk.takeByteFault p.name s.disk.pending with
  | none =>
      rw [hleft, Option.map_none, Option.map_eq_none_iff] at hfaults
      rw [hfaults]
      dsimp only
      rw [hcontent]
      exact ⟨rfl, hafter _ _ hst.faults⟩
  | some pending =>
      rw [hleft, Option.map_some, Option.map_eq_some_iff] at hfaults
      obtain ⟨pending', hright, hpending⟩ := hfaults
      rw [hright]
      exact ⟨rfl, hafter _ _ hpending⟩

end Reading

end Run

end ComponentMigration
