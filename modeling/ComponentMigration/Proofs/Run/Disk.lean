import Mathlib.Data.List.Basic
import ComponentMigration.Proofs.Path
import ComponentMigration.Run.Disk

/-!
# What stands where on a disk

A disk is seen as the entries at the places that absolute paths lead to.  Following a path leads to
the place that the path reads as, if it leads anywhere, so what the operations on a disk do is told
by places: `put`, `write` and `makeDirectories` change one place or make directories where nothing
stood, and what is removed stands nowhere afterwards.
-/

namespace ComponentMigration.Disk

/-- The entry at a place. -/
def at? (d : Disk) (place : List String) : Option Entry :=
  (d.entries.find? (·.1.parts == place)).map (·.2)

/-- A disk whose entries stand under absolute paths without `..`. -/
def IsProper (d : Disk) : Prop := ∀ entry ∈ d.entries, entry.1.root = "/" ∧ ".." ∉ entry.1.parts

/-- The place that components lead to from a place. -/
def placeFrom (place : List String) (parts : List String) : List String :=
  parts.foldl (fun acc p => if p == ".." then acc.dropLast else acc ++ [p]) place

/-- Follows components from a place at which an entry stands. -/
def walk (d : Disk) (place : List String) (e : Entry) (parts : List String) : Whereabouts :=
  d.follow place (d.inside place) e parts

/-- A path whose text the system takes. -/
def Fits (p : Path) : Prop := '\x00' ∉ p.toText.toList ∧ p.toText.utf8ByteSize ≤ pathLimit

/-- The components that lead on from a place to another one below it. -/
def restBelow (place q : List String) : Option (List String) :=
  if place.isPrefixOf q then some (q.drop place.length) else none

section Walking

variable {d : Disk} {place parts : List String} {e : Entry}

theorem rest_below_eq_some {q rest : List String} :
    restBelow place q = some rest ↔ q = place ++ rest := by
  unfold restBelow
  split
  · next h =>
      obtain ⟨later, rfl⟩ := List.isPrefixOf_iff_prefix.mp h
      rw [List.drop_left, Option.some.injEq, List.append_cancel_left_eq]
  · next h =>
      constructor
      · rintro ⟨⟩
      · rintro rfl
        exact absurd (List.isPrefixOf_iff_prefix.mpr (List.prefix_append place rest)) h

theorem inside_eq (d : Disk) (place : List String) :
    d.inside place = d.entries.filterMap fun entry =>
      (restBelow place entry.1.parts).map (·, entry.2) := by
  refine List.filterMap_congr fun entry _ => ?_
  unfold restBelow
  dsimp only
  split <;> rfl

theorem step_into_inside (d : Disk) (place : List String) (c : String) :
    stepInto c (d.inside place) = d.inside (place ++ [c]) := by
  rw [stepInto, inside_eq, List.filterMap_filterMap, inside_eq]
  refine List.filterMap_congr fun entry _ => ?_
  cases hrest : restBelow (place ++ [c]) entry.1.parts with
  | some rest =>
      have hentry : restBelow place entry.1.parts = some (c :: rest) := by
        rw [rest_below_eq_some, rest_below_eq_some.1 hrest, List.append_assoc,
          List.singleton_append]
      simp [hentry]
  | none =>
      cases hentry : restBelow place entry.1.parts with
      | none => rfl
      | some rest =>
          cases rest with
          | nil => rfl
          | cons first rest =>
              have hne : first ≠ c := by
                rintro rfl
                have hlonger : restBelow (place ++ [first]) entry.1.parts = some rest := by
                  rw [rest_below_eq_some, rest_below_eq_some.1 hentry, List.append_assoc,
                    List.singleton_append]
                rw [hrest] at hlonger
                cases hlonger
              simp [hne]

theorem find_inside (d : Disk) (place : List String) :
    ((d.inside place).find? (·.1.isEmpty)).map (·.2) = d.at? place := by
  rw [at?, inside_eq]
  induction d.entries with
  | nil => rfl
  | cons entry entries ih =>
      by_cases hplace : entry.1.parts = place
      · have hrest : restBelow place entry.1.parts = some [] := by
          rw [rest_below_eq_some, hplace, List.append_nil]
        rw [List.filterMap_cons, hrest]
        simp [hplace]
      · cases hrest : restBelow place entry.1.parts with
        | none =>
            rw [List.filterMap_cons, hrest, List.find?_cons_of_neg (by simpa using hplace)]
            exact ih
        | some rest =>
            have hne : rest ≠ [] := by
              rintro rfl
              rw [rest_below_eq_some, List.append_nil] at hrest
              exact hplace hrest
            rw [List.filterMap_cons, hrest, List.find?_cons_of_neg (by simpa using hplace)]
            dsimp only [Option.map_some]
            rw [List.find?_cons_of_neg (by simpa using hne)]
            exact ih

theorem walk_nil (d : Disk) (place : List String) (e : Entry) :
    d.walk place e [] = .found ⟨"/", place⟩ e := rfl

/-- One step of a walk. -/
theorem walk_cons (d : Disk) (place : List String) (e : Entry) (c : String) (rest : List String) :
    d.walk place e (c :: rest) =
      if e ≠ .directory then .lost .throughFile
      else if c = ".." then d.walk place.dropLast .directory rest
      else if nameLimit < c.utf8ByteSize then .lost .tooLong
      else
        match d.at? (place ++ [c]) with
        | some e => d.walk (place ++ [c]) e rest
        | none =>
          if place ++ [c] <+: d.cwd.parts then d.walk (place ++ [c]) .directory rest
          else if rest = [] then .free ⟨"/", place ++ [c]⟩ else .lost .missing := by
  rw [walk, follow, step_into_inside, ← find_inside]
  cases hfind : (d.inside (place ++ [c])).find? (·.1.isEmpty) with
  | none => simp [walk, hfind]
  | some found => simp [walk, hfind]

theorem place_from_append (place xs ys : List String) :
    placeFrom place (xs ++ ys) = placeFrom (placeFrom place xs) ys := List.foldl_append

theorem place_from_up (place : List String) : placeFrom place [".."] = place.dropLast := rfl

theorem place_from_down (place : List String) {c : String} (hc : c ≠ "..") :
    placeFrom place [c] = place ++ [c] := by
  simp [placeFrom, hc]

/-- Components without `..` lead on below a place. -/
theorem place_from_straight (hup : ".." ∉ parts) (place : List String) :
    placeFrom place parts = place ++ parts := by
  induction parts generalizing place with
  | nil => simp [placeFrom]
  | cons c parts ih =>
      rw [List.mem_cons, not_or] at hup
      rw [← List.singleton_append, place_from_append, place_from_down place (Ne.symm hup.1),
        ih hup.2, List.append_assoc]

/-- A component leads nowhere, on to what stands at the place that it reads as, or to that place if
nothing stands there. -/
theorem walk_step (d : Disk) (place : List String) (e : Entry) (c : String) :
    (∃ obstacle, ∀ rest, d.walk place e (c :: rest) = .lost obstacle) ∨
    (∃ e', (e' = .directory ∨ d.at? (placeFrom place [c]) = some e') ∧
      ∀ rest, d.walk place e (c :: rest) = d.walk (placeFrom place [c]) e' rest) ∨
    (d.at? (placeFrom place [c]) = none ∧ ∀ rest, d.walk place e (c :: rest) =
      if rest = [] then .free ⟨"/", placeFrom place [c]⟩ else .lost .missing) := by
  simp only [walk_cons]
  by_cases he : e = .directory
  · simp only [he, ne_eq, not_true_eq_false, if_false]
    by_cases hup : c = ".."
    · simp only [hup, if_true, place_from_up]
      exact Or.inr (Or.inl ⟨.directory, Or.inl rfl, fun rest => rfl⟩)
    · simp only [hup, if_false, place_from_down place hup]
      by_cases hsize : nameLimit < c.utf8ByteSize
      · simp only [hsize, if_true]
        exact Or.inl ⟨.tooLong, fun rest => rfl⟩
      · simp only [hsize, if_false]
        cases hat : d.at? (place ++ [c]) with
        | some e' => exact Or.inr (Or.inl ⟨e', Or.inr rfl, fun rest => rfl⟩)
        | none =>
            by_cases hcwd : place ++ [c] <+: d.cwd.parts
            · simp only [hcwd, if_true]
              exact Or.inr (Or.inl ⟨.directory, Or.inl rfl, fun rest => rfl⟩)
            · refine Or.inr (Or.inr ⟨rfl, fun rest => ?_⟩)
              rw [if_neg hcwd]
  · simp only [he, ne_eq, not_false_eq_true, if_true]
    exact Or.inl ⟨.throughFile, fun rest => rfl⟩

/-- A path that leads to something leads to the place that it reads as, and a file that it leads to
stands there. -/
theorem walk_found {p : Path} {e' : Entry} (h : d.walk place e parts = .found p e')
    (he : e = .directory ∨ d.at? place = some e) :
    p = ⟨"/", placeFrom place parts⟩ ∧ (e' = .directory ∨ d.at? (placeFrom place parts) = some e') := by
  induction parts generalizing place e with
  | nil =>
      cases h
      exact ⟨rfl, he⟩
  | cons c rest ih =>
      obtain ⟨obstacle, hstep⟩ | ⟨e', hstands, hstep⟩ | ⟨-, hstep⟩ := walk_step d place e c
      · rw [hstep] at h
        cases h
      · rw [hstep] at h
        exact ih h hstands
      · rw [hstep] at h
        split at h <;> cases h

/-- A path that leads to a free place leads to the one that it reads as. -/
theorem walk_free {p : Path} (h : d.walk place e parts = .free p) :
    p = ⟨"/", placeFrom place parts⟩ ∧ d.at? (placeFrom place parts) = none := by
  induction parts generalizing place e with
  | nil => cases h
  | cons c rest ih =>
      obtain ⟨obstacle, hstep⟩ | ⟨e', -, hstep⟩ | ⟨hnone, hstep⟩ := walk_step d place e c
      · rw [hstep] at h
        cases h
      · rw [hstep] at h
        exact ih h
      · rw [hstep] at h
        split at h
        · next hrest =>
            subst hrest
            cases h
            exact ⟨rfl, hnone⟩
        · cases h

/-- A path is walked one part after the other. -/
theorem walk_append {xs ys : List String} {p : Path} {e' : Entry}
    (h : d.walk place e xs = .found p e') : d.walk place e (xs ++ ys) = d.walk p.parts e' ys := by
  induction xs generalizing place e with
  | nil =>
      cases h
      rfl
  | cons c xs ih =>
      obtain ⟨obstacle, hstep⟩ | ⟨e', -, hstep⟩ | ⟨-, hstep⟩ := walk_step d place e c
      · rw [hstep] at h
        cases h
      · rw [hstep] at h
        rw [List.cons_append, hstep]
        exact ih h
      · rw [hstep] at h
        split at h <;> cases h

/-- What leads on from somewhere has led there, and a directory stands there. -/
theorem walk_of_append (xs : List String) {ys : List String} (hys : ys ≠ [])
    (h : ∀ obstacle, d.walk place e (xs ++ ys) ≠ .lost obstacle) :
    ∃ p, d.walk place e xs = .found p .directory := by
  induction xs generalizing place e with
  | nil =>
      obtain ⟨c, ys, rfl⟩ := List.exists_cons_of_ne_nil hys
      rw [List.nil_append, walk_cons] at h
      split at h
      · exact absurd rfl (h _)
      · next he => exact ⟨_, by rw [walk_nil, not_not.mp he]⟩
  | cons c xs ih =>
      rw [List.cons_append] at h
      obtain ⟨obstacle, hstep⟩ | ⟨e', -, hstep⟩ | ⟨-, hstep⟩ := walk_step d place e c
      · exact absurd (hstep _) (h obstacle)
      · rw [hstep] at h
        rw [hstep]
        exact ih h
      · have hne : xs ++ ys ≠ [] := List.append_ne_nil_of_right_ne_nil xs hys
        rw [hstep, if_neg hne] at h
        exact absurd rfl (h _)

theorem not_mem_place_from (hplace : ".." ∉ place) (parts : List String) :
    ".." ∉ placeFrom place parts := by
  induction parts generalizing place with
  | nil => exact hplace
  | cons c rest ih =>
      rw [← List.singleton_append, place_from_append]
      refine ih ?_
      by_cases hc : c = ".."
      · rw [hc, place_from_up]
        exact fun hmem => hplace (List.dropLast_subset place hmem)
      · rw [place_from_down place hc]
        simpa [hplace] using Ne.symm hc

end Walking

section Finding

variable {d : Disk} {p place : Path} {e : Entry}

theorem locate_parts (d : Disk) (p : Path) : (d.locate p).parts = placeFrom [] (d.cwd.join p).parts :=
  rfl

/-- Names below a path lead on from where the path leads. -/
theorem locate_join (d : Disk) (base : Path) {rest : List String} (hrest : ".." ∉ rest) :
    (d.locate (base.join ⟨"", rest⟩)).parts = (d.locate base).parts ++ rest := by
  rw [locate_parts, Path.join_join_parts, place_from_append, place_from_straight hrest, locate_parts]

theorem not_mem_locate (d : Disk) (p : Path) : ".." ∉ (d.locate p).parts :=
  not_mem_place_from (List.not_mem_nil) _

theorem find_of_fits (h : Fits p) : d.find p = d.walk [] .directory (d.cwd.join p).parts := by
  have hnull : ¬p.toText.toList.contains '\x00' := by simpa using h.1
  rw [find, if_neg hnull, if_neg (Nat.not_lt.mpr h.2)]
  rfl

theorem fits_of_find (h : ∀ obstacle, d.find p ≠ .lost obstacle) : Fits p := by
  unfold find at h
  dsimp only at h
  split at h
  · exact absurd rfl (h _)
  · next hnull =>
      split at h
      · exact absurd rfl (h _)
      · next hsize => exact ⟨by simpa using hnull, Nat.not_lt.mp hsize⟩

/-- A path that leads to something leads to the place that it reads as. -/
theorem find_found (h : d.find p = .found place e) :
    place = ⟨"/", (d.locate p).parts⟩ ∧ (e = .directory ∨ d.at? (d.locate p).parts = some e) := by
  have hfits : Fits p := fits_of_find fun obstacle hlost => by
    rw [h] at hlost
    cases hlost
  rw [find_of_fits hfits] at h
  exact walk_found h (Or.inl rfl)

theorem find_free (h : d.find p = .free place) :
    place = ⟨"/", (d.locate p).parts⟩ ∧ d.at? (d.locate p).parts = none := by
  have hfits : Fits p := fits_of_find fun obstacle hlost => by
    rw [h] at hlost
    cases hlost
  rw [find_of_fits hfits] at h
  exact walk_free h

/-- What is looked up at a path is the entry there. -/
theorem entry_of_look {e : Option Entry} (h : d.look p = .ok e) : d.entry? p = e := by
  unfold look at h
  unfold entry?
  split at h
  · next hfind =>
      cases h
      rw [hfind]
  · cases h
  · next hfound hlong =>
      cases h
      split
      · next hfind => exact absurd hfind (hfound _ _)
      · rfl

end Finding

/-- A disk on which something is put at one place, and nothing else is changed. -/
structure Puts (place : List String) (e : Entry) (d d' : Disk) : Prop where
  cwd : d'.cwd = d.cwd
  proper : d'.IsProper
  at_eq : ∀ q, d'.at? q = if q = place then some e else d.at? q

/-- A disk on which directories are made where nothing stood, and nothing else is changed. -/
structure AddsDirectories (d d' : Disk) : Prop where
  cwd : d'.cwd = d.cwd
  proper : d'.IsProper
  at_eq : ∀ q, d'.at? q = d.at? q ∨ d.at? q = none ∧ d'.at? q = some .directory

/-- A disk on which some of what stood at a place or below it is gone, and nothing else is
changed. -/
structure Removes (place : List String) (d d' : Disk) : Prop where
  cwd : d'.cwd = d.cwd
  proper : d'.IsProper
  at_le : ∀ q e, d'.at? q = some e → d.at? q = some e
  at_eq : ∀ q, ¬place <+: q → d'.at? q = d.at? q

section Changes

variable {d d' d'' : Disk} {place : List String} {e : Entry} {p : Path}

theorem IsProper.path_eq (hd : d.IsProper) {entry : Path × Entry} (hentry : entry ∈ d.entries) :
    entry.1 = ⟨"/", entry.1.parts⟩ := by
  have hroot := (hd entry hentry).1
  obtain ⟨⟨root, parts⟩, e⟩ := entry
  cases hroot
  rfl

theorem IsProper.eq_iff (hd : d.IsProper) {entry : Path × Entry} (hentry : entry ∈ d.entries)
    (place : List String) : entry.1 = ⟨"/", place⟩ ↔ entry.1.parts = place := by
  rw [hd.path_eq hentry]
  simp

/-- Entries that are left out stand nowhere, and the others stand where they stood. -/
theorem at_filter (hd : d.IsProper) (keep : Path → Bool) (q : List String) :
    ({ d with entries := d.entries.filter fun entry => keep entry.1 } : Disk).at? q =
      if keep ⟨"/", q⟩ then d.at? q else none := by
  have hpath : ∀ entry ∈ d.entries, entry.1.parts = q → entry.1 = ⟨"/", q⟩ :=
    fun entry hentry => (hd.eq_iff hentry q).mpr
  unfold at?
  dsimp only
  generalize d.entries = entries at hpath
  induction entries with
  | nil => simp
  | cons entry entries ih =>
      obtain ⟨hfirst, hrest⟩ := List.forall_mem_cons.mp hpath
      have hlater := ih hrest
      by_cases hq : entry.1.parts = q
      · have hentry := hfirst hq
        cases hkeep : keep ⟨"/", q⟩ with
        | true => simp [hentry, hkeep]
        | false =>
            rw [hkeep] at hlater
            simpa [hentry, hkeep] using hlater
      · rw [List.find?_cons_of_neg (by simpa using hq), ← hlater, List.filter_cons]
        split
        · rw [List.find?_cons_of_neg (by simpa using hq)]
        · rfl

theorem is_proper_filter (hd : d.IsProper) (keep : Path → Bool) :
    ({ d with entries := d.entries.filter fun entry => keep entry.1 } : Disk).IsProper :=
  fun entry hentry => hd entry (List.mem_of_mem_filter hentry)

/-- What is put at a place stands there, and everything else stands where it stood. -/
theorem at_put (hd : d.IsProper) (place : List String) (e : Entry) (q : List String) :
    (d.put ⟨"/", place⟩ e).at? q = if q = place then some e else d.at? q := by
  unfold put
  split
  · next hany =>
      unfold at?
      dsimp only
      rw [List.find?_map]
      have hsame : ((fun entry : Path × Entry => entry.1.parts == q) ∘ fun (entry : Path × Entry) =>
          if entry.1 == ⟨"/", place⟩ then (entry.1, e) else (entry.1, entry.2)) =
          fun entry => entry.1.parts == q := by
        funext entry
        dsimp only [Function.comp_apply]
        split <;> rfl
      rw [hsame]
      cases hfound : d.entries.find? (fun entry => entry.1.parts == q) with
      | none =>
          obtain ⟨entry, hentry, heq⟩ := List.any_eq_true.mp hany
          have hne : q ≠ place := by
            rintro rfl
            refine List.find?_eq_none.mp hfound entry hentry ?_
            rw [eq_of_beq heq]
            exact beq_self_eq_true q
          rw [if_neg hne]
          rfl
      | some entry =>
          have hmatch := List.find?_some hfound
          have hq : entry.1.parts = q := eq_of_beq hmatch
          have hiff := hd.eq_iff (List.mem_of_find?_eq_some hfound) place
          rw [hq] at hiff
          simp only [Option.map_some, beq_iff_eq, hiff]
          split <;> rfl
  · next hany =>
      have hnone : d.entries.find? (·.1.parts == place) = none := by
        rw [List.find?_eq_none]
        intro entry hentry hparts
        refine hany (List.any_eq_true.mpr ⟨entry, hentry, ?_⟩)
        exact beq_iff_eq.mpr ((hd.eq_iff hentry place).mpr (eq_of_beq hparts))
      unfold at?
      dsimp only
      rw [List.find?_append]
      split
      · next hq =>
          subst hq
          rw [hnone]
          simp
      · next hq =>
          have hlast : [((⟨"/", place⟩ : Path), e)].find? (·.1.parts == q) = none := by
            simp [Ne.symm hq]
          rw [hlast, Option.or_none]

theorem puts_put (hd : d.IsProper) (hplace : ".." ∉ place) (e : Entry) :
    Puts place e d (d.put ⟨"/", place⟩ e) := by
  refine ⟨?_, ?_, at_put hd place e⟩
  · unfold put
    split <;> rfl
  · unfold put
    split
    · intro entry hentry
      obtain ⟨old, hold, rfl⟩ := List.mem_map.mp hentry
      dsimp only
      split <;> exact hd old hold
    · intro entry hentry
      rcases List.mem_append.mp hentry with hentry | hentry
      · exact hd entry hentry
      · rw [List.mem_singleton.mp hentry]
        exact ⟨rfl, hplace⟩

theorem AddsDirectories.refl (hd : d.IsProper) : AddsDirectories d d :=
  ⟨rfl, hd, fun _ => Or.inl rfl⟩

theorem AddsDirectories.trans (hfirst : AddsDirectories d d') (hsecond : AddsDirectories d' d'') :
    AddsDirectories d d'' := by
  refine ⟨hsecond.cwd.trans hfirst.cwd, hsecond.proper, fun q => ?_⟩
  rcases hsecond.at_eq q with hq | ⟨hnone, hmade⟩
  · rw [hq]
    exact hfirst.at_eq q
  · rcases hfirst.at_eq q with hq | ⟨-, hmade'⟩
    · exact Or.inr ⟨hq ▸ hnone, hmade⟩
    · rw [hnone] at hmade'
      cases hmade'

theorem Puts.adds_directories (h : Puts place .directory d d') (hnone : d.at? place = none) :
    AddsDirectories d d' := by
  refine ⟨h.cwd, h.proper, fun q => ?_⟩
  rw [h.at_eq]
  split
  · next hq =>
      subst hq
      exact Or.inr ⟨hnone, rfl⟩
  · exact Or.inl rfl

theorem adds_directories_make_directory (hd : d.IsProper) (p : Path) :
    AddsDirectories d (d.makeDirectory p).2 := by
  unfold makeDirectory
  split
  · exact AddsDirectories.refl hd
  · exact AddsDirectories.refl hd
  · next hfree =>
      obtain ⟨rfl, hnone⟩ := find_free hfree
      exact (puts_put hd (not_mem_locate d p) .directory).adds_directories hnone
  · exact AddsDirectories.refl hd

theorem adds_directories_make_directories_within (hd : d.IsProper) (p : Path) (rest : Nat) :
    AddsDirectories d (d.makeDirectoriesWithin p rest).2 := by
  induction rest generalizing p with
  | zero => exact adds_directories_make_directory hd p
  | succ rest ih =>
      unfold makeDirectoriesWithin
      split
      · have hparent := ih p.parent
        split
        · next d' hmade =>
            rw [hmade] at hparent
            exact hparent.trans (adds_directories_make_directory hparent.proper p)
        · next t d' hmade =>
            rw [hmade] at hparent
            exact hparent
      · exact adds_directories_make_directory hd p

theorem adds_directories_make_directories (hd : d.IsProper) (p : Path) :
    AddsDirectories d (d.makeDirectories p).2 :=
  adds_directories_make_directories_within hd p _

/-- Writing leaves the disk as it is, or puts a file where a file or nothing stood. -/
theorem write_cases (hd : d.IsProper) (p : Path) (content : List UInt8) :
    (∃ t, d.write p content = (.error t, d)) ∨
    ∃ d', d.write p content = (.ok (), d') ∧ Puts (d.locate p).parts (.file content) d d' ∧
      d.at? (d.locate p).parts ≠ some .directory ∧ ∀ obstacle, d.find p ≠ .lost obstacle := by
  have hputs := puts_put hd (not_mem_locate d p) (.file content)
  unfold write
  split
  · next hfound =>
      obtain ⟨rfl, hfile⟩ := find_found hfound
      refine Or.inr ⟨_, rfl, hputs, ?_, fun obstacle hlost => by rw [hfound] at hlost; cases hlost⟩
      rcases hfile with hfile | hfile
      · cases hfile
      · rw [hfile]
        nofun
  · exact Or.inl ⟨_, rfl⟩
  · next hfree =>
      obtain ⟨rfl, hnone⟩ := find_free hfree
      refine Or.inr ⟨_, rfl, hputs, ?_, fun obstacle hlost => by rw [hfree] at hlost; cases hlost⟩
      rw [hnone]
      nofun
  · exact Or.inl ⟨_, rfl⟩

theorem Removes.refl (hd : d.IsProper) (place : List String) : Removes place d d :=
  ⟨rfl, hd, fun _ _ => id, fun _ _ => rfl⟩

theorem Removes.trans (hfirst : Removes place d d') (hsecond : Removes place d' d'') :
    Removes place d d'' :=
  ⟨hsecond.cwd.trans hfirst.cwd, hsecond.proper,
    fun q e h => hfirst.at_le q e (hsecond.at_le q e h),
    fun q hq => (hsecond.at_eq q hq).trans (hfirst.at_eq q hq)⟩

theorem removes_filter (hd : d.IsProper) (keep : Path → Bool)
    (hkeep : ∀ q, ¬place <+: q → keep ⟨"/", q⟩ = true) :
    Removes place d { d with entries := d.entries.filter fun entry => keep entry.1 } := by
  refine ⟨rfl, is_proper_filter hd keep, fun q e h => ?_, fun q hq => ?_⟩
  · rw [at_filter hd] at h
    split at h
    · exact h
    · cases h
  · rw [at_filter hd, hkeep q hq, if_pos rfl]

/-- A disk without what stands at one place. -/
theorem removes_place (hd : d.IsProper) (place : List String) :
    Removes place d { d with entries := d.entries.filter (·.1 != ⟨"/", place⟩) } ∧
      ({ d with entries := d.entries.filter (·.1 != ⟨"/", place⟩) } : Disk).at? place = none := by
  refine ⟨removes_filter hd (· != ⟨"/", place⟩) fun q hq => ?_, ?_⟩
  · have hne : q ≠ place := by
      rintro rfl
      exact hq (List.prefix_refl q)
    simpa using hne
  · rw [at_filter hd (· != ⟨"/", place⟩)]
    simp

/-- Removing a file leaves the disk as it is, or nothing stands at the path afterwards. -/
theorem remove_cases (hd : d.IsProper) (p : Path) :
    (∃ t, d.remove p = (.error t, d)) ∨
    ∃ d', d.remove p = (.ok (), d') ∧ Removes (d.locate p).parts d d' ∧
      d'.at? (d.locate p).parts = none ∧ ∀ obstacle, d.find p ≠ .lost obstacle := by
  unfold remove
  split
  · next hfound =>
      obtain ⟨hremoves, hnone⟩ := removes_place hd (d.locate p).parts
      rw [(find_found hfound).1]
      refine Or.inr ⟨_, rfl, hremoves, hnone, fun obstacle hlost => ?_⟩
      cases hlost.symm.trans hfound
  · exact Or.inl ⟨_, rfl⟩
  · exact Or.inl ⟨_, rfl⟩
  · exact Or.inl ⟨_, rfl⟩

theorem remove_directory_cases (hd : d.IsProper) (p : Path) :
    (∃ t, d.removeDirectory p = (.error t, d)) ∨
    ∃ d', d.removeDirectory p = (.ok (), d') ∧ Removes (d.locate p).parts d d' ∧
      d'.at? (d.locate p).parts = none := by
  unfold removeDirectory
  split
  · next hfound =>
      obtain ⟨rfl, -⟩ := find_found hfound
      split
      · exact Or.inl ⟨_, rfl⟩
      · split
        · exact Or.inl ⟨_, rfl⟩
        · exact Or.inr ⟨_, rfl, removes_place hd _⟩
  · exact Or.inl ⟨_, rfl⟩
  · exact Or.inl ⟨_, rfl⟩
  · exact Or.inl ⟨_, rfl⟩

/-- A disk without what stands below a place. -/
theorem removes_within (hd : d.IsProper) {within : Path} (hwithin : within = ⟨"/", place⟩) :
    Removes place d { d with entries := d.entries.filter fun entry =>
      entry.1 == within || !isWithin within entry.1 } ∧
    ∀ q, place <+: q → ({ d with entries := d.entries.filter fun entry =>
      entry.1 == within || !isWithin within entry.1 } : Disk).at? q =
        if q = place then d.at? place else none := by
  have hiff : ∀ q, isWithin within ⟨"/", q⟩ = true ↔ place <+: q := by
    intro q
    rw [hwithin, isWithin, beq_self_eq_true, Bool.true_and, List.isPrefixOf_iff_prefix]
  refine ⟨removes_filter hd (fun q => q == within || !isWithin within q) fun q hq => ?_,
    fun q hq => ?_⟩
  · rw [Bool.eq_false_iff.mpr (mt (hiff q).mp hq), Bool.not_false, Bool.or_true]
  · rw [at_filter hd fun q => q == within || !isWithin within q, (hiff q).mpr hq, hwithin]
    by_cases heq : q = place
    · simp [heq]
    · simp [heq]

/-- Removing a directory takes away what stands there and below, all of it if it succeeds. -/
theorem remove_tree_cases (hd : d.IsProper) (p : Path) :
    Removes (d.locate p).parts d (d.removeTree p).2 ∧
      ((d.removeTree p).1 = .ok () →
        ∀ q, (d.locate p).parts <+: q → (d.removeTree p).2.at? q = none) := by
  unfold removeTree
  split
  · next place hfound =>
      -- What is in the directory goes first, and then the directory itself.
      obtain ⟨hempty, hgone⟩ := removes_within hd (find_found hfound).1
      dsimp only
      rcases remove_directory_cases hempty.proper p with ⟨t, hkept⟩ | ⟨d', hremoved, hremoves, hnone⟩
      · rw [hkept]
        exact ⟨hempty, nofun⟩
      · rw [hremoved]
        refine ⟨hempty.trans hremoves, fun _ q hq => ?_⟩
        by_cases heq : q = (d.locate p).parts
        · rw [heq]
          exact hnone
        · cases hat : d'.at? q with
          | none => rfl
          | some e =>
              have hbefore := hremoves.at_le q e hat
              rw [hgone q hq, if_neg heq] at hbefore
              cases hbefore
  · exact ⟨Removes.refl hd _, nofun⟩
  · exact ⟨Removes.refl hd _, nofun⟩
  · exact ⟨Removes.refl hd _, nofun⟩

end Changes

/-- What stands in a directory stands one component below the path to it. -/
theorem exists_of_mem_list {d : Disk} (hd : d.IsProper) {p q : Path} (hq : q ∈ d.list p) :
    ∃ c, q = p.join ⟨"", [c]⟩ ∧ c ≠ ".." := by
  obtain ⟨hbelow, hlength⟩ := List.mem_filter.mp hq
  unfold below at hbelow
  split at hbelow
  · next place hfound =>
      obtain ⟨⟨r, e⟩, hentry, hr⟩ := List.mem_filterMap.mp (List.mem_mergeSort.mp hbelow)
      dsimp only at hr
      split at hr
      · cases hr
      · obtain ⟨rest, hrest, rfl⟩ := Option.map_eq_some_iff.mp hr
        unfold Path.below? at hrest
        split at hrest
        · cases hrest
          have hone : (r.parts.drop place.parts.length).length = 1 := by
            simpa [Path.join, Path.isAbsolute] using hlength
          obtain ⟨c, hc⟩ := List.length_eq_one_iff.mp hone
          refine ⟨c, by rw [hc], ?_⟩
          rintro rfl
          have hmem : ".." ∈ r.parts := List.mem_of_mem_drop (by rw [hc]; exact List.mem_singleton_self _)
          exact (hd _ hentry).2 hmem
        · cases hrest
  · cases hbelow

end ComponentMigration.Disk
