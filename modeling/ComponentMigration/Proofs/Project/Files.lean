import Mathlib.Data.List.Nodup
import ComponentMigration.Project.Files
import ComponentMigration.Proofs.Number.Rounding
import ComponentMigration.Proofs.Path
import ComponentMigration.Proofs.Run.Disk
import ComponentMigration.Proofs.Run.Exec

/-!
# Which files of a project are looked at

The files below a root come in the order of their paths (`pairwise_sorted_paths`), and a scan takes
the first ones of those that are wanted, up to the limit (`take_files_eq`).  Whatever the settings
are, a scan that succeeds has found what `ScanOf` says, and with settings that can be used it succeeds
(`scan_files_eq`, `exists_scan_files`).
-/

namespace ComponentMigration

section Below

variable {d : Disk} {root : Path}

/-- A disk whose entries stand at distinct places, under names without slashes. -/
structure Disk.IsTree (d : Disk) : Prop where
  proper : d.IsProper
  distinct : (d.entries.map Prod.fst).Nodup
  names : ∀ entry ∈ d.entries, ∀ part ∈ entry.1.parts, '/' ∉ part.toList

theorem is_tree_filter (hd : d.IsTree) (keep : Path → Bool) :
    ({ d with entries := d.entries.filter fun entry => keep entry.1 } : Disk).IsTree where
  proper := Disk.is_proper_filter hd.proper keep
  distinct := (List.filter_sublist.map Prod.fst).nodup hd.distinct
  names entry hentry := hd.names entry (List.mem_of_mem_filter hentry)

theorem is_directory_iff :
    d.isDirectory root = true ↔ d.find root = .found ⟨"/", (d.locate root).parts⟩ .directory := by
  rw [Disk.isDirectory, Disk.entry?, beq_iff_eq]
  constructor
  · intro h
    split at h
    · next place e hfound =>
        cases Option.some.inj h
        rw [hfound, (Disk.find_found hfound).1]
    · cases h
  · intro h
    rw [h]

/-- Where a path leads below a root if it stands below the place of the root. -/
def pathBelow (place : List String) (root q : Path) : Option Path :=
  if q == ⟨"/", place⟩ then none else (Path.below? ⟨"/", place⟩ q).map root.join

theorem below_eq (h : d.isDirectory root = true) :
    d.below root =
      ((d.entries.map Prod.fst).filterMap (pathBelow (d.locate root).parts root)).mergeSort Path.le := by
  rw [Disk.below, is_directory_iff.1 h, List.filterMap_map]
  rfl

theorem below_of_not_directory (h : d.isDirectory root = false) : d.below root = [] := by
  unfold Disk.below
  split
  · next place hfound =>
      rw [(Disk.find_found hfound).1] at hfound
      rw [is_directory_iff.2 hfound] at h
      cases h
  · rfl

theorem path_below_eq_some {place : List String} {q p : Path} :
    pathBelow place root q = some p ↔
      ∃ rest ≠ [], q = ⟨"/", place ++ rest⟩ ∧ p = root.join ⟨"", rest⟩ := by
  have hplace : ∀ rest : List String,
      ⟨"/", place ++ rest⟩ = (⟨"/", place⟩ : Path) ↔ rest = [] := fun rest => by simp
  unfold pathBelow
  constructor
  · intro h
    split at h
    · cases h
    · next hne =>
        obtain ⟨rel, hrel, rfl⟩ := Option.map_eq_some_iff.mp h
        obtain ⟨rest, rfl, rfl⟩ := below_eq_some.mp hrel
        rw [join_relative, beq_iff_eq, hplace] at hne
        exact ⟨rest, hne, join_relative _ _, rfl⟩
  · rintro ⟨rest, hrest, rfl, rfl⟩
    rw [if_neg (by rw [beq_iff_eq, hplace]; exact hrest),
      below_eq_some.mpr ⟨rest, rfl, (join_relative _ _).symm⟩, Option.map_some]

/-- What stands below a directory extends the path to it by the names that lead to an entry. -/
theorem mem_below (h : d.isDirectory root = true) {p : Path} :
    p ∈ d.below root ↔ ∃ rest ≠ [], p = root.join ⟨"", rest⟩ ∧
      ⟨"/", (d.locate root).parts ++ rest⟩ ∈ d.entries.map Prod.fst := by
  rw [below_eq h, List.mem_mergeSort, List.mem_filterMap]
  constructor
  · rintro ⟨q, hq, hp⟩
    obtain ⟨rest, hrest, rfl, rfl⟩ := path_below_eq_some.1 hp
    exact ⟨rest, hrest, rfl, hq⟩
  · rintro ⟨rest, hrest, rfl, hq⟩
    exact ⟨_, hq, path_below_eq_some.2 ⟨rest, hrest, rfl, rfl⟩⟩

theorem nodup_below (hd : d.IsTree) (root : Path) : (d.below root).Nodup := by
  cases h : d.isDirectory root with
  | false =>
      rw [below_of_not_directory h]
      exact List.nodup_nil
  | true =>
      rw [below_eq h, (List.mergeSort_perm _ _).nodup_iff]
      refine hd.distinct.filterMap fun q q' p hq hq' => ?_
      obtain ⟨rest, -, rfl, rfl⟩ := path_below_eq_some.1 hq
      obtain ⟨rest', -, rfl, hrest⟩ := path_below_eq_some.1 hq'
      rw [join_relative_inj.mp hrest]

theorem pairwise_below (d : Disk) (root : Path) :
    (d.below root).Pairwise fun p q => Path.le p q = true := by
  unfold Disk.below
  split
  · exact pairwise_sorted_paths _
  · exact .nil

end Below

section Candidates

variable {d : Disk} {root : Path} {skipped : List String}

/-- The files that come into question, as paths and as seen from the root. -/
theorem mem_candidate_files (h : d.isDirectory root = true) {p rel : Path} :
    (p, rel) ∈ candidateFiles skipped d root ↔
      ∃ rest ≠ [], p = root.join ⟨"", rest⟩ ∧ rel = ⟨"", rest⟩ ∧
        ⟨"/", (d.locate root).parts ++ rest⟩ ∈ d.entries.map Prod.fst ∧
        (∀ part ∈ rest.dropLast, part ∉ skipped) ∧ d.isFile p = true := by
  have hskip : ∀ rest : List String, (!rest.dropLast.any skipped.contains) = true ↔
      ∀ part ∈ rest.dropLast, part ∉ skipped := by
    intro rest
    simp
  rw [candidateFiles, List.mem_filter, List.mem_filterMap]
  dsimp only
  rw [Bool.and_eq_true]
  constructor
  · rintro ⟨⟨q, hq, hpair⟩, hpath, hfile⟩
    obtain ⟨rel', hrel, heq⟩ := Option.map_eq_some_iff.mp hpair
    obtain ⟨rfl, rfl⟩ := Prod.mk.inj heq
    obtain ⟨rest, hrest, hq, hentry⟩ := (mem_below h).mp hq
    rw [hq] at hrel
    obtain ⟨rest', rfl, hsame⟩ := below_eq_some.mp hrel
    obtain rfl := join_relative_inj.mp hsame
    exact ⟨rest, hrest, hq, rfl, hentry, (hskip rest).mp hpath, hfile⟩
  · rintro ⟨rest, hrest, rfl, rfl, hentry, hpath, hfile⟩
    refine ⟨⟨_, (mem_below h).mpr ⟨rest, hrest, rfl, hentry⟩, ?_⟩, (hskip rest).mpr hpath, hfile⟩
    rw [below_eq_some.mpr ⟨rest, rfl, rfl⟩, Option.map_some]

theorem candidate_files_sublist (skipped : List String) (d : Disk) (root : Path) :
    ((candidateFiles skipped d root).map Prod.fst).Sublist (d.below root) := by
  have hpairs : ∀ paths : List Path,
      ((paths.filterMap fun p => (Path.below? root p).map fun rel => (p, rel)).map Prod.fst).Sublist
        paths := by
    intro paths
    induction paths with
    | nil => exact List.Sublist.refl _
    | cons p paths ih =>
        rw [List.filterMap_cons]
        cases Path.below? root p with
        | none => exact ih.cons p
        | some rel => exact ih.cons_cons p
  exact (List.filter_sublist.map Prod.fst).trans (hpairs _)

end Candidates

section Patterns

variable {fits : String → Bool} {patterns : List (Usable String)}

/-- The texts among patterns. -/
def patternTexts (patterns : List (Usable String)) : List String := patterns.filterMap Except.toOption

/-- One of several patterns fits exactly if one of their texts does, whatever else is among them. -/
theorem any_pattern_eq_ok {b : Bool} (h : anyPattern fits patterns = .ok b) :
    b = (patternTexts patterns).any fits := by
  induction patterns with
  | nil =>
      cases h
      rfl
  | cons pattern rest ih =>
      obtain ⟨text, rfl, hrest⟩ := bind_eq_ok.mp h
      have htexts : patternTexts (.ok text :: rest) = text :: patternTexts rest := rfl
      rw [htexts, List.any_cons]
      split at hrest
      · next hfits =>
          cases hrest
          rw [hfits, Bool.true_or]
      · next hfits => rw [ih hrest, Bool.eq_false_iff.mpr hfits, Bool.false_or]

theorem any_pattern_of_usable (h : ∀ pattern ∈ patterns, ∃ text, pattern = .ok text) :
    ∃ b, anyPattern fits patterns = .ok b := by
  induction patterns with
  | nil => exact ⟨false, rfl⟩
  | cons pattern rest ih =>
      obtain ⟨⟨text, rfl⟩, hrest⟩ := List.forall_mem_cons.mp h
      obtain ⟨b, hb⟩ := ih hrest
      by_cases hfits : fits text = true
      · exact ⟨true, bind_eq_ok.mpr ⟨text, rfl, if_pos hfits⟩⟩
      · exact ⟨b, bind_eq_ok.mpr ⟨text, rfl, by rw [if_neg hfits, hb]⟩⟩

end Patterns

namespace DiscoverySettings

variable {options : DiscoverySettings} {rel : Path}

/-- The texts among the include patterns. -/
def included (options : DiscoverySettings) : List String :=
  patternTexts (options.includePatterns.toOption.getD [])

/-- The texts among the exclude patterns. -/
def excluded (options : DiscoverySettings) : List String :=
  patternTexts (options.excludePatterns.toOption.getD [])

/-- The directories that are skipped. -/
def skipped (options : DiscoverySettings) : List String := options.skipDirs.toOption.getD []

/-- A file is wanted by its path below the root: its name matches an include pattern, and neither its
name nor its path matches an exclude pattern. -/
def wants (options : DiscoverySettings) (rel : Path) : Bool :=
  options.included.any (Text.globMatches rel.name) &&
    !options.excluded.any fun p => Text.globMatches rel.name p || Text.globMatches rel.toText p

/-- Settings that can be used. -/
structure IsUsable (options : DiscoverySettings) : Prop where
  included : ∃ patterns, options.includePatterns = .ok patterns ∧
    ∀ pattern ∈ patterns, ∃ text, pattern = .ok text
  excluded : ∃ patterns, options.excludePatterns = .ok patterns ∧
    ∀ pattern ∈ patterns, ∃ text, pattern = .ok text
  skipped : ∃ directories, options.skipDirs = .ok directories
  limit : ∃ limit, options.maxFiles = .ok limit

/-- If it can be told whether a file is looked at, it is exactly if it is wanted. -/
theorem includes_eq_ok {b : Bool} (h : options.includes rel = .ok b) : b = options.wants rel := by
  obtain ⟨included, hincluded, h⟩ := bind_eq_ok.mp h
  obtain ⟨fits, hfits, h⟩ := bind_eq_ok.mp h
  have hwants : options.included = patternTexts included := by
    rw [DiscoverySettings.included, hincluded]
    rfl
  rw [wants, hwants, ← any_pattern_eq_ok hfits]
  cases fits with
  | false =>
      cases h
      rfl
  | true =>
      obtain ⟨excluded, hexcluded, h⟩ := bind_eq_ok.mp h
      obtain ⟨unfit, hunfit, h⟩ := bind_eq_ok.mp h
      have hrefuses : options.excluded = patternTexts excluded := by
        rw [DiscoverySettings.excluded, hexcluded]
        rfl
      rw [hrefuses, ← any_pattern_eq_ok hunfit]
      cases h
      rfl

theorem includes_of_usable (h : options.IsUsable) (rel : Path) :
    ∃ b, options.includes rel = .ok b := by
  obtain ⟨included, hincluded, hfirst⟩ := h.included
  obtain ⟨excluded, hexcluded, hsecond⟩ := h.excluded
  obtain ⟨fits, hfits⟩ : ∃ b, anyPattern (Text.globMatches rel.name) included = .ok b :=
    any_pattern_of_usable hfirst
  obtain ⟨unfit, hunfit⟩ : ∃ b, anyPattern
      (fun p => Text.globMatches rel.name p || Text.globMatches rel.toText p) excluded = .ok b :=
    any_pattern_of_usable hsecond
  cases fits with
  | false => exact ⟨false, bind_eq_ok.mpr ⟨included, hincluded, bind_eq_ok.mpr ⟨false, hfits, rfl⟩⟩⟩
  | true =>
      exact ⟨!unfit, bind_eq_ok.mpr ⟨included, hincluded, bind_eq_ok.mpr ⟨true, hfits,
        bind_eq_ok.mpr ⟨excluded, hexcluded, bind_eq_ok.mpr ⟨unfit, hunfit, rfl⟩⟩⟩⟩⟩

end DiscoverySettings

section Taking

open DiscoverySettings

variable {options : DiscoverySettings} {root : Path} {candidates : List (Path × Path)}
  {count : Nat} {limit : Quantity} {found : List Path × List DiscoveryIssue}

/-- The number of items that a limit lets pass after some others: as few as it takes to reach it. -/
structure IsCut (limit : Quantity) (count total k : Nat) : Prop where
  le : k ≤ total
  below : ∀ j < k, limit.isAtMost (.whole (count + j : Nat)) = false
  reached : k < total → limit.isAtMost (.whole (count + k : Nat)) = true

/-- The candidates that are wanted. -/
def wantedOf (options : DiscoverySettings) (candidates : List (Path × Path)) : List Path :=
  (candidates.filter fun c => options.wants c.2).map Prod.fst

theorem wanted_of_cons (options : DiscoverySettings) (p rel : Path) (rest : List (Path × Path)) :
    wantedOf options ((p, rel) :: rest) =
      if options.wants rel then p :: wantedOf options rest else wantedOf options rest := by
  unfold wantedOf
  rw [List.filter_cons]
  split <;> rfl

theorem IsCut.unique {limit : Quantity} {count total k k' : Nat} (h : IsCut limit count total k)
    (h' : IsCut limit count total k') : k = k' := by
  have hle : ∀ {i j}, IsCut limit count total i → IsCut limit count total j → j ≤ i := by
    intro i j hi hj
    by_contra hlt
    have hreached := hi.reached (by have := hj.le; omega)
    rw [hj.below i (by omega)] at hreached
    cases hreached
  exact Nat.le_antisymm (hle h' h) (hle h h')

/-- One more item is let pass than after it. -/
theorem IsCut.succ {total k : Nat} (hfirst : limit.isAtMost (.whole count) = false)
    (h : IsCut limit (count + 1) total k) : IsCut limit count (total + 1) (k + 1) := by
  refine ⟨Nat.succ_le_succ h.le, fun j hj => ?_, fun hk => ?_⟩
  · cases j with
    | zero => exact hfirst
    | succ j =>
        have hbelow := h.below j (Nat.lt_of_succ_lt_succ hj)
        rwa [Nat.add_right_comm] at hbelow
  · have hreached := h.reached (Nat.lt_of_succ_lt_succ hk)
    rwa [Nat.add_right_comm] at hreached

/-- The first of the wanted files are taken, up to the limit, and if some are left out it is told. -/
theorem take_files_eq (hlimit : options.maxFiles = .ok limit)
    (h : takeFiles options root candidates count = .ok found) :
    ∃ k, IsCut limit count (wantedOf options candidates).length k ∧
      found = ((wantedOf options candidates).take k,
        if k < (wantedOf options candidates).length then [limitIssue root limit] else []) := by
  induction candidates generalizing count found with
  | nil =>
      cases h
      exact ⟨0, ⟨Nat.le_refl 0, nofun, nofun⟩, rfl⟩
  | cons candidate rest ih =>
      obtain ⟨p, rel⟩ := candidate
      obtain ⟨included, hincluded, h⟩ := bind_eq_ok.mp h
      have hwants := includes_eq_ok hincluded
      cases included with
      | false =>
          rw [wanted_of_cons, ← hwants]
          exact ih h
      | true =>
          rw [wanted_of_cons, ← hwants, if_pos rfl, List.length_cons]
          obtain ⟨limit', hlimit', h⟩ := bind_eq_ok.mp h
          obtain rfl := Except.ok.inj (hlimit.symm.trans hlimit')
          dsimp only at h
          split at h
          · next hreached =>
              cases h
              exact ⟨0, ⟨Nat.zero_le _, nofun, fun _ => hreached⟩, rfl⟩
          · next hbelow =>
              obtain ⟨⟨files, issues⟩, hlater, h⟩ := bind_eq_ok.mp h
              cases h
              obtain ⟨k, hcut, hfound⟩ := ih hlater
              obtain ⟨rfl, rfl⟩ := Prod.mk.inj hfound
              refine ⟨k + 1, hcut.succ (Bool.eq_false_iff.mpr hbelow), ?_⟩
              simp

/-- If there is no limit that can be used, nothing may be wanted. -/
theorem take_files_of_no_limit {trouble : Trouble} (hlimit : options.maxFiles = .error trouble)
    (h : takeFiles options root candidates count = .ok found) :
    wantedOf options candidates = [] ∧ found = ([], []) := by
  induction candidates with
  | nil =>
      cases h
      exact ⟨rfl, rfl⟩
  | cons candidate rest ih =>
      obtain ⟨p, rel⟩ := candidate
      obtain ⟨included, hincluded, h⟩ := bind_eq_ok.mp h
      have hwants := includes_eq_ok hincluded
      cases included with
      | false =>
          rw [wanted_of_cons, ← hwants]
          exact ih h
      | true =>
          obtain ⟨limit, hlimit', -⟩ := bind_eq_ok.mp h
          rw [hlimit] at hlimit'
          cases hlimit'

theorem exists_take_files (h : options.IsUsable) (root : Path) (candidates : List (Path × Path))
    (count : Nat) : ∃ found, takeFiles options root candidates count = .ok found := by
  obtain ⟨limit, hlimit⟩ := h.limit
  induction candidates generalizing count with
  | nil => exact ⟨([], []), rfl⟩
  | cons candidate rest ih =>
      obtain ⟨p, rel⟩ := candidate
      obtain ⟨included, hincluded⟩ := includes_of_usable h rel
      cases included with
      | false =>
          obtain ⟨found, hfound⟩ := ih count
          exact ⟨found, bind_eq_ok.mpr ⟨false, hincluded, hfound⟩⟩
      | true =>
          obtain ⟨⟨files, issues⟩, hfound⟩ := ih (count + 1)
          by_cases hreached : limit.isAtMost (.whole count) = true
          · exact ⟨([], [limitIssue root limit]), bind_eq_ok.mpr ⟨true, hincluded,
              bind_eq_ok.mpr ⟨limit, hlimit, if_pos hreached⟩⟩⟩
          · refine ⟨(p :: files, issues), bind_eq_ok.mpr ⟨true, hincluded,
              bind_eq_ok.mpr ⟨limit, hlimit, ?_⟩⟩⟩
            dsimp only
            rw [if_neg hreached]
            exact bind_eq_ok.mpr ⟨(files, issues), hfound, rfl⟩

/-- With settings that can be used the wanted files alone decide on what is taken. -/
theorem take_files_of_wanted (h : options.IsUsable) {candidates others : List (Path × Path)}
    (hwanted : wantedOf options others = wantedOf options candidates) (count : Nat) :
    takeFiles options root others count = takeFiles options root candidates count := by
  obtain ⟨limit, hlimit⟩ := h.limit
  obtain ⟨found, hfound⟩ := exists_take_files h root candidates count
  obtain ⟨found', hfound'⟩ := exists_take_files h root others count
  obtain ⟨k, hcut, hk⟩ := take_files_eq hlimit hfound
  obtain ⟨k', hcut', hk'⟩ := take_files_eq hlimit hfound'
  rw [hwanted] at hcut' hk'
  rw [hfound, hfound', hk, hk', hcut.unique hcut']

/-- A whole number lets as many items pass as it says, and none if it is not positive. -/
theorem IsCut.eq_min {n : Int} {total k : Nat} (h : IsCut (.whole n) 0 total k) :
    k = min n.toNat total := by
  have hbelow : ∀ j < k, (j : Int) < n := fun j hj => by
    have hlimit := h.below j hj
    rw [Nat.zero_add, ← Bool.not_eq_true, Quantity.is_at_most_whole_of_int rfl] at hlimit
    omega
  have hreached : k < total → n ≤ k := fun hk => by
    have hlimit := h.reached hk
    rwa [Nat.zero_add, Quantity.is_at_most_whole_of_int rfl] at hlimit
  have hle := h.le
  have hlast : 0 < k → ((k - 1 : Nat) : Int) < n := fun hk => hbelow (k - 1) (by omega)
  omega

end Taking

section Scanning

variable {options : DiscoverySettings} {context : RunContext} {s t : RunState} {root : Path}
  {found : List Path × List DiscoveryIssue}

/-- A file below a root is looked for: it stands in no skipped directory and is wanted. -/
structure IsWanted (options : DiscoverySettings) (d : Disk) (root : Path) (rest : List String) :
    Prop where
  path : rest ≠ [] ∧ ".." ∉ rest
  file : d.isFile (root.join ⟨"", rest⟩) = true
  place : ∀ part ∈ rest.dropLast, part ∉ options.skipped
  wanted : options.wants ⟨"", rest⟩ = true

/-- The files below a root that are looked for, each once and in the order of paths. -/
structure WantedFiles (options : DiscoverySettings) (d : Disk) (root : Path) (wanted : List Path) :
    Prop where
  distinct : wanted.Nodup
  ordered : wanted.Pairwise fun p q => Path.le p q = true
  mem : ∀ p, p ∈ wanted ↔ ∃ rest, p = root.join ⟨"", rest⟩ ∧ IsWanted options d root rest

/-- A file below a root is an entry of the disk. -/
theorem mem_entries_of_is_file {d : Disk} (hd : d.IsProper) {rest : List String} (h : ".." ∉ rest)
    (hfile : d.isFile (root.join ⟨"", rest⟩) = true) :
    ⟨"/", (d.locate root).parts ++ rest⟩ ∈ d.entries.map Prod.fst := by
  rw [← Disk.locate_join d root h]
  generalize root.join ⟨"", rest⟩ = p at hfile
  unfold Disk.isFile Disk.entry? at hfile
  split at hfile
  · next bytes hentry =>
      split at hentry
      · next place e hfound =>
          cases hentry
          obtain ⟨-, hdirectory | hat⟩ := Disk.find_found hfound
          · cases hdirectory
          · obtain ⟨entry, hentry, -⟩ := Option.map_eq_some_iff.mp hat
            have hparts := List.find?_some hentry
            have hmem := List.mem_of_find?_eq_some hentry
            exact List.mem_map.mpr ⟨entry, hmem, (hd.eq_iff hmem _).mpr (beq_iff_eq.mp hparts)⟩
      · cases hentry
  · cases hfile

theorem wanted_sublist (options : DiscoverySettings) (d : Disk) (root : Path) :
    (wantedOf options (candidateFiles options.skipped d root)).Sublist (d.below root) :=
  (List.filter_sublist.map Prod.fst).trans (candidate_files_sublist _ _ _)

/-- The candidates that are wanted are the files that are looked for. -/
theorem wanted_files (htree : s.disk.IsTree) (hroot : s.disk.isDirectory root = true) :
    WantedFiles options s.disk root
      (wantedOf options (candidateFiles options.skipped s.disk root)) := by
  have hsublist := wanted_sublist options s.disk root
  refine ⟨hsublist.nodup (nodup_below htree root), (pairwise_below s.disk root).sublist hsublist,
    fun p => ?_⟩
  rw [wantedOf, List.mem_map]
  constructor
  · rintro ⟨⟨q, rel⟩, hmem, rfl⟩
    obtain ⟨hmem, hwants⟩ := List.mem_filter.mp hmem
    obtain ⟨rest, hrest, hpath, rfl, hentry, hplace, hfile⟩ := (mem_candidate_files hroot).mp hmem
    obtain ⟨entry, hentry, heq⟩ := List.mem_map.mp hentry
    have hup : ".." ∉ (s.disk.locate root).parts ++ rest := by
      have hproper := (htree.proper entry hentry).2
      rwa [heq] at hproper
    exact ⟨rest, hpath, ⟨hrest, fun hmem => hup (List.mem_append_right _ hmem)⟩, hpath ▸ hfile,
      hplace, hwants⟩
  · rintro ⟨rest, rfl, hwanted⟩
    exact ⟨(_, ⟨"", rest⟩), List.mem_filter.mpr ⟨(mem_candidate_files hroot).mpr
      ⟨rest, hwanted.path.1, rfl, rfl,
        mem_entries_of_is_file htree.proper hwanted.path.2 hwanted.file, hwanted.place,
        hwanted.file⟩, hwanted.wanted⟩, rfl⟩

/-- The files that are looked for are determined by which files these are. -/
theorem WantedFiles.unique {wanted others : List Path} (h : WantedFiles options d root wanted)
    (h' : WantedFiles options d' root others)
    (hsame : ∀ rest, IsWanted options d' root rest ↔ IsWanted options d root rest) :
    others = wanted := by
  have hmem : ∀ p, p ∈ others ↔ p ∈ wanted := fun p => by
    rw [h.mem, h'.mem]
    simp only [hsame]
  refine List.Perm.eq_of_pairwise ?_ h'.ordered h.ordered
    ((List.perm_ext_iff_of_nodup h'.distinct h.distinct).mpr hmem)
  intro p q hp hq hpq hqp
  obtain ⟨rest, rfl, -⟩ := (h'.mem p).mp hp
  obtain ⟨rest', rfl, -⟩ := (h.mem q).mp hq
  rw [join_relative, join_relative] at hpq hqp ⊢
  have hparts : root.parts ++ rest = root.parts ++ rest' := parts_le_antisymm hpq hqp
  rw [hparts]

/-- What a scan comes to: the first of the files that are looked for, as many as the limit lets pass,
and that the others are left out if there are any. -/
structure ScanOf (options : DiscoverySettings) (root : Path) (wanted : List Path)
    (found : List Path × List DiscoveryIssue) : Prop where
  limited : ∀ limit, options.maxFiles = .ok limit →
    ∃ k, IsCut limit 0 wanted.length k ∧
      found = (wanted.take k, if k < wanted.length then [limitIssue root limit] else [])
  unlimited : ∀ trouble, options.maxFiles = .error trouble → wanted = [] ∧ found = ([], [])

theorem ScanOf.sublist {wanted : List Path} (h : ScanOf options root wanted found) :
    found.1.Sublist wanted := by
  cases hlimit : options.maxFiles with
  | error trouble =>
      rw [(h.unlimited trouble hlimit).2]
      exact List.nil_sublist _
  | ok limit =>
      obtain ⟨k, -, rfl⟩ := h.limited limit hlimit
      exact List.take_sublist k wanted

/-- With a whole number as the limit, so many files are taken, and none if it is not positive. -/
theorem ScanOf.whole {wanted : List Path} (h : ScanOf options root wanted found) {n : Int}
    (hlimit : options.maxFiles = .ok (.whole n)) :
    found = (wanted.take n.toNat,
      if n.toNat < wanted.length then [limitIssue root (.whole n)] else []) := by
  obtain ⟨k, hcut, rfl⟩ := h.limited _ hlimit
  rw [hcut.eq_min]
  rcases Nat.lt_or_ge n.toNat wanted.length with hlt | hge
  · rw [Nat.min_eq_left hlt.le]
  · rw [Nat.min_eq_right hge, if_neg (Nat.lt_irrefl _), if_neg (Nat.not_lt.mpr hge),
      List.take_length, List.take_of_length_le hge]

theorem exec_is_directory (hroot : s.disk.isDirectory root = true) :
    (Run.isDirectory? root).exec context s = (.ok true, s) := by
  have hlook : s.disk.look root = .ok (some .directory) := by
    rw [Disk.look, is_directory_iff.mp hroot]
  exact Run.exec_is_directory_of_look hlook

/-- The scan of a directory is what is taken of its files. -/
theorem scan_files_of_directory (hroot : s.disk.isDirectory root = true) {directories : List String}
    (hskip : context.settings.discovery.skipDirs = .ok directories) :
    (Run.scanFiles root).exec context s =
      (Run.use (takeFiles context.settings.discovery root
        (candidateFiles context.settings.discovery.skipped s.disk root) 0)).exec context s := by
  have hskipped : context.settings.discovery.skipped = directories := by
    rw [DiscoverySettings.skipped, hskip]
    rfl
  unfold Run.scanFiles
  rw [Run.exec_bind_of_ok (exec_is_directory hroot), if_pos rfl, Run.exec_bind_of_ok Run.exec_read]
  dsimp only
  rw [hskip, Run.exec_bind_of_ok (Run.exec_use_ok directories), Run.exec_bind_of_ok Run.exec_get,
    hskipped]

/-- A scan of a directory that succeeds leaves the state as it is. -/
theorem scan_files_eq (hroot : s.disk.isDirectory root = true)
    (h : (Run.scanFiles root).exec context s = (.ok found, t)) :
    t = s ∧ ScanOf context.settings.discovery root (wantedOf context.settings.discovery
      (candidateFiles context.settings.discovery.skipped s.disk root)) found := by
  cases hskip : context.settings.discovery.skipDirs with
  | error trouble =>
      unfold Run.scanFiles at h
      rw [Run.exec_bind_of_ok (exec_is_directory hroot), if_pos rfl,
        Run.exec_bind_of_ok Run.exec_read] at h
      dsimp only at h
      rw [hskip] at h
      cases h
  | ok directories =>
      rw [scan_files_of_directory hroot hskip] at h
      obtain ⟨htake, rfl⟩ := Run.exec_use_eq_ok.mp h
      exact ⟨rfl, fun limit hlimit => take_files_eq hlimit htake,
        fun trouble hlimit => take_files_of_no_limit hlimit htake⟩

theorem is_directory_of_exec {directory : Bool}
    (h : (Run.isDirectory? root).exec context s = (.ok directory, t)) :
    t = s ∧ s.disk.isDirectory root = directory := by
  rw [Run.exec_is_directory] at h
  cases hlook : s.disk.look root with
  | error trouble =>
      rw [hlook] at h
      cases h
  | ok entry =>
      rw [hlook] at h
      obtain ⟨hdirectory, rfl⟩ := Prod.mk.inj h
      rw [Disk.isDirectory, Disk.entry_of_look hlook]
      exact ⟨rfl, Except.ok.inj hdirectory⟩

/-- Only a directory can be scanned. -/
theorem is_directory_of_scan_files (h : (Run.scanFiles root).exec context s = (.ok found, t)) :
    s.disk.isDirectory root = true := by
  unfold Run.scanFiles at h
  obtain ⟨directory, u, hlook, hscan⟩ := Run.exec_bind_eq_ok.mp h
  obtain ⟨-, hroot⟩ := is_directory_of_exec hlook
  cases directory with
  | true => exact hroot
  | false => cases hscan

/-- A scan of a directory with settings that can be used succeeds. -/
theorem exists_scan_files (hroot : s.disk.isDirectory root = true)
    (h : context.settings.discovery.IsUsable) :
    ∃ found, (Run.scanFiles root).exec context s = (.ok found, s) := by
  obtain ⟨directories, hskip⟩ := h.skipped
  obtain ⟨found, hfound⟩ := exists_take_files h root
    (candidateFiles context.settings.discovery.skipped s.disk root) 0
  exact ⟨found, by rw [scan_files_of_directory hroot hskip, hfound, Run.exec_use_ok]⟩

/-- A scan takes the first of the files that are looked for: it succeeds with settings that can be
used, and whenever it succeeds it has come to nothing else. -/
structure ScansFirst (context : RunContext) (s : RunState) (root : Path) (wanted : List Path) :
    Prop where
  files : WantedFiles context.settings.discovery s.disk root wanted
  succeeds : context.settings.discovery.IsUsable →
    ∃ found, (Run.scanFiles root).exec context s = (.ok found, s)
  found : ∀ found t, (Run.scanFiles root).exec context s = (.ok found, t) →
    t = s ∧ ScanOf context.settings.discovery root wanted found
  whole : ∀ found t n, context.settings.discovery.maxFiles = .ok (.whole n) →
    (Run.scanFiles root).exec context s = (.ok found, t) →
    found = (wanted.take n.toNat,
      if n.toNat < wanted.length then [limitIssue root (.whole n)] else [])

theorem scans_first (context : RunContext) (htree : s.disk.IsTree)
    (hroot : s.disk.isDirectory root = true) :
    ScansFirst context s root (wantedOf context.settings.discovery
      (candidateFiles context.settings.discovery.skipped s.disk root)) where
  files := wanted_files htree hroot
  succeeds := exists_scan_files hroot
  found _ _ := scan_files_eq hroot
  whole _ _ _ hlimit hscan := (scan_files_eq hroot hscan).2.whole hlimit

end Scanning

end ComponentMigration
