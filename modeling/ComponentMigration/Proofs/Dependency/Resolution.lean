import ComponentMigration.Proofs.Dependency.Reordering
import ComponentMigration.Proofs.Path
import ComponentMigration.Proofs.Text.Splitting

/-!
# What relative imports lead to

A file or directory of the project is the list of names that lead to it from the project root; the
root itself is the empty list.  The steps of a relative import lead from the directory of the
importing file to another place (`LeadsTo`), and joining and normalising come to the text of that
place (`normalize_join`).  An import that leads to a directory means the main unit of the
directory's first index file, unless the directory is the project root: its text is a dot, so the
files that are tried there are written `./index.tsx` and so on, which no file is called
(`directory_import_resolves`).
-/

namespace ComponentMigration

/-- A name of a file or directory. -/
structure IsName (name : String) : Prop where
  nonempty : name ≠ ""
  not_here : name ≠ "."
  not_up : name ≠ ".."
  slash_free : '/' ∉ name.toList

instance (name : String) : Decidable (IsName name) :=
  decidable_of_iff (name ≠ "" ∧ name ≠ "." ∧ name ≠ ".." ∧ '/' ∉ name.toList)
    ⟨fun ⟨h, hhere, hup, hslash⟩ => ⟨h, hhere, hup, hslash⟩,
      fun h => ⟨h.nonempty, h.not_here, h.not_up, h.slash_free⟩⟩

/-- The text of a place below the project root. -/
def placeText (names : List String) : String := (Path.mk "" names).toText

/-- The text of a file of the project. -/
def IsFileText (text : String) : Prop :=
  ∃ names ≠ [], (∀ name ∈ names, IsName name) ∧ text = placeText names

/-- Steps that lead from one place of the project to another one.  No step leads out of it. -/
inductive LeadsTo : List String → List String → List String → Prop
  | here (place : List String) : LeadsTo place [] place
  | stay {step : String} {place steps goal : List String} (hstep : step = "" ∨ step = ".")
      (h : LeadsTo place steps goal) : LeadsTo place (step :: steps) goal
  | up {name : String} {place steps goal : List String} (h : LeadsTo place steps goal) :
      LeadsTo (place ++ [name]) (".." :: steps) goal
  | down {name : String} {place steps goal : List String} (hname : IsName name)
      (h : LeadsTo (place ++ [name]) steps goal) : LeadsTo place (name :: steps) goal

section Places

variable {name importPath : String} {names place steps goal : List String}

theorem place_text_of_ne_nil (h : names ≠ []) : placeText names = String.intercalate "/" names := by
  simp [placeText, Path.toText, h]

theorem is_trimmed_name (h : IsName name) : Text.IsTrimmed (· == '/') name.toList :=
  Text.is_trimmed_of_forall fun _ hc =>
    beq_eq_false_iff_ne.mpr (ne_of_mem_of_not_mem hc h.slash_free)

theorem name_chars_ne_nil (h : IsName name) : name.toList ≠ [] := by
  simpa using h.nonempty

/-- Joined names neither begin nor end with a slash. -/
theorem is_trimmed_names (hne : names ≠ []) (h : ∀ name ∈ names, IsName name) :
    (String.intercalate "/" names).toList ≠ [] ∧
      Text.IsTrimmed (· == '/') (String.intercalate "/" names).toList := by
  rw [String.toList_intercalate]
  induction names with
  | nil => exact absurd rfl hne
  | cons name names ih =>
      obtain ⟨hname, hnames⟩ := List.forall_mem_cons.mp h
      cases names with
      | nil => simpa using And.intro hname.nonempty (is_trimmed_name hname)
      | cons next names =>
          obtain ⟨hrest, htrim⟩ := ih (List.cons_ne_nil next names) hnames
          rw [List.map_cons, List.map_cons, List.intercalate_cons_cons, List.append_assoc]
          refine ⟨by simp [hname.nonempty], ?_⟩
          exact (is_trimmed_name hname).append htrim (name_chars_ne_nil hname) hrest ['/']

/-- What stands before the last slash of a file's text are the names before the last one. -/
theorem directory_place_text (hplace : ∀ part ∈ place, IsName part) (hname : IsName name) :
    Reference.directory (placeText (place ++ [name])) = String.intercalate "/" place := by
  have hother : ∀ c ∈ name.toList.reverse, (c != '/') = true := fun c hc =>
    bne_iff_ne.mpr (ne_of_mem_of_not_mem (List.mem_reverse.mp hc) hname.slash_free)
  rw [place_text_of_ne_nil (by simp), Reference.directory]
  by_cases hnil : place = []
  · have hnone : name.toList.reverse.dropWhile (· != '/') = [] :=
      List.dropWhile_eq_nil_iff.mpr hother
    simp [hnil, hnone]
  · obtain ⟨hchars, htrim⟩ := is_trimmed_names hnil hplace
    have hskip : (String.intercalate "/" (place ++ [name])).toList.reverse.dropWhile (· != '/') =
        '/' :: (String.intercalate "/" place).toList.reverse := by
      rw [intercalate_concat hnil, ← String.append_assoc, String.toList_append, List.reverse_append,
        List.dropWhile_append_of_pos hother, String.toList_append, List.reverse_append]
      rfl
    generalize String.intercalate "/" place = text at hchars htrim hskip ⊢
    have hlast : text.toList.reverse.dropWhile (· == '/') = text.toList.reverse :=
      Text.drop_while_eq_self fun c hc => htrim.last c (by rwa [List.head?_reverse] at hc)
    have hkept : ¬('/' :: text.toList.reverse).reverse.all (· == '/') = true := by
      obtain ⟨c, cs, hcs⟩ := List.exists_cons_of_ne_nil hchars
      have hc : (c == '/') = false := htrim.first c (by rw [hcs]; rfl)
      simp [hcs, hc]
    rw [hskip, if_neg hkept, List.reverse_reverse, List.dropWhile_cons, if_pos (beq_self_eq_true _),
      hlast, List.reverse_reverse, String.ofList_toList]

/-- A relative import is joined to the names of a directory as if it were a name. -/
theorem join_eq_intercalate (hplace : ∀ part ∈ place, IsName part)
    (hrelative : Text.startsWith importPath "." = true) :
    Reference.join (String.intercalate "/" place) importPath =
      String.intercalate "/" (place ++ [importPath]) := by
  have hslash : Text.startsWith importPath "/" = false := by
    obtain ⟨rest, hrest⟩ := List.isPrefixOf_iff_prefix.mp hrelative
    rw [Text.startsWith, ← hrest]
    rfl
  rw [Reference.join, hslash, if_neg Bool.false_ne_true]
  by_cases hnil : place = []
  · simp [hnil]
  · obtain ⟨hchars, htrim⟩ := is_trimmed_names hnil hplace
    rw [if_neg, intercalate_concat hnil, String.append_assoc]
    rw [Bool.or_eq_true, String.isEmpty_iff]
    rintro (hempty | hends)
    · rw [hempty] at hchars
      exact hchars rfl
    · obtain ⟨before, hbefore⟩ := List.isSuffixOf_iff_suffix.mp hends
      have hlast := htrim.last '/' (by rw [← hbefore]; simp)
      exact absurd hlast (by decide)

/-- A text that is joined to names is cut apart as it would be alone. -/
theorem split_intercalate_concat (hplace : ∀ part ∈ place, IsName part) (last : String) :
    Text.splitOn (String.intercalate "/" (place ++ [last])) "/" =
      place ++ Text.splitOn last "/" := by
  induction place with
  | nil => simp
  | cons name place ih =>
      obtain ⟨hname, hrest⟩ := List.forall_mem_cons.mp hplace
      have hjoined : String.intercalate "/" (name :: place ++ [last]) =
          name ++ "/" ++ String.intercalate "/" (place ++ [last]) := by
        have happend : String.intercalate "/" ([name] ++ (place ++ [last])) = _ :=
          String.intercalate_append_of_ne_nil (List.cons_ne_nil name []) (by simp)
        rwa [String.intercalate_singleton] at happend
      have hchars : (name ++ "/" ++ String.intercalate "/" (place ++ [last])).toList =
          name.toList ++ (['/'] ++ (String.intercalate "/" (place ++ [last])).toList) := by
        rw [String.toList_append, String.toList_append, List.append_assoc]
        rfl
      have hcut : Text.splitOn (name ++ "/" ++ String.intercalate "/" (place ++ [last])) "/" =
          name :: Text.splitOn (String.intercalate "/" (place ++ [last])) "/" := by
        rw [Text.splitOn, hchars]
        refine (congrArg _ (Text.split_chars_append hname.slash_free [] _)).trans ?_
        rw [List.map_cons, String.ofList_toList]
        rfl
      rw [hjoined, hcut, ih hrest, List.cons_append]

/-- A file's text is cut apart into its names. -/
theorem split_place_text (hne : names ≠ []) (h : ∀ name ∈ names, IsName name) :
    Text.splitOn (placeText names) "/" = names := by
  have hlast : names.dropLast ++ [names.getLast hne] = names := List.dropLast_append_getLast hne
  have hname : IsName (names.getLast hne) := h _ (List.getLast_mem hne)
  have hinit : ∀ part ∈ names.dropLast, IsName part := fun part hpart =>
    h part (List.dropLast_subset names hpart)
  have hone : Text.splitOn (names.getLast hne) "/" = [names.getLast hne] := by
    rw [Text.splitOn]
    refine (congrArg _ (Text.split_chars_of_not_mem hname.slash_free)).trans ?_
    rw [List.map_singleton, String.ofList_toList]
  have hsplit := split_intercalate_concat hinit (names.getLast hne)
  rwa [hone, hlast, ← place_text_of_ne_nil hne] at hsplit

/-- The names of a place, or a relative import after them, do not begin with a slash. -/
theorem head_intercalate_concat (hplace : ∀ part ∈ place, IsName part)
    (hrelative : Text.startsWith importPath "." = true) :
    ∃ c cs, (String.intercalate "/" (place ++ [importPath])).toList = c :: cs ∧ c ≠ '/' := by
  by_cases hnil : place = []
  · obtain ⟨rest, hrest⟩ := List.isPrefixOf_iff_prefix.mp hrelative
    exact ⟨'.', rest, by rw [hnil]; simpa using hrest.symm, by decide⟩
  · obtain ⟨hchars, htrim⟩ := is_trimmed_names hnil hplace
    obtain ⟨c, cs, hcs⟩ := List.exists_cons_of_ne_nil hchars
    refine ⟨c, cs ++ '/' :: importPath.toList, ?_, ?_⟩
    · rw [intercalate_concat hnil, String.toList_append, String.toList_append, hcs]
      simp
    · exact beq_eq_false_iff_ne.mp (htrim.first c (by rw [hcs]; rfl))

theorem LeadsTo.keeps_names (h : LeadsTo place steps goal) (hplace : ∀ part ∈ place, IsName part) :
    ∀ part ∈ goal, IsName part := by
  induction h with
  | here => exact hplace
  | stay _ _ ih => exact ih hplace
  | up _ ih => exact ih fun part hpart => hplace part (List.mem_append_left _ hpart)
  | down hname _ ih =>
      refine ih fun part hpart => ?_
      rcases List.mem_append.mp hpart with hpart | hpart
      · exact hplace part hpart
      · rwa [List.mem_singleton.mp hpart]

theorem add_name (hname : IsName name) (names : List String) :
    Reference.addPart false names name = names ++ [name] := by
  simp [Reference.addPart, hname.nonempty, hname.not_here, hname.not_up]

theorem fold_names (h : ∀ part ∈ place, IsName part) :
    place.foldl (Reference.addPart false) names = names ++ place := by
  induction place generalizing names with
  | nil => simp
  | cons name place ih =>
      obtain ⟨hname, hrest⟩ := List.forall_mem_cons.mp h
      rw [List.foldl_cons, add_name hname, ih hrest, List.append_assoc, List.singleton_append]

/-- Normalising follows the steps. -/
theorem LeadsTo.fold (h : LeadsTo place steps goal) (hplace : ∀ part ∈ place, IsName part) :
    steps.foldl (Reference.addPart false) place = goal := by
  induction h with
  | here => rfl
  | @stay step place steps goal hstep _ ih =>
      have hadd : Reference.addPart false place step = place := by
        rcases hstep with rfl | rfl <;> rfl
      rw [List.foldl_cons, hadd, ih hplace]
  | @up name place steps goal _ ih =>
      have hname : IsName name := hplace name (by simp)
      have hadd : Reference.addPart false (place ++ [name]) ".." = place := by
        simp [Reference.addPart, hname.not_up]
      rw [List.foldl_cons, hadd, ih fun part hpart => hplace part (List.mem_append_left _ hpart)]
  | @down name place steps goal hname h ih =>
      rw [List.foldl_cons, add_name hname, ih]
      rintro part hpart
      rcases List.mem_append.mp hpart with hpart | hpart
      · exact hplace part hpart
      · rwa [List.mem_singleton.mp hpart]

theorem normalize_eq_place_text {text : String} (h : ∃ c cs, text.toList = c :: cs ∧ c ≠ '/')
    (hgoal : (Text.splitOn text "/").foldl (Reference.addPart false) [] = goal)
    (hnames : ∀ part ∈ goal, IsName part) : Reference.normalize text = placeText goal := by
  obtain ⟨c, cs, hcs, hc⟩ := h
  have hempty : ¬text.isEmpty = true := by
    rw [String.isEmpty_iff]
    rintro rfl
    cases hcs
  have hroot : ∀ slashes, Text.startsWith text (String.ofList ('/' :: slashes)) = false := by
    intro slashes
    rw [Text.startsWith, hcs, String.toList_ofList, List.isPrefixOf_cons_cons]
    simp [Ne.symm hc]
  have hroots : Text.startsWith text "/" = false ∧ Text.startsWith text "//" = false ∧
      Text.startsWith text "///" = false := ⟨hroot [], hroot ['/'], hroot ['/', '/']⟩
  have hflat : (!"".isEmpty) = false := rfl
  rw [Reference.normalize, if_neg hempty, hroots.1, hroots.2.1, hroots.2.2]
  simp only [Bool.false_eq_true, if_false, hflat, hgoal, String.empty_append]
  by_cases hnil : goal = []
  · rw [hnil]
    rfl
  · rw [if_neg, place_text_of_ne_nil hnil]
    rw [String.isEmpty_iff]
    intro htext
    exact (is_trimmed_names hnil hnames).1 (by rw [htext]; rfl)

/-- A relative import is normalised to the text of the place to which its steps lead. -/
theorem normalize_join (hplace : ∀ part ∈ place, IsName part) (hname : IsName name)
    (hrelative : Text.startsWith importPath "." = true)
    (h : LeadsTo place (Text.splitOn importPath "/") goal) :
    Reference.normalize (Reference.join (Reference.directory (placeText (place ++ [name])))
      importPath) = placeText goal := by
  rw [directory_place_text hplace hname, join_eq_intercalate hplace hrelative]
  refine normalize_eq_place_text (head_intercalate_concat hplace hrelative) ?_
    (h.keeps_names hplace)
  rw [split_intercalate_concat hplace, List.foldl_append, fold_names hplace, List.nil_append,
    h.fold hplace]

end Places

section Resolution

variable {components : List Component} {place goal : List String}
  {file name importPath : String}

theorem primary_unit_is_some (hunit : ∃ c ∈ components, c.filePath = file) :
    ∃ main, primaryUnit (components.filter (·.filePath == file)) = some main := by
  obtain ⟨c, hc, hfile⟩ := hunit
  have hsome : components.filter (·.filePath == file) ≠ [] :=
    List.ne_nil_of_mem (List.mem_filter.mpr ⟨hc, beq_iff_eq.mpr hfile⟩)
  obtain ⟨u, -, hmain⟩ := primary_unit_mem hsome
  exact ⟨u.id, hmain⟩

theorem primary_unit_eq_none (hunits : ∀ c ∈ components, c.filePath ≠ file) :
    primaryUnit (components.filter (·.filePath == file)) = none := by
  have hnone : components.filter (·.filePath == file) = [] := by simpa using hunits
  rw [hnone]
  rfl

/-- The index files of a directory, in the order in which they are tried. -/
def indexFiles (place : List String) : List String :=
  resolveExtensions.map fun ending => placeText (place ++ ["index" ++ ending])

/-- The first index file of a directory in which there are units. -/
def firstIndex? (components : List Component) (place : List String) : Option String :=
  (indexFiles place).find? fun file => components.any (·.filePath == file)

theorem exists_unit_of_first_index (h : firstIndex? components place = some file) :
    ∃ c ∈ components, c.filePath = file := by
  simpa using List.find?_some h

/-- The first index file in which there are units is the first one that has a main unit. -/
theorem find_some_index (h : firstIndex? components place = some file) :
    (indexFiles place).findSome? (primaryUnits (unitsByFile components)).get? =
      primaryUnit (components.filter (·.filePath == file)) := by
  obtain ⟨main, hmain⟩ := primary_unit_is_some (exists_unit_of_first_index h)
  obtain ⟨-, before, later, hfiles, hbefore⟩ := List.find?_eq_some_iff_append.mp h
  have hnone : before.findSome? (primaryUnits (unitsByFile components)).get? = none := by
    rw [List.findSome?_eq_none_iff]
    intro other hother
    rw [get?_primary_units]
    exact primary_unit_eq_none (by simpa using hbefore other hother)
  rw [hfiles, List.findSome?_append, hnone, Option.none_or, List.findSome?_cons,
    get?_primary_units, hmain]

/-- If no file is called like the target, or like it with an ending, the index files remain. -/
theorem find_some_candidates {target : String}
    (hfree : ∀ ending ∈ "" :: resolveExtensions, ∀ c ∈ components, c.filePath ≠ target ++ ending) :
    (resolveCandidates target).findSome? (primaryUnits (unitsByFile components)).get? =
      (resolveExtensions.map (target ++ "/index" ++ ·)).findSome?
        (primaryUnits (unitsByFile components)).get? := by
  obtain ⟨hself, hendings⟩ := List.forall_mem_cons.mp hfree
  have hnone : ([target] ++ resolveExtensions.map (target ++ ·)).findSome?
      (primaryUnits (unitsByFile components)).get? = none := by
    rw [List.findSome?_eq_none_iff]
    intro file hfile
    rw [get?_primary_units]
    refine primary_unit_eq_none ?_
    rcases List.mem_append.mp hfile with hfile | hfile
    · rw [List.mem_singleton.mp hfile]
      simpa using hself
    · obtain ⟨ending, hending, rfl⟩ := List.mem_map.mp hfile
      exact hendings ending hending
  rw [resolveCandidates, List.findSome?_append, hnone, Option.none_or]

theorem index_candidates (hne : place ≠ []) :
    resolveExtensions.map (placeText place ++ "/index" ++ ·) = indexFiles place := by
  refine List.map_congr_left fun ending _ => ?_
  have hindex : "/index" ++ ending = "/" ++ ("index" ++ ending) := by
    rw [← String.append_assoc]
    rfl
  rw [placeText, placeText, Path.to_text_concat hne, String.append_assoc, hindex]

/-- The text of a file of the project has no dot before its first slash. -/
theorem not_is_file_text_here (rest : String) : ¬IsFileText ("./" ++ rest) := by
  rintro ⟨names, hne, hnames, htext⟩
  have hparts : Text.splitOn ("./" ++ rest) "/" = "." :: Text.splitOn rest "/" := by
    rw [Text.splitOn, String.toList_append]
    have hdot : '/' ∉ ['.'] := by decide
    exact congrArg _ (Text.split_chars_append hdot [] rest.toList)
  rw [htext, split_place_text hne hnames] at hparts
  exact (hnames "." (by rw [hparts]; exact List.mem_cons_self)).not_here rfl

/-- An import that leads to a directory which is not called like a file means the main unit of the
directory's first index file, but at the project root it means none. -/
theorem directory_import_resolves (components : List Component)
    (hplace : ∀ part ∈ place, IsName part) (hname : IsName name)
    (hrelative : Text.startsWith importPath "." = true)
    (hleads : LeadsTo place (Text.splitOn importPath "/") goal)
    (hfiles : ∀ c ∈ components, IsFileText c.filePath)
    (hfree : ∀ ending ∈ "" :: resolveExtensions, ∀ c ∈ components,
      c.filePath ≠ placeText goal ++ ending)
    (hindex : firstIndex? components goal = some file) :
    ∃ main, primaryUnit (components.filter (·.filePath == file)) = some main ∧
      resolveImport (placeText (place ++ [name])) importPath
        (primaryUnits (unitsByFile components)) = if goal = [] then "." else main := by
  obtain ⟨main, hmain⟩ := primary_unit_is_some (exists_unit_of_first_index hindex)
  refine ⟨main, hmain, ?_⟩
  simp only [resolveImport, normalize_join hplace hname hrelative hleads,
    find_some_candidates hfree]
  by_cases hroot : goal = []
  · have hnone : (resolveExtensions.map (placeText goal ++ "/index" ++ ·)).findSome?
        (primaryUnits (unitsByFile components)).get? = none := by
      rw [List.findSome?_eq_none_iff]
      intro file hfile
      rw [get?_primary_units]
      refine primary_unit_eq_none fun c hc heq => ?_
      obtain ⟨ending, -, rfl⟩ := List.mem_map.mp hfile
      have htext : placeText goal ++ "/index" ++ ending = "./" ++ ("index" ++ ending) := by
        rw [hroot, ← String.append_assoc]
        rfl
      exact not_is_file_text_here _ (htext ▸ heq ▸ hfiles c hc)
    rw [hnone, if_pos hroot, hroot]
    rfl
  · rw [index_candidates hroot, find_some_index hindex, hmain, if_neg hroot]
    rfl

end Resolution

/-- A unit with the name of its file. -/
def indexUnit (file : String) : Component :=
  { id := file ++ ":index", name := "index", filePath := file, absolutePath := "/proj/" ++ file }

/-- The imports of a directory with two index files mean the unit of the one that is tried first. -/
theorem directory_import_resolves_card :
    ∃ main, primaryUnit (([indexUnit "src/Card/index.js", indexUnit "src/Card/index.ts"]).filter
        (·.filePath == "src/Card/index.ts")) = some main ∧
      resolveImport (placeText ["src", "App.tsx"]) "./Card"
        (primaryUnits (unitsByFile [indexUnit "src/Card/index.js", indexUnit "src/Card/index.ts"])) =
          if ["src", "Card"] = [] then "." else main := by
  have hfile : ∀ file ∈ ["src/Card/index.js", "src/Card/index.ts"], IsFileText file := by
    rw [List.forall_mem_cons, List.forall_mem_singleton]
    exact ⟨⟨["src", "Card", "index.js"], by decide, by decide, by decide⟩,
      ⟨["src", "Card", "index.ts"], by decide, by decide, by decide⟩⟩
  have hfiles : ∀ c ∈ [indexUnit "src/Card/index.js", indexUnit "src/Card/index.ts"],
      IsFileText c.filePath := by simpa [indexUnit] using hfile
  have hsource : ∀ part ∈ ["src"], IsName part := by decide
  have happ : IsName "App.tsx" := by decide
  have hleads : LeadsTo ["src"] (Text.splitOn "./Card" "/") ["src", "Card"] :=
    .stay (.inr rfl) (.down (by decide) (.here _))
  have hrelative : Text.startsWith "./Card" "." = true := by decide
  obtain ⟨main, hmain, hresolved⟩ :=
    directory_import_resolves _ hsource happ hrelative hleads hfiles (by decide)
      (by decide : firstIndex? _ _ = some "src/Card/index.ts")
  exact ⟨main, hmain, hresolved⟩

/-- An import of the project root means no unit, though there is an index file at the root. -/
theorem root_import_unresolved :
    LeadsTo ["src"] (Text.splitOn ".." "/") [] ∧
      (∀ ending ∈ "" :: resolveExtensions, ∀ c ∈ [indexUnit "index.tsx"],
        c.filePath ≠ placeText [] ++ ending) ∧
      firstIndex? [indexUnit "index.tsx"] [] = some "index.tsx" ∧
      primaryUnit [indexUnit "index.tsx"] = some "index.tsx:index" ∧
      resolveImport (placeText ["src", "App.tsx"]) ".."
        (primaryUnits (unitsByFile [indexUnit "index.tsx"])) = "." := by
  have hroot : LeadsTo [] [] [] := .here []
  exact ⟨hroot.up, by decide, by decide, by decide, by decide⟩

end ComponentMigration
