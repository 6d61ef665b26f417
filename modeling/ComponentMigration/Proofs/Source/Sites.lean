import Mathlib.Data.List.Basic
import ComponentMigration.Component.Discovery
import ComponentMigration.Source.Node

/-!
# Declarations and the nodes below them

Where the declarations of a file stand, and what is reached from a node.
-/

namespace ComponentMigration

/-!
## Where the units of a document are found again

Discovery makes units from what the top level of a file introduces, and everything that looks at a
unit later finds it again by its name.  Both are scans of one list, the `introductions` of the file:
discovery keeps the first candidate of each name (`candidates_eq_filter_map`), the search takes the
first introduction of the name (`find_declaration_eq`).  They meet unless something that makes no
unit introduces the name first (`find_declaration_of_unit`).
-/

/-- What a declaration introduces: itself, or one of its variable declarators. -/
structure Introduction where
  declaration : Declaration
  node : Node

/-- The introductions of a declaration. -/
def Declaration.introductions (d : Declaration) : List Introduction :=
  if d.node.isVariableDeclaration then
    (d.node.namedChildren.filter (·.kind == "variable_declarator")).map (⟨d, ·⟩)
  else [⟨d, d.node⟩]

/-- What the top level of a file introduces, in order. -/
def introductions (root : Node) : List Introduction :=
  (declarations root).flatMap Declaration.introductions

namespace Introduction

/-- The introduced name. -/
def name? (i : Introduction) : Option String := declaredName i.node

/-- The place of an introduction. -/
def site (i : Introduction) : Site := ⟨i.declaration.statement, i.node⟩

/-- The unit that an introduction makes. -/
def candidate? (i : Introduction) (stem : String) : Option Candidate :=
  if i.declaration.node.isVariableDeclaration then
    declaratorCandidate? i.declaration.statement i.node
  else (i.declaration.candidates stem).head?

/-- Whether an introduction makes a unit with a name. -/
def makesUnit (i : Introduction) (stem name : String) : Bool :=
  (i.candidate? stem).any (·.name == name)

end Introduction

/-- The place of what makes a unit. -/
def Candidate.site (c : Candidate) : Site := ⟨c.statement, c.node⟩

section Scans

variable {root : Node} {stem name : String}

theorem Declaration.site_eq (d : Declaration) (name : String) :
    d.site? name = (d.introductions.find? (·.name? == some name)).map Introduction.site := by
  unfold Declaration.site? Declaration.introductions
  split
  · rw [List.find?_map, List.find?_filter, Option.map_map]
    congr 2
    funext v
    rw [Bool.eq_iff_iff, Bool.and_eq_true, decide_eq_true_iff]
    rfl
  · rw [List.find?_singleton]
    change _ = Option.map _ (if declaredName d.node == some name then _ else none)
    split <;> rfl

/-- The search for a name takes the first introduction of it. -/
theorem find_declaration_eq (root : Node) (name : String) :
    findDeclaration root name =
      ((introductions root).find? (·.name? == some name)).map Introduction.site := by
  unfold findDeclaration introductions
  induction declarations root with
  | nil => rfl
  | cons d rest ih =>
      rw [List.findSome?_cons, List.flatMap_cons, List.find?_append, d.site_eq, ih]
      cases d.introductions.find? (·.name? == some name) with
      | none => rfl
      | some i => rfl

theorem kind_of_is_variable_declaration {n : Node} (h : n.isVariableDeclaration) :
    n.kind = "lexical_declaration" ∨ n.kind = "variable_declaration" := by
  simpa [Node.isVariableDeclaration] using h

theorem Declaration.candidates_of_variables {d : Declaration}
    (h : d.node.isVariableDeclaration) (stem : String) :
    d.candidates stem = d.node.namedChildren.filterMap (declaratorCandidate? d.statement) := by
  unfold Declaration.candidates
  rcases kind_of_is_variable_declaration h with hkind | hkind <;> simp [hkind, h]

/-- A declaration of no variables makes at most one unit, at its own place. -/
theorem Declaration.exists_candidates_eq {d : Declaration}
    (h : d.node.isVariableDeclaration = false) (stem : String) :
    ∃ made : Option Candidate, d.candidates stem = made.toList ∧
      ∀ c ∈ made, c.site = ⟨d.statement, d.node⟩ := by
  unfold Declaration.candidates
  dsimp only
  rw [h, if_neg Bool.false_ne_true]
  split
  case isTrue =>
    refine ⟨_, rfl, fun c hc => ?_⟩
    obtain ⟨name, -, hname⟩ := Option.bind_eq_some_iff.mp hc
    obtain ⟨k, -, rfl⟩ := Option.map_eq_some_iff.mp hname
    rfl
  case isFalse =>
    -- a class, and then a default export without a name
    repeat' split
    all_goals first
      | exact ⟨none, rfl, nofun⟩
      | exact ⟨some _, rfl, fun _ hc => Option.some.inj hc ▸ rfl⟩

theorem Declaration.candidates_eq_head {d : Declaration}
    (h : d.node.isVariableDeclaration = false) (stem : String) :
    d.candidates stem = (d.candidates stem).head?.toList := by
  obtain ⟨made, hmade, -⟩ := d.exists_candidates_eq h stem
  rw [hmade]
  cases made <;> rfl

theorem declarator_candidate_of_kind {s : Statement} {v : Node}
    (h : v.kind ≠ "variable_declarator") : declaratorCandidate? s v = none := by
  rw [declaratorCandidate?, if_pos (bne_iff_ne.mpr h)]

theorem Declaration.candidates_eq_filter_map (d : Declaration) (stem : String) :
    d.candidates stem = d.introductions.filterMap (·.candidate? stem) := by
  by_cases h : d.node.isVariableDeclaration
  · rw [d.candidates_of_variables h, Declaration.introductions, if_pos h, List.filterMap_map,
      List.filterMap_filter]
    refine List.filterMap_congr fun v _ => ?_
    by_cases hv : v.kind = "variable_declarator"
    · rw [if_pos (beq_iff_eq.mpr hv)]
      exact (if_pos h).symm
    · rw [if_neg (fun e => hv (beq_iff_eq.mp e)), declarator_candidate_of_kind hv]
  · unfold Declaration.introductions
    rw [if_neg h, List.filterMap_cons, List.filterMap_nil]
    have hhead : (Introduction.mk d d.node).candidate? stem = (d.candidates stem).head? := if_neg h
    rw [hhead]
    refine (d.candidates_eq_head (Bool.not_eq_true _ ▸ h) stem).trans ?_
    cases (d.candidates stem).head? <;> rfl

/-- Discovery makes its candidates from the introductions, in order. -/
theorem candidates_eq_filter_map (root : Node) (stem : String) :
    (declarations root).flatMap (·.candidates stem) =
      (introductions root).filterMap (·.candidate? stem) := by
  rw [introductions, List.filterMap_flatMap]
  exact congrArg (fun f => List.flatMap f _) (funext fun d => d.candidates_eq_filter_map stem)

theorem declarator_candidate_site {s : Statement} {v : Node} {c : Candidate}
    (h : declaratorCandidate? s v = some c) : c.site = ⟨s, v⟩ := by
  unfold declaratorCandidate? at h
  split at h
  · cases h
  · split at h
    · split at h
      · cases h
      · split at h
        · obtain ⟨k, -, rfl⟩ := Option.map_eq_some_iff.mp h
          rfl
        · split at h
          · cases h
            rfl
          · cases h
    · cases h

theorem Declaration.site_of_mem_candidates {d : Declaration} {c : Candidate}
    (h : d.node.isVariableDeclaration = false) (hc : c ∈ d.candidates stem) :
    c.site = ⟨d.statement, d.node⟩ := by
  obtain ⟨made, hmade, hsite⟩ := d.exists_candidates_eq h stem
  rw [hmade] at hc
  exact hsite c (Option.mem_toList.mp hc)

/-- A unit is made at the place of its introduction. -/
theorem Introduction.candidate_site {i : Introduction} {c : Candidate}
    (hnode : i ∈ i.declaration.introductions) (h : i.candidate? stem = some c) :
    c.site = i.site := by
  unfold Introduction.candidate? at h
  split at h
  · exact declarator_candidate_site h
  · next hvariables =>
      unfold Declaration.introductions at hnode
      rw [if_neg hvariables] at hnode
      have hi : i.node = i.declaration.node := congrArg Introduction.node (List.mem_singleton.mp hnode)
      rw [Introduction.site, hi]
      exact Declaration.site_of_mem_candidates (Bool.not_eq_true _ ▸ hvariables)
        (List.mem_of_head? h)

end Scans

section FirstOfEachName

variable {c : Candidate} {l : List Candidate}

theorem mem_fold_by_name (kept : List Candidate) :
    c ∈ l.foldl (fun acc c => if acc.any (·.name == c.name) then acc else acc ++ [c]) kept ↔
      c ∈ kept ∨ kept.any (·.name == c.name) = false ∧ l.find? (·.name == c.name) = some c := by
  induction l generalizing kept with
  | nil => simp
  | cons a l ih =>
      rw [List.foldl_cons, ih, List.find?_cons]
      by_cases hsame : a.name = c.name
      · rw [beq_iff_eq.mpr hsame, hsame]
        by_cases hkept : kept.any (·.name == c.name)
        · simp [hkept]
        · simp [hkept, hsame, eq_comm]
      · rw [beq_eq_false_iff_ne.mpr hsame]
        by_cases hkept : kept.any (·.name == a.name)
        · simp [hkept]
        · have hne : c ≠ a := fun e => hsame (congrArg Candidate.name e.symm)
          simp [hkept, hsame, hne]

/-- Exactly the first candidate of each name is kept. -/
theorem mem_first_by_name : c ∈ firstByName l ↔ l.find? (·.name == c.name) = some c := by
  rw [firstByName, mem_fold_by_name]
  simp

end FirstOfEachName

section Units

variable {d : Document} {o : DocumentOrigin} {u : Component} {stem name : String}

theorem Declaration.statement_of_mem {root : Node} {a : Declaration} (ha : a ∈ declarations root) :
    a.statement ∈ statements root ∧ a.statement.declaration? = some a := by
  obtain ⟨s, hmem, hs⟩ := List.mem_filterMap.mp ha
  have hstatement : a.statement = s := by
    unfold Statement.declaration? at hs
    split at hs
    · obtain ⟨inner, -, rfl⟩ := Option.map_eq_some_iff.mp hs
      rfl
    · split at hs
      · cases hs
      · cases hs
        rfl
  rw [hstatement]
  exact ⟨hmem, hs⟩

theorem Declaration.eq_of_statement {root : Node} {a b : Declaration} (ha : a ∈ declarations root)
    (hb : b ∈ declarations root) (h : a.statement = b.statement) : a = b :=
  Option.some.inj ((statement_of_mem ha).2.symm.trans (h ▸ (statement_of_mem hb).2))

theorem Declaration.declaration_of_mem {d : Declaration} {i : Introduction}
    (h : i ∈ d.introductions) : i.declaration = d := by
  unfold Declaration.introductions at h
  split at h
  · obtain ⟨v, -, rfl⟩ := List.mem_map.mp h
    rfl
  · cases List.mem_singleton.mp h
    rfl

theorem mem_introductions {root : Node} {i : Introduction} (h : i ∈ introductions root) :
    i.declaration ∈ declarations root ∧ i ∈ i.declaration.introductions := by
  obtain ⟨d, hd, hi⟩ := List.mem_flatMap.mp h
  rw [Declaration.declaration_of_mem hi]
  exact ⟨hd, hi⟩

/-- The statement that a search finds is one of the file. -/
theorem statement_of_find_declaration {root : Node} {name : String} {site : Site}
    (h : findDeclaration root name = some site) : site.statement ∈ statements root := by
  rw [find_declaration_eq] at h
  obtain ⟨i, hi, rfl⟩ := Option.map_eq_some_iff.mp h
  exact (Declaration.statement_of_mem (mem_introductions (List.mem_of_find?_eq_some hi)).1).1

/-- Of what introduces a name, the first one makes the unit of this name if it makes one at all. -/
theorem candidate_of_first_introduction {l : List Introduction} {i : Introduction} {c : Candidate}
    (hl : ∀ i ∈ l, ∀ c, i.candidate? stem = some c → c.site = i.site)
    (hi : l.find? (·.name? == some name) = some i)
    (hc : (l.filterMap (·.candidate? stem)).find? (·.name == name) = some c)
    (hname : declaredName c.node = some name) (hunit : i.makesUnit stem name) :
    i.candidate? stem = some c := by
  induction l with
  | nil => cases hi
  | cons a l ih =>
      rw [List.filterMap_cons] at hc
      rw [List.find?_cons] at hi
      by_cases ha : a.name? = some name
      · rw [beq_iff_eq.mpr ha] at hi
        obtain rfl := Option.some.inj hi
        obtain ⟨b, hb, hbname⟩ := (Option.any_eq_true _ _).mp hunit
        rw [hb] at hc
        dsimp only at hc
        rw [List.find?_cons, hbname] at hc
        exact hb.trans hc
      · rw [beq_eq_false_iff_ne.mpr ha] at hi
        refine ih (fun i hi => hl i (List.mem_cons_of_mem _ hi)) hi ?_
        cases hb : a.candidate? stem with
        | none => rwa [hb] at hc
        | some b =>
            rw [hb] at hc
            dsimp only at hc
            rw [List.find?_cons] at hc
            by_cases hbname : b.name = name
            · -- the candidate found would be the head's, which does not introduce the name
              rw [beq_iff_eq.mpr hbname] at hc
              obtain rfl := Option.some.inj hc
              have hnode := congrArg Site.node (hl a List.mem_cons_self b hb)
              exact absurd ((congrArg declaredName hnode).symm.trans hname) ha
            · rwa [beq_eq_false_iff_ne.mpr hbname] at hc

/-- Without unreadable places the units of a document are those of its candidates. -/
theorem Document.units_of_no_errors (h : d.hasErrors = false) (o : DocumentOrigin) :
    d.units o = (d.candidates o).map (·.unit d o) := by
  rw [Document.units, if_neg (by rw [h]; exact Bool.false_ne_true)]

end Units

/-- The tree of a file with an overloaded function and a plain one. -/
def overloadTree : Node :=
  .mk { kind := "program" }
    [.mk { kind := "export_statement", text := "export function Dup(a: string): void;" }
      [.mk
          { kind := "function_signature", field := "declaration"
            text := "function Dup(a: string): void;" }
        [.mk { kind := "identifier", field := "name", text := "Dup" } []]],
      .mk
          { kind := "export_statement", startLine := 2, endLine := 2
            text := "export function Dup(a: any) \x7b return <p>\x7ba\x7d</p>; \x7d" }
        [.mk
            { kind := "function_declaration", field := "declaration", startLine := 2, endLine := 2
              text := "function Dup(a: any) \x7b return <p>\x7ba\x7d</p>; \x7d" }
          [.mk { kind := "identifier", field := "name", text := "Dup" } []]],
      .mk
          { kind := "export_statement", startLine := 3, endLine := 3
            text := "export function Card() \x7b return <p/>; \x7d" }
        [.mk
            { kind := "function_declaration", field := "declaration", startLine := 3, endLine := 3
              text := "function Card() \x7b return <p/>; \x7d" }
          [.mk { kind := "identifier", field := "name", text := "Card" } []]]]

/-- The document of this tree. -/
def overloads : Document := { path := "src/Dup.tsx", language := .tsx, source := "", root := overloadTree }

/-- Where this document comes from. -/
def overloadOrigin : DocumentOrigin := ⟨"src/Dup.tsx", "/proj/src/Dup.tsx", 0, 0⟩

/-- Every unit of a document without unreadable places is made from one candidate.  If the
candidate's node declares the unit's name, the search for this name finds the first introduction of
the name, and that is the candidate's own place exactly when the first introduction of the name
makes a unit of this name. -/
theorem find_declaration_of_unit {d : Document} {o : DocumentOrigin} {u : Component}
    (herrors : d.hasErrors = false) (hu : u ∈ d.units o) :
    ∃ c ∈ d.candidates o, u = c.unit d o ∧ (∀ b ∈ d.candidates o, b.name = u.name → b = c) ∧
      (declaredName c.node = some u.name →
        ∃ i ∈ introductions d.root,
          (introductions d.root).find? (·.name? == some u.name) = some i ∧
          findDeclaration d.root u.name = some i.site ∧
          (i.site = c.site ↔ i.makesUnit (Path.ofText o.file).stem u.name)) := by
  rw [Document.units_of_no_errors herrors] at hu
  obtain ⟨c, hc, rfl⟩ := List.mem_map.mp hu
  have hfirst := hc
  rw [Document.candidates, candidates_eq_filter_map, mem_first_by_name] at hfirst
  have hsites : ∀ i ∈ introductions d.root, ∀ c : Candidate,
      i.candidate? (Path.ofText o.file).stem = some c → c.site = i.site :=
    fun i hi c => Introduction.candidate_site (mem_introductions hi).2
  refine ⟨c, hc, rfl, fun b hb hbname => ?_, fun hname => ?_⟩
  · rw [Document.candidates, candidates_eq_filter_map, mem_first_by_name] at hb
    have hbname : b.name = c.name := hbname
    rw [hbname, hfirst] at hb
    exact (Option.some.inj hb).symm
  · obtain ⟨j, hj, hjc⟩ := List.mem_filterMap.mp (List.mem_of_find?_eq_some hfirst)
    have hjsite := hsites j hj c hjc
    have hjname : j.name? = some c.name :=
      (congrArg declaredName (congrArg Site.node hjsite)).symm.trans hname
    obtain ⟨i, hi⟩ : ∃ i, (introductions d.root).find? (·.name? == some c.name) = some i :=
      Option.isSome_iff_exists.mp
        (List.find?_isSome.mpr ⟨j, hj, beq_iff_eq.mpr hjname⟩)
    have himem := List.mem_of_find?_eq_some hi
    have hfound := find_declaration_eq d.root c.name
    rw [hi] at hfound
    refine ⟨i, himem, hi, hfound, fun hsite => ?_, fun hunit => ?_⟩
    · -- one place is introduced only once, so the candidate comes from this introduction
      have hdeclaration : i.declaration = j.declaration :=
        Declaration.eq_of_statement (mem_introductions himem).1 (mem_introductions hj).1
          (congrArg Site.statement (hsite.trans hjsite))
      have hij : i = j := by
        cases i
        cases j
        cases hdeclaration
        cases congrArg Site.node (hsite.trans hjsite)
        rfl
      exact (Option.any_eq_true _ _).mpr ⟨c, hij ▸ hjc, beq_self_eq_true _⟩
    · exact (hsites i himem c
        (candidate_of_first_introduction hsites hi hfirst hname hunit)).symm

theorem find_declaration_of_unit_card :
    overloads.hasErrors = false ∧ ∃ u ∈ overloads.units overloadOrigin, u.name = "Card" ∧
      ∃ c ∈ overloads.candidates overloadOrigin, u = c.unit overloads overloadOrigin ∧
        findDeclaration overloads.root "Card" = some c.site := by
  obtain ⟨u, hu, hname⟩ : ∃ u ∈ overloads.units overloadOrigin, u.name = "Card" := by
    decide
  obtain ⟨c, hc, huc, -, hfound⟩ := find_declaration_of_unit (by decide) hu
  have hdeclared : ∀ c ∈ overloads.candidates overloadOrigin, declaredName c.node = some c.name := by
    decide
  have hunits : ∀ i ∈ introductions overloads.root, i.name? = some "Card" →
      i.makesUnit (Path.ofText overloadOrigin.file).stem "Card" := by
    decide
  have hcname : c.name = u.name := (congrArg Component.name huc).symm
  obtain ⟨i, hi, hfirst, hsite, hexact⟩ := hfound (hcname ▸ hdeclared c hc)
  rw [hname] at hfirst hsite hexact
  have hiname := List.find?_some hfirst
  have hmade := hunits i hi (beq_iff_eq.mp hiname)
  exact ⟨by decide, u, hu, hname, c, hc, huc, hsite.trans (congrArg some (hexact.mpr hmade))⟩

/-- The unit of an overloaded function is made from its implementation, and its name is found at its
first overload. -/
theorem find_declaration_of_overloaded_unit :
    overloads.hasErrors = false ∧
    (overloads.units overloadOrigin).map (·.name) = ["Dup", "Card"] ∧
    (overloads.candidates overloadOrigin).map (fun c => (c.name, c.node.kind)) =
      [("Dup", "function_declaration"), ("Card", "function_declaration")] ∧
    (findDeclaration overloads.root "Dup").map (·.node.kind) = some "function_signature" := by
  decide

/-!
## Nodes below a node

Whatever is reached from a node, through its children, its roles, wrapping calls or the declarations
of its file, is listed by the walk over it.
-/

namespace Node

variable {n m c : Node}

theorem mem_walk_all {l : List Node} : m ∈ walkAll l ↔ ∃ c ∈ l, m ∈ c.walk := by
  induction l with
  | nil => simp [walkAll]
  | cons c l ih => simp [walkAll, ih]

theorem mem_walk_iff : m ∈ n.walk ↔ m = n ∨ ∃ c ∈ n.children, m ∈ c.walk := by
  cases n with
  | mk info children => rw [walk, List.mem_cons, mem_walk_all, Node.children]

theorem mem_walk_self (n : Node) : n ∈ n.walk := mem_walk_iff.2 (.inl rfl)

theorem mem_walk_of_mem_children (h : c ∈ n.children) : c ∈ n.walk :=
  mem_walk_iff.2 (.inr ⟨c, h, c.mem_walk_self⟩)

theorem mem_walk_of_child? {field : String} (h : n.child? field = some c) : c ∈ n.walk :=
  mem_walk_of_mem_children (List.mem_of_find?_eq_some h)

theorem mem_walk_of_mem_named_children (h : c ∈ n.namedChildren) : c ∈ n.walk :=
  mem_walk_of_mem_children (List.mem_filter.mp h).1

/-- Below what is below a node is below the node. -/
theorem mem_walk_trans {n c m : Node} (h : c ∈ n.walk) (h' : m ∈ c.walk) : m ∈ n.walk := by
  rcases mem_walk_iff.1 h with rfl | ⟨child, hchild, hc⟩
  · exact h'
  · exact mem_walk_iff.2 (.inr ⟨child, hchild, mem_walk_trans hc h'⟩)
termination_by sizeOf n
decreasing_by exact sizeOf_lt_of_mem_children hchild

/-- What wrapping calls finally wrap is below them. -/
theorem mem_walk_of_unwrap_calls {n m : Node} (h : n.unwrapCalls = some m) : m ∈ n.walk := by
  rw [unwrapCalls] at h
  split at h
  · split at h
    · next a ha =>
        obtain ⟨arguments, harguments, hhead⟩ := Option.bind_eq_some_iff.mp ha
        exact mem_walk_trans (mem_walk_of_child? harguments) (mem_walk_trans
          (mem_walk_of_mem_named_children (List.mem_of_head? hhead)) (mem_walk_of_unwrap_calls h))
    · cases h
  · exact Option.some.inj h ▸ n.mem_walk_self
termination_by sizeOf n
decreasing_by exact sizeOf_lt_of_firstArgument? ‹_›

/-- The function behind a declaration is below it. -/
theorem mem_walk_of_function_of {fn : Node} (h : n.functionOf = some fn) : fn ∈ n.walk := by
  unfold functionOf at h
  split at h
  · exact Option.some.inj h ▸ n.mem_walk_self
  · split at h
    · obtain ⟨hvalue, -⟩ := Option.filter_eq_some_iff.mp h
      obtain ⟨value, hchild, hunwrapped⟩ := Option.bind_eq_some_iff.mp hvalue
      exact mem_walk_trans (mem_walk_of_child? hchild) (mem_walk_of_unwrap_calls hunwrapped)
    · cases h

end Node

section Sites

variable {root : Node} {name : String} {site : Site}

theorem mem_children_of_statements_from {position : Nat} {previous : Option Node} {l : List Node}
    {s : Statement} (h : s ∈ statementsFrom position previous l) : s.node ∈ l := by
  induction l generalizing position previous with
  | nil => cases h
  | cons c l ih =>
      rw [statementsFrom] at h
      split at h
      · rcases List.mem_cons.mp h with rfl | h
        · exact List.mem_cons_self
        · exact List.mem_cons_of_mem _ (ih h)
      · exact List.mem_cons_of_mem _ (ih h)

theorem mem_walk_of_statement {s : Statement} (h : s ∈ statements root) : s.node ∈ root.walk :=
  Node.mem_walk_of_mem_children (mem_children_of_statements_from h)

/-- A declaration is part of its statement. -/
theorem Declaration.mem_walk_statement {s : Statement} {d : Declaration} (h : s.declaration? = some d) :
    d.node ∈ s.node.walk := by
  unfold Statement.declaration? at h
  split at h
  · obtain ⟨inner, hinner, rfl⟩ := Option.map_eq_some_iff.mp h
    rcases Option.or_eq_some_iff.mp hinner with hdeclared | ⟨-, hvalue⟩
    · exact Node.mem_walk_of_child? hdeclared
    · exact Node.mem_walk_of_child? hvalue
  · split at h
    · cases h
    · cases h
      exact Node.mem_walk_self _

theorem Introduction.mem_walk_declaration {d : Declaration} {i : Introduction}
    (h : i ∈ d.introductions) : i.node ∈ d.node.walk := by
  unfold Declaration.introductions at h
  split at h
  · obtain ⟨v, hv, rfl⟩ := List.mem_map.mp h
    exact Node.mem_walk_of_mem_named_children (List.mem_filter.mp hv).1
  · cases List.mem_singleton.mp h
    exact Node.mem_walk_self _

end Sites

end ComponentMigration
