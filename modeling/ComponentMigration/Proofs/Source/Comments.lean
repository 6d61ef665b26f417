import Mathlib.Data.List.Forall2
import ComponentMigration.Component.Discovery
import ComponentMigration.Proofs.Source.Sites

/-!
# Trees without some of their comments

Comments stand anywhere in a tree and play no role in their parents.  So what is looked up by a role
or by a kind is the same in a tree without them (`Pruned.child`, `Pruned.find`); only what is taken
by its place, the first argument of a call, may change.  A document has the same units without some of
its comments if no comment is what the calls around a declared value finally wrap
(`units_of_pruned`), and may have others if one is (`comment_hides_unit`).
-/

namespace ComponentMigration

/-- A comment: it plays no role in its parent. -/
structure IsComment (n : Node) : Prop where
  kind : n.kind = "comment"
  field : n.info.field = ""

/-- Lists of trees of which the second is the first without some comments, at any depth. -/
inductive Pruned : List Node → List Node → Prop where
  | nil : Pruned [] []
  | drop {c : Node} {rest rest' : List Node} :
      IsComment c → Pruned rest rest' → Pruned (c :: rest) rest'
  | keep {c c' : Node} {rest rest' : List Node} :
      c.info = c'.info → Pruned c.children c'.children → Pruned rest rest' →
      Pruned (c :: rest) (c' :: rest')

/-- A tree is another one without some comments below its root. -/
structure PrunedTo (n n' : Node) : Prop where
  info : n.info = n'.info
  children : Pruned n.children n'.children

namespace PrunedTo

variable {n n' : Node}

theorem kind (h : PrunedTo n n') : n.kind = n'.kind := congrArg NodeInfo.kind h.info

theorem text (h : PrunedTo n n') : n.text = n'.text := congrArg NodeInfo.text h.info

end PrunedTo

section Options

variable {α β : Type} {R : α → α → Prop} {o o' : Option α}

theorem rel_cases (h : Option.Rel R o o') :
    o = none ∧ o' = none ∨ ∃ a a', o = some a ∧ o' = some a' ∧ R a a' := by
  cases h with
  | none => exact .inl ⟨rfl, rfl⟩
  | some hR => exact .inr ⟨_, _, rfl, rfl, hR⟩

theorem map_eq_of_rel {f : α → β} (h : Option.Rel R o o') (hf : ∀ a a', R a a' → f a = f a') :
    o.map f = o'.map f := by
  cases h with
  | none => rfl
  | some hR => exact congrArg some (hf _ _ hR)

theorem rel_or {p p' : Option α} (h : Option.Rel R o o') (hp : Option.Rel R p p') :
    Option.Rel R (o.or p) (o'.or p') := by
  cases h with
  | none => exact hp
  | some hR => exact .some hR

theorem is_some_eq_of_rel (h : Option.Rel R o o') : o.isSome = o'.isSome := by
  cases h <;> rfl

end Options

section Lists

variable {cs cs' : List Node}

/-- What no comment fulfils is fulfilled by the same children. -/
theorem Pruned.filter (h : Pruned cs cs') {p : NodeInfo → Bool}
    (hp : ∀ c, IsComment c → p c.info = false) :
    List.Forall₂ PrunedTo (cs.filter (p ·.info)) (cs'.filter (p ·.info)) := by
  induction h with
  | nil => exact .nil
  | drop hc _ ih => rwa [List.filter_cons_of_neg (by simp [hp _ hc])]
  | @keep c c' rest rest' hinfo hchildren _ _ ih =>
      rw [List.filter_cons, List.filter_cons, hinfo]
      split
      · exact .cons ⟨hinfo, hchildren⟩ ih
      · exact ih

theorem head_of_forall₂ {R : Node → Node → Prop} (h : List.Forall₂ R cs cs') :
    Option.Rel R cs.head? cs'.head? := by
  cases h with
  | nil => exact .none
  | cons hfirst _ => exact .some hfirst

/-- The first child that fulfils what no comment does is the same. -/
theorem Pruned.find (h : Pruned cs cs') {p : NodeInfo → Bool}
    (hp : ∀ c, IsComment c → p c.info = false) :
    Option.Rel PrunedTo (cs.find? (p ·.info)) (cs'.find? (p ·.info)) := by
  rw [← List.head?_filter, ← List.head?_filter]
  exact head_of_forall₂ (h.filter hp)

/-- The first child of those that may be comments is the same unless it is one. -/
theorem Pruned.head (h : Pruned cs cs') {p : NodeInfo → Bool}
    (hfirst : ∀ c ∈ (cs.filter (p ·.info)).head?, ¬IsComment c) :
    Option.Rel PrunedTo (cs.filter (p ·.info)).head? (cs'.filter (p ·.info)).head? := by
  induction h with
  | nil => exact .none
  | @drop c rest rest' hc _ ih =>
      rw [List.filter_cons] at hfirst ⊢
      split at hfirst
      · exact absurd hc (hfirst c rfl)
      · next hinfo =>
          rw [if_neg hinfo]
          exact ih hfirst
  | @keep c c' rest rest' hinfo hchildren _ _ ih =>
      rw [List.filter_cons] at hfirst ⊢
      rw [List.filter_cons, ← hinfo]
      split at hfirst
      · next hp =>
          rw [if_pos hp, if_pos hp]
          exact .some ⟨hinfo, hchildren⟩
      · next hp =>
          rw [if_neg hp, if_neg hp]
          exact ih hfirst

theorem not_kind_of_is_comment {kind : String} (hkind : kind ≠ "comment") {c : Node}
    (hc : IsComment c) : (c.info.kind == kind) = false :=
  beq_eq_false_iff_ne.mpr fun heq => hkind (heq.symm.trans hc.kind)

end Lists

/-- No comment is what the calls around the value of a declarator finally wrap. -/
def WrapsNoComment (v : Node) : Prop :=
  ∀ m ∈ (v.child? "value").bind Node.unwrapCalls, ¬IsComment m

section Nodes

variable {n n' : Node}

theorem unwrap_calls_of_call (h : n.kind == "call_expression") :
    n.unwrapCalls = n.firstArgument?.bind Node.unwrapCalls := by
  rw [Node.unwrapCalls, if_pos h]
  split <;> simp_all

theorem unwrap_calls_of_not_call (h : n.kind ≠ "call_expression") : n.unwrapCalls = some n := by
  rw [Node.unwrapCalls, if_neg fun hkind => h (beq_iff_eq.mp hkind)]

theorem unwrap_calls_of_is_comment (h : IsComment n) : n.unwrapCalls = some n :=
  unwrap_calls_of_not_call (h.kind ▸ (by decide))

namespace PrunedTo

/-- A role is played by the same child. -/
theorem child (h : PrunedTo n n') (field : String) (hfield : field ≠ "") :
    Option.Rel PrunedTo (n.child? field) (n'.child? field) :=
  h.children.find (p := fun info => info.field == field)
    fun _ hc => beq_eq_false_iff_ne.mpr (hc.field ▸ hfield.symm)

theorem child_text (h : PrunedTo n n') (field : String) (hfield : field ≠ "") :
    (n.child? field).map Node.text = (n'.child? field).map Node.text :=
  map_eq_of_rel (h.child field hfield) fun _ _ => PrunedTo.text

theorem declared_name (h : PrunedTo n n') : declaredName n = declaredName n' :=
  h.child_text "name" (by decide)

theorem heritage (h : PrunedTo n n') : Option.Rel PrunedTo (heritage? n) (heritage? n') :=
  h.children.find (p := fun info => info.kind == "class_heritage")
    fun _ hc => not_kind_of_is_comment (by decide) hc

theorem has_token (h : PrunedTo n n') {token : String} (htoken : token ≠ "comment") :
    n.hasToken token = n'.hasToken token := by
  have hfind := is_some_eq_of_rel <|
    h.children.find (p := fun info => !info.named && info.kind == token)
      fun _ hc => by rw [not_kind_of_is_comment htoken hc, Bool.and_false]
  rw [List.isSome_find?, List.isSome_find?] at hfind
  exact hfind

theorem is_function (h : PrunedTo n n') : n.isFunction = n'.isFunction := by
  rw [Node.isFunction, Node.isFunction, h.kind]

theorem is_variable_declaration (h : PrunedTo n n') :
    n.isVariableDeclaration = n'.isVariableDeclaration := by
  rw [Node.isVariableDeclaration, Node.isVariableDeclaration, h.kind]

theorem callee_name (h : PrunedTo n n') : n.calleeName = n'.calleeName := by
  unfold Node.calleeName
  rcases rel_cases (h.child "function" (by decide)) with ⟨hn, hn'⟩ | ⟨fn, fn', hn, hn', hfn⟩
  · rw [hn, hn']
  · rw [hn, hn']
    dsimp only
    rw [hfn.kind, hfn.text, hfn.child_text "property" (by decide)]

/-- The first argument of a call is the same unless it is a comment. -/
theorem first_argument (h : PrunedTo n n') (hfirst : ∀ a ∈ n.firstArgument?, ¬IsComment a) :
    Option.Rel PrunedTo n.firstArgument? n'.firstArgument? := by
  unfold Node.firstArgument? at hfirst ⊢
  rcases rel_cases (h.child "arguments" (by decide)) with ⟨hn, hn'⟩ | ⟨args, args', hn, hn', hargs⟩
  · rw [hn, hn']
    exact .none
  · rw [hn] at hfirst ⊢
    rw [hn']
    exact hargs.children.head (p := NodeInfo.named) hfirst

/-- What a nest of calls finally wraps is the same unless it is a comment. -/
theorem unwrap_calls (h : PrunedTo n n') (hfinal : ∀ m ∈ n.unwrapCalls, ¬IsComment m) :
    Option.Rel PrunedTo n.unwrapCalls n'.unwrapCalls := by
  fun_induction Node.unwrapCalls n generalizing n' with
  | case1 n hcall a ha ih =>
      have hfirst : ∀ b ∈ n.firstArgument?, ¬IsComment b := by
        rintro b hb hcomment
        obtain rfl := Option.some.inj (ha.symm.trans hb)
        exact hfinal a (unwrap_calls_of_is_comment hcomment) hcomment
      have hcall' : n'.kind == "call_expression" := h.kind ▸ hcall
      rw [unwrap_calls_of_call hcall']
      rcases rel_cases (h.first_argument hfirst) with ⟨hn, -⟩ | ⟨b, a', hn, hn', hb⟩
      · exact absurd (ha.symm.trans hn) nofun
      · obtain rfl := Option.some.inj (ha.symm.trans hn)
        rw [hn']
        exact ih hb hfinal
  | case2 n hcall ha =>
      have hcall' : n'.kind == "call_expression" := h.kind ▸ hcall
      rw [unwrap_calls_of_call hcall']
      rcases rel_cases (h.first_argument (by simp [ha])) with ⟨-, hn'⟩ | ⟨b, a', hn, -⟩
      · rw [hn']
        exact .none
      · exact absurd (ha.symm.trans hn) nofun
  | case3 n hcall =>
      rw [Node.unwrapCalls, if_neg (h.kind ▸ hcall)]
      exact .some h

/-- Whether a declarator declares a function is the same unless a comment is what it wraps. -/
theorem declares_function (h : PrunedTo n n') (hwraps : WrapsNoComment n) :
    n.functionOf.isSome = n'.functionOf.isSome := by
  have hvalue : Option.Rel PrunedTo ((n.child? "value").bind Node.unwrapCalls)
      ((n'.child? "value").bind Node.unwrapCalls) := by
    rcases rel_cases (h.child "value" (by decide)) with ⟨hn, hn'⟩ | ⟨v, v', hn, hn', hv⟩
    · rw [hn, hn']
      exact .none
    · rw [WrapsNoComment, hn] at hwraps
      rw [hn, hn']
      exact hv.unwrap_calls hwraps
  unfold Node.functionOf
  rw [← h.is_function, ← h.kind]
  split
  · rfl
  · split
    · rcases rel_cases hvalue with ⟨hn, hn'⟩ | ⟨m, m', hn, hn', hm⟩
      · rw [hn, hn']
      · rw [hn, hn', Option.filter_some, Option.filter_some, hm.is_function]
        split <;> rfl
    · rfl

end PrunedTo

end Nodes

section Candidates

variable {a a' : Declaration} {v v' : Node} {s s' : Statement}

/-- The name and the kind of the unit that a candidate makes. -/
def Candidate.key (c : Candidate) : String × ComponentKind := (c.name, c.kind)

/-- A declarator makes the same unit unless a comment is what it wraps. -/
theorem declarator_key (h : PrunedTo v v') (hwraps : WrapsNoComment v) (s s' : Statement) :
    (declaratorCandidate? s v).map Candidate.key = (declaratorCandidate? s' v').map Candidate.key := by
  unfold declaratorCandidate?
  rw [← h.kind, ← h.declares_function hwraps]
  split
  · rfl
  · rcases rel_cases (h.child "name" (by decide)) with ⟨hn, hn'⟩ | ⟨name, name', hn, hn', hname⟩
    · rw [hn, hn']
    · rcases rel_cases (h.child "value" (by decide)) with ⟨hv, hv'⟩ | ⟨value, value', hv, hv', hvalue⟩
      · rw [hn, hn', hv, hv']
      · rw [hn, hn', hv, hv']
        dsimp only
        rw [← hname.kind, ← hname.text, ← hvalue.kind, ← hvalue.callee_name]
        split
        · rfl
        · split
          · rw [Option.map_map, Option.map_map]
            rfl
          · split <;> rfl

theorem declarators_keys {vs vs' : List Node} (h : List.Forall₂ PrunedTo vs vs')
    (hwraps : ∀ v ∈ vs, WrapsNoComment v) (s s' : Statement) :
    (vs.filterMap (declaratorCandidate? s)).map Candidate.key =
      (vs'.filterMap (declaratorCandidate? s')).map Candidate.key := by
  induction h with
  | nil => rfl
  | @cons v v' vs vs' hv _ ih =>
      obtain ⟨hfirst, hrest⟩ := List.forall_mem_cons.mp hwraps
      have hkey := declarator_key hv hfirst s s'
      rw [List.filterMap_cons, List.filterMap_cons]
      cases hs : declaratorCandidate? s v <;> cases hs' : declaratorCandidate? s' v' <;>
        simp_all

/-- A declaration in a tree without some comments. -/
structure SameDeclaration (a a' : Declaration) : Prop where
  statement : PrunedTo a.statement.node a'.statement.node
  node : PrunedTo a.node a'.node

/-- The variable declarators of a node. -/
def Node.declarators (n : Node) : List Node :=
  n.children.filter fun c => c.info.named && c.info.kind == "variable_declarator"

theorem candidates_of_declarators (h : a.node.isVariableDeclaration) (stem : String) :
    a.candidates stem = a.node.declarators.filterMap (declaratorCandidate? a.statement) := by
  rw [a.candidates_of_variables h, Node.declarators, Node.namedChildren, List.filterMap_filter,
    List.filterMap_filter]
  refine List.filterMap_congr fun v _ => ?_
  cases hnamed : v.info.named with
  | false => rfl
  | true =>
      by_cases hkind : v.info.kind = "variable_declarator"
      · simp [hkind]
      · simp [hkind, declarator_candidate_of_kind hkind]

/-- A declaration makes the same units unless a comment is what one of its declarators wraps. -/
theorem SameDeclaration.candidates (h : SameDeclaration a a')
    (hwraps : a.node.isVariableDeclaration → ∀ v ∈ a.node.declarators, WrapsNoComment v)
    (stem : String) :
    (a.candidates stem).map Candidate.key = (a'.candidates stem).map Candidate.key := by
  by_cases hvariables : a.node.isVariableDeclaration = true
  · rw [candidates_of_declarators hvariables,
      candidates_of_declarators (h.node.is_variable_declaration ▸ hvariables)]
    refine declarators_keys ?_ (hwraps hvariables) _ _
    exact h.node.children.filter (p := fun info => info.named && info.kind == "variable_declarator")
      fun _ hc => by rw [not_kind_of_is_comment (by decide) hc, Bool.and_false]
  · unfold Declaration.candidates
    dsimp only
    rw [← h.node.is_variable_declaration, if_neg hvariables, if_neg hvariables, ← h.node.kind,
      ← h.node.is_function, ← h.node.declared_name, ← h.statement.has_token (by decide)]
    split
    · cases declaredName a.node with
      | none => rfl
      | some name =>
          rw [Option.bind_some, Option.bind_some]
          cases kindForFunction name <;> rfl
    · split
      · rcases rel_cases h.node.heritage with ⟨hn, hn'⟩ | ⟨heritage, heritage', hn, hn', hsame⟩
        · rw [hn, hn']
          cases declaredName a.node <;> rfl
        · rw [hn, hn']
          cases declaredName a.node with
          | none => rfl
          | some name =>
              dsimp only
              rw [← hsame.text]
              split <;> rfl
      · split <;> rfl

end Candidates

section Declarations

variable {cs cs' : List Node}

theorem declaration_of_is_comment {s : Statement} (h : IsComment s.node) :
    s.declaration? = none := by
  rw [Statement.declaration?, if_neg (by simp [h.kind]), if_pos (by simp [h.kind])]

/-- A statement makes the same declaration. -/
theorem PrunedTo.declaration {s s' : Statement} (h : PrunedTo s.node s'.node) :
    Option.Rel SameDeclaration s.declaration? s'.declaration? := by
  unfold Statement.declaration?
  rw [← h.kind]
  split
  · have hinner := rel_or (h.child "declaration" (by decide)) (h.child "value" (by decide))
    rcases rel_cases hinner with ⟨hn, hn'⟩ | ⟨inner, inner', hn, hn', hsame⟩
    · rw [hn, hn']
      exact .none
    · rw [hn, hn']
      exact .some ⟨h, hsame⟩
  · split
    · exact .none
    · exact .some ⟨h, h⟩

/-- The statements of a tree without some comments make the same declarations. -/
theorem Pruned.declarations (h : Pruned cs cs') (position position' : Nat)
    (previous previous' : Option Node) :
    List.Forall₂ SameDeclaration
      ((statementsFrom position previous cs).filterMap Statement.declaration?)
      ((statementsFrom position' previous' cs').filterMap Statement.declaration?) := by
  induction h generalizing position position' previous previous' with
  | nil => exact .nil
  | @drop c rest rest' hc _ ih =>
      rw [statementsFrom]
      split
      · rw [List.filterMap_cons, declaration_of_is_comment hc]
        exact ih _ _ _ _
      · exact ih _ _ _ _
  | @keep c c' rest rest' hinfo hchildren _ _ ih =>
      rw [statementsFrom, statementsFrom, ← hinfo]
      split
      · have hdeclaration : Option.Rel SameDeclaration
            (Statement.mk position previous c).declaration?
            (Statement.mk position' previous' c').declaration? :=
          PrunedTo.declaration ⟨hinfo, hchildren⟩
        rw [List.filterMap_cons, List.filterMap_cons]
        rcases rel_cases hdeclaration with ⟨hn, hn'⟩ | ⟨a, a', hn, hn', hsame⟩
        · rw [hn, hn']
          exact ih _ _ _ _
        · rw [hn, hn']
          exact .cons hsame (ih _ _ _ _)
      · exact ih _ _ _ _

end Declarations

section Units

/-- Keeps the first of the keys with one name. -/
def firstKeys (keys : List (String × ComponentKind)) : List (String × ComponentKind) :=
  keys.foldl (fun acc k => if acc.any (·.1 == k.1) then acc else acc ++ [k]) []

theorem first_by_name_keys (candidates : List Candidate) :
    (firstByName candidates).map Candidate.key = firstKeys (candidates.map Candidate.key) := by
  suffices h : ∀ kept : List Candidate,
      (candidates.foldl
          (fun acc c => if acc.any (·.name == c.name) then acc else acc ++ [c]) kept).map
            Candidate.key =
        (candidates.map Candidate.key).foldl
          (fun acc k => if acc.any (·.1 == k.1) then acc else acc ++ [k]) (kept.map Candidate.key) from
    h []
  induction candidates with
  | nil => exact fun _ => rfl
  | cons c candidates ih =>
      intro kept
      rw [List.foldl_cons, List.map_cons, List.foldl_cons, ih, List.any_map]
      congr 1
      split
      · next hkept => exact (if_pos hkept).symm
      · next hkept =>
          rw [List.map_append]
          exact (if_neg hkept).symm

/-- No comment is what a variable that the file declares finally wraps. -/
def Document.WrapsNoComment (d : Document) : Prop :=
  ∀ a ∈ declarations d.root, a.node.isVariableDeclaration →
    ∀ v ∈ a.node.declarators, ComponentMigration.WrapsNoComment v

variable {d : Document} {root' : Node}

theorem declaration_keys {l l' : List Declaration} (h : List.Forall₂ SameDeclaration l l')
    (hwraps : ∀ a ∈ l, a.node.isVariableDeclaration →
      ∀ v ∈ a.node.declarators, ComponentMigration.WrapsNoComment v) (stem : String) :
    (l.flatMap (·.candidates stem)).map Candidate.key =
      (l'.flatMap (·.candidates stem)).map Candidate.key := by
  induction h with
  | nil => rfl
  | cons hsame _ ih =>
      obtain ⟨hfirst, hrest⟩ := List.forall_mem_cons.mp hwraps
      rw [List.flatMap_cons, List.flatMap_cons, List.map_append, List.map_append,
        hsame.candidates hfirst, ih hrest]

theorem candidates_keys_of_pruned (h : PrunedTo d.root root') (hwraps : d.WrapsNoComment)
    (o : DocumentOrigin) :
    (d.candidates o).map Candidate.key =
      (({ d with root := root' } : Document).candidates o).map Candidate.key := by
  have hsame : List.Forall₂ SameDeclaration (declarations d.root) (declarations root') :=
    h.children.declarations 0 0 none none
  rw [Document.candidates, Document.candidates, first_by_name_keys, first_by_name_keys,
    declaration_keys hsame hwraps]

theorem mem_walk_iff_walk_all {n m : Node} : m ∈ n.walk ↔ m = n ∨ m ∈ Node.walkAll n.children := by
  rw [Node.mem_walk_iff, Node.mem_walk_all]

/-- Below a tree without some comments stands nothing else than below the tree. -/
theorem exists_mem_walk_of_pruned {cs cs' : List Node} (h : Pruned cs cs') :
    ∀ m' ∈ Node.walkAll cs', ∃ m ∈ Node.walkAll cs, m.info = m'.info := by
  induction h with
  | nil => nofun
  | drop hc _ ih =>
      intro m' hm'
      obtain ⟨m, hm, hinfo⟩ := ih m' hm'
      exact ⟨m, List.mem_append_right _ hm, hinfo⟩
  | @keep c c' rest rest' hsame _ _ ihchildren ih =>
      intro m' hm'
      rw [Node.walkAll, List.mem_append, mem_walk_iff_walk_all] at hm'
      rcases hm' with (rfl | hm') | hm'
      · exact ⟨c, List.mem_append_left _ c.mem_walk_self, hsame⟩
      · obtain ⟨m, hm, hinfo⟩ := ihchildren m' hm'
        exact ⟨m, List.mem_append_left _ (mem_walk_iff_walk_all.2 (.inr hm)), hinfo⟩
      · obtain ⟨m, hm, hinfo⟩ := ih m' hm'
        exact ⟨m, List.mem_append_right _ hm, hinfo⟩

theorem has_errors_of_pruned (h : PrunedTo d.root root') (herrors : d.hasErrors = false) :
    ({ d with root := root' } : Document).hasErrors = false := by
  have hwalk := exists_mem_walk_of_pruned (.keep h.info h.children .nil)
  simp only [Document.hasErrors, Document.brokenNodes, Bool.not_eq_false', List.isEmpty_iff,
    List.filter_eq_nil_iff, Node.walkAll, List.append_nil] at herrors hwalk ⊢
  intro m' hm' hbroken
  obtain ⟨m, hm, hinfo⟩ := hwalk m' hm'
  refine herrors m hm ?_
  rwa [Node.isBroken, Node.kind, hinfo]

/-- A document without unreadable places has the same units without some of its comments if no
comment is what a variable finally wraps. -/
theorem units_of_pruned (h : PrunedTo d.root root') (herrors : d.hasErrors = false)
    (hwraps : d.WrapsNoComment) (o : DocumentOrigin) :
    (({ d with root := root' } : Document).units o).map (fun u => (u.name, u.kind)) =
      (d.units o).map (fun u => (u.name, u.kind)) := by
  rw [Document.units_of_no_errors herrors, Document.units_of_no_errors (has_errors_of_pruned h herrors),
    List.map_map, List.map_map]
  exact (candidates_keys_of_pruned h hwraps o).symm

end Units

/-- A comment. -/
def plainComment : Node := .mk { kind := "comment", text := "/* plain */" } []

/-- A function without a name. -/
def plainArrow : Node := .mk { kind := "arrow_function", text := "() => null" } []

/-- The value `memo(...)`. -/
def memoCall (arguments : List Node) : Node :=
  .mk { kind := "call_expression", field := "value" }
    [.mk { kind := "identifier", field := "function", text := "memo" } [],
      .mk { kind := "arguments", field := "arguments" } arguments]

/-- The declarator `Card = memo(...)`. -/
def memoDeclarator (arguments : List Node) : Node :=
  .mk { kind := "variable_declarator" }
    [.mk { kind := "identifier", field := "name", text := "Card" } [], memoCall arguments]

/-- The document of the declaration `const Card = memo(...)`. -/
def memoDocument (above arguments : List Node) : Document :=
  { path := "Card.tsx", language := .tsx, source := ""
    root := .mk { kind := "program" }
      (above ++ [.mk { kind := "lexical_declaration" } [memoDeclarator arguments]]) }

/-- Where this document comes from. -/
def memoOrigin : DocumentOrigin := ⟨"Card.tsx", "/proj/Card.tsx", 0, 0⟩

/-- The comments above this declaration and after the function that it wraps make no difference. -/
theorem units_of_pruned_memo :
    ((memoDocument [] [plainArrow]).units memoOrigin).map (fun u => (u.name, u.kind)) =
      ((memoDocument [plainComment] [plainArrow, plainComment]).units memoOrigin).map
        (fun u => (u.name, u.kind)) := by
  have hcomment : IsComment plainComment := ⟨rfl, rfl⟩
  have harguments : Pruned [plainArrow, plainComment] [plainArrow] :=
    .keep rfl .nil (.drop hcomment .nil)
  have hcall : Pruned (memoCall [plainArrow, plainComment]).children (memoCall [plainArrow]).children :=
    .keep rfl .nil (.keep rfl harguments .nil)
  have hdeclarator : Pruned [memoDeclarator [plainArrow, plainComment]]
      [memoDeclarator [plainArrow]] :=
    .keep rfl (.keep rfl .nil (.keep rfl hcall .nil)) .nil
  have hpruned : PrunedTo (memoDocument [plainComment] [plainArrow, plainComment]).root
      (memoDocument [] [plainArrow]).root :=
    ⟨rfl, .drop hcomment (.keep rfl hdeclarator .nil)⟩
  refine units_of_pruned hpruned (by decide) ?_ memoOrigin
  intro a ha _ v hv
  obtain rfl := List.mem_singleton.mp ha
  obtain rfl := List.mem_singleton.mp hv
  have hwrapped : ((memoDeclarator [plainArrow, plainComment]).child? "value").bind
      Node.unwrapCalls = some plainArrow :=
    (unwrap_calls_of_call rfl).trans (unwrap_calls_of_not_call (by decide))
  intro m hm hmcomment
  obtain rfl := Option.some.inj (hwrapped.symm.trans hm)
  exact absurd hmcomment.kind (by decide)

/-- A comment before the function that it wraps hides this unit. -/
theorem comment_hides_unit :
    PrunedTo (memoDocument [] [plainComment, plainArrow]).root (memoDocument [] [plainArrow]).root ∧
      (memoDocument [] [plainComment, plainArrow]).hasErrors = false ∧
      ((memoDocument [] [plainComment, plainArrow]).units memoOrigin).map
        (fun u => (u.name, u.kind)) = [] ∧
      ((memoDocument [] [plainArrow]).units memoOrigin).map (fun u => (u.name, u.kind)) =
        [("Card", .functional)] := by
  have hcall : Pruned (memoCall [plainComment, plainArrow]).children (memoCall [plainArrow]).children :=
    .keep rfl .nil (.keep rfl (.drop ⟨rfl, rfl⟩ (.keep rfl .nil .nil)) .nil)
  refine ⟨⟨rfl, .keep rfl (.keep rfl (.keep rfl .nil (.keep rfl hcall .nil)) .nil) .nil⟩, by decide,
    ?_, ?_⟩
  · rw [Document.units_of_no_errors (by decide), List.map_map]
    change List.map Candidate.key _ = _
    decide +kernel
  · rw [Document.units_of_no_errors (by decide), List.map_map]
    change List.map Candidate.key _ = _
    decide +kernel

end ComponentMigration
