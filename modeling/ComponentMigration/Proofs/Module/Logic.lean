import Mathlib.Order.Bounds.Basic
import ComponentMigration.Proofs.Module.Drafting
import ComponentMigration.Proofs.Module.Marking

/-!
# What is lifted and what is kept

A component's logic is the least set of its statements that goes with the declarations it refers to,
and a module keeps the least set of declarations of its file that it needs.
-/

namespace ComponentMigration

/-!
## The logic that is lifted out of a function component

Marking starts from functions and hook calls and goes on until every plain declaration of a name
that a lifted statement refers to is lifted as well (`lifted_of_referenced`).  The hook of a
function component consists of the lifted statements and of the component's own destructuring of its
props, and it returns what the lifted statements declare (`lifted_logic_closed`).  Declarations with
elements in them and local types and classes stay in the component, whoever refers to them.
-/

/-- The statements of a body that are lifted into the hook. -/
def liftedStatements (statements : List Node) : List Node :=
  ((logicStatements statements).filter (·.2)).map (·.1)

section Marks

variable {statements : List Node} {marked : List (Node × Bool)} {stmt other : Node} {n : String}

theorem MarksGrow.exists_mem_of_mem {α : Type} {m m' : List (α × Bool)} {y : α × Bool}
    (h : MarksGrow m m') (hy : y ∈ m') : ∃ x ∈ m, y.1 = x.1 ∧ (x.2 → y.2) := by
  induction h with
  | nil => cases hy
  | cons hxy _ ih =>
      rcases List.mem_cons.mp hy with rfl | hy
      · exact ⟨_, List.mem_cons_self, hxy⟩
      · obtain ⟨x, hx, hrel⟩ := ih hy
        exact ⟨x, List.mem_cons_of_mem _ hx, hrel⟩

theorem mark_needed_grows (marked : List (Node × Bool)) : MarksGrow marked (markNeeded marked) := by
  unfold markNeeded
  refine List.forall₂_map_right_iff.mpr (List.forall₂_same.mpr fun x _ => ⟨rfl, fun hx => ?_⟩)
  dsimp only
  rw [hx, Bool.true_or]

/-- The rounds one after another, with their number and the marks in the end.  After a round that
changes the marks there is another one. -/
inductive MarkLoop : List (Node × Bool) → Nat → List (Node × Bool) → Prop
  | stop {marked : List (Node × Bool)} (h : markNeeded marked = marked) : MarkLoop marked 1 marked
  | again {marked result : List (Node × Bool)} {rounds : Nat} (h : markNeeded marked ≠ marked)
      (hrest : MarkLoop (markNeeded marked) rounds result) : MarkLoop marked (rounds + 1) result

/-- Each round but the last marks a statement, so the rounds come to an end. -/
theorem mark_all_loop {fuel : Nat} (hfuel : marked.length < fuel + markCount marked) :
    ∃ rounds, MarkLoop marked rounds (markAll fuel marked) ∧
      rounds + markCount marked ≤ marked.length + 1 := by
  induction fuel generalizing marked with
  | zero =>
      have := mark_count_le marked
      omega
  | succ fuel ih =>
      have hgrows := mark_needed_grows marked
      unfold markAll
      dsimp only
      split
      · next hcount =>
          have hbound := mark_count_le marked
          exact ⟨1, .stop (hgrows.eq_of_count (beq_iff_eq.mp hcount)), by omega⟩
      · next hcount =>
          have hne : markCount (markNeeded marked) ≠ markCount marked := fun heq =>
            hcount (beq_iff_eq.mpr heq)
          have hlt := hgrows.count_lt hne
          have hlength := hgrows.length_eq
          have hfuel : (markNeeded marked).length < fuel + markCount (markNeeded marked) := by
            omega
          obtain ⟨rounds, hrest, hrounds⟩ := ih hfuel
          exact ⟨rounds + 1, .again (fun heq => hne (congrArg markCount heq)) hrest, by omega⟩

/-- The rounds end with marks to which no round would add. -/
theorem MarkLoop.spec {result : List (Node × Bool)} {rounds : Nat}
    (hloop : MarkLoop marked rounds result) :
    MarksGrow marked result ∧ markNeeded result = result := by
  induction hloop with
  | stop hfixed => exact ⟨.refl _, hfixed⟩
  | again _ _ ih => exact ⟨(mark_needed_grows _).trans ih.1, ih.2⟩

/-- The marks on the statements that are logic by themselves. -/
def ownMarks (statements : List Node) : List (Node × Bool) :=
  statements.map fun s => (s, isLogicStatement s)

/-- Over a body there is at most one round more than there are statements. -/
theorem mark_loop_start (statements : List Node) :
    ∃ rounds, MarkLoop (ownMarks statements) rounds (logicStatements statements) ∧
      rounds ≤ statements.length + 1 := by
  have hlength : (ownMarks statements).length = statements.length := List.length_map _
  have hfuel : (ownMarks statements).length <
      statements.length + 1 + markCount (ownMarks statements) := by omega
  obtain ⟨rounds, hloop, hrounds⟩ := mark_all_loop hfuel
  exact ⟨rounds, hloop, by omega⟩

theorem logic_statements_spec (statements : List Node) :
    MarksGrow (ownMarks statements) (logicStatements statements) ∧
      markNeeded (logicStatements statements) = logicStatements statements := by
  obtain ⟨rounds, hloop, -⟩ := mark_loop_start statements
  exact hloop.spec

theorem logic_statements_items (statements : List Node) :
    (logicStatements statements).map Prod.fst = statements := by
  refine (logic_statements_spec statements).1.items.trans ?_
  rw [ownMarks, List.map_map]
  exact List.map_id _

theorem mem_lifted_statements : stmt ∈ liftedStatements statements ↔
    (stmt, true) ∈ logicStatements statements := by
  constructor
  · intro h
    obtain ⟨⟨stmt, marked⟩, hmem, rfl⟩ := List.mem_map.mp h
    obtain ⟨hmem, rfl⟩ := List.mem_filter.mp hmem
    exact hmem
  · exact fun h => List.mem_map.mpr ⟨(stmt, true), List.mem_filter.mpr ⟨h, rfl⟩, rfl⟩

/-- A statement that belongs to the logic of a body: by itself, or as a plain declaration of a name
that a statement of the logic refers to. -/
inductive IsLogic (statements : List Node) : Node → Prop
  | itself {stmt : Node} (hmem : stmt ∈ statements) (h : isLogicStatement stmt) :
      IsLogic statements stmt
  | referenced {user stmt : Node} {n : String} (huser : IsLogic statements user)
      (hn : n ∈ references user) (hmem : stmt ∈ statements) (hplain : isPlainDeclaration stmt)
      (hdeclared : n ∈ declaredNames stmt) : IsLogic statements stmt

theorem IsLogic.mem (h : IsLogic statements stmt) : stmt ∈ statements := by
  cases h with
  | itself hmem => exact hmem
  | referenced _ _ hmem => exact hmem

theorem mark_needed_eq (marked : List (Node × Bool)) :
    markNeeded marked = marked.map fun x => (x.1, x.2 || (isPlainDeclaration x.1 &&
      (declaredNames x.1).any ((marked.filter (·.2)).flatMap fun y => references y.1).contains)) :=
  rfl

/-- A name is needed if a marked statement refers to it. -/
theorem mem_needed : n ∈ (marked.filter (·.2)).flatMap (fun x => references x.1) ↔
    ∃ user, (user, true) ∈ marked ∧ n ∈ references user := by
  simp [List.mem_flatMap, List.mem_filter]

/-- A round marks only what belongs to the logic. -/
theorem mark_needed_sound (hitems : ∀ x ∈ marked, x.1 ∈ statements)
    (hmarked : ∀ s, (s, true) ∈ marked → IsLogic statements s) :
    ∀ s, (s, true) ∈ markNeeded marked → IsLogic statements s := by
  intro s hs
  rw [mark_needed_eq] at hs
  obtain ⟨⟨s, wasMarked⟩, hmem, heq⟩ := List.mem_map.mp hs
  obtain ⟨rfl, hmark⟩ := Prod.mk.inj heq
  rcases Bool.or_eq_true_iff.mp hmark with rfl | hneeded
  · exact hmarked s hmem
  · obtain ⟨hplain, hname⟩ := Bool.and_eq_true_iff.mp hneeded
    obtain ⟨n, hdeclared, hn⟩ := List.any_eq_true.mp hname
    obtain ⟨user, huser, hn⟩ := mem_needed.1 (List.contains_iff_mem.mp hn)
    exact .referenced (hmarked user huser) hn (hitems _ hmem) hplain hdeclared

theorem MarkLoop.sound {result : List (Node × Bool)} {rounds : Nat}
    (hloop : MarkLoop marked rounds result) (hitems : ∀ x ∈ marked, x.1 ∈ statements)
    (hmarked : ∀ s, (s, true) ∈ marked → IsLogic statements s) :
    ∀ s, (s, true) ∈ result → IsLogic statements s := by
  induction hloop with
  | stop _ => exact hmarked
  | @again marked _ _ _ _ ih =>
      refine ih (fun x hx => ?_) (mark_needed_sound hitems hmarked)
      have hx : x.1 ∈ marked.map Prod.fst :=
        (mark_needed_grows marked).items ▸ List.mem_map_of_mem hx
      obtain ⟨y, hy, heq⟩ := List.mem_map.mp hx
      exact heq ▸ hitems y hy

/-- Only statements of the logic are marked in the end. -/
theorem is_logic_of_marked (h : (stmt, true) ∈ logicStatements statements) :
    IsLogic statements stmt := by
  obtain ⟨rounds, hloop, -⟩ := mark_loop_start statements
  refine hloop.sound (fun x hx => ?_) (fun s hs => ?_) stmt h
  · obtain ⟨s, hs, rfl⟩ := List.mem_map.mp hx
    exact hs
  · obtain ⟨s, hmem, heq⟩ := List.mem_map.mp hs
    obtain ⟨rfl, hlogic⟩ := Prod.mk.inj heq
    exact .itself hmem hlogic

/-- Along the chain of references by which a statement belongs to the logic, each one is marked: the
first from the start, and the others because the last round changes nothing. -/
theorem marked_of_is_logic (h : IsLogic statements stmt) {mark : Bool}
    (hmark : (stmt, mark) ∈ logicStatements statements) : mark = true := by
  obtain ⟨hgrows, hfixed⟩ := logic_statements_spec statements
  induction h generalizing mark with
  | itself _ hlogic =>
      obtain ⟨y, hy, heq, hkept⟩ := hgrows.exists_mem_of_mem hmark
      obtain ⟨s, -, rfl⟩ := List.mem_map.mp hy
      obtain rfl := heq
      exact hkept hlogic
  | @referenced user s n huser hn _ hplain hdeclared ih =>
      obtain ⟨⟨user, userMark⟩, hy, rfl⟩ :=
        List.mem_map.mp (logic_statements_items statements ▸ huser.mem)
      obtain rfl : userMark = true := ih hy
      rw [mark_needed_eq] at hfixed
      have hround := congrArg Prod.snd
        (List.map_inj_left.mp (hfixed.trans (List.map_id _).symm) _ hmark)
      have hneeded : (declaredNames s).any (((logicStatements statements).filter (·.2)).flatMap
          fun y => references y.1).contains :=
        List.any_eq_true.mpr
          ⟨n, hdeclared, List.contains_iff_mem.mpr (mem_needed.2 ⟨_, hy, hn⟩)⟩
      dsimp only at hround
      rw [hplain, hneeded, Bool.and_true, Bool.or_true] at hround
      exact hround.symm

/-- The lifted statements are those of the logic. -/
theorem mem_lifted_iff_is_logic :
    stmt ∈ liftedStatements statements ↔ IsLogic statements stmt := by
  rw [mem_lifted_statements]
  refine ⟨is_logic_of_marked, fun h => ?_⟩
  obtain ⟨⟨s, mark⟩, hx, rfl⟩ := List.mem_map.mp (logic_statements_items statements ▸ h.mem)
  obtain rfl : mark = true := marked_of_is_logic h hx
  exact hx

/-- Functions and hook calls are lifted. -/
theorem lifted_of_is_logic (hmem : stmt ∈ statements) (hlogic : isLogicStatement stmt) :
    stmt ∈ liftedStatements statements :=
  mem_lifted_iff_is_logic.2 (.itself hmem hlogic)

/-- A plain declaration of a name that a lifted statement refers to is lifted. -/
theorem lifted_of_referenced (hstmt : stmt ∈ liftedStatements statements)
    (hn : n ∈ references stmt) (hmem : other ∈ statements) (hplain : isPlainDeclaration other)
    (hdeclared : n ∈ declaredNames other) : other ∈ liftedStatements statements :=
  mem_lifted_iff_is_logic.2
    (.referenced (mem_lifted_iff_is_logic.1 hstmt) hn hmem hplain hdeclared)

/-- The kinds of declarations that stay in the component although they declare names. -/
def stayingKinds : List String :=
  ["class_declaration", "interface_declaration", "type_alias_declaration", "enum_declaration"]

/-- Of the declarations of a name that lifted statements refer to, only those with an element in
them and those of classes and types are not lifted. -/
theorem lifted_or_staying (hstmt : stmt ∈ liftedStatements statements) (hn : n ∈ references stmt)
    (hmem : other ∈ statements) (hdeclared : n ∈ declaredNames other) :
    other ∈ liftedStatements statements ∨
      (other.isVariableDeclaration ∧ hasElement other) ∨ other.kind ∈ stayingKinds := by
  by_cases hvariable : other.isVariableDeclaration
  · by_cases helement : hasElement other
    · exact .inr (.inl ⟨hvariable, helement⟩)
    · refine .inl (lifted_of_referenced hstmt hn hmem ?_ hdeclared)
      rw [isPlainDeclaration, hvariable, Bool.eq_false_iff.mpr helement]
      rfl
  · unfold declaredNames at hdeclared
    split at hdeclared
    · next hkind =>
        by_cases hstays : other.kind ∈ stayingKinds
        · exact .inr (.inr hstays)
        · refine .inl (lifted_of_is_logic hmem ?_)
          have hfunction : other.kind = "function_declaration" ∨
              other.kind = "generator_function_declaration" := by
            have hkind := List.contains_iff_mem.mp hkind
            simp only [namedDeclarationKinds, List.mem_cons, List.not_mem_nil, or_false] at hkind
            simp only [stayingKinds, List.mem_cons, List.not_mem_nil, or_false] at hstays
            tauto
          rw [isLogicStatement, if_pos (by simpa using hfunction)]
    · cases hdeclared

end Marks

section Hook

/-- The text under which a body statement appears in the module. -/
def placedText (lines : List String) (stmt : Node) : String :=
  reindent stmt.text (lineIndent lines stmt) indentUnit

/-- The line that takes the props apart as the source does. -/
def propsPrelude (s : Signature) : List String :=
  match s.destructure with
  | some pattern =>
    if pattern.isEmpty then []
    else [indentUnit ++ "const " ++ pattern ++ " = " ++ s.propsName ++ ";"]
  | none => []

/-- The pieces that come from placing marked statements after others.  Marked ones go into the hook,
with what they declare apart from the props, the others into the component. -/
structure Pieces.Places (s : Signature) (lines : List String) (marked : List (Node × Bool))
    (p placed : Pieces) : Prop where
  prelude : placed.prelude = p.prelude
  lifted : placed.lifted = p.lifted ++ ((marked.filter (·.2)).map (·.1)).map (placedText lines)
  render : placed.render = p.render ++ ((marked.filter (!·.2)).map (·.1)).map (placedText lines)
  nodup : p.names.Nodup → placed.names.Nodup
  mem_names : ∀ n, n ∈ placed.names ↔ n ∈ p.names ∨
    ∃ stmt, (stmt, true) ∈ marked ∧ n ∈ declaredNames stmt ∧ n ∉ s.propNames

theorem place_statements_spec (lines : List String) (s : Signature) (logicNames : List String)
    (marked : List (Node × Bool)) (p : Pieces) (found : List (String × String)) :
    p.Places s lines marked (marked.foldl (placeStatement lines s logicNames) (p, found)).1 := by
  induction marked generalizing p found with
  | nil =>
      exact ⟨rfl, (List.append_nil _).symm, (List.append_nil _).symm, id, fun n => by simp⟩
  | cons x marked ih =>
      obtain ⟨stmt, isLogic⟩ := x
      rw [List.foldl_cons]
      cases isLogic with
      | true =>
          obtain ⟨hprelude, hlifted, hrender, hnodup, hnames⟩ := ih
            { p with
              lifted := p.lifted ++ [placedText lines stmt]
              names := ((declaredNames stmt).filter fun n => !s.propNames.contains n).foldl
                Text.appendUnique p.names }
            (found ++ ((declaredNames stmt).filter logicNames.contains).map
              (·, placedText lines stmt))
          refine ⟨hprelude, hlifted.trans ?_, hrender, fun h => ?_, fun n => (hnames n).trans ?_⟩
          · simp
          · exact hnodup (nodup_fold_append_unique h _)
          · rw [mem_fold_append_unique, List.mem_filter]
            simp [or_assoc]
      | false =>
          obtain ⟨hprelude, hlifted, hrender, hnodup, hnames⟩ := ih
            { p with render := p.render ++ [placedText lines stmt] } found
          refine ⟨hprelude, hlifted, hrender.trans ?_, hnodup, fun n => (hnames n).trans ?_⟩
          · simp
          · simp

/-- The statements of a body with a mark on those that go into the hook; without extraction none
does. -/
def placements (extract : Bool) (statements : List Node) : List (Node × Bool) :=
  if extract then logicStatements statements else statements.map (·, false)

/-- The pieces of a function component from which no statement has been placed yet. -/
def startPieces (s : Signature) : Pieces :=
  { signature := s.text, arguments := s.arguments, prelude := propsPrelude s }

/-- A function component with a block as its body is written from its statements where they are
placed. -/
theorem Draft.convert_function_pieces (d : Draft) (extract : Bool) (n : Node) {fn body : Node}
    (hbody : fn.child? "body" = some body) (hblock : body.kind = "statement_block") :
    ∃ (base : Draft) (p : Pieces), base.component = d.component ∧ base.lines = d.lines ∧
      d.convertFunction extract n fn = base.emit n p ∧
      (startPieces (signatureOf d.name fn)).Places (signatureOf d.name fn) d.lines
        (placements extract body.namedChildren) p := by
  let placed := (placements extract body.namedChildren).foldl
    (placeStatement d.lines (signatureOf d.name fn) (d.component.businessLogic.map LogicSpec.name))
    (startPieces (signatureOf d.name fn), [])
  let base : Draft := { d with lifted := d.lifted ++ placed.2 }
  have hemit : d.convertFunction extract n fn = base.emit n placed.1 := by
    unfold Draft.convertFunction
    dsimp only
    rw [hbody]
    dsimp only
    rw [if_pos (beq_iff_eq.mpr hblock)]
    rfl
  exact ⟨base, placed.1, rfl, rfl, hemit, place_statements_spec _ _ _ _ _ _⟩

/-- The text of a hook; without lifted statements there is none. -/
def hookText (d : Draft) (p : Pieces) : String :=
  if p.lifted.isEmpty then "" else String.intercalate "\n" (hookLines d p)

theorem hook_text_congr {d d' : Draft} (h : d'.component = d.component) (p : Pieces) :
    hookText d' p = hookText d p := by
  simp only [hookText, hookLines, Draft.hookName, Draft.name, h]

/-- The hook of a function component has the lifted statements after the destructuring of the props,
and returns what they declare apart from the props. -/
theorem Draft.convert_function_hook (d : Draft) (n : Node) {fn body : Node}
    (hbody : fn.child? "body" = some body) (hblock : body.kind = "statement_block") :
    ∃ p, (d.convertFunction true n fn).hook = hookText d p ∧
      p.prelude = propsPrelude (signatureOf d.name fn) ∧
      p.lifted = (liftedStatements body.namedChildren).map (placedText d.lines) ∧
      ∀ x, x ∈ p.names ↔ ∃ stmt ∈ liftedStatements body.namedChildren,
        x ∈ declaredNames stmt ∧ x ∉ (signatureOf d.name fn).propNames := by
  obtain ⟨base, p, hcomponent, -, heq, hplaces⟩ := d.convert_function_pieces true n hbody hblock
  refine ⟨p, ?_, hplaces.prelude, hplaces.lifted, fun x => (hplaces.mem_names x).trans ?_⟩
  · rw [heq]
    exact hook_text_congr hcomponent p
  · simp only [mem_lifted_statements, startPieces, List.not_mem_nil, false_or, placements, if_pos]

end Hook

/-- The statements of a component that has an element and a class of its own, and whose function
`next` refers to both and to a plain value. -/
def stepperStatements : List Node :=
  [.mk { kind := "lexical_declaration", text := "const elem = <b/>;" }
      [.mk { kind := "variable_declarator" }
        [.mk { kind := "identifier", field := "name", text := "elem" } [],
          .mk { kind := "jsx_self_closing_element", field := "value", text := "<b/>" } []]],
    .mk { kind := "class_declaration", text := "class Local \x7b\x7d" }
      [.mk { kind := "type_identifier", field := "name", text := "Local" } []],
    .mk { kind := "lexical_declaration", text := "const step = 1;" }
      [.mk { kind := "variable_declarator" }
        [.mk { kind := "identifier", field := "name", text := "step" } [],
          .mk { kind := "number", field := "value", text := "1" } []]],
    .mk { kind := "lexical_declaration", text := "const next = () => [elem, Local, step];" }
      [.mk { kind := "variable_declarator" }
        [.mk { kind := "identifier", field := "name", text := "next" } [],
          .mk { kind := "arrow_function", field := "value", text := "() => [elem, Local, step]" }
            [.mk { kind := "array", field := "body", text := "[elem, Local, step]" }
              [.mk { kind := "identifier", text := "elem" } [],
                .mk { kind := "identifier", text := "Local" } [],
                .mk { kind := "identifier", text := "step" } []]]]],
    .mk { kind := "return_statement", text := "return elem;" }
      [.mk { kind := "identifier", text := "elem" } []]]

/-- The function of this component. -/
def stepperFunction : Node :=
  .mk { kind := "function_declaration" }
    [.mk { kind := "identifier", field := "name", text := "Stepper" } [],
      .mk { kind := "formal_parameters", field := "parameters", text := "()" } [],
      .mk { kind := "statement_block", field := "body" } stepperStatements]

/-- The place of this function in its file. -/
def stepperSite : Site := ⟨⟨0, none, stepperFunction⟩, stepperFunction⟩

/-- The unit of this function. -/
def stepper : Component :=
  { id := "src/Stepper.tsx:Stepper", name := "Stepper", filePath := "src/Stepper.tsx",
    absolutePath := "/proj/src/Stepper.tsx" }

/-- The hook of a function component holds exactly the lifted statements, behind the component's own
destructuring of its props.  A name that a lifted statement refers to and that some statement of the
body declares is declared by a lifted statement too, unless it is declared by variables with an
element among them or by a local class or type. -/
theorem lifted_logic_closed {options : TransformSettings} {component : Component} {source : String}
    {root fn body : Node} {site : Site} {place : FaultContext}
    (hkind : component.kind = .functional) (hfn : site.node.functionOf = some fn)
    (hbody : fn.child? "body" = some body) (hblock : body.kind = "statement_block")
    (hextract : options.extractBusinessLogic = true) :
    ∃ d, Draft.ofSite options component source root site place = .ok d ∧
      (∃ p, d.hook = hookText d p ∧ p.prelude = propsPrelude (signatureOf component.name fn) ∧
        p.lifted =
          (liftedStatements body.namedChildren).map (placedText (Text.lines source)) ∧
        ∀ x, x ∈ p.names ↔ ∃ stmt ∈ liftedStatements body.namedChildren,
          x ∈ declaredNames stmt ∧ x ∉ (signatureOf component.name fn).propNames) ∧
      ∀ stmt ∈ liftedStatements body.namedChildren, ∀ n ∈ references stmt,
        ∀ other ∈ body.namedChildren, n ∈ declaredNames other →
          (other.isVariableDeclaration ∧ hasElement other) ∨ other.kind ∈ stayingKinds ∨
          ∃ l ∈ liftedStatements body.namedChildren, n ∈ declaredNames l := by
  have hconverted : Draft.ofSite options component source root site place = .ok
      ((Draft.gatheredFor component source root site).convertFunction true site.node fn) := by
    rw [Draft.of_site_eq, hkind, hfn, hextract]
  have hcomponent : (Draft.gatheredFor component source root site).component = component :=
    Draft.component_gathered_for
  have hlines : (Draft.gatheredFor component source root site).lines = Text.lines source :=
    Draft.lines_gathered_for
  refine ⟨_, hconverted, ?_, fun stmt hstmt n hn other hother hdeclared => ?_⟩
  · generalize Draft.gatheredFor component source root site = start at hcomponent hlines ⊢
    obtain ⟨p, hhook, hpieces⟩ := start.convert_function_hook site.node hbody hblock
    rw [Draft.name, hcomponent, hlines] at hpieces
    exact ⟨p, hhook, hpieces⟩
  · rcases lifted_or_staying hstmt hn hother hdeclared with hlifted | helement | hstays
    · exact .inr (.inr ⟨other, hlifted, hdeclared⟩)
    · exact .inl helement
    · exact .inr (.inl hstays)

theorem lifted_logic_closed_step :
    (∃ d, Draft.ofSite {} stepper "" (.mk { kind := "program" } [stepperFunction]) stepperSite {} =
      .ok d) ∧
    (∃ stmt ∈ liftedStatements stepperStatements, "step" ∈ references stmt) ∧
    ∃ l ∈ liftedStatements stepperStatements, "step" ∈ declaredNames l := by
  obtain ⟨d, hd, -, hclosed⟩ := @lifted_logic_closed {} stepper ""
    (.mk { kind := "program" } [stepperFunction]) stepperFunction
    (.mk { kind := "statement_block", field := "body" } stepperStatements) stepperSite {}
    rfl rfl rfl rfl rfl
  have hreferred : ∃ stmt ∈ liftedStatements stepperStatements, "step" ∈ references stmt := by
    decide
  have hplain : ∀ other ∈ stepperStatements, "step" ∈ declaredNames other →
      ¬(other.isVariableDeclaration ∧ hasElement other) ∧ other.kind ∉ stayingKinds := by
    decide
  obtain ⟨other, hother, hdeclared⟩ : ∃ other ∈ stepperStatements, "step" ∈ declaredNames other := by
    decide
  obtain ⟨stmt, hstmt, hn⟩ := hreferred
  refine ⟨⟨d, hd⟩, ⟨stmt, hstmt, hn⟩, ?_⟩
  rcases hclosed stmt hstmt "step" hn other hother hdeclared with helement | hstays | hlifted
  · exact absurd helement (hplain other hother hdeclared).1
  · exact absurd hstays (hplain other hother hdeclared).2
  · exact hlifted

/-- The lifted function refers to the element and to the class, which stay in the component and are
no props. -/
theorem lifted_logic_misses_element_and_class :
    (∃ stmt ∈ liftedStatements stepperStatements,
      "elem" ∈ references stmt ∧ "Local" ∈ references stmt) ∧
    (∃ other ∈ stepperStatements, "elem" ∈ declaredNames other) ∧
    (∃ other ∈ stepperStatements, "Local" ∈ declaredNames other) ∧
    (∀ l ∈ liftedStatements stepperStatements,
      "elem" ∉ declaredNames l ∧ "Local" ∉ declaredNames l) ∧
    "elem" ∉ (signatureOf "Stepper" stepperFunction).propNames ∧
    "Local" ∉ (signatureOf "Stepper" stepperFunction).propNames := by
  decide

/-!
## The logic as a least set

The places that are marked in the end are the least set that has every statement that is logic by
itself and, with a statement, every declaration of variables without an element that declares a name
to which the statement refers (`logic_statements_least`).  Places are told apart, not statements: a
body may say the same twice.
-/

section LeastLogic

variable {statements : List Node}

/-- The kinds of elements. -/
def elementKinds : List String := ["jsx_element", "jsx_self_closing_element"]

theorem is_plain_declaration_iff {stmt : Node} : isPlainDeclaration stmt = true ↔
    stmt.isVariableDeclaration ∧ ∀ m ∈ stmt.walk, m.kind ∉ elementKinds := by
  have hnone : ∀ kind : String, (stmt.first? kind).isSome = false ↔
      ∀ m ∈ stmt.walk, m.kind ≠ kind := by
    intro kind
    rw [Node.first?, Option.isSome_eq_false_iff, Option.isNone_iff_eq_none, List.find?_eq_none]
    simp
  simp only [isPlainDeclaration, hasElement, elementKinds, Bool.and_eq_true, Bool.not_eq_true',
    Bool.or_eq_false_iff, hnone, List.mem_cons, List.not_mem_nil, or_false, not_or]
  exact and_congr_right fun _ => forall₂_and.symm

/-- A set of places of a body that has all logic, and with each statement the declarations of
variables that the statement refers to, those with an element apart. -/
structure ClosedUnderReference (statements : List Node) (S : Set Nat) : Prop where
  logic : ∀ i stmt, statements[i]? = some stmt → isLogicStatement stmt → i ∈ S
  referenced : ∀ i ∈ S, ∀ user, statements[i]? = some user →
    ∀ j stmt, statements[j]? = some stmt → stmt.isVariableDeclaration →
      (∀ m ∈ stmt.walk, m.kind ∉ elementKinds) →
      (∃ n ∈ declaredNames stmt, n ∈ references user) → j ∈ S

/-- The places of a body whose statements are marked. -/
def markedPlaces (marked : List (Node × Bool)) : Set Nat :=
  {i | ∃ stmt, marked[i]? = some (stmt, true)}

theorem mem_marked_places {i : Nat} : i ∈ markedPlaces (logicStatements statements) ↔
    ∃ stmt, statements[i]? = some stmt ∧ IsLogic statements stmt := by
  have hitem : statements[i]? = (logicStatements statements)[i]?.map Prod.fst := by
    rw [← List.getElem?_map, logic_statements_items]
  constructor
  · rintro ⟨stmt, hi⟩
    refine ⟨stmt, by rw [hitem, hi]; rfl, ?_⟩
    exact is_logic_of_marked (List.mem_of_getElem? hi)
  · rintro ⟨stmt, hi, hlogic⟩
    rw [hitem] at hi
    obtain ⟨⟨s, mark⟩, hs, rfl⟩ := Option.map_eq_some_iff.mp hi
    obtain rfl : mark = true := marked_of_is_logic hlogic (List.mem_of_getElem? hs)
    exact ⟨s, hs⟩

theorem closed_under_reference_marked (statements : List Node) :
    ClosedUnderReference statements (markedPlaces (logicStatements statements)) where
  logic i stmt hi hlogic :=
    mem_marked_places.2 ⟨stmt, hi, .itself (List.mem_of_getElem? hi) hlogic⟩
  referenced := by
    intro i himarked user hi j stmt hj hvariable helement ⟨n, hdeclared, hn⟩
    obtain ⟨user, hi', huser⟩ := mem_marked_places.1 himarked
    obtain rfl := Option.some.inj (hi.symm.trans hi')
    exact mem_marked_places.2 ⟨stmt, hj, .referenced huser hn (List.mem_of_getElem? hj)
      (is_plain_declaration_iff.2 ⟨hvariable, helement⟩) hdeclared⟩

/-- A closed set has every place of a statement of the logic. -/
theorem ClosedUnderReference.mem_of_is_logic {S : Set Nat} (h : ClosedUnderReference statements S)
    {stmt : Node} (hlogic : IsLogic statements stmt) :
    ∀ i, statements[i]? = some stmt → i ∈ S := by
  induction hlogic with
  | itself _ hlogic => exact fun i hi => h.logic i _ hi hlogic
  | referenced huser hn _ hplain hdeclared ih =>
      intro j hj
      obtain ⟨i, hi⟩ := List.mem_iff_getElem?.mp huser.mem
      obtain ⟨hvariable, helement⟩ := is_plain_declaration_iff.1 hplain
      exact h.referenced i (ih i hi) _ hi j _ hj hvariable helement ⟨_, hdeclared, hn⟩

/-- How the logic of a body is found. -/
structure MarksLeast (statements : List Node) (marked : List (Node × Bool)) : Prop where
  /-- The rounds come to an end, with one more of them than there are statements at most. -/
  ends : ∃ rounds, MarkLoop (ownMarks statements) rounds marked ∧ rounds ≤ statements.length + 1
  /-- Every statement has a mark or none, in its place. -/
  items : marked.map Prod.fst = statements
  /-- The marked places are the least closed set. -/
  least : IsLeast {S | ClosedUnderReference statements S} (markedPlaces marked)

end LeastLogic

/-- Marking the logic of a body comes to an end, and what it marks is the least set that has every
statement that is logic by itself and is closed under adding declarations of variables, without an
element, to whose names a statement in the set refers. -/
theorem logic_statements_least (statements : List Node) :
    MarksLeast statements (logicStatements statements) where
  ends := mark_loop_start statements
  items := logic_statements_items statements
  least := by
    refine ⟨closed_under_reference_marked statements, fun S hclosed i hi => ?_⟩
    obtain ⟨stmt, hstmt, hlogic⟩ := mem_marked_places.1 hi
    exact hclosed.mem_of_is_logic hlogic i hstmt

/-!
## The declarations that a module needs of its file

A draft keeps declarations in passes over the other statements of the file, and what a kept
declaration refers to may ask for one that the pass has left behind.  The passes end, and what they
leave is the least set that has the declarations of the names the unit uses and is closed under use
(`collect_keeps_least`).
-/

section Least

variable {candidates : List KeepCandidate} {start : List String} {S : Set KeepCandidate}

/-- A set of declarations that has each one of a name needed at the start or used in the set. -/
structure ClosedUnderUse (candidates : List KeepCandidate) (start : List String)
    (S : Set KeepCandidate) : Prop where
  among : ∀ c ∈ S, c ∈ candidates
  needed : ∀ c ∈ candidates, (∃ n ∈ c.names, n ∈ start) → c ∈ S
  through : ∀ user ∈ S, ∀ c ∈ candidates, (∃ n ∈ c.names, n ∈ references user.decl) → c ∈ S

/-- The declarations of needed names are closed under use. -/
theorem closed_under_use_needed (candidates : List KeepCandidate) (start : List String) :
    ClosedUnderUse candidates start
      {c | c ∈ candidates ∧ ∃ n ∈ c.names, IsNeeded candidates start n} where
  among _ hc := hc.1
  needed _ hc := fun ⟨n, hn, hstart⟩ => ⟨hc, n, hn, .start hstart⟩
  through := by
    rintro user ⟨huser, m, hm, hneeded⟩ c hc ⟨n, hn, hused⟩
    exact ⟨hc, n, hn, .through huser hm hneeded hused⟩

/-- A set that is closed under use has every declaration of a needed name. -/
theorem ClosedUnderUse.mem_of_needed (hclosed : ClosedUnderUse candidates start S) {n : String}
    (hneeded : IsNeeded candidates start n) {c : KeepCandidate} (hc : c ∈ candidates)
    (hn : n ∈ c.names) : c ∈ S := by
  induction hneeded generalizing c with
  | start hstart => exact hclosed.needed c hc ⟨_, hn, hstart⟩
  | through huser hm _ hused ih => exact hclosed.through _ (ih huser hm) c hc ⟨_, hn, hused⟩

/-- How the declarations that a module keeps are found among the candidates. -/
structure KeepsLeast (candidates : List KeepCandidate) (start : List String)
    (kept : List KeepCandidate) : Prop where
  /-- The passes come to an end, with one more of them than there are candidates at most. -/
  ends : ∃ passes result, KeepLoop (candidates.map (·, false)) start passes result ∧
    passes ≤ candidates.length + 1 ∧ kept = (result.filter (·.2)).map (·.1)
  /-- What is kept stands once, in the order of the file. -/
  in_order : ∃ keeps : KeepCandidate → Bool, kept = candidates.filter keeps
  /-- It is the least set that is closed under use. -/
  least : IsLeast {S | ClosedUnderUse candidates start S} {c | c ∈ kept}

theorem kept_declarations_least (candidates : List KeepCandidate) (start : List String) :
    KeepsLeast candidates start (keptDeclarations candidates start) where
  ends := by
    obtain ⟨passes, hloop, hpasses⟩ := keep_loop_start candidates start
    exact ⟨passes, _, hloop, hpasses, rfl⟩
  in_order := by
    obtain ⟨keeps, heq, -⟩ := kept_declarations_eq candidates start
    exact ⟨keeps, heq⟩
  least := by
    have hkept : {c | c ∈ keptDeclarations candidates start} =
        {c | c ∈ candidates ∧ ∃ n ∈ c.names, IsNeeded candidates start n} :=
      Set.ext fun c => mem_kept_declarations
    rw [hkept]
    refine ⟨closed_under_use_needed candidates start, fun S hclosed c => ?_⟩
    rintro ⟨hc, n, hn, hneeded⟩
    exact hclosed.mem_of_needed hneeded hc hn

end Least

/-- Kept types are exported. -/
theorem KeepCandidate.kept_text_exported {c : KeepCandidate} (htype : c.isType) :
    Text.startsWith c.keptText "export" := by
  unfold keptText
  rw [htype, Bool.true_and]
  by_cases hexported : Text.startsWith c.plainText "export"
  · rw [hexported]
    exact hexported
  · have hprefix : "export".toList <+: "export ".toList := by decide
    rw [Bool.eq_false_iff.mpr hexported, if_pos Bool.not_false, Text.startsWith,
      List.isPrefixOf_iff_prefix, String.toList_append]
    exact hprefix.trans (List.prefix_append _ _)

/-- Of the declarations elsewhere in the file a draft takes over the least set that has those of the
names that the unit refers to and of its props' type, and that is closed under use: each one once,
in the order of the file, types exported and among the types, the others among the helpers. -/
theorem collect_keeps_least (d : Draft) (root : Node) (site : Site) :
    ∃ kept, KeepsLeast (declarationsElsewhere root site)
        (references site.node ++ [d.name ++ "Props"]) kept ∧
      (d.collect root site).types =
        d.types ++ (kept.filter (·.isType)).map KeepCandidate.keptText ∧
      (d.collect root site).helpers =
        d.helpers ++ (kept.filter fun c => !c.isType).map KeepCandidate.keptText ∧
      ∀ c ∈ kept, c.isType → Text.startsWith c.keptText "export" := by
  refine ⟨keptOf root site d.name, kept_declarations_least _ _, ?_, ?_, fun c _ htype =>
    KeepCandidate.kept_text_exported htype⟩
  · rw [Draft.collect_eq]
  · rw [Draft.collect_eq]

end ComponentMigration
