import ComponentMigration.Proofs.Module.Logic

/-!
# Where the statements of a function component go

Each statement of the body is placed once, in the hook or in the component, and only extraction puts
any into the hook.  What lifted statements declare is handed back to the component, except for the
props, which the component takes apart itself.  So every name that the body declares is bound by a
line of the component (`function_places_statements`).
-/

namespace ComponentMigration

section Texts

/-- The lines of a component up to the opening of its body. -/
def componentOpening (d : Draft) (n : Node) (p : Pieces) : List String :=
  let doc := d.component.metadata.documentation
  let calls := wrapperCalls n
  let start := if calls.isEmpty then "export "
    else "export const " ++ d.name ++ " = " ++ wrapperOpening calls
  (if doc.isEmpty then [] else docComment doc "") ++
    [start ++ ("function " ++ d.name ++ "(" ++ p.signature ++ ") \x7b")]

/-- The lines of its body. -/
def componentBody (d : Draft) (p : Pieces) : List String :=
  p.prelude ++ (if p.lifted.isEmpty then [] else [hookCallLine d p]) ++ p.render

/-- The line that closes it. -/
def componentClosing (n : Node) : String :=
  let calls := wrapperCalls n
  if calls.isEmpty then "\x7d" else "\x7d" ++ wrapperClosing calls ++ ";"

/-- The text of a component. -/
def componentText (d : Draft) (n : Node) (p : Pieces) : String :=
  String.intercalate "\n" (componentOpening d n p ++ componentBody d p ++ [componentClosing n])

theorem Draft.declaration_emit (d : Draft) (n : Node) (p : Pieces) :
    (d.emit n p).declaration = componentText d n p := by
  unfold emit componentText componentOpening componentBody componentClosing
  dsimp only
  by_cases hcalls : (wrapperCalls n).isEmpty
  · simp only [hcalls, if_true, List.append_assoc]
  · simp only [hcalls, Bool.false_eq_true, if_false, List.append_assoc]

/-- The line by which a hook returns names. -/
def returnLine (p : Pieces) : String := indentUnit ++ "return " ++ braced p.names ++ ";"

/-- The line by which a component takes names from its hook. -/
def takeLine (d : Draft) (p : Pieces) : String :=
  indentUnit ++ "const " ++ braced p.names ++ " = " ++ (d.hookName ++ "(" ++ p.arguments ++ ")") ++
    ";"

/-- The line by which a component takes its props apart. -/
def destructureLine (s : Signature) (pattern : String) : String :=
  indentUnit ++ "const " ++ pattern ++ " = " ++ s.propsName ++ ";"

/-- A line of a component that binds a name: a statement of its own that declares it, the call of the
hook if that returns it, or the destructuring of the props. -/
inductive BindsName (d : Draft) (s : Signature) (p : Pieces) (own : List Node) (x : String) :
    String → Prop
  | statement {stmt : Node} (hstmt : stmt ∈ own) (hx : x ∈ declaredNames stmt) :
      BindsName d s p own x (placedText d.lines stmt)
  | call (hx : x ∈ p.names) : BindsName d s p own x (takeLine d p)
  | props {pattern : String} (hpattern : s.destructure = some pattern) (hx : x ∈ s.propNames) :
      BindsName d s p own x (destructureLine s pattern)

end Texts

/-- The statements of a body that go into the hook. -/
def hookStatements (extract : Bool) (statements : List Node) : List Node :=
  ((placements extract statements).filter (·.2)).map (·.1)

/-- The statements of a body that stay in the component. -/
def ownStatements (extract : Bool) (statements : List Node) : List Node :=
  ((placements extract statements).filter (!·.2)).map (·.1)

section Placing

variable {extract : Bool} {statements : List Node} {stmt : Node}

theorem mem_hook_statements :
    stmt ∈ hookStatements extract statements ↔ (stmt, true) ∈ placements extract statements := by
  simp [hookStatements]

/-- Each statement is placed once, in order. -/
theorem placements_items (extract : Bool) (statements : List Node) :
    (placements extract statements).map Prod.fst = statements := by
  cases extract with
  | true => exact logic_statements_items statements
  | false =>
      rw [placements, if_neg Bool.false_ne_true, List.map_map]
      exact List.map_id _

/-- Only extraction puts statements into the hook, and it chooses among them. -/
theorem selected_of_mem_hook (h : stmt ∈ hookStatements extract statements) :
    extract = true ∧ stmt ∈ liftedStatements statements := by
  cases extract with
  | true => exact ⟨rfl, h⟩
  | false =>
      obtain ⟨s, -, heq⟩ := List.mem_map.mp (mem_hook_statements.1 h)
      cases heq

/-- Props are named by a pattern that the parameter is written with. -/
theorem destructure_of_prop_names {name x : String} {fn : Node}
    (hx : x ∈ (signatureOf name fn).propNames) :
    ∃ pattern, (signatureOf name fn).destructure = some pattern := by
  unfold signatureOf at hx ⊢
  split at hx
  · cases hx
  · dsimp only at hx ⊢
    generalize Option.filter _ _ = object at hx ⊢
    cases object with
    | none => cases hx
    | some pattern => exact ⟨pattern.text, rfl⟩

/-- How the statements of a body are placed, and what the hook and the component are written from.
-/
structure PlacesBody (extract : Bool) (s : Signature) (statements : List Node) (n : Node)
    (d : Draft) (p : Pieces) : Prop where
  hook : d.hook = hookText d p
  declaration : d.declaration = componentText d n p
  /-- Each statement is placed once, in order. -/
  once : (placements extract statements).map Prod.fst = statements
  lifted : p.lifted = (hookStatements extract statements).map (placedText d.lines)
  render : p.render = (ownStatements extract statements).map (placedText d.lines)
  /-- Only statements that belong to the logic are lifted, and only when logic is extracted. -/
  selected : ∀ stmt ∈ hookStatements extract statements,
    extract = true ∧ stmt ∈ liftedStatements statements
  distinct : p.names.Nodup
  /-- The names that the hook hands over are those that lifted statements declare, apart from the
  props. -/
  names : ∀ x, x ∈ p.names ↔
    ∃ stmt ∈ hookStatements extract statements, x ∈ declaredNames stmt ∧ x ∉ s.propNames
  handed_over : p.names ≠ [] →
    p.lifted ≠ [] ∧ returnLine p ∈ hookLines d p ∧ takeLine d p ∈ componentBody d p
  /-- Every name that the body declares is bound.  The exception is no source's: a pattern without a
  text that nevertheless names props. -/
  bound : ∀ stmt ∈ statements, ∀ x ∈ declaredNames stmt,
    (∃ line ∈ componentBody d p, BindsName d s p (ownStatements extract statements) x line) ∨
    x ∈ s.propNames ∧ s.destructure = some ""

variable {s : Signature} {d : Draft} {n : Node} {p : Pieces} {x : String}

/-- Names that a hook returns are those of a lifted statement, so there is a hook. -/
theorem Pieces.Places.handed_over
    (h : (startPieces s).Places s d.lines (placements extract statements) p) (hnames : p.names ≠ []) :
    p.lifted ≠ [] ∧ returnLine p ∈ hookLines d p ∧ takeLine d p ∈ componentBody d p := by
  have hlifted : p.lifted ≠ [] := by
    obtain ⟨x, hx⟩ := List.exists_mem_of_ne_nil _ hnames
    obtain hstart | ⟨stmt, hmem, -, -⟩ := (h.mem_names x).mp hx
    · cases hstart
    · have htext : placedText d.lines stmt ∈ p.lifted := by
        rw [h.lifted]
        exact List.mem_append_right _ (List.mem_map_of_mem (mem_hook_statements.2 hmem))
      exact List.ne_nil_of_mem htext
  have hisEmpty : p.names.isEmpty = false := List.isEmpty_eq_false_iff.mpr hnames
  have hnotEmpty : p.lifted.isEmpty = false := List.isEmpty_eq_false_iff.mpr hlifted
  refine ⟨hlifted, ?_, ?_⟩
  · simp [hookLines, returnLine, hisEmpty]
  · simp [componentBody, hookCallLine, takeLine, hisEmpty, hnotEmpty]

/-- A name that a statement declares is bound where the statement goes. -/
theorem Pieces.Places.bound
    (h : (startPieces s).Places s d.lines (placements extract statements) p)
    (hprops : ∀ x ∈ s.propNames, ∃ pattern, s.destructure = some pattern) (hstmt : stmt ∈ statements)
    (hx : x ∈ declaredNames stmt) :
    (∃ line ∈ componentBody d p, BindsName d s p (ownStatements extract statements) x line) ∨
    x ∈ s.propNames ∧ s.destructure = some "" := by
  rw [← placements_items extract statements] at hstmt
  obtain ⟨⟨stmt, lifted⟩, hplaced, rfl⟩ := List.mem_map.mp hstmt
  cases lifted with
  | false =>
      have hown : stmt ∈ ownStatements extract statements :=
        List.mem_map.mpr ⟨(stmt, false), List.mem_filter.mpr ⟨hplaced, rfl⟩, rfl⟩
      refine .inl ⟨placedText d.lines stmt, List.mem_append_right _ ?_, .statement hown hx⟩
      rw [h.render]
      exact List.mem_append_right _ (List.mem_map_of_mem hown)
  | true =>
      -- The hook does not hand over props, but the component takes them apart as the source does.
      by_cases hprop : x ∈ s.propNames
      · obtain ⟨pattern, hpattern⟩ := hprops x hprop
        by_cases hempty : pattern = ""
        · exact .inr ⟨hprop, hempty ▸ hpattern⟩
        · refine .inl ⟨destructureLine s pattern, ?_, .props hpattern hprop⟩
          refine List.mem_append_left _ (List.mem_append_left _ ?_)
          have hwritten : ¬pattern.isEmpty := fun hempty' => hempty (String.isEmpty_iff.mp hempty')
          rw [h.prelude, startPieces, propsPrelude, hpattern]
          dsimp only
          rw [if_neg hwritten]
          exact List.mem_singleton_self _
      · have hname : x ∈ p.names := (h.mem_names x).mpr (.inr ⟨stmt, hplaced, hx, hprop⟩)
        exact .inl ⟨takeLine d p, (h.handed_over (List.ne_nil_of_mem hname)).2.2, .call hname⟩

theorem Pieces.Places.places_body
    (h : (startPieces s).Places s d.lines (placements extract statements) p)
    (hprops : ∀ x ∈ s.propNames, ∃ pattern, s.destructure = some pattern)
    (hhook : d.hook = hookText d p) (hdeclaration : d.declaration = componentText d n p) :
    PlacesBody extract s statements n d p where
  hook := hhook
  declaration := hdeclaration
  once := placements_items extract statements
  lifted := h.lifted
  render := h.render
  selected _ hstmt := selected_of_mem_hook hstmt
  distinct := h.nodup List.nodup_nil
  names x := by
    rw [h.mem_names]
    simp only [startPieces, List.not_mem_nil, false_or, mem_hook_statements]
  handed_over := h.handed_over
  bound _ hstmt _ hx := h.bound hprops hstmt hx

end Placing

/-- Each statement of a function component's body goes once, in the order of the source, either into
the hook or into the component, and into the hook only if it belongs to the logic that is extracted.
The hook returns and the component takes the same names, each once: those that lifted statements
declare and that are no props.  So every name that the body declares is bound in the component. -/
theorem function_places_statements {options : TransformSettings} {component : Component}
    {source : String} {root fn body : Node} {site : Site} {place : FaultContext}
    (hkind : component.kind = .functional) (hfn : site.node.functionOf = some fn)
    (hbody : fn.child? "body" = some body) (hblock : body.kind = "statement_block") :
    ∃ d p, Draft.ofSite options component source root site place = .ok d ∧
      d.component = component ∧ d.lines = Text.lines source ∧
      PlacesBody options.extractBusinessLogic (signatureOf component.name fn) body.namedChildren
        site.node d p := by
  have hconverted : Draft.ofSite options component source root site place = .ok
      ((Draft.gatheredFor component source root site).convertFunction options.extractBusinessLogic
        site.node fn) := by
    rw [Draft.of_site_eq, hkind, hfn]
  have hcomponent : (Draft.gatheredFor component source root site).component = component :=
    Draft.component_gathered_for
  have hlines : (Draft.gatheredFor component source root site).lines = Text.lines source :=
    Draft.lines_gathered_for
  generalize Draft.gatheredFor component source root site = start at hcomponent hlines hconverted
  obtain ⟨base, p, hbase, hbaseLines, heq, hplaces⟩ :=
    start.convert_function_pieces options.extractBusinessLogic site.node hbody hblock
  have hname : start.name = component.name := congrArg Component.name hcomponent
  rw [hname, ← hbaseLines] at hplaces
  refine ⟨base.emit site.node p, p, hconverted.trans (congrArg _ heq), hbase.trans hcomponent,
    hbaseLines.trans hlines, Pieces.Places.places_body hplaces ?_ rfl ?_⟩
  · exact fun x hx => destructure_of_prop_names hx
  · exact Draft.declaration_emit base site.node p

/-- The statements of a component that greets, with a handler and an element. -/
def greeterStatements : List Node :=
  [.mk { kind := "lexical_declaration", text := "const greet = () => name;" }
      [.mk { kind := "variable_declarator" }
        [.mk { kind := "identifier", field := "name", text := "greet" } [],
          .mk { kind := "arrow_function", field := "value", text := "() => name" }
            [.mk { kind := "identifier", field := "body", text := "name" } []]]],
    .mk { kind := "lexical_declaration", text := "const mark = <b/>;" }
      [.mk { kind := "variable_declarator" }
        [.mk { kind := "identifier", field := "name", text := "mark" } [],
          .mk { kind := "jsx_self_closing_element", field := "value", text := "<b/>" } []]],
    .mk { kind := "return_statement", text := "return mark;" }
      [.mk { kind := "identifier", text := "mark" } []]]

/-- The function of this component, which takes its props apart. -/
def greeterFunction : Node :=
  .mk { kind := "function_declaration" }
    [.mk { kind := "identifier", field := "name", text := "Greeter" } [],
      .mk { kind := "formal_parameters", field := "parameters", text := "({ name })" }
        [.mk { kind := "object_pattern", text := "{ name }" }
          [.mk { kind := "shorthand_property_identifier_pattern", text := "name" } []]],
      .mk { kind := "statement_block", field := "body" } greeterStatements]

/-- The unit of this function. -/
def greeter : Component :=
  { id := "src/Greeter.tsx:Greeter", name := "Greeter", filePath := "src/Greeter.tsx",
    absolutePath := "/proj/src/Greeter.tsx" }

theorem function_places_statements_greeter :
    ∃ d p, Draft.ofSite {} greeter "" (.mk { kind := "program" } [greeterFunction])
        ⟨⟨0, none, greeterFunction⟩, greeterFunction⟩ {} = .ok d ∧
      "greet" ∈ p.names ∧ "mark" ∉ p.names ∧ takeLine d p ∈ componentBody d p := by
  obtain ⟨d, p, hd, -, -, hplaces⟩ := @function_places_statements {} greeter ""
    (.mk { kind := "program" } [greeterFunction]) greeterFunction
    (.mk { kind := "statement_block", field := "body" } greeterStatements)
    ⟨⟨0, none, greeterFunction⟩, greeterFunction⟩ {} rfl rfl rfl rfl
  have hdeclared : ∃ stmt ∈ hookStatements true greeterStatements, "greet" ∈ declaredNames stmt ∧
      "greet" ∉ (signatureOf "Greeter" greeterFunction).propNames := by
    decide
  have hstays : ¬∃ stmt ∈ hookStatements true greeterStatements, "mark" ∈ declaredNames stmt ∧
      "mark" ∉ (signatureOf "Greeter" greeterFunction).propNames := by
    decide
  have hgreet : "greet" ∈ p.names := (hplaces.names "greet").mpr hdeclared
  exact ⟨d, p, hd, hgreet, fun h => hstays ((hplaces.names "mark").mp h),
    (hplaces.handed_over (List.ne_nil_of_mem hgreet)).2.2⟩

end ComponentMigration
