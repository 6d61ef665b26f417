import ComponentMigration.Proofs.Module.Placement

/-!
# What the members of a class yield

The conversion of a class reads its members in order.  What it takes a member for depends on the
member alone (`MemberRole`), and so does what comes of it: state fields, local names with their
texts, effects, and warnings (`memberYield`).  Reading a class only adds these up
(`ClassReading.members_add`), and the hook and the component are written from the sum
(`Draft.class_of_site`).
-/

namespace ComponentMigration

/-- The name of a member. -/
def memberName (m : Node) : String :=
  (((m.child? "name").or (m.child? "property")).map Node.text).getD ""

/-- What the conversion takes a member of a class for. -/
inductive MemberRole where
  /-- The method whose statements become the component. -/
  | render
  /-- The method that sets up an instance. -/
  | initializer
  /-- An accessor, or a method of the class itself or out of reach. -/
  | manual
  | lifecycle
  /-- Any other method, which becomes a local function. -/
  | method (body : Option Node)
  /-- A field of the class itself or out of reach. -/
  | dropped
  | state (object : Node)
  /-- A field that holds a function, which becomes a local one. -/
  | functionValue (value : Node)
  /-- Any other field, which becomes a local variable. -/
  | otherValue (value : Option Node)
  /-- What is neither a method nor a field. -/
  | other

/-- The role of a member. -/
def memberRole (m : Node) : MemberRole :=
  let name := memberName m
  if m.kind == "method_definition" then
    if name == "render" then .render
    else if name == "constructor" then .initializer
    else if m.hasToken "static" || m.hasToken "get" || m.hasToken "set" ||
        Text.startsWith name "#" then .manual
    else if lifecycleMethods.contains name then .lifecycle
    else .method (m.child? "body")
  else if m.kind == "public_field_definition" || m.kind == "field_definition" then
    let value := m.child? "value"
    if m.hasToken "static" || Text.startsWith name "#" || !isIdentifier name then .dropped
    else
      match value.filter fun v => name == "state" && v.kind == "object" with
      | some object => .state object
      | none =>
        match value.filter Node.isFunction with
        | some fn => .functionValue fn
        | none => .otherValue value
  else .other

/-- Whether a member is a method or a field. -/
def isMethodOrField (m : Node) : Bool :=
  m.kind == "method_definition" || m.kind == "public_field_definition" ||
    m.kind == "field_definition"

/-- A role fits a member: its parts are those of the member. -/
def MemberRole.Fits (m : Node) : MemberRole → Prop
  | .method body => m.child? "body" = body
  | .state value | .functionValue value => m.child? "value" = some value
  | .otherValue value => m.child? "value" = value
  | .other => isMethodOrField m = false
  | .render | .initializer | .manual | .lifecycle | .dropped => True

theorem member_role_fits (m : Node) : (memberRole m).Fits m := by
  unfold memberRole
  dsimp only
  split
  · split
    · trivial
    split
    · trivial
    split
    · trivial
    split
    · trivial
    · rfl
  · next hmethod =>
      split
      · split
        · trivial
        split
        · next object hobject => exact (Option.filter_eq_some_iff.mp hobject).1
        split
        · next value hvalue => exact (Option.filter_eq_some_iff.mp hvalue).1
        · rfl
      · next hfield =>
          rw [Bool.not_eq_true] at hmethod hfield
          rw [MemberRole.Fits, isMethodOrField, Bool.or_assoc, hmethod, hfield]
          rfl

/-- What comes of a part of a class. -/
structure Yield where
  state : List StateField := []
  pieces : List (String × String) := []
  effects : List String := []
  warnings : List String := []

/-- What comes of several parts, in order. -/
def Yield.sum (yields : List Yield) : Yield where
  state := yields.flatMap Yield.state
  pieces := yields.flatMap Yield.pieces
  effects := yields.flatMap Yield.effects
  warnings := yields.flatMap Yield.warnings

/-- A text as it stands among the local names. -/
def localText (anchor : Nat) (text : String) : String :=
  reindent (withLocalNames text) anchor indentUnit

section Yields

variable (lines : List String) (unit : String)

/-- What comes of an entry of the state's object literal. -/
def entryYield (entry : Node) : Yield :=
  match stateField? lines entry with
  | some f => { state := [f] }
  | none =>
    if entry.kind == "comment" then {}
    else
      { warnings := ["State entry '" ++ entry.text ++ "' of " ++ unit ++
          " could not be mapped onto useState"] }

/-- What comes of the state's object literal. -/
def objectYield (object : Node) : Yield := .sum (object.namedChildren.map (entryYield lines unit))

/-- The expression that a statement consists of. -/
def statementExpression? (stmt : Node) : Option Node :=
  if stmt.kind == "expression_statement" then stmt.namedChildren.head? else none

/-- The object that a statement assigns to the state. -/
def statementState? (stmt : Node) : Option Node := (statementExpression? stmt).bind assignedState?

/-- Whether a statement of the constructor sets up nothing that a component has. -/
def isSetup (stmt : Node) : Bool :=
  (statementExpression? stmt).any isSuperCall || isMethodBinding stmt.text || stmt.kind == "comment"

/-- What comes of a statement of the constructor. -/
def statementYield (stmt : Node) : Yield :=
  if (statementExpression? stmt).any isSuperCall then {}
  else
    match statementState? stmt with
    | some object => objectYield lines unit object
    | none =>
      if isMethodBinding stmt.text || stmt.kind == "comment" then {}
      else
        { warnings := ["Constructor statement of " ++ unit ++ " was dropped: " ++
            Text.firstLine (Text.strip stmt.text)] }

/-- The statements of a method. -/
def methodStatements (m : Node) : List Node := ((m.child? "body").map Node.namedChildren).getD []

/-- The effect that a lifecycle method with a body becomes. -/
def effectSource? (name : String) (body : Node) : Option String :=
  if name == "componentDidMount" then some ("useEffect(() => " ++ body.text ++ ", []);")
  else if name == "componentWillUnmount" then
    some ("useEffect(() => () => " ++ body.text ++ ", []);")
  else if name == "componentDidUpdate" then some ("useEffect(() => " ++ body.text ++ ");")
  else none

/-- What is told about a lifecycle method. -/
def lifecycleWarnings (m : Node) : List String :=
  let name := memberName m
  if name == "componentDidMount" || name == "componentWillUnmount" then []
  else if name == "componentDidUpdate" then
    if (m.child? "parameters").any fun params => !params.namedChildren.isEmpty then
      ["componentDidUpdate of " ++ unit ++
        " compared previous props or state; add effect dependencies"]
    else []
  else ["Lifecycle method " ++ name ++ " of " ++ unit ++ " has no direct hook equivalent"]

/-- What comes of a lifecycle method. -/
def lifecycleYield (m : Node) : Yield :=
  match m.child? "body" with
  | none => {}
  | some body =>
    { effects := ((effectSource? (memberName m) body).map
        (localText (lineIndent lines m))).toList
      warnings := lifecycleWarnings unit m }

theorem lifecycle_yield_of_body {m body : Node} (hbody : m.child? "body" = some body) :
    lifecycleYield lines unit m =
      { effects := ((effectSource? (memberName m) body).map
          (localText (lineIndent lines m))).toList
        warnings := lifecycleWarnings unit m } := by
  rw [lifecycleYield, hbody]

/-- The variable that a field becomes. -/
def variableText (name : String) (value : Option Node) : String :=
  "let " ++ name ++ " = " ++ (value.map Node.text).getD "undefined" ++ ";"

/-- The function that a field becomes. -/
def functionText (name : String) (value : Node) : String :=
  "const " ++ name ++ " = " ++ value.text ++ ";"

/-- What comes of a member by its role. -/
def roleYield (m : Node) : MemberRole → Yield
  | .render | .method none | .other => {}
  | .initializer => .sum ((methodStatements m).map (statementYield lines unit))
  | .manual =>
    { warnings := ["Member " ++ memberName m ++ " of " ++ unit ++ " requires manual migration"] }
  | .lifecycle => lifecycleYield lines unit m
  | .method (some body) =>
    { pieces := [(memberName m, localText (lineIndent lines m)
        (ClassReading.methodText (memberName m) m body))] }
  | .dropped => { warnings := ["Field " ++ memberName m ++ " of " ++ unit ++ " was dropped"] }
  | .state object => objectYield lines unit object
  | .functionValue value =>
    { pieces := [(memberName m, localText (lineIndent lines m)
        (functionText (memberName m) value))] }
  | .otherValue value =>
    { pieces := [(memberName m, localText (lineIndent lines m)
        (variableText (memberName m) value))]
      warnings := ["Instance field " ++ memberName m ++
        " became a local variable and no longer persists across renders"] }

/-- What comes of a member. -/
def memberYield (m : Node) : Yield := roleYield lines unit m (memberRole m)

/-- What comes of the members of a class. -/
def membersYield (members : List Node) : Yield := .sum (members.map (memberYield lines unit))

end Yields

/-- Whether a member is the method whose statements become the component. -/
def isRender (m : Node) : Bool := m.kind == "method_definition" && memberName m == "render"

/-- The method whose statements become the component: the last one of its name. -/
def lastRender (members : List Node) : Option Node := members.reverse.find? isRender

namespace ClassReading

variable {r r' r'' : ClassReading} {y y' : Yield}

/-- A reading goes on from another one by what a part of the class yields. -/
structure Adds (y : Yield) (r r' : ClassReading) : Prop where
  lines : r'.draft.lines = r.draft.lines
  component : r'.draft.component = r.draft.component
  state : r'.state = r.state ++ y.state
  pieces : r'.pieces = r.pieces ++ y.pieces
  effects : r'.effects = r.effects ++ y.effects
  warnings : r'.draft.warnings = r.draft.warnings ++ y.warnings

theorem Adds.name (h : Adds y r r') : r'.draft.name = r.draft.name :=
  congrArg Component.name h.component

theorem adds_nothing (r : ClassReading) : Adds {} r r where
  lines := rfl
  component := rfl
  state := (List.append_nil _).symm
  pieces := (List.append_nil _).symm
  effects := (List.append_nil _).symm
  warnings := (List.append_nil _).symm

theorem Adds.cons {rest : List Yield} (h : Adds y r r') (h' : Adds (.sum rest) r' r'') :
    Adds (.sum (y :: rest)) r r'' where
  lines := h'.lines.trans h.lines
  component := h'.component.trans h.component
  state := by rw [h'.state, h.state, List.append_assoc]; rfl
  pieces := by rw [h'.pieces, h.pieces, List.append_assoc]; rfl
  effects := by rw [h'.effects, h.effects, List.append_assoc]; rfl
  warnings := by rw [h'.warnings, h.warnings, List.append_assoc]; rfl

theorem adds_warning (r : ClassReading) (message : String) :
    Adds { warnings := [message] } r (r.warn message) :=
  { adds_nothing r with warnings := rfl }

theorem adds_piece (r : ClassReading) (anchor : Nat) (name text : String) :
    Adds { pieces := [(name, localText anchor text)] } r (r.piece anchor name text) :=
  { adds_nothing r with pieces := rfl }

theorem adds_effect (r : ClassReading) (anchor : Nat) (text : String) :
    Adds { effects := [localText anchor text] } r (r.effect anchor text) :=
  { adds_nothing r with effects := rfl }

/-- What is read part by part adds up. -/
theorem adds_foldl {step : ClassReading → Node → ClassReading}
    {yieldOf : List String → String → Node → Yield}
    (hstep : ∀ r part, Adds (yieldOf r.draft.lines r.draft.name part) r (step r part))
    (parts : List Node) (r : ClassReading) :
    Adds (.sum (parts.map (yieldOf r.draft.lines r.draft.name))) r (parts.foldl step r) := by
  induction parts generalizing r with
  | nil => exact adds_nothing r
  | cons part parts ih =>
      have hrest := ih (step r part)
      rw [(hstep r part).lines, (hstep r part).name] at hrest
      exact (hstep r part).cons hrest

theorem adds_state_entry (r : ClassReading) (entry : Node) :
    Adds (entryYield r.draft.lines r.draft.name entry) r (r.stateEntry entry) := by
  unfold stateEntry entryYield
  cases stateField? r.draft.lines entry with
  | some f => exact { adds_nothing r with state := rfl }
  | none =>
      dsimp only
      split
      · exact adds_nothing r
      · exact adds_warning r _

theorem adds_state_object (r : ClassReading) (object : Node) :
    Adds (objectYield r.draft.lines r.draft.name object) r (r.stateObject object) :=
  adds_foldl adds_state_entry _ r

theorem constructor_statement_eq (r : ClassReading) (stmt : Node) :
    r.constructorStatement stmt =
      if (statementExpression? stmt).any isSuperCall then r
      else
        match statementState? stmt with
        | some object => r.stateObject object
        | none =>
          if isMethodBinding stmt.text || stmt.kind == "comment" then r
          else r.warn ("Constructor statement of " ++ r.draft.name ++ " was dropped: " ++
            Text.firstLine (Text.strip stmt.text)) := rfl

theorem adds_constructor_statement (r : ClassReading) (stmt : Node) :
    Adds (statementYield r.draft.lines r.draft.name stmt) r (r.constructorStatement stmt) := by
  rw [constructor_statement_eq, statementYield]
  by_cases hsuper : (statementExpression? stmt).any isSuperCall
  · rw [if_pos hsuper, if_pos hsuper]
    exact adds_nothing r
  rw [if_neg hsuper, if_neg hsuper]
  cases statementState? stmt with
  | some object => exact adds_state_object r object
  | none =>
      dsimp only
      split
      · exact adds_nothing r
      · exact adds_warning r _

theorem adds_lifecycle (r : ClassReading) (m : Node) :
    Adds (lifecycleYield r.draft.lines r.draft.name m) r
      (r.lifecycle (memberName m) m (lineIndent r.draft.lines m)) := by
  unfold lifecycle lifecycleYield effectSource? lifecycleWarnings
  cases m.child? "body" with
  | none => exact adds_nothing r
  | some body =>
      dsimp only
      by_cases hmount : memberName m == "componentDidMount"
      · simp only [hmount, if_true, Bool.true_or]
        exact adds_effect r _ _
      by_cases hunmount : memberName m == "componentWillUnmount"
      · simp only [hmount, hunmount, if_true, if_false, Bool.or_true, Bool.false_eq_true]
        exact adds_effect r _ _
      by_cases hupdate : memberName m == "componentDidUpdate"
      · simp only [hmount, hunmount, hupdate, if_true, if_false, Bool.or_self, Bool.false_eq_true]
        split
        · exact { adds_nothing r with effects := rfl, warnings := rfl }
        · exact adds_effect r _ _
      · simp only [hmount, hunmount, hupdate, if_false, Bool.or_self, Bool.false_eq_true]
        exact adds_warning r _

/-- A reading goes on by a member with a role. -/
def byRole (r : ClassReading) (m : Node) : MemberRole → Except Failure ClassReading
  | .render => .ok { r with render := some m }
  | .initializer => .ok ((methodStatements m).foldl constructorStatement r)
  | .manual => .ok (r.warn ("Member " ++ memberName m ++ " of " ++ r.draft.name ++
      " requires manual migration"))
  | .lifecycle => .ok (r.lifecycle (memberName m) m (lineIndent r.draft.lines m))
  | .method (some body) => .ok (r.piece (lineIndent r.draft.lines m) (memberName m)
      (methodText (memberName m) m body))
  | .method none => .error (.trouble (.lacks .null "text"))
  | .dropped => .ok (r.warn ("Field " ++ memberName m ++ " of " ++ r.draft.name ++
      " was dropped"))
  | .state object => .ok (r.stateObject object)
  | .functionValue value => .ok (r.piece (lineIndent r.draft.lines m) (memberName m)
      (functionText (memberName m) value))
  | .otherValue value => .ok ((r.piece (lineIndent r.draft.lines m) (memberName m)
      (variableText (memberName m) value)).warn ("Instance field " ++ memberName m ++
        " became a local variable and no longer persists across renders"))
  | .other => .ok r

/-- A member is read by its role. -/
theorem member_eq (r : ClassReading) (m : Node) : r.member m = r.byRole m (memberRole m) := by
  change (if m.kind == "method_definition" then
      r.method (memberName m) m (lineIndent r.draft.lines m)
    else if m.kind == "public_field_definition" || m.kind == "field_definition" then
      Except.ok (r.fieldMember (memberName m) m (lineIndent r.draft.lines m))
    else .ok r) = _
  unfold memberRole
  dsimp only
  by_cases hmethod : m.kind == "method_definition"
  · rw [if_pos hmethod, if_pos hmethod, method]
    by_cases hrender : memberName m == "render"
    · rw [if_pos hrender, if_pos hrender]
      rfl
    rw [if_neg hrender, if_neg hrender]
    by_cases hconstructor : memberName m == "constructor"
    · rw [if_pos hconstructor, if_pos hconstructor]
      rfl
    rw [if_neg hconstructor, if_neg hconstructor]
    by_cases hmanual : m.hasToken "static" || m.hasToken "get" || m.hasToken "set" ||
        Text.startsWith (memberName m) "#"
    · rw [if_pos hmanual, if_pos hmanual]
      rfl
    rw [if_neg hmanual, if_neg hmanual]
    by_cases hlifecycle : lifecycleMethods.contains (memberName m)
    · rw [if_pos hlifecycle, if_pos hlifecycle]
      rfl
    rw [if_neg hlifecycle, if_neg hlifecycle]
    cases m.child? "body" <;> rfl
  rw [if_neg hmethod, if_neg hmethod]
  by_cases hfield : m.kind == "public_field_definition" || m.kind == "field_definition"
  · rw [if_pos hfield, if_pos hfield, fieldMember]
    dsimp only
    by_cases hdropped : m.hasToken "static" || Text.startsWith (memberName m) "#" ||
        !isIdentifier (memberName m)
    · rw [if_pos hdropped, if_pos hdropped]
      rfl
    rw [if_neg hdropped, if_neg hdropped]
    cases (m.child? "value").filter fun v => memberName m == "state" && v.kind == "object" with
    | some object => rfl
    | none => cases (m.child? "value").filter Node.isFunction <;> rfl
  · rw [if_neg hfield, if_neg hfield]
    rfl

theorem render_foldl {step : ClassReading → Node → ClassReading}
    (hstep : ∀ r part, (step r part).render = r.render) (parts : List Node) (r : ClassReading) :
    (parts.foldl step r).render = r.render := by
  induction parts generalizing r with
  | nil => rfl
  | cons part parts ih => exact (ih (step r part)).trans (hstep r part)

theorem render_state_object (r : ClassReading) (object : Node) :
    (r.stateObject object).render = r.render := by
  refine render_foldl (fun r entry => ?_) _ r
  unfold stateEntry
  repeat' split
  all_goals rfl

theorem render_constructor_statement (r : ClassReading) (stmt : Node) :
    (r.constructorStatement stmt).render = r.render := by
  rw [constructor_statement_eq]
  split
  · rfl
  cases statementState? stmt with
  | some object => exact render_state_object r object
  | none =>
      dsimp only
      split <;> rfl

theorem render_lifecycle (r : ClassReading) (name : String) (m : Node) (anchor : Nat) :
    (r.lifecycle name m anchor).render = r.render := by
  unfold lifecycle effect warn
  dsimp only
  repeat' split
  all_goals rfl

theorem member_role_eq_render (m : Node) : memberRole m = .render ↔ isRender m = true := by
  unfold memberRole isRender
  dsimp only
  by_cases hmethod : m.kind == "method_definition"
  · by_cases hrender : memberName m == "render"
    · simp [hmethod, hrender]
    · simp only [hmethod, hrender, if_true, Bool.false_eq_true, if_false, Bool.and_false, iff_false]
      repeat' split
      all_goals exact nofun
  · simp only [hmethod, Bool.false_eq_true, if_false, Bool.false_and, iff_false]
    repeat' split
    all_goals exact nofun

theorem by_role_adds {m : Node} {role : MemberRole} (h : r.byRole m role = .ok r') :
    Adds (roleYield r.draft.lines r.draft.name m role) r r' ∧
      (role ≠ .render → r'.render = r.render) := by
  cases role with
  | render =>
      cases h
      exact ⟨{ adds_nothing r with }, fun hne => absurd rfl hne⟩
  | initializer =>
      cases h
      exact ⟨adds_foldl adds_constructor_statement _ r,
        fun _ => render_foldl render_constructor_statement _ r⟩
  | manual | dropped =>
      cases h
      exact ⟨adds_warning r _, fun _ => rfl⟩
  | lifecycle =>
      cases h
      exact ⟨adds_lifecycle r m, fun _ => render_lifecycle r _ m _⟩
  | method body =>
      cases body with
      | none => cases h
      | some body =>
          cases h
          exact ⟨adds_piece r _ _ _, fun _ => rfl⟩
  | state object =>
      cases h
      exact ⟨adds_state_object r object, fun _ => render_state_object r object⟩
  | functionValue value =>
      cases h
      exact ⟨adds_piece r _ _ _, fun _ => rfl⟩
  | otherValue value =>
      cases h
      exact ⟨{ adds_nothing r with pieces := rfl, warnings := rfl }, fun _ => rfl⟩
  | other =>
      cases h
      exact ⟨adds_nothing r, fun _ => rfl⟩

/-- Reading a member adds what it yields. -/
theorem member_adds {m : Node} (h : r.member m = .ok r') :
    Adds (memberYield r.draft.lines r.draft.name m) r r' ∧
      r'.render = if isRender m then some m else r.render := by
  rw [member_eq] at h
  refine ⟨(by_role_adds h).1, ?_⟩
  by_cases hrender : isRender m
  · rw [member_role_eq_render m |>.mpr hrender] at h
    cases h
    rw [if_pos hrender]
  · rw [if_neg hrender]
    exact (by_role_adds h).2 fun heq => hrender ((member_role_eq_render m).mp heq)

/-- Every method that becomes a function has a body. -/
theorem role_of_member {m : Node} (h : r.member m = .ok r') : memberRole m ≠ .method none := by
  rw [member_eq] at h
  intro hrole
  rw [hrole] at h
  cases h

/-- Reading a class adds up what its members yield. -/
theorem members_add {members : List Node} (h : members.foldlM ClassReading.member r = .ok r') :
    Adds (membersYield r.draft.lines r.draft.name members) r r' ∧
      r'.render = (lastRender members).or r.render ∧
      ∀ m ∈ members, memberRole m ≠ .method none := by
  -- Yields depend on the lines and the name of the draft only, which no member changes.
  induction members generalizing r with
  | nil =>
      cases h
      exact ⟨adds_nothing _, rfl, List.forall_mem_nil _⟩
  | cons m members ih =>
      rw [List.foldlM_cons] at h
      cases hm : r.member m with
      | error failure =>
          rw [hm] at h
          cases h
      | ok next =>
          rw [hm] at h
          obtain ⟨hadds, hrender⟩ := member_adds hm
          obtain ⟨hrest, hrestRender, hroles⟩ := ih h
          rw [hadds.lines, hadds.name] at hrest
          refine ⟨hadds.cons hrest, ?_, List.forall_mem_cons.mpr ⟨role_of_member hm, hroles⟩⟩
          rw [hrestRender, hrender, lastRender, lastRender, List.reverse_cons, List.find?_append,
            Option.or_assoc, List.find?_singleton]
          split
          · rfl
          · rw [Option.none_or]

end ClassReading

/-- A part of the hook of a class, with the names that the hook returns for it. -/
structure HookPart where
  text : String
  names : List String := []

/-- The declaration of a state field. -/
def stateText (f : StateField) : String :=
  localText f.anchor
    ("const [" ++ f.key ++ ", " ++ f.setter ++ "] = useState(" ++ f.value ++ ");")

/-- The parts of the hook that stand for the state. -/
def stateParts (members : List Node) (state : List StateField) : List HookPart :=
  if state.isEmpty then []
  else
    (state.map fun f => ⟨stateText f, [f.key, f.setter]⟩) ++
      (if readsWholeState members then
        [⟨indentUnit ++ "const state = " ++ braced (state.map StateField.key) ++ ";", ["state"]⟩]
      else []) ++
      (if callsSetState members then [⟨setStateHelper state, ["setState"]⟩] else [])

/-- The parts of the hook of a class, in order. -/
def hookParts (members : List Node) (y : Yield) : List HookPart :=
  stateParts members y.state ++ y.pieces.map (fun p => ⟨p.2, [p.1]⟩) ++ y.effects.map (⟨·, []⟩)

theorem hook_parts_texts (members : List Node) (y : Yield) :
    (hookParts members y).map HookPart.text =
      (stateParts members y.state).map HookPart.text ++ y.pieces.map Prod.snd ++ y.effects := by
  simp [hookParts, Function.comp_def]

theorem hook_parts_names (members : List Node) (y : Yield) :
    (hookParts members y).flatMap HookPart.names =
      (stateParts members y.state).flatMap HookPart.names ++ y.pieces.map Prod.fst := by
  have heffects : (y.effects.map fun text => (⟨text, []⟩ : HookPart)).flatMap HookPart.names = [] :=
    List.flatMap_eq_nil_iff.mpr (List.forall_mem_map.mpr fun _ _ => rfl)
  rw [hookParts, List.flatMap_append, List.flatMap_append, heffects, List.append_nil,
    List.flatMap_map, List.map_eq_flatMap]

/-- What is told about calls that set several state fields at once. -/
def setStateWarnings (members : List Node) (state : List StateField) : List String :=
  if !state.isEmpty && callsSetState members then
    ["setState calls were mapped onto per-field setters; review updater functions"]
  else []

namespace ClassReading

/-- The state is lifted into its parts of the hook. -/
theorem lift_state_eq (r : ClassReading) (members : List Node) :
    (r.liftState members).1 = (stateParts members r.state).map HookPart.text ∧
    (r.liftState members).2.1 = (stateParts members r.state).flatMap HookPart.names ∧
    (r.liftState members).2.2.component = r.draft.component ∧
    (r.liftState members).2.2.warnings =
      r.draft.warnings ++ setStateWarnings members r.state := by
  unfold liftState stateParts setStateWarnings
  cases r.state with
  | nil => exact ⟨rfl, rfl, rfl, (List.append_nil _).symm⟩
  | cons f state =>
      dsimp only [List.isEmpty_cons, Bool.not_false, Bool.true_and]
      cases readsWholeState members <;> cases callsSetState members <;>
        simp [stateLines, stateText, localText, Function.comp_def, List.flatMap_map,
          Draft.warn]

end ClassReading

section Writing

variable (lines : List String) (unit : String) (n : Node)

/-- What comes of a class. -/
def classYield : Yield := membersYield lines unit (classMembers n)

/-- The parts of the hook of a class. -/
def classParts : List HookPart := hookParts (classMembers n) (classYield lines unit n)

end Writing

/-- What is written for a class: the parts of its hook, which stand in the component without
extraction, the statements of its last render method, and what is told. -/
structure WritesClass (component : Component) (lines : List String) (extract : Bool) (n body : Node)
    (d : Draft) (p : Pieces) : Prop where
  of_component : d.component = component
  rendered : (lastRender (classMembers n)).bind (·.child? "body") = some body
  roles : ∀ m ∈ classMembers n, memberRole m ≠ .method none
  hook : d.hook = hookText d p
  declaration : d.declaration = componentText d n p
  prelude : p.prelude = []
  lifted : p.lifted =
    if extract then (classParts lines component.name n).map HookPart.text else []
  names : p.names =
    if extract then (classParts lines component.name n).flatMap HookPart.names else []
  render : p.render =
    (if extract then [] else (classParts lines component.name n).map HookPart.text) ++
      body.namedChildren.map fun stmt => localText (lineIndent lines stmt) stmt.text
  warnings : d.warnings = (classYield lines component.name n).warnings ++
    setStateWarnings (classMembers n) (classYield lines component.name n).state

/-- A class is written from the parts of its hook and from its last render method. -/
theorem Draft.convert_class_written {d d' : Draft} {extract : Bool} {n : Node}
    {place : FaultContext} (hwarnings : d.warnings = [])
    (h : d.convertClass extract n place = .ok d') :
    ∃ body p, WritesClass d.component d.lines extract n body d' p := by
  unfold convertClass at h
  dsimp only at h
  cases hread : (classMembers n).foldlM ClassReading.member { draft := d } with
  | error failure =>
      rw [hread] at h
      cases h
  | ok r =>
      rw [hread] at h
      obtain ⟨hadds, hrender, hroles⟩ := ClassReading.members_add hread
      obtain ⟨htexts, hnames, hcomponent, htold⟩ := r.lift_state_eq (classMembers n)
      have hstate : r.state = (classYield d.lines d.name n).state := hadds.state
      have hpieces : r.pieces = (classYield d.lines d.name n).pieces := hadds.pieces
      have heffects : r.effects = (classYield d.lines d.name n).effects := hadds.effects
      have hreadWarnings : r.draft.warnings = (classYield d.lines d.name n).warnings := by
        rw [hadds.warnings, hwarnings]
        rfl
      have hparts : (r.liftState (classMembers n)).1 ++ r.pieces.map Prod.snd ++ r.effects =
          (classParts d.lines d.name n).map HookPart.text := by
        rw [classParts, hook_parts_texts, htexts, hstate, hpieces, heffects]
      have hpartNames : (r.liftState (classMembers n)).2.1 ++ r.pieces.map Prod.fst =
          (classParts d.lines d.name n).flatMap HookPart.names := by
        rw [classParts, hook_parts_names, hnames, hstate, hpieces]
      rw [Option.or_none] at hrender
      simp only [bind, Except.bind] at h
      split at h
      · cases h
      · next body hbody =>
          cases h
          refine ⟨body, _, ⟨hcomponent.trans hadds.component, hrender ▸ hbody, hroles, rfl,
            Draft.declaration_emit _ _ _, ?_, ?_, ?_, ?_, ?_⟩⟩
          -- The parts go to the hook or, without extraction, to the component.
          · cases extract <;> rfl
          · change _ = if extract then (classParts d.lines d.name n).map HookPart.text else []
            rw [← hparts]
            cases extract <;> rfl
          · change _ = if extract then (classParts d.lines d.name n).flatMap HookPart.names else []
            rw [← hpartNames]
            cases extract <;> rfl
          · change _ = (if extract then [] else (classParts d.lines d.name n).map HookPart.text) ++ _
            rw [← hparts]
            cases extract <;> rfl
          · exact htold.trans (by rw [hreadWarnings, hstate]; rfl)

/-- The module of a class is written from the parts of its hook and from its last render method. -/
theorem Draft.class_of_site {options : TransformSettings} {component : Component} {source : String}
    {root : Node} {site : Site} {place : FaultContext} {d : Draft}
    (h : Draft.ofSite options component source root site place = .ok d)
    (hkind : component.kind = .classBased) :
    ∃ body p, WritesClass component (Text.lines source) options.extractBusinessLogic site.node body
      d p := by
  rw [of_site_eq, hkind] at h
  have hwarnings : (gatheredFor component source root site).warnings = [] := by
    obtain ⟨props, heq, -⟩ := gathered_for_eq component source root site
    rw [heq]
  have hwritten := convert_class_written hwarnings h
  rwa [component_gathered_for, lines_gathered_for] at hwritten

end ComponentMigration
