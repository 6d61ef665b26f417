import ComponentMigration.Proofs.Module.HookNames

/-!
# What becomes of the members of a class

The hook and the component of a class are part of its module, and so is what is told.  So each method
and each field of a transformed class is accounted for: it stands in the module as state, function,
variable, effect or component, or a warning names it (`class_accounts_for_members`).  Of a member
that is neither a method nor a field, nothing is said.
-/

namespace ComponentMigration

section Standing

variable {d : Draft} {n : Node} {p : Pieces} {part : String} {compat : Bool}

theorem hook_line_stands_in_hook {line : String} (hlifted : p.lifted ≠ [])
    (hline : line ∈ hookLines d p) : Text.StandsIn line (hookText d p) := by
  have hwritten : hookText d p = String.intercalate "\n" (hookLines d p) :=
    if_neg (by rwa [List.isEmpty_iff])
  exact hwritten ▸ Text.stands_in_intercalate hline "\n"

/-- A hook with lifted statements is not empty. -/
theorem hook_text_is_empty (hlifted : p.lifted ≠ []) : (hookText d p).isEmpty = false := by
  -- The closing brace is enough to tell it from the empty text.
  have hclosing : Text.StandsIn "\x7d" (hookText d p) :=
    hook_line_stands_in_hook hlifted (List.mem_append_right _ (List.mem_singleton_self _))
  generalize hookText d p = hook at hclosing
  rw [← Bool.not_eq_true, String.isEmpty_iff]
  rintro rfl
  exact absurd (List.infix_nil.mp hclosing) (by decide)

/-- What is lifted stands in the module. -/
theorem Draft.lifted_stands_in_code (hhook : d.hook = hookText d p) (h : part ∈ p.lifted)
    (compat : Bool) : Text.StandsIn part (d.code compat) := by
  have hlifted : p.lifted ≠ [] := List.ne_nil_of_mem h
  have hpart : Text.StandsIn part (hookText d p) := hook_line_stands_in_hook hlifted
    (List.mem_append_left _ (List.mem_append_left _ (List.mem_append_right _ h)))
  rw [← hhook] at hpart
  refine hpart.trans (Draft.section_stands_in_code ?_)
  have hwritten : d.hook.isEmpty = false := hhook ▸ hook_text_is_empty hlifted
  simp [Draft.sections, hwritten]

/-- What is rendered stands in the module. -/
theorem Draft.rendered_stands_in_code (hdeclaration : d.declaration = componentText d n p)
    (h : part ∈ p.render) (compat : Bool) : Text.StandsIn part (d.code compat) := by
  refine Text.StandsIn.trans ?_ (d.declaration_stands_in_code compat)
  rw [hdeclaration, componentText]
  refine Text.stands_in_intercalate (List.mem_append_left _ (List.mem_append_right _ ?_)) "\n"
  exact List.mem_append_right _ h

end Standing

section Accounts

variable (lines : List String) (unit code : String) (warnings : List String)

/-- An entry of the state is a field of the hook's state, or a warning tells of it. -/
def AccountsForEntry (entry : Node) : Prop :=
  (∃ f, stateField? lines entry = some f ∧ Text.StandsIn (stateText f) code) ∨
    entry.kind = "comment" ∨ ∃ w ∈ warnings, Text.StandsIn entry.text w

/-- A statement of the constructor sets up the state, or nothing that a component has, or a warning
tells of it. -/
def AccountsForStatement (stmt : Node) : Prop :=
  isSetup stmt = true ∨
    (∃ object, statementState? stmt = some object ∧
      ∀ entry ∈ object.namedChildren, AccountsForEntry lines code warnings entry) ∨
    ∃ w ∈ warnings, Text.StandsIn (Text.firstLine (Text.strip stmt.text)) w

/-- What becomes of a member of a class. -/
inductive AccountsForMember (m : Node) : Prop
  | component {body : Node} (hbody : m.child? "body" = some body)
      (h : ∀ stmt ∈ body.namedChildren,
        Text.StandsIn (localText (lineIndent lines stmt) stmt.text) code)
  | initializer (h : ∀ stmt ∈ methodStatements m, AccountsForStatement lines code warnings stmt)
  | state {object : Node} (hvalue : m.child? "value" = some object)
      (h : ∀ entry ∈ object.namedChildren, AccountsForEntry lines code warnings entry)
  | method {body : Node} (hbody : m.child? "body" = some body)
      (h : Text.StandsIn (localText (lineIndent lines m)
        (ClassReading.methodText (memberName m) m body)) code)
  | functionValue {value : Node} (hvalue : m.child? "value" = some value)
      (h : Text.StandsIn (localText (lineIndent lines m) (functionText (memberName m) value)) code)
  | otherValue
      (h : Text.StandsIn (localText (lineIndent lines m)
        (variableText (memberName m) (m.child? "value"))) code)
  | effect {body : Node} {source : String} (hbody : m.child? "body" = some body)
      (hsource : effectSource? (memberName m) body = some source)
      (h : Text.StandsIn (localText (lineIndent lines m) source) code)
  | told {w : String} (hw : w ∈ warnings) (h : Text.StandsIn (memberName m) w)

/-- What comes of a part of a class stands in the code, or is told. -/
structure Yield.IsKept (y : Yield) : Prop where
  state : ∀ f ∈ y.state, Text.StandsIn (stateText f) code
  pieces : ∀ p ∈ y.pieces, Text.StandsIn p.2 code
  effects : ∀ text ∈ y.effects, Text.StandsIn text code
  warnings : ∀ w ∈ y.warnings, w ∈ warnings

end Accounts

section Keeping

variable {lines : List String} {unit code : String} {warnings : List String} {y : Yield}

theorem Yield.IsKept.of_sum {yields : List Yield} (h : (Yield.sum yields).IsKept code warnings)
    (hy : y ∈ yields) : y.IsKept code warnings where
  state f hf := h.state f (List.mem_flatMap.mpr ⟨y, hy, hf⟩)
  pieces p hp := h.pieces p (List.mem_flatMap.mpr ⟨y, hy, hp⟩)
  effects text htext := h.effects text (List.mem_flatMap.mpr ⟨y, hy, htext⟩)
  warnings w hw := h.warnings w (List.mem_flatMap.mpr ⟨y, hy, hw⟩)

theorem Yield.IsKept.of_member {n m : Node} {role : MemberRole}
    (h : (classYield lines unit n).IsKept code warnings) (hm : m ∈ classMembers n)
    (hrole : memberRole m = role) : (roleYield lines unit m role).IsKept code warnings := by
  have hmember := h.of_sum (List.mem_map_of_mem hm)
  rwa [memberYield, hrole] at hmember

theorem Yield.IsKept.piece_stands {name text : String} (h : y.IsKept code warnings)
    (hy : y.pieces = [(name, text)]) : Text.StandsIn text code :=
  h.pieces (name, text) (hy ▸ List.mem_singleton_self _)

theorem Yield.IsKept.effect_stands {text : String} (h : y.IsKept code warnings)
    (hy : y.effects = [text]) : Text.StandsIn text code :=
  h.effects text (hy ▸ List.mem_singleton_self _)

theorem Yield.IsKept.warning_told {w : String} (h : y.IsKept code warnings)
    (hy : y.warnings = [w]) : w ∈ warnings :=
  h.warnings w (hy ▸ List.mem_singleton_self _)

theorem stands_in_middle (before part after : String) :
    Text.StandsIn part (before ++ part ++ after) :=
  ((Text.stands_in_self part).append_left before).append_right after

theorem accounts_for_entry {entry : Node}
    (h : (entryYield lines unit entry).IsKept code warnings) :
    AccountsForEntry lines code warnings entry := by
  unfold entryYield at h
  split at h
  · next f hf => exact .inl ⟨f, hf, h.state f (List.mem_singleton_self f)⟩
  · split at h
    · next hcomment => exact .inr (.inl (beq_iff_eq.mp hcomment))
    · refine .inr (.inr ⟨_, h.warning_told rfl, ?_⟩)
      have hnamed := stands_in_middle "State entry '" entry.text
        ("' of " ++ unit ++ " could not be mapped onto useState")
      simpa only [String.append_assoc] using hnamed

theorem accounts_for_entries {object : Node}
    (h : (objectYield lines unit object).IsKept code warnings) :
    ∀ entry ∈ object.namedChildren, AccountsForEntry lines code warnings entry :=
  fun _ hentry => accounts_for_entry (h.of_sum (List.mem_map_of_mem hentry))

theorem accounts_for_statement {stmt : Node}
    (h : (statementYield lines unit stmt).IsKept code warnings) :
    AccountsForStatement lines code warnings stmt := by
  unfold statementYield at h
  split at h
  · next hsuper => exact .inl (by simp [isSetup, hsuper])
  · split at h
    · next object hobject => exact .inr (.inl ⟨object, hobject, accounts_for_entries h⟩)
    · split at h
      · next hsetup => exact .inl (by rw [isSetup, Bool.or_assoc, hsetup, Bool.or_true])
      · refine .inr (.inr ⟨_, h.warning_told rfl, ?_⟩)
        have hnamed := stands_in_middle ("Constructor statement of " ++ unit ++ " was dropped: ")
          (Text.firstLine (Text.strip stmt.text)) ""
        simpa only [String.append_empty] using hnamed

/-- A lifecycle method becomes an effect, or a warning tells of it. -/
theorem effect_source_or_warning (unit : String) {m : Node} (body : Node) :
    (∃ source, effectSource? (memberName m) body = some source) ∨
      lifecycleWarnings unit m =
        ["Lifecycle method " ++ memberName m ++ " of " ++ unit ++ " has no direct hook equivalent"] := by
  unfold effectSource? lifecycleWarnings
  dsimp only
  by_cases hmount : memberName m == "componentDidMount"
  · exact .inl ⟨_, if_pos hmount⟩
  by_cases hunmount : memberName m == "componentWillUnmount"
  · exact .inl ⟨_, (if_neg hmount).trans (if_pos hunmount)⟩
  by_cases hupdate : memberName m == "componentDidUpdate"
  · exact .inl ⟨_, (if_neg hmount).trans ((if_neg hunmount).trans (if_pos hupdate))⟩
  · exact .inr ((if_neg (by simp [hmount, hunmount])).trans (if_neg hupdate))

theorem accounts_for_lifecycle {m body : Node} (hbody : m.child? "body" = some body)
    (h : (lifecycleYield lines unit m).IsKept code warnings) :
    AccountsForMember lines code warnings m := by
  rw [lifecycle_yield_of_body lines unit hbody] at h
  rcases effect_source_or_warning unit body with ⟨source, hsource⟩ | hwarning
  · rw [hsource] at h
    exact .effect hbody hsource (h.effect_stands rfl)
  · rw [hwarning] at h
    refine .told (h.warning_told rfl) ?_
    rw [String.append_assoc, String.append_assoc]
    exact stands_in_middle _ _ _

/-- Whatever comes of a method or a field accounts for it, if its statements are rendered in case it
is the render method, and if it has a body in case it is a lifecycle method. -/
theorem accounts_for_member {m : Node} (hkind : isMethodOrField m = true)
    (hrender : memberRole m = .render → ∃ body, m.child? "body" = some body ∧
      ∀ stmt ∈ body.namedChildren, Text.StandsIn (localText (lineIndent lines stmt) stmt.text) code)
    (hlifecycle : memberRole m = .lifecycle → ∃ body, m.child? "body" = some body)
    (hmethod : memberRole m ≠ .method none)
    (h : (memberYield lines unit m).IsKept code warnings) :
    AccountsForMember lines code warnings m := by
  have hfits := member_role_fits m
  rw [memberYield] at h
  cases hrole : memberRole m with
  | render =>
      obtain ⟨body, hbody, hstands⟩ := hrender hrole
      exact .component hbody hstands
  | initializer =>
      rw [hrole] at h
      exact .initializer fun stmt hstmt => accounts_for_statement (h.of_sum (List.mem_map_of_mem hstmt))
  | manual =>
      rw [hrole] at h
      refine .told (h.warning_told rfl) ?_
      rw [String.append_assoc, String.append_assoc]
      exact stands_in_middle _ _ _
  | lifecycle =>
      rw [hrole] at h
      obtain ⟨body, hbody⟩ := hlifecycle hrole
      exact accounts_for_lifecycle hbody h
  | method body =>
      cases body with
      | none => exact absurd hrole hmethod
      | some body =>
          rw [hrole] at h hfits
          exact .method hfits (h.piece_stands rfl)
  | dropped =>
      rw [hrole] at h
      refine .told (h.warning_told rfl) ?_
      rw [String.append_assoc, String.append_assoc]
      exact stands_in_middle _ _ _
  | state object =>
      rw [hrole] at h hfits
      exact .state hfits (accounts_for_entries h)
  | functionValue value =>
      rw [hrole] at h hfits
      exact .functionValue hfits (h.piece_stands rfl)
  | otherValue value =>
      rw [hrole] at h hfits
      obtain rfl : m.child? "value" = value := hfits
      exact .otherValue (h.piece_stands rfl)
  | other =>
      rw [hrole] at hfits
      exact absurd (hkind.symm.trans hfits) Bool.noConfusion

end Keeping

section Written

variable {component : Component} {lines : List String} {extract : Bool} {n body : Node} {d : Draft}
  {p : Pieces}

/-- The parts of the hook stand in the module. -/
theorem WritesClass.part_stands_in_code (h : WritesClass component lines extract n body d p)
    {text : String} {names : List String}
    (hpart : ⟨text, names⟩ ∈ classParts lines component.name n) (compat : Bool) :
    Text.StandsIn text (d.code compat) := by
  have htext : text ∈ (classParts lines component.name n).map HookPart.text :=
    List.mem_map_of_mem (f := HookPart.text) hpart
  cases extract with
  | true => exact Draft.lifted_stands_in_code h.hook (h.lifted ▸ htext) compat
  | false =>
      refine Draft.rendered_stands_in_code h.declaration ?_ compat
      rw [h.render]
      exact List.mem_append_left _ htext

/-- The statements of the render method stand in the module. -/
theorem WritesClass.statement_stands_in_code (h : WritesClass component lines extract n body d p)
    {stmt : Node} (hstmt : stmt ∈ body.namedChildren) (compat : Bool) :
    Text.StandsIn (localText (lineIndent lines stmt) stmt.text) (d.code compat) := by
  refine Draft.rendered_stands_in_code h.declaration ?_ compat
  rw [h.render]
  exact List.mem_append_right _ (List.mem_map_of_mem hstmt)

/-- What comes of a class stands in its module or is told. -/
theorem WritesClass.is_kept (h : WritesClass component lines extract n body d p) (compat : Bool) :
    (classYield lines component.name n).IsKept (d.code compat) d.warnings where
  state f hf := by
    have hne : (classYield lines component.name n).state.isEmpty = false :=
      List.isEmpty_eq_false_iff.mpr (List.ne_nil_of_mem hf)
    have hstate : (⟨stateText f, [f.key, f.setter]⟩ : HookPart) ∈
        stateParts (classMembers n) (classYield lines component.name n).state := by
      rw [stateParts, if_neg (by simp [hne])]
      refine List.mem_append_left _ (List.mem_append_left _ ?_)
      exact List.mem_map_of_mem (f := fun f => (⟨stateText f, [f.key, f.setter]⟩ : HookPart)) hf
    exact h.part_stands_in_code (List.mem_append_left _ (List.mem_append_left _ hstate)) compat
  pieces piece hpiece := by
    have hpart : (⟨piece.2, [piece.1]⟩ : HookPart) ∈
        (classYield lines component.name n).pieces.map fun p => ⟨p.2, [p.1]⟩ :=
      List.mem_map_of_mem (f := fun p => (⟨p.2, [p.1]⟩ : HookPart)) hpiece
    exact h.part_stands_in_code (List.mem_append_left _ (List.mem_append_right _ hpart)) compat
  effects text htext := by
    have hpart : (⟨text, []⟩ : HookPart) ∈
        (classYield lines component.name n).effects.map (⟨·, []⟩) :=
      List.mem_map_of_mem (f := fun t => (⟨t, []⟩ : HookPart)) htext
    exact h.part_stands_in_code (List.mem_append_right _ hpart) compat
  warnings w hw := by
    rw [h.warnings]
    exact List.mem_append_left _ hw

end Written

theorem TransformOutcome.IsWritten.warnings_subset {outcome : TransformOutcome}
    {context : RunContext} {component : Component} {text : String} {document : Document}
    {site : Site} {d : Draft} (h : outcome.IsWritten context component text document site d) :
    d.warnings ⊆ outcome.warnings := by
  rw [h.written, Draft.outcome]
  dsimp only
  split
  · exact List.subset_append_left _ _
  · exact List.Subset.refl _

/-- A block of the class of the lamp that runs once, when the class is set up. -/
def lampBlock : Node :=
  .mk
      { kind := "class_static_block", startLine := 3, endLine := 3
        text := "static \x7b boot(); \x7d" }
    [.mk
        { kind := "statement_block", field := "body", startLine := 3, endLine := 3
          text := "\x7b boot(); \x7d" }
      [.mk { kind := "expression_statement", startLine := 3, endLine := 3, text := "boot();" } []]]

/-- Trees of texts with this class have no unreadable places. -/
theorem lamp_has_no_errors (language : Language) (path text : String) :
    (Document.parse (lampContext lampBlock).grammar language path text).hasErrors = false := by
  unfold Document.parse Document.hasErrors Document.brokenNodes lampContext
  dsimp only
  split
  · decide
  · decide

/-- Every method and every field of a transformed class stands in its module as state, function,
variable, effect or component, or a warning names it.  Of several render methods this holds of the
last one, and a lifecycle method needs a body, which every method of a class has. -/
theorem class_accounts_for_members {context : RunContext} {s t : RunState} {component : Component}
    {text : String} {outcome : TransformOutcome} (hkind : component.kind = .classBased)
    (h : (Run.transformText component text).exec context s = (.ok outcome, t)) :
    ∃ document site d, outcome.IsWritten context component text document site d ∧
      ∀ m ∈ classMembers site.node, isMethodOrField m = true →
        (isRender m = true → lastRender (classMembers site.node) = some m) →
        (memberRole m = .lifecycle → ∃ body, m.child? "body" = some body) →
        AccountsForMember (Text.lines text) outcome.code outcome.warnings m := by
  obtain ⟨document, site, d, hwritten⟩ := Run.transform_text_written h
  obtain ⟨place, hdraft⟩ := hwritten.drafted
  obtain ⟨body, p, hclass⟩ := Draft.class_of_site hdraft hkind
  refine ⟨document, site, d, hwritten, fun m hm hmember hrender hlifecycle => ?_⟩
  rw [hwritten.code_eq]
  have hkept := (hclass.is_kept context.settings.transform.compatLayer).of_sum
    (List.mem_map_of_mem hm)
  refine accounts_for_member hmember (fun hrole => ⟨body, ?_, fun stmt hstmt => ?_⟩) hlifecycle
    (hclass.roles m hm) { hkept with warnings := fun w hw => ?_ }
  -- The component has the statements of the last render method, which is `m`.
  · have hrendered := hclass.rendered
    rwa [hrender ((ClassReading.member_role_eq_render m).mp hrole), Option.bind_some] at hrendered
  · exact hclass.statement_stands_in_code hstmt _
  · exact hwritten.warnings_subset (hkept.warnings w hw)

theorem class_accounts_for_members_toggle :
    ∃ outcome t, (Run.transformText lampUnit (lampText "toggle() \x7b\x7d")).exec
        (lampContext (lampMethod 3 "toggle")) {} = (.ok outcome, t) ∧
      AccountsForMember (Text.lines (lampText "toggle() \x7b\x7d")) outcome.code outcome.warnings
        (lampMethod 3 "toggle") := by
  obtain ⟨outcome, t, hexec⟩ : ∃ outcome t,
      (Run.transformText lampUnit (lampText "toggle() \x7b\x7d")).exec
        (lampContext (lampMethod 3 "toggle")) {} = (.ok outcome, t) :=
    ⟨_, _, rfl⟩
  obtain ⟨document, site, d, hwritten, haccounts⟩ := class_accounts_for_members rfl hexec
  obtain rfl := lamp_site_of_written hwritten
  refine ⟨outcome, t, hexec, ?_⟩
  have hmember : lampMethod 3 "toggle" ∈ classMembers (lampSite (lampMethod 3 "toggle")).node :=
    List.mem_filter.mpr ⟨List.mem_cons_of_mem _ List.mem_cons_self, by decide⟩
  have hrender : isRender (lampMethod 3 "toggle") = false := by decide
  refine haccounts _ hmember (by decide) (fun h => ?_) fun _ => ⟨_, rfl⟩
  exact absurd (hrender.symm.trans h) Bool.noConfusion

/-- The block is a member of the class, and neither the hook nor the component nor a warning has
anything of it. -/
theorem class_loses_static_block :
    lampBlock ∈ classMembers (lampClass lampBlock) ∧
    ∃ outcome t, (Run.transformText lampUnit (lampText lampBlock.text)).exec
        (lampContext lampBlock) {} = (.ok outcome, t) ∧
      outcome.warnings = [] ∧
      ∃ d p, outcome.code = d.code false ∧ d.hook = hookText d p ∧
        d.declaration = componentText d (lampClass lampBlock) p ∧
        p.lifted = ["  const [on, setOn] = useState(0);"] ∧ p.names = ["on", "setOn"] ∧
        p.render = [] := by
  obtain ⟨outcome, t, hexec⟩ : ∃ outcome t,
      (Run.transformText lampUnit (lampText lampBlock.text)).exec (lampContext lampBlock) {} =
        (.ok outcome, t) :=
    ⟨_, _, rfl⟩
  obtain ⟨document, site, d, hwritten⟩ := Run.transform_text_written hexec
  obtain ⟨place, hdraft⟩ := hwritten.drafted
  obtain ⟨body, p, hclass⟩ := Draft.class_of_site hdraft rfl
  obtain rfl := lamp_site_of_written hwritten
  have hmember : lampBlock ∈ classMembers (lampClass lampBlock) :=
    List.mem_filter.mpr ⟨List.mem_cons_of_mem _ List.mem_cons_self, by decide⟩
  have hbody : body = .mk
      { kind := "statement_block", field := "body", startLine := 4, endLine := 4
        text := "\x7b\x7d" } [] :=
    Option.some.inj (hclass.rendered.symm.trans rfl)
  refine ⟨hmember, outcome, t, hexec, ?_, d, p, hwritten.code_eq, hclass.hook, hclass.declaration,
    hclass.lifted.trans rfl, hclass.names.trans rfl, ?_⟩
  · have hwarnings : d.warnings = [] := hclass.warnings.trans (by decide)
    rw [hwritten.written, Draft.outcome]
    dsimp only
    rw [lamp_has_no_errors, if_neg Bool.false_ne_true, hwarnings]
  · rw [hclass.render, hbody]
    rfl

end ComponentMigration
