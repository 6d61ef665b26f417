import ComponentMigration.Proofs.Module.Accounting
import ComponentMigration.Proofs.Module.Lookup
import ComponentMigration.Proofs.Module.Rewriting
import ComponentMigration.Proofs.Source.Sites

/-!
# Literals of the code that a module takes over

The hook and the component of a unit take over statements of a function, or methods, fields and
statements of a class.  Each is emitted in the module, and every literal in it is emitted with it:
with its further lines moved like lines of code, and in a class with accesses to the instance
replaced (`literals_carried_over`).  A literal of one line that reads no instance is thus left as it
is.
-/

namespace ComponentMigration

/-- Whether a node is a literal of text. -/
def Node.isTextLiteral (n : Node) : Bool :=
  n.info.named && (n.kind == "string" || n.kind == "template_string")

/-- A tree covers a text: what is below a node is a part of its text, and literals are quoted. -/
structure Node.CoversText (root : Node) : Prop where
  within : ∀ n ∈ root.walk, ∀ c ∈ n.children, Text.StandsIn c.text n.text
  quoted : ∀ n ∈ root.walk, n.isTextLiteral = true → Text.IsQuoted n.text

instance (root : Node) : Decidable root.CoversText :=
  decidable_of_iff
    ((∀ n ∈ root.walk, ∀ c ∈ n.children, Text.StandsIn c.text n.text) ∧
      ∀ n ∈ root.walk, n.isTextLiteral = true → Text.IsQuoted n.text)
    ⟨fun h => ⟨h.1, h.2⟩, fun h => ⟨h.within, h.quoted⟩⟩

/-- The trees of a grammar cover their texts if there are no unreadable places. -/
def CoversTexts (grammar : Grammar) : Prop :=
  ∀ language text, (∀ n ∈ (grammar language text).walk, n.isBroken = false) →
    (grammar language text).CoversText

namespace Node.CoversText

theorem of_mem_walk {n m : Node} (h : n.CoversText) (hm : m ∈ n.walk) : m.CoversText where
  within k hk := h.within k (mem_walk_trans hm hk)
  quoted k hk := h.quoted k (mem_walk_trans hm hk)

theorem stands_in_of_mem_walk {n m : Node} (h : n.CoversText) (hm : m ∈ n.walk) :
    Text.StandsIn m.text n.text := by
  rcases mem_walk_iff.mp hm with rfl | ⟨c, hc, hm⟩
  · exact Text.stands_in_self _
  · exact (stands_in_of_mem_walk (h.of_mem_walk (mem_walk_of_mem_children hc)) hm).trans
      (h.within n n.mem_walk_self c hc)
termination_by sizeOf n
decreasing_by exact sizeOf_lt_of_mem_children hc

end Node.CoversText

/-- A node that is carried over: what is emitted for it, and what literals in it become. -/
structure Carried where
  node : Node
  emitted : String
  literal : String → String

/-- A node that stands in a text moved onto the indentation of the module. -/
def Carried.moved (node : Node) (anchor : Nat) (text : String) : Carried :=
  ⟨node, reindent text anchor indentUnit, movedLiteral anchor indentUnit⟩

/-- A node that stands in a text of a class, in which members of the instance become local names. -/
def Carried.renamed (node : Node) (anchor : Nat) (text : String) : Carried :=
  ⟨node, localText anchor text, fun t => movedLiteral anchor indentUnit (withLocalNames t)⟩

/-- An object whose entries become fields of the hook's state. -/
inductive SetsState (n : Node) : Node → Prop
  | field {m object : Node} (hm : m ∈ classMembers n) (hrole : memberRole m = .state object) :
      SetsState n object
  | initial {m stmt object : Node} (hm : m ∈ classMembers n) (hrole : memberRole m = .initializer)
      (hstmt : stmt ∈ methodStatements m) (hobject : statementState? stmt = some object) :
      SetsState n object

/-- The nodes from which the function of a method is written. -/
def methodParts (m body : Node) : List Node :=
  [m.child? "name", m.child? "parameters", m.child? "return_type", some body].filterMap id

theorem mem_method_parts {m body part : Node} : part ∈ methodParts m body ↔
    m.child? "name" = some part ∨ m.child? "parameters" = some part ∨
      m.child? "return_type" = some part ∨ body = part := by
  simp [methodParts, eq_comm]

/-- The declaration of a state field, as a text of the class. -/
def stateSource (f : StateField) : String :=
  "const [" ++ f.key ++ ", " ++ f.setter ++ "] = useState(" ++ f.value ++ ");"

theorem state_text_eq (f : StateField) : stateText f = localText f.anchor (stateSource f) := rfl

/-- What the hook and the component take over from a class. -/
inductive ClassCarries (lines : List String) (n : Node) : Carried → Prop
  | statement {m body stmt : Node} (hrender : lastRender (classMembers n) = some m)
      (hbody : m.child? "body" = some body) (hstmt : stmt ∈ body.namedChildren) :
      ClassCarries lines n (.renamed stmt (lineIndent lines stmt) stmt.text)
  | method {m body part : Node} (hm : m ∈ classMembers n)
      (hrole : memberRole m = .method (some body)) (hpart : part ∈ methodParts m body) :
      ClassCarries lines n (.renamed part (lineIndent lines m)
        (ClassReading.methodText (memberName m) m body))
  | effect {m body : Node} {source : String} (hm : m ∈ classMembers n)
      (hrole : memberRole m = .lifecycle) (hbody : m.child? "body" = some body)
      (hsource : effectSource? (memberName m) body = some source) :
      ClassCarries lines n (.renamed body (lineIndent lines m) source)
  | functionValue {m value : Node} (hm : m ∈ classMembers n)
      (hrole : memberRole m = .functionValue value) :
      ClassCarries lines n (.renamed value (lineIndent lines m) (functionText (memberName m) value))
  | otherValue {m value : Node} (hm : m ∈ classMembers n)
      (hrole : memberRole m = .otherValue (some value)) :
      ClassCarries lines n (.renamed value (lineIndent lines m)
        (variableText (memberName m) (some value)))
  | state {object entry value : Node} {f : StateField} (hobject : SetsState n object)
      (hentry : entry ∈ object.namedChildren) (hpair : entry.kind = "pair")
      (hvalue : entry.child? "value" = some value) (hf : stateField? lines entry = some f) :
      ClassCarries lines n (.renamed value f.anchor (stateSource f))

/-- What the hook and the component take over from a function, or from a statement that has none. -/
inductive FunctionCarries (lines : List String) (site : Site) : Carried → Prop
  | statement {fn body stmt : Node} (hfn : site.node.functionOf = some fn)
      (hbody : fn.child? "body" = some body) (hblock : body.kind = "statement_block")
      (hstmt : stmt ∈ body.namedChildren) :
      FunctionCarries lines site (.moved stmt (lineIndent lines stmt) stmt.text)
  | value {fn body : Node} (hfn : site.node.functionOf = some fn)
      (hbody : fn.child? "body" = some body) (hvalue : body.kind ≠ "statement_block") :
      FunctionCarries lines site (.moved body (lineIndent lines body)
        ("return " ++ body.text ++ ";"))
  | whole (hnone : site.node.functionOf = none) :
      FunctionCarries lines site ⟨site.statement.node, site.statement.node.text, id⟩

/-- What the hook and the component of a unit take over. -/
inductive UnitCarries (component : Component) (lines : List String) (site : Site) (c : Carried) :
    Prop
  | ofClass (hkind : component.kind = .classBased) (h : ClassCarries lines site.node c)
  | ofFunction (hkind : component.kind = .functional) (h : FunctionCarries lines site c)

theorem fits_of_role {m : Node} {role : MemberRole} (h : memberRole m = role) : role.Fits m :=
  h ▸ member_role_fits m

section Below

variable {lines : List String} {n : Node} {site : Site} {c : Carried}

theorem mem_walk_of_method_statement {m stmt : Node} (h : stmt ∈ methodStatements m) :
    stmt ∈ m.walk := by
  unfold methodStatements at h
  cases hbody : m.child? "body" with
  | none =>
      rw [hbody] at h
      cases h
  | some body =>
      rw [hbody] at h
      exact Node.mem_walk_trans (Node.mem_walk_of_child? hbody)
        (Node.mem_walk_of_mem_named_children h)

theorem mem_walk_of_class_member {m : Node} (h : m ∈ classMembers n) : m ∈ n.walk :=
  mem_walk_of_method_statement (List.mem_filter.mp h).1

theorem assigned_of_statement_state {stmt object : Node} (h : statementState? stmt = some object) :
    ∃ e, statementExpression? stmt = some e ∧ e.kind = "assignment_expression" ∧
      e.child? "right" = some object := by
  obtain ⟨e, he, hobject⟩ := Option.bind_eq_some_iff.mp h
  unfold assignedState? at hobject
  split at hobject
  · next hassigned =>
      exact ⟨e, he, beq_iff_eq.mp (Bool.and_eq_true_iff.mp hassigned).1,
        (Option.filter_eq_some_iff.mp hobject).1⟩
  · cases hobject

theorem SetsState.mem_walk {object : Node} (h : SetsState n object) : object ∈ n.walk := by
  cases h with
  | field hm hrole =>
      exact Node.mem_walk_trans (mem_walk_of_class_member hm)
        (Node.mem_walk_of_child? (fits_of_role hrole))
  | initial hm hrole hstmt hobject =>
      obtain ⟨e, he, -, hright⟩ := assigned_of_statement_state hobject
      unfold statementExpression? at he
      split at he
      · have hexpression := Node.mem_walk_of_mem_named_children (List.mem_of_head? he)
        exact Node.mem_walk_trans (mem_walk_of_class_member hm)
          (Node.mem_walk_trans (mem_walk_of_method_statement hstmt)
            (Node.mem_walk_trans hexpression (Node.mem_walk_of_child? hright)))
      · cases he

/-- What is carried over from a class is part of it. -/
theorem ClassCarries.mem_walk (h : ClassCarries lines n c) : c.node ∈ n.walk := by
  cases h with
  | @statement m _ _ hrender hbody hstmt =>
      have hm : m ∈ classMembers n := List.mem_reverse.mp (List.mem_of_find?_eq_some hrender)
      exact Node.mem_walk_trans (mem_walk_of_class_member hm)
        (Node.mem_walk_trans (Node.mem_walk_of_child? hbody)
          (Node.mem_walk_of_mem_named_children hstmt))
  | method hm hrole hpart =>
      refine Node.mem_walk_trans (mem_walk_of_class_member hm) ?_
      rcases mem_method_parts.1 hpart with hpart | hpart | hpart | rfl
      · exact Node.mem_walk_of_child? hpart
      · exact Node.mem_walk_of_child? hpart
      · exact Node.mem_walk_of_child? hpart
      · exact Node.mem_walk_of_child? (fits_of_role hrole)
  | effect hm hrole hbody hsource =>
      exact Node.mem_walk_trans (mem_walk_of_class_member hm) (Node.mem_walk_of_child? hbody)
  | functionValue hm hrole =>
      exact Node.mem_walk_trans (mem_walk_of_class_member hm)
        (Node.mem_walk_of_child? (fits_of_role hrole))
  | otherValue hm hrole =>
      exact Node.mem_walk_trans (mem_walk_of_class_member hm)
        (Node.mem_walk_of_child? (fits_of_role hrole))
  | state hobject hentry hpair hvalue hf =>
      exact Node.mem_walk_trans hobject.mem_walk
        (Node.mem_walk_trans (Node.mem_walk_of_mem_named_children hentry)
          (Node.mem_walk_of_child? hvalue))

/-- What is carried over from a function is part of its statement. -/
theorem FunctionCarries.mem_walk (hsite : site.node ∈ site.statement.node.walk)
    (h : FunctionCarries lines site c) : c.node ∈ site.statement.node.walk := by
  cases h with
  | statement hfn hbody hblock hstmt =>
      exact Node.mem_walk_trans hsite (Node.mem_walk_trans (Node.mem_walk_of_function_of hfn)
        (Node.mem_walk_trans (Node.mem_walk_of_child? hbody)
          (Node.mem_walk_of_mem_named_children hstmt)))
  | value hfn hbody hvalue =>
      exact Node.mem_walk_trans hsite (Node.mem_walk_trans (Node.mem_walk_of_function_of hfn)
        (Node.mem_walk_of_child? hbody))
  | whole hnone => exact Node.mem_walk_self _

/-- The place of a unit is part of a statement of the file. -/
theorem FoundFor.mem_walk {root : Node} {name : String} (h : FoundFor root name site) :
    site.statement.node ∈ root.walk ∧ site.node ∈ site.statement.node.walk := by
  cases h with
  | introduced hi hname =>
      obtain ⟨hd, hi⟩ := mem_introductions hi
      obtain ⟨hs, hdeclares⟩ := Declaration.statement_of_mem hd
      exact ⟨mem_walk_of_statement hs, Node.mem_walk_trans
        (Declaration.mem_walk_statement hdeclares) (Introduction.mem_walk_declaration hi)⟩
  | @exported s fn hnone hs hfn =>
      refine ⟨mem_walk_of_statement hs, ?_⟩
      unfold exportedFunction? at hfn
      split at hfn
      · rcases Option.or_eq_some_iff.mp (Option.filter_eq_some_iff.mp hfn).1 with hchild | ⟨-, hchild⟩
        · exact Node.mem_walk_of_child? hchild
        · exact Node.mem_walk_of_child? hchild
      · cases hfn

theorem UnitCarries.mem_walk {component : Component} {root : Node} {name : String}
    (h : UnitCarries component lines site c) (hfound : FoundFor root name site) :
    c.node ∈ root.walk := by
  obtain ⟨hstatement, hnode⟩ := hfound.mem_walk
  refine Node.mem_walk_trans hstatement ?_
  cases h with
  | ofClass hkind h => exact Node.mem_walk_trans hnode h.mem_walk
  | ofFunction hkind h => exact h.mem_walk hnode

end Below

section Keeping

variable {lines : List String} {n : Node} {site : Site} {c : Carried}

/-- Literals of what is carried over stand, as they become, in what is emitted. -/
def Carried.Keeps (c : Carried) : Prop :=
  ∀ t, Text.IsQuoted t → Text.StandsIn t c.node.text → Text.StandsIn (c.literal t) c.emitted

theorem Carried.moved_keeps {node : Node} {text : String} (h : Text.StandsIn node.text text)
    (anchor : Nat) : (Carried.moved node anchor text).Keeps := by
  intro t ht hnode
  dsimp only [Carried.moved]
  exact moved_literal_stands_in ht (hnode.trans h) anchor indentUnit

theorem Carried.renamed_keeps {node : Node} {text : String} (h : Text.StandsIn node.text text)
    (anchor : Nat) : (Carried.renamed node anchor text).Keeps := by
  intro t ht hnode
  obtain ⟨hquoted, hstands⟩ := local_names_stand_in ht (hnode.trans h)
  dsimp only [Carried.renamed, localText]
  exact moved_literal_stands_in hquoted hstands anchor indentUnit

theorem method_part_stands_in {m body part : Node} (h : part ∈ methodParts m body) :
    Text.StandsIn part.text (ClassReading.methodText (memberName m) m body) := by
  have hself := Text.stands_in_self part.text
  unfold ClassReading.methodText
  rcases mem_method_parts.1 h with hname | hparameters | hreturn | rfl
  · have hmember : memberName m = part.text := by
      rw [memberName, hname]
      rfl
    rw [hmember]
    iterate 7 refine Text.StandsIn.append_right ?_ _
    exact hself.append_left _
  · rw [hparameters]
    iterate 4 refine Text.StandsIn.append_right ?_ _
    exact hself.append_left _
  · rw [hreturn]
    iterate 3 refine Text.StandsIn.append_right ?_ _
    exact hself.append_left _
  · exact stands_in_middle _ _ _

theorem effect_source_has_body {name source : String} {body : Node}
    (h : effectSource? name body = some source) : Text.StandsIn body.text source := by
  unfold effectSource? at h
  split at h
  · cases h
    exact stands_in_middle _ _ _
  split at h
  · cases h
    exact stands_in_middle _ _ _
  split at h
  · cases h
    exact stands_in_middle _ _ _
  · cases h

theorem state_source_has_value {entry value : Node} {f : StateField} (hpair : entry.kind = "pair")
    (hvalue : entry.child? "value" = some value) (hf : stateField? lines entry = some f) :
    Text.StandsIn value.text (stateSource f) := by
  have hvalue' : f.value = value.text := by
    unfold stateField? at hf
    rw [if_pos (beq_iff_eq.mpr hpair)] at hf
    dsimp only at hf
    split at hf
    · rw [hvalue, Option.map_some] at hf
      cases hf
      rfl
    · cases hf
  rw [stateSource, ← hvalue']
  exact stands_in_middle _ _ _

theorem ClassCarries.keeps (h : ClassCarries lines n c) : c.Keeps := by
  cases h with
  | statement hrender hbody hstmt => exact Carried.renamed_keeps (Text.stands_in_self _) _
  | method hm hrole hpart => exact Carried.renamed_keeps (method_part_stands_in hpart) _
  | effect hm hrole hbody hsource => exact Carried.renamed_keeps (effect_source_has_body hsource) _
  | functionValue hm hrole => exact Carried.renamed_keeps (stands_in_middle _ _ _) _
  | otherValue hm hrole => exact Carried.renamed_keeps (stands_in_middle _ _ _) _
  | state hobject hentry hpair hvalue hf =>
      exact Carried.renamed_keeps (state_source_has_value hpair hvalue hf) _

theorem FunctionCarries.keeps (h : FunctionCarries lines site c) : c.Keeps := by
  cases h with
  | statement hfn hbody hblock hstmt => exact Carried.moved_keeps (Text.stands_in_self _) _
  | value hfn hbody hvalue => exact Carried.moved_keeps (stands_in_middle _ _ _) _
  | whole hnone => exact fun t ht hnode => hnode

theorem quoted_ne_empty {t : String} (h : Text.IsQuoted t) : t ≠ "" := by
  obtain ⟨q, -, inner, ht⟩ := h
  rintro rfl
  cases ht

theorem moved_literal_of_line {t : String} (ht : Text.IsQuoted t)
    (hline : Text.hasLineBreak t = false) (node : Node) (anchor : Nat)
    (text : String) : (Carried.moved node anchor text).literal t = t :=
  moved_literal_eq_self (quoted_ne_empty ht) hline anchor indentUnit

theorem renamed_literal_of_line {t : String} (ht : Text.IsQuoted t)
    (hline : Text.hasLineBreak t = false) (hreads : readsInstance t = false)
    (node : Node) (anchor : Nat) (text : String) :
    (Carried.renamed node anchor text).literal t = t := by
  dsimp only [Carried.renamed]
  rw [local_names_eq_self hreads]
  exact moved_literal_eq_self (quoted_ne_empty ht) hline anchor indentUnit

/-- A literal of one line that reads no instance is left as it is. -/
theorem ClassCarries.literal_eq_self (h : ClassCarries lines n c) {t : String} (ht : Text.IsQuoted t)
    (hline : Text.hasLineBreak t = false) (hreads : readsInstance t = false) :
    c.literal t = t := by
  cases h <;> exact renamed_literal_of_line ht hline hreads _ _ _

theorem FunctionCarries.literal_eq_self (h : FunctionCarries lines site c) {t : String}
    (ht : Text.IsQuoted t) (hline : Text.hasLineBreak t = false) :
    c.literal t = t := by
  cases h with
  | statement hfn hbody hblock hstmt => exact moved_literal_of_line ht hline _ _ _
  | value hfn hbody hvalue => exact moved_literal_of_line ht hline _ _ _
  | whole hnone => rfl

end Keeping

section Emitting

variable {component : Component} {lines : List String} {extract : Bool} {n body : Node} {d : Draft}
  {p : Pieces} {c : Carried}

theorem SetsState.is_kept {unit code : String} {warnings : List String} {object : Node}
    (h : SetsState n object) (hkept : (classYield lines unit n).IsKept code warnings) :
    (objectYield lines unit object).IsKept code warnings := by
  cases h with
  | field hm hrole => exact hkept.of_member hm hrole
  | @initial m stmt object hm hrole hstmt hobject =>
      have hstatement := (hkept.of_member hm hrole).of_sum (List.mem_map_of_mem hstmt)
      obtain ⟨e, he, hassignment, -⟩ := assigned_of_statement_state hobject
      -- Calls of the parent are passed over before the state is looked for, and this is none.
      have hsuper : (statementExpression? stmt).any isSuperCall = false := by
        rw [he, Option.any_some, isSuperCall, hassignment]
        rfl
      rwa [statementYield, hsuper, if_neg Bool.false_ne_true, hobject] at hstatement

/-- What is carried over from a class is emitted in its module. -/
theorem WritesClass.emits (h : WritesClass component lines extract n body d p)
    (hc : ClassCarries lines n c) (compat : Bool) : Text.StandsIn c.emitted (d.code compat) := by
  have hkept := h.is_kept compat
  cases hc with
  | @statement m body' stmt hrender hbody hstmt =>
      have hrendered := h.rendered
      rw [hrender, Option.bind_some, hbody] at hrendered
      obtain rfl := Option.some.inj hrendered
      dsimp only [Carried.renamed]
      exact h.statement_stands_in_code hstmt compat
  | method hm hrole hpart =>
      dsimp only [Carried.renamed]
      exact (hkept.of_member hm hrole).piece_stands rfl
  | @effect m body source hm hrole hbody hsource =>
      have hyield : (lifecycleYield lines component.name m).effects =
          [localText (lineIndent lines m) source] := by
        rw [lifecycle_yield_of_body lines component.name hbody, hsource]
        rfl
      dsimp only [Carried.renamed]
      exact (hkept.of_member hm hrole).effect_stands hyield
  | functionValue hm hrole =>
      dsimp only [Carried.renamed]
      exact (hkept.of_member hm hrole).piece_stands rfl
  | otherValue hm hrole =>
      dsimp only [Carried.renamed]
      exact (hkept.of_member hm hrole).piece_stands rfl
  | @state object entry value f hobject hentry hpair hvalue hf =>
      have hobject := hobject.is_kept hkept
      have hentry := Yield.IsKept.of_sum hobject (List.mem_map_of_mem hentry)
      rw [entryYield, hf] at hentry
      dsimp only [Carried.renamed]
      rw [← state_text_eq]
      exact hentry.state f (List.mem_singleton_self f)

variable {options : TransformSettings} {source : String} {root : Node} {site : Site}
  {place : FaultContext}

/-- A statement of a function component stands in its module, in the hook or in the component. -/
theorem Draft.convert_function_places {start : Draft} {fn : Node} {stmt : Node} (extract : Bool)
    (n : Node) (hbody : fn.child? "body" = some body) (hblock : body.kind = "statement_block")
    (hstmt : stmt ∈ body.namedChildren) (compat : Bool) :
    Text.StandsIn (placedText start.lines stmt)
      ((start.convertFunction extract n fn).code compat) := by
  obtain ⟨base, p, -, -, heq, hplaces⟩ := start.convert_function_pieces extract n hbody hblock
  rw [heq]
  -- Every statement has one place: the hook, or the component.
  rw [← placements_items extract body.namedChildren] at hstmt
  obtain ⟨⟨stmt, lifted⟩, hplaced, rfl⟩ := List.mem_map.mp hstmt
  cases lifted with
  | true =>
      refine Draft.lifted_stands_in_code (d := base.emit n p) (p := p) rfl ?_ compat
      rw [hplaces.lifted]
      exact List.mem_append_right _ (List.mem_map_of_mem (mem_hook_statements.mpr hplaced))
  | false =>
      refine Draft.rendered_stands_in_code (base.declaration_emit n p) ?_ compat
      rw [hplaces.render]
      refine List.mem_append_right _ (List.mem_map_of_mem (List.mem_map.mpr ⟨(stmt, false), ?_, rfl⟩))
      exact List.mem_filter.mpr ⟨hplaced, rfl⟩

/-- A function without a block as its body returns it. -/
theorem Draft.convert_function_returns {start : Draft} {fn : Node} (extract : Bool) (n : Node)
    (hbody : fn.child? "body" = some body) (hvalue : body.kind ≠ "statement_block") (compat : Bool) :
    Text.StandsIn
      (reindent ("return " ++ body.text ++ ";") (lineIndent start.lines body) indentUnit)
      ((start.convertFunction extract n fn).code compat) := by
  obtain ⟨base, p, heq, hrender⟩ : ∃ (base : Draft) (p : Pieces),
      start.convertFunction extract n fn = base.emit n p ∧
      p.render = [reindent ("return " ++ body.text ++ ";") (lineIndent start.lines body) indentUnit] := by
    unfold convertFunction
    dsimp only
    rw [hbody]
    dsimp only
    rw [if_neg fun h => hvalue (beq_iff_eq.mp h)]
    exact ⟨_, _, rfl, rfl⟩
  rw [heq]
  refine Draft.rendered_stands_in_code (base.declaration_emit n p) ?_ compat
  rw [hrender]
  exact List.mem_singleton_self _

/-- What is carried over from a function is emitted in its module. -/
theorem Draft.function_emits (hkind : component.kind = .functional)
    (h : Draft.ofSite options component source root site place = .ok d)
    (hc : FunctionCarries (Text.lines source) site c) (compat : Bool) :
    Text.StandsIn c.emitted (d.code compat) := by
  rw [of_site_eq, hkind] at h
  have hlines : (gatheredFor component source root site).lines = Text.lines source :=
    lines_gathered_for
  generalize gatheredFor component source root site = start at h hlines
  cases hc with
  | statement hfn hbody hblock hstmt =>
      rw [hfn] at h
      cases h
      dsimp only [Carried.moved]
      rw [← hlines]
      exact convert_function_places _ _ hbody hblock hstmt compat
  | value hfn hbody hvalue =>
      rw [hfn] at h
      cases h
      dsimp only [Carried.moved]
      rw [← hlines]
      exact convert_function_returns _ _ hbody hvalue compat
  | whole hnone =>
      rw [hnone] at h
      cases h
      refine Text.StandsIn.trans ?_ (Draft.declaration_stands_in_code _ compat)
      unfold carryOver
      dsimp only [warn]
      split
      · exact Text.stands_in_self _
      · exact (Text.stands_in_self _).append_left _

end Emitting

theorem TransformOutcome.IsWritten.covers_text {outcome : TransformOutcome} {context : RunContext}
    {component : Component} {text : String} {document : Document} {site : Site} {d : Draft}
    (h : outcome.IsWritten context component text document site d)
    (hgrammar : CoversTexts context.grammar) : document.root.CoversText := by
  have herrors := h.error_free
  obtain ⟨language, -, rfl⟩ := h.parsed
  refine hgrammar language text fun n hn => Bool.eq_false_iff.mpr fun hbroken => ?_
  rw [Document.hasErrors, Bool.not_eq_false', List.isEmpty_iff] at herrors
  exact List.ne_nil_of_mem (List.mem_filter.mpr ⟨hn, hbroken⟩) herrors

/-- A function that returns a literal. -/
def noteText (literal : String) : String := "function Note() \x7b\n  return " ++ literal ++ ";\n\x7d"

/-- The literal of this function. -/
def noteLiteral (literal : String) : Node :=
  .mk { kind := "template_string", startLine := 2, startColumn := 9, text := literal } []

/-- Its statement. -/
def noteStatement (literal : String) : Node :=
  .mk
      { kind := "return_statement", startLine := 2, startColumn := 2
        text := "return " ++ literal ++ ";" }
    [noteLiteral literal]

/-- The tree of this function. -/
def noteFunction (literal : String) : Node :=
  .mk { kind := "function_declaration", text := noteText literal }
    [.mk { kind := "identifier", field := "name", text := "Note" } [],
      .mk { kind := "formal_parameters", field := "parameters", text := "()" } [],
      .mk
          { kind := "statement_block", field := "body"
            text := "\x7b\n  return " ++ literal ++ ";\n\x7d" }
        [noteStatement literal]]

/-- A context whose grammar knows the file of this function. -/
def noteContext (literal : String) : RunContext :=
  { grammar := fun _ text =>
      if text == noteText literal then
        .mk { kind := "program", text := noteText literal } [noteFunction literal]
      else default }

/-- The unit of this function. -/
def noteUnit : Component :=
  { id := "src/Note.tsx:Note", name := "Note", filePath := "src/Note.tsx",
    absolutePath := "/proj/src/Note.tsx" }

/-- The place of this function in its file. -/
def noteSite (literal : String) : Site := ⟨⟨0, none, noteFunction literal⟩, noteFunction literal⟩

/-- The function is found at its place. -/
theorem note_site_of_written {literal : String} {outcome : TransformOutcome} {document : Document}
    {site : Site} {d : Draft}
    (h : outcome.IsWritten (noteContext literal) noteUnit (noteText literal) document site d) :
    site = noteSite literal := by
  refine h.site_eq fun language => ?_
  have hroot : (noteContext literal).grammar language (noteText literal) =
      .mk { kind := "program", text := noteText literal } [noteFunction literal] :=
    if_pos (beq_self_eq_true _)
  rw [hroot]
  rfl

theorem note_statement_carried (literal : String) :
    UnitCarries noteUnit (Text.lines (noteText literal)) (noteSite literal)
      (.moved (noteStatement literal)
        (lineIndent (Text.lines (noteText literal)) (noteStatement literal))
        ("return " ++ literal ++ ";")) :=
  .ofFunction rfl (.statement rfl rfl rfl (List.mem_singleton_self _))

/-- Every literal in what the hook and the component take over from the source of a unit is emitted
there with its further lines moved like lines of code and, in a class, with its accesses to the
instance replaced.  If it has neither, it is emitted as it is. -/
theorem literals_carried_over {context : RunContext} {s t : RunState} {component : Component}
    {text : String} {outcome : TransformOutcome} (hgrammar : CoversTexts context.grammar)
    (h : (Run.transformText component text).exec context s = (.ok outcome, t)) :
    ∃ document site d, outcome.IsWritten context component text document site d ∧
      ∀ c, UnitCarries component (Text.lines text) site c →
        Text.StandsIn c.emitted outcome.code ∧
        ∀ n ∈ c.node.walk, n.isTextLiteral = true →
          Text.StandsIn (c.literal n.text) c.emitted ∧
          (Text.hasLineBreak n.text = false →
            (component.kind = .classBased → readsInstance n.text = false) →
            c.literal n.text = n.text) := by
  obtain ⟨document, site, d, hwritten⟩ := Run.transform_text_written h
  obtain ⟨place, hdraft⟩ := hwritten.drafted
  refine ⟨document, site, d, hwritten, fun c hc => ⟨?_, fun n hn hliteral => ?_⟩⟩
  · rw [hwritten.code_eq]
    cases hc with
    | ofClass hkind hc =>
        obtain ⟨body, p, hclass⟩ := Draft.class_of_site hdraft hkind
        exact hclass.emits hc _
    | ofFunction hkind hc => exact Draft.function_emits hkind hdraft hc _
  · have hcovers : document.root.CoversText := hwritten.covers_text hgrammar
    have hnode : c.node ∈ document.root.walk := hc.mem_walk (found_for hwritten.found)
    -- The tree tells that the literal is quoted and stands in the text that is moved.
    have hquoted : Text.IsQuoted n.text :=
      hcovers.quoted n (Node.mem_walk_trans hnode hn) hliteral
    have hstands : Text.StandsIn n.text c.node.text :=
      (hcovers.of_mem_walk hnode).stands_in_of_mem_walk hn
    cases hc with
    | ofClass hkind hc =>
        exact ⟨hc.keeps _ hquoted hstands,
          fun hline hreads => hc.literal_eq_self hquoted hline (hreads hkind)⟩
    | ofFunction hkind hc =>
        exact ⟨hc.keeps _ hquoted hstands, fun hline _ => hc.literal_eq_self hquoted hline⟩

theorem literals_carried_over_of_line :
    CoversTexts (noteContext "`plain`").grammar ∧
    ∃ outcome t, (Run.transformText noteUnit (noteText "`plain`")).exec (noteContext "`plain`") {} =
        (.ok outcome, t) ∧
      Text.StandsIn "`plain`" outcome.code := by
  have hgrammar : CoversTexts (noteContext "`plain`").grammar := by
    intro language text _
    unfold noteContext
    dsimp only
    split
    · decide +kernel
    · decide
  obtain ⟨outcome, t, hexec⟩ : ∃ outcome t,
      (Run.transformText noteUnit (noteText "`plain`")).exec (noteContext "`plain`") {} =
        (.ok outcome, t) :=
    ⟨_, _, rfl⟩
  obtain ⟨document, site, d, hwritten, hcarried⟩ := literals_carried_over hgrammar hexec
  obtain rfl := note_site_of_written hwritten
  obtain ⟨hstands, hliterals⟩ := hcarried _ (note_statement_carried "`plain`")
  obtain ⟨hliteral, hsame⟩ := hliterals (noteLiteral "`plain`")
    (Node.mem_walk_of_mem_children (List.mem_singleton_self _)) (by decide)
  have hline := hsame (by decide) nofun
  rw [hline] at hliteral
  exact ⟨hgrammar, outcome, t, hexec, hliteral.trans hstands⟩

/-- The literal has a further line, which is moved, so what is emitted for its statement does not have
it. -/
theorem moved_template_changes :
    ∃ outcome t, (Run.transformText noteUnit (noteText "`a\nb`")).exec (noteContext "`a\nb`") {} =
        (.ok outcome, t) ∧
      ∃ c, UnitCarries noteUnit (Text.lines (noteText "`a\nb`")) (noteSite "`a\nb`") c ∧
        c.node = noteStatement "`a\nb`" ∧ noteLiteral "`a\nb`" ∈ c.node.walk ∧
        (noteLiteral "`a\nb`").isTextLiteral = true ∧
        c.emitted = "  return `a\n  b`;" ∧ Text.StandsIn c.emitted outcome.code ∧
        ¬Text.StandsIn (noteLiteral "`a\nb`").text c.emitted := by
  obtain ⟨outcome, t, hexec⟩ : ∃ outcome t,
      (Run.transformText noteUnit (noteText "`a\nb`")).exec (noteContext "`a\nb`") {} =
        (.ok outcome, t) :=
    ⟨_, _, rfl⟩
  obtain ⟨document, site, d, hwritten⟩ := Run.transform_text_written hexec
  obtain ⟨place, hdraft⟩ := hwritten.drafted
  obtain rfl := note_site_of_written hwritten
  have hcarried := note_statement_carried "`a\nb`"
  have hemitted : reindent ("return " ++ "`a\nb`" ++ ";")
      (lineIndent (Text.lines (noteText "`a\nb`")) (noteStatement "`a\nb`")) indentUnit =
      "  return `a\n  b`;" := by
    decide
  refine ⟨outcome, t, hexec, _, hcarried, rfl,
    Node.mem_walk_of_mem_children (List.mem_singleton_self _), by decide, hemitted, ?_, ?_⟩
  · rw [hwritten.code_eq]
    exact Draft.function_emits rfl hdraft (.statement rfl rfl rfl (List.mem_singleton_self _)) _
  · dsimp only [Carried.moved]
    rw [hemitted]
    exact mt Text.stands_in_of_list.mp (by decide)

end ComponentMigration
