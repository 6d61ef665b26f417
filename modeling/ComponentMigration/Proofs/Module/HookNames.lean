import Mathlib.Data.List.Perm.Basic
import ComponentMigration.Proofs.Module.Keeping
import ComponentMigration.Proofs.Module.Members

/-!
# The names that the hook of a class declares

Fields of the state, methods and other fields keep their names in the hook of a class.  The
conversion adds names of its own: the setters, and perhaps the state as a whole and a function that
sets several fields (`inventedNames`).  Nothing compares the two groups, so distinct members have
distinct names in the hook exactly when no added name is taken (`class_hook_names_distinct`).
-/

namespace ComponentMigration

/-- The names that members hand on to the hook: fields of the state, methods and other fields. -/
def takenNames (y : Yield) : List String := y.state.map StateField.key ++ y.pieces.map Prod.fst

/-- The names that the conversion adds to them. -/
def inventedNames (members : List Node) (state : List StateField) : List String :=
  if state.isEmpty then []
  else
    state.map StateField.setter ++ (if readsWholeState members then ["state"] else []) ++
      (if callsSetState members then ["setState"] else [])

/-- The text of a part of the hook opens with the declaration of the names that the part has. -/
inductive HookPart.Declares : HookPart → Prop
  | state (anchor : Nat) (key setter value : String) :
      Declares ⟨localText anchor ("const [" ++ key ++ ", " ++ setter ++ "] = useState(" ++ value),
        [key, setter]⟩
  | constant (anchor : Nat) (name value : String) :
      Declares ⟨localText anchor ("const " ++ name ++ " = " ++ value), [name]⟩
  | field (anchor : Nat) (name value : String) :
      Declares ⟨localText anchor ("let " ++ name ++ " = " ++ value), [name]⟩
  | whole (value : String) : Declares ⟨indentUnit ++ "const state = " ++ value, ["state"]⟩
  | several (value : String) : Declares ⟨indentUnit ++ "const setState = " ++ value, ["setState"]⟩
  | effect (anchor : Nat) (call : String) :
      Declares ⟨localText anchor ("useEffect(() => " ++ call), []⟩

section Declaring

variable {members : List Node} {state : List StateField} {part : HookPart} {lines : List String}
  {unit : String} {n m stmt object : Node} {role : MemberRole} {p : String × String} {text : String}

theorem state_text_declares (f : StateField) :
    HookPart.Declares ⟨stateText f, [f.key, f.setter]⟩ := by
  have h := HookPart.Declares.state f.anchor f.key f.setter (f.value ++ ");")
  rwa [← String.append_assoc] at h

theorem set_state_helper_declares (state : List StateField) :
    HookPart.Declares ⟨setStateHelper state, ["setState"]⟩ := by
  have hline (shape : String) :
      indentUnit ++ "const setState = (patch: Partial<\x7b " ++ shape ++ " \x7d>) => \x7b" =
        indentUnit ++ "const setState = " ++
          ("(patch: Partial<\x7b " ++ shape ++ " \x7d>) => \x7b") := by
    rw [show "const setState = (patch: Partial<\x7b " =
      "const setState = " ++ "(patch: Partial<\x7b " from rfl]
    simp only [String.append_assoc]
  rw [setStateHelper, hline, List.append_assoc, List.singleton_append,
    String.intercalate_cons_append]
  exact .several _

theorem state_part_declares (h : part ∈ stateParts members state) : part.Declares := by
  unfold stateParts at h
  split at h
  · cases h
  rcases List.mem_append.mp h with h | h
  · rcases List.mem_append.mp h with h | h
    · obtain ⟨f, -, rfl⟩ := List.mem_map.mp h
      exact state_text_declares f
    · split at h
      · obtain rfl := List.mem_singleton.mp h
        rw [String.append_assoc]
        exact .whole _
      · cases h
  · split at h
    · obtain rfl := List.mem_singleton.mp h
      exact set_state_helper_declares state
    · cases h

/-- Neither local names nor effects come of a part that sets up the state. -/
structure Yield.IsSetup (y : Yield) : Prop where
  pieces : y.pieces = []
  effects : y.effects = []

theorem Yield.is_setup_sum {yields : List Yield} (h : ∀ y ∈ yields, y.IsSetup) :
    (Yield.sum yields).IsSetup :=
  ⟨List.flatMap_eq_nil_iff.mpr fun y hy => (h y hy).pieces,
    List.flatMap_eq_nil_iff.mpr fun y hy => (h y hy).effects⟩

theorem object_yield_is_setup (object : Node) : (objectYield lines unit object).IsSetup := by
  refine Yield.is_setup_sum (List.forall_mem_map.mpr fun entry _ => ?_)
  unfold entryYield
  split
  · exact ⟨rfl, rfl⟩
  · split <;> exact ⟨rfl, rfl⟩

theorem statement_yield_is_setup (stmt : Node) : (statementYield lines unit stmt).IsSetup := by
  unfold statementYield
  split
  · exact ⟨rfl, rfl⟩
  · split
    · exact object_yield_is_setup _
    · split <;> exact ⟨rfl, rfl⟩

theorem initializer_yield_is_setup : (roleYield lines unit m .initializer).IsSetup :=
  Yield.is_setup_sum (List.forall_mem_map.mpr fun stmt _ => statement_yield_is_setup stmt)

theorem pieces_lifecycle_yield : (lifecycleYield lines unit m).pieces = [] := by
  unfold lifecycleYield
  split <;> rfl

theorem method_text_eq (name : String) (m body : Node) :
    ∃ rest, ClassReading.methodText name m body = "const " ++ name ++ " = " ++ rest := by
  unfold ClassReading.methodText
  generalize (if m.hasToken "async" then "async " else "") = modifier
  generalize ((m.child? "parameters").map Node.text).getD "()" = parameters
  generalize ((m.child? "return_type").map Node.text).getD "" = type
  refine ⟨modifier ++ (parameters ++ (type ++ (" => " ++ (body.text ++ ";")))), ?_⟩
  simp only [String.append_assoc]

/-- A piece of the hook declares the name of its member. -/
theorem piece_declares (h : p ∈ (roleYield lines unit m role).pieces) :
    HookPart.Declares ⟨p.2, [p.1]⟩ := by
  cases role with
  | method body =>
      cases body with
      | none => cases h
      | some body =>
          rw [roleYield, List.mem_singleton] at h
          obtain ⟨rest, htext⟩ := method_text_eq (memberName m) m body
          rw [h, htext]
          dsimp only
          exact .constant _ _ _
  | functionValue value =>
      rw [roleYield, List.mem_singleton] at h
      rw [h, functionText, String.append_assoc]
      dsimp only
      exact .constant _ _ _
  | otherValue value =>
      rw [roleYield, List.mem_singleton] at h
      rw [h, variableText, String.append_assoc]
      dsimp only
      exact .field _ _ _
  | initializer =>
      rw [initializer_yield_is_setup.pieces] at h
      cases h
  | state object =>
      rw [roleYield, (object_yield_is_setup object).pieces] at h
      cases h
  | lifecycle =>
      rw [roleYield, pieces_lifecycle_yield] at h
      cases h
  | render | manual | dropped | other => cases h

theorem effect_source_declares {name : String} {body : Node} (anchor : Nat)
    (h : effectSource? name body = some text) : HookPart.Declares ⟨localText anchor text, []⟩ := by
  unfold effectSource? at h
  split at h
  · obtain rfl := Option.some.inj h
    rw [String.append_assoc]
    exact .effect _ _
  · split at h
    · obtain rfl := Option.some.inj h
      rw [show "useEffect(() => () => " = "useEffect(() => " ++ "() => " from rfl,
        String.append_assoc, String.append_assoc]
      exact .effect _ _
    · split at h
      · obtain rfl := Option.some.inj h
        rw [String.append_assoc]
        exact .effect _ _
      · cases h

theorem effect_declares (h : text ∈ (roleYield lines unit m role).effects) :
    HookPart.Declares ⟨text, []⟩ := by
  cases role with
  | lifecycle =>
      rw [roleYield, lifecycleYield] at h
      split at h
      · cases h
      · obtain ⟨source, hsource, rfl⟩ := Option.map_eq_some_iff.mp (Option.mem_toList.mp h)
        exact effect_source_declares _ hsource
  | initializer =>
      rw [initializer_yield_is_setup.effects] at h
      cases h
  | state object =>
      rw [roleYield, (object_yield_is_setup object).effects] at h
      cases h
  | method body => cases body <;> cases h
  | render | manual | dropped | functionValue | otherValue | other => cases h

/-- Every part of the hook of a class declares its names. -/
theorem class_part_declares (h : part ∈ classParts lines unit n) : part.Declares := by
  rcases List.mem_append.mp h with h | h
  · rcases List.mem_append.mp h with h | h
    · exact state_part_declares h
    · obtain ⟨p, hp, rfl⟩ := List.mem_map.mp h
      obtain ⟨y, hy, hp⟩ := List.mem_flatMap.mp hp
      obtain ⟨m, -, rfl⟩ := List.mem_map.mp hy
      exact piece_declares hp
  · obtain ⟨text, htext, rfl⟩ := List.mem_map.mp h
    obtain ⟨y, hy, htext⟩ := List.mem_flatMap.mp htext
    obtain ⟨m, -, rfl⟩ := List.mem_map.mp hy
    exact effect_declares htext

end Declaring

section Distinct

variable {members : List Node} {state : List StateField} {y : Yield}

theorem state_names_perm (members : List Node) (state : List StateField) :
    ((stateParts members state).flatMap HookPart.names).Perm
      (state.map StateField.key ++ inventedNames members state) := by
  unfold stateParts inventedNames
  by_cases hempty : state.isEmpty
  · rw [if_pos hempty, if_pos hempty, List.isEmpty_iff.mp hempty]
    exact .refl _
  rw [if_neg hempty, if_neg hempty]
  -- Only the state fields are out of order: each key stands next to its setter.
  have hpairs : ((state.map fun f => (⟨stateText f, [f.key, f.setter]⟩ : HookPart)).flatMap
      HookPart.names).Perm (state.map StateField.key ++ state.map StateField.setter) := by
    rw [List.flatMap_map, List.map_eq_flatMap (f := StateField.setter)]
    exact (List.map_append_flatMap_perm _ _ _).symm
  have hwhole : (if readsWholeState members then
      [(⟨indentUnit ++ "const state = " ++ braced (state.map StateField.key) ++ ";", ["state"]⟩ :
        HookPart)] else []).flatMap HookPart.names =
      if readsWholeState members then ["state"] else [] := by
    split <;> rfl
  have hseveral : (if callsSetState members then
      [(⟨setStateHelper state, ["setState"]⟩ : HookPart)] else []).flatMap HookPart.names =
      if callsSetState members then ["setState"] else [] := by
    split <;> rfl
  rw [List.flatMap_append, List.flatMap_append, hwhole, hseveral]
  simp only [← List.append_assoc]
  exact (hpairs.append_right _).append_right _

/-- The hook has the names that it takes over from members and those that are added. -/
theorem hook_names_perm (members : List Node) (y : Yield) :
    ((hookParts members y).flatMap HookPart.names).Perm
      (takenNames y ++ inventedNames members y.state) := by
  rw [hook_parts_names, takenNames, List.append_assoc]
  refine ((state_names_perm members y.state).append_right _).trans ?_
  rw [List.append_assoc]
  exact List.perm_append_comm.append_left _

theorem setter_inj {f g : StateField} :
    f.setter = g.setter ↔ Text.capitalize f.key = Text.capitalize g.key :=
  String.append_right_inj _

theorem setter_ne_state (f : StateField) : f.setter ≠ "state" := by
  intro h
  have hchars := congrArg String.toList h
  rw [StateField.setter, String.toList_append] at hchars
  cases hchars

/-- The added names are distinct if the fields of the state are distinct without regard to the
case of their first letters, and the setter of several fields is none of a field. -/
theorem invented_names_nodup :
    (inventedNames members state).Nodup ↔
      (state.map fun f => Text.capitalize f.key).Nodup ∧
        (callsSetState members → ∀ f ∈ state, Text.capitalize f.key ≠ "State") := by
  unfold inventedNames
  by_cases hempty : state.isEmpty
  · rw [if_pos hempty, List.isEmpty_iff.mp hempty]
    simp
  have hsetters : (state.map StateField.setter).Nodup ↔
      (state.map fun f => Text.capitalize f.key).Nodup := by
    simp only [List.Nodup, List.pairwise_map, ne_eq, setter_inj]
  rw [if_neg hempty, List.append_assoc, List.nodup_append, hsetters]
  constructor
  · rintro ⟨hkeys, -, hdisjoint⟩
    refine ⟨hkeys, fun hcalls f hf hkey => ?_⟩
    refine hdisjoint f.setter (List.mem_map_of_mem hf) "setState" ?_ ?_
    · rw [if_pos hcalls]
      exact List.mem_append_right _ (List.mem_singleton_self _)
    · rw [StateField.setter, hkey]
      rfl
  · rintro ⟨hkeys, hseveral⟩
    refine ⟨hkeys, by split <;> split <;> decide, fun a ha b hb => ?_⟩
    obtain ⟨f, hf, rfl⟩ := List.mem_map.mp ha
    rcases List.mem_append.mp hb with hb | hb
    · split at hb
      · obtain rfl := List.mem_singleton.mp hb
        exact setter_ne_state f
      · cases hb
    · split at hb
      · next hcalls =>
          obtain rfl := List.mem_singleton.mp hb
          exact fun heq => hseveral hcalls f hf ((String.append_right_inj "set").mp heq)
      · cases hb

/-- Distinct names of members stay distinct in the hook exactly when the added names are distinct and
none of them is taken. -/
theorem hook_names_nodup_iff (hdistinct : (takenNames y).Nodup) :
    ((hookParts members y).flatMap HookPart.names).Nodup ↔
      ((y.state.map fun f => Text.capitalize f.key).Nodup ∧
        (callsSetState members → ∀ f ∈ y.state, Text.capitalize f.key ≠ "State")) ∧
      ∀ n ∈ inventedNames members y.state, n ∉ takenNames y := by
  rw [(hook_names_perm members y).nodup_iff, List.nodup_append, ← invented_names_nodup]
  constructor
  · rintro ⟨-, hinvented, hdisjoint⟩
    exact ⟨hinvented, fun n hn hmem => hdisjoint n hmem n hn rfl⟩
  · rintro ⟨hinvented, hdisjoint⟩
    exact ⟨hdistinct, hinvented, fun n hn m hm heq => hdisjoint m hm (heq ▸ hn)⟩

end Distinct

/-- The class of a lamp, with one more member on its third line. -/
def lampText (member : String) : String :=
  "class Lamp extends Component \x7b\n  state = \x7b on: 0 \x7d;\n  " ++ member ++
    "\n  render() \x7b\x7d\n\x7d"

/-- The state of this class. -/
def lampState : Node :=
  .mk
      { kind := "public_field_definition", startLine := 2, endLine := 2
        text := "state = \x7b on: 0 \x7d" }
    [.mk
        { kind := "property_identifier", field := "name", startLine := 2, endLine := 2
          text := "state" } [],
      .mk
          { kind := "object", field := "value", startLine := 2, endLine := 2
            text := "\x7b on: 0 \x7d" }
        [.mk { kind := "pair", startLine := 2, endLine := 2, text := "on: 0" }
          [.mk
              { kind := "property_identifier", field := "key", startLine := 2, endLine := 2
                text := "on" } [],
            .mk
              { kind := "number", field := "value", startLine := 2, endLine := 2
                text := "0" } []]]]

/-- A method of this class. -/
def lampMethod (line : Nat) (name : String) : Node :=
  .mk
      { kind := "method_definition", startLine := line, endLine := line
        text := name ++ "() \x7b\x7d" }
    [.mk
        { kind := "property_identifier", field := "name", startLine := line, endLine := line
          text := name } [],
      .mk
        { kind := "formal_parameters", field := "parameters", startLine := line, endLine := line
          text := "()" } [],
      .mk
        { kind := "statement_block", field := "body", startLine := line, endLine := line
          text := "\x7b\x7d" } []]

/-- The tree of this class. -/
def lampClass (member : Node) : Node :=
  .mk { kind := "class_declaration", text := lampText member.text, endLine := 5 }
    [.mk { kind := "type_identifier", field := "name", text := "Lamp" } [],
      .mk { kind := "class_heritage", text := "extends Component" } [],
      .mk { kind := "class_body", field := "body", endLine := 5 }
        [lampState, member, lampMethod 4 "render"]]

/-- A context whose grammar knows the file of this class. -/
def lampContext (member : Node) : RunContext :=
  { grammar := fun _ text =>
      if text == lampText member.text then
        .mk { kind := "program", text := lampText member.text, endLine := 5 } [lampClass member]
      else default }

/-- The unit of this class. -/
def lampUnit : Component :=
  { id := "src/Lamp.tsx:Lamp", name := "Lamp", kind := .classBased, filePath := "src/Lamp.tsx",
    absolutePath := "/proj/src/Lamp.tsx" }

/-- The place of this class in its file. -/
def lampSite (member : Node) : Site := ⟨⟨0, none, lampClass member⟩, lampClass member⟩

/-- The class is found at its place. -/
theorem lamp_site_of_written {member : Node} {outcome : TransformOutcome} {document : Document}
    {site : Site} {d : Draft}
    (h : outcome.IsWritten (lampContext member) lampUnit (lampText member.text) document site d) :
    site = lampSite member := by
  refine h.site_eq fun language => ?_
  have hroot : (lampContext member).grammar language (lampText member.text) =
      .mk { kind := "program", text := lampText member.text, endLine := 5 } [lampClass member] :=
    if_pos (beq_self_eq_true _)
  rw [hroot]
  rfl

/-- The hook of a transformed class consists of parts that open with the declarations of their names,
and it returns these names.  If fields of the state, methods and other fields have pairwise distinct
names, the hook declares pairwise distinct names exactly when the fields of the state are distinct
without regard to the case of their first letters, none has the setter of several fields as its own
setter, and no name that the conversion adds is that of a member. -/
theorem class_hook_names_distinct {context : RunContext} {s t : RunState} {component : Component}
    {text : String} {outcome : TransformOutcome} (hkind : component.kind = .classBased)
    (h : (Run.transformText component text).exec context s = (.ok outcome, t)) :
    ∃ document site d body p members y,
      outcome.IsWritten context component text document site d ∧
      WritesClass component (Text.lines text) context.settings.transform.extractBusinessLogic
        site.node body d p ∧
      members = classMembers site.node ∧
      y = classYield (Text.lines text) component.name site.node ∧
      (∀ part ∈ hookParts members y, part.Declares) ∧
      ((takenNames y).Nodup →
        (((hookParts members y).flatMap HookPart.names).Nodup ↔
          ((y.state.map fun f => Text.capitalize f.key).Nodup ∧
            (callsSetState members → ∀ f ∈ y.state, Text.capitalize f.key ≠ "State")) ∧
          ∀ n ∈ inventedNames members y.state, n ∉ takenNames y)) := by
  obtain ⟨document, site, d, hwritten⟩ := Run.transform_text_written h
  obtain ⟨place, hdraft⟩ := hwritten.drafted
  obtain ⟨body, p, hclass⟩ := Draft.class_of_site hdraft hkind
  refine ⟨document, site, d, body, p, _, _, hwritten, hclass, rfl, rfl, fun part hpart => ?_, ?_⟩
  · exact class_part_declares hpart
  · exact hook_names_nodup_iff

theorem class_hook_names_distinct_toggle :
    ∃ outcome t, (Run.transformText lampUnit (lampText "toggle() \x7b\x7d")).exec
        (lampContext (lampMethod 3 "toggle")) {} = (.ok outcome, t) ∧
      ∃ d p, outcome.code = d.code false ∧ d.hook = hookText d p ∧
        p.names = ["on", "setOn", "toggle"] ∧ p.names.Nodup := by
  obtain ⟨outcome, t, hexec⟩ : ∃ outcome t,
      (Run.transformText lampUnit (lampText "toggle() \x7b\x7d")).exec
        (lampContext (lampMethod 3 "toggle")) {} = (.ok outcome, t) :=
    ⟨_, _, rfl⟩
  obtain ⟨document, site, d, body, p, _, _, hwritten, hclass, rfl, rfl, -, hdistinct⟩ :=
    class_hook_names_distinct rfl hexec
  obtain rfl := lamp_site_of_written hwritten
  have hnames : p.names = ["on", "setOn", "toggle"] := hclass.names.trans (by decide)
  refine ⟨outcome, t, hexec, d, p, hwritten.code_eq, hclass.hook, hnames, ?_⟩
  rw [hclass.names]
  exact (hdistinct (by decide)).mpr (by decide)

/-- The members of the class have distinct names, and its hook declares the setter and the method
under one name. -/
theorem class_hook_declares_setter_twice :
    takenNames (classYield (Text.lines (lampText "setOn() \x7b\x7d")) "Lamp"
      (lampClass (lampMethod 3 "setOn"))) = ["on", "setOn"] ∧
    ∃ outcome t, (Run.transformText lampUnit (lampText "setOn() \x7b\x7d")).exec
        (lampContext (lampMethod 3 "setOn")) {} = (.ok outcome, t) ∧
      ∃ d p, outcome.code = d.code false ∧ d.hook = hookText d p ∧
        p.lifted = ["  const [on, setOn] = useState(0);", "  const setOn = () => \x7b\x7d;"] ∧
        p.names = ["on", "setOn", "setOn"] := by
  obtain ⟨outcome, t, hexec⟩ : ∃ outcome t,
      (Run.transformText lampUnit (lampText "setOn() \x7b\x7d")).exec
        (lampContext (lampMethod 3 "setOn")) {} = (.ok outcome, t) :=
    ⟨_, _, rfl⟩
  obtain ⟨document, site, d, hwritten⟩ := Run.transform_text_written hexec
  obtain ⟨place, hdraft⟩ := hwritten.drafted
  obtain ⟨body, p, hclass⟩ := Draft.class_of_site hdraft rfl
  obtain rfl := lamp_site_of_written hwritten
  refine ⟨by decide, outcome, t, hexec, d, p, hwritten.code_eq, hclass.hook, ?_, ?_⟩
  · exact hclass.lifted.trans rfl
  · exact hclass.names.trans (by decide)

end ComponentMigration
