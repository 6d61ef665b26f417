import ComponentMigration.Proofs.Module.Documentation
import ComponentMigration.Proofs.Source.Comments

/-!
# The calls around a component

A function may be declared as the first argument of a call, which may be the first argument of
another, and so on.  The calls are read from the outside in (`is_nest_iff`) and written as one text
before the new function and one behind it, which together are the calls again with the new function
in place of the old one (`opening_append_closing`).  So every call around a function is also around
the component that is written for it, with its callee and its other arguments
(`declaration_keeps_nest`).
-/

namespace ComponentMigration

/-!
## The calls that are read

What a call wraps is its first argument, as comments among the arguments are left out.  Nothing that
`functionOf` finds is a call or a comment, so the calls around it are the calls that are read.
-/

section Nests

variable {call value fn : Node} {calls : List WrapperCall}

/-- What a call calls, with its type arguments. -/
def calleeText (call : Node) : String :=
  ((call.child? "function").map Node.text).getD "" ++
    ((call.child? "type_arguments").map Node.text).getD ""

/-- The calls around a node, from the outside in, each with its arguments after the first. -/
inductive IsNest (fn : Node) : Node → List WrapperCall → Prop where
  | inner : IsNest fn fn []
  | call {call first : Node} {rest : List Node} {calls : List WrapperCall} :
      call.kind = "call_expression" → callArguments call = first :: rest → IsNest fn first calls →
      IsNest fn call (⟨calleeText call, rest.map Node.text⟩ :: calls)

theorem wrapper_calls_of_call {first : Node} {rest : List Node}
    (hkind : call.kind = "call_expression") (hargs : callArguments call = first :: rest) :
    wrapperCallsOf call = ⟨calleeText call, rest.map Node.text⟩ :: wrapperCallsOf first := by
  rw [wrapperCallsOf, if_pos (beq_iff_eq.mpr hkind)]
  dsimp only
  split
  · next a as has =>
      obtain ⟨rfl, rfl⟩ := List.cons.inj (has.symm.trans hargs)
      rfl
  · next hnone => exact absurd (hargs.symm.trans hnone) (List.cons_ne_nil first rest)

theorem wrapper_calls_of_not_call (h : value.kind ≠ "call_expression") :
    wrapperCallsOf value = [] := by
  rw [wrapperCallsOf, if_neg fun hkind => h (beq_iff_eq.mp hkind)]

theorem call_arguments_of_first_argument {first : Node} (hfirst : call.firstArgument? = some first)
    (hkind : first.kind ≠ "comment") : ∃ rest, callArguments call = first :: rest := by
  obtain ⟨args, hargs, hhead⟩ := Option.bind_eq_some_iff.mp hfirst
  obtain ⟨rest, hrest⟩ := List.head?_eq_some_iff.mp hhead
  refine ⟨rest.filter (·.kind != "comment"), ?_⟩
  rw [callArguments, hargs]
  dsimp only
  rw [hrest, List.filter_cons_of_pos (by simpa using hkind)]

theorem kind_ne_of_is_function {kind : String} (h : fn.isFunction = true)
    (hkind : kind ∉ functionKinds) : fn.kind ≠ kind := by
  rintro rfl
  exact hkind (List.contains_iff_mem.mp h)

/-- The calls through which a function is found are the calls that are read. -/
theorem is_nest_of_unwrap_calls (h : value.unwrapCalls = some fn) (hfn : fn.isFunction = true) :
    IsNest fn value (wrapperCallsOf value) := by
  fun_induction Node.unwrapCalls value with
  | case1 call hcall first hfirst ih =>
      have hcomment : first.kind ≠ "comment" := by
        intro hkind
        -- A comment is not a call, so it would be what the calls finally wrap.
        rw [Node.unwrapCalls, if_neg (by simp [hkind])] at h
        obtain rfl := Option.some.inj h
        exact kind_ne_of_is_function hfn (by decide) hkind
      obtain ⟨rest, hargs⟩ := call_arguments_of_first_argument hfirst hcomment
      have hkind := beq_iff_eq.mp hcall
      rw [wrapper_calls_of_call hkind hargs]
      exact .call hkind hargs (ih h)
  | case2 => exact absurd h.symm (Option.some_ne_none fn)
  | case3 value hcall =>
      obtain rfl := Option.some.inj h
      rw [wrapper_calls_of_not_call fun hkind => hcall (beq_iff_eq.mpr hkind)]
      exact .inner

/-- Whatever calls are around a function, they are the calls that are read. -/
theorem IsNest.wrapper_calls (h : IsNest fn value calls) (hfn : fn.isFunction = true) :
    calls = wrapperCallsOf value := by
  induction h with
  | inner => exact (wrapper_calls_of_not_call (kind_ne_of_is_function hfn (by decide))).symm
  | call hkind hargs _ ih => rw [wrapper_calls_of_call hkind hargs, ih]

theorem is_nest_iff (h : value.unwrapCalls = some fn) (hfn : fn.isFunction = true) :
    IsNest fn value calls ↔ calls = wrapperCallsOf value :=
  ⟨fun hnest => hnest.wrapper_calls hfn, fun hcalls => hcalls ▸ is_nest_of_unwrap_calls h hfn⟩

/-- A declarator declares the function that the calls of its value wrap. -/
theorem function_of_declarator {n : Node} (hkind : n.kind = "variable_declarator") :
    n.functionOf = ((n.child? "value").bind Node.unwrapCalls).filter Node.isFunction := by
  have hnot : ¬n.isFunction = true := fun h => kind_ne_of_is_function h (by decide) hkind
  rw [Node.functionOf, if_neg hnot, if_pos (beq_iff_eq.mpr hkind)]

end Nests

/-!
## The calls that are written

The text before the function ends with the innermost call and the text behind it begins with that,
so one more call is around both.
-/

section Texts

variable {c : WrapperCall} {calls : List WrapperCall} {inner : String}

/-- A call of something on a text and on further arguments. -/
def WrapperCall.around (c : WrapperCall) (inner : String) : String :=
  c.callee ++ "(" ++ String.intercalate ", " (inner :: c.extra) ++ ")"

/-- The text of calls around a text. -/
def nestText (calls : List WrapperCall) (inner : String) : String :=
  calls.foldr WrapperCall.around inner

theorem intercalate_extra (inner : String) (extra : List String) :
    inner ++ (if extra.isEmpty then "" else ", " ++ String.intercalate ", " extra) =
      String.intercalate ", " (inner :: extra) := by
  cases extra with
  | nil => rw [List.isEmpty_nil, if_pos rfl, String.append_empty, String.intercalate_singleton]
  | cons e extra =>
      rw [List.isEmpty_cons, if_neg Bool.false_ne_true, String.intercalate_cons_cons,
        String.append_assoc]

/-- The texts around a function are the calls around it. -/
theorem opening_append_closing (calls : List WrapperCall) (inner : String) :
    wrapperOpening calls ++ inner ++ wrapperClosing calls = nestText calls inner := by
  induction calls with
  | nil => exact (String.append_empty).trans String.empty_append
  | cons c calls ih =>
      have hopening : wrapperOpening (c :: calls) = c.callee ++ "(" ++ wrapperOpening calls :=
        String.join_cons
      have hclosing : wrapperClosing (c :: calls) = wrapperClosing calls ++
          ((if c.extra.isEmpty then "" else ", " ++ String.intercalate ", " c.extra) ++ ")") := by
        rw [wrapperClosing, List.reverse_cons, List.map_append, String.join_append,
          List.map_singleton, String.join_cons, String.join_nil, String.append_empty]
        rfl
      rw [hopening, hclosing, nestText, List.foldr_cons, ← nestText, ← ih, WrapperCall.around,
        ← intercalate_extra]
      simp only [String.append_assoc]

/-- A text in which every bracket that is not part of some given texts is closed. -/
inductive Balanced (parts : List String) : List Char → Prop where
  | nil : Balanced parts []
  | char {c : Char} {cs : List Char} :
      c ≠ '(' → c ≠ ')' → Balanced parts cs → Balanced parts (c :: cs)
  | part {part : String} {cs : List Char} :
      part ∈ parts → Balanced parts cs → Balanced parts (part.toList ++ cs)
  | nested {cs ds : List Char} :
      Balanced parts cs → Balanced parts ds → Balanced parts ('(' :: cs ++ ')' :: ds)

namespace Balanced

variable {parts parts' : List String} {cs ds : List Char}

theorem append (h : Balanced parts cs) (h' : Balanced parts ds) : Balanced parts (cs ++ ds) := by
  induction h with
  | nil => exact h'
  | char hopen hclose _ ih => exact .char hopen hclose ih
  | part hmem _ ih => rw [List.append_assoc]; exact .part hmem ih
  | nested hinner _ _ ih => rw [List.append_assoc]; exact .nested hinner ih

theorem of_mem {part : String} (h : part ∈ parts) : Balanced parts part.toList := by
  rw [← List.append_nil part.toList]
  exact .part h .nil

theorem intercalate {texts : List String} (h : ∀ t ∈ texts, Balanced parts t.toList) :
    Balanced parts (String.intercalate ", " texts).toList := by
  induction texts with
  | nil => exact .nil
  | cons t texts ih =>
      obtain ⟨ht, htexts⟩ := List.forall_mem_cons.mp h
      cases texts with
      | nil => rwa [String.intercalate_singleton]
      | cons next texts =>
          have hcomma : Balanced parts ", ".toList :=
            .char (by decide) (by decide) (.char (by decide) (by decide) .nil)
          rw [String.intercalate_cons_cons, String.toList_append, String.toList_append]
          exact (ht.append hcomma).append (ih htexts)

theorem around (hcallee : Balanced parts c.callee.toList)
    (hextra : ∀ e ∈ c.extra, Balanced parts e.toList) (hinner : Balanced parts inner.toList) :
    Balanced parts (c.around inner).toList := by
  have hargs := Balanced.intercalate (List.forall_mem_cons.mpr ⟨hinner, hextra⟩)
  have htext : (c.around inner).toList = c.callee.toList ++
      ('(' :: (String.intercalate ", " (inner :: c.extra)).toList ++ [')']) := by
    rw [WrapperCall.around]
    simp [String.toList_append]
  rw [htext]
  exact hcallee.append (.nested hargs .nil)

end Balanced

/-- The texts that calls around a text have from elsewhere. -/
def nestParts (calls : List WrapperCall) (inner : String) : List String :=
  inner :: calls.flatMap fun c => c.callee :: c.extra

/-- Calls are written with balanced brackets around what is balanced. -/
theorem balanced_nest_text {parts : List String}
    (h : ∀ part ∈ nestParts calls inner, Balanced parts part.toList) :
    Balanced parts (nestText calls inner).toList := by
  induction calls with
  | nil => exact h inner List.mem_cons_self
  | cons c calls ih =>
      obtain ⟨hinner, hcalls⟩ := List.forall_mem_cons.mp h
      rw [List.flatMap_cons, List.forall_mem_append, List.forall_mem_cons] at hcalls
      obtain ⟨⟨hcallee, hextra⟩, hcalls⟩ := hcalls
      exact .around hcallee hextra (ih (List.forall_mem_cons.mpr ⟨hinner, hcalls⟩))

end Texts

/-- The lines of a function with its first and its last line. -/
theorem intercalate_enclosed (opening head last closing : String) (body : List String) :
    String.intercalate "\n" ([opening ++ head] ++ body ++ [last ++ closing]) =
      opening ++ String.intercalate "\n" ([head] ++ body ++ [last]) ++ closing := by
  have hconcat (first last : String) :
      String.intercalate "\n" ([first] ++ body ++ [last]) =
        String.intercalate "\n" (first :: body) ++ "\n" ++ last := by
    rw [String.intercalate_append_of_ne_nil (by simp) (List.cons_ne_nil _ _),
      String.intercalate_singleton, List.singleton_append]
  rw [hconcat, hconcat, String.intercalate_cons_append]
  simp only [String.append_assoc]

/-- The function that is written for a component. -/
def componentFunction (d : Draft) (p : Pieces) : String :=
  String.intercalate "\n"
    (["function " ++ d.name ++ "(" ++ p.signature ++ ") \x7b"] ++ componentBody d p ++ ["\x7d"])

/-- The export of a function under a name, with calls around it. -/
def exportText (name : String) (calls : List WrapperCall) (inner : String) : String :=
  if calls.isEmpty then "export " ++ inner
  else "export const " ++ name ++ " = " ++ nestText calls inner ++ ";"

/-- The component of a unit is its documentation and the export of the new function. -/
theorem Draft.declaration_nested (d : Draft) (n : Node) (p : Pieces) :
    (d.emit n p).declaration = docHead d.component.metadata.documentation ++
      exportText d.name (wrapperCalls n) (componentFunction d p) := by
  have htext {opening closing : String}
      (hopening : (if (wrapperCalls n).isEmpty then "export "
        else "export const " ++ d.name ++ " = " ++ wrapperOpening (wrapperCalls n)) = opening)
      (hclosing : componentClosing n = "\x7d" ++ closing) :
      componentText d.undocumented n p = opening ++ componentFunction d p ++ closing := by
    rw [componentFunction, ← intercalate_enclosed, ← hopening, ← hclosing]
    rfl
  rw [declaration_documented, declaration_emit, exportText]
  congr 1
  by_cases hcalls : (wrapperCalls n).isEmpty
  · have hclosing : componentClosing n = "\x7d" ++ "" := if_pos hcalls
    rw [if_pos hcalls, htext (if_pos hcalls) hclosing, String.append_empty]
  · have hclosing : componentClosing n = "\x7d" ++ (wrapperClosing (wrapperCalls n) ++ ";") :=
      (if_neg hcalls).trans String.append_assoc
    rw [if_neg hcalls, htext (if_neg hcalls) hclosing, ← opening_append_closing]
    simp only [String.append_assoc]

/-- The calls around the function that a declarator declares are those that are read from it, at any
depth.  The component that is written for it has these calls around the new function, each with its
callee and its other arguments.  Every bracket that they write is closed, so if the brackets of
these texts and of the function are balanced, all are. -/
theorem declaration_keeps_nest {n fn : Node} (hkind : n.kind = "variable_declarator")
    (hfn : n.functionOf = some fn) (d : Draft) (p : Pieces) :
    ∃ value, n.child? "value" = some value ∧
      (∀ calls, IsNest fn value calls ↔ calls = wrapperCalls n) ∧
      (d.emit n p).declaration = docHead d.component.metadata.documentation ++
        exportText d.name (wrapperCalls n) (componentFunction d p) ∧
      Balanced (nestParts (wrapperCalls n) (componentFunction d p))
        (nestText (wrapperCalls n) (componentFunction d p)).toList ∧
      ((∀ part ∈ nestParts (wrapperCalls n) (componentFunction d p), Balanced [] part.toList) →
        Balanced [] (nestText (wrapperCalls n) (componentFunction d p)).toList) := by
  rw [function_of_declarator hkind] at hfn
  obtain ⟨hwrapped, hfunction⟩ := Option.filter_eq_some_iff.mp hfn
  obtain ⟨value, hvalue, hunwrap⟩ := Option.bind_eq_some_iff.mp hwrapped
  have hcalls : wrapperCalls n = wrapperCallsOf value := by
    rw [wrapperCalls, if_pos (beq_iff_eq.mpr hkind), hvalue, Option.map_some, Option.getD_some]
  refine ⟨value, hvalue, fun calls => ?_, d.declaration_nested n p, ?_, balanced_nest_text⟩
  · rw [hcalls]
    exact is_nest_iff hunwrap hfunction
  · exact balanced_nest_text fun _ hpart => .of_mem hpart

/-- The call `forwardRef<HTMLInputElement>(() => null)`. -/
def fieldForward : Node :=
  .mk { kind := "call_expression" }
    [.mk { kind := "identifier", field := "function", text := "forwardRef" } [],
      .mk { kind := "type_arguments", field := "type_arguments", text := "<HTMLInputElement>" } [],
      .mk { kind := "arguments", field := "arguments" } [plainArrow]]

/-- The call `memo(forwardRef<HTMLInputElement>(() => null), /* plain */ areEqual)`. -/
def fieldMemo : Node :=
  memoCall [fieldForward, plainComment, .mk { kind := "identifier", text := "areEqual" } []]

/-- The declarator of `Field` with this value. -/
def fieldDeclarator : Node :=
  .mk { kind := "variable_declarator" }
    [.mk { kind := "identifier", field := "name", text := "Field" } [], fieldMemo]

/-- A draft of the component that it declares. -/
def fieldDraft : Draft :=
  { component :=
      { id := "src/Field.tsx:Field", name := "Field", filePath := "src/Field.tsx",
        absolutePath := "/proj/src/Field.tsx" }
    lines := [] }

theorem function_of_field : fieldDeclarator.functionOf = some plainArrow := by
  have harrow : plainArrow.unwrapCalls = some plainArrow := unwrap_calls_of_not_call (by decide)
  have hforward : fieldForward.unwrapCalls = some plainArrow :=
    (unwrap_calls_of_call rfl).trans harrow
  have hmemo : fieldMemo.unwrapCalls = some plainArrow :=
    (unwrap_calls_of_call rfl).trans hforward
  have hvalue : fieldDeclarator.child? "value" = some fieldMemo := rfl
  rw [function_of_declarator rfl, hvalue, Option.bind_some, hmemo]
  rfl

/-- Both calls around this function are around the new one; the comment is not among the arguments.
-/
theorem field_keeps_nest :
    fieldDeclarator.kind = "variable_declarator" ∧
      fieldDeclarator.functionOf = some plainArrow ∧
      IsNest plainArrow fieldMemo
        [⟨"memo", ["areEqual"]⟩, ⟨"forwardRef<HTMLInputElement>", []⟩] ∧
      (fieldDraft.emit fieldDeclarator { render := ["  return null;"] }).declaration =
        "export const Field = memo(forwardRef<HTMLInputElement>(function Field() \x7b\n" ++
          "  return null;\n\x7d), areEqual);" := by
  obtain ⟨value, hvalue, hnest, hdeclaration, -⟩ :=
    declaration_keeps_nest rfl function_of_field fieldDraft { render := ["  return null;"] }
  have hcalls : wrapperCalls fieldDeclarator =
      [⟨"memo", ["areEqual"]⟩, ⟨"forwardRef<HTMLInputElement>", []⟩] := by decide +kernel
  have hwritten : docHead fieldDraft.component.metadata.documentation ++
      exportText fieldDraft.name (wrapperCalls fieldDeclarator)
        (componentFunction fieldDraft { render := ["  return null;"] }) =
      "export const Field = memo(forwardRef<HTMLInputElement>(function Field() \x7b\n" ++
        "  return null;\n\x7d), areEqual);" := by
    rw [hcalls]
    decide
  obtain rfl : fieldMemo = value := Option.some.inj hvalue
  exact ⟨rfl, function_of_field, (hnest _).mpr hcalls.symm, hdeclaration.trans hwritten⟩

end ComponentMigration
