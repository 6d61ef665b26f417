import ComponentMigration.Proofs.Module.Drafting
import ComponentMigration.Proofs.Module.Marking
import ComponentMigration.Proofs.Run.Exec
import ComponentMigration.Module.Transform

/-!
# What a generated module keeps of its source

A transformed unit's module is written from the draft for the place at which the unit's name is found
(`TransformOutcome.IsWritten`).  It has every import of the source, and of the declarations outside
the unit's own statement every one of a name that the unit uses, directly or through other such
declarations (`module_keeps_used`).
-/

namespace ComponentMigration

section Texts

variable {α : Type} {sep x : List α} {xs : List (List α)}

theorem infix_intercalate (h : x ∈ xs) : x <:+: List.intercalate sep xs := by
  induction xs with
  | nil => cases h
  | cons y ys ih =>
      cases ys with
      | nil =>
          cases List.mem_singleton.mp h
          exact ⟨[], [], by simp⟩
      | cons z zs =>
          rw [List.intercalate_cons_cons]
          rcases List.mem_cons.mp h with rfl | h
          · exact ((List.prefix_append _ _).trans (List.prefix_append _ _)).isInfix
          · exact (ih h).trans (List.suffix_append _ _).isInfix

/-- A text stands in another. -/
def Text.StandsIn (part whole : String) : Prop := part.toList <:+: whole.toList

theorem Text.stands_in_intercalate {part : String} {parts : List String} (h : part ∈ parts)
    (sep : String) : Text.StandsIn part (String.intercalate sep parts) := by
  unfold Text.StandsIn
  rw [String.toList_intercalate]
  exact infix_intercalate (List.mem_map_of_mem h)

theorem Text.StandsIn.trans {s t u : String} (h : Text.StandsIn s t) (h' : Text.StandsIn t u) :
    Text.StandsIn s u :=
  List.IsInfix.trans h h'

theorem Text.stands_in_self (s : String) : Text.StandsIn s s := List.infix_refl _

theorem Text.StandsIn.append_right {part a : String} (h : Text.StandsIn part a) (b : String) :
    Text.StandsIn part (a ++ b) := by
  unfold Text.StandsIn
  rw [String.toList_append]
  exact List.IsInfix.trans h (List.prefix_append _ _).isInfix

theorem Text.StandsIn.append_left {part b : String} (h : Text.StandsIn part b) (a : String) :
    Text.StandsIn part (a ++ b) := by
  unfold Text.StandsIn
  rw [String.toList_append]
  exact List.IsInfix.trans h (List.suffix_append _ _).isInfix

namespace Draft

variable {d : Draft} {compat : Bool} {part : String}

theorem section_stands_in_code (h : part ∈ d.sections compat) :
    Text.StandsIn part (d.code compat) :=
  (Text.stands_in_intercalate h "\n\n").append_right "\n"

theorem import_stands_in_code (h : part ∈ d.imports) : Text.StandsIn part (d.code compat) := by
  have hline : part ∈ d.importLines := by
    unfold importLines
    exact List.mem_append_left _ (List.mem_append_right _ h)
  refine (Text.stands_in_intercalate hline "\n").trans (section_stands_in_code ?_)
  unfold sections
  simp

theorem type_stands_in_code (h : part ∈ d.types) : Text.StandsIn part (d.code compat) := by
  refine (Text.stands_in_intercalate h "\n\n").trans (section_stands_in_code ?_)
  have hne : d.types.isEmpty = false := List.isEmpty_eq_false_iff.mpr (List.ne_nil_of_mem h)
  unfold sections
  simp [hne]

theorem helper_stands_in_code (h : part ∈ d.helpers) : Text.StandsIn part (d.code compat) := by
  refine (Text.stands_in_intercalate h "\n\n").trans (section_stands_in_code ?_)
  have hne : d.helpers.isEmpty = false := List.isEmpty_eq_false_iff.mpr (List.ne_nil_of_mem h)
  unfold sections
  simp [hne]

theorem declaration_stands_in_code (d : Draft) (compat : Bool) :
    Text.StandsIn d.declaration (d.code compat) :=
  section_stands_in_code (by simp [sections])

/-- A converted unit is written as a function of its name. -/
theorem function_stands_in_declaration (d : Draft) (n : Node) (p : Pieces) :
    Text.StandsIn ("function " ++ d.name ++ "(") (d.emit n p).declaration := by
  have hline : ∀ start rest : String, Text.StandsIn ("function " ++ d.name ++ "(")
      (start ++ ("function " ++ d.name ++ "(" ++ rest)) :=
    fun start rest => ((Text.stands_in_self _).append_right rest).append_left start
  unfold emit
  dsimp only
  by_cases hcalls : (wrapperCalls n).isEmpty
  · rw [if_pos hcalls]
    refine (hline "export " (p.signature ++ ") \x7b")).trans
      (Text.stands_in_intercalate (List.mem_append_right _ ?_) "\n")
    simp [String.append_assoc]
  · rw [if_neg hcalls]
    refine (hline ("export const " ++ d.name ++ " = " ++ wrapperOpening (wrapperCalls n))
      (p.signature ++ ") \x7b")).trans
      (Text.stands_in_intercalate (List.mem_append_right _ ?_) "\n")
    simp [String.append_assoc]

end Draft

end Texts

/-- An outcome is written from the draft for the place of the unit in a document. -/
structure TransformOutcome.IsWritten (outcome : TransformOutcome) (context : RunContext)
    (component : Component) (text : String) (document : Document) (site : Site) (d : Draft) :
    Prop where
  parsed : ∃ language, Language.ofPath? (Path.ofText component.absolutePath) = some language ∧
    document = Document.parse context.grammar language
      (Path.ofText component.absolutePath).toText text
  error_free : document.hasErrors = false
  found : (findDeclaration document.root component.name).or (defaultExport document.root) = some site
  drafted : ∃ place, Draft.ofSite context.settings.transform component text document.root site place =
    .ok d
  written : outcome = d.outcome context.grammar context.settings.transform.compatLayer text site

theorem TransformOutcome.IsWritten.code_eq {outcome : TransformOutcome} {context : RunContext}
    {component : Component} {text : String} {document : Document} {site : Site} {d : Draft}
    (h : outcome.IsWritten context component text document site d) :
    outcome.code = d.code context.settings.transform.compatLayer := by
  rw [h.written]
  rfl

/-- The place is the one at which the grammar's trees of the text have the unit. -/
theorem TransformOutcome.IsWritten.site_eq {outcome : TransformOutcome} {context : RunContext}
    {component : Component} {text : String} {document : Document} {site site' : Site} {d : Draft}
    (h : outcome.IsWritten context component text document site d)
    (hfound : ∀ language, (findDeclaration (context.grammar language text) component.name).or
      (defaultExport (context.grammar language text)) = some site') : site = site' := by
  obtain ⟨language, -, rfl⟩ := h.parsed
  exact Option.some.inj (h.found.symm.trans (hfound language))

section Written

open Run

variable {context : RunContext} {s t : RunState} {component : Component} {text : String}
  {outcome : TransformOutcome}

theorem Run.exec_parse_as_ok {path : Path} {document : Document}
    (h : (Run.parseAs path text).exec context s = (.ok document, t)) :
    ∃ language, Language.ofPath? path = some language ∧
      document = Document.parse context.grammar language path.toText text := by
  unfold Run.parseAs at h
  split at h
  · cases h
  · next language hlanguage =>
      cases h
      exact ⟨language, hlanguage, rfl⟩

/-- A unit is transformed only if its file has no unreadable places and its name is found. -/
theorem Run.transform_text_written
    (h : (Run.transformText component text).exec context s = (.ok outcome, t)) :
    ∃ document site d, outcome.IsWritten context component text document site d := by
  unfold Run.transformText at h
  obtain ⟨place, u, -, h⟩ := exec_bind_eq_ok.mp h
  obtain ⟨document, v, hparse, h⟩ := exec_bind_eq_ok.mp h
  split at h
  · cases h
  · next herrors =>
      split at h
      · cases h
      · next site hsite =>
          unfold Run.transformSite at h
          obtain ⟨c, w, hread, h⟩ := exec_bind_eq_ok.mp h
          cases hread
          dsimp only at h
          split at h
          · cases h
          · next d hdraft =>
              cases h
              exact ⟨document, site, d, Run.exec_parse_as_ok hparse,
                Bool.eq_false_iff.mpr herrors, hsite, ⟨place, hdraft⟩, rfl⟩

end Written

section Kept

variable {options : TransformSettings} {component : Component} {source : String} {root : Node}
  {site : Site} {place : FaultContext} {d : Draft} {c : KeepCandidate} {top : Node}

theorem Draft.imports_of_site (h : Draft.ofSite options component source root site place = .ok d) :
    d.imports = (keptImports root site).map Node.text := by
  obtain ⟨-, himports, -⟩ := Draft.eq_of_gathered (Draft.of_site_converts h).gathered
  obtain ⟨props, heq, -⟩ := Draft.gathered_for_eq component source root site
  rw [himports, heq]

theorem Draft.helpers_of_site (h : Draft.ofSite options component source root site place = .ok d) :
    d.helpers = ((keptOf root site component.name).filter fun c => !c.isType).map
      KeepCandidate.keptText := by
  obtain ⟨-, -, -, -, -, hhelpers, -⟩ :=
    Draft.eq_of_gathered (Draft.of_site_converts h).gathered
  obtain ⟨props, heq, -⟩ := Draft.gathered_for_eq component source root site
  rw [hhelpers, heq]

theorem Draft.types_of_site (h : Draft.ofSite options component source root site place = .ok d) :
    ∃ props, d.types =
      ((keptOf root site component.name).filter (·.isType)).map KeepCandidate.keptText ++ props := by
  obtain ⟨-, -, -, -, htypes, -⟩ := Draft.eq_of_gathered (Draft.of_site_converts h).gathered
  obtain ⟨props, heq, -⟩ := Draft.gathered_for_eq component source root site
  exact ⟨props, by rw [htypes, heq]⟩

/-- A kept declaration stands in the module. -/
theorem kept_stands_in_code (h : Draft.ofSite options component source root site place = .ok d)
    (hc : c ∈ keptOf root site component.name) (compat : Bool) :
    Text.StandsIn c.keptText (d.code compat) := by
  by_cases htype : c.isType
  · refine Draft.type_stands_in_code ?_
    obtain ⟨props, htypes⟩ := Draft.types_of_site h
    rw [htypes]
    exact List.mem_append_left _ (List.mem_map_of_mem (List.mem_filter.mpr ⟨hc, htype⟩))
  · refine Draft.helper_stands_in_code ?_
    rw [Draft.helpers_of_site h]
    refine List.mem_map_of_mem (List.mem_filter.mpr ⟨hc, ?_⟩)
    rw [Bool.eq_false_iff.mpr htype]
    rfl

/-- The unit is written as a function of its name, or its statement is carried over. -/
theorem unit_stands_in_code (h : Draft.ofSite options component source root site place = .ok d)
    (compat : Bool) :
    Text.StandsIn ("function " ++ component.name ++ "(") (d.code compat) ∨
      Text.StandsIn site.statement.node.text (d.code compat) := by
  have hdeclaration := d.declaration_stands_in_code compat
  rcases Draft.of_site_cases h with ⟨base, pieces, hbase, heq⟩ | heq
  · have hname : base.name = component.name :=
      congrArg Component.name ((Draft.eq_of_gathered hbase.gathered).1.trans
        Draft.component_gathered_for)
    rw [← hname]
    exact .inl ((heq ▸ base.function_stands_in_declaration site.node pieces).trans hdeclaration)
  · refine .inr (Text.StandsIn.trans ?_ hdeclaration)
    rw [heq, Draft.carryOver]
    change Text.StandsIn _ (if site.statement.node.kind == "export_statement" then _ else _)
    split
    · exact List.infix_rfl
    · exact (Text.stands_in_self _).append_left _

end Kept

/-- The first line of the file. -/
def multiLine : String :=
  "const One = () => <p/>, Two = function () \x7b return <One/>; \x7d, three = 3;"

/-- A file that declares two components and a number in one statement, and a third component that
uses the second one. -/
def multiText : String := multiLine ++ "\nfunction Four() \x7b return <Two/>; \x7d"

/-- The declarator of the second component. -/
def multiDeclarator : Node :=
  .mk { kind := "variable_declarator", text := "Two = function () \x7b return <One/>; \x7d" }
    [.mk { kind := "identifier", field := "name", text := "Two" } [],
      .mk { kind := "function_expression", field := "value",
            text := "function () \x7b return <One/>; \x7d" }
        [.mk { kind := "formal_parameters", field := "parameters", text := "()" } [],
          .mk { kind := "statement_block", field := "body", text := "\x7b return <One/>; \x7d" }
            [.mk { kind := "return_statement", text := "return <One/>;" }
              [.mk { kind := "jsx_self_closing_element", text := "<One/>" }
                [.mk { kind := "identifier", field := "name", text := "One" } []]]]]]

/-- The first statement of this file. -/
def multiStatement : Node :=
  .mk { kind := "lexical_declaration", text := multiLine }
    [.mk { kind := "variable_declarator", text := "One = () => <p/>" }
        [.mk { kind := "identifier", field := "name", text := "One" } [],
          .mk { kind := "arrow_function", field := "value", text := "() => <p/>" }
            [.mk { kind := "formal_parameters", field := "parameters", text := "()" } [],
              .mk { kind := "jsx_self_closing_element", field := "body", text := "<p/>" } []]],
      multiDeclarator,
      .mk { kind := "variable_declarator", text := "three = 3" }
        [.mk { kind := "identifier", field := "name", text := "three" } [],
          .mk { kind := "number", field := "value", text := "3" } []]]

/-- The third component of this file. -/
def multiFunction : Node :=
  .mk
      { kind := "function_declaration", startLine := 2, endLine := 2
        text := "function Four() \x7b return <Two/>; \x7d" }
    [.mk { kind := "identifier", field := "name", startLine := 2, endLine := 2, text := "Four" } [],
      .mk
          { kind := "formal_parameters", field := "parameters", startLine := 2, endLine := 2
            text := "()" } [],
      .mk
          { kind := "statement_block", field := "body", startLine := 2, endLine := 2
            text := "\x7b return <Two/>; \x7d" }
        [.mk
            { kind := "return_statement", startLine := 2, endLine := 2, text := "return <Two/>;" }
          [.mk
              { kind := "jsx_self_closing_element", startLine := 2, endLine := 2
                text := "<Two/>" }
            [.mk
                { kind := "identifier", field := "name", startLine := 2, endLine := 2
                  text := "Two" } []]]]]

/-- A context whose grammar knows this file. -/
def multiContext : RunContext :=
  { grammar := fun _ text =>
      if text == multiText then
        .mk { kind := "program", text := multiText } [multiStatement, multiFunction]
      else default }

/-- The components of this file. -/
def multiUnit (name : String) : Component :=
  { id := "src/Multi.tsx:" ++ name, name := name, filePath := "src/Multi.tsx",
    absolutePath := "/proj/src/Multi.tsx" }

/-- The text of the module that a transformation has written. -/
def writtenCode : Except Failure TransformOutcome → Option String
  | .ok outcome => if outcome.success then some outcome.code else none
  | .error _ => none

/-- The module of a transformed unit declares the unit, as a function of its name or by its own
statement, and has every import of its source.  Every name that the unit uses,
directly or through declarations outside its own statement, and that such a declaration declares is
declared in the module: the text of a declaration of it stands there. -/
theorem module_keeps_used {context : RunContext} {s t : RunState} {component : Component}
    {text : String} {outcome : TransformOutcome}
    (h : (Run.transformText component text).exec context s = (.ok outcome, t)) :
    ∃ document site d, outcome.IsWritten context component text document site d ∧
      (Text.StandsIn ("function " ++ component.name ++ "(") outcome.code ∨
        Text.StandsIn site.statement.node.text outcome.code) ∧
      (∀ top ∈ keptImports document.root site, Text.StandsIn top.text outcome.code) ∧
      ∀ n, IsNeeded (declarationsElsewhere document.root site) (references site.node) n →
        ∀ c ∈ declarationsElsewhere document.root site, n ∈ c.names →
          Text.StandsIn c.keptText outcome.code := by
  obtain ⟨document, site, d, hwritten⟩ := Run.transform_text_written h
  obtain ⟨place, hdraft⟩ := hwritten.drafted
  refine ⟨document, site, d, hwritten, ?_, fun top htop => ?_, fun n hneeded c hc hn => ?_⟩
  · rw [hwritten.code_eq]
    exact unit_stands_in_code hdraft _
  · rw [hwritten.code_eq]
    refine Draft.import_stands_in_code ?_
    rw [Draft.imports_of_site hdraft]
    exact List.mem_map_of_mem htop
  · rw [hwritten.code_eq]
    refine kept_stands_in_code hdraft (mem_kept_declarations.mpr ⟨hc, n, hn, ?_⟩) _
    exact hneeded.mono (List.subset_append_left _ _)

theorem module_keeps_used_second_component :
    ∃ outcome t, (Run.transformText (multiUnit "Four") multiText).exec multiContext {} =
        (.ok outcome, t) ∧ Text.StandsIn multiLine outcome.code := by
  obtain ⟨outcome, t, hexec⟩ : ∃ outcome t,
      (Run.transformText (multiUnit "Four") multiText).exec multiContext {} = (.ok outcome, t) :=
    ⟨_, _, rfl⟩
  obtain ⟨document, site, d, hwritten, -, -, hkept⟩ := module_keeps_used hexec
  obtain ⟨language, hlanguage, rfl⟩ := hwritten.parsed
  obtain rfl : Language.tsx = language := Option.some.inj (Eq.trans (by decide) hlanguage)
  obtain rfl : (⟨⟨1, some multiStatement, multiFunction⟩, multiFunction⟩ : Site) = site :=
    Option.some.inj (Eq.trans rfl hwritten.found)
  refine ⟨outcome, t, hexec, ?_⟩
  exact hkept "Two" (.start (by decide))
    ⟨multiStatement, multiStatement, declaredNames multiStatement⟩ List.mem_cons_self
    (by decide)

/-- The second component of a statement uses the first one, and its module neither declares nor
imports it. -/
theorem module_drops_sibling_declarator :
    "One" ∈ references multiDeclarator ∧ "One" ∈ declaredNames multiStatement ∧
    writtenCode ((Run.transformText (multiUnit "Two") multiText).exec multiContext {}).1 = some
      ("/**\n * Two\n *\n * Migrated from src/Multi.tsx by uimigrate 0.3.0.\n" ++
        " * Source kind: functional; complexity: simple.\n */\n\n" ++
        "import React from \"react\";\n\nexport interface TwoProps \x7b\n\x7d\n\n" ++
        "export function Two() \x7b\n  return <One/>;\n\x7d\n\nexport default Two;\n") := by
  decide +kernel

end ComponentMigration
