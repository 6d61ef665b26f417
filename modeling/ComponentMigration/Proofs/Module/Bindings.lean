import Mathlib.Data.List.Flatten
import Mathlib.Data.List.Perm.Subperm
import ComponentMigration.Proofs.Module.Keeping
import ComponentMigration.Proofs.Source.Sites

/-!
# The names that a generated module binds

A module consists of parts that bind names (`moduleParts`): what it takes over from its source, and
what the generator adds.  Nothing is taken over twice, so if the top-level bindings of the source are
pairwise distinct, two bindings of the module have one name exactly when the generator adds a name
that is also taken over, or adds one name twice (`module_bindings_distinct`).  The generator looks for
the framework only among import statements and for the type of the props only among kept types, and it
may add a name that the source binds otherwise.
-/

namespace ComponentMigration

/-- The names that a declaration binds. -/
def bindingNames (decl : Node) : List String :=
  if decl.isVariableDeclaration then declaredNames decl else (declaredName decl).toList

/-- The names that a top-level statement binds. -/
def statementBindings (top : Node) : List String :=
  if top.kind == "import_statement" then importBindings top
  else
    ((if top.kind == "export_statement" then top.child? "declaration" else some top).map
      bindingNames).getD []

/-- The names that the top level of a file binds. -/
def topLevelBindings (root : Node) : List String :=
  (statements root).flatMap fun s => statementBindings s.node

/-- A part of a module and the names that it binds at top level. -/
structure ModulePart where
  text : String
  names : List String

/-- Whether a unit is converted; any other is carried over with its statement. -/
def isConverted (component : Component) (site : Site) : Bool :=
  match component.kind with
  | .classBased => true
  | .functional => site.node.functionOf.isSome
  | _ => false

/-- The names that the declaration of the unit binds. -/
def unitBindings (component : Component) (site : Site) : List String :=
  if isConverted component site then [component.name]
  else statementBindings site.statement.node

/-- The hooks that a module imports beyond the imports of its source. -/
def Draft.missingHooks (d : Draft) : List String :=
  Text.sorted (d.neededHooks.filter fun h => !d.reactBindings.contains h)

section Parts

variable (component : Component) (root : Node) (site : Site) (d : Draft) (compat : Bool)

/-- The kept types of a module. -/
def keptTypes : List KeepCandidate := (keptOf root site component.name).filter (·.isType)

/-- The kept declarations of a module that are no types. -/
def keptHelpers : List KeepCandidate :=
  (keptOf root site component.name).filter fun c => !c.isType

/-- The parts of a module that bind names, in the order of its text. -/
def moduleParts : List ModulePart :=
  (if d.hasReactImport then [] else [⟨"import React from \"react\";", ["React"]⟩]) ++
    (keptImports root site).map (fun top => ⟨top.text, importBindings top⟩) ++
    (if d.missingHooks.isEmpty then []
      else [⟨"import " ++ braced d.missingHooks ++ " from \"react\";", d.missingHooks⟩]) ++
    (keptTypes component root site).map (fun c => ⟨c.keptText, c.names⟩) ++
    (d.types.drop (keptTypes component root site).length).map
      (fun text => ⟨text, [component.name ++ "Props"]⟩) ++
    (keptHelpers component root site).map (fun c => ⟨c.keptText, c.names⟩) ++
    (if d.hook.isEmpty then [] else [⟨d.hook, [d.hookName]⟩]) ++
    [⟨d.declaration, unitBindings component site⟩] ++
    (if compat then [⟨d.legacyAlias, [d.legacyName]⟩] else [])

/-- The names that a module binds, in the order of its text. -/
def moduleBindings : List String :=
  (moduleParts component root site d compat).flatMap ModulePart.names

/-- The names that a module takes over from its source. -/
def takenOver : List String :=
  (if isConverted component site then
      [component.name].filter (statementBindings site.statement.node).contains
    else statementBindings site.statement.node) ++
    ((keptImports root site).flatMap importBindings ++
      (keptOf root site component.name).flatMap KeepCandidate.names)

/-- The names that the generator adds. -/
def addedNames : List String :=
  (if d.hasReactImport then [] else ["React"]) ++ d.missingHooks ++
    (if component.name ++ "Props" ∈ (keptTypes component root site).flatMap KeepCandidate.names
      then [] else [component.name ++ "Props"]) ++
    (if d.hook.isEmpty then [] else ["use" ++ component.name ++ "Logic"]) ++
    (if isConverted component site then
      [component.name].filter fun n => !(statementBindings site.statement.node).contains n
      else []) ++
    (if compat then [component.name ++ "Legacy"] else [])

end Parts

section Text

variable {options : TransformSettings} {component : Component} {source : String} {root : Node}
  {site : Site} {place : FaultContext} {d : Draft}

/-- The types of a module that are not kept ones: that of the props, unless a kept one has its name.
-/
theorem added_types_of_site
    (h : Draft.ofSite options component source root site place = .ok d) :
    ∃ props : List String,
      d.types = (keptTypes component root site).map KeepCandidate.keptText ++ props ∧
      props.map (fun _ => component.name ++ "Props") =
        if component.name ++ "Props" ∈ (keptTypes component root site).flatMap KeepCandidate.names
        then [] else [component.name ++ "Props"] := by
  obtain ⟨-, -, -, -, htypes, -⟩ := Draft.eq_of_gathered (Draft.of_site_converts h).gathered
  obtain ⟨props, heq, hprops⟩ := Draft.gathered_for_eq component source root site
  refine ⟨props, by rw [htypes, heq, keptTypes], ?_⟩
  rcases hprops with ⟨rfl, hkept⟩ | ⟨⟨text, rfl⟩, hnew⟩
  · exact (if_pos hkept).symm
  · exact (if_neg hnew).symm

/-- The parts are the text of the module: its import lines, types, helpers, hook, declaration and
alias. -/
theorem module_parts_text (h : Draft.ofSite options component source root site place = .ok d)
    (compat : Bool) :
    (moduleParts component root site d compat).map ModulePart.text =
      d.importLines ++ d.types ++ d.helpers ++ (if d.hook.isEmpty then [] else [d.hook]) ++
        [d.declaration] ++ (if compat then [d.legacyAlias] else []) := by
  obtain ⟨props, htypes, -⟩ := added_types_of_site h
  have himports : d.importLines =
      (if d.hasReactImport then [] else ["import React from \"react\";"]) ++
        (keptImports root site).map Node.text ++
        (if d.missingHooks.isEmpty then []
          else ["import " ++ braced d.missingHooks ++ " from \"react\";"]) := by
    rw [← Draft.imports_of_site h]
    rfl
  have hdrop : d.types.drop (keptTypes component root site).length = props := by
    rw [htypes, ← List.length_map KeepCandidate.keptText, List.drop_left]
  unfold moduleParts
  rw [hdrop, himports, htypes, Draft.helpers_of_site h]
  simp only [List.map_append, List.map_map, apply_ite (List.map ModulePart.text), List.map_nil,
    List.map_cons, Function.comp_def, List.map_id', List.append_assoc]
  rfl

end Text

section Names

theorem flat_map_filter_perm {α β : Type} (p : α → Bool) (l : List α) (f : α → List β) :
    (l.flatMap f).Perm ((l.filter p).flatMap f ++ (l.filter fun x => !p x).flatMap f) := by
  rw [← List.flatMap_append]
  exact (List.filter_append_perm p l).symm.flatMap fun _ _ => .refl _

variable {options : TransformSettings} {component : Component} {source : String} {root : Node}
  {site : Site} {place : FaultContext} {d : Draft}

/-- What a unit binds is taken over as far as its own statement binds it, and added otherwise. -/
theorem unit_bindings_perm (component : Component) (site : Site) :
    (unitBindings component site).Perm
      ((if isConverted component site then
          [component.name].filter (statementBindings site.statement.node).contains
        else statementBindings site.statement.node) ++
        (if isConverted component site then
          [component.name].filter fun n => !(statementBindings site.statement.node).contains n
        else [])) := by
  unfold unitBindings
  split
  · exact (List.filter_append_perm _ _).symm
  · rw [List.append_nil]

/-- The kept declarations are the kept types and the kept helpers. -/
theorem kept_names_perm (component : Component) (root : Node) (site : Site) :
    ((keptOf root site component.name).flatMap KeepCandidate.names).Perm
      ((keptTypes component root site).flatMap KeepCandidate.names ++
        (keptHelpers component root site).flatMap KeepCandidate.names) := by
  unfold keptTypes keptHelpers
  exact flat_map_filter_perm KeepCandidate.isType (keptOf root site component.name)
    KeepCandidate.names

/-- What the parts of a module bind, one after the other. -/
theorem module_bindings_eq (h : Draft.ofSite options component source root site place = .ok d)
    (compat : Bool) :
    moduleBindings component root site d compat =
      (if d.hasReactImport then [] else ["React"]) ++
        (keptImports root site).flatMap importBindings ++ d.missingHooks ++
        (keptTypes component root site).flatMap KeepCandidate.names ++
        (if component.name ++ "Props" ∈ (keptTypes component root site).flatMap KeepCandidate.names
          then [] else [component.name ++ "Props"]) ++
        (keptHelpers component root site).flatMap KeepCandidate.names ++
        (if d.hook.isEmpty then [] else ["use" ++ component.name ++ "Logic"]) ++
        unitBindings component site ++ (if compat then [component.name ++ "Legacy"] else []) := by
  obtain ⟨props, htypes, hprops⟩ := added_types_of_site h
  have hdrop : d.types.drop (keptTypes component root site).length = props := by
    rw [htypes, ← List.length_map KeepCandidate.keptText, List.drop_left]
  have hpropsNames : (props.map fun text => ModulePart.mk text [component.name ++ "Props"]).flatMap
      ModulePart.names = props.map fun _ => component.name ++ "Props" := by
    rw [List.flatMap_map, List.map_eq_flatMap]
  have hmissing : (if d.missingHooks.isEmpty then []
      else [ModulePart.mk ("import " ++ braced d.missingHooks ++ " from \"react\";")
        d.missingHooks]).flatMap ModulePart.names = d.missingHooks := by
    cases d.missingHooks with
    | nil => rfl
    | cons hook hooks => exact List.append_nil _
  have hcomponent := Draft.of_site_component h
  have hhook : d.hookName = "use" ++ component.name ++ "Logic" := by
    unfold Draft.hookName Draft.name
    rw [hcomponent]
  have hlegacy : d.legacyName = component.name ++ "Legacy" := by
    unfold Draft.legacyName Draft.name
    rw [hcomponent]
  unfold moduleBindings moduleParts
  rw [← hprops, hdrop]
  simp only [List.flatMap_append, hmissing, hpropsNames, List.flatMap_map,
    apply_ite (List.flatMap ModulePart.names), List.flatMap_nil, List.flatMap_cons,
    List.append_nil, hhook, hlegacy]

/-- A module binds what it takes over and what the generator adds, and nothing else. -/
theorem module_bindings_perm (h : Draft.ofSite options component source root site place = .ok d)
    (compat : Bool) :
    (moduleBindings component root site d compat).Perm
      (takenOver component root site ++ addedNames component root site d compat) := by
  rw [module_bindings_eq h, takenOver, addedNames]
  refine List.perm_iff_count.mpr fun n => ?_
  have hkept := (kept_names_perm component root site).count_eq n
  have hunit := (unit_bindings_perm component site).count_eq n
  simp only [List.count_append] at hkept hunit ⊢
  omega

theorem keep_candidate_names {top : Node} {c : KeepCandidate} (h : keepCandidate? top = some c) :
    top.kind ≠ "import_statement" ∧ c.names = statementBindings top := by
  have hkind : top.kind ≠ "import_statement" := fun himport => by
    rw [keep_candidate_of_kind (.inl himport)] at h
    cases h
  obtain ⟨decl, hdecl, hnames⟩ := Option.bind_eq_some_iff.mp h
  dsimp only at hnames
  split at hnames
  · cases hnames
  · next hne =>
      cases hnames
      refine ⟨hkind, ?_⟩
      unfold statementBindings
      rw [if_neg (fun himport => hkind (beq_iff_eq.mp himport)), hdecl]
      change declaredNames decl = bindingNames decl
      unfold bindingNames
      by_cases hvariable : decl.isVariableDeclaration
      · rw [if_pos hvariable]
      · rw [if_neg hvariable]
        unfold declaredNames at hne ⊢
        split
        · rfl
        · next hnamed =>
            rw [if_neg hnamed, if_neg hvariable] at hne
            exact absurd rfl hne

theorem elsewhere_names_sublist (tops : List Node) :
    ((tops.filterMap keepCandidate?).flatMap KeepCandidate.names).Sublist
      ((tops.filter fun top => !(top.kind == "import_statement")).flatMap statementBindings) := by
  induction tops with
  | nil => exact .slnil
  | cons top tops ih =>
      rw [List.filterMap_cons, List.filter_cons]
      cases hc : keepCandidate? top with
      | none =>
          dsimp only
          split
          · rw [List.flatMap_cons]
            exact ih.trans (List.sublist_append_right _ _)
          · exact ih
      | some c =>
          obtain ⟨hkind, hnames⟩ := keep_candidate_names hc
          dsimp only
          rw [beq_eq_false_iff_ne.mpr hkind, Bool.not_false, if_pos rfl, List.flatMap_cons,
            List.flatMap_cons, hnames]
          exact ih.append_left _

/-- What is kept of the other statements binds part of what they bind. -/
theorem kept_bindings_subperm (root : Node) (site : Site) (name : String) :
    ((keptImports root site).flatMap importBindings ++
      (keptOf root site name).flatMap KeepCandidate.names).Subperm
      ((otherStatements root site).flatMap statementBindings) := by
  have himports : ((keptImports root site).flatMap importBindings) =
      ((otherStatements root site).filter (·.kind == "import_statement")).flatMap
        statementBindings := by
    refine List.flatMap_congr fun top htop => ?_
    unfold statementBindings
    rw [if_pos (List.mem_filter.mp htop).2]
  have hkept : ((keptOf root site name).flatMap KeepCandidate.names).Sublist
      (((otherStatements root site).filter fun top => !(top.kind == "import_statement")).flatMap
        statementBindings) :=
    ((kept_declarations_sublist _ _).flatMap _).trans (elsewhere_names_sublist _)
  rw [himports]
  exact (hkept.append_left _).subperm.trans
    (flat_map_filter_perm (fun top : Node => top.kind == "import_statement") _ _).symm.subperm

theorem other_statements_sublist (root : Node) (site : Site) :
    (otherStatements root site).Sublist
      (((statements root).filter fun s => !(s.position == site.statement.position)).map
        Statement.node) := by
  have hfilter : ((statements root).filter fun s =>
      s.position != site.statement.position && s.node.kind != "comment") =
      ((statements root).filter fun s => !(s.position == site.statement.position)).filter
        fun s => s.node.kind != "comment" := by
    rw [List.filter_filter]
    exact List.filter_congr fun s _ => Bool.and_comm _ _
  rw [otherStatements, hfilter]
  exact List.filter_sublist.map _

/-- A module takes nothing over twice: what it takes over is part of what its source binds. -/
theorem taken_over_subperm (hsite : site.statement ∈ statements root) :
    (takenOver component root site).Subperm (topLevelBindings root) := by
  have hunit : (if isConverted component site then
        [component.name].filter (statementBindings site.statement.node).contains
      else statementBindings site.statement.node).Subperm
      (statementBindings site.statement.node) := by
    split
    · refine List.subperm_of_subset ((List.nodup_singleton _).filter _) fun n hn => ?_
      exact List.contains_iff_mem.mp (List.mem_filter.mp hn).2
    · exact .refl _
  have hown : [site.statement].Sublist
      ((statements root).filter fun s => s.position == site.statement.position) :=
    List.singleton_sublist.mpr (List.mem_filter.mpr ⟨hsite, beq_self_eq_true _⟩)
  have hownPart := (hown.flatMap fun s => statementBindings s.node).subperm
  rw [List.flatMap_singleton] at hownPart
  have hothersPart := (kept_bindings_subperm root site component.name).trans
    ((other_statements_sublist root site).flatMap statementBindings).subperm
  rw [List.flatMap_map] at hothersPart
  have hsplit := flat_map_filter_perm (fun s : Statement => s.position == site.statement.position)
    (statements root) fun s => statementBindings s.node
  exact ((hunit.trans hownPart).append hothersPart).trans hsplit.symm.subperm

/-- The last character of a text. -/
def Text.lastChar? (s : String) : Option Char := s.toList.getLast?

theorem Text.last_char_append (a : String) {b : String} (h : b ≠ "") :
    Text.lastChar? (a ++ b) = Text.lastChar? b := by
  have hne : b.toList ≠ [] := fun hnil => h (String.toList_inj.mp hnil)
  rw [lastChar?, lastChar?, String.toList_append, List.getLast?_append_of_ne_nil _ hne]

/-- The hooks that a module imports are those of conversions, each once. -/
theorem missing_hooks_of_site (h : Draft.ofSite options component source root site place = .ok d) :
    d.missingHooks.Nodup ∧ d.missingHooks ⊆ Draft.conversionHooks := by
  have hconverts := Draft.of_site_converts h
  obtain ⟨props, heq, -⟩ := Draft.gathered_for_eq component source root site
  rw [heq] at hconverts
  have hperm := List.mergeSort_perm (d.neededHooks.filter fun h => !d.reactBindings.contains h)
    Text.le
  refine ⟨hperm.nodup_iff.mpr ((hconverts.nodup List.nodup_nil).filter _), fun hook hhook => ?_⟩
  have hneeded := (List.mem_filter.mp (hperm.mem_iff.mp hhook)).1
  exact (hconverts.mem hook hneeded).resolve_left List.not_mem_nil

theorem Text.ne_of_last_char {a b : String} {x y : Char} (ha : lastChar? a = some x)
    (hb : lastChar? b = some y) (h : x ≠ y) : a ≠ b := by
  rintro rfl
  exact h (Option.some.inj (ha.symm.trans hb))

/-- The names of the framework end in other letters than the names that are made for a unit. -/
theorem last_char_of_framework : ∀ n ∈ "React" :: Draft.conversionHooks,
    Text.lastChar? n ≠ some 's' ∧ Text.lastChar? n ≠ some 'c' ∧ Text.lastChar? n ≠ some 'y' := by
  decide

/-- A name with something put around it is another name. -/
theorem affixed_ne (before name after : String) (h : 0 < before.length + after.length) :
    before ++ name ++ after ≠ name := by
  intro heq
  have hlength := congrArg String.length heq
  rw [String.length_append, String.length_append] at hlength
  omega

/-- The names that a module of a unit may add beyond those of the framework differ from the unit's
name, from one another and from the framework's. -/
theorem added_affixes_distinct (name : String) {hooks own : List String}
    (hhooks : hooks.Nodup) (hsubset : hooks ⊆ Draft.conversionHooks)
    (hown : own = [] ∨ own = [name] ∧ name ∉ "React" :: Draft.conversionHooks) :
    (["React"] ++ hooks ++ [name ++ "Props"] ++ ["use" ++ name ++ "Logic"] ++ own ++
      [name ++ "Legacy"]).Nodup := by
  have hprops : Text.lastChar? (name ++ "Props") = some 's' :=
    Text.last_char_append name (by decide)
  have hlogic : Text.lastChar? ("use" ++ name ++ "Logic") = some 'c' :=
    Text.last_char_append _ (by decide)
  have hlegacy : Text.lastChar? (name ++ "Legacy") = some 'y' :=
    Text.last_char_append name (by decide)
  have hpropsLogic := Text.ne_of_last_char hprops hlogic (by decide)
  have hpropsLegacy := Text.ne_of_last_char hprops hlegacy (by decide)
  have hlogicLegacy := Text.ne_of_last_char hlogic hlegacy (by decide)
  have hstart : (["React"] ++ hooks).Nodup :=
    List.nodup_cons.mpr ⟨fun hmem => absurd (hsubset hmem) (by decide), hhooks⟩
  have hmade : ([name ++ "Props"] ++ (["use" ++ name ++ "Logic"] ++ (own ++
      [name ++ "Legacy"]))).Nodup := by
    rcases hown with rfl | ⟨rfl, -⟩
    · simp [hpropsLogic, hpropsLegacy, hlogicLegacy]
    · have hlogicName : "use" ++ name ++ "Logic" ≠ name := affixed_ne _ _ _ (by decide)
      have hnameLegacy : name ≠ name ++ "Legacy" := Ne.symm (by simp)
      simp [hpropsLogic, hpropsLegacy, hlogicLegacy, hlogicName, hnameLegacy]
  rw [List.append_assoc, List.append_assoc, List.append_assoc]
  refine List.nodup_append.mpr ⟨hstart, hmade, ?_⟩
  rintro n hn _ hmem rfl
  have hframework := List.cons_subset_cons "React" hsubset hn
  obtain ⟨hs, hc, hy⟩ := last_char_of_framework n hframework
  simp only [List.mem_append, List.mem_singleton] at hmem
  rcases hmem with rfl | rfl | hname | rfl
  · exact hs hprops
  · exact hc hlogic
  · rcases hown with rfl | ⟨rfl, hfree⟩
    · cases hname
    · exact hfree (List.mem_singleton.mp hname ▸ hframework)
  · exact hy hlegacy

/-- The generator adds no name twice, unless it exports under a name of the framework a unit that has
no name in its source. -/
theorem added_names_nodup (h : Draft.ofSite options component source root site place = .ok d)
    (compat : Bool)
    (hname : component.name ∈ statementBindings site.statement.node ∨
      component.name ∉ "React" :: Draft.conversionHooks) :
    (addedNames component root site d compat).Nodup := by
  obtain ⟨hhooks, hsubset⟩ := missing_hooks_of_site h
  have hown : (if isConverted component site then
        [component.name].filter fun n => !(statementBindings site.statement.node).contains n
      else []) = [] ∨
      (if isConverted component site then
        [component.name].filter fun n => !(statementBindings site.statement.node).contains n
      else []) = [component.name] ∧ component.name ∉ "React" :: Draft.conversionHooks := by
    split
    · rw [List.filter_singleton]
      rcases hname with hbound | hfree
      · rw [List.contains_iff_mem.mpr hbound]
        exact .inl rfl
      · cases (statementBindings site.statement.node).contains component.name with
        | true => exact .inl rfl
        | false => exact .inr ⟨rfl, hfree⟩
    · exact .inl rfl
  have hite : ∀ (p : Prop) [Decidable p] (x : String), (if p then [] else [x]).Sublist [x] := by
    intro p _ x
    split
    · exact List.nil_sublist _
    · exact .refl _
  have hlegacy : (if compat then [component.name ++ "Legacy"] else []).Sublist
      [component.name ++ "Legacy"] := by
    split
    · exact .refl _
    · exact List.nil_sublist _
  refine (added_affixes_distinct component.name hhooks hsubset hown).sublist ?_
  exact (((((hite _ _).append (.refl _)).append (hite _ _)).append (hite _ _)).append
    (.refl _)).append hlegacy

/-- The statement of the place at which a unit is found is one of its file. -/
theorem statement_of_found {root : Node} {name : String} {site : Site}
    (h : (findDeclaration root name).or (defaultExport root) = some site) :
    site.statement ∈ statements root := by
  rcases Option.or_eq_some_iff.mp h with hfound | ⟨-, hdefault⟩
  · exact statement_of_find_declaration hfound
  · obtain ⟨s, hs, hsite⟩ := List.exists_of_findSome?_eq_some hdefault
    split at hsite
    · obtain ⟨inner, -, rfl⟩ := Option.map_eq_some_iff.mp hsite
      exact hs
    · cases hsite

end Names

/-- A file that requires the framework and declares a component. -/
def requiringText : String :=
  "var React = require('react');\nfunction Plain() \x7b return React.createElement('p', null); \x7d"

/-- The statement that requires the framework. -/
def requiringStatement : Node :=
  .mk { kind := "variable_declaration", text := "var React = require('react');" }
    [.mk { kind := "variable_declarator", text := "React = require('react')" }
      [.mk { kind := "identifier", field := "name", text := "React" } [],
        .mk { kind := "call_expression", field := "value", text := "require('react')" }
          [.mk { kind := "identifier", field := "function", text := "require" } [],
            .mk { kind := "arguments", field := "arguments", text := "('react')" }
              [.mk { kind := "string", text := "'react'" } []]]]]

/-- The component of this file. -/
def requiringFunction : Node :=
  .mk
      { kind := "function_declaration", startLine := 2, endLine := 2
        text := "function Plain() \x7b return React.createElement('p', null); \x7d" }
    [.mk { kind := "identifier", field := "name", startLine := 2, endLine := 2, text := "Plain" } [],
      .mk
          { kind := "formal_parameters", field := "parameters", startLine := 2, endLine := 2
            text := "()" } [],
      .mk
          { kind := "statement_block", field := "body", startLine := 2, endLine := 2
            text := "\x7b return React.createElement('p', null); \x7d" }
        [.mk
            { kind := "return_statement", startLine := 2, endLine := 2
              text := "return React.createElement('p', null);" }
          [.mk
              { kind := "call_expression", startLine := 2, endLine := 2
                text := "React.createElement('p', null)" }
            [.mk
                { kind := "member_expression", field := "function", startLine := 2, endLine := 2
                  text := "React.createElement" }
              [.mk
                  { kind := "identifier", field := "object", startLine := 2, endLine := 2
                    text := "React" } []]]]]]

/-- The tree of this file. -/
def requiringTree : Node :=
  .mk { kind := "program", text := requiringText } [requiringStatement, requiringFunction]

/-- The unit of this component. -/
def requiringUnit : Component :=
  { id := "src/Old.js:Plain", name := "Plain", filePath := "src/Old.js",
    absolutePath := "/proj/src/Old.js" }

/-- The place of this component in its file. -/
def requiringSite : Site := ⟨⟨1, some requiringStatement, requiringFunction⟩, requiringFunction⟩

/-- The parts of a transformed unit's module are its text.  If the bindings at the top level of the
source are pairwise distinct, those of the module are so exactly when none of the names that the
generator adds is taken over from the source.  The added names are distinct among themselves, except
perhaps if the unit has no name in its source and exports it under a name of the framework. -/
theorem module_bindings_distinct {context : RunContext} {s t : RunState} {component : Component}
    {text : String} {outcome : TransformOutcome}
    (h : (Run.transformText component text).exec context s = (.ok outcome, t)) :
    ∃ document site d, outcome.IsWritten context component text document site d ∧
      (moduleParts component document.root site d
          context.settings.transform.compatLayer).map ModulePart.text =
        d.importLines ++ d.types ++ d.helpers ++ (if d.hook.isEmpty then [] else [d.hook]) ++
          [d.declaration] ++
          (if context.settings.transform.compatLayer then [d.legacyAlias] else []) ∧
      (component.name ∈ statementBindings site.statement.node ∨
          component.name ∉ "React" :: Draft.conversionHooks →
        (addedNames component document.root site d
          context.settings.transform.compatLayer).Nodup) ∧
      ((topLevelBindings document.root).Nodup →
        ((moduleBindings component document.root site d
            context.settings.transform.compatLayer).Nodup ↔
          (addedNames component document.root site d
            context.settings.transform.compatLayer).Nodup ∧
          ∀ n ∈ addedNames component document.root site d
            context.settings.transform.compatLayer,
            n ∉ takenOver component document.root site)) := by
  obtain ⟨document, site, d, hwritten⟩ := Run.transform_text_written h
  obtain ⟨place, hdraft⟩ := hwritten.drafted
  refine ⟨document, site, d, hwritten, module_parts_text hdraft _,
    added_names_nodup hdraft _, fun hdistinct => ?_⟩
  have htaken : (takenOver component document.root site).Nodup := by
    obtain ⟨l, hperm, hsublist⟩ : (takenOver component document.root site).Subperm
        (topLevelBindings document.root) :=
      taken_over_subperm (statement_of_found hwritten.found)
    exact hperm.nodup_iff.mp (hdistinct.sublist hsublist)
  rw [(module_bindings_perm hdraft _).nodup_iff, List.nodup_append]
  constructor
  · rintro ⟨-, hadded, hdisjoint⟩
    exact ⟨hadded, fun n hn hmem => hdisjoint n hmem n hn rfl⟩
  · rintro ⟨hadded, hdisjoint⟩
    exact ⟨htaken, hadded, fun n hn m hm heq => hdisjoint m hm (heq ▸ hn)⟩

theorem module_bindings_distinct_fourth :
    ∃ outcome t, (Run.transformText (multiUnit "Four") multiText).exec multiContext {} =
        (.ok outcome, t) ∧
      ∃ document site d, outcome.IsWritten multiContext (multiUnit "Four") multiText document site d ∧
        topLevelBindings document.root = ["One", "Two", "three", "Four"] ∧
        ((moduleBindings (multiUnit "Four") document.root site d false).Nodup ↔
          ∀ n ∈ addedNames (multiUnit "Four") document.root site d false,
            n ∉ takenOver (multiUnit "Four") document.root site) := by
  obtain ⟨outcome, t, hexec⟩ : ∃ outcome t,
      (Run.transformText (multiUnit "Four") multiText).exec multiContext {} = (.ok outcome, t) :=
    ⟨_, _, rfl⟩
  obtain ⟨document, site, d, hwritten, -, hadded, hdistinct⟩ := module_bindings_distinct hexec
  obtain ⟨language, hlanguage, rfl⟩ := hwritten.parsed
  obtain rfl : Language.tsx = language := Option.some.inj (Eq.trans (by decide) hlanguage)
  obtain rfl : (⟨⟨1, some multiStatement, multiFunction⟩, multiFunction⟩ : Site) = site :=
    Option.some.inj (Eq.trans rfl hwritten.found)
  have hbindings : topLevelBindings (multiContext.grammar .tsx multiText) =
      ["One", "Two", "three", "Four"] := by decide
  have hadded := hadded (.inl (by decide))
  refine ⟨outcome, t, hexec, _, _, d, hwritten, hbindings, ?_⟩
  exact (hdistinct (hbindings ▸ by decide)).trans ⟨fun h => h.2, fun h => ⟨hadded, h⟩⟩

/-- The source binds each name once, and its module both imports the framework and keeps the
variable of that name. -/
theorem module_binds_framework_twice :
    topLevelBindings requiringTree = ["React", "Plain"] ∧
    (match Draft.ofSite {} requiringUnit requiringText requiringTree requiringSite {} with
      | .ok d => moduleBindings requiringUnit requiringTree requiringSite d false
      | .error _ => []) = ["React", "PlainProps", "React", "Plain"] ∧
    writtenCode ((Run.transformText requiringUnit requiringText).exec
        { grammar := fun _ text => if text == requiringText then requiringTree else default }
        {}).1 = some
      ("/**\n * Plain\n *\n * Migrated from src/Old.js by uimigrate 0.3.0.\n" ++
        " * Source kind: functional; complexity: simple.\n */\n\n" ++
        "import React from \"react\";\n\nexport interface PlainProps \x7b\n\x7d\n\n" ++
        "var React = require('react');\n\nexport function Plain() \x7b\n" ++
        "  return React.createElement('p', null);\n\x7d\n\nexport default Plain;\n") := by
  decide +kernel

end ComponentMigration
