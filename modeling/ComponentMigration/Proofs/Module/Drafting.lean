import ComponentMigration.Module.Transform
import ComponentMigration.Proofs.Text.Order

/-!
# What a draft takes over from the source

A draft first gathers imports, expressions about the unit and kept declarations, and then the type
of the props (`Draft.collect_eq`, `Draft.declare_props_cases`).  Whatever the unit is, its conversion
leaves alone what has been gathered and only asks for hooks of the framework, each once
(`Draft.Converts`, `Draft.of_site_converts`).
-/

namespace ComponentMigration

/-- The statements of a file other than the unit's own and comments. -/
def otherStatements (root : Node) (site : Site) : List Node :=
  ((statements root).filter fun s =>
    s.position != site.statement.position && s.node.kind != "comment").map Statement.node

/-- The import statements among them. -/
def keptImports (root : Node) (site : Site) : List Node :=
  (otherStatements root site).filter (·.kind == "import_statement")

/-- The declarations among them, of which a module keeps those that the unit uses. -/
def declarationsElsewhere (root : Node) (site : Site) : List KeepCandidate :=
  (otherStatements root site).filterMap keepCandidate?

/-- The declarations that the module of a unit keeps. -/
def keptOf (root : Node) (site : Site) (name : String) : List KeepCandidate :=
  keptDeclarations (declarationsElsewhere root site) (references site.node ++ [name ++ "Props"])

theorem keep_candidate_of_kind {top : Node}
    (h : top.kind = "import_statement" ∨ top.kind = "expression_statement") :
    keepCandidate? top = none := by
  unfold keepCandidate? declaredNames
  rcases h with h | h <;>
    simp [h, namedDeclarationKinds, Node.isVariableDeclaration]

/-- Neither imports nor expressions about the unit declare anything. -/
theorem keep_candidates_eq (root : Node) (site : Site) (name : String) :
    (((otherStatements root site).filter (·.kind != "import_statement")).filter fun t =>
      !isTrailer name t).filterMap keepCandidate? = declarationsElsewhere root site := by
  rw [List.filterMap_filter, List.filterMap_filter, declarationsElsewhere]
  refine List.filterMap_congr fun top _ => ?_
  split
  · split
    · rfl
    · next htrailer =>
        have hkind : top.kind = "expression_statement" := by
          simp only [isTrailer, Bool.not_eq_true, Bool.not_eq_false', Bool.and_eq_true,
            beq_iff_eq] at htrailer
          exact htrailer.1
        exact (keep_candidate_of_kind (.inr hkind)).symm
  · next himport =>
      have hkind : top.kind = "import_statement" := by simpa using himport
      exact (keep_candidate_of_kind (.inl hkind)).symm

/-- Whether a kept declaration is one of types. -/
def KeepCandidate.isType (c : KeepCandidate) : Bool := typeDeclarationKinds.contains c.decl.kind

/-- The text of a declaration without the mark of a default export. -/
def KeepCandidate.plainText (c : KeepCandidate) : String :=
  if c.top.hasToken "default" then c.decl.text else c.top.text

/-- The text under which a module keeps a declaration; types are exported. -/
def KeepCandidate.keptText (c : KeepCandidate) : String :=
  if c.isType && !Text.startsWith c.plainText "export" then "export " ++ c.plainText
  else c.plainText

namespace Draft

variable {d d' : Draft}

theorem add_imports_eq (d : Draft) (tops : List Node) :
    tops.foldl addImport d =
      { d with
        imports := d.imports ++ tops.map Node.text
        hasReactImport := d.hasReactImport || tops.any (importSource · == "react")
        reactBindings := d.reactBindings ++
          (tops.filter (importSource · == "react")).flatMap importBindings } := by
  induction tops generalizing d with
  | nil => simp
  | cons top tops ih =>
      rw [List.foldl_cons, ih, addImport]
      cases hreact : importSource top == "react" with
      | true => simp [hreact]
      | false => simp [hreact]

theorem add_all_kept_eq (d : Draft) (kept : List KeepCandidate) :
    kept.foldl addKept d =
      { d with
        types := d.types ++ (kept.filter (·.isType)).map KeepCandidate.keptText
        typeNames := d.typeNames ++ (kept.filter (·.isType)).flatMap KeepCandidate.names
        helpers := d.helpers ++ (kept.filter fun c => !c.isType).map KeepCandidate.keptText } := by
  induction kept generalizing d with
  | nil => simp
  | cons c kept ih =>
      have hstep : d.addKept c =
          if c.isType then
            { d with types := d.types ++ [c.keptText], typeNames := d.typeNames ++ c.names }
          else { d with helpers := d.helpers ++ [c.keptText] } := by
        unfold addKept
        dsimp only
        by_cases htype : c.isType
        · have htext : c.keptText =
              if Text.startsWith c.plainText "export" then c.plainText
              else "export " ++ c.plainText := by
            rw [KeepCandidate.keptText, htype]
            cases Text.startsWith c.plainText "export" <;> rfl
          rw [if_pos htype, if_pos (show typeDeclarationKinds.contains c.decl.kind from htype),
            htext]
          rfl
        · rw [if_neg htype, if_neg (show ¬typeDeclarationKinds.contains c.decl.kind from htype),
            KeepCandidate.keptText, Bool.eq_false_iff.mpr htype]
          rfl
      rw [List.foldl_cons, ih, hstep]
      by_cases htype : c.isType
      · simp [htype]
      · simp [htype]

/-- What a draft gathers from the top level of a file. -/
theorem collect_eq (d : Draft) (root : Node) (site : Site) :
    d.collect root site =
      { d with
        imports := d.imports ++ (keptImports root site).map Node.text
        hasReactImport := d.hasReactImport ||
          (keptImports root site).any (importSource · == "react")
        reactBindings := d.reactBindings ++
          ((keptImports root site).filter (importSource · == "react")).flatMap importBindings
        trailer := (((otherStatements root site).filter (·.kind != "import_statement")).filter
          (isTrailer d.name)).map Node.text
        types := d.types ++
          ((keptOf root site d.name).filter (·.isType)).map KeepCandidate.keptText
        typeNames := d.typeNames ++
          ((keptOf root site d.name).filter (·.isType)).flatMap KeepCandidate.names
        helpers := d.helpers ++
          ((keptOf root site d.name).filter fun c => !c.isType).map KeepCandidate.keptText } := by
  unfold collect
  dsimp only
  rw [add_imports_eq]
  dsimp only [name]
  change List.foldl addKept _ (keptDeclarations (List.filterMap keepCandidate?
    (((otherStatements root site).filter (·.kind != "import_statement")).filter fun t =>
      !isTrailer d.component.name t)) _) = _
  rw [keep_candidates_eq, add_all_kept_eq]
  rfl

/-- The type of the props is declared unless a kept declaration has its name. -/
theorem declare_props_cases (d : Draft) (n : Node) :
    (d.name ++ "Props" ∈ d.typeNames ∧ d.declareProps n = d) ∨
      d.name ++ "Props" ∉ d.typeNames ∧
        ∃ text, d.declareProps n = { d with types := d.types ++ [text] } := by
  unfold declareProps
  dsimp only
  by_cases hkept : d.name ++ "Props" ∈ d.typeNames
  · exact .inl ⟨hkept, if_pos (List.contains_iff_mem.mpr hkept)⟩
  · refine .inr ⟨hkept, ?_⟩
    rw [if_neg fun h => hkept (List.contains_iff_mem.mp h)]
    split
    · split <;> exact ⟨_, rfl⟩
    · exact ⟨_, rfl⟩

/-- A draft without what the conversion of the unit writes. -/
def gathered (d : Draft) : Draft :=
  { d with
    hook := ""
    declaration := ""
    defaultExported := false
    lifted := []
    neededHooks := []
    warnings := []
    manualReview := false }

/-- The hooks that the conversion of a class asks for. -/
def conversionHooks : List String := ["useState", "useEffect"]

/-- A step of the conversion of a unit. -/
structure Converts (d d' : Draft) : Prop where
  gathered : d'.gathered = d.gathered
  nodup : d.neededHooks.Nodup → d'.neededHooks.Nodup
  mem : ∀ h ∈ d'.neededHooks, h ∈ d.neededHooks ∨ h ∈ conversionHooks

namespace Converts

theorem of_hooks (hgathered : d'.gathered = d.gathered) (hhooks : d'.neededHooks = d.neededHooks) :
    d.Converts d' :=
  ⟨hgathered, fun h => hhooks ▸ h, fun _ h => .inl (hhooks ▸ h)⟩

theorem refl (d : Draft) : d.Converts d := of_hooks rfl rfl

theorem trans {d'' : Draft} (h : d.Converts d') (h' : d'.Converts d'') : d.Converts d'' where
  gathered := h'.gathered.trans h.gathered
  nodup hnodup := h'.nodup (h.nodup hnodup)
  mem hook hhook := (h'.mem hook hhook).elim (h.mem hook) .inr

theorem warn (d : Draft) (message : String) (review : Bool) : d.Converts (d.warn message review) :=
  of_hooks rfl rfl

theorem need_hook (d : Draft) {hook : String} (h : hook ∈ conversionHooks) :
    d.Converts { d with neededHooks := Text.appendUnique d.neededHooks hook } := by
  refine ⟨rfl, fun hnodup => nodup_append_unique hnodup hook, fun other hother => ?_⟩
  rcases mem_append_unique.mp hother with hold | rfl
  · exact .inl hold
  · exact .inr h

theorem foldl {α : Type} {step : ClassReading → α → ClassReading}
    (h : ∀ (r : ClassReading) (a : α), r.draft.Converts (step r a).draft) (items : List α) (r : ClassReading) :
    r.draft.Converts (items.foldl step r).draft := by
  induction items generalizing r with
  | nil => exact refl _
  | cons a items ih => exact (h r a).trans (ih _)

end Converts

end Draft

namespace ClassReading

variable {r r' : ClassReading}

theorem state_object_converts (r : ClassReading) (object : Node) :
    r.draft.Converts (r.stateObject object).draft := by
  refine Draft.Converts.foldl (fun r entry => ?_) _ r
  unfold stateEntry
  split
  · exact .refl _
  · split
    · exact .refl _
    · exact .warn _ _ _

theorem constructor_statement_converts (r : ClassReading) (stmt : Node) :
    r.draft.Converts (r.constructorStatement stmt).draft := by
  unfold constructorStatement
  generalize (if stmt.kind == "expression_statement" then stmt.namedChildren.head? else none) =
    expression
  dsimp only
  split
  · exact .refl _
  · split
    · exact r.state_object_converts _
    · split
      · exact .refl _
      · exact .warn _ _ _

theorem effect_converts (r : ClassReading) (anchor : Nat) (text : String) :
    r.draft.Converts (r.effect anchor text).draft :=
  .need_hook _ (by decide)

theorem lifecycle_converts (r : ClassReading) (name : String) (member : Node) (anchor : Nat) :
    r.draft.Converts (r.lifecycle name member anchor).draft := by
  unfold lifecycle
  split
  · exact .refl _
  · split
    · exact r.effect_converts _ _
    · split
      · exact r.effect_converts _ _
      · split
        · dsimp only
          split
          · have hwarn (w : String) : r.draft.Converts (r.warn w).draft := .warn _ _ _
            exact (hwarn _).trans (effect_converts _ _ _)
          · exact r.effect_converts _ _
        · exact .warn _ _ _

theorem field_member_converts (r : ClassReading) (name : String) (member : Node) (anchor : Nat) :
    r.draft.Converts (r.fieldMember name member anchor).draft := by
  unfold fieldMember
  dsimp only
  split
  · exact .warn _ _ _
  · split
    · exact r.state_object_converts _
    · split
      · exact .refl _
      · exact .warn _ _ _

theorem method_converts {name : String} {m : Node} {anchor : Nat}
    (h : r.method name m anchor = .ok r') : r.draft.Converts r'.draft := by
  unfold method at h
  split at h
  · cases h
    exact .refl _
  · split at h
    · cases h
      exact .foldl constructor_statement_converts _ r
    · split at h
      · cases h
        exact .warn _ _ _
      · split at h
        · cases h
          exact r.lifecycle_converts _ _ _
        · split at h <;> cases h
          exact .refl _

theorem member_converts {m : Node} (h : r.member m = .ok r') : r.draft.Converts r'.draft := by
  unfold member at h
  dsimp only at h
  split at h
  · exact method_converts h
  · split at h <;> cases h
    · exact r.field_member_converts _ _ _
    · exact .refl _

/-- Reading the members of a class is part of its conversion. -/
theorem members_converts {members : List Node}
    (h : members.foldlM ClassReading.member r = .ok r') : r.draft.Converts r'.draft := by
  induction members generalizing r with
  | nil =>
      cases h
      exact .refl _
  | cons m members ih =>
      rw [List.foldlM_cons] at h
      cases hm : r.member m with
      | error failure =>
          rw [hm] at h
          cases h
      | ok next =>
          rw [hm] at h
          exact (member_converts hm).trans (ih h)

theorem lift_state_converts (r : ClassReading) (members : List Node) :
    r.draft.Converts (r.liftState members).2.2 := by
  unfold liftState
  split
  · exact .refl _
  · dsimp only
    split
    · exact (Draft.Converts.need_hook _ (by decide)).trans (.warn _ _ _)
    · exact .need_hook _ (by decide)

end ClassReading

namespace Draft

variable {d d' : Draft} {options : TransformSettings} {component : Component} {source : String}
  {root : Node} {site : Site} {place : FaultContext}

/-- The declaration of a converted class is written under its name. -/
theorem convert_class_cases {extract : Bool} {n : Node}
    (h : d.convertClass extract n place = .ok d') :
    ∃ base pieces, d.Converts base ∧ d' = base.emit n pieces := by
  unfold convertClass at h
  dsimp only at h
  generalize hmembers : List.foldlM ClassReading.member _ _ = reading at h
  cases reading with
  | error failure => cases h
  | ok r =>
      simp only [bind, Except.bind] at h
      split at h
      · cases h
      · cases h
        refine ⟨_, _, ?_, rfl⟩
        exact (ClassReading.members_converts hmembers).trans
          ((r.lift_state_converts _).trans (.of_hooks rfl rfl))

theorem convert_function_cases (d : Draft) (extract : Bool) (n fn : Node) :
    ∃ base pieces, d.Converts base ∧ d.convertFunction extract n fn = base.emit n pieces := by
  unfold convertFunction
  dsimp only
  split <;> refine ⟨_, _, ?_, rfl⟩ <;> exact .of_hooks rfl rfl

/-- The draft of a unit before its conversion. -/
def gatheredFor (component : Component) (source : String) (root : Node) (site : Site) : Draft :=
  (({ component := component, lines := Text.lines source } : Draft).collect root site).declareProps
    site.node

theorem of_site_eq :
    ofSite options component source root site place =
      match component.kind, site.node.functionOf with
      | .classBased, _ =>
        (gatheredFor component source root site).convertClass options.extractBusinessLogic
          site.node place
      | .functional, some fn =>
        .ok ((gatheredFor component source root site).convertFunction
          options.extractBusinessLogic site.node fn)
      | _, _ => .ok ((gatheredFor component source root site).carryOver site.statement) := rfl

/-- A unit is converted into a declaration of its own, or its statement is carried over. -/
theorem of_site_cases (h : ofSite options component source root site place = .ok d) :
    (∃ base pieces, (gatheredFor component source root site).Converts base ∧
      d = base.emit site.node pieces) ∨
    d = (gatheredFor component source root site).carryOver site.statement := by
  rw [of_site_eq] at h
  generalize gatheredFor component source root site = start at h ⊢
  split at h
  · exact .inl (convert_class_cases h)
  · cases h
    exact .inl (start.convert_function_cases _ _ _)
  · cases h
    exact .inr rfl

/-- The conversion of a unit leaves alone what has been gathered for its module. -/
theorem of_site_converts (h : ofSite options component source root site place = .ok d) :
    (gatheredFor component source root site).Converts d := by
  have hcases := of_site_cases h
  generalize gatheredFor component source root site = start at hcases ⊢
  rcases hcases with ⟨base, pieces, hbase, rfl⟩ | rfl
  · exact hbase.trans (.of_hooks rfl rfl)
  · exact .of_hooks rfl rfl

/-- What has been gathered is the same in all its parts. -/
theorem eq_of_gathered (h : d'.gathered = d.gathered) :
    d'.component = d.component ∧ d'.imports = d.imports ∧ d'.hasReactImport = d.hasReactImport ∧
      d'.reactBindings = d.reactBindings ∧ d'.types = d.types ∧ d'.helpers = d.helpers ∧
      d'.trailer = d.trailer := by
  unfold gathered at h
  injection h
  exact ⟨‹_›, ‹_›, ‹_›, ‹_›, ‹_›, ‹_›, ‹_›⟩

/-- What is gathered for the module of a unit.  The type of the props is added unless a kept type has
its name. -/
theorem gathered_for_eq (component : Component) (source : String) (root : Node) (site : Site) :
    ∃ props : List String,
      gatheredFor component source root site =
        { component := component
          lines := Text.lines source
          imports := (keptImports root site).map Node.text
          hasReactImport := (keptImports root site).any (importSource · == "react")
          reactBindings :=
            ((keptImports root site).filter (importSource · == "react")).flatMap importBindings
          trailer := ((otherStatements root site).filter (·.kind != "import_statement")).filter
            (isTrailer component.name) |>.map Node.text
          types := ((keptOf root site component.name).filter (·.isType)).map
            KeepCandidate.keptText ++ props
          typeNames := ((keptOf root site component.name).filter (·.isType)).flatMap
            KeepCandidate.names
          helpers := ((keptOf root site component.name).filter fun c => !c.isType).map
            KeepCandidate.keptText } ∧
      ((props = [] ∧ component.name ++ "Props" ∈
          ((keptOf root site component.name).filter (·.isType)).flatMap KeepCandidate.names) ∨
        (∃ text, props = [text]) ∧ component.name ++ "Props" ∉
          ((keptOf root site component.name).filter (·.isType)).flatMap KeepCandidate.names) := by
  unfold gatheredFor
  rw [collect_eq]
  simp only [List.nil_append, Bool.false_or, Draft.name]
  generalize keptOf root site component.name = kept
  generalize keptImports root site = imports
  generalize otherStatements root site = others
  rcases declare_props_cases _ site.node with ⟨hkept, heq⟩ | ⟨hnew, text, heq⟩
  · exact ⟨[], by rw [heq, List.append_nil], .inl ⟨rfl, hkept⟩⟩
  · exact ⟨[text], heq, .inr ⟨⟨text, rfl⟩, hnew⟩⟩

theorem component_gathered_for :
    (gatheredFor component source root site).component = component := by
  obtain ⟨props, heq, -⟩ := gathered_for_eq component source root site
  rw [heq]

theorem lines_gathered_for :
    (gatheredFor component source root site).lines = Text.lines source := by
  obtain ⟨props, heq, -⟩ := gathered_for_eq component source root site
  rw [heq]

/-- The draft of a unit's module is for that unit. -/
theorem of_site_component (h : ofSite options component source root site place = .ok d) :
    d.component = component :=
  (eq_of_gathered (of_site_converts h).gathered).1.trans component_gathered_for

end Draft

end ComponentMigration
