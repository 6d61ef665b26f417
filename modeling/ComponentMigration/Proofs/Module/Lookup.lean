import ComponentMigration.Proofs.Module.Keeping
import ComponentMigration.Proofs.Module.Transform
import ComponentMigration.Proofs.Source.Sites

/-!
# Which declaration a unit is transformed from

The search for a unit takes the first introduction of its name, or else the first function that the
file exports as its default (`found_for`), whatever name this function has.  So a unit is transformed
only if its file has one of the two, and a file that has neither gives an unsuccessful outcome
(`transforms_only_found_units`).
-/

namespace ComponentMigration

/-- The function that a statement exports as the default of its file. -/
def exportedFunction? (s : Statement) : Option Node :=
  if s.node.kind == "export_statement" && s.node.hasToken "default" then
    ((s.node.child? "declaration").or (s.node.child? "value")).filter Node.isFunction
  else none

/-- The places at which a unit is found: what introduces its name, or, if nothing does, a function
that the file exports as its default. -/
inductive FoundFor (root : Node) (name : String) : Site → Prop
  | introduced {i : Introduction} (hi : i ∈ introductions root) (hname : i.name? = some name) :
      FoundFor root name i.site
  | exported {s : Statement} {fn : Node} (hnone : ∀ i ∈ introductions root, i.name? ≠ some name)
      (hs : s ∈ statements root) (hfn : exportedFunction? s = some fn) :
      FoundFor root name ⟨s, fn⟩

section Finding

variable {root : Node} {name : String} {site : Site}

theorem default_export_eq (root : Node) :
    defaultExport root =
      (statements root).findSome? fun s => (exportedFunction? s).map (⟨s, ·⟩) := by
  unfold defaultExport exportedFunction?
  congr 1
  funext s
  split <;> rfl

theorem find_declaration_eq_none :
    findDeclaration root name = none ↔ ∀ i ∈ introductions root, i.name? ≠ some name := by
  rw [find_declaration_eq, Option.map_eq_none_iff, List.find?_eq_none]
  simp only [beq_iff_eq, ne_eq]

theorem found_for (h : (findDeclaration root name).or (defaultExport root) = some site) :
    FoundFor root name site := by
  rcases Option.or_eq_some_iff.mp h with hfound | ⟨hnone, hdefault⟩
  · rw [find_declaration_eq] at hfound
    obtain ⟨i, hi, rfl⟩ := Option.map_eq_some_iff.mp hfound
    have hname := List.find?_some hi
    exact .introduced (List.mem_of_find?_eq_some hi) (beq_iff_eq.mp hname)
  · rw [default_export_eq] at hdefault
    obtain ⟨s, hs, hsite⟩ := List.exists_of_findSome?_eq_some hdefault
    obtain ⟨fn, hfn, rfl⟩ := Option.map_eq_some_iff.mp hsite
    exact .exported (find_declaration_eq_none.1 hnone) hs hfn

theorem not_found (hnone : ∀ i ∈ introductions root, i.name? ≠ some name)
    (hdefault : ∀ s ∈ statements root, exportedFunction? s = none) :
    (findDeclaration root name).or (defaultExport root) = none := by
  rw [find_declaration_eq_none.2 hnone, Option.none_or, default_export_eq, List.findSome?_eq_none_iff]
  intro s hs
  rw [hdefault s hs, Option.map_none]

end Finding

/-- The message about a unit that is not found. -/
def notFoundMessage (component : Component) : String :=
  "Declaration of " ++ component.name ++ " not found in " ++ component.filePath

section Runs

variable {context : RunContext} {s t : RunState} {component : Component} {source : Run String}
  {outcome : TransformOutcome} {After : (String → Nat) → RunState → Prop} {f : Fault}

/-- A fault is settled with the message that it has. -/
theorem contain_settle_fault {place : FaultContext} {log : ErrorLog} {i : Nat}
    (hcancelled : f.cls ≠ .cancelled) (htimeout : f.cls ≠ .phaseTimeout) :
    contain component (settle place (fun f _ => failedTransform component f.message) log i
      (.error (.fault f))) = .ok (failedTransform component f.message) := by
  have hproceeds : (Failure.fault f).isCancellation = false := beq_false_of_ne hcancelled
  rw [settle, hproceeds, if_neg Bool.false_ne_true]
  dsimp only
  split
  · rfl
  · have hcls : (log.stamp ((Failure.fault f).classifiedAt place i)).cls = f.cls := rfl
    rw [contain, hcls, if_neg (by simp [hcancelled, htimeout])]
    rfl

/-- A fault that every attempt meets comes back as an unsuccessful outcome with its message, unless it
is a cancellation or an exceeded deadline. -/
theorem Run.transform_from_fails {text : String}
    (h : SourceScript [component] (fun _ => source) context (fun _ _ => .ok text) After)
    (htext : ∀ s, (Run.transformText component text).exec context s = (.error (.fault f), s))
    (hcancelled : f.cls ≠ .cancelled) (htimeout : f.cls ≠ .phaseTimeout)
    (hs : After (fun _ => 0) s) (hfree : s.IsFree) :
    ∃ t, (Run.transformFrom component source).exec context s =
      (.ok (failedTransform component f.message), t) := by
  choose result hexec _ using Run.exec_transform_text context component
  have hresult : result text = .error (.fault f) :=
    (congrArg Prod.fst (hexec text s)).symm.trans (congrArg Prod.fst (htext s))
  have hstart : After (Function.update (fun _ => 0) component.id (0 + 0)) s ∧
      s.token = s.token := by
    rw [Nat.add_zero, Function.update_eq_self]
    exact ⟨hs, rfl⟩
  -- Every attempt reads the same text, so whichever is the last one, it fails with `f`.
  obtain ⟨k, log, place, t, -, -, -, hsettled⟩ := Run.transform_from_settles
    (h.attempt_script (List.mem_singleton_self component) hexec (fun _ => 0) s.token) hstart hfree
  refine ⟨t, hsettled.trans ?_⟩
  dsimp only
  rw [hresult, contain_settle_fault hcancelled htimeout]

/-- A text in which a unit is not found is told so. -/
theorem Run.exec_transform_text_of_not_found {text : String} {language : Language}
    {document : Document}
    (hlanguage : Language.ofPath? (Path.ofText component.absolutePath) = some language)
    (hdocument : document = Document.parse context.grammar language
      (Path.ofText component.absolutePath).toText text)
    (herrors : document.hasErrors = false)
    (hnone : (findDeclaration document.root component.name).or (defaultExport document.root) =
      none) :
    ∃ place, ∀ s, (Run.transformText component text).exec context s =
      (.error (.fault (Fault.of .transformation (notFoundMessage component) place)), s) := by
  obtain ⟨place, hplace⟩ : ∃ place, ∀ s, (Run.place component.id (some "transform")
      component.filePath none).exec context s = (.ok place, s) := ⟨_, fun _ => rfl⟩
  refine ⟨place, fun s => ?_⟩
  have hparse : (Run.parseAs (Path.ofText component.absolutePath) text).exec context s =
      (.ok document, s) := by
    rw [Run.parseAs, hlanguage, hdocument]
    rfl
  rw [Run.exec_transform_text_of_parse (hplace s) hparse, herrors, if_neg Bool.false_ne_true, hnone]
  rfl

/-- A successful outcome is written from a text that was read and in which the unit is found. -/
def TransformOutcome.IsOfFound (outcome : TransformOutcome) (context : RunContext)
    (component : Component) (source : Run String) : Prop :=
  outcome.success = true →
    ∃ text document site d, (∃ u v, source.exec context u = (.ok text, v)) ∧
      outcome.IsWritten context component text document site d ∧
      FoundFor document.root component.name site

theorem Run.transform_from_is_of_found (context : RunContext) (component : Component)
    (source : Run String) (s : RunState) :
    (Run.transformFrom component source).Meets context s
      (fun outcome _ => outcome.IsOfFound context component source) fun _ => True := by
  refine Run.transform_from_meets_of_texts
    (R := fun text => ∃ u v, source.exec context u = (.ok text, v)) (fun s => ?_)
    (fun message hsuccess => nomatch hsuccess) (fun text hread s => ?_) s
  · rw [Run.Meets]
    rcases hexec : source.exec context s with ⟨text | text, v⟩
    · trivial
    · exact ⟨s, v, hexec⟩
  · rw [Run.Meets]
    rcases hexec : (Run.transformText component text).exec context s with ⟨outcome | outcome, v⟩
    · trivial
    · obtain ⟨document, site, d, hwritten⟩ := Run.transform_text_written hexec
      exact fun _ => ⟨text, document, site, d, hread, hwritten, found_for hwritten.found⟩

end Runs

/-- A given text is read at every attempt. -/
theorem given_source_script {context : RunContext} (hobservers : context.observers = [])
    (component : Component) (text : String) :
    SourceScript [component] (fun _ => Run.unitText component (some text)) context
      (fun _ _ => .ok text) fun _ _ => True where
  call _ _ _ s _ := ⟨s, rfl, trivial, rfl, rfl, rfl⟩
  handled _ _ _ _ _ := trivial
  observed _ hobserve := absurd (hobservers ▸ hobserve) List.not_mem_nil

/-- A file with one exported statement. -/
def headerTree (declaration : Node) : Node :=
  .mk { kind := "program" }
    [.mk { kind := "export_statement" }
      [.mk { kind := "default", named := false } [], declaration]]

/-- A context whose grammar takes every text for this file. -/
def headerContext (declaration : Node) : RunContext :=
  { grammar := fun _ _ => headerTree declaration }

/-- A unit that was found in an earlier text of its file. -/
def headerUnit : Component :=
  { id := "src/Header.tsx:Header", name := "Header", filePath := "src/Header.tsx"
    absolutePath := "/proj/src/Header.tsx" }

/-- A class that the file exports as its default. -/
def headerClass : Node :=
  .mk { kind := "class_declaration", field := "declaration" }
    [.mk { kind := "type_identifier", field := "name", text := "Other" } [],
      .mk { kind := "class_body", field := "body" } []]

/-- A function that the file exports as its default. -/
def headerFunction : Node :=
  .mk { kind := "function_declaration", field := "declaration" }
    [.mk { kind := "identifier", field := "name", text := "Renamed" } [],
      .mk { kind := "formal_parameters", field := "parameters", text := "()" } [],
      .mk { kind := "statement_block", field := "body" } []]

/-- A unit is transformed successfully only from a text that was read for it and in which it is found:
its name is introduced there, or else the file exports a function as its default.  A text without
unreadable places that has neither gives an unsuccessful outcome with a message. -/
theorem transforms_only_found_units {context : RunContext} {component : Component}
    {given : Option String} {s : RunState} :
    (∀ outcome t, (Run.transformUnit component given).exec context s = (.ok outcome, t) →
      outcome.IsOfFound context component (Run.unitText component given)) ∧
    ∀ text language document After,
      SourceScript [component] (fun _ => Run.unitText component given) context
        (fun _ _ => .ok text) After →
      After (fun _ => 0) s → s.IsFree →
      Language.ofPath? (Path.ofText component.absolutePath) = some language →
      document = Document.parse context.grammar language
        (Path.ofText component.absolutePath).toText text →
      document.hasErrors = false →
      (∀ i ∈ introductions document.root, i.name? ≠ some component.name) →
      (∀ stmt ∈ statements document.root, exportedFunction? stmt = none) →
      ∃ t, (Run.transformUnit component given).exec context s =
        (.ok (failedTransform component (notFoundMessage component)), t) := by
  constructor
  · intro outcome t hexec
    have hmeets := Run.transform_from_is_of_found context component (Run.unitText component given) s
    rw [Run.transformUnit] at hexec
    rwa [Run.Meets, hexec] at hmeets
  · intro text language document After hscript hs hfree hlanguage hdocument herrors hnone hdefault
    obtain ⟨place, htext⟩ := Run.exec_transform_text_of_not_found hlanguage hdocument herrors
      (not_found hnone hdefault)
    have hcancelled : FaultClass.transformation ≠ .cancelled := by decide
    have htimeout : FaultClass.transformation ≠ .phaseTimeout := by decide
    exact Run.transform_from_fails hscript htext hcancelled htimeout hs hfree

theorem transforms_only_found_units_class :
    ∃ t, (Run.transformUnit headerUnit (some "export default class Other \x7b\x7d")).exec
      (headerContext headerClass) {} =
      (.ok (failedTransform headerUnit "Declaration of Header not found in src/Header.tsx"), t) := by
  obtain ⟨-, hfails⟩ := @transforms_only_found_units (headerContext headerClass) headerUnit
    (some "export default class Other \x7b\x7d") {}
  exact hfails _ .tsx _ _ (given_source_script rfl _ _) trivial ⟨rfl, rfl, rfl⟩
    (by decide) rfl (by decide) (by decide) (by decide)

/-- The file introduces nothing but the function that it exports as its default, under a name of its
own, and the unit is transformed from it. -/
theorem transforms_renamed_default_export :
    (Document.parse (headerContext headerFunction).grammar .tsx "src/Header.tsx"
      "export default function Renamed() \x7b\x7d").hasErrors = false ∧
    (introductions (headerTree headerFunction)).map Introduction.name? = [some "Renamed"] ∧
    (statements (headerTree headerFunction)).map (fun stmt =>
      (exportedFunction? stmt).bind declaredName) = [some "Renamed"] ∧
    ∃ outcome t, (Run.transformUnit headerUnit
        (some "export default function Renamed() \x7b\x7d")).exec
      (headerContext headerFunction) {} = (.ok outcome, t) ∧ outcome.success = true :=
  ⟨by decide, by decide, by decide, _, _, rfl, rfl⟩

end ComponentMigration
