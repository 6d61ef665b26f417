import Mathlib.Tactic.Choose
import ComponentMigration.Proofs.Fault.Recovery
import ComponentMigration.Structure.Parse

/-!
# Parsing a unit whatever its file holds

Attempts to read a file are seen as the outcomes of successive lookups of its size and of successive
reads of its text.  What an attempt to parse comes to is then a document or one of five problems
(`FileReadings.attempt`), and only an unreadable file is tried again.  `parse_from_reports` says that
the unit always comes to an outcome, what the outcome tells, and what is recorded on the way.
-/

namespace ComponentMigration

/-- An error of the system, with which looking at a file may end. -/
def Trouble.IsOfFile (t : Trouble) : Prop := t.sort.family = .system ∨ t.sort.family = .timeout

/-- What successive attempts to read a file meet: its size, and its text if it is taken. -/
structure FileReadings where
  size : Nat → Except Trouble Nat
  text : Nat → Except Trouble String
  size_trouble : ∀ n t, size n = .error t → t.IsOfFile
  text_trouble : ∀ n t, text n = .error t → t.sort = .undecodable ∨ t.IsOfFile

/-- What may keep a unit from being parsed. -/
inductive ParseProblem where
  | unreadable
  | undecodable
  | tooLarge
  | unsupported
  | broken
  deriving DecidableEq, Repr

namespace ParseProblem

/-- The class of the faults that tell a problem. -/
def faultClass : ParseProblem → FaultClass
  | .unreadable => .fileSystem
  | .unsupported => .configuration
  | _ => .parsing

/-- Whether somebody has to look at a unit with a problem. -/
def needsReview : ParseProblem → Bool
  | .undecodable | .broken => true
  | _ => false

/-- A fault that tells a problem; syntax errors that it lists are texts. -/
structure ToldBy (p : ParseProblem) (f : Fault) : Prop where
  cls : f.cls = p.faultClass
  category : f.category = p.faultClass.category
  recoverable : f.recoverable = (p != .tooLarge)
  listed : ∀ v, f.context.data.get? "syntax_errors" = some v → ∃ texts, v = Json.texts texts

end ParseProblem

/-- The problem of which a trouble with a file tells. -/
def Trouble.parseProblem (t : Trouble) : ParseProblem :=
  if t.sort = .undecodable then .undecodable else .unreadable

/-- The document that a text of a unit is, if it can be read. -/
def Component.documentOf (component : Component) (grammar : Grammar) (text : String) :
    Except ParseProblem Document :=
  let path := Path.ofText component.absolutePath
  match Language.ofPath? path with
  | none => .error .unsupported
  | some language =>
    let document := Document.parse grammar language path.toText text
    if document.hasErrors then .error .broken else .ok document

theorem Component.document_of_eq_ok_iff {component : Component} {grammar : Grammar} {text : String} :
    (∃ document, component.documentOf grammar text = .ok document) ↔
      ∃ language, Language.ofPath? (Path.ofText component.absolutePath) = some language ∧
        ∀ n ∈ (grammar language text).walk, n.isBroken = false := by
  unfold documentOf
  dsimp only
  cases hlanguage : Language.ofPath? (Path.ofText component.absolutePath) with
  | none => simp
  | some language =>
      have hwhole : (Document.parse grammar language (Path.ofText component.absolutePath).toText
          text).hasErrors = false ↔ ∀ n ∈ (grammar language text).walk, n.isBroken = false := by
        simp [Document.hasErrors, Document.brokenNodes, Document.parse]
      dsimp only
      split
      · next hbroken =>
          refine iff_of_false (fun ⟨_, h⟩ => nomatch h) ?_
          rintro ⟨_, ⟨⟩, h⟩
          exact absurd (hwhole.mpr h) (by simp [hbroken])
      · next hread =>
          exact iff_of_true ⟨_, rfl⟩ ⟨language, rfl, hwhole.mp (Bool.eq_false_iff.mpr hread)⟩

namespace FileReadings

variable (r : FileReadings) (limit : Quantity)

/-- An attempt finds a file that is not too large. -/
def Opens (n : Nat) : Prop := ∃ size, r.size n = .ok size ∧ limit.isLess (.whole size) = false

/-- The text that an attempt gets: the given one or else that of the file. -/
def textAt (given : Option String) (n : Nat) : Except ParseProblem String :=
  match given with
  | some text => if limit.isLess (.whole (Text.byteCount text)) then .error .tooLarge else .ok text
  | none =>
    match r.size n with
    | .error _ => .error .unreadable
    | .ok size =>
      if limit.isLess (.whole size) then .error .tooLarge
      else (r.text n).mapError Trouble.parseProblem

section TextAt

variable {r limit} {n size : Nat}

theorem text_at_of_unsized {t : Trouble} (hsize : r.size n = .error t) :
    r.textAt limit none n = .error .unreadable := by
  unfold textAt
  simp [hsize]

theorem text_at_of_large (hsize : r.size n = .ok size)
    (hlarge : limit.isLess (.whole size) = true) : r.textAt limit none n = .error .tooLarge := by
  unfold textAt
  simp [hsize, hlarge]

theorem text_at_of_fits (hsize : r.size n = .ok size)
    (hfits : limit.isLess (.whole size) = false) :
    r.textAt limit none n = (r.text n).mapError Trouble.parseProblem := by
  unfold textAt
  simp [hsize, hfits]

end TextAt

/-- What an attempt to parse a unit comes to. -/
def attempt (grammar : Grammar) (component : Component) (given : Option String) (n : Nat) :
    Except ParseProblem Document := do
  component.documentOf grammar (← r.textAt limit given n)

/-- An attempt that gets a text comes to what the text is. -/
theorem attempt_of_text {given : Option String} {n : Nat} {text : String}
    (h : r.textAt limit given n = .ok text) (grammar : Grammar) (component : Component) :
    r.attempt limit grammar component given n = component.documentOf grammar text := by
  rw [attempt, h]
  exact pure_bind text _

/-- An attempt succeeds with a text in a known language whose tree has no broken node. -/
theorem attempt_eq_ok_iff {grammar : Grammar} {component : Component} {given : Option String}
    {n : Nat} :
    (∃ document, r.attempt limit grammar component given n = .ok document) ↔
      ∃ text language, r.textAt limit given n = .ok text ∧
        Language.ofPath? (Path.ofText component.absolutePath) = some language ∧
        ∀ n ∈ (grammar language text).walk, n.isBroken = false := by
  cases htext : r.textAt limit given n with
  | error problem =>
      rw [attempt, htext]
      exact iff_of_false (fun ⟨_, h⟩ => nomatch h) fun ⟨_, _, h, _⟩ => nomatch h
  | ok text =>
      rw [r.attempt_of_text limit htext, component.document_of_eq_ok_iff]
      refine ⟨fun ⟨language, h⟩ => ⟨text, language, rfl, h⟩, ?_⟩
      rintro ⟨_, language, ⟨⟩, h⟩
      exact ⟨language, h⟩

end FileReadings

/-- Reading a file comes to readings.  `After n` holds of the states after `n` attempts to read it,
and `Opened n` where attempt number `n` found a file that is not too large and has not taken its text
yet.  Neither reading nor an observer touches the error log or the delays waited. -/
structure FileScript (file : SourceFile) (context : RunContext) (limit : Quantity)
    (r : FileReadings) (Opened After : Nat → RunState → Prop) : Prop where
  size : ∀ n s, After n s → ∃ t,
    file.size.exec context s = ((r.size (n + 1)).mapError Failure.trouble, t) ∧
    (r.Opens limit (n + 1) → Opened (n + 1) t) ∧ (¬ r.Opens limit (n + 1) → After (n + 1) t) ∧
    t.log = s.log ∧ t.slept = s.slept
  text : ∀ n s, r.Opens limit (n + 1) → Opened (n + 1) s → ∃ t,
    file.text.exec context s = ((r.text (n + 1)).mapError Failure.trouble, t) ∧
    After (n + 1) t ∧ t.log = s.log ∧ t.slept = s.slept
  handled : ∀ n s log slept, After n s → After n { s with log := log, slept := slept }
  observed : ∀ observe ∈ context.observers, ∀ n f s, After n s →
    After n (observe f s) ∧ (observe f s).log = s.log ∧ (observe f s).slept = s.slept

/-- A value, or a fault that tells a problem, as the run of an attempt ends with it. -/
inductive ParseEnds {α β : Type} (value : α → β) : Except ParseProblem α → Except Failure β → Prop
  | value (a : α) : ParseEnds value (.ok a) (.ok (value a))
  | problem {p : ParseProblem} {f : Fault} (htold : p.ToldBy f) :
      ParseEnds value (.error p) (.error (.fault f))

namespace ParseProblem

variable {p : ParseProblem} {f : Fault} {log : ErrorLog} {place : FaultContext} {i : Nat}

/-- A fault without details tells the problem of its class. -/
theorem ToldBy.of_plain (message : String) (cause : Option Cause) (hp : p ≠ .tooLarge) :
    p.ToldBy (Fault.of p.faultClass message {} cause) where
  cls := rfl
  category := rfl
  recoverable := (bne_iff_ne.mpr hp).symm
  listed := nofun

theorem ToldBy.of_too_large (message : String) :
    tooLarge.ToldBy (Fault.of .parsing message {} none false) where
  cls := rfl
  category := rfl
  recoverable := rfl
  listed := nofun

/-- A classified fault tells the same problem. -/
theorem ToldBy.classified (h : p.ToldBy f) (hplace : place.data = []) :
    p.ToldBy (Failure.classifiedAt (.fault f) place i) where
  cls := h.cls
  category := h.category
  recoverable := h.recoverable
  listed v hv := by
    refine h.listed v (Eq.trans ?_ hv)
    rw [Failure.classifiedAt, hplace]
    exact (Assoc.get?_set_of_ne _ _ (by decide)).symm

theorem ToldBy.stamp (h : p.ToldBy f) : p.ToldBy (log.stamp f) :=
  ⟨h.cls, h.category, h.recoverable, h.listed⟩

theorem ToldBy.not_cancelled (h : p.ToldBy f) : f.cls ≠ .cancelled := by
  rw [h.cls]
  cases p <;> decide

/-- A failed attempt is on record. -/
theorem ToldBy.recorded {α : Type} (h : p.ToldBy f) :
    recordedFault (α := α) place i (.error (.fault f)) =
      some (Failure.classifiedAt (.fault f) place i) :=
  if_neg (by simpa [Failure.isCancellation] using h.not_cancelled)

/-- Only an unreadable file is tried again. -/
theorem ToldBy.is_transient_iff (h : p.ToldBy f) : f.IsTransient ↔ p = .unreadable := by
  rw [Fault.IsTransient, h.recoverable, h.category]
  cases p <;> decide

/-- What nobody has to look at is not absorbed. -/
theorem ToldBy.absorption (h : p.ToldBy f) :
    (p.needsReview = true → ∃ r, f.absorption = some r ∧ r.requiresManualReview = true) ∧
      (p.needsReview = false → f.absorption = none) := by
  unfold Fault.absorption
  rw [h.recoverable, h.category]
  cases p with
  | unreadable => exact ⟨nofun, fun _ => rfl⟩
  | unsupported => exact ⟨nofun, fun _ => rfl⟩
  | tooLarge => exact ⟨nofun, fun _ => rfl⟩
  | undecodable => exact ⟨fun _ => ⟨_, rfl, rfl⟩, nofun⟩
  | broken => exact ⟨fun _ => ⟨_, rfl, rfl⟩, nofun⟩

end ParseProblem

section Parsing

variable {component : Component} {file : SourceFile} {context : RunContext} {limit : Quantity}
  {r : FileReadings} {Opened After : Nat → RunState → Prop} {given : Option String}
  {n : Nat} {s : RunState}

/-- What comes of a text depends on nothing that changes during a run. -/
theorem exec_parse_text (context : RunContext) (component : Component) (text : String) :
    ∃ outcome, ParseEnds (analyzeDocument component) (component.documentOf context.grammar text) outcome ∧
      ∀ s, (Run.parseText component text).exec context s = (outcome, s) := by
  unfold Component.documentOf
  dsimp only
  cases hlanguage : Language.ofPath? (Path.ofText component.absolutePath) with
  | none =>
      obtain ⟨message, hparse⟩ : ∃ message, ∀ s,
          (Run.parseAs (Path.ofText component.absolutePath) text).exec context s =
            (.error (.fault (Fault.of .configuration message)), s) := by
        refine ⟨"Unsupported file type: " ++ (Path.ofText component.absolutePath).extension,
          fun s => ?_⟩
        rw [Run.parseAs, hlanguage]
        rfl
      refine ⟨.error (.fault (Fault.of .configuration message)),
        .problem (.of_plain (p := .unsupported) message none (by decide)), fun s => ?_⟩
      rw [Run.parseText, Run.exec_bind, hparse]
  | some language =>
      obtain ⟨document, hdocument⟩ : ∃ document, document = Document.parse context.grammar language
        (Path.ofText component.absolutePath).toText text := ⟨_, rfl⟩
      have hparse : ∀ s, (Run.parseAs (Path.ofText component.absolutePath) text).exec context s =
          (.ok document, s) := by
        intro s
        rw [Run.parseAs, hlanguage, hdocument]
        rfl
      simp only [Run.parseText, Run.exec_bind_of_ok (hparse _), ← hdocument]
      split
      · next hbroken =>
          refine ⟨.error (.fault _), .problem ⟨rfl, rfl, rfl, ?_⟩, fun s => rfl⟩
          intro v hv
          cases hv
          exact ⟨_, rfl⟩
      · exact ⟨_, .value _, fun s => rfl⟩

/-- The text of a file is taken unless its size is too large. -/
theorem exec_take (hlimit : context.settings.parser.maxFileSize = .ok limit) (file : SourceFile)
    (size : Nat) :
    ∃ message, ∀ s t, file.size.exec context s = (.ok size, t) →
      file.take.exec context s =
        (if limit.isLess (.whole size) then Run.fault (Fault.of .parsing message {} none false)
        else file.text : Run String).exec context t := by
  refine ⟨"File too large (" ++ toString size ++ " bytes)", fun s t hsize => ?_⟩
  rw [SourceFile.take, Run.exec_bind_of_ok hsize, Run.exec_bind, Run.exec_read]
  dsimp only
  rw [hlimit, Run.exec_bind, Run.exec_use_ok]

/-- A trouble with a file is told as a fault. -/
theorem exec_read_source_of_trouble (context : RunContext) {t : Trouble}
    (ht : t.sort = .undecodable ∨ t.IsOfFile) (component : Component) (file : SourceFile) :
    ∃ f, t.parseProblem.ToldBy f ∧ ∀ s u, file.take.exec context s = (.error (.trouble t), u) →
      (Run.readSource component file).exec context s = (.error (.fault f), u) := by
  obtain ⟨decoding, reading, htell⟩ : ∃ decoding reading, ∀ s u,
      file.take.exec context s = (.error (.trouble t), u) →
        (Run.readSource component file).exec context s =
          (if t.sort == .undecodable then
            Run.fault (Fault.of .parsing decoding {} (some (.trouble t.sort)))
          else if t.sort.family == .system || t.sort.family == .timeout then
            Run.fault (Fault.of .fileSystem reading {} (some (.trouble t.sort)))
          else Run.trouble t : Run String).exec context u :=
    ⟨_, _, fun s u htake => by rw [Run.readSource, Run.exec_bind, Run.exec_attempt, htake]⟩
  unfold Trouble.parseProblem
  by_cases hundecodable : t.sort = .undecodable
  · rw [if_pos hundecodable]
    refine ⟨_, .of_plain decoding (some (.trouble t.sort)) (by decide), fun s u htake => ?_⟩
    rw [htell s u htake, if_pos (beq_iff_eq.mpr hundecodable)]
    rfl
  · have hfamily : (t.sort.family == .system || t.sort.family == .timeout) = true := by
      simpa [Trouble.IsOfFile] using ht.resolve_left hundecodable
    rw [if_neg hundecodable]
    refine ⟨_, .of_plain reading (some (.trouble t.sort)) (by decide), fun s u htake => ?_⟩
    rw [htell s u htake, if_neg (by simpa using hundecodable), if_pos hfamily]
    rfl

/-- The text of a file that is not too large is taken with what reading it comes to. -/
theorem FileScript.exec_take_text (h : FileScript file context limit r Opened After)
    (hlimit : context.settings.parser.maxFileSize = .ok limit) {n : Nat}
    (hopens : r.Opens limit (n + 1)) (s : RunState) (hs : After n s) :
    ∃ t, file.take.exec context s = ((r.text (n + 1)).mapError Failure.trouble, t) ∧
      After (n + 1) t ∧ t.log = s.log ∧ t.slept = s.slept := by
  obtain ⟨u, hlooked, hopened, -, hlog, hslept⟩ := h.size n s hs
  obtain ⟨t, htext, hafter, hlog', hslept'⟩ := h.text n u hopens (hopened hopens)
  obtain ⟨size, hsize, hfits⟩ := hopens
  obtain ⟨message, htake⟩ := exec_take hlimit file size
  refine ⟨t, ?_, hafter, hlog'.trans hlog, hslept'.trans hslept⟩
  rw [htake s u (by rw [hlooked, hsize]; rfl), hfits]
  exact htext

/-- Taking the text of a file comes to what the file is told to hold. -/
theorem FileScript.exec_read_source (h : FileScript file context limit r Opened After)
    (hlimit : context.settings.parser.maxFileSize = .ok limit) (component : Component) (n : Nat) :
    ∃ source, ParseEnds id (r.textAt limit none (n + 1)) source ∧ ∀ s, After n s → ∃ t,
      (Run.readSource component file).exec context s = (source, t) ∧ After (n + 1) t ∧
      t.log = s.log ∧ t.slept = s.slept := by
  cases hsize : r.size (n + 1) with
  | error trouble =>
      rw [FileReadings.text_at_of_unsized hsize]
      obtain ⟨f, htold, hread⟩ := exec_read_source_of_trouble context
        (Or.inr (r.size_trouble _ _ hsize)) component file
      have hproblem : trouble.parseProblem = .unreadable := if_neg fun hsort => by
        have hfamily := r.size_trouble _ _ hsize
        simp [Trouble.IsOfFile, hsort, TroubleSort.family] at hfamily
      refine ⟨.error (.fault f), .problem (hproblem ▸ htold), fun s hs => ?_⟩
      obtain ⟨t, hlooked, -, hclosed, hlog, hslept⟩ := h.size n s hs
      have hnot : ¬ r.Opens limit (n + 1) := by simp [FileReadings.Opens, hsize]
      refine ⟨t, hread s t ?_, hclosed hnot, hlog, hslept⟩
      rw [SourceFile.take, Run.exec_bind, hlooked, hsize]
      rfl
  | ok size =>
      obtain ⟨message, htake⟩ := exec_take hlimit file size
      cases hlarge : limit.isLess (.whole size) with
      | true =>
          rw [FileReadings.text_at_of_large hsize hlarge]
          refine ⟨.error (.fault _), .problem (.of_too_large message), fun s hs => ?_⟩
          obtain ⟨t, hlooked, -, hclosed, hlog, hslept⟩ := h.size n s hs
          have hnot : ¬ r.Opens limit (n + 1) := by simp [FileReadings.Opens, hsize, hlarge]
          refine ⟨t, ?_, hclosed hnot, hlog, hslept⟩
          rw [Run.readSource, Run.exec_bind, Run.exec_attempt, htake s t (by rw [hlooked, hsize]; rfl),
            hlarge]
          rfl
      | false =>
          rw [FileReadings.text_at_of_fits hsize hlarge]
          have hexec := h.exec_take_text hlimit ⟨size, hsize, hlarge⟩
          cases htext : r.text (n + 1) with
          | ok text =>
              refine ⟨.ok text, .value text, fun s hs => ?_⟩
              obtain ⟨t, htaken, hafter⟩ := hexec s hs
              refine ⟨t, ?_, hafter⟩
              rw [Run.readSource, Run.exec_bind, Run.exec_attempt, htaken, htext]
              rfl
          | error trouble =>
              obtain ⟨f, htold, hread⟩ := exec_read_source_of_trouble context
                (r.text_trouble _ _ htext) component file
              refine ⟨.error (.fault f), .problem htold, fun s hs => ?_⟩
              obtain ⟨t, htaken, hafter⟩ := hexec s hs
              exact ⟨t, hread s t (by rw [htaken, htext]; rfl), hafter⟩

/-- The number of reads of the file that some attempts come to: none if the text is given. -/
def readsOf (given : Option String) (attempts : Nat) : Nat := if given.isSome then 0 else attempts

theorem FileScript.exec_source_of (h : FileScript file context limit r Opened After)
    (hlimit : context.settings.parser.maxFileSize = .ok limit) (component : Component)
    (given : Option String) (n : Nat) :
    ∃ source, ParseEnds id (r.textAt limit given (n + 1)) source ∧
      ∀ s, After (readsOf given n) s → ∃ t,
        (Run.sourceOf component file given).exec context s = (source, t) ∧
        After (readsOf given (n + 1)) t ∧ t.log = s.log ∧ t.slept = s.slept := by
  cases given with
  | none => exact h.exec_read_source hlimit component n
  | some text =>
      have hexec : ∀ s, (Run.sourceOf component file (some text)).exec context s =
          (if limit.isLess (.whole (Text.byteCount text)) then
            Run.fault (Fault.of .parsing "File too large" {} none false)
          else return text : Run String).exec context s := by
        intro s
        rw [Run.sourceOf, Run.exec_bind, Run.exec_read]
        dsimp only
        rw [hlimit, Run.exec_bind, Run.exec_use_ok]
      simp only [hexec, FileReadings.textAt]
      split
      · exact ⟨_, .problem (.of_too_large _), fun s hs => ⟨s, rfl, hs, rfl, rfl⟩⟩
      · exact ⟨_, .value text, fun s hs => ⟨s, rfl, hs, rfl, rfl⟩⟩

/-- An attempt to parse a unit comes to what its readings come to. -/
theorem FileScript.exec_parse_once (h : FileScript file context limit r Opened After)
    (hlimit : context.settings.parser.maxFileSize = .ok limit) (component : Component)
    (given : Option String) (n : Nat) :
    ∃ outcome,
      ParseEnds (analyzeDocument component)
        (r.attempt limit context.grammar component given (n + 1)) outcome ∧
      ∀ s, After (readsOf given n) s → ∃ t,
        (Run.parseOnce component file given).exec context s = (outcome, t) ∧
        After (readsOf given (n + 1)) t ∧ t.log = s.log ∧ t.slept = s.slept := by
  obtain ⟨source, hsource, hread⟩ := h.exec_source_of hlimit component given n
  cases htext : r.textAt limit given (n + 1) with
  | ok text =>
      rw [htext] at hsource
      cases hsource
      obtain ⟨outcome, houtcome, hparse⟩ := exec_parse_text context component text
      refine ⟨outcome, by rwa [r.attempt_of_text limit htext], fun s hs => ?_⟩
      obtain ⟨t, hexec, hafter⟩ := hread s hs
      exact ⟨t, by rw [Run.parseOnce, Run.exec_bind_of_ok hexec]; exact hparse t, hafter⟩
  | error p =>
      rw [htext] at hsource
      cases hsource with
      | @problem _ f htold =>
          refine ⟨.error (.fault f), by rw [FileReadings.attempt, htext]; exact .problem htold,
            fun s hs => ?_⟩
          obtain ⟨t, hexec, hafter⟩ := hread s hs
          exact ⟨t, by rw [Run.parseOnce, Run.exec_bind, hexec], hafter⟩

/-- The attempts to parse a unit as the outcomes of an operation. -/
theorem FileScript.outcome_script (h : FileScript file context limit r Opened After)
    (hlimit : context.settings.parser.maxFileSize = .ok limit) (component : Component)
    (given : Option String) :
    ∃ outcomes,
      OutcomeScript (Run.parseOnce component file given) context outcomes
        (fun n => After (readsOf given n)) ∧
      ∀ n, 1 ≤ n → ParseEnds (analyzeDocument component)
        (r.attempt limit context.grammar component given n) (outcomes n) := by
  choose outcome houtcome hexec using h.exec_parse_once hlimit component given
  refine ⟨fun n => outcome (n - 1), ⟨fun n s hs => hexec n s hs, fun n => h.handled _,
    fun observe hobserve n f s => h.observed observe hobserve _ f s⟩, fun n hn => ?_⟩
  have hlast := houtcome (n - 1)
  rwa [Nat.sub_add_cancel hn] at hlast

/-- What an outcome tells of the last attempt. -/
def ParseOutcome.Tells (outcome : ParseOutcome) (component : Component) :
    Except ParseProblem Document → Prop
  | .ok document => outcome = analyzeDocument component document
  | .error problem => outcome.success = false ∧ outcome.errors ≠ [] ∧
      outcome.requiresManualReview = problem.needsReview

section Tells

variable {outcome : ParseOutcome} {ended : Except ParseProblem Document}

theorem ParseOutcome.Tells.success_iff (h : outcome.Tells component ended) :
    outcome.success = true ↔ ∃ document, ended = .ok document := by
  cases ended with
  | ok document =>
      cases h
      exact iff_of_true rfl ⟨document, rfl⟩
  | error problem => simp [h.1]

theorem ParseOutcome.Tells.errors_iff (h : outcome.Tells component ended) :
    outcome.errors ≠ [] ↔ outcome.success = false := by
  cases ended with
  | ok document =>
      cases h
      exact iff_of_false (not_not.mpr rfl) nofun
  | error problem => exact iff_of_true h.2.1 h.1

theorem ParseOutcome.Tells.review_iff (h : outcome.Tells component ended) :
    outcome.requiresManualReview = true ↔
      ended = .error .broken ∨ ended = .error .undecodable := by
  cases ended with
  | ok document =>
      cases h
      simp [analyzeDocument]
  | error problem =>
      rw [h.2.2]
      cases problem <;> simp [ParseProblem.needsReview]

end Tells

theorem tells_failed_parse {problem : ParseProblem} {f : Fault} (h : problem.ToldBy f)
    (component : Component) :
    (failedParse component f problem.needsReview).Tells component (.error problem) := by
  refine ⟨rfl, ?_, rfl⟩
  unfold failedParse
  dsimp only
  split
  · next item items hlisted =>
      obtain ⟨texts, htexts⟩ := h.listed _ hlisted
      cases texts with
      | nil => cases htexts
      | cons text texts =>
          cases htexts
          simp [Json.text?]
  · exact List.cons_ne_nil _ _

/-- What is settled for the last attempt is told. -/
theorem ParseEnds.settled {ended : Except ParseProblem Document} {last : Except Failure ParseOutcome}
    {place : FaultContext} (h : ParseEnds (analyzeDocument component) ended last)
    (hplace : place.data = []) (log : ErrorLog) (i : Nat) :
    ∃ outcome : ParseOutcome, outcome.Tells component ended ∧
      (settle place (fun f r => failedParse component f r.requiresManualReview) log i last =
          .ok outcome ∨
        ∃ f, settle place (fun f r => failedParse component f r.requiresManualReview) log i last =
            .error (.fault f) ∧
          f.cls ≠ .cancelled ∧ outcome = failedParse component f false) := by
  cases h with
  | value document => exact ⟨_, rfl, Or.inl rfl⟩
  | @problem p f htold =>
      have htold' : p.ToldBy (log.stamp (Failure.classifiedAt (.fault f) place i)) :=
        (htold.classified hplace).stamp
      have hcls := htold.not_cancelled
      refine ⟨failedParse component (log.stamp (Failure.classifiedAt (.fault f) place i))
        p.needsReview, tells_failed_parse htold' component, ?_⟩
      rw [settle, if_neg (by simpa [Failure.isCancellation] using hcls)]
      dsimp only
      cases hreview : p.needsReview with
      | true =>
          obtain ⟨recovery, habsorbed, hmanual⟩ := htold'.absorption.1 hreview
          rw [habsorbed]
          exact Or.inl (by rw [← hmanual])
      | false =>
          rw [htold'.absorption.2 hreview]
          exact Or.inr ⟨_, rfl, hcls, rfl⟩

/-- The record of an attempt: there is one for each that failed, and it tells of it. -/
theorem recorded_faults_tell {attempts : Nat → Except ParseProblem Document}
    {outcomes : Nat → Except Failure ParseOutcome} {place : FaultContext}
    (hplace : place.data = []) {numbers : List Nat}
    (h : ∀ i ∈ numbers, ParseEnds (analyzeDocument component) (attempts i) (outcomes i)) :
    List.Forall₂ (fun i f => f.IsOfAttempt i ∧ ∃ p, attempts i = .error p ∧ p.ToldBy f)
      (numbers.filter fun i => !(attempts i).isOk)
      (numbers.filterMap fun i => recordedFault place i (outcomes i)) := by
  have hkeys : place.data.keys.Nodup := hplace ▸ List.nodup_nil
  induction numbers with
  | nil => exact .nil
  | cons i rest ih =>
      have hrest := ih fun j hj => h j (List.mem_cons_of_mem _ hj)
      have hends := h i List.mem_cons_self
      generalize hattempt : attempts i = ended at hends
      generalize houtcome : outcomes i = outcome at hends
      cases hends with
      | value document =>
          rw [List.filter_cons_of_neg (by simp [hattempt, Except.isOk, Except.toBool]),
            List.filterMap_cons_none (by rw [houtcome, recordedFault])]
          exact hrest
      | @problem p f htold =>
          rw [List.filter_cons_of_pos (by simp [hattempt, Except.isOk, Except.toBool]),
            List.filterMap_cons, houtcome, htold.recorded]
          exact .cons ⟨Failure.classified_at_is_of_attempt hkeys, p, hattempt,
            htold.classified hplace⟩ hrest

/-- An attempt may be followed by another one if the file was unreadable. -/
theorem ParseEnds.may_retry_iff {ended : Except ParseProblem Document}
    {outcome : Except Failure ParseOutcome} {place : FaultContext} {i : Nat}
    (h : ParseEnds (analyzeDocument component) ended outcome) (hplace : place.data = []) :
    MayRetry place i outcome ↔ ended = .error .unreadable := by
  cases h with
  | value document => exact iff_of_false (fun ⟨_, h, _⟩ => nomatch h) nofun
  | @problem p f htold =>
      have htransient := (htold.classified hplace (i := i)).is_transient_iff
      rw [MayRetry, htold.recorded, Except.error.injEq, ← htransient]
      simp

/-- Whatever a unit's file holds, and whatever goes wrong with reading it, parsing the unit comes to an
outcome, after at most as many attempts as the retry policy allows.  All attempts but the last one
found the file unreadable, and the last one did so only if it was the last allowed.  One fault is recorded for each failed attempt.  The outcome is a success
if the last attempt got a text that is not too large, in a language that is known, with a tree that
has no broken node; if not, it tells errors, and somebody has to look at it if the text was broken or
the file was no text. -/
theorem parse_from_reports (h : FileScript file context limit r Opened After)
    (hlimit : context.settings.parser.maxFileSize = .ok limit) {attempts : Nat} (hpos : 1 ≤ attempts)
    (hmax : attempts ≤ 1025) {base cap : Float}
    (hstrategies : s.log.strategies = builtinStrategies (.ofNumbers attempts base cap))
    (hs : After 0 s) (component : Component) (given : Option String) :
    ∃ k outcome t faults, 1 ≤ k ∧ k ≤ attempts ∧
      (Run.parseFrom component file given).exec context s = (.ok outcome, t) ∧
      After (if given.isSome then 0 else k) t ∧
      (∀ i, 1 ≤ i → i < k →
        r.attempt limit context.grammar component given i = .error .unreadable) ∧
      (r.attempt limit context.grammar component given k = .error .unreadable → k = attempts) ∧
      t.log = s.log.recordAll faults ∧ t.log.total = s.log.total + faults.length ∧
      List.Forall₂ (fun i f => f.IsOfAttempt i ∧
          ∃ p, r.attempt limit context.grammar component given i = .error p ∧ p.ToldBy f)
        ((List.range' 1 k).filter fun i =>
          !(r.attempt limit context.grammar component given i).isOk) faults ∧
      (outcome.success = true ↔ ∃ text language, r.textAt limit given k = .ok text ∧
        Language.ofPath? (Path.ofText component.absolutePath) = some language ∧
        ∀ n ∈ (context.grammar language text).walk, n.isBroken = false) ∧
      (outcome.errors ≠ [] ↔ outcome.success = false) ∧
      (outcome.requiresManualReview = true ↔
        r.attempt limit context.grammar component given k = .error .broken ∨
        r.attempt limit context.grammar component given k = .error .undecodable) := by
  obtain ⟨outcomes, hscript, hends⟩ := h.outcome_script hlimit component given
  obtain ⟨place, hplace, hdata⟩ : ∃ place, (Run.place component.id (some "parse")
      component.filePath none).exec context s = (.ok place, s) ∧ place.data = [] := ⟨_, rfl, rfl⟩
  have hkeys : place.data.keys.Nodup := hdata.symm ▸ List.nodup_nil
  have hstart : After (readsOf given 0) s := by
    rw [readsOf, ite_self]
    exact hs
  obtain ⟨more, result, t, hmore, hexec, hlast, hrun⟩ :=
    Run.with_recovery_run (fun f r => failedParse component f r.requiresManualReview) hscript hkeys
      hpos hmax hstart hstrategies
  obtain ⟨outcome, htells, hsettled⟩ := (hends (more + 1) (Nat.succ_pos more)).settled hdata
    (s.log.recordAll (recordedFaults place outcomes 1 more)) (more + 1)
  have hresult := hrun.result
  rw [Nat.add_comm 1 more] at hresult
  rw [← hresult] at hsettled
  have hfinished : (Run.parseFrom component file given).exec context s = (.ok outcome, t) := by
    rw [Run.parseFrom, Run.exec_bind_of_ok hplace, Run.exec_bind, Run.exec_attempt, hexec]
    rcases hsettled with hsettled | ⟨f, hsettled, hcls, rfl⟩
    · rw [hsettled]
      rfl
    · rw [hsettled]
      dsimp only
      rw [if_neg (by simpa using hcls)]
      rfl
  refine ⟨more + 1, outcome, t, recordedFaults place outcomes 1 (more + 1), Nat.succ_pos more, hmore,
    hfinished, hlast, fun i hi hlt => ?_, ?_, hrun.log, ?_, ?_, ?_, ?_, ?_⟩
  · exact ((hends i hi).may_retry_iff hdata).mp (hrun.retried i hi (by omega))
  · intro hunreadable
    have hmay := ((hends (more + 1) (Nat.succ_pos more)).may_retry_iff hdata (i := more + 1)).mpr
      hunreadable
    have hended := hrun.ended
    rw [Nat.add_comm 1 more] at hended
    exact hended.resolve_left (not_not.mpr hmay)
  · rw [hrun.log, ErrorLog.record_all_total]
  · exact recorded_faults_tell hdata fun i hi => hends i (List.mem_range'_1.mp hi).1
  · rw [htells.success_iff, FileReadings.attempt_eq_ok_iff]
  · exact htells.errors_iff
  · exact htells.review_iff

end Parsing

section Disks

variable {d : Disk} {path : Path} {limit : Quantity}

/-- Only a path with a null character is refused as such. -/
theorem Disk.follow_ne_null (place : List String) (below : List (List String × Entry)) (e : Entry)
    (components : List String) :
    d.follow place below e components ≠ .lost .nullCharacter := by
  induction components generalizing place below e with
  | nil => nofun
  | cons c rest ih =>
      unfold Disk.follow
      dsimp only
      split
      · nofun
      · split
        · exact ih _ _ _
        · split
          · nofun
          · split
            · exact ih _ _ _
            · split
              · exact ih _ _ _
              · split <;> nofun

theorem Disk.obstacle_is_of_file {obstacle : Obstacle} (hpath : '\x00' ∉ path.toText.toList)
    (h : d.find path = .lost obstacle) : (obstacle.trouble path).IsOfFile := by
  cases obstacle with
  | missing => exact Or.inl rfl
  | throughFile => exact Or.inl rfl
  | tooLong => exact Or.inl rfl
  | nullCharacter =>
      have hplain : path.toText.toList.contains '\x00' = false := by simpa using hpath
      unfold Disk.find at h
      dsimp only at h
      rw [hplain, if_neg Bool.false_ne_true] at h
      split at h
      · cases h
      · exact absurd h (Disk.follow_ne_null _ _ _ _)

theorem Disk.size_trouble (hpath : '\x00' ∉ path.toText.toList) {t : Trouble}
    (h : d.size path = .error t) : t.IsOfFile := by
  unfold Disk.size at h
  split at h <;> cases h
  · exact Or.inl rfl
  · next hlost => exact Disk.obstacle_is_of_file hpath hlost

theorem Disk.content_trouble (hpath : '\x00' ∉ path.toText.toList) {t : Trouble}
    (h : d.content path = .error t) : t.IsOfFile := by
  unfold Disk.content at h
  split at h <;> cases h
  · exact Or.inl rfl
  · exact Or.inl rfl
  · next hlost => exact Disk.obstacle_is_of_file hpath hlost

theorem Disk.text_trouble (hpath : '\x00' ∉ path.toText.toList) {t : Trouble}
    (h : (d.readText path).1 = .error t) : t.sort = .undecodable ∨ t.IsOfFile := by
  unfold Disk.readText at h
  split at h
  · cases h
    exact Or.inr (Or.inl rfl)
  · split at h
    · unfold Disk.textOf at h
      split at h <;> cases h
      exact Or.inl rfl
    · next htrouble =>
        cases h
        exact Or.inr (Disk.content_trouble hpath htrouble)

/-- The disk after some attempts to read the file at a path. -/
def Disk.afterReads (d : Disk) (limit : Quantity) (path : Path) : Nat → Disk
  | 0 => d
  | n + 1 =>
    let before := d.afterReads limit path n
    match before.size path with
    | .ok size => if limit.isLess (.whole size) then before else (before.readText path).2
    | .error _ => before

/-- The readings of a file on a disk. -/
def FileReadings.ofDisk (d : Disk) (limit : Quantity) (path : Path)
    (hpath : '\x00' ∉ path.toText.toList) : FileReadings where
  size n := (d.afterReads limit path (n - 1)).size path
  text n := ((d.afterReads limit path (n - 1)).readText path).1
  size_trouble _ _ h := Disk.size_trouble hpath h
  text_trouble _ _ h := Disk.text_trouble hpath h

/-- A file on a disk comes to its readings. -/
theorem disk_file_script {context : RunContext} (hpath : '\x00' ∉ path.toText.toList)
    (hobservers : ∀ observe ∈ context.observers, ∀ f s,
      (observe f s).disk = s.disk ∧ (observe f s).log = s.log ∧ (observe f s).slept = s.slept) :
    FileScript (.ofPath path) context limit (.ofDisk d limit path hpath)
      (fun n s => s.disk = d.afterReads limit path (n - 1))
      (fun n s => s.disk = d.afterReads limit path n) where
  size n s hs := by
    refine ⟨s, ?_, fun _ => hs, fun hnot => ?_, rfl, rfl⟩
    · rw [SourceFile.ofPath, Run.exec_on_disk, hs]
      exact congrArg (Prod.mk _) (by rw [← hs])
    · rw [hs, Disk.afterReads]
      split
      · next size hsize =>
          rw [if_pos (Bool.of_not_eq_false fun hfits => hnot ⟨size, hsize, hfits⟩)]
      · rfl
  text n s hopens hs := by
    obtain ⟨size, hsize, hfits⟩ := hopens
    refine ⟨{ s with disk := (s.disk.readText path).2 }, ?_, ?_, rfl, rfl⟩
    · rw [SourceFile.ofPath, Run.exec_on_disk, hs]
      rfl
    · rw [hs, Disk.afterReads]
      dsimp only
      rw [show (d.afterReads limit path n).size path = .ok size from hsize]
      dsimp only
      rw [hfits, if_neg Bool.false_ne_true]
      rfl
  handled _ _ _ _ hs := hs
  observed observe hobserve _ f s hs := by
    obtain ⟨hdisk, hlog, hslept⟩ := hobservers observe hobserve f s
    exact ⟨hdisk.trans hs, hlog, hslept⟩

end Disks

/-- A unit with a file of one character. -/
def brokenUnit : Component :=
  { id := "Card.tsx:Card", name := "Card", filePath := "Card.tsx", absolutePath := "/Card.tsx" }

/-- A disk where the next read of this file fails. -/
def brokenDisk : Disk :=
  { entries := [(⟨"/", ["Card.tsx"]⟩, .file [60])]
    pending := [{ name := "Card.tsx", textReads := 1 }] }

/-- A grammar that can read no text. -/
def brokenGrammar : Grammar := fun _ _ => .mk { kind := "ERROR" } []

/-- The file is unreadable at first, and then its text is broken. -/
theorem parse_from_reports_broken :
    ∃ outcome t, (Run.parseUnit brokenUnit none).exec { grammar := brokenGrammar }
        { disk := brokenDisk } = (.ok outcome, t) ∧
      t.disk = brokenDisk.afterReads 1048576 (Path.ofText "/Card.tsx") 2 ∧ t.log.total = 2 ∧
      outcome.success = false ∧ outcome.errors ≠ [] ∧ outcome.requiresManualReview = true := by
  have hpath : '\x00' ∉ (Path.ofText "/Card.tsx").toText.toList := by decide
  let readings := FileReadings.ofDisk brokenDisk 1048576 (Path.ofText "/Card.tsx") hpath
  have hfirst : readings.attempt 1048576 brokenGrammar brokenUnit none 1 = .error .unreadable := rfl
  have hsecond : readings.attempt 1048576 brokenGrammar brokenUnit none 2 = .error .broken := rfl
  have hscript : FileScript (.ofPath (Path.ofText "/Card.tsx")) { grammar := brokenGrammar } 1048576
      readings (fun n s => s.disk = brokenDisk.afterReads 1048576 (Path.ofText "/Card.tsx") (n - 1))
      fun n s => s.disk = brokenDisk.afterReads 1048576 (Path.ofText "/Card.tsx") n :=
    disk_file_script hpath nofun
  have hstrategies : ({ disk := brokenDisk } : RunState).log.strategies =
      builtinStrategies (.ofNumbers 3 1.0 10.0) := rfl
  obtain ⟨k, outcome, t, faults, hpos, hle, hexec, hafter, hretried, hended, -, htotal, hfaults,
      hsuccess, herrors, hreview⟩ :=
    parse_from_reports hscript rfl (by decide) (by decide) hstrategies rfl brokenUnit none
  have hk : k = 2 := by
    have hone : k ≠ 1 := by
      rintro rfl
      exact absurd (hended hfirst) (by decide)
    have hthree : k ≠ 3 := by
      rintro rfl
      exact absurd ((hretried 2 (by decide) (by decide)).symm.trans hsecond) nofun
    omega
  subst hk
  have hcount : faults.length = 2 := by
    rw [← hfaults.length_eq]
    rfl
  have hfailed : outcome.success = false := by
    refine Bool.eq_false_iff.mpr fun h => ?_
    obtain ⟨text, language, -, -, hwhole⟩ := hsuccess.mp h
    exact absurd (hwhole _ List.mem_cons_self) (by decide)
  refine ⟨outcome, t, hexec, hafter, ?_, hfailed, herrors.mpr hfailed, hreview.mpr (Or.inl hsecond)⟩
  rw [htotal, hcount]

end ComponentMigration
