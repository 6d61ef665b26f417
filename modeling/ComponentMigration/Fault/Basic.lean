import ComponentMigration.Json.Misuse
import ComponentMigration.Text.Basic
import ComponentMigration.Text.Casing
import ComponentMigration.Text.Pattern

/-!
# Faults and their classes

What a fault is, and which fault a failure is.
-/

namespace ComponentMigration

/-!
## Faults

A fault is a structured error of the migration, as opposed to a trouble from below: it has a class,
a category and a severity, the place where it happened, what caused it, and whether recovery may be
tried.  Faults that have been recorded carry a serial number, by which the record of a fault is kept
up to date when its context becomes known better.
-/

/-- What a fault is about. -/
inductive Category where
  | configuration
  | fileSystem
  | parsing
  | validation
  | transformation
  | generation
  | memory
  | timeout
  | dependency
  | businessLogic
  | runtime
  | network
  deriving DecidableEq, Repr

namespace Category

/-- All categories. -/
def all : List Category :=
  [.configuration, .fileSystem, .parsing, .validation, .transformation, .generation, .memory,
    .timeout, .dependency, .businessLogic, .runtime, .network]

/-- The label of a category. -/
def label : Category → String
  | .configuration => "configuration"
  | .fileSystem => "file-system"
  | .parsing => "parsing"
  | .validation => "validation"
  | .transformation => "transformation"
  | .generation => "generation"
  | .memory => "memory"
  | .timeout => "timeout"
  | .dependency => "dependency"
  | .businessLogic => "business-logic"
  | .runtime => "runtime"
  | .network => "network"

/-- The category with a label. -/
def ofLabel? (label : String) : Option Category := all.find? (·.label == label)

end Category

/-- How bad a fault is. -/
inductive Severity where
  | low
  | medium
  | high
  | critical
  deriving DecidableEq, Repr

namespace Severity

/-- The label of a severity. -/
def label : Severity → String
  | .low => "low"
  | .medium => "medium"
  | .high => "high"
  | .critical => "critical"

/-- The severity with a label. -/
def ofLabel? (label : String) : Option Severity :=
  [Severity.low, .medium, .high, .critical].find? (·.label == label)

end Severity

/-- The classes of faults. -/
inductive FaultClass where
  | general
  | configuration
  | fileSystem
  | parsing
  | validation
  | transformation
  | generation
  | businessLogic
  | resourceExhausted
  | phaseTimeout
  | cancelled
  deriving DecidableEq, Repr

/-- The category of a class, unless a fault says otherwise. -/
def FaultClass.category : FaultClass → Category
  | .general => .runtime
  | .configuration => .configuration
  | .fileSystem => .fileSystem
  | .parsing => .parsing
  | .validation => .validation
  | .transformation => .transformation
  | .generation => .generation
  | .businessLogic => .businessLogic
  | .resourceExhausted => .memory
  | .phaseTimeout => .timeout
  | .cancelled => .runtime

/-- The severity of a class, unless a fault says otherwise. -/
def FaultClass.severity : FaultClass → Severity
  | .configuration | .parsing | .transformation | .businessLogic | .cancelled => .high
  | .resourceExhausted => .critical
  | _ => .medium

/-- Where a fault happened, and details about it. -/
structure FaultContext where
  unit : Option String := none
  operation : Option String := none
  correlationId : Option String := none
  filePath : Option String := none
  phase : Option String := none
  data : Assoc Json := []

/-- A text that says something, or else another one. -/
def orElseText (a b : Option String) : Option String :=
  match a with
  | some s => if s.isEmpty then b else a
  | none => b

/-- Two contexts of one fault together: places of the first count, details of the second. -/
def FaultContext.merge (existing incoming : FaultContext) : FaultContext :=
  { unit := orElseText existing.unit incoming.unit
    operation := orElseText existing.operation incoming.operation
    correlationId := orElseText existing.correlationId incoming.correlationId
    filePath := orElseText existing.filePath incoming.filePath
    phase := orElseText existing.phase incoming.phase
    data := existing.data.update incoming.data }

/-- What caused a fault. -/
inductive Cause where
  | trouble (sort : TroubleSort)
  | fault (cls : FaultClass)
  deriving DecidableEq, Repr

/-- A structured error of the migration. -/
structure Fault where
  cls : FaultClass
  message : String
  context : FaultContext := {}
  category : Category
  severity : Severity
  cause : Option Cause := none
  recoverable : Bool := true
  serial : Option Nat := none

/-- A fault with the category and severity of its class. -/
def Fault.of (cls : FaultClass) (message : String) (context : FaultContext := {})
    (cause : Option Cause := none) (recoverable : Bool := true) : Fault :=
  { cls := cls
    message := message
    context := context
    category := cls.category
    severity := cls.severity
    cause := cause
    recoverable := recoverable }

/-- A fault that ends a cancelled run. -/
def Fault.cancelled (message : String) (context : FaultContext := {}) : Fault :=
  Fault.of .cancelled message context none false

/-- Anything that can go wrong. -/
inductive Failure where
  | fault (f : Fault)
  | trouble (t : Trouble)

/-- Whether a failure is the cancellation of a run. -/
def Failure.isCancellation : Failure → Bool
  | .fault f => f.cls == .cancelled
  | .trouble _ => false

/-- What went wrong, as the cause of a further fault. -/
def Failure.asCause : Failure → Cause
  | .fault f => .fault f.cls
  | .trouble t => .trouble t.sort

/-- The numerals from zero on. -/
def numeral (n : Nat) : Char :=
  if n < 10 then Char.ofNat (48 + n) else Char.ofNat (55 + n)

/-- The digits of a positive number to the base 36, the highest first; `fuel` bounds their
number. -/
def base36Digits : Nat → Nat → List Char → List Char
  | 0, _, acc => acc
  | fuel + 1, n, acc =>
    if n == 0 then acc else base36Digits fuel (n / 36) (numeral (n % 36) :: acc)

/-- A natural number to the base 36. -/
def base36 (n : Nat) : String :=
  if n == 0 then "0" else String.ofList (base36Digits n n [])

/-- The first two parts of an error code: the category and the severity. -/
def codeHead (category : Category) (severity : Severity) : String :=
  String.ofList ((category.label.toList.take 3).map Char.toUpper) ++ "-" ++
    String.ofList ((severity.label.toList.take 1).map Char.toUpper)

/-- The code of an error that happened so many milliseconds after the start of the era. -/
def errorCode (category : Category) (severity : Severity) (millis : Nat) : String :=
  codeHead category severity ++ "-" ++ base36 millis

/-- The first two parts of a fault's code. -/
def Fault.codeHead (f : Fault) : String := ComponentMigration.codeHead f.category f.severity

/-!
## Classification of failures

A fault stays the fault it is and learns the given context.  A trouble becomes a fault by its family
and the words of its message, which are looked for in a fixed order: shortage of memory, timeouts,
the file system, parsing, and the word `file` by itself.
-/

open Text Text.Pattern

/-- Whether the word `file` or `files` stands by itself in a text. -/
def mentionsFile (s : String) : Bool :=
  (cat [.wordEdge, lit "file", optional (lit "s"), .wordEdge]).occursIn s

/-- The class of the fault that a trouble becomes. -/
def Trouble.faultClass (t : Trouble) : FaultClass :=
  let words := lowered t.text
  let family := t.sort.family
  if family == .memory || contains words "heap" || contains words "out of memory" then
    .resourceExhausted
  else if family == .timeout || contains words "timeout" || contains words "timed out" then
    .phaseTimeout
  else if family == .system || t.number == some 2 || contains words "enoent" then .fileSystem
  else if family == .grammar || contains words "parse" || contains words "syntax" then .parsing
  else if mentionsFile words then .fileSystem
  else .general

/-- The fault that a failure is, in a context. -/
def Failure.classify (failure : Failure) (context : Option FaultContext) : Fault :=
  match failure with
  | .fault f =>
    match context with
    | some c => { f with context := f.context.merge c }
    | none => f
  | .trouble t => Fault.of t.faultClass t.text (context.getD {}) (some (.trouble t.sort))

end ComponentMigration
