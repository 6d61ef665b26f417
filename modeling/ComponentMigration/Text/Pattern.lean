import ComponentMigration.Text.Basic
import ComponentMigration.Text.Letters

/-!
# Patterns of texts

A pattern is matched at a cursor and hands every way of matching, in order of preference, to a
continuation; the first way on which the continuation succeeds wins.  Alternatives prefer the left
side, repetitions are greedy or lazy as they say.  `find?` gives the first place of a pattern in a
text, `findAll` the places from left to right that do not overlap.
-/

namespace ComponentMigration.Text

/-- A pattern of texts. -/
inductive Pattern where
  /-- Matches nothing, at every place. -/
  | empty
  /-- One character of a class. -/
  | one (accepts : Char → Bool)
  /-- Exactly these characters. -/
  | exact (chars : List Char)
  /-- One pattern after the other. -/
  | seq (first second : Pattern)
  /-- The first pattern, or else the second. -/
  | either (first second : Pattern)
  /-- Any number of times, as many as possible if `greedy`. -/
  | many (greedy : Bool) (body : Pattern)
  /-- Remembers what the pattern matched under a name. -/
  | capture (name : String) (body : Pattern)
  /-- The start of the text or of a line. -/
  | lineStart
  /-- A boundary of words. -/
  | wordEdge

/-- A remembered part of a match: where it starts and what it is. -/
structure Captured where
  start : Nat
  text : String
  deriving DecidableEq, Repr

/-- A place in a text during matching. -/
structure Cursor where
  offset : Nat := 0
  before : Option Char := none
  rest : List Char
  captures : List (String × Captured) := []

/-- Repeats a step as often as the remaining length allows.  A round that consumes nothing ends the
repetition. -/
def Pattern.rounds (greedy : Bool)
    (step : Cursor → (Cursor → Option Cursor) → Option Cursor) :
    Nat → Cursor → (Cursor → Option Cursor) → Option Cursor
  | 0, at_, k => k at_
  | fuel + 1, at_, k =>
    let again := fun (_ : Unit) => step at_ fun next =>
      if at_.offset < next.offset then rounds greedy step fuel next k else none
    if greedy then again () <|> k at_ else k at_ <|> again ()

/-- Matches a pattern at a cursor and continues with `k`. -/
def Pattern.run : Pattern → Cursor → (Cursor → Option Cursor) → Option Cursor
  | .empty, at_, k => k at_
  | .one accepts, at_, k =>
    match at_.rest with
    | c :: rest =>
      if accepts c then
        k { at_ with offset := at_.offset + 1, before := some c, rest := rest }
      else none
    | [] => none
  | .exact chars, at_, k =>
    if chars.isPrefixOf at_.rest then
      k { at_ with
          offset := at_.offset + chars.length
          before := chars.getLast?.or at_.before
          rest := at_.rest.drop chars.length }
    else none
  | .seq first second, at_, k => first.run at_ fun next => second.run next k
  | .either first second, at_, k => first.run at_ k <|> second.run at_ k
  | .many greedy body, at_, k => Pattern.rounds greedy body.run (at_.rest.length + 1) at_ k
  | .capture name body, at_, k => body.run at_ fun next =>
      let text := String.ofList (at_.rest.take (next.offset - at_.offset))
      k { next with captures := (name, ⟨at_.offset, text⟩) :: next.captures }
  | .lineStart, at_, k => if at_.before.all (· == '\n') then k at_ else none
  | .wordEdge, at_, k => if isWordBoundary at_.before at_.rest.head? then k at_ else none

namespace Pattern

/-- The characters of a text, one after the other. -/
def lit (s : String) : Pattern := .exact s.toList

/-- The pattern or nothing, preferring the pattern. -/
def optional (p : Pattern) : Pattern := .either p .empty

/-- One or more times. -/
def some1 (p : Pattern) : Pattern := .seq p (.many true p)

/-- One pattern after the other. -/
def cat : List Pattern → Pattern
  | [] => .empty
  | [p] => p
  | p :: rest => .seq p (cat rest)

/-- The first of several patterns that fits. -/
def oneOf : List Pattern → Pattern
  | [] => .one fun _ => false
  | [p] => p
  | p :: rest => .either p (oneOf rest)

/-- A blank. -/
def blank : Pattern := .one isBlank

/-- Any number of blanks. -/
def blanks : Pattern := .many true blank

/-- At least one blank. -/
def blanks1 : Pattern := some1 blank

/-- A capital of the basic alphabet. -/
def capital : Pattern := .one Char.isUpper

/-- Any number of word characters. -/
def wordChars : Pattern := .many true (.one isWordChar)

end Pattern

/-- An occurrence of a pattern. -/
structure Occurrence where
  start : Nat
  stop : Nat
  captures : List (String × Captured)

/-- A remembered part of an occurrence. -/
def Occurrence.captured? (o : Occurrence) (name : String) : Option Captured :=
  o.captures.lookup name

/-- The match of a pattern at one place. -/
def Pattern.matchAt (p : Pattern) (offset : Nat) (before : Option Char) (rest : List Char) :
    Option Occurrence :=
  (p.run { offset := offset, before := before, rest := rest } some).map
    fun next => ⟨offset, next.offset, next.captures⟩

/-- The occurrences from a place on, from left to right; `skip` counts the characters that the last
one covered. -/
def Pattern.findFrom (p : Pattern) :
    List Char → Nat → Option Char → Nat → List Occurrence
  | [], offset, before, 0 => (p.matchAt offset before []).toList
  | [], _, _, _ + 1 => []
  | c :: rest, offset, _, skip + 1 => p.findFrom rest (offset + 1) (some c) skip
  | c :: rest, offset, before, 0 =>
    match p.matchAt offset before (c :: rest) with
    | some o => o :: p.findFrom rest (offset + 1) (some c) (o.stop - o.start - 1)
    | none => p.findFrom rest (offset + 1) (some c) 0

/-- Every occurrence of the pattern, from left to right, without overlaps. -/
def Pattern.findAll (p : Pattern) (s : String) : List Occurrence := p.findFrom s.toList 0 none 0

/-- Whether the pattern occurs from some place on. -/
def Pattern.occursFrom (p : Pattern) : List Char → Nat → Option Char → Bool
  | [], offset, before => (p.matchAt offset before []).isSome
  | c :: rest, offset, before =>
    (p.matchAt offset before (c :: rest)).isSome || p.occursFrom rest (offset + 1) (some c)

/-- Whether the pattern occurs in a text. -/
def Pattern.occursIn (p : Pattern) (s : String) : Bool := p.occursFrom s.toList 0 none

end ComponentMigration.Text
