/-!
# Texts

Texts are read as lists of characters: their blanks, their lines, and what occurs in them.
-/

namespace ComponentMigration.Text

/-!
## White space

A blank is a character of the white-space classes of the character standard, the four separator
controls included.  Texts lose blanks at their ends (`strip`) or are cut at runs of them (`words`).
Functions work on lists of characters and have a version on strings of the same behaviour.
-/

/-- The white-space characters: tabs and line feeds, separator controls, and the spaces. -/
def isBlank (c : Char) : Bool :=
  let n := c.toNat
  (9 ≤ n && n ≤ 13) || (28 ≤ n && n ≤ 32) || n == 0x85 || n == 0xA0 || n == 0x1680 ||
    (0x2000 ≤ n && n ≤ 0x200A) || n == 0x2028 || n == 0x2029 || n == 0x202F || n == 0x205F ||
    n == 0x3000

/-- Every blank of the standard library's narrower class is a blank here. -/
theorem isBlank_of_isWhitespace {c : Char} (h : c.isWhitespace = true) : isBlank c = true := by
  simp only [Char.isWhitespace, Bool.or_eq_true, decide_eq_true_eq] at h
  rcases h with ((rfl | rfl) | rfl) | rfl <;> decide

/-- Drops the characters of a class at the end of a text. -/
def dropEndWhile (p : Char → Bool) (cs : List Char) : List Char :=
  (cs.reverse.dropWhile p).reverse

/-- Drops the characters of a class at both ends of a text. -/
def trimWhile (p : Char → Bool) (cs : List Char) : List Char :=
  dropEndWhile p (cs.dropWhile p)

/-- The text without the characters of a class at its start. -/
def stripStartOf (p : Char → Bool) (s : String) : String :=
  String.ofList (s.toList.dropWhile p)

/-- The text without the characters of a class at both ends. -/
def stripOf (p : Char → Bool) (s : String) : String :=
  String.ofList (trimWhile p s.toList)

/-- The text without blanks at both ends. -/
def strip (s : String) : String := stripOf isBlank s

/-- The text without blanks at its end. -/
def stripEnd (s : String) : String := String.ofList (dropEndWhile isBlank s.toList)

/-- Nothing but blanks. -/
def isBlankText (s : String) : Bool := s.toList.all isBlank

/-!
## Lines of a text

A line ends at a line feed, a carriage return, the pair of both, a vertical tab, a form feed, one of
the three separator controls, the next-line control, or the line and paragraph separators.  The end
mark belongs to no line, and an end mark at the end of the text opens no further line.
-/

/-- The characters that end a line. -/
def isLineBreak (c : Char) : Bool :=
  let n := c.toNat
  (10 ≤ n && n ≤ 13) || (28 ≤ n && n ≤ 30) || n == 0x85 || n == 0x2028 || n == 0x2029

/-- Cuts a text at its line ends; `line` holds the current line in reverse. -/
def lineChars.go : List Char → List Char → List (List Char)
  | [], [] => []
  | [], line => [line.reverse]
  | '\r' :: '\n' :: rest, line => line.reverse :: lineChars.go rest []
  | c :: rest, line =>
    if isLineBreak c then line.reverse :: lineChars.go rest [] else lineChars.go rest (c :: line)

/-- The lines of a text, without their end marks. -/
def lineChars (cs : List Char) : List (List Char) := lineChars.go cs []

/-- The lines of a text, without their end marks. -/
def lines (s : String) : List String := (lineChars s.toList).map String.ofList

/-- The first line of a text; empty for the empty text. -/
def firstLine (s : String) : String := (lines s).headD ""

/-- Turns every carriage return, alone or before a line feed, into a line feed. -/
def unifyNewlineChars : List Char → List Char
  | [] => []
  | '\r' :: '\n' :: rest => '\n' :: unifyNewlineChars rest
  | c :: rest => (if c == '\r' then '\n' else c) :: unifyNewlineChars rest

/-- Turns every carriage return, alone or before a line feed, into a line feed. -/
def unifyNewlines (s : String) : String := String.ofList (unifyNewlineChars s.toList)

/-!
## Searching texts

`startsWith`, `endsWith` and `contains` are stated on the characters; `replace` and `splitOn` handle
occurrences from the left and never two that overlap.
-/

/-- Whether `part` stands at the start of `s`. -/
def startsWith (s part : String) : Bool := part.toList.isPrefixOf s.toList

/-- Whether `part` stands at the end of `s`. -/
def endsWith (s part : String) : Bool := part.toList.isSuffixOf s.toList

/-- Whether `part` occurs somewhere in `cs`. -/
def containsChars (part : List Char) : List Char → Bool
  | [] => part.isEmpty
  | c :: rest => part.isPrefixOf (c :: rest) || containsChars part rest

/-- Whether `part` occurs somewhere in `s`. -/
def contains (s part : String) : Bool := containsChars part.toList s.toList

/-- Drops `part` from the start, if it stands there. -/
def dropStart (s part : String) : String :=
  if startsWith s part then String.ofList (s.toList.drop part.toList.length) else s

/-- Drops `part` from the end, if it stands there. -/
def dropEnd (s part : String) : String :=
  if endsWith s part then
    String.ofList (s.toList.take (s.toList.length - part.toList.length))
  else s

/-- Cuts a text at every occurrence of the non-empty `sep`; `skip` counts the characters of the
occurrence being passed over. -/
def splitChars.go (sep : List Char) : List Char → Nat → List Char → List (List Char)
  | [], _, piece => [piece.reverse]
  | _ :: rest, skip + 1, piece => splitChars.go sep rest skip piece
  | c :: rest, 0, piece =>
    if sep.isPrefixOf (c :: rest) then
      piece.reverse :: splitChars.go sep rest (sep.length - 1) []
    else splitChars.go sep rest 0 (c :: piece)

/-- The pieces of a text between the occurrences of a non-empty separator. -/
def splitChars (sep cs : List Char) : List (List Char) := splitChars.go sep cs 0 []

/-- The pieces of a text between the occurrences of a non-empty separator. -/
def splitOn (s sep : String) : List String := (splitChars sep.toList s.toList).map String.ofList

/-- Puts `new` in place of every occurrence of the non-empty `old`. -/
def replace (s old new : String) : String := String.intercalate new (splitOn s old)

/-- The order of texts by their characters' numbers. -/
def le (a b : String) : Bool := !decide (b < a)

/-- Sorted in the order of texts. -/
def sorted (xs : List String) : List String := xs.mergeSort le

/-- The first characters of a text. -/
def take (n : Nat) (s : String) : String := String.ofList (s.toList.take n)

/-- The text after its first characters. -/
def drop (n : Nat) (s : String) : String := String.ofList (s.toList.drop n)

/-- Adds a text to the end of a list unless the list has it. -/
def appendUnique (xs : List String) (x : String) : List String :=
  if x ∈ xs then xs else xs ++ [x]

/-- The texts of a list, each once, in the order of their first places. -/
def unique (xs : List String) : List String := xs.foldl appendUnique []

/-- The number of leading spaces. -/
def leadingSpaces (s : String) : Nat := (s.toList.takeWhile (· == ' ')).length

end ComponentMigration.Text
