/-!
# File name patterns

`*` stands for any number of characters, `?` for one, and `[…]` for one of a set, which may hold
ranges and is negated by a leading `!`; a range from a character to one before it is left out.  A
`]` right after the opening (or after the `!`) belongs to the set, and a bracket that is never
closed stands for itself.  All characters count, separators of paths and line feeds too, and case
matters.
-/

namespace ComponentMigration.Text

/-- One part of a file name pattern. -/
inductive GlobPart where
  | any
  | single
  | char (c : Char)
  | set (negated : Bool) (members : List (Char × Char))
  deriving DecidableEq, Repr

/-- Splits the text after an opening bracket into the set's text and what follows the closing
bracket. -/
def GlobPart.setText? (cs : List Char) : Option (List Char × List Char) :=
  let (sign, body) := match cs with
    | '!' :: rest => (['!'], rest)
    | _ => ([], cs)
  let (first, body) := match body with
    | ']' :: rest => ([']'], rest)
    | _ => ([], body)
  match body.dropWhile (· != ']') with
  | _ :: rest => some (sign ++ first ++ body.takeWhile (· != ']'), rest)
  | [] => none

/-- The text of a set, cut at the dashes that make ranges.  `least` is the number of characters that
have to come before such a dash; a dash at the end stands for itself. -/
def GlobPart.pieces : Nat → List Char → List Char → List (List Char)
  | _, piece, [] => [piece]
  | 0, piece, '-' :: rest =>
    if rest.isEmpty then [piece ++ ['-']] else piece :: pieces 2 [] rest
  | least, piece, c :: rest => pieces (least - 1) (piece ++ [c]) rest

/-- Pieces without the ranges that hold no character. -/
def GlobPart.withoutEmptyRanges : List (List Char) → List (List Char)
  | [] => []
  | piece :: rest =>
    match withoutEmptyRanges rest with
    | [] => [piece]
    | next :: later =>
      if (next.headD '-').toNat < (piece.getLastD '-').toNat then
        (piece.dropLast ++ next.drop 1) :: later
      else piece :: next :: later

/-- A character of a set, or the dash of a range. -/
inductive GlobMark where
  | member (c : Char)
  | dash
  deriving DecidableEq, Repr

/-- The marks of pieces, with a dash between two pieces. -/
def GlobPart.marks : List (List Char) → List GlobMark
  | [] => []
  | [piece] => piece.map .member
  | piece :: rest => piece.map .member ++ .dash :: marks rest

/-- The ranges that marks stand for. -/
def GlobPart.ranges : List GlobMark → List (Char × Char)
  | .member low :: .dash :: .member high :: rest => (low, high) :: ranges rest
  | .member c :: rest => (c, c) :: ranges rest
  | .dash :: rest => ('-', '-') :: ranges rest
  | [] => []

/-- The part that the text of a set stands for.  Whether the set is negated is told by the first
character that is left when the empty ranges have gone. -/
def GlobPart.ofSetText (cs : List Char) : GlobPart :=
  let least := if cs.head? == some '!' then 2 else 1
  match marks (withoutEmptyRanges (pieces least [] cs)) with
  | [.member '!'] => .single
  | .member '!' :: rest => .set true (ranges rest)
  | marks => .set false (ranges marks)

/-- Reads a pattern; `skip` counts characters of a set already read. -/
def GlobPart.parse : List Char → Nat → List GlobPart
  | [], _ => []
  | _ :: rest, skip + 1 => parse rest skip
  | '*' :: rest, 0 => .any :: parse rest 0
  | '?' :: rest, 0 => .single :: parse rest 0
  | '[' :: rest, 0 =>
    match GlobPart.setText? rest with
    | some (members, after) =>
      GlobPart.ofSetText members :: parse rest (rest.length - after.length)
    | none => .char '[' :: parse rest 0
  | c :: rest, 0 => .char c :: parse rest 0

/-- Whether one character fits a part. -/
def GlobPart.accepts : GlobPart → Char → Bool
  | .any, _ => true
  | .single, _ => true
  | .char d, c => c == d
  | .set negated members, c =>
    (members.any fun (low, high) => low.toNat ≤ c.toNat && c.toNat ≤ high.toNat) != negated

/-- For every end of a text whether it fits some parts, given the same for the parts after the first
one. -/
def GlobPart.fits (part : GlobPart) (cs : List Char) (later : List Bool) : List Bool :=
  match part with
  | .any => later.foldr (fun fit ends => (fit || ends.headD false) :: ends) []
  | _ => (cs.zip (later.drop 1)).map (fun (c, fit) => part.accepts c && fit) ++ [false]

/-- Whether a text fits the parts. -/
def globParts (parts : List GlobPart) (cs : List Char) : Bool :=
  (parts.foldr (fun part later => part.fits cs later) (cs.map (fun _ => false) ++ [true])).headD
    false

/-- Whether a file name fits a pattern. -/
def globMatches (name pattern : String) : Bool :=
  globParts (GlobPart.parse pattern.toList 0) name.toList

end ComponentMigration.Text
