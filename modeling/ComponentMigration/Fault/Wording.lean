import ComponentMigration.Json.Display
import ComponentMigration.Json.Misuse
import ComponentMigration.Text.Basic

/-!
# Wordings of troubles

Troubles from outside the library are given by their arguments, and sorts of troubles differ in how
they word them: one argument as it is or as a literal, a system error by its number, reason and
files, an error of notation by its message and place, an error of encoding by the characters at
fault.
-/

namespace ComponentMigration

/-- How a trouble words its arguments. -/
inductive Wording where
  | plain
  | keyed
  | numbered
  | counted
  | placed
  | encoding
  | decoding
  | transcribing
  | grouping
  deriving DecidableEq, Repr

namespace Wording

/-- Arguments as they are: none, one in running text, or several in parentheses. -/
def listed : List Json → String
  | [] => ""
  | [a] => a.display
  | args => Text.tupleText (args.map Json.literal)

/-- The files that a system error names, after its reason. -/
def files : List Json → String
  | file :: _ :: second :: _ =>
    match file, second with
    | .null, _ => ""
    | _, .null => ": " ++ file.literal
    | _, _ => ": " ++ file.literal ++ " -> " ++ second.literal
  | .null :: _ => ""
  | file :: _ => ": " ++ file.literal
  | [] => ""

/-- A system error: its number and reason, and the files it names; with fewer than two or more than
five arguments they are only listed. -/
def system (args : List Json) : String :=
  match args with
  | number :: reason :: rest =>
    if args.length ≤ 5 then
      "[Errno " ++ number.display ++ "] " ++ reason.display ++ files rest
    else listed args
  | _ => listed args

/-- A system error that may give the number of characters written instead of a file; the number has
to be an index. -/
def withCount (args : List Json) : Usable String :=
  match args with
  | number :: reason :: count :: _ =>
    match if args.length ≤ 5 then count.quantity? else none with
    | none => .ok (system args)
    | some q =>
      match q.int? with
      | none => .error (.notInteger q.sortName)
      | some n =>
        if -(Number.twoTo 63 : Int) ≤ n && n < (Number.twoTo 63 : Int) then
          .ok (system [number, reason])
        else .error ⟨.badValue, "cannot fit 'int' into an index-sized integer", none⟩
  | _ => .ok (system args)

/-- The part of a path after its last slash. -/
def lastPart (s : String) : String :=
  String.ofList (s.toList.reverse.takeWhile (· != '/')).reverse

/-- The place of an error of notation: file and line, as far as they are known. -/
def place (file line : Json) : String :=
  let number := fun (n : Int) =>
    toString (if -(Number.twoTo 63 : Int) ≤ n && n < (Number.twoTo 63 : Int) then n else -1)
  match file, line with
  | .str f, .int n => " (" ++ lastPart f ++ ", line " ++ number n ++ ")"
  | .str f, _ => " (" ++ lastPart f ++ ")"
  | _, .int n => " (line " ++ number n ++ ")"
  | _, _ => ""

/-- The trouble with arguments that do not fit. -/
def unfit : Trouble := ⟨.wrongType, "arguments do not fit", none⟩

/-- The trouble with a group of values, which are no troubles. -/
def notTroubles : Trouble :=
  ⟨.badValue, "a group holds at least one trouble and nothing else", none⟩

/-- An error of notation: its message, and the place if there are exactly two arguments. -/
def grammar (args : List Json) : Usable String :=
  match args with
  | [] => .ok "None"
  | [message, details] => do
    match ← details.members with
    | [file, line, _, _] => return message.display ++ place file line
    | [file, line, _, _, _, _] => return message.display ++ place file line
    | _ => .error unfit
  | message :: _ => .ok message.display

/-- A value as an index. -/
def index (v : Json) : Usable Int :=
  match v.quantity?.bind Quantity.int? with
  | some n =>
    if -(Number.twoTo 63 : Int) ≤ n && n < (Number.twoTo 63 : Int) then .ok n
    else .error ⟨.overflow, "the number is too large for an index", none⟩
  | none => .error (.notInteger v.sortName)

/-- The characters of a text at fault, from one position up to another one. -/
def atFault (verb s : String) (first last : Int) (reason : String) : String :=
  match if last == first + 1 && 0 ≤ first then s.toList[first.toNat]? else none with
  | some c =>
    "can't " ++ verb ++ " character '" ++ String.ofList (Text.numberedChar c) ++ "' in position " ++
      toString first ++ ": " ++ reason
  | none =>
    "can't " ++ verb ++ " characters in position " ++ toString first ++ "-" ++
      toString (last - 1) ++ ": " ++ reason

/-- The message of a trouble with arguments. -/
def message (w : Wording) (args : List Json) : Usable String :=
  match w, args with
  | .plain, _ => .ok (listed args)
  | .keyed, [a] => .ok a.literal
  | .keyed, _ => .ok (listed args)
  | .numbered, _ => .ok (system args)
  | .counted, _ => withCount args
  | .placed, _ => grammar args
  | .encoding, [.str codec, .str s, first, last, .str reason] => do
    return "'" ++ codec ++ "' codec " ++ atFault "encode" s (← index first) (← index last) reason
  | .transcribing, [.str s, first, last, .str reason] => do
    return atFault "translate" s (← index first) (← index last) reason
  | .grouping, [.str _, .arr _] => .error notTroubles
  | .grouping, [.str _, .str _] => .error notTroubles
  | _, _ => .error unfit

end Wording

end ComponentMigration
