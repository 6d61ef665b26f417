/-!
# Texts from bytes

A byte sequence is a text if it consists of well-formed encodings of characters.  Otherwise reading
names the first place that cannot be continued: the bytes of the longest start of an encoding that
stands there, and what is wrong with the byte after them.
-/

namespace ComponentMigration.Text

/-- What is wrong with an encoding. -/
inductive Utf8Flaw where
  | invalidStart
  | invalidContinuation
  | unexpectedEnd
  deriving DecidableEq, Repr

/-- A place at which bytes are no text: `length` bytes from `position` on are bad. -/
structure Utf8Error where
  position : Nat
  length : Nat
  firstByte : Nat
  flaw : Utf8Flaw
  deriving DecidableEq, Repr

/-- The wording of a flaw. -/
def Utf8Flaw.text : Utf8Flaw → String
  | .invalidStart => "invalid start byte"
  | .invalidContinuation => "invalid continuation byte"
  | .unexpectedEnd => "unexpected end of data"

/-- Number of continuation bytes after a first byte and the range of the first of them. -/
def utf8Shape (b : Nat) : Option (Nat × Nat × Nat) :=
  if b < 0x80 then some (0, 0, 0)
  else if b < 0xC2 then none
  else if b < 0xE0 then some (1, 0x80, 0xBF)
  else if b == 0xE0 then some (2, 0xA0, 0xBF)
  else if b == 0xED then some (2, 0x80, 0x9F)
  else if b < 0xF0 then some (2, 0x80, 0xBF)
  else if b == 0xF0 then some (3, 0x90, 0xBF)
  else if b < 0xF4 then some (3, 0x80, 0xBF)
  else if b == 0xF4 then some (3, 0x80, 0x8F)
  else none

/-- Reads `need` continuation bytes, the next within `low` and `high`.  The result is the value of
the read bits and the number of bytes read, and the flaw that stopped the reading. -/
def utf8Tail : Nat → Nat → Nat → Nat → Nat → List Nat → Nat × Nat × Option Utf8Flaw
  | 0, _, _, value, taken, _ => (value, taken, none)
  | _ + 1, _, _, value, taken, [] => (value, taken, some .unexpectedEnd)
  | need + 1, low, high, value, taken, b :: rest =>
    if low ≤ b && b ≤ high then
      utf8Tail need 0x80 0xBF (value * 64 + (b - 0x80)) (taken + 1) rest
    else (value, taken, some .invalidContinuation)

/-- The bits that a first byte contributes. -/
def utf8Lead (b count : Nat) : Nat :=
  match count with
  | 0 => b
  | 1 => b - 0xC0
  | 2 => b - 0xE0
  | _ => b - 0xF0

/-- Reads characters up to the end or the first flaw; `skip` counts bytes already read. -/
def utf8Decode : List Nat → Nat → Nat → Except Utf8Error (List Char)
  | [], _, _ => .ok []
  | _ :: rest, position, skip + 1 => utf8Decode rest (position + 1) skip
  | b :: rest, position, 0 =>
    match utf8Shape b with
    | none => .error ⟨position, 1, b, .invalidStart⟩
    | some (need, low, high) =>
      match utf8Tail need low high (utf8Lead b need) 0 rest with
      | (_, taken, some flaw) => .error ⟨position, taken + 1, b, flaw⟩
      | (value, _, none) => (utf8Decode rest (position + 1) need).map (Char.ofNat value :: ·)

/-- The text of a byte sequence, or the first place that is no text. -/
def decodeUtf8 (bytes : List UInt8) : Except Utf8Error String :=
  (utf8Decode (bytes.map UInt8.toNat) 0 0).map String.ofList

/-- Reads characters to the end and puts the replacement character in place of each flaw. -/
def utf8Replace : List Nat → Nat → List Char
  | [], _ => []
  | _ :: rest, skip + 1 => utf8Replace rest skip
  | b :: rest, 0 =>
    match utf8Shape b with
    | none => Char.ofNat 0xFFFD :: utf8Replace rest 0
    | some (need, low, high) =>
      match utf8Tail need low high (utf8Lead b need) 0 rest with
      | (_, taken, some _) => Char.ofNat 0xFFFD :: utf8Replace rest taken
      | (value, _, none) => Char.ofNat value :: utf8Replace rest need

/-- The text of a byte sequence with the replacement character for bad bytes. -/
def decodeUtf8Replacing (bytes : List UInt8) : String :=
  String.ofList (utf8Replace (bytes.map UInt8.toNat) 0)

/-- The bytes of a text. -/
def encodeUtf8 (s : String) : List UInt8 := s.toUTF8.data.toList

/-- The number of bytes of a text. -/
def byteCount (s : String) : Nat := s.utf8ByteSize

end ComponentMigration.Text
