import ComponentMigration.Number.Binary64
import ComponentMigration.Number.Decimal
import ComponentMigration.Trouble

/-!
# Points in time

An instant counts microseconds from the start of 1970 in universal time and is written as a date,
the letter `T`, a time of day, a fraction of six digits if it is not zero, and the offset `+00:00`.
Reading takes any of the standard's forms: calendar or week dates, times down to hours, either with
or without separators, and an offset, without which the reading is only local.
-/

namespace ComponentMigration

/-- A point in time: microseconds from the start of 1970, universal time. -/
structure Instant where
  micros : Int
  deriving DecidableEq, Repr

/-- A written time: local microseconds from the start of 1970, and the offset from universal time if
one was written. -/
structure LocalTime where
  micros : Int
  offset : Option Int := none
  deriving DecidableEq, Repr

namespace Calendar

/-- Whether a year has 366 days. -/
def isLeap (year : Int) : Bool := year % 4 == 0 && (year % 100 != 0 || year % 400 == 0)

/-- The lengths of the months before a month, in common years. -/
def daysBeforeMonth (month : Nat) : Int :=
  (([31, 28, 31, 30, 31, 30, 31, 31, 30, 31, 30, 31].take (month - 1)).foldl (· + ·) 0 : Nat)

/-- The number of days in a month. -/
def daysInMonth (year : Int) (month : Nat) : Nat :=
  if month == 2 then (if isLeap year then 29 else 28)
  else if [4, 6, 9, 11].contains month then 30 else 31

/-- Days from the start of the year one to the start of a year. -/
def daysBeforeYear (year : Int) : Int :=
  let y := year - 1
  y * 365 + y / 4 - y / 100 + y / 400

/-- Days from the start of 1970 to a date. -/
def dayNumber (year : Int) (month day : Nat) : Int :=
  daysBeforeYear year + daysBeforeMonth month +
    (if month > 2 && isLeap year then 1 else 0) + day - 719163

/-- The date so many days after the start of 1970: counting by eras of four centuries that begin in
March. -/
def ofDayNumber (days : Int) : Int × Nat × Nat :=
  let z := days + 719468
  let era := z / 146097
  let dayOfEra := z % 146097
  let yearOfEra :=
    (dayOfEra - dayOfEra / 1460 + dayOfEra / 36524 - dayOfEra / 146096) / 365
  let dayOfYear := dayOfEra - (365 * yearOfEra + yearOfEra / 4 - yearOfEra / 100)
  let shifted := (5 * dayOfYear + 2) / 153
  let day := dayOfYear - (153 * shifted + 2) / 5 + 1
  let month := if shifted < 10 then shifted + 3 else shifted - 9
  let year := yearOfEra + era * 400 + (if month ≤ 2 then 1 else 0)
  (year, month.toNat, day.toNat)

/-- The day of the week of a day, Monday being zero. -/
def weekday (days : Int) : Int := (days + 3) % 7

/-- The first day of the first week of a year: the week with the year's fourth of January. -/
def firstWeek (year : Int) : Int :=
  let january := dayNumber year 1 4
  january - weekday january

/-- The day of a week date, if the year has that week and the day is no later than the last day of
the year 9999. -/
def ofWeek? (year : Int) (week day : Nat) : Option Int :=
  let start := firstWeek year
  let weeks := (firstWeek (year + 1) - start) / 7
  let number := start + (week - 1) * 7 + (day - 1)
  if 1 ≤ week && (week : Int) ≤ weeks && 1 ≤ day && day ≤ 7 && number < dayNumber 10000 1 1 then
    some number
  else none

end Calendar

namespace LocalTime

/-- The value of exactly `n` digits at the start of a text, and the rest. -/
def takeDigits? (n : Nat) (cs : List Char) : Option (Nat × List Char) :=
  let digits := cs.take n
  if digits.length == n && digits.all Char.isDigit then
    some (digits.foldl (fun acc c => acc * 10 + (c.toNat - 48)) 0, cs.drop n)
  else none

/-- Drops a separator if the notation has separators. -/
def dropMark? (separated : Bool) (mark : Char) (cs : List Char) : Option (List Char) :=
  if separated then
    match cs with
    | c :: rest => if c == mark then some rest else none
    | [] => none
  else some cs

/-- The day that a date denotes. -/
def readDate (cs : List Char) : Option Int := do
  let (year, rest) ← takeDigits? 4 cs
  let separated := rest.head? == some '-'
  let rest := if separated then rest.drop 1 else rest
  match rest with
  | 'W' :: rest =>
    let (week, rest) ← takeDigits? 2 rest
    if year == 0 then none
    else if rest.isEmpty then Calendar.ofWeek? year week 1
    else
      let rest ← dropMark? separated '-' rest
      let (day, rest) ← takeDigits? 1 rest
      if rest.isEmpty then Calendar.ofWeek? year week day else none
  | _ =>
    let (month, rest) ← takeDigits? 2 rest
    let rest ← dropMark? separated '-' rest
    let (day, rest) ← takeDigits? 2 rest
    if rest.isEmpty && 1 ≤ year && 1 ≤ month && month ≤ 12 && 1 ≤ day &&
        day ≤ Calendar.daysInMonth year month then
      some (Calendar.dayNumber year month day)
    else none

/-- Where the date of a text ends. -/
def dateLength (cs : List Char) : Nat :=
  if cs.length == 7 then 7
  else if cs[4]? == some '-' then
    if cs[5]? == some 'W' then
      if cs[8]? == some '-' then (if (cs[10]?).any Char.isDigit then 8 else 10) else 8
    else 10
  else if cs[4]? == some 'W' then
    let stop := 7 + ((cs.drop 7).takeWhile Char.isDigit).length
    if stop < 9 then stop else if stop % 2 == 0 then 7 else 8
  else 8

/-- The microseconds that the digits of a fraction denote. -/
def fractionMicros (digits : List Char) : Nat :=
  ((digits ++ List.replicate 6 '0').take 6).foldl (fun acc c => acc * 10 + (c.toNat - 48)) 0

/-- A reading of a clock: two-digit numbers from the hours down, a fraction in microseconds, and
whether the text was read to its end. -/
structure ClockReading where
  numbers : List Nat
  micros : Nat := 0
  complete : Bool := true

/-- Whether nothing is left of a text, or what is left begins with a null character: it ends a text
as well. -/
def isEnd (cs : List Char) : Bool := cs.head?.all fun c => c.toNat == 0

/-- Reads a fraction: up to six digits count, further ones are passed over. -/
def readFraction (numbers : List Nat) (cs : List Char) : Option ClockReading :=
  let digits := cs.take 6
  if digits.all Char.isDigit then
    some ⟨numbers, fractionMicros digits, isEnd ((cs.drop 6).dropWhile Char.isDigit)⟩
  else none

/-- Reads up to `count` more two-digit numbers; `separated` says, once it is known, whether colons
stand between them.  A single character after a number is left over. -/
def readNumbers : Nat → Option Bool → List Nat → List Char → Option ClockReading
  | 0, _, numbers, cs => readFraction numbers cs
  | count + 1, separated, numbers, cs =>
    match takeDigits? 2 cs with
    | none => none
    | some (n, rest) =>
      let numbers := numbers ++ [n]
      match rest with
      | [] => some { numbers := numbers }
      | [_] => some { numbers := numbers, complete := isEnd rest }
      | c :: more =>
        let colons := separated.getD (c == ':')
        if colons && c == ':' then readNumbers count (some colons) numbers more
        else if c == '.' || c == ',' then readFraction numbers more
        else if colons then none
        else readNumbers count (some colons) numbers rest

/-- A time of day or an offset as hours, minutes, seconds and microseconds; whether it was read to
its end. -/
def readClock (cs : List Char) : Option ((Nat × Nat × Nat × Nat) × Bool) :=
  (readNumbers 3 none [] cs).map fun r =>
    ((r.numbers[0]?.getD 0, r.numbers[1]?.getD 0, r.numbers[2]?.getD 0, r.micros), r.complete)

/-- So many hours, minutes, seconds and microseconds, in microseconds. -/
def clockMicros (clock : Nat × Nat × Nat × Nat) : Int :=
  let (hour, minute, second, micro) := clock
  (hour * 3600 + minute * 60 + second) * 1000000 + micro

/-- A time of day with an optional offset.  What is left over before an offset is passed over, and
an offset of less than a second is none. -/
def readTime (cs : List Char) : Option (Int × Option Int) := do
  let isMark := fun c => c == '+' || c == '-' || c == 'Z'
  let zone := cs.dropWhile fun c => !isMark c
  let ((hour, minute, second, micro), complete) ← readClock (cs.takeWhile fun c => !isMark c)
  if hour ≥ 24 || minute ≥ 60 || second ≥ 60 then none
  let time := clockMicros (hour, minute, second, micro)
  match zone with
  | [] => if complete then some (time, none) else none
  | 'Z' :: rest => if isEnd rest then some (time, some 0) else none
  | sign :: rest =>
    let (clock, complete) ← readClock rest
    let offset := clockMicros clock
    if !complete || offset ≥ 86400000000 then none
    some (time, some (if offset < 1000000 then 0 else if sign == '-' then -offset else offset))

/-- The bytes of a text, each as the character of its number. -/
def bytesOf (s : String) : List Char := s.toUTF8.toList.map fun b => Char.ofNat b.toNat

/-- The number of bytes of the mark between date and time: any one character. -/
def markWidth (cs : List Char) : Nat :=
  match cs with
  | [] => 0
  | c :: _ =>
    if c.toNat < 0x80 then 1 else if c.toNat < 0xE0 then 2 else if c.toNat < 0xF0 then 3 else 4

/-- Reads a written time.  Places in it are counted in bytes. -/
def parse? (s : String) : Option LocalTime := do
  let cs := bytesOf s
  if cs.length < 7 then none
  let split := dateLength cs
  let day ← readDate (cs.take split)
  let start := day * 86400000000
  if cs.length ≤ split then return ⟨start, none⟩
  let (time, offset) ← readTime (cs.drop (split + markWidth (cs.drop split)))
  return ⟨start + time, offset⟩

/-- The instant of a time with an offset. -/
def instant? (t : LocalTime) : Option Instant := t.offset.map fun o => ⟨t.micros - o⟩

end LocalTime

namespace Instant

/-- The instant so many microseconds from the start of 1970, if its date is one of the years 1 to
9999. -/
def ofMicros (micros : Int) : Usable Instant :=
  if Calendar.dayNumber 1 1 1 * 86400000000 ≤ micros &&
      micros < Calendar.dayNumber 10000 1 1 * 86400000000 then .ok ⟨micros⟩
  else .error ⟨.overflow, "date value out of range", none⟩

/-- A number with at least so many digits. -/
def padded (width n : Nat) : String := Number.padLeft width (Number.digitsText n)

/-- The date of an instant. -/
def dateText (i : Instant) : String :=
  let (year, month, day) := Calendar.ofDayNumber (i.micros / 86400000000)
  padded 4 year.toNat ++ "-" ++ padded 2 month ++ "-" ++ padded 2 day

/-- The standard notation of an instant. -/
def text (i : Instant) : String :=
  let micro := (i.micros % 1000000).toNat
  let second := (i.micros / 1000000 % 86400).toNat
  i.dateText ++ "T" ++ padded 2 (second / 3600) ++ ":" ++ padded 2 (second / 60 % 60) ++ ":" ++
    padded 2 (second % 60) ++ (if micro == 0 then "" else "." ++ padded 6 micro) ++ "+00:00"

/-- Seconds between two instants, with three places. -/
def secondsSince (i start : Instant) : Float :=
  let d := i.micros - start.micros
  Number.roundPlaces 3 (Number.ofFraction ⟨decide (d < 0), d.natAbs, 1000000⟩)

/-- Whole milliseconds of an instant from the start of 1970 on, by way of its seconds as a
floating-point number. -/
def millis (i : Instant) : Nat :=
  let seconds := Number.ofFraction ⟨decide (i.micros < 0), i.micros.natAbs, 1000000⟩
  (Number.truncInt (seconds * 1000.0)).toNat

end Instant

end ComponentMigration
