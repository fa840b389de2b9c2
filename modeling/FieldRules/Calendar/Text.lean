import FieldRules.Calendar.Instant
import FieldRules.Number.Numeral
import FieldRules.Text.Blank

/-!
# `FieldRules.Calendar.Text` — instants as text

## Contents
- **Writing.** `Instant.chars` is `YYYY-MM-DD HH:MM:SS.mmm`: years outside 0 to 9999 carry a sign,
  a leap second counts one second on, which is second 60 at the end of a minute, and digits beyond
  the millisecond are cut off.
- **Reading a literal.** `readLiteral?` takes a date with a time to the second, to the minute, or
  none, and cuts it to the millisecond.
- **Reading a zoned time.** `readZoned?` takes a date, a time to the second and an offset from
  universal time.

Both readers skip blanks before every number.
-/

namespace FieldRules.Calendar

open FieldRules.Number FieldRules.Text

/-! ## Writing -/

/-- Digits filled up with noughts in front to a least width. -/
def padded (width n : Nat) : List Char :=
  let ds := digits n
  List.replicate (width - ds.length) '0' ++ ds

/-- A year: four digits where they suffice, else a sign and at least four digits. -/
def yearChars (year : Int) : List Char :=
  if 0 ≤ year ∧ year ≤ 9999 then padded 4 year.toNat
  else (if year < 0 then '-' else '+') :: padded 4 year.natAbs

/-- A date as year, month and day. -/
def Date.chars (d : Date) : List Char :=
  yearChars d.year ++ '-' :: padded 2 d.month ++ '-' :: padded 2 d.day

/-- The instant to the millisecond. -/
def Instant.chars (t : Instant) : List Char :=
  let date := Date.ofDay (t.seconds / 86400)
  let second := (t.seconds % 86400).toNat
  date.chars ++ ' ' :: padded 2 (second / 3600) ++ ':' :: padded 2 (second / 60 % 60) ++
    ':' :: padded 2 (second % 60 + t.nanos / 1000000000) ++
    '.' :: padded 3 (t.nanos % 1000000000 / 1000000)

/-- The instant to the millisecond, as a string. -/
def Instant.text (t : Instant) : String :=
  String.ofList t.chars

/-! ## Parts of a date and time -/

/-- Takes at least one digit and at most `most`, after any blanks. -/
def takeNumber? (most : Nat) (cs : List Char) : Option (Nat × List Char) :=
  let cs := trimStart cs
  let ds := (cs.takeWhile Char.isDigit).take most
  if ds.isEmpty then none else some (value ds, cs.drop ds.length)

/-- Takes a year: four digits at most, or any number of digits after a sign. -/
def takeYear? (cs : List Char) : Option (Int × List Char) :=
  match trimStart cs with
  | '-' :: cs => signed (-1) cs
  | '+' :: cs => signed 1 cs
  | cs => (takeNumber? 4 cs).map fun (n, rest) => ((n : Int), rest)
where
  /-- The digits right after a sign. -/
  signed (sign : Int) (cs : List Char) : Option (Int × List Char) :=
    let ds := cs.takeWhile Char.isDigit
    if ds.isEmpty then none else some (sign * value ds, cs.drop ds.length)

/-- Takes one given character. -/
def takeChar? (c : Char) : List Char → Option (List Char)
  | d :: cs => if c = d then some cs else none
  | [] => none

/-- Takes a fraction of a second in nanoseconds, if a point follows. Digits beyond the ninth are
passed over. -/
def takeFraction? : List Char → Option (Nat × List Char)
  | '.' :: cs =>
    let ds := cs.takeWhile Char.isDigit
    if ds.isEmpty then none
    else some (value (ds.take 9) * Nat.pow 10 (9 - ds.length), cs.drop ds.length)
  | cs => some (0, cs)

/-- Takes year, month and day between hyphens. `gap` is what may be skipped before a hyphen. -/
def takeDate? (gap : List Char → List Char) (cs : List Char) : Option (Date × List Char) := do
  let (year, cs) ← takeYear? cs
  let (month, cs) ← takeNumber? 2 (← takeChar? '-' (gap cs))
  let (day, cs) ← takeNumber? 2 (← takeChar? '-' (gap cs))
  return (⟨year, month, day⟩, cs)

/-- Takes hour and minute around a colon. -/
def takeMinute? (gap : List Char → List Char) (cs : List Char) :
    Option (Nat × Nat × List Char) := do
  let (hour, cs) ← takeNumber? 2 cs
  let (minute, cs) ← takeNumber? 2 (← takeChar? ':' (gap cs))
  return (hour, minute, cs)

/-- Takes a colon, the second and its fraction. -/
def takeSecond? (gap : List Char → List Char) (cs : List Char) :
    Option (Nat × Nat × List Char) := do
  let (second, cs) ← takeNumber? 2 (← takeChar? ':' (gap cs))
  let (nanos, cs) ← takeFraction? cs
  return (second, nanos, cs)

/-- A date and a time of day, without a zone. Second 60 is a leap second. -/
structure Moment where
  date : Date
  hour : Nat
  minute : Nat
  second : Nat
  nanos : Nat
  deriving DecidableEq, Repr

/-- The seconds and nanoseconds of a moment whose clock is `offset` seconds ahead of universal
time. There is none for a date or time of day that does not exist or that the calendar does not
reach. -/
def Moment.toSeconds? (m : Moment) (offset : Int) : Option (Int × Nat) :=
  if m.date.Valid ∧ -262143 ≤ m.date.year ∧ m.date.year ≤ 262142 ∧
      m.hour < 24 ∧ m.minute < 60 ∧ m.second ≤ 60 then
    let leap := m.second = 60
    let second := if leap then 59 else m.second
    some (m.date.toDay * 86400 + (m.hour * 3600 + m.minute * 60 + second : Nat) - offset,
      if leap then 1000000000 + m.nanos else m.nanos)
  else none

/-! ## Reading a literal -/

/-- A moment by date, hour, minute and second. -/
def readToSecond? (cs : List Char) : Option Moment := do
  let (date, cs) ← takeDate? id cs
  let (hour, minute, cs) ← takeMinute? id cs
  let (second, nanos, cs) ← takeSecond? id cs
  if cs.isEmpty then some ⟨date, hour, minute, second, nanos⟩ else none

/-- A moment by date, hour and minute. -/
def readToMinute? (cs : List Char) : Option Moment := do
  let (date, cs) ← takeDate? id cs
  let (hour, minute, cs) ← takeMinute? id cs
  if cs.isEmpty then some ⟨date, hour, minute, 0, 0⟩ else none

/-- The start of a date. -/
def readToDay? (cs : List Char) : Option Moment := do
  let (date, cs) ← takeDate? id cs
  if cs.isEmpty then some ⟨date, 0, 0, 0, 0⟩ else none

/-- The instant of a moment of universal time, if the calendar reaches that far. -/
def Moment.toInstant? (m : Moment) : Option Instant := do
  let (seconds, nanos) ← m.toSeconds? 0
  Instant.of? seconds nanos

/-- Reads a date with or without a time of day, cut to the millisecond. A leap second runs on into
the next minute. -/
def readLiteral? (cs : List Char) : Option Instant := do
  let whole ← ((readToSecond? cs).bind Moment.toInstant?) <|>
    ((readToMinute? cs).bind Moment.toInstant?) <|> ((readToDay? cs).bind Moment.toInstant?)
  Instant.ofMillis? whole.millis

/-! ## Reading a zoned time -/

/-- Takes exactly two digits. -/
def takeTwo? : List Char → Option (Nat × List Char)
  | a :: b :: cs => if a.isDigit ∧ b.isDigit then some (value [a, b], cs) else none
  | _ => none

/-- Takes an offset from universal time in seconds: `Z`, `UTC`, or a sign with hours and minutes,
which colons and blanks may part. -/
def takeOffset? (cs : List Char) : Option (Int × List Char) :=
  let cs := trimStart cs
  if (cs.take 3).map Char.toUpper = ['U', 'T', 'C'] then some (0, cs.drop 3)
  else
    match cs with
    | c :: rest =>
      if c = 'Z' ∨ c = 'z' then some (0, rest)
      else if c = '+' then signed 1 rest
      else if c = '-' ∨ c = '\u2212' then signed (-1) rest
      else none
    | [] => none
where
  /-- Hours and minutes after the sign. -/
  signed (sign : Int) (cs : List Char) : Option (Int × List Char) := do
    let (hours, cs) ← takeTwo? cs
    let (minutes, cs) ← takeTwo? (cs.dropWhile fun c => c = ':' || isBlank c)
    if minutes < 60 ∧ hours < 24 then some (sign * (hours * 3600 + minutes * 60 : Nat), cs)
    else none

/-- Reads a date, one of `T`, `t` and a space, a time of day to the second, and an offset. -/
def readZoned? (cs : List Char) : Option Instant := do
  let (date, cs) ← takeDate? trimStart cs
  let cs ← match cs with
    | c :: cs => if c = 'T' ∨ c = 't' ∨ c = ' ' then some cs else none
    | [] => none
  let (hour, minute, cs) ← takeMinute? trimStart cs
  let (second, nanos, cs) ← takeSecond? trimStart cs
  let (offset, cs) ← takeOffset? cs
  if (trimStart cs).isEmpty then
    let (seconds, nanos) ← Moment.toSeconds? ⟨date, hour, minute, second, nanos⟩ offset
    Instant.of? seconds nanos
  else none

end FieldRules.Calendar
