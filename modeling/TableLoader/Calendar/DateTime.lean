/-
# Dates with a time of day

A date and time of day is exact to the microsecond and may carry the offset of
its local time from universal time, which is less than a day in either
direction. Its text is the ISO 8601 form; zero microseconds are left out, and
so are zero seconds of the offset. A moment that is counted in seconds may lie in
any year that the calendar of the system counts, and has a text if its year is a
number of 32 bits.

Key definitions: `TimeOfDay`, `Offset`, `DateTime`, `DateTime.text`,
`DateTime.stamp`, `utcStamp`.
-/
import TableLoader.Calendar.Date

namespace TableLoader.Calendar

/-- A time of day. -/
structure TimeOfDay where
  hour : Fin 24
  minute : Fin 60
  second : Fin 60
  microsecond : Fin 1000000
deriving DecidableEq, Repr

/-- The time of day of four numbers, if all are in range. -/
def TimeOfDay.of? (hour minute second microsecond : Nat) : Option TimeOfDay :=
  if h : hour < 24 ∧ minute < 60 ∧ second < 60 ∧ microsecond < 1000000 then
    some ⟨⟨hour, h.1⟩, ⟨minute, h.2.1⟩, ⟨second, h.2.2.1⟩, ⟨microsecond, h.2.2.2⟩⟩
  else none

/-- The beginning of a day. -/
def TimeOfDay.midnight : TimeOfDay := ⟨0, 0, 0, 0⟩

/-- Microseconds of a day. -/
def dayLength : Nat := 86400000000

/-- The offset of a local time from universal time. -/
structure Offset where
  microseconds : Int
  bounded : microseconds.natAbs < dayLength
deriving DecidableEq, Repr

/-- The offset of a number of microseconds, if it is less than a day. -/
def Offset.of? (microseconds : Int) : Option Offset :=
  if h : microseconds.natAbs < dayLength then some ⟨microseconds, h⟩ else none

/-- A date and time of day. -/
structure DateTime where
  date : Date
  time : TimeOfDay
  offset : Option Offset
deriving DecidableEq, Repr

/-- The decimal digits of `n`, at least `width` of them. -/
def padded (width n : Nat) : List Char :=
  let digits := Nat.toDigits 10 n
  List.replicate (width - digits.length) '0' ++ digits

/-- The text of a date. -/
def Date.chars (d : Date) : List Char :=
  padded 4 d.year ++ '-' :: padded 2 d.month ++ '-' :: padded 2 d.day

/-- The text of a date. -/
def Date.text (d : Date) : String := String.ofList d.chars

/-- A point and six digits, or nothing for zero. -/
def fractionChars (microsecond : Nat) : List Char :=
  if microsecond = 0 then [] else '.' :: padded 6 microsecond

/-- The text of a time of day without its fraction. -/
def TimeOfDay.chars (t : TimeOfDay) : List Char :=
  padded 2 t.hour ++ ':' :: padded 2 t.minute ++ ':' :: padded 2 t.second

/-- The text of an offset. -/
def Offset.chars (o : Offset) : List Char :=
  let size := o.microseconds.natAbs
  let seconds := size / 1000000
  let fraction := size % 1000000
  (if o.microseconds < 0 then '-' else '+') :: padded 2 (seconds / 3600) ++
    ':' :: padded 2 (seconds / 60 % 60) ++
    (if seconds % 60 = 0 ∧ fraction = 0 then []
      else ':' :: padded 2 (seconds % 60) ++ fractionChars fraction)

/-- The text of a date and time of day with `separator` between the two. -/
def DateTime.chars (separator : Char) (t : DateTime) : List Char :=
  t.date.chars ++ separator :: t.time.chars ++ fractionChars t.time.microsecond ++
    (match t.offset with
    | some o => o.chars
    | none => [])

/-- The text of a date and time of day. -/
def DateTime.text (separator : Char) (t : DateTime) : String := String.ofList (t.chars separator)

/-- A moment in the form that marks default values: year without padding, seconds last. -/
def DateTime.stamp (t : DateTime) : String :=
  String.ofList (Nat.toDigits 10 t.date.year ++ '-' :: padded 2 t.date.month ++
    '-' :: padded 2 t.date.day ++ ' ' :: t.time.chars)

/-- A date in the form that marks default values. -/
def Date.stamp (d : Date) : String :=
  String.ofList (Nat.toDigits 10 d.year ++ '-' :: padded 2 d.month ++ '-' :: padded 2 d.day)

/-- The day number of 1 January 1970. -/
def epochDay : Int := 719468

/-- Why a moment has no text. -/
inductive MomentFault where
  /-- the calendar of the system does not reach its year -/
  | beyondCalendar
  /-- its seconds or its year are too large a number to be written -/
  | tooLarge
deriving DecidableEq, Repr

/-- The numbers of 32 bits with a sign lie below it. -/
def wordLimit : Int := 0x80000000

/-- The numbers of 64 bits with a sign lie below it. -/
def longLimit : Int := 0x8000000000000000

/-- The year is counted by the calendar of the system: in 32 bits, from 1900 on. -/
def isCounted (year : Int) : Bool := -wordLimit ≤ year - 1900 && year - 1900 < wordLimit

/-- The text of a moment of universal time, the year without padding. -/
def utcText (year : Int) (month day second : Nat) : String :=
  toString year ++ String.ofList ('-' :: padded 2 month ++ '-' :: padded 2 day ++ 'T' ::
    padded 2 (second / 3600) ++ ':' :: padded 2 (second / 60 % 60) ++ ':' ::
    padded 2 (second % 60) ++ ['Z'])

/-- The text of the moment that lies `seconds` after the beginning of 1970. The seconds are a
number of 64 bits, and the year that is written one of 32. -/
def utcStamp (seconds : Int) : Except MomentFault String :=
  if seconds < -longLimit ∨ longLimit ≤ seconds then .error .tooLarge
  else
    let (year, month, day) := civil (epochDay + seconds / 86400)
    if !isCounted year then .error .beyondCalendar
    else if wordLimit ≤ year then .error .tooLarge
    else .ok (utcText year month day (seconds % 86400).toNat)

/-- The moment in microseconds since day number zero: universal time if the offset is known
and local time if not. -/
def DateTime.instant (t : DateTime) : Int :=
  let seconds := dayNumber t.date.year t.date.month t.date.day * 86400 +
    (t.time.hour * 3600 + t.time.minute * 60 + t.time.second : Nat)
  seconds * 1000000 + (t.time.microsecond : Nat) -
    (match t.offset with
    | some o => o.microseconds
    | none => 0)

/-- Two times name the same moment; one with and one without an offset never do. -/
def DateTime.sameMoment (t u : DateTime) : Bool :=
  t.offset.isSome == u.offset.isSome && t.instant == u.instant

end TableLoader.Calendar
