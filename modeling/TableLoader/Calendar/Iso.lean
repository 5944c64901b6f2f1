/-
# Reading ISO 8601 dates and times

Read are the basic and the extended forms of calendar dates and of week dates;
behind a date one separating character of any kind and a time of day to the
hour, minute, second or fraction; and behind the time `Z` or an offset. A
fraction follows a point, a comma, or the third number of the time, and is cut
to microseconds.

The readers work on the UTF-8 bytes of the text, taken as characters
(`octets`), since the length of the text in bytes decides where the date ends
and whether it is a date at all. What is left behind a time is refused, except
in front of an offset, where one more character is passed over; an offset of
less than a second counts as none.

Key definitions: `octets`, `readDay`, `dateEnd`, `readClock`, `Date.read`,
`DateTime.read`.
-/
import TableLoader.Text.Percent
import TableLoader.Number.Numeral
import TableLoader.Calendar.DateTime

namespace TableLoader.Calendar

open Number

/-- The UTF-8 bytes of a text, as characters. -/
def octets (s : List Char) : List Char :=
  (Text.Percent.utf8 s).map fun b => Char.ofNat b.toNat

/-- The number of exactly `n` digits, and what follows it. -/
def readNumber (n : Nat) (s : List Char) : Option (Nat × List Char) :=
  let digits := s.take n
  if digits.length = n ∧ digits.all Char.isDigit then some (natOfAscii digits, s.drop n) else none

/-- What follows the character `c`, if it comes first. -/
def afterChar (c : Char) : List Char → Option (List Char)
  | d :: rest => if d = c then some rest else none
  | [] => none

/-- What follows the hyphen of the extended form. -/
def afterHyphen (extended : Bool) (s : List Char) : Option (List Char) :=
  if extended then afterChar '-' s else some s

/-- The date at the front of a text; characters behind it are passed over. -/
def readDay (s : List Char) : Option Date := do
  let (year, rest) ← readNumber 4 s
  let extended := rest.head? == some '-'
  let rest := if extended then rest.tail else rest
  match rest with
  | 'W' :: rest =>
    let (week, rest) ← readNumber 2 rest
    if rest = [] then Date.ofWeek? year week 1
    else
      let (day, _) ← readNumber 1 (← afterHyphen extended rest)
      Date.ofWeek? year week day
  | rest =>
    let (month, rest) ← readNumber 2 rest
    let (day, _) ← readNumber 2 (← afterHyphen extended rest)
    Date.of? year month day

/-- The date that a text of bytes stands for. Its length is that of a date. -/
def readDate (s : List Char) : Option Date :=
  if s.length = 7 ∨ s.length = 8 ∨ s.length = 10 then readDay s else none

/-- The date that a text stands for. -/
def Date.read (s : List Char) : Option Date := readDate (octets s)

/-- Where the date ends in a text of a date and a time. -/
def dateEnd (s : List Char) : Option Nat :=
  let isAt (k : Nat) (p : Char → Bool) : Bool := (s[k]?.map p).getD false
  if s.length = 7 then some 7
  else if isAt 4 (· = '-') then
    if isAt 5 (· = 'W') then
      if isAt 8 (· = '-') then
        if s.length = 9 then none
        else if isAt 10 Char.isDigit then some 8 else some 10
      else some 8
    else some 10
  else if isAt 4 (· = 'W') then
    let stop := 7 + ((s.drop 7).takeWhile Char.isDigit).length
    some (if stop < 9 then stop else if stop % 2 = 0 then 7 else 8)
  else some 8

/-- A text of bytes without its first character, which may be several bytes. -/
def dropCharacter : List Char → List Char
  | [] => []
  | c :: rest =>
    if c.toNat < 0x80 then rest
    else if c.toNat < 0xE0 then rest.drop 1
    else if c.toNat < 0xF0 then rest.drop 2
    else rest.drop 3

/-- The character at the front, or `stop` where the text ends. -/
def frontOr (stop : Char) : List Char → Char
  | [] => stop
  | c :: _ => c

/-- The mark of the end of a text. -/
def endMark : Char := Char.ofNat 0

/-- What is read of a time: hours, minutes and seconds as far as they are given, the
microseconds, and whether something is left behind them. -/
structure Clock where
  fields : List Nat
  microsecond : Nat
  leftOver : Bool

/-- The microseconds of a fraction; digits behind the sixth are passed over. -/
def readFraction (stop : Char) (s : List Char) : Option Clock := do
  let n := min 6 s.length
  let (value, rest) ← readNumber n s
  some ⟨[], value * Nat.pow 10 (6 - n), frontOr stop (rest.dropWhile Char.isDigit) ≠ endMark⟩

/-- Puts a further number in front. -/
def Clock.cons (n : Nat) (c : Clock) : Clock := { c with fields := n :: c.fields }

/-- Up to `k` numbers of two digits and the fraction behind them; `stop` is the character
behind the text. Whether colons stand between the numbers is decided behind the first. -/
def readFields (stop : Char) (colons : Option Bool) : Nat → List Char → Option Clock
  | 0, s => readFraction stop s
  | k + 1, s => do
    let (n, rest) ← readNumber 2 s
    let c := frontOr stop rest
    let separated := colons.getD (c = ':')
    if rest.length ≤ 1 then some ⟨[n], 0, c ≠ endMark⟩
    else if separated && c = ':' then (readFields stop (some separated) k rest.tail).map (.cons n)
    else if c = '.' ∨ c = ',' then (readFraction stop rest.tail).map (.cons n)
    else if separated then none
    else (readFields stop (some separated) k rest).map (.cons n)

/-- Hours, minutes, seconds and a fraction. -/
def readClock (stop : Char) (s : List Char) : Option Clock := readFields stop none 3 s

/-- The `k`th number of a time, zero where it is not given. -/
def Clock.get (c : Clock) (k : Nat) : Nat := c.fields.getD k 0

/-- Begins an offset. -/
def isOffsetMark (c : Char) : Bool := c = '+' || c = '-' || c = 'Z'

/-- The offset in a text that begins with its mark. -/
def readOffset : List Char → Option Offset
  | [] => none
  | 'Z' :: rest => if frontOr endMark rest = endMark then Offset.of? 0 else none
  | mark :: rest => do
    let c ← readClock endMark rest
    if c.leftOver then none
    else
      let seconds := c.get 0 * 3600 + c.get 1 * 60 + c.get 2
      let size : Nat := if seconds = 0 then 0 else seconds * 1000000 + c.microsecond
      Offset.of? (if mark = '-' then -size else size)

/-- The time of day that has been read. -/
def Clock.time? (c : Clock) : Option TimeOfDay :=
  TimeOfDay.of? (c.get 0) (c.get 1) (c.get 2) c.microsecond

/-- The time of day and the offset that a text stands for. -/
def readTime (s : List Char) : Option (TimeOfDay × Option Offset) := do
  let clockText := s.takeWhile (!isOffsetMark ·)
  let rest := s.dropWhile (!isOffsetMark ·)
  let c ← readClock (frontOr endMark rest) clockText
  if rest = [] then if c.leftOver then none else return (← c.time?, none)
  else return (← c.time?, some (← readOffset rest))

/-- The date and time of day that a text of bytes stands for; without a time it is midnight. -/
def readDateTime (s : List Char) : Option DateTime :=
  if s.length < 7 then none
  else do
    let n ← dateEnd s
    let date ← readDay (s.take n)
    if s.length ≤ n then return ⟨date, .midnight, none⟩
    else
      let (time, offset) ← readTime (dropCharacter (s.drop n))
      return ⟨date, time, offset⟩

/-- The date and time of day that a text stands for. -/
def DateTime.read (s : List Char) : Option DateTime := readDateTime (octets s)

end TableLoader.Calendar
