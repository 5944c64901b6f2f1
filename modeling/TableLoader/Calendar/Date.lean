/-
# Dates

A date is a day of the Gregorian calendar, extended backwards, in the years 1
to 9999. Days are counted from 1 March of the year 0, so that a leap day is the
last day of its year and the length of a month has one formula (`daysBefore`).
ISO weeks begin on Monday, and the first week of a year is the one with its
first Thursday.

Key definitions: `Date`, `Date.of?`, `dayNumber`, `civil`, `Date.ofWeek?`.
-/

namespace TableLoader.Calendar

/-- The year has a 29 February. -/
def isLeap (year : Nat) : Bool := year % 4 == 0 && (year % 100 != 0 || year % 400 == 0)

/-- The number of days of a month. -/
def daysIn (year month : Nat) : Nat :=
  if month = 2 then if isLeap year then 29 else 28
  else if month = 4 ∨ month = 6 ∨ month = 9 ∨ month = 11 then 30 else 31

/-- A day of the calendar. -/
def isDay (year month day : Nat) : Bool :=
  1 ≤ year && year ≤ 9999 && 1 ≤ month && month ≤ 12 && 1 ≤ day && day ≤ daysIn year month

/-- A date. -/
structure Date where
  year : Nat
  month : Nat
  day : Nat
  valid : isDay year month day = true
deriving DecidableEq, Repr

/-- The date of a year, a month and a day, if there is such a day. -/
def Date.of? (year month day : Nat) : Option Date :=
  if h : isDay year month day = true then some ⟨year, month, day, h⟩ else none

/-- The days before 1 March of a year that are not before 1 March of the year 0. -/
def daysBefore (year : Int) : Int := 365 * year + year / 4 - year / 100 + year / 400

/-- The number of days from 1 March of the year 0 to a day. -/
def dayNumber (year : Int) (month day : Nat) : Int :=
  let marchYear := if month ≤ 2 then year - 1 else year
  let monthsFromMarch := (month + 9) % 12
  daysBefore marchYear + ((153 * monthsFromMarch + 2) / 5 : Nat) + day - 1

/-- Year, month and day of a day number. A cycle of 400 years has 146097 days. -/
def civil (number : Int) : Int × Nat × Nat :=
  let cycle := number / 146097
  let inCycle := (number % 146097).toNat
  let yearInCycle := (inCycle - inCycle / 1460 + inCycle / 36524 - inCycle / 146096) / 365
  let dayOfYear := inCycle - (365 * yearInCycle + yearInCycle / 4 - yearInCycle / 100)
  let monthsFromMarch := (5 * dayOfYear + 2) / 153
  let day := dayOfYear - (153 * monthsFromMarch + 2) / 5 + 1
  let month := if monthsFromMarch < 10 then monthsFromMarch + 3 else monthsFromMarch - 9
  (cycle * 400 + yearInCycle + (if month ≤ 2 then 1 else 0), month, day)

/-- The day of the week of a day number: 0 is Monday. -/
def weekday (number : Int) : Nat := ((number + 2) % 7).toNat

/-- The day number of the Monday of the first week of a year. -/
def firstMonday (year : Nat) : Int :=
  let newYear := dayNumber year 1 1
  let monday := newYear - weekday newYear
  if weekday newYear ≤ 3 then monday else monday + 7

/-- The number of weeks of a year: 53 if it begins on a Thursday, or on a Wednesday and is a
leap year. -/
def weeksIn (year : Nat) : Nat :=
  let first := weekday (dayNumber year 1 1)
  if first = 3 ∨ (first = 2 ∧ isLeap year) then 53 else 52

/-- The date of a day (1 is Monday) of a week of a year. -/
def Date.ofWeek? (year week day : Nat) : Option Date :=
  if 1 ≤ year ∧ 1 ≤ week ∧ week ≤ weeksIn year ∧ 1 ≤ day ∧ day ≤ 7 then
    let (y, m, d) := civil (firstMonday year + 7 * (week - 1) + (day - 1))
    Date.of? y.toNat m d
  else none

end TableLoader.Calendar
