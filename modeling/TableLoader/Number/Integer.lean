/-
# Integers written as text

An integer is written with an optional sign and decimal digits of any script.
Single underscores may stand between digits, and blanks around the whole; the
four separators U+001C to U+001F are not blank here. A text of more than
`digitLimit` digits is refused, and an integer of more digits is not written.

Key definitions: `digitLimit`, `readDigits`, `readInteger`, `readIntegerBytes`,
`isWritable`.
-/
import TableLoader.Text.Blank
import TableLoader.Text.Digit

namespace TableLoader.Number

open Text

/-- The largest number of digits of an integer that is read from a text or written as one. -/
def digitLimit : Nat := 4300

/-- The least number that has too many digits to be written. -/
def writtenBelow : Nat := Nat.pow 10 digitLimit

/-- The integer has a text: it does not have too many digits. -/
def isWritable (n : Int) : Bool := n.natAbs < writtenBelow

/-- The blanks that may stand around a number. -/
def isNumberBlank (c : Char) : Bool := isBlank c && !(28 ≤ c.toNat && c.toNat ≤ 31)

/-- The values of digits between which single underscores may stand. -/
def readDigits : List Char → Option (List Nat)
  | [] => none
  | c :: rest =>
    match digitValue? c, rest with
    | none, _ => none
    | some d, [] => some [d]
    | some d, '_' :: more => (readDigits more).map (d :: ·)
    | some d, next :: more => (readDigits (next :: more)).map (d :: ·)

/-- The natural number that the digits stand for, if they are not too many. -/
def readNatural (s : List Char) : Option Nat :=
  (readDigits s).bind fun ds => if ds.length ≤ digitLimit then some (natOfDigits ds) else none

/-- The integer that a text without blanks around it stands for. -/
def readSigned : List Char → Option Int
  | '-' :: rest => (readNatural rest).map fun n => -(n : Int)
  | '+' :: rest => (readNatural rest).map Int.ofNat
  | s => (readNatural s).map Int.ofNat

/-- The integer that a text stands for. -/
def readInteger (s : String) : Option Int := readSigned (trimWhere isNumberBlank s.toList)

/-- The integer that ASCII bytes stand for. -/
def readIntegerBytes (bs : List UInt8) : Option Int :=
  if bs.all (· < 0x80) then
    readSigned (trimWhere isNumberBlank (bs.map fun b => Char.ofNat b.toNat))
  else none

end TableLoader.Number
