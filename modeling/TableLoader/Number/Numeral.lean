/-
# Decimal numerals

The common part of the texts of floating-point and decimal numbers: digits with
at most one point among them, and an optional power of ten after the letter
`e`. A numeral stands for `coefficient * 10 ^ exponent`.

Key definitions: `Numeral`, `readNumeral`, `asciiDigits`, `splitSign`.
-/
import TableLoader.Text.Digit

namespace TableLoader.Number

open Text

/-- `coefficient * 10 ^ exponent`. -/
structure Numeral where
  coefficient : Nat
  exponent : Int
deriving DecidableEq, Repr

/-- `s` with every decimal digit of another script replaced by the ASCII digit of its value. -/
def asciiDigits (s : List Char) : List Char :=
  s.map fun c => match digitValue? c with
    | some d => Char.ofNat (0x30 + d)
    | none => c

/-- The number that ASCII digits stand for. -/
def natOfAscii (s : List Char) : Nat := natOfDigits (s.map fun c => c.toNat - 0x30)

/-- A leading minus sign (`true`) or plus sign, and what follows it. -/
def splitSign : List Char → Bool × List Char
  | '-' :: rest => (true, rest)
  | '+' :: rest => (false, rest)
  | s => (false, s)

/-- The power of ten behind the digits: none, or `e` with a signed integer. -/
def readExponent : List Char → Option Int
  | [] => some 0
  | c :: rest =>
    let (negative, digits) := splitSign rest
    if (c = 'e' || c = 'E') && digits ≠ [] && digits.all Char.isDigit then
      some (if negative then -(natOfAscii digits : Int) else natOfAscii digits)
    else none

/-- The digits behind a point, if a point leads, and what follows them. -/
def splitFraction : List Char → List Char × List Char
  | '.' :: rest => (rest.takeWhile Char.isDigit, rest.dropWhile Char.isDigit)
  | s => ([], s)

/-- The numeral that an unsigned text of ASCII characters stands for. -/
def readNumeral (s : List Char) : Option Numeral :=
  let whole := s.takeWhile Char.isDigit
  let (fraction, rest) := splitFraction (s.dropWhile Char.isDigit)
  if whole = [] ∧ fraction = [] then none
  else (readExponent rest).map fun e => ⟨natOfAscii (whole ++ fraction), e - fraction.length⟩

/-- The number of decimal digits of `n`. -/
def digitCount (n : Nat) : Nat := (Nat.toDigits 10 n).length

end TableLoader.Number
