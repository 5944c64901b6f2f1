/-
# Decimal numbers

A finite decimal number is `± coefficient * 10 ^ exponent` and keeps its
exponent, so `1.10` and `1.1` are equal and print differently. Beside the
finite numbers there are two infinities and the quiet and signaling
not-a-numbers, which may carry a payload of digits. A numeral is refused if the
number it stands for lies outside the range of exponents.

Key definitions: `Decimal`, `read`, `text`, `truncate`, `normal`, `ofBinary64`.
-/
import TableLoader.Text.Blank
import TableLoader.Number.Binary64

namespace TableLoader.Number

open Text

/-- A decimal number. -/
inductive Decimal where
  | nan (negative signaling : Bool) (payload : Nat)
  | infinity (negative : Bool)
  | finite (negative : Bool) (coefficient : Nat) (exponent : Int)
deriving DecidableEq, Repr

namespace Decimal

/-- The largest power of ten of a leading digit. -/
def largestPower : Int := 999999999999999999

/-- The smallest power of ten of a last digit. -/
def smallestPower : Int := -1999999999999999997

/-- The numeral as a decimal number, if its powers of ten are in range. -/
def ofNumeral? (negative : Bool) (x : Numeral) : Option Decimal :=
  let leading := if x.coefficient = 0 then x.exponent else x.exponent + digitCount x.coefficient - 1
  if leading ≤ largestPower ∧ smallestPower ≤ x.exponent then
    some (.finite negative x.coefficient x.exponent)
  else none

/-- The number of the name `nan`, `snan`, `inf` or `infinity`, or of a numeral. -/
def readUnsigned (negative : Bool) (s : List Char) : Option Decimal :=
  let lower := s.map Char.toLower
  let digits := (s.reverse.takeWhile Char.isDigit).reverse
  let name := lower.take (lower.length - digits.length)
  if name = ['n', 'a', 'n'] then some (.nan negative false (natOfAscii digits))
  else if name = ['s', 'n', 'a', 'n'] then some (.nan negative true (natOfAscii digits))
  else if lower = "inf".toList ∨ lower = "infinity".toList then some (.infinity negative)
  else (readNumeral s).bind (ofNumeral? negative)

/-- The number that a text stands for. Blanks around it and all underscores carry no
meaning. -/
def read (s : String) : Option Decimal :=
  let (negative, t) := splitSign (asciiDigits ((trim s.toList).filter (· ≠ '_')))
  readUnsigned negative t

/-- A finite number without its sign. It is written out if that takes no digits that it
does not have and no more than five zeros behind the point, and with an exponent otherwise. -/
def finiteChars (coefficient : Nat) (exponent : Int) : List Char :=
  let digits := Nat.toDigits 10 coefficient
  let point := exponent + digits.length
  let written := if exponent ≤ 0 ∧ -6 < point then point else 1
  let body :=
    if written ≤ 0 then '0' :: '.' :: List.replicate (-written).toNat '0' ++ digits
    else if (digits.length : Int) ≤ written then digits
    else digits.take written.toNat ++ '.' :: digits.drop written.toNat
  let power := point - written
  if power = 0 then body
  else body ++ 'E' :: (if power < 0 then '-' else '+') :: Nat.toDigits 10 power.natAbs

/-- The text of a number without its sign. -/
def unsignedChars : Decimal → List Char
  | .nan _ signaling payload =>
    (if signaling then "sNaN" else "NaN").toList ++
      if payload = 0 then [] else Nat.toDigits 10 payload
  | .infinity _ => "Infinity".toList
  | .finite _ coefficient exponent => finiteChars coefficient exponent

/-- The number is written with a minus sign. -/
def isNegative : Decimal → Bool
  | .nan negative _ _ => negative
  | .infinity negative => negative
  | .finite negative _ _ => negative

/-- The text of a number. -/
def text (d : Decimal) : String :=
  String.ofList ((if d.isNegative then ['-'] else []) ++ d.unsignedChars)

/-- The largest number of digits of an integer for which there is memory. -/
def memoryLimit : Int := 1000000000

/-- The integer part of a finite number has so many digits that it does not fit into memory. -/
def isVast (coefficient : Nat) (exponent : Int) : Bool :=
  coefficient ≠ 0 && memoryLimit < digitCount coefficient + exponent

/-- The integer part of a finite number. -/
def truncate (negative : Bool) (coefficient : Nat) (exponent : Int) : Int :=
  let n : Nat :=
    if coefficient = 0 then 0
    else if 0 ≤ exponent then coefficient * Nat.pow 10 exponent.toNat
    else if digitCount coefficient ≤ (-exponent).toNat then 0
    else coefficient / Nat.pow 10 (-exponent).toNat
  if negative then -n else n

/-- Not zero; not-a-number counts as something. -/
def isNonzero : Decimal → Bool
  | .finite _ coefficient _ => coefficient ≠ 0
  | _ => true

/-- The value of a finite number, as the coefficient without zeros at its end and the
exponent that goes with it. -/
def normal (negative : Bool) (coefficient : Nat) (exponent : Int) : Int × Int :=
  if coefficient = 0 then (0, 0)
  else
    let digits := (Nat.toDigits 10 coefficient).reverse
    let kept := (digits.dropWhile (· = '0')).reverse
    let n : Nat := natOfAscii kept
    (if negative then -n else n, exponent + (digits.length - kept.length : Nat))

/-- A floating-point number as a decimal number of the same value. -/
def ofBinary64 : Binary64 → Decimal
  | .nan => .nan false false 0
  | .infinity negative => .infinity negative
  | .finite negative m e =>
    if 0 ≤ e then .finite negative (m * Nat.pow 2 e.toNat) 0
    else .finite negative (m * Nat.pow 5 (-e).toNat) e

/-- An integer as a decimal number. -/
def ofInt (n : Int) : Decimal := .finite (n < 0) n.natAbs 0

/-- Two numbers have the same value; not-a-number has none. -/
def sameValue : Decimal → Decimal → Bool
  | .infinity s, .infinity t => s = t
  | .finite s c e, .finite t d f => normal s c e = normal t d f
  | _, _ => false

end Decimal
end TableLoader.Number
