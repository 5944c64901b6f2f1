/-
# Binary floating-point numbers of 64 bits

A finite number is `± mantissa * 2 ^ exponent` with the mantissa below `2 ^ 53`
and the exponent at least `-1074`; the mantissa is at least `2 ^ 52` unless the
exponent is the least one. Every operation is the exact one on rational
numbers, followed by one rounding to the nearest number (`ofRatio`); of two
nearest numbers the one with the even mantissa is taken.

Key definitions: `Binary64`, `roundDiv`, `ofRatio`, `ofInt?`, `sub`,
`truncate`, `read`.
-/
import TableLoader.Text.Blank
import TableLoader.Number.Integer
import TableLoader.Number.Numeral

namespace TableLoader.Number

open Text

/-- A binary floating-point number of 64 bits. -/
inductive Binary64 where
  | nan
  | infinity (negative : Bool)
  | finite (negative : Bool) (mantissa : Nat) (exponent : Int)
deriving DecidableEq, Repr

/-- `n / d` rounded to the nearest natural number, a tie to the even one. -/
def roundDiv (n d : Nat) : Nat :=
  let q := n / d
  let r := n % d
  if 2 * r < d || (2 * r == d && q % 2 == 0) then q else q + 1

namespace Binary64

/-- Numerator and denominator of `num / den / 2 ^ e`. -/
def scale (num den : Nat) (e : Int) : Nat × Nat :=
  if 0 ≤ e then (num, den * Nat.pow 2 e.toNat) else (num * Nat.pow 2 (-e).toNat, den)

/-- The zero of a sign. -/
def zero (negative : Bool) : Binary64 := .finite negative 0 (-1074)

/-- The exponent of the number nearest to `num / den`, which is not zero: the mantissa
has 53 bits, or the exponent is the least one. -/
def exponentFor (num den : Nat) : Int :=
  let guess : Int := (Nat.log2 num : Int) - Nat.log2 den - 52
  let (n, d) := scale num den guess
  max (if n < Nat.pow 2 52 * d then guess - 1 else guess) (-1074)

/-- The number nearest to `± num / den`; infinity from `2 ^ 1024 - 2 ^ 970` on. -/
def ofRatio (negative : Bool) (num den : Nat) : Binary64 :=
  if num = 0 then zero negative
  else
    let e := exponentFor num den
    let (n, d) := scale num den e
    let m := roundDiv n d
    let (m, e) := if m = Nat.pow 2 53 then (Nat.pow 2 52, e + 1) else (m, e)
    if 971 < e then .infinity negative else .finite negative m e

/-- Numerator and denominator of `mantissa * 2 ^ exponent`. -/
def ratio (mantissa : Nat) (exponent : Int) : Nat × Nat :=
  if 0 ≤ exponent then (mantissa * Nat.pow 2 exponent.toNat, 1)
  else (mantissa, Nat.pow 2 (-exponent).toNat)

/-- The number nearest to `coefficient * 10 ^ exponent`. -/
def ofNumeral (negative : Bool) (x : Numeral) : Binary64 :=
  let magnitude := digitCount x.coefficient + x.exponent
  if x.coefficient = 0 ∨ magnitude < -400 then zero negative
  else if 400 < magnitude then .infinity negative
  else if 0 ≤ x.exponent then ofRatio negative (x.coefficient * Nat.pow 10 x.exponent.toNat) 1
  else ofRatio negative x.coefficient (Nat.pow 10 (-x.exponent).toNat)

/-- The number nearest to an integer, unless the integer is too large. -/
def ofInt? (n : Int) : Option Binary64 :=
  match ofRatio (n < 0) n.natAbs 1 with
  | .infinity _ => none
  | x => some x

/-- The integer part of a finite number. -/
def truncate (negative : Bool) (mantissa : Nat) (exponent : Int) : Int :=
  let (n, d) := ratio mantissa exponent
  if negative then -((n / d : Nat) : Int) else (n / d : Nat)

/-- Not zero; not-a-number counts as something. -/
def isNonzero : Binary64 → Bool
  | .finite _ m _ => m ≠ 0
  | _ => true

/-- The difference of two finite numbers, before rounding: numerator and denominator. -/
def subRatio (s : Bool) (m : Nat) (e : Int) (t : Bool) (n : Nat) (f : Int) : Int × Nat :=
  let (a, b) := ratio m e
  let (c, d) := ratio n f
  ((if s then -1 else 1) * (a * d : Nat) - (if t then -1 else 1) * (c * b : Nat), b * d)

/-- The rounded difference. Of two equal numbers it is the positive zero, but for
`-0 - +0`, which is the negative one. -/
def sub : Binary64 → Binary64 → Binary64
  | .nan, _ => .nan
  | _, .nan => .nan
  | .infinity s, .infinity t => if s = t then .nan else .infinity s
  | .infinity s, .finite .. => .infinity s
  | .finite .., .infinity t => .infinity !t
  | .finite s m e, .finite t n f =>
    let (num, den) := subRatio s m e t n f
    if num = 0 then zero (s && !t && m == 0) else ofRatio (num < 0) num.natAbs den

/-- `s` without its underscores, each of which has to stand between two digits. -/
def dropUnderscores (previous : Char) : List Char → Option (List Char)
  | [] => if previous = '_' then none else some []
  | c :: rest =>
    if c = '_' then if previous.isDigit then dropUnderscores c rest else none
    else if previous = '_' && !c.isDigit then none
    else (dropUnderscores c rest).map (c :: ·)

/-- The number that an unsigned text stands for: a numeral, or a name of infinity or of no
number in any case. -/
def readUnsigned (negative : Bool) (s : List Char) : Option Binary64 :=
  let name := String.ofList (s.map Char.toLower)
  if name = "inf" ∨ name = "infinity" then some (.infinity negative)
  else if name = "nan" then some .nan
  else (readNumeral s).map (ofNumeral negative)

/-- The number that characters stand for. -/
def readChars (s : List Char) : Option Binary64 :=
  (dropUnderscores ' ' (asciiDigits (trimWhere isNumberBlank s))).bind fun t =>
    let (negative, u) := splitSign t
    readUnsigned negative u

/-- The number that a text stands for. -/
def read (s : String) : Option Binary64 := readChars s.toList

/-- The number that ASCII bytes stand for. -/
def readBytes (bs : List UInt8) : Option Binary64 :=
  if bs.all (· < 0x80) then readChars (bs.map fun b => Char.ofNat b.toNat) else none

end Binary64
end TableLoader.Number
