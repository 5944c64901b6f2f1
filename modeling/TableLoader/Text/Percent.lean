/-
# Percent encoding

In an address, user name, password and options are percent-encoded: the UTF-8
bytes of a text are written as they are if they are unreserved (letters and
digits of ASCII and `_.-~`) and as `%` with two upper-case hexadecimal digits
otherwise. In the query part a space is written `+` instead, and pairs of name
and value are joined by `=` and `&`.

Key definitions: `isUnreserved`, `encodeByte`, `encodeBytes`, `encode`,
`encodeForm`, `encodeQuery`.
-/
namespace TableLoader.Text.Percent

/-- Unreserved: a byte that stands for itself. -/
def isUnreserved (b : UInt8) : Bool :=
  (0x30 ≤ b && b ≤ 0x39) || (0x41 ≤ b && b ≤ 0x5A) || (0x61 ≤ b && b ≤ 0x7A) ||
    b == 0x5F || b == 0x2E || b == 0x2D || b == 0x7E

/-- The upper-case hexadecimal digit of value `n`. -/
def hexDigit (n : Nat) : Char := if n < 10 then Char.ofNat (0x30 + n) else Char.ofNat (0x37 + n)

/-- `%` and two hexadecimal digits. -/
def escape (b : UInt8) : List Char := ['%', hexDigit (b.toNat / 16), hexDigit (b.toNat % 16)]

/-- One byte, percent-encoded. -/
def encodeByte (b : UInt8) : List Char :=
  if isUnreserved b then [Char.ofNat b.toNat] else escape b

/-- Bytes, percent-encoded. -/
def encodeBytes (bs : List UInt8) : List Char := bs.flatMap encodeByte

/-- The UTF-8 bytes of a text. -/
def utf8 (s : List Char) : List UInt8 := s.flatMap String.utf8EncodeChar

/-- A text, percent-encoded. -/
def encode (s : String) : String := String.ofList (encodeBytes (utf8 s.toList))

/-- One byte in form encoding: a space is `+`. -/
def encodeFormByte (b : UInt8) : List Char := if b == 0x20 then ['+'] else encodeByte b

/-- A text in form encoding. -/
def encodeForm (s : String) : List Char := (utf8 s.toList).flatMap encodeFormByte

/-- Names and values as the query part of an address. -/
def encodeQuery (pairs : List (String × String)) : String :=
  String.ofList <| ['&'].intercalate <| pairs.map fun p => encodeForm p.1 ++ '=' :: encodeForm p.2

end TableLoader.Text.Percent
