/-
# Quoted texts and quoted bytes

Inside the text of a list or a row, and where a failure names a file, a text
stands between quotes: single quotes, or double quotes if the text holds a
single quote and no double one. A backslash, the quote itself, the line and tab
characters and every character that is not printable are written as escapes.
Bytes are quoted by the same rule after the letter `b`, and every byte outside
visible ASCII is an escape.

Key definitions: `quoteFor`, `escapeChar`, `quote`, `quoteBytes`.
-/
import TableLoader.Text.Printable

namespace TableLoader.Text

/-- The lower-case hexadecimal digits of `n`, at least `width` of them. -/
def hexText (width n : Nat) : List Char :=
  let digits := Nat.toDigits 16 n
  List.replicate (width - digits.length) '0' ++ digits

/-- The quote put around `s`. -/
def quoteFor (s : List Char) : Char :=
  if s.contains '\'' && !s.contains '"' then '"' else '\''

/-- The escape of a character that is not printable, with two, four or eight digits. -/
def codeEscape (n : Nat) : List Char :=
  if n < 0x100 then '\\' :: 'x' :: hexText 2 n
  else if n < 0x10000 then '\\' :: 'u' :: hexText 4 n
  else '\\' :: 'U' :: hexText 8 n

/-- `c` as it stands between quotes `q`. -/
def escapeChar (q c : Char) : List Char :=
  if c = '\\' || c = q then ['\\', c]
  else if c = '\n' then ['\\', 'n']
  else if c = '\r' then ['\\', 'r']
  else if c = '\t' then ['\\', 't']
  else if isPrintable c then [c]
  else codeEscape c.toNat

/-- `s` between quotes. -/
def quoteChars (s : List Char) : List Char :=
  let q := quoteFor s
  q :: s.flatMap (escapeChar q) ++ [q]

/-- `s` between quotes. -/
def quote (s : String) : String := String.ofList (quoteChars s.toList)

/-- The byte `b` as it stands between quotes `q`. -/
def escapeByte (q : Char) (b : UInt8) : List Char :=
  let c := Char.ofNat b.toNat
  if c = '\\' || c = q then ['\\', c]
  else if c = '\n' then ['\\', 'n']
  else if c = '\r' then ['\\', 'r']
  else if c = '\t' then ['\\', 't']
  else if 0x20 ≤ b && b < 0x7F then [c]
  else '\\' :: 'x' :: hexText 2 b.toNat

/-- Bytes between quotes, after the letter `b`. -/
def quoteBytes (bs : List UInt8) : String :=
  let q := quoteFor (bs.map fun b => Char.ofNat b.toNat)
  String.ofList ('b' :: q :: bs.flatMap (escapeByte q) ++ [q])

end TableLoader.Text
