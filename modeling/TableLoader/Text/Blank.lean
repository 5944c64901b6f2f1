/-
# Blank characters and the cutting of texts

A text is cut at both ends before it is used: blanks around a host name, a
number or an option carry no meaning. Blank are the white-space characters of
the Unicode standard and the four separators U+001C to U+001F; the zero-width
characters are not. Lists of names are written with commas between them, and
their items are cut and dropped when nothing is left (`items`).

Key definitions: `isBlank`, `trim`, `strip`, `nonEmpty?`, `splitAt`, `items`.
-/
namespace TableLoader.Text

/-- Blank: white space of the Unicode standard, or one of U+001C to U+001F. -/
def isBlank (c : Char) : Bool :=
  let n := c.toNat
  (9 ≤ n && n ≤ 13) || (28 ≤ n && n ≤ 32) || n == 0x85 || n == 0xA0 || n == 0x1680 ||
    (0x2000 ≤ n && n ≤ 0x200A) || n == 0x2028 || n == 0x2029 || n == 0x202F || n == 0x205F ||
    n == 0x3000

/-- `s` without the characters of the class `p` at its two ends. -/
def trimWhere (p : Char → Bool) (s : List Char) : List Char :=
  ((s.dropWhile p).reverse.dropWhile p).reverse

/-- `s` without the blanks at its two ends. -/
def trim (s : List Char) : List Char := trimWhere isBlank s

/-- `s` without the blanks at its two ends. -/
def strip (s : String) : String := String.ofList (trim s.toList)

/-- The text, unless it is empty. -/
def nonEmpty? (s : Option String) : Option String := s.filter (· ≠ "")

/-- The pieces of `s` between the separators: one more than there are separators. -/
def splitAt (separator : Char) (s : String) : List String :=
  (s.toList.splitOn separator).map String.ofList

/-- The items of a list written with commas: each without the blanks around it,
and only those of which something is left. -/
def items (s : String) : List String :=
  ((splitAt ',' s).map strip).filter (· ≠ "")

/-- The text before and after the last occurrence of `separator`, if it occurs. -/
def cutLast (separator : Char) (s : List Char) : Option (List Char × List Char) :=
  if separator ∈ s then
    let back := s.reverse
    some ((back.dropWhile (· ≠ separator)).tail.reverse, (back.takeWhile (· ≠ separator)).reverse)
  else none

/-- `s` with `start` taken off its beginning, if it begins so. -/
def dropStart? (start s : String) : Option String :=
  if start.toList.isPrefixOf s.toList then some (String.ofList (s.toList.drop start.toList.length))
  else none

/-- `s` begins with `start`. -/
def startsWith (start s : String) : Bool := start.toList.isPrefixOf s.toList

end TableLoader.Text
