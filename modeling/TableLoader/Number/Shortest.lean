/-
# The shortest text of a floating-point number

A floating-point number is written with the fewest decimal digits from which it
is read back, and of the shortest such digits with those nearest to it. A
decimal number is read as the floating-point number in whose interval it lies:
the interval reaches half way to each neighbour, and its ends belong to it if
the mantissa is even (`Interval`). For each number of digits only the two
neighbours of the number on the grid of that many digits have to be tried
(`nearest?`).

Powers of ten from `1e-4` up to `1e15` are written out, with at least one digit
on each side of the point, and all others with an exponent of at least two
digits.

Key definitions: `interval`, `nearest?`, `shortest`, `Binary64.text`.
-/
import TableLoader.Number.Binary64

namespace TableLoader.Number

/-- Bounds of the numbers that are read as one floating-point number, as multiples
of a quarter of the unit of its mantissa. -/
structure Interval where
  lower : Nat
  upper : Nat
  closed : Bool

/-- The interval around `m * 2 ^ e`. The number below a power of two is only half as far
away as the one above it. -/
def interval (m : Nat) (e : Int) : Interval where
  lower := 4 * m - (if m = Nat.pow 2 52 ∧ -1074 < e then 1 else 2)
  upper := 4 * m + 2
  closed := m % 2 = 0

/-- `n / d` lies in the interval. -/
def Interval.contains (i : Interval) (n d : Nat) : Bool :=
  if i.closed then i.lower * d ≤ n && n ≤ i.upper * d else i.lower * d < n && n < i.upper * d

/-- The power `p` for which `10 ^ (p - 1) ≤ m * 2 ^ e < 10 ^ p`. -/
def magnitude (m : Nat) (e : Int) : Int :=
  let (n, d) := Binary64.ratio m e
  (digitCount (n * Nat.pow 10 330 / d) : Int) - 330

/-- The grid unit `10 ^ g`, measured in quarters of `2 ^ e`. -/
def gridUnit (g e : Int) : Nat × Nat :=
  (Nat.pow 10 g.toNat * Nat.pow 2 (2 - e).toNat, Nat.pow 10 (-g).toNat * Nat.pow 2 (e - 2).toNat)

/-- The multiple of `10 ^ g` nearest to `m * 2 ^ e`, a tie to the even one, of those from
which the number is read back. -/
def nearest? (m : Nat) (e g : Int) : Option Nat :=
  let (n, d) := gridUnit g e
  let below := 4 * m * d / n
  let above := below + 1
  let i := interval m e
  match i.contains (below * n) d, i.contains (above * n) d with
  | false, false => none
  | true, false => some below
  | false, true => some above
  | true, true =>
    let down := 4 * m * d - below * n
    let up := above * n - 4 * m * d
    if down < up || (down == up && below % 2 == 0) then some below else some above

/-- The shortest decimal number from which `m * 2 ^ e` is read back. Seventeen digits are
always enough. -/
def shortest (m : Nat) (e : Int) : Numeral :=
  let p := magnitude m e
  let grids := (List.range 17).map fun (n : Nat) => p - 1 - n
  (grids.findSome? fun g => (nearest? m e g).map (⟨·, g⟩)).getD ⟨0, 0⟩

/-- Decimal digits without zeros at their end. -/
def significant (n : Nat) : List Char :=
  ((Nat.toDigits 10 n).reverse.dropWhile (· = '0')).reverse

/-- The digits `ds` with a point so that their value is below `10 ^ p` and, if the first digit
is not zero, at least `10 ^ (p - 1)`. -/
def positional (ds : List Char) (p : Int) : List Char :=
  if p ≤ 0 then '0' :: '.' :: List.replicate (-p).toNat '0' ++ ds
  else if (ds.length : Int) ≤ p then
    ds ++ List.replicate (p.toNat - ds.length) '0' ++ ['.', '0']
  else ds.take p.toNat ++ '.' :: ds.drop p.toNat

/-- The digits `ds` with a point behind the first one and the power of ten `x`. -/
def scientific (ds : List Char) (x : Int) : List Char :=
  let exponent := Nat.toDigits 10 x.natAbs
  ds.take 1 ++ (if ds.length ≤ 1 then [] else '.' :: ds.drop 1) ++
    'e' :: (if x < 0 then '-' else '+') ::
    List.replicate (2 - exponent.length) '0' ++ exponent

/-- The text of a positive number. -/
def shortestChars (m : Nat) (e : Int) : List Char :=
  let s := shortest m e
  let ds := significant s.coefficient
  let x := s.exponent + digitCount s.coefficient - 1
  if -4 ≤ x ∧ x < 16 then positional ds (x + 1) else scientific ds x

/-- The text of a number: the shortest one from which it is read back. -/
def Binary64.text : Binary64 → String
  | .nan => "nan"
  | .infinity negative => if negative then "-inf" else "inf"
  | .finite negative m e =>
    String.ofList ((if negative then ['-'] else []) ++
      if m = 0 then ['0', '.', '0'] else shortestChars m e)

end TableLoader.Number
