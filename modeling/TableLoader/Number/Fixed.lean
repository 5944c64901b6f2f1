/-
# Floating-point numbers with a fixed number of places

Durations are shown in seconds with three places behind the point. The exact
value of the number is rounded to the nearest thousandth, a tie to the even
one; a sign stays even where only zeros are left.

Key definitions: `fixedChars`, `Binary64.fixed`.
-/
import TableLoader.Number.Binary64

namespace TableLoader.Number

/-- `n / 10 ^ places`, written with that many places. -/
def fixedChars (places n : Nat) : List Char :=
  let digits := Nat.toDigits 10 n
  let padded := List.replicate (places + 1 - digits.length) '0' ++ digits
  let whole := padded.length - places
  padded.take whole ++ '.' :: padded.drop whole

/-- The text of a number with `places` decimal places. -/
def Binary64.fixed (places : Nat) : Binary64 → String
  | .nan => "nan"
  | .infinity negative => if negative then "-inf" else "inf"
  | .finite negative m e =>
    let (n, d) := ratio m e
    String.ofList ((if negative then ['-'] else []) ++
      fixedChars places (roundDiv (n * Nat.pow 10 places) d))

end TableLoader.Number
