/-
# Upper and lower case

Names of switches, log levels and options are compared after a change of case,
by the full case mappings of the Unicode standard: a character may become
several (`ß` becomes `SS`), and a capital sigma at the end of a word becomes
the final form of the small letter.

Key definitions: `upper`, `lower`, `isFinalSigma`.
-/
import TableLoader.Text.CaseTable

namespace TableLoader.Text

/-- The partner of the code point `n`, if `n` belongs to the run. -/
def CaseRun.partner? (r : CaseRun) (n : Nat) : Option Nat :=
  if r.first ≤ n && n ≤ r.last && (n - r.first) % r.step == 0 then some ((n : Int) + r.shift).toNat
  else none

/-- `c` lies in one of the ranges. -/
def inRanges (ranges : List (Nat × Nat)) (c : Char) : Bool :=
  ranges.any fun r => r.1 ≤ c.toNat && c.toNat ≤ r.2

/-- The upper-case form of a character. -/
def upperChar (c : Char) : List Char :=
  match upperLong.lookup c.toNat with
  | some form => form.map Char.ofNat
  | none => [((upperRuns.findSome? (·.partner? c.toNat)).map Char.ofNat).getD c]

/-- The upper-case form of a text. -/
def upper (s : String) : String := String.ofList (s.toList.flatMap upperChar)

/-- The first character that is not skipped is a letter with case. -/
def leadsWithCased (s : List Char) : Bool :=
  match s.dropWhile (inRanges ignorableRanges) with
  | [] => false
  | c :: _ => inRanges casedRanges c

/-- A sigma between `before` (nearest character first) and `after` ends a word. -/
def isFinalSigma (before after : List Char) : Bool :=
  leadsWithCased before && !leadsWithCased after

/-- The lower-case form of a character that is no capital sigma. -/
def lowerChar (c : Char) : List Char :=
  if c.toNat = 0x130 then [Char.ofNat 0x69, Char.ofNat 0x307]
  else [((lowerRuns.findSome? (·.partner? c.toNat)).map Char.ofNat).getD c]

/-- The lower-case form of a text of which `before` (nearest character first) has been read. -/
def lowerAfter (before : List Char) : List Char → List Char
  | [] => []
  | c :: rest =>
    (if c.toNat = 0x3A3 then
      [if isFinalSigma before rest then Char.ofNat 0x3C2 else Char.ofNat 0x3C3]
      else lowerChar c) ++ lowerAfter (c :: before) rest

/-- The lower-case form of a text. -/
def lower (s : String) : String := String.ofList (lowerAfter [] s.toList)

end TableLoader.Text
