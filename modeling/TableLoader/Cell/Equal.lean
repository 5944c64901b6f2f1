/-
# Equal cells and sets of cells

Cells are equal if they have the same value: numbers of all kinds are compared
as numbers, and truth values count as 0 and 1; a row equals the tuple of its
values. Not-a-number equals nothing. A cell that can be changed in place, and
any cell with such a part, is no member of a set.

Key definitions: `Cell.same`, `Cell.isKey`, `Cell.dictOf`.
-/
import TableLoader.Cell

namespace TableLoader

open Number

namespace Cell

/-- The number that a cell is. -/
def number? : Cell → Option Decimal
  | .flag b => some (.ofInt (if b then 1 else 0))
  | .int n => some (.ofInt n)
  | .float x => some (.ofBinary64 x)
  | .decimal d => some d
  | _ => none

/-- The values of a row. -/
def values (fields : List (String × Cell)) : List Cell := fields.map Prod.snd

mutual

/-- The two cells have the same value. -/
def same : Cell → Cell → Bool
  | .null, .null => true
  | .date d, .date e => d == e
  | .dateTime t, .dateTime u => t.sameMoment u
  | .text s, .text t => s == t
  | .bytes bs, .bytes cs => bs == cs
  | .list cs, .list ds => sameAll cs ds
  | .tuple cs, .tuple ds => sameAll cs ds
  | .tuple cs, .row fields => sameAll cs (values fields)
  | .row fields, .tuple cs => sameFields fields cs
  | .row fields, .row others => sameFields fields (values others)
  | .dict es, .dict fs => es.length == fs.length && sameEntries es fs
  | c, d =>
    match c.number?, d.number? with
    | some x, some y => x.sameValue y
    | _, _ => false

def sameAll : List Cell → List Cell → Bool
  | [], [] => true
  | c :: cs, d :: ds => same c d && sameAll cs ds
  | _, _ => false

def sameFields : List (String × Cell) → List Cell → Bool
  | [], [] => true
  | (_, c) :: cs, d :: ds => same c d && sameFields cs ds
  | _, _ => false

/-- Every entry has one of the same key and value among `others`. -/
def sameEntries : List (Cell × Cell) → List (Cell × Cell) → Bool
  | [], _ => true
  | (k, v) :: es, others => others.any (fun e => same k e.1 && same v e.2) && sameEntries es others

end

mutual

/-- The cell can be a member of a set. -/
def isKey : Cell → Bool
  | .list _ => false
  | .dict _ => false
  | .decimal (.nan _ signaling _) => !signaling
  | .tuple items => areKeys items
  | .row fields => fieldsAreKeys fields
  | _ => true

def areKeys : List Cell → Bool
  | [] => true
  | c :: cs => isKey c && areKeys cs

def fieldsAreKeys : List (String × Cell) → Bool
  | [] => true
  | (_, c) :: cs => isKey c && fieldsAreKeys cs

end

/-- Gives the key its value: in its place if an equal key is there, else at the end. -/
def putEntry (k v : Cell) : List (Cell × Cell) → List (Cell × Cell)
  | [] => [(k, v)]
  | (j, w) :: es => if same j k then (j, v) :: es else (j, w) :: putEntry k v es

/-- The dictionary of a list of pairs. -/
def dictOf (pairs : List (Cell × Cell)) : Cell :=
  .dict (pairs.foldl (fun es e => putEntry e.1 e.2 es) [])

end Cell
end TableLoader
