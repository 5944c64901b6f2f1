/-
# Cells

A cell is one value of a row, an option of a configuration, or a part of such a
value. Which of them a cell may be is decided where it is used: each column type
has a conversion of its own.

Key definitions: `Cell`, `Row`, `Row.get?`, `Cell.isTruthy`.
-/
import TableLoader.Number.Decimal
import TableLoader.Calendar.DateTime

namespace TableLoader

open Number Calendar

/-- A value. A row is a tuple with names for its parts. -/
inductive Cell where
  | null
  | flag (b : Bool)
  | int (n : Int)
  | float (x : Binary64)
  | decimal (d : Decimal)
  | date (d : Date)
  | dateTime (t : DateTime)
  | text (s : String)
  | bytes (bs : List UInt8)
  | list (items : List Cell)
  | tuple (items : List Cell)
  | dict (entries : List (Cell × Cell))
  | row (fields : List (String × Cell))

instance : Inhabited Cell := ⟨.null⟩

/-- The cells of one row under the names of their columns. -/
abbrev Row := List (String × Cell)

/-- The cell of a column: the first one where a name is repeated. -/
def Row.get? (r : Row) (column : String) : Option Cell := r.lookup column

namespace Cell

/-- The cell is the missing value. -/
def isNull : Cell → Bool
  | .null => true
  | _ => false

/-- The cell counts as something: it is not missing, not false, not zero and not empty. -/
def isTruthy : Cell → Bool
  | .null => false
  | .flag b => b
  | .int n => n ≠ 0
  | .float x => x.isNonzero
  | .decimal d => d.isNonzero
  | .date _ => true
  | .dateTime _ => true
  | .text s => s ≠ ""
  | .bytes bs => !bs.isEmpty
  | .list cs => !cs.isEmpty
  | .tuple cs => !cs.isEmpty
  | .dict entries => !entries.isEmpty
  | .row fields => !fields.isEmpty

/-- A list of texts as a cell. -/
def texts (items : List String) : Cell := .list (items.map .text)

end Cell
end TableLoader
