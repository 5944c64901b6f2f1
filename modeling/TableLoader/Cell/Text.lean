/-
# The text of a cell

A cell has two texts. `display` is how it stands alone: a text is itself, a date
has its ISO form. `literal` is how it stands as a part of another cell, where
texts are quoted and dates and decimal numbers name their kind, so that parts of
different kinds look different. A cell with an integer of too many digits in it
has a text that is never written (`Cell.isWritable`). Writing such a cell stops at
the first of these integers, in a row or outside of all rows (`Cell.stopsInRow`).

Key definitions: `Cell.display`, `Cell.literal`, `Cell.isWritable`,
`Cell.stopsInRow`.
-/
import TableLoader.Cell
import TableLoader.Number.Integer
import TableLoader.Text.Quoted
import TableLoader.Number.Shortest

namespace TableLoader

open Number Calendar

/-- `parts` with commas between them. -/
def commaSeparated (parts : List String) : String := ", ".intercalate parts

/-- A call with arguments, as a text. -/
def callText (name : String) (arguments : List String) : String :=
  name ++ "(" ++ commaSeparated arguments ++ ")"

namespace Cell

/-- A date as a part of another cell. -/
def dateLiteral (d : Date) : String :=
  callText "datetime.date" [toString d.year, toString d.month, toString d.day]

/-- The offset of a time as a part of another cell: days, seconds and microseconds, none of
the last two negative and none of the three zero. -/
def offsetLiteral (o : Offset) : String :=
  let n := o.microseconds
  if n = 0 then "datetime.timezone.utc"
  else
    let days := n / dayLength
    let inDay := n % dayLength
    let part (name : String) (k : Int) : List String := if k = 0 then [] else [name ++ toString k]
    callText "datetime.timezone" [callText "datetime.timedelta"
      (part "days=" days ++ part "seconds=" (inDay / 1000000) ++
        part "microseconds=" (inDay % 1000000))]

/-- A date and time as a part of another cell. Zeros at the end of the time are left out. -/
def dateTimeLiteral (t : DateTime) : String :=
  let second := toString t.time.second.val
  let microsecond := toString t.time.microsecond.val
  callText "datetime.datetime" <|
    [toString t.date.year, toString t.date.month, toString t.date.day,
      toString t.time.hour.val, toString t.time.minute.val] ++
    (if t.time.microsecond.val ≠ 0 then [second, microsecond]
      else if t.time.second.val ≠ 0 then [second] else []) ++
    (match t.offset with
    | some o => ["tzinfo=" ++ offsetLiteral o]
    | none => [])

/-- The text of a truth value. -/
def flagText (b : Bool) : String := if b then "True" else "False"

/-- Items between round brackets; a single one is followed by a comma. -/
def tupleText : List String → String
  | [one] => "(" ++ one ++ ",)"
  | items => "(" ++ commaSeparated items ++ ")"

mutual

/-- The text of a cell as a part of another cell. -/
def literal : Cell → String
  | .null => "None"
  | .flag b => flagText b
  | .int n => toString n
  | .float x => x.text
  | .decimal d => callText "Decimal" [Text.quote d.text]
  | .date d => dateLiteral d
  | .dateTime t => dateTimeLiteral t
  | .text s => Text.quote s
  | .bytes bs => Text.quoteBytes bs
  | .list items => "[" ++ commaSeparated (literals items) ++ "]"
  | .tuple items => tupleText (literals items)
  | .dict entries => "\x7b" ++ commaSeparated (entryLiterals entries) ++ "\x7d"
  | .row fields => callText "Row" (fieldLiterals fields)

def literals : List Cell → List String
  | [] => []
  | c :: cs => literal c :: literals cs

def entryLiterals : List (Cell × Cell) → List String
  | [] => []
  | (k, v) :: es => (literal k ++ ": " ++ literal v) :: entryLiterals es

def fieldLiterals : List (String × Cell) → List String
  | [] => []
  | (k, v) :: es => (k ++ "=" ++ literal v) :: fieldLiterals es

end

/-- The text of a cell that stands alone. -/
def display : Cell → String
  | .text s => s
  | .decimal d => d.text
  | .date d => d.text
  | .dateTime t => t.text ' '
  | c => literal c

mutual

/-- The cell can be written: no integer in it has too many digits. -/
def isWritable : Cell → Bool
  | .int n => Number.isWritable n
  | .list items => areWritable items
  | .tuple items => areWritable items
  | .dict entries => entriesAreWritable entries
  | .row fields => fieldsAreWritable fields
  | _ => true

def areWritable : List Cell → Bool
  | [] => true
  | c :: cs => isWritable c && areWritable cs

def entriesAreWritable : List (Cell × Cell) → Bool
  | [] => true
  | (k, v) :: es => isWritable k && isWritable v && entriesAreWritable es

def fieldsAreWritable : List (String × Cell) → Bool
  | [] => true
  | (_, v) :: es => isWritable v && fieldsAreWritable es

end

mutual

/-- Writing the cell, which cannot be written, stops in a row. -/
def stopsInRow : Cell → Bool
  | .row _ => true
  | .list items => stopInRow items
  | .tuple items => stopInRow items
  | .dict entries => entriesStopInRow entries
  | _ => false

def stopInRow : List Cell → Bool
  | [] => false
  | c :: cs => if isWritable c then stopInRow cs else stopsInRow c

def entriesStopInRow : List (Cell × Cell) → Bool
  | [] => false
  | (k, v) :: es =>
    if isWritable k then if isWritable v then entriesStopInRow es else stopsInRow v
    else stopsInRow k

end

end Cell
end TableLoader
