/-
# Parameters of a statement

A parameter is a value under the SQL type by which it is bound. A conversion
makes one from any cell, or refuses the cell. When its row is complete, a text
in a column of dates or times is read as what it stands for; every other value
goes to the database as it is.

Key definitions: `SqlType`, `Parameter`, `Conversion`, `Conversion.apply`,
`Parameter.sent`.
-/
import TableLoader.Calendar.Iso
import TableLoader.Cell.Convert
import TableLoader.ColumnType

namespace TableLoader

open Calendar

/-- Types by which parameters are bound. -/
inductive SqlType where
  | varchar
  | date
  | time
  | integer
  | bigint
  | float
  | double
  | decimal
  | array
  | other
deriving DecidableEq, Repr

namespace SqlType

/-- The name of a type. -/
def name : SqlType → String
  | varchar => "VARCHAR"
  | date => "DATE"
  | time => "TIME"
  | integer => "INTEGER"
  | bigint => "BIGINT"
  | float => "FLOAT"
  | double => "DOUBLE"
  | decimal => "DECIMAL"
  | array => "ARRAY"
  | other => "OTHER"

/-- All types. -/
def all : List SqlType :=
  [varchar, date, time, integer, bigint, float, double, decimal, array, other]

/-- The type of a name. -/
def ofName? (s : String) : Option SqlType := all.find? (·.name = s)

end SqlType

/-- A bound value. -/
structure Parameter where
  type : SqlType
  value : Cell

/-- What a cell is made into before it is bound. -/
inductive Conversion where
  | text
  | integer
  | long
  | float
  | double
  | decimal
  | array
deriving DecidableEq, Repr

namespace Conversion

/-- The type by which the value is bound. -/
def sqlType : Conversion → SqlType
  | text => .varchar
  | integer => .integer
  | long => .bigint
  | float => .float
  | double => .double
  | decimal => .decimal
  | array => .array

/-- The value that is bound for a cell. As a text every cell is bound unchanged. -/
def value : Conversion → Cell → Except Error Cell
  | text, c => .ok c
  | integer, c => c.toInteger.map .int
  | long, c => c.toInteger.map .int
  | float, c => c.toFloat.map .float
  | double, c => c.toFloat.map .float
  | decimal, c => c.toDecimal.map .decimal
  | array, c => c.toItems.map .list

/-- The parameter that is bound for a cell. -/
def apply (k : Conversion) (c : Cell) : Except Error Parameter := (k.value c).map (⟨k.sqlType, ·⟩)

end Conversion

/-- The value that is sent for a parameter of a column. -/
def Parameter.sent (type : ColumnType) (p : Parameter) : Except Error Cell :=
  match p.value, type.core with
  | .text s, .plain .date _ => (orFault .badValue (Date.read (s.toList.take 10))).map .date
  | .text s, .plain .dateTime _ => (orFault .badValue (DateTime.read s.toList)).map .dateTime
  | value, _ => .ok value

end TableLoader
