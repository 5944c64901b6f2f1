/-
# Binding rows

The fields of an insertion get their values from a row by the names of its
columns. A field for which the row has no column, or a missing value, gets the
default of its type: zero, an empty text, the time or day of loading, or the
missing value where the type admits it. Every other value is converted to the
type inside all `Nullable` and `LowCardinality`.

The missing value of a time is bound as a date, and that of a date as a time.

Key definitions: `ColumnType.nullSql`, `ColumnType.defaultParameter`,
`ColumnType.parameter`, `Statement.bindField`, `Statement.bindRow`.
-/
import TableLoader.Statement

namespace TableLoader

open Calendar

/-- The SQL type of the missing value of a plain column. -/
def PlainType.nullSql : PlainType → SqlType
  | .string => .varchar
  | .dateTime => .date
  | .date => .time
  | .int8 | .uInt8 | .int16 | .uInt16 | .int32 | .uInt32 => .integer
  | .int64 | .uInt64 => .bigint
  | .float32 => .float
  | .float64 => .double
  | .decimal => .decimal
  | .unknown => .other

/-- What the values of a plain column are converted to; a column of unknown kind takes the
text of any value. -/
def PlainType.conversion? : PlainType → Option Conversion
  | .string | .date | .dateTime => some .text
  | .int8 | .uInt8 | .int16 | .uInt16 | .int32 => some .integer
  | .uInt32 | .int64 | .uInt64 => some .long
  | .float32 => some .float
  | .float64 => some .double
  | .decimal => some .decimal
  | .unknown => none

namespace ColumnType

/-- The SQL type of the missing value by the outermost part of the type. -/
def outerNullSql : ColumnType → SqlType
  | plain type _ => type.nullSql
  | wrapped .array .. => .array
  | wrapped .. => .other

/-- The SQL type of the missing value; one `LowCardinality` is looked through. -/
def nullSql : ColumnType → SqlType
  | wrapped .lowCardinality _ inner => inner.outerNullSql
  | t => t.outerNullSql

/-- What a field of the type gets without a value. -/
def defaultParameter (now : DateTime) : ColumnType → Parameter
  | plain type raw =>
    match type with
    | .int8 | .uInt8 | .int16 | .uInt16 | .int32 | .uInt32 => ⟨.integer, .int 0⟩
    | .int64 | .uInt64 => ⟨.bigint, .int 0⟩
    | .float32 => ⟨.float, .float (Number.Binary64.zero false)⟩
    | .float64 => ⟨.double, .float (Number.Binary64.zero false)⟩
    | type => ⟨.varchar, .text ((defaultText? now (plain type raw)).getD "")⟩
  | wrapped .lowCardinality _ inner => inner.defaultParameter now
  | wrapped .array .. => ⟨.array, .null⟩
  | wrapped .nullable _ inner => ⟨inner.nullSql, .null⟩

/-- What a field of the type gets for a value. -/
def parameter (t : ColumnType) (c : Cell) : Except Error Parameter :=
  match t.core with
  | plain type _ =>
    match type.conversion? with
    | some k => k.apply c
    | none => do Conversion.text.apply (.text (← c.toText))
  | wrapped .. => Conversion.array.apply c

end ColumnType

namespace Statement

/-- Binds the default of a type. -/
def bindDefault (now : DateTime) (i : Nat) (t : ColumnType) (s : Statement) :
    Except Error Statement :=
  s.bind i (t.defaultParameter now)

/-- Binds the missing value of a type. -/
def bindNull (i : Nat) (t : ColumnType) (s : Statement) : Except Error Statement :=
  s.setNull t.nullSql i

/-- Binds a value of a type. -/
def bindValue (i : Nat) (t : ColumnType) (c : Cell) (s : Statement) : Except Error Statement := do
  s.bind i (← t.parameter c)

/-- Binds a field from the row's column of the same name, if the input has such a column. -/
def bindField (now : DateTime) (input : List String) (r : Row) (i : Nat) (field : String)
    (t : ColumnType) (s : Statement) : Except Error Statement :=
  if field ∉ input then s.bindDefault now i t
  else
    match r.get? field with
    | none => .error (.fault .noColumn)
    | some c => if c.isNull then s.bindDefault now i t else s.bindValue i t c

/-- Binds fields, the first of them at the index `i`. -/
def bindFields (now : DateTime) (input : List String) (r : Row) :
    Nat → List (String × ColumnType) → Act Statement Unit
  | _, [] => return ()
  | i, (field, t) :: rest => do
    Act.update (bindField now input r i field t)
    bindFields now input r (i + 1) rest

/-- Binds the fields of the statement from a row of an input with the columns `input`. -/
def bindRow (fields : List String) (types : List ColumnType) (input : List String) (r : Row) :
    Act Statement Unit := do
  let w ← Act.world
  bindFields w.now input r 0 (fields.zip types)

end Statement
end TableLoader
