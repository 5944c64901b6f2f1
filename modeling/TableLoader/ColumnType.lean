/-
# Column types

The type of a column, as the table reports it: one of the plain kinds, or a
wrapper around another type. Every type keeps the text it was read from
(`ColumnType.raw`), without the blanks around it.

`Nullable` and `LowCardinality` change how a column is stored and not which
values it takes; `core` is the type without them. An array is no such wrapper: its
items are not looked at, and every array can be loaded.

Key definitions: `PlainType`, `Wrapper`, `ColumnType`, `core`, `isSupported`,
`defaultText?`.
-/
import TableLoader.Calendar.DateTime

namespace TableLoader

/-- The kinds of plain columns. A decimal number or a time keeps its parameters in the text
of the type only. -/
inductive PlainType where
  | string
  | date
  | dateTime
  | int8
  | int16
  | int32
  | int64
  | uInt8
  | uInt16
  | uInt32
  | uInt64
  | float32
  | float64
  | decimal
  | unknown
deriving DecidableEq, Repr

/-- The name of a kind. -/
def PlainType.name : PlainType → String
  | .string => "String"
  | .date => "Date"
  | .dateTime => "DateTime"
  | .int8 => "Int8"
  | .int16 => "Int16"
  | .int32 => "Int32"
  | .int64 => "Int64"
  | .uInt8 => "UInt8"
  | .uInt16 => "UInt16"
  | .uInt32 => "UInt32"
  | .uInt64 => "UInt64"
  | .float32 => "Float32"
  | .float64 => "Float64"
  | .decimal => "Decimal"
  | .unknown => "Unknown"

/-- The kinds whose type is their name alone. -/
def PlainType.named : List PlainType :=
  [.string, .date, .dateTime, .int8, .int16, .int32, .int64, .uInt8, .uInt16, .uInt32, .uInt64,
    .float32, .float64]

/-- Types made of another type. -/
inductive Wrapper where
  | nullable
  | lowCardinality
  | array
deriving DecidableEq, Repr

/-- The name of a wrapper. -/
def Wrapper.name : Wrapper → String
  | .nullable => "Nullable"
  | .lowCardinality => "LowCardinality"
  | .array => "Array"

/-- The values of the wrapped type are those of the type inside, and perhaps the missing value. -/
def Wrapper.isTransparent : Wrapper → Bool
  | .array => false
  | _ => true

/-- The type of a column. -/
inductive ColumnType where
  | plain (type : PlainType) (raw : String)
  | wrapped (wrapper : Wrapper) (raw : String) (inner : ColumnType)
deriving DecidableEq, Repr

namespace ColumnType

/-- The text that the type was read from. -/
def raw : ColumnType → String
  | plain _ raw => raw
  | wrapped _ raw _ => raw

/-- The name of the outermost part of the type. -/
def kindName : ColumnType → String
  | plain type _ => type.name
  | wrapped wrapper _ _ => wrapper.name

/-- The outermost part is `Nullable` or `LowCardinality`. -/
def isTransparent : ColumnType → Bool
  | plain .. => false
  | wrapped wrapper _ _ => wrapper.isTransparent

/-- The type inside all `Nullable` and `LowCardinality` around it. -/
def core : ColumnType → ColumnType
  | plain type raw => .plain type raw
  | wrapped wrapper raw inner =>
    if wrapper.isTransparent then inner.core else wrapped wrapper raw inner

/-- The type and the types inside it, from the outermost to the innermost. -/
def chain : ColumnType → List ColumnType
  | plain type raw => [.plain type raw]
  | wrapped wrapper raw inner => wrapped wrapper raw inner :: inner.chain

/-- Columns of the type can be loaded. -/
def isSupported : ColumnType → Bool
  | plain type _ => type ≠ .unknown
  | wrapped wrapper _ inner => if wrapper.isTransparent then inner.isSupported else true

/-- The text that a column of the type gets by default, if it is a column of texts: the time
or the day of loading, or nothing. -/
def defaultText? (now : Calendar.DateTime) : ColumnType → Option String
  | plain .dateTime _ => some now.stamp
  | plain .date _ => some now.date.stamp
  | plain .string _ => some ""
  | _ => none

theorem isSupported_core (t : ColumnType) : t.core.isSupported = t.isSupported := by
  induction t with
  | plain type raw => rfl
  | wrapped wrapper raw inner ih =>
    simp only [core]
    split
    · next h => simpa [isSupported, h] using ih
    · rfl

theorem core_not_transparent (t : ColumnType) : t.core.isTransparent = false := by
  induction t with
  | plain type raw => rfl
  | wrapped wrapper raw inner ih =>
    simp only [core]
    split
    · exact ih
    · next h => simpa [isTransparent] using h

end ColumnType
end TableLoader
