/-
# Insert templates

The insertion that a load prepares once and sends for every batch: the table and
the fields that get a value. The template shows one placeholder for each field;
what is sent ends where the rows follow.

Key definitions: `Insert`, `Insert.sql`, `Insert.head`.
-/

namespace TableLoader

/-- An insertion into the fields of a table. -/
structure Insert where
  table : String
  fields : List String
deriving DecidableEq, Repr

namespace Insert

/-- The number of values of one row. -/
def placeholders (i : Insert) : Nat := i.fields.length

/-- The statement in front of the rows. -/
def head (i : Insert) : String :=
  "insert into " ++ i.table ++ " (" ++ ",".intercalate i.fields ++ ") values"

/-- The statement with its placeholders. -/
def sql (i : Insert) : String :=
  i.head ++ " (" ++ ",".intercalate (i.fields.map fun _ => "?") ++ ")"

end Insert
end TableLoader
