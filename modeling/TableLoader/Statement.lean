/-
# Statements

A statement collects the rows of a batch. Values are bound to its parameters one
by one; a row is complete when all are bound, and is then put into the batch.
Sending a batch leaves the statement empty if it succeeds and unchanged if it
fails. A closed statement refuses everything.

Key definitions: `Statement`, `Statement.open?`, `Statement.bind`,
`Statement.addRow`, `Statement.send`, `Statement.close`.
-/
import TableLoader.Act
import TableLoader.Insert
import TableLoader.Parameter

namespace TableLoader

/-- A statement with its bound parameters and the rows of its batch. -/
structure Statement where
  insert : Insert
  types : List ColumnType
  parameters : List (Option Parameter)
  batch : Array (List Cell)
  closed : Bool

namespace Statement

/-- A new statement: nothing is bound and the batch is empty. -/
def fresh (insert : Insert) (types : List ColumnType) : Statement where
  insert := insert
  types := types
  parameters := List.replicate insert.placeholders none
  batch := #[]
  closed := false

/-- A new statement, if there is one type for each placeholder. -/
def open? (insert : Insert) (types : List ColumnType) : Except Error Statement :=
  if types.length = insert.placeholders then .ok (fresh insert types)
  else .error (.typeCount types.length insert.placeholders)

/-- Binds a parameter at an index. -/
def bind (index : Int) (p : Parameter) (s : Statement) : Except Error Statement :=
  if s.closed then .error .closedStatement
  else if 0 ≤ index ∧ index < s.parameters.length then
    .ok { s with parameters := s.parameters.set index.toNat (some p) }
  else .error (.showing (.int index) (.badIndex index))

/-- Converts a cell and binds it. -/
def set (k : Conversion) (index : Int) (c : Cell) (s : Statement) : Except Error Statement := do
  s.bind index (← k.apply c)

/-- Binds the missing value. -/
def setNull (type : SqlType) (index : Int) (s : Statement) : Except Error Statement :=
  s.bind index ⟨type, .null⟩

/-- The indices of the parameters that are not bound. -/
def unboundIndices (s : Statement) : List Nat :=
  (s.parameters.zipIdx.filter fun p => p.1.isNone).map Prod.snd

/-- The row that the bound parameters make. -/
def row (s : Statement) : Except Error (List Cell) :=
  (s.types.zip (s.parameters.filterMap id)).mapM fun (type, p) => p.sent type

/-- Puts the row of the bound parameters into the batch. -/
def addRow (s : Statement) : Except Error Statement :=
  if s.closed then .error .closedStatement
  else if s.unboundIndices ≠ [] then .error (.unbound s.unboundIndices)
  else do
    let row ← s.row
    .ok { s with
      batch := s.batch.push row
      parameters := List.replicate s.parameters.length none }

/-- Nothing is bound, the batch is empty, and everything is refused from now on. -/
def close (s : Statement) : Statement :=
  { s with batch := #[], parameters := List.replicate s.parameters.length none, closed := true }

/-- Sends the batch; the result is the number of its rows. -/
def send : Act Statement Nat := fun s w =>
  if s.closed then ⟨.error .closedStatement, s, w, []⟩
  else
    let (failure, w) := w.nextInsert
    let event := Event.insert s.insert.head s.batch.toList true failure
    match failure with
    | some e => ⟨.error e, s, w, [event]⟩
    | none => ⟨.ok s.batch.size, { s with batch := #[] }, w, [event]⟩

/-- Closes the statement. -/
def closing : Act Statement Unit := .modify close

end Statement
end TableLoader
