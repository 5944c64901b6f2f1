/-
# Connections

A connection is opened with an address, answers questions for the columns of a
table, carries the batches of statements, and is closed. Whatever happens in
between, a connection that has been opened is closed once (`withConnection`).

Key definitions: `openConnection`, `withConnection`, `describeTable`.
-/
import TableLoader.Act
import TableLoader.Connection.Address

namespace TableLoader

variable {σ α : Type}

/-- Opens a connection. -/
def openConnection (settings : ConnectionSettings) : Act σ Unit := do
  let address ← Act.ofExcept settings.address
  Act.emit (.connect address)

/-- An action between the opening and the closing of a connection. -/
def withConnection (settings : ConnectionSettings) (a : Act σ α) : Act σ α := do
  openConnection settings
  Act.always a (Act.emit .disconnect)

/-- The failure or success of the question for the columns of a table. -/
def askForColumns (table : String) : Act σ Unit := fun s w =>
  let (failure, w) := w.nextDescribe
  let event := Event.describe ("desc " ++ table) failure
  match failure with
  | some e => ⟨.error e, s, w, [event]⟩
  | none => ⟨.ok (), s, w, [event]⟩

/-- The name and the type of a column as texts. -/
def columnText (column : Cell × Cell) : Except Error (String × String) := do
  return (← column.1.toText, ← column.2.toText)

/-- The names and types of the columns of a table. -/
def describeTable (table : String) : Act σ (List (String × String)) := do
  askForColumns table
  let w ← Act.world
  Act.ofExcept (w.schema.mapM columnText)

end TableLoader
