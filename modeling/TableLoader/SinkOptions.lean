/-
# Options of the sink

The options of the table sink: which of them have to be given, which have a
default, and how they are read from the environment. There, an option is the
variable `SPARK_CLICKHOUSE_SINK_` and its name in upper case; options of the
connection have `OPT_` in front of the name and are taken in the order of their
variables.

Key definitions: `requiredOptions`, `defaultOptions`, `SinkOptions.ofEnvironment`,
`SinkOptions.masked`.
-/
import TableLoader.Config
import TableLoader.Connection.Settings
import TableLoader.Environment
import TableLoader.RetryPolicy

namespace TableLoader

/-- The number of rows of a batch where none is configured. -/
def defaultBulkSize : Nat := 20000

/-- The options that have to be given. -/
def requiredOptions : List String := ["host", "table", "database", "username", "password"]

/-- The options that have a default, with their defaults. -/
def defaultOptions : Config :=
  .ofList [("bulk_size", .int defaultBulkSize), ("retry_codes", .list []),
    ("retry", .int RetryPolicy.defaultRetries)]

namespace SinkOptions

/-- The beginning of the variables of options. -/
def variableStart : String := "SPARK_CLICKHOUSE_SINK_"

/-- The beginning of the variables of connection options. -/
def connectionVariableStart : String := variableStart ++ "OPT_"

/-- The variable of an option. -/
def variableOf (key : String) : String := variableStart ++ Text.upper key

/-- A text option, if it is given. -/
def textOption (env : Environment) (key : String) : List (String × Cell) :=
  match env.text? (variableOf key) with
  | none => []
  | some value => [(key, .text value)]

/-- A list option, if it has items. -/
def listOption (env : Environment) (key : String) : List (String × Cell) :=
  match env.items (variableOf key) with
  | [] => []
  | items => [(key, Cell.texts items)]

/-- An integer option, if it is given. -/
def integerOption (env : Environment) (key : String) : Except Error (List (String × Cell)) := do
  match ← env.integer? (variableOf key) with
  | none => return []
  | some n => return [(key, .int n)]

/-- The connection options, in the order of their variables. -/
def connectionOptions (env : Environment) : List (String × Cell) :=
  (env.keys.mergeSort fun a b => a ≤ b).filterMap fun key => do
    let rest ← Text.dropStart? connectionVariableStart key
    let value ← env.text? key
    some (ConnectionSettings.optionStart ++ Text.lower rest, .text value)

/-- The options in an environment. -/
def ofEnvironment (env : Environment) : Except Error Config := do
  let texts := ["host", "database", "table", "username", "password"].flatMap (textOption env)
  let bulkSize ← integerOption env "bulk_size"
  let retry ← integerOption env "retry"
  return .ofList (texts ++ listOption env "fields" ++ bulkSize ++ retry ++
    listOption env "retry_codes" ++ connectionOptions env)

/-- Words in the names of options that are not shown. -/
def secretWords : List String := ["PASSWORD", "SECRET", "TOKEN"]

/-- `part` stands somewhere in `s`. -/
def occursIn (part : List Char) : List Char → Bool
  | [] => part.isEmpty
  | c :: rest => part.isPrefixOf (c :: rest) || occursIn part rest

/-- The value of the option is not shown. -/
def isSecret (key : String) : Bool :=
  secretWords.any fun word => occursIn word.toList (Text.upper key).toList

/-- The value of an option as it is shown. -/
def masked (key : String) (value : Cell) : Cell := if isSecret key then .text "***" else value

end SinkOptions
end TableLoader
