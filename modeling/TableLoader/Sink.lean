/-
# The table sink

A sink loads data frames into one table. Its settings are checked first, against
the table as the database describes it (`Sink.check`); then the sink is prepared,
which fills in defaults and makes the insertion (`Sink.prepare`); then data
frames are loaded, partition by partition (`Sink.output`). Without configured
fields the columns of each data frame are the fields.

What a step has set stays set when the step fails later on, and when the sink is
given other settings.

Key definitions: `DataFrame`, `Sink`, `Sink.check`, `Sink.prepare`,
`Sink.output`.
-/
import TableLoader.ColumnType.Parser
import TableLoader.PartitionLoad
import TableLoader.SinkOptions
import TableLoader.TimingLog
import TableLoader.Number.Fixed

namespace TableLoader

/-- Rows in partitions, with the names of their columns. -/
structure DataFrame where
  columns : List String
  partitions : List (List Row)

/-- The columns of a table, with their types. -/
abbrev TableSchema := OrderedMap String ColumnType

/-- A sink: its settings, and what the steps so far have made of them. -/
structure Sink where
  config : Config
  table : Option String
  schema : TableSchema
  fields : Option (List String)
  connection : Option ConnectionSettings
  prepared : Option Insert
  policy : RetryPolicy
  bulkSize : Nat
  bulkSize_pos : 0 < bulkSize

namespace Sink

/-- The name of the log. -/
def logger : String := "spark_connector.clickhouse.sink"

/-- The name of this kind of sink. -/
def kindName : String := "ClickHouseSink"

/-- A sink with settings of which nothing has been made. -/
def ofConfig (config : Config) : Sink where
  config := config
  table := none
  schema := .empty
  fields := none
  connection := none
  prepared := none
  policy := .default
  bulkSize := defaultBulkSize
  bulkSize_pos := by decide

/-- Other settings. -/
def setConfig (config : Config) (s : Sink) : Sink := { s with config := config }

/-- The fields that are no columns of the table. -/
def unknownFields (schema : TableSchema) (fields : List String) : List String :=
  fields.filter fun f => !schema.contains f

/-- The types of fields that cannot be loaded. -/
def unsupportedTypes (schema : TableSchema) (fields : List String) : List String :=
  fields.filterMap fun f => (schema.get? f).bind fun t => if t.isSupported then none else some t.raw

/-- The fields are columns of the table that can be loaded. -/
def acceptFields (schema : TableSchema) (table : String) (fields : List String) : CheckResult :=
  let unknown := unknownFields schema fields
  let unsupported := unsupportedTypes schema fields
  if unknown ≠ [] then .failed (.unknownFields unknown table)
  else if unsupported ≠ [] then .failed (.unsupportedTypes unsupported)
  else .passed

/-- The types of fields. -/
def typesOf (schema : TableSchema) (table : String) (fields : List String) :
    Except Error (List ColumnType) :=
  let unknown := unknownFields schema fields
  if unknown ≠ [] then .error (.unknownFields unknown table)
  else .ok (fields.filterMap schema.get?)

/-- The schema of a table, over a connection that is open. -/
def fetchSchema (table : String) : Act Sink TableSchema := do
  let columns ← describeTable table
  let schema := OrderedMap.ofList (columns.map fun c => (c.1, ColumnType.parse c.2))
  Act.log .info logger ("fetched schema table=" ++ table ++ " columns=" ++ toString schema.size)
  return schema

/-- Notes a failed check. -/
def noteFailure (what : String) (r : CheckResult) : Act Sink Unit :=
  if r.success then return ()
  else Act.log .error logger ("clickhouse sink " ++ what ++ ": " ++ r.message)

/-- Checks the configured fields, if there are any, against the schema. -/
def checkFields : Act Sink CheckResult := do
  let s ← Act.get
  match ← Act.ofExcept (s.config.texts? "fields") with
  | none => return .passed
  | some fields =>
    Act.modify fun s => { s with fields := some fields }
    let result := acceptFields s.schema (s.table.getD "") fields
    noteFailure "schema check failed" result
    return result

/-- Checks the settings: all required options are given, and the configured fields are
columns that can be loaded. -/
def check : Act Sink CheckResult := do
  let s ← Act.get
  let result := s.config.checkRequired requiredOptions
  if !result.success then
    noteFailure "config invalid" result
    return result
  else
    let settings ← Act.ofExcept (ConnectionSettings.ofConfig s.config)
    Act.modify fun s => { s with connection := some settings }
    let table ← Act.ofExcept (ConnectionSettings.required s.config "table")
    Act.modify fun s => { s with table := some table }
    withConnection settings do
      let schema ← fetchSchema table
      Act.modify fun s => { s with schema := schema }
    checkFields

/-- Sets the size of a batch. -/
def setBulkSize (size : Int) (s : Sink) : Except Error Sink :=
  if h : 0 < size then
    .ok { s with bulkSize := size.toNat, bulkSize_pos := by omega }
  else .error (.showing (.int size) (.badBulkSize size))

/-- Fills in defaults, and makes the retry policy and the insertion. -/
def prepare : Act Sink Unit := do
  Act.modify fun s => { s with config := s.config.withDefaults defaultOptions }
  let s ← Act.get
  let policy ← Act.ofExcept (RetryPolicy.ofConfig s.config)
  Act.modify fun s => { s with policy := policy }
  let size ← Act.ofExcept (s.config.integer? "bulk_size")
  Act.update (setBulkSize (size.getD defaultBulkSize))
  match s.table, s.fields with
  | some table, some fields =>
    let insert : Insert := ⟨table, fields⟩
    Act.modify fun s => { s with prepared := some insert }
    Act.log .info logger ("prepared insert: " ++ insert.sql)
  | _, _ => return ()

/-- The insertion for a data frame: with the configured fields, or with its columns. -/
def insertFor (s : Sink) (table : String) (columns : List String) : Insert :=
  match s.fields with
  | none => ⟨table, columns⟩
  | some fields => s.prepared.getD ⟨table, fields⟩

/-- The plan for a data frame. -/
def planFor (s : Sink) (table : String) (settings : ConnectionSettings) (columns : List String) :
    Except Error PartitionPlan := do
  let insert := s.insertFor table columns
  let types ← typesOf s.schema table insert.fields
  PartitionPlan.of? settings insert types columns s.bulkSize s.policy

/-- Loads partitions one after the other. -/
def loadPartitions {σ : Type} (plan : PartitionPlan) : List (List Row) → Act σ Unit
  | [] => return ()
  | rows :: rest => do
    let stats ← plan.loadPartition rows
    Act.emit (.partition stats)
    loadPartitions plan rest

/-- A duration in seconds, as it is logged. -/
def durationText (start stop : Number.Binary64) : String := (stop.sub start).fixed 3 ++ "s"

/-- Loads a data frame. -/
def output (df : DataFrame) : Act Sink Unit := do
  let s ← Act.get
  match s.table, s.connection with
  | some table, some settings =>
    if s.fields.isNone then
      Act.log .info logger ("prepared insert (inferred fields): " ++
        (s.insertFor table df.columns).sql)
    let plan ← Act.ofExcept (s.planFor table settings df.columns)
    let start ← Act.readClock
    loadPartitions plan df.partitions
    let stop ← Act.readClock
    TimingLog.append ("[clickhouse sink] table=" ++ table ++ " duration=" ++
      durationText start stop)
  | _, _ => Act.fail .notChecked

end Sink
end TableLoader
