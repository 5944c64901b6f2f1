/-
# Loading a partition

The rows of a partition are loaded through one connection, in batches of
`bulkSize` rows. A batch is delivered as soon as it is full, and what is left
when the rows end is delivered last, even if it is empty. Each batch has a
statement of its own. A row that cannot be bound, and a batch that fails, end
the load; the connection is closed all the same.

Key definitions: `PartitionPlan`, `PartitionPlan.of?`, `flush`, `loadRows`,
`loadPartition`.
-/
import TableLoader.Binding
import TableLoader.Connection
import TableLoader.Delivery
import TableLoader.RetryPolicy

namespace TableLoader

/-- How the partitions of a data frame are loaded. There is one type for each field. -/
structure PartitionPlan where
  connection : ConnectionSettings
  insert : Insert
  types : List ColumnType
  inputFields : List String
  bulkSize : Nat
  policy : RetryPolicy
  types_aligned : types.length = insert.placeholders
  bulkSize_pos : 0 < bulkSize

namespace PartitionPlan

/-- The plan, if types and fields are aligned and a batch holds some row. -/
def of? (connection : ConnectionSettings) (insert : Insert) (types : List ColumnType)
    (inputFields : List String) (bulkSize : Int) (policy : RetryPolicy) :
    Except Error PartitionPlan :=
  if haligned : types.length = insert.placeholders then
    if hbulk : 0 < bulkSize then
      .ok ⟨connection, insert, types, inputFields, bulkSize.toNat, policy, haligned, by omega⟩
    else .error (.showing (.int bulkSize) (.badBulkSize bulkSize))
  else .error .typesNotAligned

variable {σ : Type} (plan : PartitionPlan)

/-- A statement of the plan. -/
def statement : Statement := Statement.fresh plan.insert plan.types

/-- The codes that are worth another attempt. -/
def codes : List Cell := plan.policy.codes.map .int

/-- Delivers the batch of a statement and counts it. -/
def flush (s : Statement) (stats : PartitionStats) : Act σ PartitionStats := do
  Act.log .debug writerLog ("flush batch rows=" ++ toString s.batch.size ++ " table=" ++
    plan.insert.table)
  let (delivered, _) ← Act.within s (Statement.deliver plan.codes plan.policy.retries)
  return { stats with
    batches := stats.batches + 1
    dropped := stats.dropped + if delivered then 0 else 1 }

/-- Binds a row and puts it into the batch. -/
def takeRow (r : Row) : Act Statement Unit := do
  Statement.bindRow plan.insert.fields plan.types plan.inputFields r
  Act.update Statement.addRow

/-- Loads rows; `pending` of those before are in the batch of the statement. -/
def loadRows : List Row → Statement → Nat → PartitionStats → Act σ PartitionStats
  | [], s, _, stats => flush plan s stats
  | r :: rest, s, pending, stats => do
    let (_, s) ← Act.within s (takeRow plan r)
    let stats := { stats with rows := stats.rows + 1 }
    if plan.bulkSize ≤ pending + 1 then do
      let stats ← flush plan s stats
      loadRows rest plan.statement 0 stats
    else loadRows rest s (pending + 1) stats

/-- Loads the rows of a partition. -/
def loadPartition (rows : List Row) : Act σ PartitionStats := do
  let stats ← withConnection plan.connection
    (loadRows plan rows plan.statement 0 PartitionStats.none)
  Act.log .info writerLog ("partition done table=" ++ plan.insert.table ++ " rows=" ++
    toString stats.rows ++ " batches=" ++ toString stats.batches ++ " dropped=" ++
    toString stats.dropped)
  return stats

end PartitionPlan
end TableLoader
