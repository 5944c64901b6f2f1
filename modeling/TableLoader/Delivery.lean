/-
# Delivery of a batch

A batch is sent until it is delivered, its attempts are used up, or an error
comes that is not worth another attempt. A batch whose attempts are used up is
dropped, and the load goes on without it. The statement is closed when the batch
is delivered or dropped, and after an error without a code.

Key definitions: `Statement.trySend`, `Statement.deliverWithin`,
`Statement.deliver`.
-/
import TableLoader.Statement

namespace TableLoader

/-- The name of the log of loading. -/
def writerLog : String := "spark_connector.clickhouse.writer"

namespace Statement

/-- Sends the batch once. The result is none if it was delivered and the code of the error if
the error is worth another attempt. -/
def trySend (codes : List Cell) : Act Statement (Option Cell) := do
  match ← Act.attempt send with
  | .ok _ => return none
  | .error e =>
    if !e.isClientError then Act.fail e
    else
      let failure ← Act.ofExcept (classify e codes)
      match failure.kind with
      | .retryable => return some failure.code
      | .unknown =>
        closing
        Act.fail (.driver failure)
      | _ => Act.fail (.driver failure)

/-- Gives up a batch whose attempts are used up. -/
def drop (code : Cell) : Act Statement Bool := do
  let s ← Act.get
  Act.log .warning writerLog ("batch dropped after retries code=" ++ code.display ++
    " rows=" ++ toString s.batch.size)
  closing
  return false

/-- Ends the work on a batch that was delivered. -/
def finish : Act Statement Bool := do
  closing
  return true

/-- Notes that a batch is sent again, with so many attempts left after that. The record is given
the number, not its text, so that a number with too many digits is no failure of the load. -/
def noteRetry (code : Cell) (remaining : Nat) : Act Statement Unit :=
  Act.log .warning writerLog ("batch failed code=" ++ code.display ++
    "; retrying (remaining=" ++ (Cell.int remaining).display ++ ")")

/-- Sends the batch, with a number of further attempts. The result says whether it was
delivered; if not, it was dropped. -/
def deliverWithin (codes : List Cell) : Nat → Act Statement Bool
  | 0 => do
    match ← trySend codes with
    | none => finish
    | some code => drop code
  | remaining + 1 => do
    match ← trySend codes with
    | none => finish
    | some code =>
      noteRetry code remaining
      deliverWithin codes remaining

/-- Sends the batch under a retry policy. A negative number of further attempts is none. -/
def deliver (codes : List Cell) (retries : Int) : Act Statement Bool :=
  deliverWithin codes retries.toNat

end Statement
end TableLoader
