/-
# Events

What a load does to the outside, in the order in which it is done: calls of the
database client, calls of the session that computes data frames, log records and
calls of other sinks. A call of the client that can fail carries its failure.

Key definitions: `LogLevel`, `SessionCall`, `PartitionStats`, `Event`.
-/
import TableLoader.Error

namespace TableLoader

/-- How grave a log record is. -/
inductive LogLevel where
  | debug
  | info
  | warning
  | error
deriving DecidableEq, Repr

/-- The name of a level, as it is logged. -/
def LogLevel.name : LogLevel → String
  | .debug => "DEBUG"
  | .info => "INFO"
  | .warning => "WARNING"
  | .error => "ERROR"

/-- A call of the session or of its reader. -/
inductive SessionCall where
  | appName (name : String)
  | master (url : String)
  | config (key value : String)
  | create
  | format (name : String)
  | option (key value : String)
  | load (path : String)
  | stop
deriving DecidableEq, Repr

/-- What came of the rows of one partition. -/
structure PartitionStats where
  rows : Nat
  batches : Nat
  dropped : Nat
deriving DecidableEq, Repr

/-- The stats of a partition of which nothing has been read. -/
def PartitionStats.none : PartitionStats := ⟨0, 0, 0⟩

/-- One step that shows outside. -/
inductive Event where
  /-- a connection is opened -/
  | connect (url : String)
  /-- the columns of a table are asked for -/
  | describe (sql : String) (failure : Option Error)
  /-- rows are sent -/
  | insert (sql : String) (rows : List (List Cell)) (typesChecked : Bool) (failure : Option Error)
  /-- a connection is closed -/
  | disconnect
  /-- a partition has been loaded -/
  | partition (stats : PartitionStats)
  /-- a log record -/
  | log (level : LogLevel) (logger text : String)
  /-- a data frame is asked whether it has rows -/
  | isEmpty (label : String)
  /-- another sink is given a data frame -/
  | output (sink label : String)
  /-- a call of the session -/
  | session (call : SessionCall)
  /-- the session is asked whether it has been stopped -/
  | isStopped

end TableLoader
