/-
# Streaming loads

A streaming load reads its first source, applies the transformations to it, and
starts one query for each sink. A query gives every micro-batch to its sink and
logs how long that took; a micro-batch without rows may be skipped. Queries are
numbered, and each keeps its progress in a directory of its own.

Key definitions: `MicroBatch`, `Target`, `Query`, `Query.make`, `Query.run`,
`Stream.start`, `joinPath`.
-/
import TableLoader.Sink

namespace TableLoader

variable {σ : Type}

/-- A part of a stream. The engine knows whether it has rows. -/
structure MicroBatch where
  id : Int
  label : String
  frame : DataFrame
  isEmpty : Bool

/-- Where data frames go: into a table, or into some other sink. -/
inductive Target where
  | table (sink : Sink)
  | other (name : String) (failure : Option Error)

namespace Target

/-- The name of the kind of sink. -/
def name : Target → String
  | table _ => Sink.kindName
  | other name _ => name

/-- Gives a micro-batch to the sink. -/
def output (b : MicroBatch) : Target → Act σ Unit
  | table sink => do
    let _ ← Act.within sink (Sink.output b.frame)
    return ()
  | other name failure => do
    Act.emit (.output name b.label)
    match failure with
    | none => return ()
    | some e => Act.fail e

end Target

/-- A query that runs on a stream. -/
structure Query where
  source : String
  target : Target
  outputMode : String
  checkpoint : String
  trigger : Option Cell
  name : Option String
  skipEmpty : Bool

namespace Query

/-- Logs the duration of a micro-batch, with a remark in front of it. -/
def logDuration (q : Query) (b : MicroBatch) (remark : String) (start : Number.Binary64) :
    Act σ Unit := do
  let stop ← Act.readClock
  let id ← Act.ofExcept (Cell.int b.id).toText
  TimingLog.append ("[spark batch] sink=" ++ q.target.name ++ " batch_id=" ++ id ++
    remark ++ " duration=" ++ Sink.durationText start stop)

/-- The micro-batch is skipped. A query that skips none does not ask. -/
def skips (q : Query) (b : MicroBatch) : Act σ Bool :=
  if q.skipEmpty then do
    Act.emit (.isEmpty b.label)
    return b.isEmpty
  else return false

/-- Runs the query on a micro-batch. -/
def run (q : Query) (b : MicroBatch) : Act σ Unit := do
  let start ← Act.readClock
  if ← q.skips b then
    q.logDuration b " empty=true" start
  else
    q.target.output b
    q.logDuration b "" start

/-- The cell, if it counts as something. -/
def given? (c : Cell) : Option Cell := if c.isTruthy then some c else none

/-- The query that gives a source to a target. A trigger that counts as nothing is none, and so
is an empty name. -/
def make (source : String) (t : Target) (outputMode checkpoint : String) (trigger : Cell)
    (name : Option String) (skipEmpty : Bool) : Query where
  source := source
  target := t
  outputMode := outputMode
  checkpoint := checkpoint
  trigger := given? trigger
  name := Text.nonEmpty? name
  skipEmpty := skipEmpty

end Query

/-- A name behind a directory. A name that begins with a slash stands alone. -/
def joinPath (directory name : String) : String :=
  if Text.startsWith "/" name then name
  else if directory = "" ∨ directory.toList.getLast? = some '/' then directory ++ name
  else directory ++ "/" ++ name

namespace Stream

/-- The name of the log. -/
def logger : String := "spark_connector.structuredstream.execution"

/-- Where queries keep their progress if no place is configured. -/
def defaultCheckpoint : String := "/tmp/spark_connector/checkpoints"

/-- Where queries keep their progress. -/
def checkpointRoot (config : Config) : Except Error String :=
  match config.get? "checkpoint_location" with
  | some c => if c.isTruthy then c.toText else .ok defaultCheckpoint
  | none => .ok defaultCheckpoint

/-- Micro-batches without rows are skipped, unless that is turned off. -/
def skipsEmpty (config : Config) : Bool :=
  match config.get? "skip_empty" with
  | some c => c.isTruthy
  | none => true

/-- The label of a source after transformations. -/
def transformed (source : String) (transforms : List String) : String :=
  transforms.foldl (fun label name => name ++ "(" ++ label ++ ")") source

/-- The name of the query for the `i`th target. -/
def queryName (i : Nat) (t : Target) : String := Text.lower t.name ++ "_" ++ toString i

/-- The query for the `i`th target, which keeps its progress under `root`. -/
def queryFor (config : Config) (root source : String) (i : Nat) (t : Target) : Query :=
  .make source t "append" (joinPath root (queryName i t))
    ((config.get? "trigger_processing_time").getD .null) (some (queryName i t)) (skipsEmpty config)

/-- Starts the queries for targets, the first of them with the number `i`. -/
def startFrom (config : Config) (root source : String) :
    Nat → List Target → Act σ (List Query)
  | _, [] => return []
  | i, t :: rest => do
    Act.log .info logger ("streaming query started name=" ++ queryName i t)
    let queries ← startFrom config root source (i + 1) rest
    return queryFor config root source i t :: queries

/-- Starts a query for each target. -/
def start (config : Config) (sources transforms : List String) (targets : List Target) :
    Act σ (List Query) :=
  match sources with
  | [] => do
    Act.log .warning logger "no streaming source configured; nothing to start"
    return []
  | source :: _ => do
    let root ← Act.ofExcept (checkpointRoot config)
    startFrom config root (transformed source transforms) 0 targets

end Stream
end TableLoader
