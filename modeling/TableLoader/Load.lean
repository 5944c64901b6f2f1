/-
# The batch load

A batch load takes its options from the environment, checks the sink, opens a
session, reads the input and loads it. The options are logged without passwords
and other secrets. Once a session has been opened it is stopped, whatever
happens.

Key definitions: `Load.run`, `Load.readInput`, `Load.loadOutcome`, `Load.logOptions`.
-/
import TableLoader.Session
import TableLoader.Sink

namespace TableLoader
namespace Load

variable {σ : Type}

/-- The name of the log. -/
def logger : String := "spark_connector.main"

/-- Options in the order of their names. -/
def sorted (config : Config) : List (String × Cell) :=
  config.entries.mergeSort fun a b => a.1 ≤ b.1

/-- The line that shows an option. -/
def optionLine (e : String × Cell) : String :=
  "[config] " ++ e.1 ++ "=" ++ (SinkOptions.masked e.1 e.2).display

/-- Logs the options. -/
def logOptions (config : Config) : Act σ Unit :=
  emitAll ((sorted config).map fun e => .log .info logger (optionLine e))

/-- The calls that read an input. -/
def readerCalls (format path : String) : List SessionCall :=
  [.format format] ++
    (if format = "csv" then [.option "header" "true", .option "inferSchema" "true"] else []) ++
    [.load path]

/-- What the engine makes of a call that loads an input: the input, which is given from outside, or
a failure. -/
def loadOutcome (input : DataFrame) (w : World) : Except Error DataFrame :=
  match w.loadFailure with
  | none => .ok input
  | some e => .error e

/-- Reads the input that the environment names. -/
def readInput (input : DataFrame) : Act σ DataFrame := do
  let w ← Act.world
  match w.environment.text? "SPARK_SINK_INPUT_PATH" with
  | none => Act.fail .noInput
  | some path =>
    let format := (w.environment.text? "SPARK_SINK_INPUT_FORMAT").getD "parquet"
    emitAll ((readerCalls format path).map .session)
    Act.ofExcept (loadOutcome input w)

/-- Stops the session. -/
def stopSession : Act σ Unit := do
  Act.log .info logger "SparkSession 종료."
  Act.emit (.session .stop)

/-- Checks the sink; a failed check is a failure. -/
def checkSink : Act Sink Unit := do
  let result ← Sink.check
  Act.ofExcept result.toExcept

/-- Prepares the sink and loads the input. -/
def loadInput (input : DataFrame) : Act Sink Unit := do
  Sink.prepare
  let frame ← readInput input
  Sink.output frame

/-- The load with a sink of its own. The engine is as earlier loads have left it, and the load does
not look at it again when its session has been made. -/
def runSink (input : DataFrame) : Act Sink Unit := do
  checkSink
  let w ← Act.world
  let _ ← Act.within w.registry (openBatchSession SessionOptions.batchName none)
  Act.always (loadInput input) stopSession

/-- A batch load. -/
def run (input : DataFrame) : Act σ Unit := do
  let w ← Act.world
  let config ← Act.ofExcept (SinkOptions.ofEnvironment w.environment)
  logOptions config
  let _ ← Act.within (Sink.ofConfig config) (runSink input)
  return ()

end Load
end TableLoader
