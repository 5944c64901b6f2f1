/-
# The session

A batch load runs in a session of the engine that computes data frames. Its
options come from the environment and are given to the builder one by one; those
that are not given are left to the engine. A context that the engine has stopped
is forgotten first, with the sessions that were made in it, so that a new one is
made.

Key definitions: `SessionOptions`, `SessionOptions.firstCalls`,
`SessionOptions.shuffleCalls`, `SessionOptions.lastCalls`,
`SessionOptions.forBatch`, `SessionRegistry.forgetStopped`, `openSession`.
-/
import TableLoader.Act
import TableLoader.Cell.Convert
import TableLoader.Environment

namespace TableLoader

/-- Options of a session. -/
structure SessionOptions where
  appName : String
  master : Option String
  packages : List String
  uiPort : String
  eventLogDirectory : Option String
  shufflePartitions : Option Int
  driverMemory : Option String
  executorMemory : Option String

namespace SessionOptions

/-- A call for a text option, if it is given. -/
def textCall (call : String → SessionCall) (value : Option String) : List SessionCall :=
  ((Text.nonEmpty? value).map call).toList

/-- The first calls that make a session. -/
def firstCalls (o : SessionOptions) : List SessionCall :=
  [.appName o.appName] ++
    textCall .master o.master ++
    (if o.packages = [] then []
      else [.config "spark.jars.packages" (",".intercalate o.packages)]) ++
    [.config "spark.ui.port" o.uiPort]

/-- The call for the number of shuffle partitions, if it is given. It has to be one that can be
written. -/
def shuffleCalls (o : SessionOptions) : Except Error (List SessionCall) :=
  match o.shufflePartitions with
  | none => .ok []
  | some n => (Cell.int n).toText.map fun s => [.config "spark.sql.shuffle.partitions" s]

/-- The last calls that make a session. -/
def lastCalls (o : SessionOptions) : List SessionCall :=
  textCall (.config "spark.driver.memory") o.driverMemory ++
    textCall (.config "spark.executor.memory") o.executorMemory ++
    (match Text.nonEmpty? o.eventLogDirectory with
    | none => []
    | some directory =>
      [.config "spark.eventLog.enabled" "true", .config "spark.eventLog.dir" directory]) ++
    [.create]

/-- The name of a batch load. -/
def batchName : String := "ClickHouse_Sink_Batch"

/-- The number of shuffle partitions, if it is not zero. -/
def shufflePartitionsIn (env : Environment) : Except Error Int := do
  let n := (← env.integer? "SPARK_BATCH_SHUFFLE_PARTITIONS").getD 0
  return if n = 0 then 8 else n

/-- The options of a batch load. -/
def forBatch (env : Environment) (appName : String) (master : Option String) :
    Except Error SessionOptions := do
  let logged := (env.switch? "SPARK_BATCH_EVENT_LOG_ENABLED").getD false
  let shufflePartitions ← shufflePartitionsIn env
  return {
    appName := appName
    master := some ((Text.nonEmpty? master <|> env.text? "SPARK_BATCH_MASTER").getD "local[*]")
    packages := env.items "SPARK_JARS_PACKAGES"
    uiPort := "4041"
    eventLogDirectory := if logged then env.text? "SPARK_BATCH_EVENT_LOG_DIR" else none
    shufflePartitions := some shufflePartitions
    driverMemory := env.text? "SPARK_BATCH_DRIVER_MEMORY"
    executorMemory := env.text? "SPARK_BATCH_EXECUTOR_MEMORY" }

end SessionOptions

namespace SessionRegistry

/-- The names of sessions that belong to the context. -/
def contextSessions : List String := ["_instantiatedSession", "_activeSession"]

/-- Forgets a session that is remembered under a name. -/
def forget (sessions : OrderedMap String (Option String)) (name : String) :
    OrderedMap String (Option String) :=
  if sessions.contains name then sessions.insert name none else sessions

/-- Forgets a context that has been stopped, and its sessions. -/
def forgetStopped : Act SessionRegistry Unit := do
  let r ← Act.get
  match r.context with
  | some (.attached stopped) =>
    Act.emit .isStopped
    if stopped = some true then
      Act.modify fun r => ⟨none, contextSessions.foldl forget r.sessions⟩
  | _ => return ()

end SessionRegistry

/-- Causes events, one after the other. -/
def emitAll {σ : Type} : List Event → Act σ Unit
  | [] => return ()
  | e :: es => do
    Act.emit e
    emitAll es

/-- Makes a session. -/
def openSession (o : SessionOptions) : Act SessionRegistry Unit := do
  SessionRegistry.forgetStopped
  emitAll (o.firstCalls.map .session)
  emitAll ((← Act.ofExcept o.shuffleCalls).map .session)
  emitAll (o.lastCalls.map .session)

/-- Makes the session of a batch load. -/
def openBatchSession (appName : String) (master : Option String) : Act SessionRegistry Unit := do
  let w ← Act.world
  let options ← Act.ofExcept (SessionOptions.forBatch w.environment appName master)
  openSession options

end TableLoader
