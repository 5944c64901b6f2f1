/-
# The world of a load

What a load meets outside: the answers that the database will give, the clocks,
the environment, the files, and the engine that computes data frames with the
sessions that it has had in this process. A run of a load consumes the answers
one by one; when none is left every further call succeeds. The clock shows its
last reading again when there is no further one.

Key definitions: `SessionRegistry`, `World`, `World.still`, `World.nextInsert`,
`World.nextDescribe`, `World.nextReading`.
-/
import TableLoader.Error
import TableLoader.FileTree
import TableLoader.OrderedMap

namespace TableLoader

open Number Calendar

/-- Variables of the environment. -/
abbrev Environment := OrderedMap String String

/-- The context of the engine. -/
inductive EngineContext where
  /-- it has no engine behind it -/
  | detached
  /-- it has an engine, which says whether it has been stopped, or fails to -/
  | attached (stopped : Option Bool)
deriving DecidableEq, Repr

/-- What is known of a running engine: its context, and the sessions by the names under which
they are remembered. -/
structure SessionRegistry where
  context : Option EngineContext
  sessions : OrderedMap String (Option String)

/-- Nothing is running. -/
def SessionRegistry.idle : SessionRegistry := ⟨none, .empty⟩

/-- The outside of a load. -/
structure World where
  /-- columns and types that the database reports -/
  schema : List (Cell × Cell)
  /-- failures of the coming insertions -/
  inserts : List (Option Error)
  /-- failures of the coming questions for columns -/
  describes : List (Option Error)
  /-- coming readings of the clock, in seconds -/
  clock : List Binary64
  /-- the local time -/
  now : DateTime
  /-- seconds of universal time since 1970 -/
  epoch : Int
  environment : Environment
  files : FileTree
  /-- the path of the timing log, once it has been looked up -/
  timingLog : Option (Option String)
  /-- the engine, as earlier loads of this process have left it -/
  registry : SessionRegistry := .idle
  /-- the failure with which the engine loads an input, if it fails -/
  loadFailure : Option Error := none

namespace World

/-- Midnight at the beginning of 1970. -/
def beginning : DateTime where
  date := ⟨1970, 1, 1, by decide⟩
  time := .midnight
  offset := none

/-- A world in which the table has no columns, every call succeeds, no engine is running and time
stands still. -/
def still (environment : Environment) : World where
  schema := []
  inserts := []
  describes := []
  clock := []
  now := beginning
  epoch := 0
  environment := environment
  files := .empty
  timingLog := none
  registry := .idle
  loadFailure := none

/-- The first of the coming answers, and the world without it. -/
def nextInsert (w : World) : Option Error × World :=
  match w.inserts with
  | [] => (none, w)
  | answer :: rest => (answer, { w with inserts := rest })

/-- The answer to a question for columns, and the world without it. -/
def nextDescribe (w : World) : Option Error × World :=
  match w.describes with
  | [] => (none, w)
  | answer :: rest => (answer, { w with describes := rest })

/-- The reading of the clock, and the world after it. -/
def nextReading (w : World) : Binary64 × World :=
  match w.clock with
  | [] => (Binary64.zero false, w)
  | [last] => (last, w)
  | reading :: rest => (reading, { w with clock := rest })

@[simp] theorem nextReading_now (w : World) : w.nextReading.2.now = w.now := by
  unfold nextReading
  split <;> rfl

@[simp] theorem nextReading_inserts (w : World) : w.nextReading.2.inserts = w.inserts := by
  unfold nextReading
  split <;> rfl

@[simp] theorem nextDescribe_schema (w : World) : w.nextDescribe.2.schema = w.schema := by
  unfold nextDescribe
  split <;> rfl

end World
end TableLoader
