/-
# The timing log

How long batches took is logged, and also kept in a file if the environment
names one. The file is looked up once. Each line stands behind the universal
time at which it was written, and the time is taken when the directory of the
file is there. A file that the system cannot write, and a time that it cannot
count, are noted in the log and are no error. A name that is no path and a time
that has no text are errors.

Key definitions: `TimingLog.path`, `TimingLog.Failure`, `TimingLog.write`,
`TimingLog.append`.
-/
import TableLoader.Act
import TableLoader.Environment

namespace TableLoader

open Calendar

namespace TimingLog

variable {σ : Type}

/-- The name of the log. -/
def logger : String := "spark_connector.batch_log"

/-- The variable that names the file. -/
def variableName : String := "SPARK_BATCH_TIMING_LOG_PATH"

/-- The path in an environment, if one is named. -/
def pathIn (env : Environment) : Option String := env.text? variableName

/-- The path of the file: as it was when it was first asked for. -/
def path : Act σ (Option String) := do
  let w ← Act.world
  match w.timingLog with
  | some path => return path
  | none =>
    let path := pathIn w.environment
    Act.changeWorld fun w => { w with timingLog := some path }
    return path

/-- The directory part of a path. -/
def directoryOf (p : List Char) : List Char := (splitPath p).1

/-- Why a line is not in the file. -/
inductive Failure where
  | path (f : PathFailure)
  | moment (f : MomentFault)

/-- The error that a failure is; without one it is only noted. -/
def Failure.error? : Failure → Option Error
  | path f => if f.fault = .invalid then some (.fault .badValue) else none
  | moment .beyondCalendar => none
  | moment .tooLarge => some (.fault .overflow)

/-- What is noted of a failure. -/
def Failure.message : Failure → String
  | path f => f.message
  | moment _ => "[Errno 75] Value too large for defined data type"

/-- Makes the directory of a file, if the path names one. -/
def makeDirectoryOf (files : FileTree) (p : List Char) : FileTree × Option PathFailure :=
  if directoryOf p = [] then (files, none) else files.makeDirectories true (directoryOf p)

/-- Writes a line at the end of a file. -/
def appendLine (files : FileTree) (epoch : Int) (p : List Char) (line : String) :
    Except Failure FileTree := do
  let stamp ← (utcStamp epoch).mapError .moment
  (files.append p (stamp ++ " " ++ line ++ "\n")).mapError fun fault => .path ⟨fault, p⟩

/-- Writes a line at the end of a file, whose directory is made if it is not there. -/
def write (files : FileTree) (epoch : Int) (p : List Char) (line : String) :
    FileTree × Option Failure :=
  match makeDirectoryOf files p with
  | (files, some f) => (files, some (.path f))
  | (files, none) =>
    match appendLine files epoch p line with
    | .ok files => (files, none)
    | .error f => (files, some f)

/-- Passes on a failure that is an error, and notes any other one. -/
def settle (f : Failure) : Act σ Unit :=
  match f.error? with
  | some e => Act.fail e
  | none => Act.log .warning logger ("batch log write failed: " ++ f.message)

/-- Logs a line and keeps it in the file. -/
def append (line : String) : Act σ Unit := do
  Act.log .info logger line
  match ← path with
  | none => return ()
  | some p =>
    let w ← Act.world
    let (files, failure) := write w.files w.epoch p.toList line
    Act.changeWorld fun w => { w with files := files }
    match failure with
    | none => return ()
    | some f => settle f

end TimingLog
end TableLoader
