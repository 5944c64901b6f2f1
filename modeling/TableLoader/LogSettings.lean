/-
# Log settings

From which level on records are kept is named in the environment; where it is
not named, records of information and above are kept. Levels are numbers, and
some numbers have names, written in any case.

Key definitions: `LogSettings.levelOf?`, `LogSettings.level?`,
`LogSettings.threshold`.
-/
import TableLoader.Environment

namespace TableLoader
namespace LogSettings

/-- The variable that names the level. -/
def variableName : String := "SPARK_CONNECTOR_LOG_LEVEL"

/-- The form of a log record. -/
def recordFormat : String := "%(asctime)s [%(levelname)s] %(name)s - %(message)s"

/-- The levels that have names. -/
def levels : List (String × Int) :=
  [("NOTSET", 0), ("DEBUG", 10), ("INFO", 20), ("WARN", 30), ("WARNING", 30), ("ERROR", 40),
    ("CRITICAL", 50), ("FATAL", 50)]

/-- The level of a name. -/
def levelOf? (name : String) : Option Int := levels.lookup (Text.upper name)

/-- The level where none is named. -/
def defaultLevel : Int := 20

/-- The level that the environment names. -/
def level? (env : Environment) : Except Error (Option Int) :=
  match env.text? variableName with
  | none => .ok none
  | some name =>
    match levelOf? name with
    | some level => .ok (some level)
    | none => .error (.notLogLevel name)

/-- The level of a log: the one asked for, or that of the environment. -/
def threshold (env : Environment) : Option Int → Except Error Int
  | some level => .ok level
  | none => do return (← level? env).getD defaultLevel

end LogSettings
end TableLoader
