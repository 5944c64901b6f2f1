/-
# Trial loads

A trial shows what a batch load would do in an environment: it runs the load
against a table without columns and an input without rows, in a world where
every call succeeds, and reports the log records and the error that ends it, if
one does. The environment is given as lines, each a name and a value with an
equals sign between them.

Key definitions: `Trial.environmentOf`, `Trial.recordLine`, `Trial.report`.
-/
import TableLoader.Load

namespace TableLoader
namespace Trial

/-- The name and the value in a line: the name ends at the first equals sign. -/
def variableIn (line : String) : Option (String × String) :=
  let name := line.toList.takeWhile (· ≠ '=')
  match line.toList.drop name.length with
  | [] => none
  | _ :: value => some (String.ofList name, String.ofList value)

/-- The variables in lines; a line without an equals sign has none. -/
def environmentOf (lines : List String) : Environment := .ofList (lines.filterMap variableIn)

/-- An input without columns and rows. -/
def noInput : DataFrame := ⟨[], []⟩

/-- The line of a log record. -/
def recordLine : Event → Option String
  | .log level logger text => some ("[" ++ level.name ++ "] " ++ logger ++ " - " ++ text)
  | _ => none

/-- The line that names an error. -/
def errorLine (e : Error) : String :=
  match e.message? with
  | some text => e.name ++ ": " ++ text
  | none => e.name

/-- The log records of a trial, and its error. -/
def report (lines : List String) : List String × Option String :=
  let ran := Load.run noInput () (World.still (environmentOf lines))
  (ran.events.filterMap recordLine,
    match ran.result with
    | .ok () => none
    | .error e => some (errorLine e))

end Trial
end TableLoader
