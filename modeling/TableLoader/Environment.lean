/-
# Variables of the environment

A variable that is not set and one that holds nothing but blanks are the same.
A value is read without the blanks around it, as a text, an integer, a switch or
a list of items.

Key definitions: `Environment.text?`, `Environment.integer?`,
`Environment.switch?`, `Environment.items`, `Environment.orProcess`.
-/
import TableLoader.World
import TableLoader.Text.Case
import TableLoader.Number.Integer

namespace TableLoader
namespace Environment

/-- The value of a variable, if anything is left of it. -/
def text? (env : Environment) (key : String) : Option String :=
  Text.nonEmpty? ((env.get? key).map Text.strip)

/-- The integer of a variable. -/
def integer? (env : Environment) (key : String) : Except Error (Option Int) :=
  match env.text? key with
  | none => .ok none
  | some value =>
    match Number.readInteger value with
    | some n => .ok (some n)
    | none => .error (.notInteger key value)

/-- The words that turn a switch on. -/
def onWords : List String := ["1", "true", "yes", "y"]

/-- The position of a switch, if the variable is set: on for the words `onWords` in any case. -/
def switch? (env : Environment) (key : String) : Option Bool :=
  (env.text? key).map fun value => onWords.contains (Text.lower value)

/-- The items of a variable that holds a list. -/
def items (env : Environment) (key : String) : List String :=
  match env.text? key with
  | none => []
  | some value => Text.items value

/-- An environment that is given, unless it is empty, and otherwise that of the process. -/
def orProcess (given : Option Environment) (process : Environment) : Environment :=
  match given with
  | none => process
  | some env => if env.size = 0 then process else env

end Environment
end TableLoader
