/-
# Configurations

A configuration gives values to options. An option that is absent, missing or
blank is not given. Integers may be written as texts and lists as texts with
commas; what cannot be read so is refused under the name of the option.

The options of a part of the configuration share the beginning of their names
and are taken out together (`Config.part`), if they all can be written as texts.

Key definitions: `Config`, `CheckResult`, `isBlank`, `checkRequired`,
`withDefaults`, `integer?`, `texts?`, `integers`, `part`, `writtenPart`.
-/
import TableLoader.OrderedMap
import TableLoader.Text.Blank
import TableLoader.Cell.Convert

namespace TableLoader

/-- Options with their values. -/
abbrev Config := OrderedMap String Cell

/-- What a check has found. -/
structure CheckResult where
  success : Bool
  message : String
  error : Option Error

namespace CheckResult

/-- Nothing is wrong. -/
def passed : CheckResult := ⟨true, "", none⟩

/-- The error that was found. -/
def failed (e : Error) : CheckResult := ⟨false, e.message, some e⟩

/-- The failure of a check that found one. -/
def toExcept (r : CheckResult) : Except Error Unit :=
  if r.success then .ok ()
  else .error (r.error.getD
    (.checkFailed (if r.message = "" then "config check failed" else r.message)))

end CheckResult

namespace Config

/-- An option is not given: it is absent, missing, or a text of blanks. -/
def isBlank : Option Cell → Bool
  | none => true
  | some .null => true
  | some (.text s) => Text.strip s = ""
  | some _ => false

/-- The options among `keys` that are not given. -/
def blankKeys (config : Config) (keys : List String) : List String :=
  keys.filter fun k => isBlank (config.get? k)

/-- All of `keys` are given. -/
def checkRequired (config : Config) (keys : List String) : CheckResult :=
  let missing := config.blankKeys keys
  if missing = [] then .passed else .failed (.missingSettings missing)

/-- The configuration with the default values of the options that it does not have. The
options of `defaults` go first. -/
def withDefaults (config defaults : Config) : Config := defaults.merge config

/-- The integer of an option, if it is given. A truth value is none. -/
def integer? (config : Config) (key : String) : Except Error (Option Int) :=
  let value := config.get? key
  if isBlank value then .ok none
  else
    let cell := value.getD .null
    let refused := Error.showing cell (.notInteger key cell.display)
    match cell with
    | .flag _ => .error refused
    | _ =>
      match cell.toInteger with
      | .ok n => .ok (some n)
      | .error (.fault .badValue) => .error refused
      | .error (.fault .badType) => .error refused
      | .error e => .error e

/-- The texts of cells, without the blanks around them. -/
def strippedTexts (cells : List Cell) : Except Error (List String) :=
  cells.mapM fun c => c.toText.map Text.strip

/-- The texts of an option that is a list, if it is there. -/
def texts? (config : Config) (key : String) : Except Error (Option (List String)) :=
  match config.get? key with
  | none => .ok none
  | some .null => .ok none
  | some (.text s) => .ok (some (Text.items s))
  | some (.list items) => (strippedTexts items).map some
  | some (.tuple items) => (strippedTexts items).map some
  | some (.row fields) => (strippedTexts (fields.map Prod.snd)).map some
  | some (.bytes bs) => .ok (some (bs.map fun b => toString b.toNat))
  | some cell => .error (.showing cell (.notList key cell.literal))

/-- The integers of an option that is a list; none if it is not there. -/
def integers (config : Config) (key : String) : Except Error (List Int) := do
  let items := (← config.texts? key).getD []
  match items.mapM Number.readInteger with
  | some ns => .ok ns
  | none => .error (.notIntegerList key (Cell.texts items).display)

/-- Some option has a name that begins with `start`. -/
def hasPart (config : Config) (start : String) : Bool := config.keys.any (Text.startsWith start)

/-- The options whose names begin with `start`, as texts. The beginning is taken off, or kept. -/
def part (config : Config) (start : String) (keep : Bool) : OrderedMap String String :=
  .ofList <| config.entries.filterMap fun e =>
    (Text.dropStart? start e.1).map fun rest => (if keep then e.1 else rest, e.2.display)

/-- All options whose names begin with `start` can be written. -/
def partIsWritable (config : Config) (start : String) : Bool :=
  config.entries.all fun e => !Text.startsWith start e.1 || e.2.isWritable

/-- The options whose names begin with `start`, as texts, if all can be written. -/
def writtenPart (config : Config) (start : String) (keep : Bool) :
    Except Error (OrderedMap String String) :=
  if config.partIsWritable start then .ok (config.part start keep) else .error (.fault .badValue)

/-- The options whose names begin with `start`, of which there has to be one. -/
def requiredPart (config : Config) (start : String) (keep : Bool) :
    Except Error (OrderedMap String String) := do
  let found ← config.writtenPart start keep
  if found.size = 0 then .error (.settings "config is empty") else .ok found

end Config
end TableLoader
