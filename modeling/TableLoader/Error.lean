/-
# Errors

Everything that can stop a load, by its cause. A cause has a kind, under which
it is reported (`Error.name`), and a text that says what is wrong
(`Error.message?`); values that a conversion refuses have no text of their own.
An error that shows a value gives way to another one if the value cannot be
written (`Error.showing`).

Errors of the database client are not reported as they come. They are sorted by
their code (`classify`): one without a code is unknown, one whose code is among
the codes of the retry policy is worth another attempt, and any other is fatal.

Key definitions: `Error`, `Error.name`, `Error.message?`, `Error.code`,
`Error.showing`, `DriverFailure.of?`, `classify`.
-/
import TableLoader.Cell.Text
import TableLoader.Cell.Equal

namespace TableLoader

/-- Errors that come with a text only. -/
inductive PlainKind where
  | runtime
  | type
  | value
  | system
  | endOfInput
  | other
deriving DecidableEq, Repr

/-- The kind, as it is reported. -/
def PlainKind.name : PlainKind → String
  | .runtime => "RuntimeError"
  | .type => "TypeError"
  | .value => "ValueError"
  | .system => "OSError"
  | .endOfInput => "EOFError"
  | .other => "Exception"

/-- Errors of the database client with a code of their own. -/
inductive ClientKind where
  | general
  | logical
  | unknownType
  | checksum
  | typeMismatch
  | unknownCompression
  | stringTooLarge
  | network
  | timeout
  | unexpectedPacket
  | unknownPacket
  | badUuid
  | badDomain
  | unfinishedQuery
deriving DecidableEq, Repr

/-- The kind, as it is reported. -/
def ClientKind.name : ClientKind → String
  | .general => "Error"
  | .logical => "LogicalError"
  | .unknownType => "UnknownTypeError"
  | .checksum => "ChecksumDoesntMatchError"
  | .typeMismatch => "TypeMismatchError"
  | .unknownCompression => "UnknownCompressionMethod"
  | .stringTooLarge => "TooLargeStringSize"
  | .network => "NetworkError"
  | .timeout => "SocketTimeoutError"
  | .unexpectedPacket => "UnexpectedPacketFromServerError"
  | .unknownPacket => "UnknownPacketFromServerError"
  | .badUuid => "CannotParseUuidError"
  | .badDomain => "CannotParseDomainError"
  | .unfinishedQuery => "PartiallyConsumedQueryError"

/-- The code of the kind. -/
def ClientKind.code : ClientKind → Cell
  | .general => .null
  | .logical => .int 49
  | .unknownType => .int 50
  | .checksum => .int 40
  | .typeMismatch => .int 53
  | .unknownCompression => .int 89
  | .stringTooLarge => .int 131
  | .network => .int 210
  | .timeout => .int 209
  | .unexpectedPacket => .int 102
  | .unknownPacket => .int 100
  | .badUuid => .int 376
  | .badDomain => .int 441
  | .unfinishedQuery => .int (-1)

/-- How an error of the client was sorted. -/
inductive DriverKind where
  | unsorted
  | retryable
  | fatal
  | unknown
deriving DecidableEq, Repr

/-- The kind, as it is reported. -/
def DriverKind.name : DriverKind → String
  | .unsorted => "DriverError"
  | .retryable => "RetryableDriverError"
  | .fatal => "FatalDriverError"
  | .unknown => "UnknownDriverError"

/-- An error of the client, sorted. -/
structure DriverFailure where
  kind : DriverKind
  detail : String
  code : Cell

/-- The text of the failure: the code, if there is one, goes first. -/
def DriverFailure.message (f : DriverFailure) : String :=
  if f.code.isNull then f.detail else "code=" ++ f.code.display ++ " " ++ f.detail

/-- A value that a conversion refuses, or that is not there. -/
inductive Fault where
  | badValue
  | badType
  | overflow
  | noMemory
  | badDecimal
  | noKey
  | noColumn
deriving DecidableEq, Repr

/-- The kind, as it is reported. -/
def Fault.name : Fault → String
  | .badValue => "ValueError"
  | .badType => "TypeError"
  | .overflow => "OverflowError"
  | .noMemory => "MemoryError"
  | .badDecimal => "InvalidOperation"
  | .noKey => "KeyError"
  | .noColumn => "ValueError"

/-- The cause of a failure. -/
inductive Error where
  /-- required settings are blank -/
  | missingSettings (keys : List String)
  /-- the configuration cannot be used -/
  | settings (text : String)
  /-- configured fields are no columns of the table -/
  | unknownFields (fields : List String) (table : String)
  /-- column types that cannot be loaded -/
  | unsupportedTypes (types : List String)
  /-- an error of the client, sorted by its code -/
  | driver (failure : DriverFailure)
  /-- an error that the server reports -/
  | server (code : Cell) (text : Option String) (nested : Option String)
  /-- an error of the client -/
  | client (kind : ClientKind) (text : Option String)
  /-- any other error -/
  | plain (kind : PlainKind) (text : String) (code : Cell)
  /-- an option is no integer -/
  | notInteger (key got : String)
  /-- an option is no list -/
  | notList (key got : String)
  /-- an option is no list of integers -/
  | notIntegerList (key got : String)
  /-- a host has a port that is no integer -/
  | badHost (entry : String)
  /-- no host is given -/
  | noHost
  /-- a name is no log level -/
  | notLogLevel (name : String)
  /-- a column type has no default text -/
  | noTextDefault (type : String)
  /-- a batch would hold no row -/
  | badBulkSize (size : Int)
  /-- column types and fields differ in number -/
  | typesNotAligned
  /-- column types and placeholders differ in number -/
  | typeCount (types placeholders : Nat)
  /-- the statement is closed -/
  | closedStatement
  /-- a statement has no such parameter -/
  | badIndex (index : Int)
  /-- parameters of a statement are not bound -/
  | unbound (indices : List Nat)
  /-- the settings have not been checked -/
  | notChecked
  /-- a check failed without an error -/
  | checkFailed (text : String)
  /-- no input is named -/
  | noInput
  /-- an integer that an error would show has too many digits -/
  | tooManyDigits
  /-- a value cannot be used -/
  | fault (f : Fault)

/-- Names in square brackets, with commas between them. -/
def bracketed (names : List String) : String :=
  commaSeparated (names.map fun n => "[" ++ n ++ "]")

namespace Error

/-- The kind of the error, as it is reported. -/
def name : Error → String
  | missingSettings _ => "ConfigError"
  | settings _ => "ConfigRuntimeError"
  | unknownFields .. => "SchemaMismatchError"
  | unsupportedTypes _ => "UnsupportedTypeError"
  | driver f => f.kind.name
  | server .. => "ServerException"
  | client kind _ => kind.name
  | plain kind .. => kind.name
  | closedStatement | notChecked | checkFailed _ => "RuntimeError"
  | badIndex _ => "IndexError"
  | fault f => f.name
  | _ => "ValueError"

/-- The text of a client error without its code. -/
def clientMessage (kind : ClientKind) (detail : Option String) : String :=
  if kind = .unfinishedQuery then "Simultaneous queries on single connection detected"
  else "Code: " ++ kind.code.display ++ "." ++
    (match detail with
    | some d => " " ++ d
    | none => "")

/-- The text of an error that the server reports. -/
def serverMessage (code : Cell) (detail nested : Option String) : String :=
  "Code: " ++ code.display ++ "." ++
    (match nested with
    | some n => if n = "" then "" else "\nNested: " ++ n
    | none => "") ++
    "\n" ++ detail.getD "None"

/-- The text of the error, if it has one. -/
def message? : Error → Option String
  | missingSettings keys => some ("please specify " ++ bracketed keys ++ " as non-empty")
  | settings text => some text
  | unknownFields fields table =>
    some ("field " ++ bracketed fields ++ " not exist in table " ++ table)
  | unsupportedTypes types =>
    some ("clickHouse data type " ++ bracketed types ++ " not support in current version.")
  | driver f => some f.message
  | server code text nested => some (serverMessage code text nested)
  | client kind text => some (clientMessage kind text)
  | plain _ text _ => some text
  | notInteger key got => some (key ++ " must be an integer (got: " ++ got ++ ")")
  | notList key got => some (key ++ " must be a list (got: " ++ got ++ ")")
  | notIntegerList key got => some (key ++ " must be a list of integers (got: " ++ got ++ ")")
  | badHost entry => some ("invalid ClickHouse host entry: " ++ entry)
  | noHost => some "host is required"
  | notLogLevel name =>
    some ("SPARK_CONNECTOR_LOG_LEVEL must be a logging level name (got: " ++ name ++ ")")
  | noTextDefault type => some ("no string default for ClickHouse type " ++ type)
  | badBulkSize size => some ("bulk_size must be positive (got: " ++ toString size ++ ")")
  | typesNotAligned => some "column_types must align with prepared insert fields"
  | typeCount types placeholders =>
    some ("column types (" ++ toString types ++ ") do not match placeholders (" ++
      toString placeholders ++ ")")
  | closedStatement => some "statement is closed"
  | badIndex index => some ("parameter index " ++ toString index ++ " out of range")
  | unbound indices =>
    some ("parameters [" ++ commaSeparated (indices.map toString) ++ "] are not bound")
  | notChecked => some "check_config() must succeed before output()"
  | checkFailed text => some text
  | noInput => some "SPARK_SINK_INPUT_PATH is required"
  | tooManyDigits =>
    some ("Exceeds the limit (" ++ toString Number.digitLimit ++ " digits) for integer string " ++
      "conversion; use sys.set_int_max_str_digits() to increase the limit")
  | fault _ => none

/-- The text of the error, empty if it has none. -/
def message (e : Error) : String := e.message?.getD ""

/-- The code of the error; most have none. -/
def code : Error → Cell
  | driver f => f.code
  | server code .. => code
  | client kind _ => kind.code
  | plain _ _ code => code
  | _ => .null

/-- What is reported instead of an error that shows a cell: the error itself, if the cell can be
written. -/
def showing (c : Cell) (e : Error) : Error :=
  if c.isWritable then e
  else if c.stopsInRow then .fault .badValue
  else .tooManyDigits

/-- The text of the error can be written. -/
def isWritable : Error → Bool
  | server code .. => code.isWritable
  | _ => true

/-- The error comes from the database client. -/
def isClientError : Error → Bool
  | server .. => true
  | client .. => true
  | _ => false

end Error

/-- A sorted error, if its code can be written. -/
def DriverFailure.of? (kind : DriverKind) (detail : String) (code : Cell) :
    Except Error DriverFailure :=
  if code.isWritable then .ok ⟨kind, detail, code⟩ else .error (.fault .badValue)

/-- Sorts an error by its code. A code that is no member of any set is refused, and so is one
that cannot be written. -/
def classify (e : Error) (retryCodes : List Cell) : Except Error DriverFailure :=
  let detail := if e.message = "" then e.name else e.message
  if !e.isWritable then .error (.fault .badValue)
  else if e.code.isNull then .ok ⟨.unknown, detail, .null⟩
  else if !e.code.isKey then .error (.fault .badType)
  else
    DriverFailure.of? (if retryCodes.any (·.same e.code) then .retryable else .fatal) detail e.code

end TableLoader
