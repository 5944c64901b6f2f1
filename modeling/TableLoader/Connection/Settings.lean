/-
# Connection settings

Where the database is and who asks: the hosts, the database, a user and a
password, and further options of the connection. There is at least one host.
Options of the connection are those of the configuration whose names begin with
`clickhouse.`.

Key definitions: `ConnectionOptions`, `ConnectionSettings`, `ConnectionSettings.ofConfig`,
`ConnectionSettings.displayUrl`.
-/
import TableLoader.Config

namespace TableLoader

/-- Further options of a connection: names and values in the order in which they are sent. A name
may be there more than once. -/
@[ext]
structure ConnectionOptions where
  entries : List (String × String)
deriving DecidableEq, Repr

/-- No further options. -/
def ConnectionOptions.empty : ConnectionOptions := ⟨[]⟩

/-- How to reach the database. -/
structure ConnectionSettings where
  hosts : List String
  database : String
  user : Cell
  password : Cell
  properties : ConnectionOptions
  hosts_ne_nil : hosts ≠ []

namespace ConnectionSettings

/-- The beginning of the names of connection options. -/
def optionStart : String := "clickhouse."

/-- The text of an option that has to be there. -/
def required (config : Config) (key : String) : Except Error String :=
  match config.get? key with
  | some cell => cell.toText
  | none => .error (.fault .noKey)

/-- The settings in a configuration. -/
def ofConfig (config : Config) : Except Error ConnectionSettings := do
  let hosts := Text.items (← required config "host")
  if h : hosts = [] then .error .noHost
  else
    let properties ← config.writtenPart optionStart false
    let database ← required config "database"
    .ok {
      hosts := hosts
      database := database
      user := (config.get? "username").getD .null
      password := (config.get? "password").getD .null
      properties := ⟨properties.entries⟩
      hosts_ne_nil := h }

/-- The first host. -/
def firstHost (s : ConnectionSettings) : String := s.hosts.head s.hosts_ne_nil

/-- The other hosts. -/
def otherHosts (s : ConnectionSettings) : List String := s.hosts.tail

/-- The address without user and password. -/
def displayUrl (s : ConnectionSettings) : String :=
  "clickhouse://" ++ ",".intercalate s.hosts ++ "/" ++ s.database

end ConnectionSettings
end TableLoader
