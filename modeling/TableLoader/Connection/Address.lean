/-
# The address of a connection

The address that the database client is given holds all settings: user and
password in front of the first host, the database as the path, and in the query
part the other hosts and the options. A host without a port has the port 9000.
User and password are percent-encoded; the query part is form-encoded. The
database stands as it is.

Key definitions: `HostPort`, `HostPort.read`, `ConnectionSettings.address`.
-/
import TableLoader.Connection.Settings
import TableLoader.Text.Percent

namespace TableLoader

/-- A host with its port. -/
structure HostPort where
  host : String
  port : Int
deriving DecidableEq, Repr

namespace HostPort

/-- The port of a host that names none. -/
def defaultPort : Int := 9000

/-- The host and port of an entry: the port follows the last colon. -/
def read (entry : String) : Except Error HostPort :=
  let stripped := Text.strip entry
  match Text.cutLast ':' stripped.toList with
  | none => .ok ⟨stripped, defaultPort⟩
  | some (host, port) =>
    match Number.readInteger (String.ofList port) with
    | some n => .ok ⟨String.ofList host, n⟩
    | none => .error (.badHost entry)

/-- Host and port as a text. -/
def text (h : HostPort) : String := h.host ++ ":" ++ toString h.port

end HostPort

/-- A cell in front of the host: a text or bytes, percent-encoded. -/
def encodeCredential : Cell → Except Error String
  | .text s => .ok (Text.Percent.encode s)
  | .bytes bs => .ok (String.ofList (Text.Percent.encodeBytes bs))
  | _ => .error (.fault .badType)

namespace ConnectionSettings

/-- User and password in front of the host; without a user there is nothing. -/
def credentials (s : ConnectionSettings) : Except Error String :=
  if !s.user.isTruthy then .ok ""
  else do
    let user ← encodeCredential s.user
    if !s.password.isTruthy then .ok (user ++ "@")
    else return user ++ ":" ++ (← encodeCredential s.password) ++ "@"

/-- Names and values of the query part: the other hosts, then the options. -/
def query (s : ConnectionSettings) : Except Error (List (String × String)) := do
  let others ← s.otherHosts.mapM HostPort.read
  let hosts := if others = [] then [] else [("alt_hosts", ",".intercalate (others.map (·.text)))]
  return hosts ++ s.properties.entries

/-- The address for the client. -/
def address (s : ConnectionSettings) : Except Error String := do
  let first ← HostPort.read s.firstHost
  let credentials ← s.credentials
  let query ← s.query
  let base := "clickhouse://" ++ credentials ++ first.text ++ "/" ++ s.database
  return if query = [] then base else base ++ "?" ++ Text.Percent.encodeQuery query

end ConnectionSettings
end TableLoader
