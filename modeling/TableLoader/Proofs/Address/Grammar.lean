/-
# An address carries its settings

A reader of addresses by their grammar: behind `clickhouse://` stands an authority up
to the first slash, with user and password in front of an at sign and host and port
behind it; then a path up to the first question mark, which is the database; then the
query (`AddressParts.read`). The reader knows nothing of the settings, and gives back
what they say: the user, the password unless it is empty, the first host, the database,
and in the query the other hosts and then the connection options, in their order
(`address_reads`). User, password and query are escaped and may hold any text. Hosts
and database stand as they are, so a host must not have a character in it at which an
address is cut, and a database no question mark.

An option whose value has no text, for instance an integer of too many digits, stops
the settings from being read at all (`long_option_has_no_address`).

Key definitions: `Credentials`, `AddressParts`, `AddressParts.read`, `NamesConnection`.
Key theorems: `read_address`, `entries_part`, `address_reads`.
-/
import Mathlib
import TableLoader.Proofs.Address.Hosts
import TableLoader.Proofs.Parts
import TableLoader.Proofs.Sink.Options
import TableLoader.Proofs.Text.Percent

namespace TableLoader

open Text.Percent

/-! ### The grammar -/

/-- A user, and the password if there is one. -/
structure Credentials where
  user : String
  password : Option String
deriving DecidableEq, Repr

/-- What stands in the parts of an address. -/
structure AddressParts where
  credentials : Option Credentials
  host : HostPort
  database : String
  query : List (String × String)
deriving DecidableEq, Repr

/-- User and password: the user ends at the first colon. -/
def Credentials.read (s : List Char) : Option Credentials :=
  match Text.cutFirst ':' s with
  | none => (decode s).map fun user => ⟨user, none⟩
  | some (user, password) =>
    (decode user).bind fun user => (decode password).map fun password => ⟨user, some password⟩

namespace AddressParts

/-- The credentials, if there are any, and the host of an authority. -/
def readAuthority (s : List Char) : Option (Option Credentials × HostPort) :=
  match Text.cutFirst '@' s with
  | none => (HostPort.readBack s).map (none, ·)
  | some (credentials, host) =>
    (Credentials.read credentials).bind fun c => (HostPort.readBack host).map (some c, ·)

/-- The database and the query behind the authority. -/
def readPath (s : List Char) : Option (String × List (String × String)) :=
  match Text.cutFirst '?' s with
  | none => some (String.ofList s, [])
  | some (database, query) => (decodeQuery query).map (String.ofList database, ·)

/-- The parts of an address. -/
def read (url : String) : Option AddressParts :=
  (Text.dropStart? "clickhouse://" url).bind fun rest =>
    (Text.cutFirst '/' rest.toList).bind fun (authority, path) =>
      (readAuthority authority).bind fun (credentials, host) =>
        (readPath path).map fun (database, query) => ⟨credentials, host, database, query⟩

end AddressParts

/-! ### The parts -/

/-- Credentials as they stand in front of the at sign. -/
def Credentials.text (c : Credentials) : List Char :=
  (encode c.user).toList ++
    match c.password with
    | none => []
    | some password => ':' :: (encode password).toList

theorem Credentials.read_text (c : Credentials) : Credentials.read c.text = some c := by
  obtain ⟨user, password⟩ := c
  have huser : ':' ∉ (encode user).toList := not_mem_encode (by decide) user
  cases password with
  | none =>
    have htext : Credentials.text ⟨user, none⟩ = (encode user).toList := List.append_nil _
    unfold Credentials.read
    rw [htext, Text.cutFirst_eq_none huser]
    simp only [decode_encode, Option.map_some]
  | some password =>
    have htext : Credentials.text ⟨user, some password⟩ =
      (encode user).toList ++ ':' :: (encode password).toList := rfl
    unfold Credentials.read
    rw [htext, Text.cutFirst_append huser]
    simp only [decode_encode, Option.bind_some, Option.map_some]

/-- Neither a slash nor an at sign stands in credentials. -/
theorem Credentials.not_mem_text {x : Char} (hx : x = '/' ∨ x = '@') (c : Credentials) :
    x ∉ c.text := by
  have hseparator : x ∈ separators := by
    rcases hx with rfl | rfl <;> decide
  have hcolon : x ≠ ':' := by
    rcases hx with rfl | rfl <;> decide
  have hencoded : ∀ s, x ∉ (encode s).toList := not_mem_encode hseparator
  obtain ⟨user, password⟩ := c
  cases password with
  | none => simp [Credentials.text, hencoded]
  | some password => simp [Credentials.text, hencoded, hcolon]

theorem readAuthority_text (c : Credentials) (h : HostPort) :
    AddressParts.readAuthority (c.text ++ '@' :: h.text.toList) = some (some c, h) := by
  have hat : '@' ∉ c.text := Credentials.not_mem_text (.inr rfl) c
  unfold AddressParts.readAuthority
  rw [Text.cutFirst_append hat]
  simp only [Credentials.read_text, HostPort.readBack_text, Option.bind_some, Option.map_some]

/-- The query as it stands behind the path, if there is one. -/
def queryText (query : List (String × String)) : String :=
  if query = [] then "" else "?" ++ encodeQuery query

/-- A database without a question mark is the path up to the query. -/
theorem readPath_text {database : String} (h : '?' ∉ database.toList)
    (query : List (String × String)) :
    AddressParts.readPath (database ++ queryText query).toList = some (database, query) := by
  unfold AddressParts.readPath queryText
  by_cases hnil : query = []
  · have htext : (database ++ (if query = [] then "" else "?" ++ encodeQuery query)).toList =
        database.toList := by simp [hnil]
    rw [htext, Text.cutFirst_eq_none h, hnil]
    simp only [String.ofList_toList]
  · have htext : (database ++ (if query = [] then "" else "?" ++ encodeQuery query)).toList =
        database.toList ++ '?' :: (encodeQuery query).toList := by simp [hnil]
    rw [htext, Text.cutFirst_append h]
    simp only [decodeQuery_encodeQuery, Option.map_some, String.ofList_toList]

/-- What is put together as an address is read as its parts. -/
theorem read_of_parts (c : Credentials) {first : HostPort} {database : String}
    (hname : IsHostName first.host) (hdatabase : '?' ∉ database.toList)
    (query : List (String × String)) :
    AddressParts.read ("clickhouse://" ++ (String.ofList (c.text ++ ['@']) ++ first.text ++ "/" ++
      (database ++ queryText query))) = some ⟨some c, first, database, query⟩ := by
  have hslash : '/' ∉ c.text ++ '@' :: first.text.toList := by
    have hfront : '/' ∉ c.text := Credentials.not_mem_text (.inl rfl) c
    have hback : '/' ∉ first.text.toList := HostPort.not_mem_text hname (by decide)
    simp [hfront, hback]
  have hrest : (String.ofList (c.text ++ ['@']) ++ first.text ++ "/" ++
      (database ++ queryText query)).toList =
      (c.text ++ '@' :: first.text.toList) ++ '/' :: (database ++ queryText query).toList := by
    simp
  unfold AddressParts.read
  rw [Text.dropStart?_append, Option.bind_some, hrest, Text.cutFirst_append hslash,
    Option.bind_some]
  dsimp only
  rw [readAuthority_text, Option.bind_some]
  dsimp only
  rw [readPath_text hdatabase, Option.map_some]

/-! ### Settings -/

/-- The parts of the query that name the other hosts. -/
def hostOptions (others : List HostPort) : List (String × String) :=
  if others = [] then [] else [("alt_hosts", ",".intercalate (others.map (·.text)))]

namespace ConnectionSettings

variable {s : ConnectionSettings} {user password : String}

/-- A user that is a text stands in front of the host, with the password unless it is empty. -/
theorem credentials_of_texts (huser : s.user = .text user) (hne : user ≠ "")
    (hpassword : s.password = .text password) : s.credentials =
      .ok (String.ofList (Credentials.text ⟨user, Text.nonEmpty? (some password)⟩ ++ ['@'])) := by
  have htruthy : ∀ {x : String}, x ≠ "" → (Cell.text x).isTruthy = true := by
    intro x hx
    simp [Cell.isTruthy, hx]
  unfold credentials
  rw [huser, hpassword, htruthy hne]
  by_cases hempty : password = ""
  · subst hempty
    have htext : Credentials.text ⟨user, Text.nonEmpty? (some "")⟩ = (encode user).toList :=
      List.append_nil _
    rw [htext, String.ofList_append, String.ofList_toList]
    rfl
  · have hsome : Text.nonEmpty? (some password) = some password := by
      simp [Text.nonEmpty?, hempty]
    have htext : Credentials.text ⟨user, some password⟩ =
        (encode user).toList ++ ':' :: (encode password).toList := rfl
    have hjoin : String.ofList ((encode user).toList ++ ':' :: (encode password).toList ++ ['@']) =
        encode user ++ ":" ++ encode password ++ "@" := by
      rw [← String.toList_inj]
      simp
    rw [hsome, htext, hjoin, htruthy hempty]
    rfl

/-- Hosts that can be read are the first one and those of the query. -/
theorem query_of_hosts {others : List HostPort}
    (hothers : List.Forall₂ (fun entry h => HostPort.read entry = .ok h) s.otherHosts others) :
    s.query = .ok (hostOptions others ++ s.properties.entries) := by
  unfold query
  rw [mapM_eq_ok_iff.mpr hothers]
  rfl

/-- The address of settings, part by part. -/
theorem address_of_parts {first : HostPort} {credentials : String}
    {query : List (String × String)} (hfirst : HostPort.read s.firstHost = .ok first)
    (hcredentials : s.credentials = .ok credentials) (hquery : s.query = .ok query) :
    s.address = .ok ("clickhouse://" ++ (credentials ++ first.text ++ "/" ++
      (s.database ++ queryText query))) := by
  unfold address
  rw [hfirst, hcredentials, hquery]
  show Except.ok (if query = [] then _ else _) = _
  unfold queryText
  by_cases hnil : query = []
  · rw [if_pos hnil, if_pos hnil, String.append_empty]
    simp only [String.append_assoc]
  · rw [if_neg hnil, if_neg hnil]
    simp only [String.append_assoc]

/-- Settings with a user, hosts that can be read and a database without a question mark have an
address, and what is read in it are the settings. -/
theorem read_address {first : HostPort} {others : List HostPort} (huser : s.user = .text user)
    (hne : user ≠ "") (hpassword : s.password = .text password)
    (hhosts : List.Forall₂ (fun entry h => HostPort.read entry = .ok h) s.hosts (first :: others))
    (hname : IsHostName first.host) (hdatabase : '?' ∉ s.database.toList) :
    ∃ url, s.address = .ok url ∧ AddressParts.read url = some {
      credentials := some ⟨user, Text.nonEmpty? (some password)⟩
      host := first
      database := s.database
      query := hostOptions others ++ s.properties.entries } := by
  obtain ⟨hosts, database, user', password', properties, hhosts_ne⟩ := s
  obtain ⟨entry, rest, hfirst, hothers, rfl⟩ := List.forall₂_cons_right_iff.mp hhosts
  have hcredentials := credentials_of_texts huser hne hpassword
  exact ⟨_, address_of_parts hfirst hcredentials (query_of_hosts hothers),
    read_of_parts ⟨user, Text.nonEmpty? (some password)⟩ hname hdatabase _⟩

end ConnectionSettings

/-! ### Configurations -/

/-- The options of the connection: their names behind `clickhouse.`, and the texts of their values,
in the order of the configuration. -/
def Config.connectionOptions (config : Config) : List (String × String) :=
  config.entries.filterMap fun e =>
    (Text.dropStart? ConnectionSettings.optionStart e.1).map fun name => (name, e.2.display)

/-- Every connection option has an entry of its own behind the common beginning of the names. -/
theorem entries_part (config : Config) :
    (config.part ConnectionSettings.optionStart false).entries = config.connectionOptions :=
  config.entries_part ConnectionSettings.optionStart false

/-- The configuration names a user, a password that may be empty, at least one host, and a
database without a question mark, at which the path of an address ends. -/
structure NamesConnection (config : Config) (user password : String) (first : HostPort)
    (others : List HostPort) (database : String) : Prop where
  hasUser : config.get? "username" = some (.text user)
  user_ne : user ≠ ""
  hasPassword : config.get? "password" = some (.text password)
  hasHosts : ∃ c s, config.get? "host" = some c ∧ c.toText = .ok s ∧
    List.Forall₂ NamesHost (Text.items s) (first :: others)
  hasDatabase : ∃ c, config.get? "database" = some c ∧ c.toText = .ok database
  noQuestion : '?' ∉ database.toList

/-- The text of an option that has one. -/
theorem required_of_toText {config : Config} {key s : String} {c : Cell}
    (hget : config.get? key = some c) (htext : c.toText = .ok s) :
    ConnectionSettings.required config key = .ok s := by
  unfold ConnectionSettings.required
  rw [hget]
  exact htext

/-- The address of a configuration carries what the configuration names, if the connection options
can be written: the user, the password unless it is empty, the first host, the database, the other
hosts if there are any, and the options in their order. -/
theorem address_reads {config : Config} {user password database : String} {first : HostPort}
    {others : List HostPort} (h : NamesConnection config user password first others database)
    (hwritten : config.partIsWritable ConnectionSettings.optionStart = true) :
    ∃ settings url, ConnectionSettings.ofConfig config = .ok settings ∧
      settings.address = .ok url ∧ AddressParts.read url = some {
        credentials := some ⟨user, if password = "" then none else some password⟩
        host := first
        database := database
        query := (if others = [] then []
          else [("alt_hosts", ",".intercalate (others.map (·.text)))]) ++
            config.connectionOptions } := by
  obtain ⟨host, hostText, hhost, hhostText, hnames⟩ := h.hasHosts
  obtain ⟨cell, hdatabase, hdatabaseText⟩ := h.hasDatabase
  have hitems : Text.items hostText ≠ [] := by
    intro hnil
    rw [hnil] at hnames
    cases hnames
  have hsettings : ConnectionSettings.ofConfig config = .ok {
      hosts := Text.items hostText
      database := database
      user := .text user
      password := .text password
      properties := ⟨(config.part ConnectionSettings.optionStart false).entries⟩
      hosts_ne_nil := hitems } := by
    unfold ConnectionSettings.ofConfig Config.writtenPart
    rw [required_of_toText hhost hhostText, required_of_toText hdatabase hdatabaseText, hwritten,
      h.hasUser, h.hasPassword]
    show (if hnone : Text.items hostText = [] then _ else _) = _
    rw [dif_neg hitems]
    rfl
  have hread : List.Forall₂ (fun entry h => HostPort.read entry = .ok h) (Text.items hostText)
      (first :: others) := by
    have hstripped : ∀ entry ∈ Text.items hostText, Text.strip entry = entry :=
      fun entry => Text.strip_of_mem_items
    refine ((List.forall₂_and_left _ _).mpr ⟨hstripped, hnames⟩).imp fun entry h hboth => ?_
    exact HostPort.read_of_namesHost hboth.2 hboth.1
  have hname : IsHostName first.host := by
    obtain ⟨entry, rest, hfirst, -, -⟩ := List.forall₂_cons_right_iff.mp hnames
    exact hfirst.isHostName
  obtain ⟨url, haddress, hparts⟩ := ConnectionSettings.read_address
    (s := ⟨Text.items hostText, database, .text user, .text password,
      ⟨(config.part ConnectionSettings.optionStart false).entries⟩, hitems⟩)
    rfl h.user_ne rfl hread hname h.noQuestion
  refine ⟨_, url, hsettings, haddress, hparts.trans ?_⟩
  have hpassword : Text.nonEmpty? (some password) = if password = "" then none else some password := by
    by_cases hempty : password = ""
    · simp [Text.nonEmpty?, hempty]
    · simp [Text.nonEmpty?, hempty]
  rw [hpassword, entries_part]
  rfl

/-- A text is the name of a host if a check of its characters says so. -/
theorem isHostName_of_all {name : String} (h : name.toList.all (fun c =>
    !(Text.isBlank c || ['/', '?', '#', '@', ':', ','].contains c)) = true) : IsHostName name := by
  have hc : ∀ c ∈ name.toList, Text.isBlank c = false ∧ c ∉ ['/', '?', '#', '@', ':', ','] := by
    intro c hmem
    have hcheck := List.all_eq_true.mp h c hmem
    rw [Bool.not_eq_true', Bool.or_eq_false_iff, List.contains_eq_mem, decide_eq_false_iff_not]
      at hcheck
    exact hcheck
  exact ⟨fun c hmem => (hc c hmem).1, fun c hmem => (hc c hmem).2⟩

/-- A configuration with separators wherever they may stand. -/
def crowdedConfig : Config :=
  .ofList [("clickhouse.a&b=", .text "1&2=3 +%"), ("host", .text " h-1 ,h2:9440, h3: 0_1"),
    ("database", .text "d=&:@"), ("clickhouse.", .null), ("username", .text "u:@/? +"),
    ("password", .text "p/%:@?é"), ("table", .text "t")]

/-- All of it is read back from the address. -/
theorem crowdedConfig_reads :
    NamesConnection crowdedConfig "u:@/? +" "p/%:@?é" ⟨"h-1", 9000⟩ [⟨"h2", 9440⟩, ⟨"h3", 1⟩]
        "d=&:@" ∧
      crowdedConfig.partIsWritable ConnectionSettings.optionStart = true ∧
      ∃ settings url, ConnectionSettings.ofConfig crowdedConfig = .ok settings ∧
        settings.address = .ok url ∧ AddressParts.read url = some {
          credentials := some ⟨"u:@/? +", if "p/%:@?é" = "" then none else some "p/%:@?é"⟩
          host := ⟨"h-1", 9000⟩
          database := "d=&:@"
          query := (if [HostPort.mk "h2" 9440, ⟨"h3", 1⟩] = [] then []
            else [("alt_hosts", ",".intercalate ([HostPort.mk "h2" 9440, ⟨"h3", 1⟩].map
              (·.text)))]) ++ crowdedConfig.connectionOptions } := by
  have hnames : NamesConnection crowdedConfig "u:@/? +" "p/%:@?é" ⟨"h-1", 9000⟩
      [⟨"h2", 9440⟩, ⟨"h3", 1⟩] "d=&:@" := by
    have hplain : NamesHost "h-1" ⟨"h-1", 9000⟩ := .plain (isHostName_of_all (by decide))
    have hported : NamesHost ("h2" ++ ":" ++ "9440") ⟨"h2", 9440⟩ :=
      .ported (isHostName_of_all (by decide)) (by decide)
    have hspaced : NamesHost ("h3" ++ ":" ++ " 0_1") ⟨"h3", 1⟩ :=
      .ported (isHostName_of_all (by decide)) (by decide)
    exact {
      hasUser := rfl
      user_ne := by decide
      hasPassword := rfl
      hasHosts := ⟨_, _, rfl, rfl, .cons hplain (.cons hported (.cons hspaced .nil))⟩
      hasDatabase := ⟨_, rfl, rfl⟩
      noQuestion := by decide }
  have hwritten : crowdedConfig.partIsWritable ConnectionSettings.optionStart = true := by decide
  exact ⟨hnames, hwritten, address_reads hnames hwritten⟩

/-- A configuration with an option of an integer that has more digits than can be written. -/
def longConfig : Config :=
  .ofList [("host", .text "h"), ("database", .text "d"), ("username", .text "u"),
    ("password", .text "p"), ("clickhouse.x", .int Number.writtenBelow)]

/-- It names a connection, but its settings cannot be read, and so there is no address. -/
theorem long_option_has_no_address :
    NamesConnection longConfig "u" "p" ⟨"h", 9000⟩ [] "d" ∧
      ConnectionSettings.ofConfig longConfig = .error (.fault .badValue) := by
  have hhost : NamesHost "h" ⟨"h", 9000⟩ := .plain (isHostName_of_all (by decide))
  have hunwritten : longConfig.partIsWritable ConnectionSettings.optionStart = false := by
    decide +kernel
  constructor
  · exact {
      hasUser := rfl
      user_ne := by decide
      hasPassword := rfl
      hasHosts := ⟨_, _, rfl, rfl, .cons hhost .nil⟩
      hasDatabase := ⟨_, rfl, rfl⟩
      noQuestion := by decide }
  · have hnames : ConnectionSettings.required longConfig "host" = .ok "h" := rfl
    unfold ConnectionSettings.ofConfig Config.writtenPart
    rw [hnames, hunwritten]
    rfl

end TableLoader
