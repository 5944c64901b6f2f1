/-
# Options that are texts

A configuration whose values are texts or missing, with fields that are a text or a
list of texts, and with hosts whose ports are numbers (`TextOptions`). If all
required options are given in it, then the connection settings, the address, the
table and the fields can be read, whatever else it says
(`TextOptions.exists_targets`, `texts?_of_fieldNames`). So a check of such a
configuration fails at a missing option or at the table, and nowhere in between.

Key definitions: `NotGiven`, `FieldNames`, `TextOptions`.
Key theorems: `isBlank_iff`, `texts?_of_fieldNames`, `exists_address`,
`TextOptions.exists_targets`.
-/
import TableLoader.Proofs.Address.Errors
import TableLoader.Proofs.Sink.Steps

namespace TableLoader

/-! ### Which options are given -/

/-- An option is not given. -/
inductive NotGiven (config : Config) (key : String) : Prop where
  | absent : config.get? key = none → NotGiven config key
  | missing : config.get? key = some .null → NotGiven config key
  | blank {s : String} : config.get? key = some (.text s) → Text.strip s = "" → NotGiven config key

theorem isBlank_iff {config : Config} {key : String} :
    Config.isBlank (config.get? key) = true ↔ NotGiven config key := by
  constructor
  · intro h
    cases hget : config.get? key with
    | none => exact .absent hget
    | some c =>
      rw [hget] at h
      cases c with
      | null => exact .missing hget
      | text s => exact .blank hget (by simpa [Config.isBlank] using h)
      | _ => cases h
  · rintro (hget | hget | ⟨hget, hblank⟩)
    · rw [hget]
      rfl
    · rw [hget]
      rfl
    · rw [hget]
      simpa [Config.isBlank] using hblank

/-- The options that are not given are found, in the order in which they are required. -/
theorem checkRequired_eq (config : Config) (keys : List String) :
    ∃ missing, missing.Sublist keys ∧ (∀ k ∈ keys, k ∈ missing ↔ NotGiven config k) ∧
      config.checkRequired keys =
        if missing = [] then .passed else .failed (.missingSettings missing) := by
  refine ⟨config.blankKeys keys, List.filter_sublist, ?_, rfl⟩
  intro k hk
  rw [Config.blankKeys, List.mem_filter, isBlank_iff, and_iff_right hk]

/-- If all required options are given, the check of them finds nothing. -/
theorem checkRequired_success {config : Config} {keys : List String}
    (h : ∀ k ∈ keys, ¬ NotGiven config k) : (config.checkRequired keys).success = true := by
  obtain ⟨missing, hsublist, hmissing, heq⟩ := checkRequired_eq config keys
  have hnone : missing = [] := by
    refine List.eq_nil_iff_forall_not_mem.mpr fun k hk => ?_
    have hkey := hsublist.subset hk
    exact h k hkey ((hmissing k hkey).mp hk)
  rw [heq, if_pos hnone]
  rfl

/-- The names that are configured as fields: the items of a text, or the texts of a list. -/
inductive FieldNames : Option Cell → Option (List String) → Prop where
  | absent : FieldNames none none
  | missing : FieldNames (some .null) none
  | text (s : String) : FieldNames (some (.text s)) (some (Text.items s))
  | list (texts : List String) :
      FieldNames (some (.list (texts.map .text))) (some (texts.map Text.strip))

/-- Cells that have texts are read as these texts. -/
theorem strippedTexts_map {α : Type} {cell : α → Cell} {text : α → String} {l : List α}
    (h : ∀ a ∈ l, (cell a).toText = .ok (text a)) :
    Config.strippedTexts (l.map cell) = .ok (l.map fun a => Text.strip (text a)) := by
  unfold Config.strippedTexts
  rw [mapM_eq_ok_iff, List.forall₂_map_left_iff, List.forall₂_map_right_iff, List.forall₂_same]
  intro a ha
  rw [h a ha]
  rfl

theorem strippedTexts_texts (texts : List String) :
    Config.strippedTexts (texts.map .text) = .ok (texts.map Text.strip) :=
  strippedTexts_map fun _ _ => rfl

theorem texts?_of_fieldNames {config : Config} {key : String} {names : Option (List String)}
    (h : FieldNames (config.get? key) names) : config.texts? key = .ok names := by
  unfold Config.texts?
  generalize config.get? key = value at h
  cases h with
  | absent => rfl
  | missing => rfl
  | text s => rfl
  | list texts =>
    dsimp only
    rw [strippedTexts_texts]
    rfl

/-! ### Settings that can be read -/

/-- Settings whose hosts have ports that are numbers, with a user and a password that are texts,
have an address. -/
theorem exists_address {s : ConnectionSettings} {user password : String}
    (hhosts : ∀ entry ∈ s.hosts, ∃ h, HostPort.read entry = .ok h) (huser : s.user = .text user)
    (hpassword : s.password = .text password) : ∃ url, s.address = .ok url := by
  obtain ⟨first, hfirst⟩ := hhosts s.firstHost (List.head_mem s.hosts_ne_nil)
  obtain ⟨others, hothers⟩ : ∃ others, s.otherHosts.mapM HostPort.read = .ok others :=
    exists_mapM_eq_ok fun entry hentry => hhosts entry (List.mem_of_mem_tail hentry)
  obtain ⟨credentials, hcredentials⟩ := ConnectionSettings.exists_credentials huser hpassword
  unfold ConnectionSettings.address ConnectionSettings.query
  rw [hfirst, hcredentials, hothers]
  exact ⟨_, rfl⟩

section Texts

variable {config : Config}

/-- The value of an option among texts: the last text that is given for it. -/
theorem get?_of_texts (pairs : List (String × String)) (key : String) :
    OrderedMap.get? (.ofList (pairs.map fun e => (e.1, Cell.text e.2))) key =
      (pairs.reverse.lookup key).map .text := by
  rw [OrderedMap.get?_ofList, ← List.map_reverse]
  exact OrderedMap.lookup_map_snd Cell.text key pairs.reverse

/-- Options of the connection that are texts or missing can be written. -/
theorem partIsWritable_of_texts (h : ∀ key c, config.get? key = some c → key ≠ "fields" →
    c = .null ∨ ∃ s, c = .text s) :
    config.partIsWritable ConnectionSettings.optionStart = true := by
  unfold Config.partIsWritable
  rw [List.all_eq_true]
  rintro ⟨key, c⟩ he
  have hstart : Text.startsWith ConnectionSettings.optionStart "fields" = false := by
    decide +kernel
  by_cases hfields : key = "fields"
  · rw [hfields, hstart]
    rfl
  · rcases h key c (OrderedMap.get?_of_mem_entries he) hfields with rfl | ⟨s, rfl⟩
    · exact Bool.or_true _
    · exact Bool.or_true _

/-- The text of an option that is a text. -/
theorem required_text {key s : String} (hget : config.get? key = some (.text s)) :
    ConnectionSettings.required config key = .ok s := by
  unfold ConnectionSettings.required
  rw [hget]
  rfl

/-- Without a host there are no settings. -/
theorem ofConfig_of_noHosts {host : String} (hhost : config.get? "host" = some (.text host))
    (hnone : Text.items host = []) : ConnectionSettings.ofConfig config = .error .noHost := by
  unfold ConnectionSettings.ofConfig
  rw [required_text hhost]
  show (if h : Text.items host = [] then _ else _) = _
  rw [dif_pos hnone]

/-- The settings are those that the texts say. -/
theorem ofConfig_of_texts {host database user password : String}
    (hhost : config.get? "host" = some (.text host))
    (hdatabase : config.get? "database" = some (.text database))
    (huser : config.get? "username" = some (.text user))
    (hpassword : config.get? "password" = some (.text password))
    (hwritable : config.partIsWritable ConnectionSettings.optionStart = true)
    (hitems : Text.items host ≠ []) :
    ConnectionSettings.ofConfig config = .ok {
      hosts := Text.items host
      database := database
      user := .text user
      password := .text password
      properties := ⟨(config.part ConnectionSettings.optionStart false).entries⟩
      hosts_ne_nil := hitems } := by
  unfold ConnectionSettings.ofConfig Config.writtenPart
  rw [required_text hhost, required_text hdatabase, hwritable, huser, hpassword]
  show (if hnone : Text.items host = [] then _ else _) = _
  rw [dif_neg hitems]
  rfl

end Texts

/-- The values are texts or missing, but for the fields, which may be a list of texts; and the
hosts, if they are given, have ports that are numbers. -/
structure TextOptions (config : Config) : Prop where
  texts : ∀ key c, config.get? key = some c → key ≠ "fields" → c = .null ∨ ∃ s, c = .text s
  fields : ∃ names, FieldNames (config.get? "fields") names
  hosts : ∀ s, config.get? "host" = some (.text s) → Text.strip s ≠ "" →
    Text.items s ≠ [] ∧ ∀ entry ∈ Text.items s, ∃ h, HostPort.read entry = .ok h

namespace TextOptions

variable {config : Config}

/-- An option that is given is a text. -/
theorem exists_text (h : TextOptions config) {key : String} (hkey : key ≠ "fields")
    (hgiven : ¬ NotGiven config key) :
    ∃ s, config.get? key = some (.text s) ∧ Text.strip s ≠ "" := by
  cases hget : config.get? key with
  | none => exact absurd (.absent hget) hgiven
  | some c =>
    rcases h.texts key c hget hkey with rfl | ⟨s, rfl⟩
    · exact absurd (.missing hget) hgiven
    · exact ⟨s, rfl, fun hblank => hgiven (.blank hget hblank)⟩

/-- If host, database, user and password are given, the settings can be read. -/
theorem exists_settings (h : TextOptions config)
    (hgiven : ∀ k ∈ ["host", "database", "username", "password"], ¬ NotGiven config k) :
    ∃ settings url, ConnectionSettings.ofConfig config = .ok settings ∧
      settings.address = .ok url := by
  obtain ⟨host, hhost, hhostGiven⟩ := h.exists_text (by decide) (hgiven "host" (by decide))
  obtain ⟨database, hdatabase, -⟩ := h.exists_text (by decide) (hgiven "database" (by decide))
  obtain ⟨user, huser, -⟩ := h.exists_text (by decide) (hgiven "username" (by decide))
  obtain ⟨password, hpassword, -⟩ := h.exists_text (by decide) (hgiven "password" (by decide))
  obtain ⟨hitems, hentries⟩ := h.hosts host hhost hhostGiven
  obtain ⟨url, hurl⟩ := exists_address (s := ⟨Text.items host, database, .text user,
    .text password, ⟨(config.part ConnectionSettings.optionStart false).entries⟩, hitems⟩) hentries rfl rfl
  exact ⟨_, url, ofConfig_of_texts hhost hdatabase huser hpassword
    (partIsWritable_of_texts h.texts) hitems, hurl⟩

/-- If all required options are given, the settings, the address and the table can be read. -/
theorem exists_targets (h : TextOptions config)
    (hgiven : ∀ k ∈ requiredOptions, ¬ NotGiven config k) :
    ∃ settings url table, Sink.Targets config settings table ∧ settings.address = .ok url ∧
      config.get? "table" = some (.text table) := by
  have hconnection : ∀ k ∈ ["host", "database", "username", "password"], k ∈ requiredOptions := by
    decide
  obtain ⟨settings, url, hsettings, hurl⟩ :=
    h.exists_settings fun k hk => hgiven k (hconnection k hk)
  obtain ⟨table, htable, -⟩ := h.exists_text (by decide) (hgiven "table" (by decide))
  exact ⟨settings, url, table,
    ⟨checkRequired_success hgiven, hsettings, required_text htable⟩, hurl, htable⟩

/-- Texts are such options, if the hosts have ports that are numbers. -/
theorem of_texts (pairs : List (String × String))
    (hhosts : ∀ s, pairs.reverse.lookup "host" = some s → Text.strip s ≠ "" →
      Text.items s ≠ [] ∧ ∀ entry ∈ Text.items s, ∃ h, HostPort.read entry = .ok h) :
    TextOptions (.ofList (pairs.map fun e => (e.1, .text e.2))) := by
  refine ⟨fun key c hc _ => ?_, ?_, fun s hs => ?_⟩
  · rw [get?_of_texts] at hc
    obtain ⟨s, -, rfl⟩ := Option.map_eq_some_iff.mp hc
    exact .inr ⟨s, rfl⟩
  · rw [get?_of_texts]
    cases pairs.reverse.lookup "fields" with
    | none => exact ⟨none, .absent⟩
    | some s => exact ⟨_, .text s⟩
  · rw [get?_of_texts] at hs
    obtain ⟨host, hhost, heq⟩ := Option.map_eq_some_iff.mp hs
    obtain rfl := Cell.text.inj heq
    exact hhosts host hhost

end TextOptions
end TableLoader
