/-
# Errors that a check throws

A check of options that are texts returns what is wrong with them as its result, but for
the hosts (`check_throws_iff`). If all required options are given and no host is named
between the commas, or a host has a port that is no integer, the check itself fails, and
the client is not called. Options that are not given and fields that cannot be loaded are
reported, and what is reported is thrown when the result is asked for.

Key definitions: `AllTexts`, `HostsFail`.
Key theorems: `check_of_noHosts`, `check_of_badPort`, `check_throws_iff`.
-/
import TableLoader.Proofs.Sink.Events
import TableLoader.Proofs.Sink.Options

namespace TableLoader
namespace Sink

/-- All options are texts. -/
def AllTexts (config : Config) : Prop := ∀ key c, config.get? key = some c → ∃ s, c = .text s

/-- With the text the hosts cannot be used. -/
inductive HostsFail (host : String) : Error → Prop where
  | none : Text.items host = [] → HostsFail host .noHost
  | port {e} : FirstBadPort (Text.items host) e → HostsFail host e

section Texts

variable {config : Config}

/-- An option that is given is a text. -/
theorem AllTexts.exists_text (h : AllTexts config) {key : String} (hgiven : ¬ NotGiven config key) :
    ∃ s, config.get? key = some (.text s) := by
  cases hget : config.get? key with
  | none => exact absurd (.absent hget) hgiven
  | some c =>
    obtain ⟨s, rfl⟩ := h key c hget
    exact ⟨s, rfl⟩

theorem AllTexts.partIsWritable (h : AllTexts config) :
    config.partIsWritable ConnectionSettings.optionStart = true :=
  partIsWritable_of_texts fun key c hget _ => .inr (h key c hget)

theorem allTexts_of_texts (pairs : List (String × String)) :
    AllTexts (.ofList (pairs.map fun e => (e.1, .text e.2))) := by
  intro key c hget
  rw [get?_of_texts] at hget
  obtain ⟨s, -, rfl⟩ := Option.map_eq_some_iff.mp hget
  exact ⟨s, rfl⟩

/-- Fields that are a text can be read. -/
theorem AllTexts.exists_fields (h : AllTexts config) : ∃ names, config.texts? "fields" = .ok names := by
  unfold Config.texts?
  cases hget : config.get? "fields" with
  | none => exact ⟨_, rfl⟩
  | some c =>
    obtain ⟨s, rfl⟩ := h "fields" c hget
    exact ⟨_, rfl⟩

/-- If all required options are given, there are no hosts and so no settings, or the settings can be
read and have the hosts and credentials that the texts say. -/
theorem AllTexts.exists_settings (h : AllTexts config)
    (hgiven : ∀ k ∈ requiredOptions, ¬ NotGiven config k) :
    ∃ host, config.get? "host" = some (.text host) ∧
      (Text.items host = [] ∧ ConnectionSettings.ofConfig config = .error .noHost ∨
        ∃ settings table credentials, Targets config settings table ∧
          settings.hosts = Text.items host ∧ settings.credentials = .ok credentials) := by
  obtain ⟨host, hhost⟩ := h.exists_text (hgiven "host" (by decide))
  obtain ⟨database, hdatabase⟩ := h.exists_text (hgiven "database" (by decide))
  obtain ⟨user, huser⟩ := h.exists_text (hgiven "username" (by decide))
  obtain ⟨password, hpassword⟩ := h.exists_text (hgiven "password" (by decide))
  obtain ⟨table, htable⟩ := h.exists_text (hgiven "table" (by decide))
  refine ⟨host, hhost, ?_⟩
  by_cases hitems : Text.items host = []
  · exact .inl ⟨hitems, ofConfig_of_noHosts hhost hitems⟩
  · have hsettings := ofConfig_of_texts hhost hdatabase huser hpassword h.partIsWritable hitems
    obtain ⟨credentials, hcredentials⟩ :=
      ConnectionSettings.exists_credentials (s := ⟨Text.items host, database, .text user,
        .text password, ⟨(config.part ConnectionSettings.optionStart false).entries⟩, hitems⟩) rfl rfl
    exact .inr ⟨_, table, credentials,
      ⟨checkRequired_success hgiven, hsettings, required_text htable⟩, rfl, hcredentials⟩

end Texts

section Checks

variable {s : Sink} {w : World}

/-- Without an address a check ends before it calls the client. -/
theorem check_unaddressed {settings : ConnectionSettings} {table : String} {e : Error}
    (h : Targets s.config settings table) (haddress : settings.address = .error e) :
    check s w =
      ⟨.error e, { s with connection := some settings, table := some table }, w, []⟩ := by
  rw [check_targets h rfl, Act.bind_error (withConnection_error haddress _ _ _)]

/-- A check of texts with hosts that cannot be used fails. -/
theorem check_of_hostsFail (htexts : AllTexts s.config)
    (hgiven : ∀ k ∈ requiredOptions, ¬ NotGiven s.config k) {host : String}
    (hhost : s.config.get? "host" = some (.text host)) {e : Error} (h : HostsFail host e) :
    (check s w).result = .error e ∧ clientCalls (check s w).events = [] := by
  obtain ⟨host', hhost', hsettings⟩ := htexts.exists_settings hgiven
  obtain rfl := Cell.text.inj (Option.some.inj (hhost.symm.trans hhost'))
  rcases hsettings with ⟨hnone, hsettings⟩ | ⟨settings, table, credentials, htargets, hhosts, hcred⟩
  · rw [check_unreadable (checkRequired_success hgiven) hsettings rfl]
    cases h with
    | none => exact ⟨rfl, rfl⟩
    | port hport =>
      obtain ⟨before, entry, after, hitems, -⟩ := hport
      rw [hnone] at hitems
      cases before <;> cases hitems
  · cases h with
    | none hnone => exact absurd (hhosts.trans hnone) settings.hosts_ne_nil
    | port hport =>
      rw [← hhosts] at hport
      rw [check_unaddressed htargets ((ConnectionSettings.address_error_iff hcred).mpr hport)]
      exact ⟨rfl, rfl⟩

/-- A check of texts with hosts that can be used returns a result if the table is described. -/
theorem check_of_hosts (htexts : AllTexts s.config)
    (hgiven : ∀ k ∈ requiredOptions, ¬ NotGiven s.config k)
    (h : ∀ host e, s.config.get? "host" = some (.text host) → ¬ HostsFail host e)
    {columns : List (String × String)} (hdescribes : Describes w columns) :
    ∃ r, (check s w).result = .ok r := by
  obtain ⟨host, hhost, hsettings⟩ := htexts.exists_settings hgiven
  obtain ⟨names, hnames⟩ := htexts.exists_fields
  rcases hsettings with ⟨hnone, -⟩ | ⟨settings, table, credentials, htargets, hhosts, hcred⟩
  · exact absurd (.none hnone) (h host _ hhost)
  · cases haddress : settings.address with
    | error e =>
      have hport := (ConnectionSettings.address_error_iff hcred).mp haddress
      rw [hhosts] at hport
      exact absurd (.port hport) (h host e hhost)
    | ok url =>
      obtain ⟨-, hdescribed⟩ := check_described htargets haddress hnames w
      obtain ⟨r, hresult, -⟩ := hdescribed columns hdescribes
      exact ⟨r, hresult⟩

/-- A check that names options that are not given returns. -/
theorem check_of_notGiven {k : String} (hk : k ∈ requiredOptions) (h : NotGiven s.config k) :
    ∃ r, (check s w).result = .ok r := by
  obtain ⟨missing, -, hexact, hrequired⟩ := checkRequired_eq s.config requiredOptions
  have hmissing : missing ≠ [] := List.ne_nil_of_mem ((hexact k hk).mpr h)
  rw [if_neg hmissing] at hrequired
  have hfailed : (s.config.checkRequired requiredOptions).success = false := by
    rw [hrequired]
    rfl
  obtain ⟨es, -, hrun⟩ := check_incomplete hfailed
  rw [hrun s w (.refl _)]
  exact ⟨_, rfl⟩

/-- A result that says that something is wrong has the error that is thrown when it is asked
for. -/
theorem toExcept_of_failed {r : CheckResult} (h : (check s w).result = .ok r)
    (hr : r.success = false) : ∃ e, r.error = some e ∧ r.toExcept = .error e := by
  obtain ⟨x, found, w', es, hchecks, hrun⟩ := check_run s.config w
  rw [hrun s rfl] at h
  subst h
  obtain ⟨e, he⟩ := hchecks.error_of_failed hr
  refine ⟨e, he, ?_⟩
  unfold CheckResult.toExcept
  rw [hr, he]
  rfl

/-- When the table is described, a check of options that are texts fails exactly if all required
ones are given and the hosts cannot be used, and then the client is not called. In all other cases
it returns a result, with an error to be thrown if something is wrong. -/
theorem check_throws_iff (htexts : AllTexts s.config) {columns : List (String × String)}
    (hdescribes : Describes w columns) :
    (∀ e, (check s w).result = .error e ↔ (∀ k ∈ requiredOptions, ¬ NotGiven s.config k) ∧
      ∃ host, s.config.get? "host" = some (.text host) ∧ HostsFail host e) ∧
    (∀ e, (check s w).result = .error e → clientCalls (check s w).events = []) ∧
    ∀ r, (check s w).result = .ok r → r.success = false →
      ∃ e, r.error = some e ∧ r.toExcept = .error e := by
  have hfails : ∀ e, (check s w).result = .error e →
      (∀ k ∈ requiredOptions, ¬ NotGiven s.config k) ∧
        ∃ host, s.config.get? "host" = some (.text host) ∧ HostsFail host e := by
    intro e herror
    have hgiven : ∀ k ∈ requiredOptions, ¬ NotGiven s.config k := by
      intro k hk hnot
      obtain ⟨r, hresult⟩ := check_of_notGiven (w := w) hk hnot
      cases herror.symm.trans hresult
    refine ⟨hgiven, ?_⟩
    by_contra hno
    -- the hosts could fail with another error only
    have hhosts : ∀ host e', s.config.get? "host" = some (.text host) → ¬ HostsFail host e' := by
      intro host e' hhost hfail
      obtain ⟨hresult, -⟩ := check_of_hostsFail (w := w) htexts hgiven hhost hfail
      obtain rfl := Except.error.inj (herror.symm.trans hresult)
      exact hno ⟨host, hhost, hfail⟩
    obtain ⟨r, hresult⟩ := check_of_hosts htexts hgiven hhosts hdescribes
    cases herror.symm.trans hresult
  refine ⟨fun e => ⟨hfails e, ?_⟩, fun e herror => ?_, fun r => toExcept_of_failed⟩
  · rintro ⟨hgiven, host, hhost, hfail⟩
    exact (check_of_hostsFail htexts hgiven hhost hfail).1
  · obtain ⟨hgiven, host, hhost, hfail⟩ := hfails e herror
    exact (check_of_hostsFail htexts hgiven hhost hfail).2

end Checks

/-- A sink with all required options, and these hosts. -/
def hostSink (host : String) : Sink := ofConfig (smallOptions [("host", .text host)])

theorem hostSink_texts (host : String) : AllTexts (hostSink host).config :=
  allTexts_of_texts [("host", "h"), ("table", "t"), ("database", "d"), ("username", "u"),
    ("password", "p"), ("host", host)]

/-- A host with a letter for its port is thrown. -/
theorem hostSink_throws : (check (hostSink "h:x") smallTable).result = .error (.badHost "h:x") := by
  have hdescribes : Describes smallTable [("a", "String"), ("b", "Int64"), ("c", "Point")] :=
    ⟨rfl, rfl⟩
  have hgiven : ∀ k ∈ requiredOptions, ¬ NotGiven (hostSink "h:x").config k := by
    have hblank : ∀ k ∈ requiredOptions,
        Config.isBlank ((hostSink "h:x").config.get? k) = false := by decide +kernel
    intro k hk hnot
    exact Bool.noConfusion ((hblank k hk).symm.trans (isBlank_iff.mpr hnot))
  have hbad : HasBadPort "h:x" := ⟨['h'], ['x'], by decide +kernel, by decide, by decide +kernel⟩
  have hitems : Text.items "h:x" = ["h:x"] := by decide +kernel
  have hfails : HostsFail "h:x" (.badHost "h:x") :=
    .port ⟨[], "h:x", [], hitems, fun x hx => absurd hx List.not_mem_nil, hbad, rfl⟩
  obtain ⟨hthrows, -⟩ := check_throws_iff (hostSink_texts "h:x") hdescribes
  exact (hthrows _).mpr ⟨hgiven, "h:x", rfl, hfails⟩

/-- Not every check of texts returns a result when the table is described: one with a comma for the
hosts does not. -/
theorem comma_for_hosts_is_thrown :
    ¬ ∀ (s : Sink) (w : World) (columns : List (String × String)), AllTexts s.config →
      Describes w columns → ∃ r, (check s w).result = .ok r := by
  intro h
  obtain ⟨r, hresult⟩ := h (hostSink ",") smallTable
    [("a", "String"), ("b", "Int64"), ("c", "Point")] (hostSink_texts ",") ⟨rfl, rfl⟩
  have hthrown : (check (hostSink ",") smallTable).result.isOk = false := by decide +kernel
  rw [hresult] at hthrown
  cases hthrown

end Sink
end TableLoader
