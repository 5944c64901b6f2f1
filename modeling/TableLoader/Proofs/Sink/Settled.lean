/-
# Checks and preparations that are repeated

A preparation puts defaults into the configuration, in front of what was there. A check
does not notice: none of the options that it reads has a default, and the options of the
connection keep their order (`readAlike_withDefaults`). So a check after a preparation
finds what the check before it found, by the same calls, and writes what is already there;
and a second preparation does the same as the first one (`check_again`, `prepare_again`,
`ready_settled`).

Key definitions: `Settled`.
Key theorems: `readAlike_withDefaults`, `check_again`, `prepare_again`, `ready_settled`.
-/
import TableLoader.Proofs.OrderedMap
import TableLoader.Proofs.Parts
import TableLoader.Proofs.Sink.History

namespace TableLoader

/-! ### Configurations with defaults -/

namespace Config

variable {defaults : Config}

/-- An option without a default keeps its value. -/
theorem get?_withDefaults {key : String} (h : key ∉ defaults.keys) (config : Config) :
    (config.withDefaults defaults).get? key = config.get? key := by
  rw [withDefaults, OrderedMap.get?_merge, OrderedMap.get?_eq_none h, Option.or_none]

/-- A part without defaults keeps its entries and their order. -/
theorem partEntries_withDefaults {start : String}
    (h : ∀ key ∈ defaults.keys, Text.startsWith start key = false) (config : Config) :
    (config.withDefaults defaults).partEntries start = config.partEntries start :=
  OrderedMap.filter_entries_merge h config

/-- Defaults that are there already are not put in again. -/
theorem withDefaults_withDefaults (config defaults : Config) :
    (config.withDefaults defaults).withDefaults defaults = config.withDefaults defaults :=
  OrderedMap.merge_merge defaults config

end Config

namespace Sink

/-- A check reads nothing that has a default. -/
theorem readAlike_withDefaults (config : Config) :
    ReadAlike config (config.withDefaults defaultOptions) := by
  have hvalue : ∀ key, key ∉ defaultOptions.keys →
      (config.withDefaults defaultOptions).get? key = config.get? key :=
    fun _ h => Config.get?_withDefaults h config
  have hpart : (config.withDefaults defaultOptions).writtenPart ConnectionSettings.optionStart false =
      config.writtenPart ConnectionSettings.optionStart false :=
    Config.writtenPart_congr (Config.partEntries_withDefaults (by decide) config) false
  have hrequired : ∀ key, key ∉ defaultOptions.keys →
      ConnectionSettings.required (config.withDefaults defaultOptions) key =
        ConnectionSettings.required config key := fun key h => by
    rw [ConnectionSettings.required, ConnectionSettings.required, hvalue key h]
  refine ⟨?_, ?_, hrequired _ (by decide), ?_⟩
  · have hno : ∀ key ∈ requiredOptions, key ∉ defaultOptions.keys := by decide
    have hblank : (config.withDefaults defaultOptions).blankKeys requiredOptions =
        config.blankKeys requiredOptions :=
      List.filter_congr fun key hkey => by rw [hvalue key (hno key hkey)]
    rw [Config.checkRequired, Config.checkRequired, hblank]
  · unfold ConnectionSettings.ofConfig
    rw [hrequired "host" (by decide), hpart, hrequired "database" (by decide),
      hvalue "username" (by decide), hvalue "password" (by decide)]
  · unfold Config.texts?
    rw [hvalue _ (by decide)]

/-! ### The second time -/

/-- What was found is there when it is found again. -/
theorem Found.into_into (f : Found) (s : Sink) : f.into (f.into s) = f.into s := by
  have hschema : f.schema.getD (f.schema.getD s.schema) = f.schema.getD s.schema := by
    cases f.schema <;> rfl
  simp only [Found.into, ← Option.or_assoc, Option.or_self, hschema]

/-- A preparation starts by putting in the defaults. -/
theorem prepare_setConfig (config : Config) (s : Sink) (w : World) :
    prepare (s.setConfig (config.withDefaults defaultOptions)) w = prepare (s.setConfig config) w := by
  rw [prepare, Act.modify_bind, Act.modify_bind]
  simp only [setConfig, Config.withDefaults_withDefaults]

/-- A preparation that returns does the same when it is repeated, and changes nothing then. -/
theorem prepare_again {s : Sink} {w : World} (h : (prepare s w).result = .ok ()) (w' : World) :
    (prepare (prepare s w).state w').result = .ok () ∧
      (prepare (prepare s w).state w').state = (prepare s w).state := by
  rcases prepare_run s.config with ⟨e, hfail⟩ | ⟨policy, size, hsize, -, hrun⟩
  · obtain ⟨policy, -, hfirst⟩ := hfail s w rfl
    rw [hfirst] at h
    cases h
  · obtain ⟨es, -, hfirst⟩ := hrun s w rfl
    -- a sink that differs from the prepared one in its options only, which lack the defaults
    let bare : Sink := { s with
      policy := policy
      bulkSize := size
      bulkSize_pos := hsize
      prepared := s.insertAfter }
    have hinsert : bare.insertAfter = s.insertAfter := by
      cases htable : s.table <;> cases hfields : s.fields <;> simp [insertAfter, bare, htable, hfields]
    have hready : (prepare s w).state = bare.setConfig (s.config.withDefaults defaultOptions) := by
      rw [hfirst]
      rfl
    obtain ⟨fs, -, hsecond⟩ := hrun bare w' rfl
    rw [hready, prepare_setConfig]
    change (prepare bare w').result = _ ∧ (prepare bare w').state = _
    rw [hsecond, hinsert]
    exact ⟨rfl, rfl⟩

/-- What a check found is still there after a preparation, whether it returns or not, and the
configuration says the same to a check. -/
theorem found_prepare (found : Found) (s : Sink) (w : World) :
    found.into (prepare (found.into s) w).state = (prepare (found.into s) w).state ∧
      ReadAlike s.config (prepare (found.into s) w).state.config := by
  rcases prepare_run s.config with ⟨e, hfail⟩ | ⟨policy, size, hsize, -, hrun⟩
  · obtain ⟨policy, -, hfirst⟩ := hfail (found.into s) w rfl
    rw [hfirst]
    exact ⟨found.into_into { s with config := s.config.withDefaults defaultOptions, policy := policy },
      readAlike_withDefaults s.config⟩
  · obtain ⟨es, -, hfirst⟩ := hrun (found.into s) w rfl
    rw [hfirst]
    exact ⟨found.into_into { s with
        config := s.config.withDefaults defaultOptions
        policy := policy
        bulkSize := size
        bulkSize_pos := hsize
        prepared := (found.into s).insertAfter },
      readAlike_withDefaults s.config⟩

/-- A check after a check and a preparation comes to the same, with the same events, as long as the
database says the same of the table, and changes nothing. -/
theorem check_again (s : Sink) {w w₂ : World} (hworld : DescribesAlike w w₂) (w₁ : World) :
    let ready := (prepare (check s w).state w₁).state
    (check ready w₂).result = (check s w).result ∧
      (check ready w₂).events = (check s w).events ∧ (check ready w₂).state = ready := by
  obtain ⟨x, found, next, es, -, hrun⟩ := check_readAlike s.config w
  rw [hrun s w (.refl _) (.refl _)]
  obtain ⟨hthere, hreads⟩ := found_prepare found s w₁
  intro ready
  rw [hrun ready w₂ hreads hworld]
  exact ⟨rfl, rfl, hthere⟩

/-- **Checks and preparations settle.** After a check and a preparation another check comes to the
same result by the same events, and another preparation returns if the first one did; both leave
the sink, with its options in their order, as it is. -/
theorem ready_settled (s : Sink) {w w₁ w₂ : World} (hworld : DescribesAlike w w₂)
    (hready : (prepare (check s w).state w₁).result = .ok ()) :
    let ready := (prepare (check s w).state w₁).state
    ((check ready w₂).result = (check s w).result ∧
      (check ready w₂).events = (check s w).events ∧ (check ready w₂).state = ready) ∧
    ∀ w₃, (prepare ready w₃).result = .ok () ∧ (prepare ready w₃).state = ready :=
  ⟨check_again s hworld w₁, prepare_again hready⟩

/-- A sink with a number of further attempts, and with two options of the connection. -/
def tunedSink : Sink := ofConfig (smallOptions
  [("retry", .int 3), ("clickhouse.b", .text "1"), ("clickhouse.a", .text "2")])

/-- The preparation of the sink puts the number of further attempts, with the defaults, in front of
the other options. Another check opens the same address all the same, and another preparation
leaves the options as they are. -/
theorem tunedSink_settled :
    let ready := (prepare (check tunedSink smallTable).state smallTable).state
    let later := { smallTable with epoch := 60 }
    ready.config.keys = ["bulk_size", "retry_codes", "retry", "host", "table", "database", "username",
        "password", "clickhouse.b", "clickhouse.a"] ∧
      clientCalls (check ready later).events =
        [.connect "clickhouse://u:p@h:9000/d?b=1&a=2", .describe "desc t" none, .disconnect] ∧
      succeeded (check ready later).result = true ∧ (check ready later).state = ready ∧
      (prepare ready later).result = .ok () ∧ (prepare ready later).state = ready := by
  have hprepares :
      (prepare (check tunedSink smallTable).state smallTable).result.isOk = true := by
    decide +kernel
  have hready : (prepare (check tunedSink smallTable).state smallTable).result = .ok () := by
    cases hresult : (prepare (check tunedSink smallTable).state smallTable).result with
    | ok => rfl
    | error e =>
      rw [hresult] at hprepares
      cases hprepares
  have hworld : DescribesAlike smallTable { smallTable with epoch := 60 } := ⟨rfl, rfl⟩
  obtain ⟨⟨hresult, hevents, hstate⟩, hagain⟩ := ready_settled tunedSink hworld hready
  intro ready later
  refine ⟨by decide +kernel, ?_, ?_, hstate, hagain later⟩
  · rw [hevents]
    rfl
  · rw [hresult]
    decide +kernel

end Sink
end TableLoader
