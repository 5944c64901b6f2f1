/-
# Secrets do not show

Two batch loads in worlds that differ in the values of secrets only run side by side
(`Proofs/TwoRuns`): each step is given options, sinks and worlds that are alike, and
leaves them alike. So a load ends the same, and shows the same events in the same order,
log records and the rows that are sent among them, whatever the secrets are; only the
addresses of connections hold them (`run_hides_secrets`).

Key definitions: `Sink.Alike`.
Key theorems: `check_alike`, `prepare_alike`, `output_alike`, `run_hides_secrets`.
-/
import TableLoader.Load
import TableLoader.Proofs.Load.SecretOptions
import TableLoader.Proofs.Sink.History

namespace TableLoader

open Act SinkOptions

/-! ### Sinks -/

namespace Sink

/-- The sinks differ in their configurations and in the settings of their connections only, and
these are alike. -/
inductive Alike : Sink → Sink → Prop
  | mk {s : Sink} {config : Config} {connection : Option ConnectionSettings} :
      s.config.Alike config → Option.Rel ConnectionSettings.Alike s.connection connection →
      Alike s { s with config := config, connection := connection }

section Parts

variable {s s' : Sink}

theorem Alike.table (h : s.Alike s') : s'.table = s.table := by
  cases h
  rfl

theorem Alike.connection (h : s.Alike s') :
    Option.Rel ConnectionSettings.Alike s.connection s'.connection := by
  cases h with
  | mk _ hconnection => exact hconnection

theorem Alike.inferenceNote (h : s.Alike s') (table : String) (columns : List String) :
    s'.inferenceNote table columns = s.inferenceNote table columns := by
  cases h
  rfl

/-- Plans for connections that are alike are alike, or neither can be made. -/
theorem Alike.planFor (h : s.Alike s') {settings settings' : ConnectionSettings}
    (hsettings : settings.Alike settings') (table : String) (columns : List String) :
    ResultsAlike PartitionPlan.Alike (s.planFor table settings columns)
      (s'.planFor table settings' columns) := by
  cases h
  refine (ResultsAlike.refl _).bind ?_
  rintro types _ rfl
  exact PartitionPlan.of?_alike hsettings _ _ _ _ _

end Parts

/-! ### Steps -/

theorem noteFailure_alike (what : String) (r : CheckResult) :
    Act.Alike DifferInSecrets Sink.Alike Eq (noteFailure what r) (noteFailure what r) := by
  unfold noteFailure
  cases r.success with
  | true => exact alike_pure rfl
  | false => exact alike_log _ _ _

theorem fetchSchema_alike (table : String) :
    Act.Alike DifferInSecrets Sink.Alike Eq (fetchSchema table) (fetchSchema table) := by
  refine (describeTable_alike table).bind ?_
  rintro columns _ rfl
  exact (alike_log _ _ _).bind fun _ _ _ => alike_pure rfl

theorem checkFields_alike :
    Act.Alike DifferInSecrets Sink.Alike Eq checkFields checkFields := by
  refine alike_get.bind ?_
  rintro s _ ⟨hconfig, hconnection⟩
  dsimp only
  rw [hconfig.texts? "fields" (by decide)]
  refine (alike_ofExcept (.refl _)).bind ?_
  rintro given _ rfl
  cases given with
  | none => exact alike_pure rfl
  | some fields =>
    refine (alike_modify ?_).bind fun _ _ _ =>
      (noteFailure_alike _ _).bind fun _ _ _ => alike_pure rfl
    rintro t _ ⟨hconfig, hconnection⟩
    exact .mk (s := { t with fields := some fields }) hconfig hconnection

theorem check_alike : Act.Alike DifferInSecrets Sink.Alike Eq check check := by
  refine alike_get.bind ?_
  rintro s _ ⟨hconfig, hconnection⟩
  dsimp only
  rw [hconfig.checkRequired, hconfig.required "table" (by decide)]
  cases (Config.checkRequired _ requiredOptions).success with
  | false => exact (noteFailure_alike _ _).bind fun _ _ _ => alike_pure rfl
  | true =>
    refine (alike_ofExcept (ofConfig_alike hconfig)).bind fun settings settings' hsettings => ?_
    refine (alike_modify ?_).bind fun _ _ _ => ?_
    · rintro t _ ⟨hconfig, hconnection⟩
      exact .mk (s := { t with connection := some settings }) hconfig (.some hsettings)
    · refine (alike_ofExcept (.refl _)).bind ?_
      rintro table _ rfl
      have hkeep : Act.Alike DifferInSecrets Sink.Alike Eq
          (do let schema ← fetchSchema table; Act.modify fun s => { s with schema := schema })
          (do let schema ← fetchSchema table; Act.modify fun s => { s with schema := schema }) := by
        refine (fetchSchema_alike table).bind ?_
        rintro schema _ rfl
        refine alike_modify ?_
        rintro t _ ⟨hconfig, hconnection⟩
        exact .mk (s := { t with schema := schema }) hconfig hconnection
      refine (alike_modify ?_).bind fun _ _ _ => (withConnection_alike hsettings hkeep).bind
        fun _ _ _ => checkFields_alike
      rintro t _ ⟨hconfig, hconnection⟩
      exact .mk (s := { t with table := some table }) hconfig hconnection

theorem setBulkSize_alike (size : Int) : ∀ s s' : Sink, s.Alike s' →
    ResultsAlike Sink.Alike (setBulkSize size s) (setBulkSize size s') := by
  rintro s _ ⟨hconfig, hconnection⟩
  unfold setBulkSize
  by_cases hpos : 0 < size
  · rw [dif_pos hpos, dif_pos hpos]
    exact .ok (.mk (s := { s with bulkSize := size.toNat, bulkSize_pos := by omega }) hconfig
      hconnection)
  · rw [dif_neg hpos, dif_neg hpos]
    exact .error _

theorem prepare_alike : Act.Alike DifferInSecrets Sink.Alike Eq prepare prepare := by
  refine (alike_modify ?_).bind fun _ _ _ => alike_get.bind ?_
  · rintro t _ ⟨hconfig, hconnection⟩
    exact .mk (s := { t with config := t.config.withDefaults defaultOptions })
      (hconfig.withDefaults defaultOptions) hconnection
  rintro s _ ⟨hconfig, hconnection⟩
  dsimp only
  have hpolicy : ∀ {config config' : Config}, config.Alike config' →
      RetryPolicy.ofConfig config = RetryPolicy.ofConfig config' := by
    intro config config' h
    unfold RetryPolicy.ofConfig
    rw [h.integer? "retry" (by decide), h.integers "retry_codes" (by decide)]
  rw [hpolicy hconfig, hconfig.integer? "bulk_size" (by decide)]
  refine (alike_ofExcept (.refl _)).bind ?_
  rintro policy _ rfl
  refine (alike_modify ?_).bind fun _ _ _ => (alike_ofExcept (.refl _)).bind ?_
  · rintro t _ ⟨hconfig, hconnection⟩
    exact .mk (s := { t with policy := policy }) hconfig hconnection
  rintro size _ rfl
  refine (alike_update (setBulkSize_alike _)).bind fun _ _ _ => ?_
  cases s.table with
  | none => exact alike_pure rfl
  | some table =>
    cases s.fields with
    | none => exact alike_pure rfl
    | some fields =>
      refine (alike_modify ?_).bind fun _ _ _ => alike_log _ _ _
      rintro t _ ⟨hconfig, hconnection⟩
      exact .mk (s := { t with prepared := some ⟨table, fields⟩ }) hconfig hconnection

theorem timedLoad_alike {plan plan' : PartitionPlan} (h : plan.Alike plan') (table : String)
    (partitions : List (List Row)) : Act.Alike DifferInSecrets Sink.Alike Eq
      (timedLoad plan table partitions) (timedLoad plan' table partitions) := by
  have hpath : ∀ env env' : Environment, DifferInSecrets env env' →
      TimingLog.pathIn env = TimingLog.pathIn env' :=
    fun env env' h => text?_eq h TimingLog.variableName (by decide)
  refine alike_readClock.bind ?_
  rintro start _ rfl
  refine (loadPartitions_alike h partitions).bind fun _ _ _ => alike_readClock.bind ?_
  rintro stop _ rfl
  exact TimingLog.append_alike hpath _

theorem output_alike (df : DataFrame) :
    Act.Alike DifferInSecrets Sink.Alike Eq (output df) (output df) := by
  intro s s' w w' hs hw
  cases htable : s.table with
  | none =>
    have htable' : s'.table = none := hs.table.trans htable
    rw [output_unchecked (.inl htable), output_unchecked (.inl htable')]
    exact ⟨.error _, hs, hw, rfl⟩
  | some table =>
    have htable' : s'.table = some table := hs.table.trans htable
    rcases optionRel_cases hs.connection with ⟨hnone, hnone'⟩ | ⟨c, c', halike, hc, hc'⟩
    · rw [output_unchecked (.inr hnone), output_unchecked (.inr hnone')]
      exact ⟨.error _, hs, hw, rfl⟩
    · have hload := (alike_ofExcept (hs.planFor halike table df.columns)).bind
        fun _ _ hplan => timedLoad_alike hplan table df.partitions
      rw [output_run htable hc, output_run htable' hc', hs.inferenceNote]
      exact (hload s s' w w' hs hw).after _

end Sink

/-! ### Loads -/

theorem emitAll_alike {E : Environment → Environment → Prop} {σ : Type} {S : σ → σ → Prop} :
    ∀ es : List Event, Act.Alike E S Eq (emitAll es : Act σ Unit) (emitAll es)
  | [] => alike_pure rfl
  | _ :: es => (alike_emit rfl).bind fun _ _ _ => emitAll_alike es

theorem openSession_alike (o : SessionOptions) :
    Act.Alike DifferInSecrets Eq Eq (openSession o) (openSession o) := by
  have hforget : Act.Alike DifferInSecrets Eq Eq SessionRegistry.forgetStopped
      SessionRegistry.forgetStopped := by
    refine alike_get.bind ?_
    rintro r _ rfl
    rcases r.context with - | (- | stopped)
    · exact alike_pure rfl
    · exact alike_pure rfl
    · refine (alike_emit rfl).bind fun _ _ _ => ?_
      by_cases hstopped : stopped = some true
      · rw [if_pos hstopped]
        refine alike_modify ?_
        rintro r _ rfl
        rfl
      · rw [if_neg hstopped]
        exact alike_pure rfl
  refine hforget.bind fun _ _ _ => (emitAll_alike _).bind fun _ _ _ => ?_
  refine (alike_ofExcept (.refl _)).bind ?_
  rintro calls _ rfl
  exact (emitAll_alike _).bind fun _ _ _ => emitAll_alike _

/-- The options of the session are no secrets. -/
theorem forBatch_eq {env env' : Environment} (h : DifferInSecrets env env') (name : String)
    (master : Option String) :
    SessionOptions.forBatch env name master = SessionOptions.forBatch env' name master := by
  unfold SessionOptions.forBatch SessionOptions.shufflePartitionsIn
  rw [switch?_eq h "SPARK_BATCH_EVENT_LOG_ENABLED" (by decide),
    integer?_eq h "SPARK_BATCH_SHUFFLE_PARTITIONS" (by decide),
    text?_eq h "SPARK_BATCH_MASTER" (by decide), items_eq h "SPARK_JARS_PACKAGES" (by decide),
    text?_eq h "SPARK_BATCH_EVENT_LOG_DIR" (by decide),
    text?_eq h "SPARK_BATCH_DRIVER_MEMORY" (by decide),
    text?_eq h "SPARK_BATCH_EXECUTOR_MEMORY" (by decide)]

theorem openBatchSession_alike (name : String) (master : Option String) :
    Act.Alike DifferInSecrets Eq Eq (openBatchSession name master)
      (openBatchSession name master) := by
  refine alike_world.bind fun w w' hw => ?_
  rw [forBatch_eq hw.environment]
  refine (alike_ofExcept (.refl _)).bind ?_
  rintro o _ rfl
  exact openSession_alike o

namespace Load

/-- The lines that show options are the same for configurations that are alike. -/
theorem optionLines_eq {config config' : Config} (h : config.Alike config') :
    (sorted config).map optionLine = (sorted config').map optionLine := by
  let shown : String × Cell → String × Cell := fun e => (e.1, masked e.1 e.2)
  let line : String × Cell → String := fun e => "[config] " ++ e.1 ++ "=" ++ e.2.display
  have hline : ∀ l : List (String × Cell), l.map optionLine = (l.map shown).map line := by
    intro l
    rw [List.map_map]
    rfl
  have hsorted : ∀ config : Config, (sorted config).map shown =
      (config.entries.map shown).mergeSort fun a b => a.1 ≤ b.1 :=
    fun config => List.map_mergeSort fun _ _ _ _ => rfl
  have hshown : config.entries.map shown = config'.entries.map shown := by
    have hmap : List.Forall₂ Eq (config.entries.map shown) (config'.entries.map shown) :=
      List.forall₂_map_left_iff.mpr (List.forall₂_map_right_iff.mpr (h.imp fun _ _ he => he.masked))
    rwa [List.forall₂_eq_eq_eq] at hmap
  rw [hline, hline, hsorted, hsorted, hshown]

theorem logOptions_alike {σ : Type} {S : σ → σ → Prop} {config config' : Config}
    (h : config.Alike config') : Act.Alike DifferInSecrets S Eq
      (logOptions config : Act σ Unit) (logOptions config') := by
  have hrecords : ∀ config : Config,
      ((sorted config).map fun e => Event.log .info logger (optionLine e)) =
        ((sorted config).map optionLine).map (Event.log .info logger) := by
    intro config
    rw [List.map_map]
    rfl
  unfold logOptions
  rw [hrecords, hrecords, optionLines_eq h]
  exact emitAll_alike _

theorem readInput_alike (input : DataFrame) :
    Act.Alike DifferInSecrets Sink.Alike Eq (readInput input) (readInput input) := by
  refine alike_world.bind fun w w' hw => ?_
  rw [text?_eq hw.environment "SPARK_SINK_INPUT_PATH" (by decide),
    text?_eq hw.environment "SPARK_SINK_INPUT_FORMAT" (by decide)]
  cases w'.environment.text? "SPARK_SINK_INPUT_PATH" with
  | none => exact alike_fail _
  | some path =>
    have houtcome : loadOutcome input w = loadOutcome input w' := by
      rw [loadOutcome, hw.loadFailure, loadOutcome]
    rw [houtcome]
    exact (emitAll_alike _).bind fun _ _ _ => alike_ofExcept (.refl _)

theorem runSink_alike (input : DataFrame) :
    Act.Alike DifferInSecrets Sink.Alike Eq (runSink input) (runSink input) := by
  have hcheck : Act.Alike DifferInSecrets Sink.Alike Eq checkSink checkSink := by
    refine Sink.check_alike.bind ?_
    rintro r _ rfl
    exact alike_ofExcept (.refl _)
  have hload : Act.Alike DifferInSecrets Sink.Alike Eq (loadInput input) (loadInput input) := by
    refine Sink.prepare_alike.bind fun _ _ _ => (readInput_alike input).bind ?_
    rintro frame _ rfl
    exact Sink.output_alike frame
  have hstop : Act.Alike DifferInSecrets Sink.Alike Eq stopSession stopSession :=
    (alike_log _ _ _).bind fun _ _ _ => alike_emit rfl
  refine hcheck.bind fun _ _ _ => alike_world.bind fun w w' hw => ?_
  exact ((openBatchSession_alike _ _).within hw.registry).bind fun _ _ _ => hload.always hstop

theorem ofConfig_alike {config config' : Config} (h : config.Alike config') :
    Sink.Alike (Sink.ofConfig config) (Sink.ofConfig config') :=
  .mk (s := Sink.ofConfig config) h .none

/-- Whatever the secrets are, a load ends the same and shows the same, but for the addresses of
connections, and it leaves the same world behind, but for the environment. -/
theorem run_hides_secrets {σ : Type} (input : DataFrame) (s : σ) {w : World} {env : Environment}
    (h : DifferInSecrets w.environment env) :
    (run input s { w with environment := env }).result = (run input s w).result ∧
      (run input s { w with environment := env }).events.map Event.withoutUrl =
        (run input s w).events.map Event.withoutUrl ∧
      (run input s w).world.Alike DifferInSecrets (run input s { w with environment := env }).world := by
  have hrun : Act.Alike DifferInSecrets Eq Eq (run input : Act σ Unit) (run input) := by
    refine alike_world.bind fun w w' hw => ?_
    refine (alike_ofExcept (ofEnvironment_alike hw.environment)).bind fun config config' hconfig => ?_
    exact (logOptions_alike hconfig).bind fun _ _ _ =>
      ((runSink_alike input).within (ofConfig_alike hconfig)).bind fun _ _ _ => alike_pure rfl
  obtain ⟨hresult, -, hworld, hevents⟩ := hrun s s w { w with environment := env } rfl (.mk h)
  exact ⟨hresult.eq.symm, hevents.symm, hworld⟩

/-! ### Two passwords -/

/-- The variables of a load with a password and a token. -/
def jobEnvironment (password token : String) : Environment where
  entries := [("SPARK_CLICKHOUSE_SINK_PASSWORD", password),
    ("SPARK_CLICKHOUSE_SINK_OPT_API_TOKEN", token), ("SPARK_CLICKHOUSE_SINK_HOST", "h"),
    ("SPARK_CLICKHOUSE_SINK_TABLE", "t"), ("SPARK_CLICKHOUSE_SINK_DATABASE", "d"),
    ("SPARK_CLICKHOUSE_SINK_USERNAME", "u"), ("SPARK_SINK_INPUT_PATH", "/in")]
  nodup := by simp

/-- Only the password and the token are secret. -/
theorem jobEnvironment_given {password token name value : String}
    (hpassword : Text.strip password ≠ "") (htoken : Text.strip token ≠ "")
    (hname : isSecretVariable name = true)
    (hget : (jobEnvironment password token).get? name = some value) : Text.strip value ≠ "" := by
  have hmem : (name, value) ∈ (jobEnvironment password token).entries := by
    obtain ⟨front, back, hentries, -⟩ := List.lookup_eq_some_iff.mp hget
    rw [hentries]
    exact List.mem_append_right _ List.mem_cons_self
  simp only [jobEnvironment, List.mem_cons, Prod.mk.injEq, List.not_mem_nil, or_false] at hmem
  rcases hmem with ⟨-, rfl⟩ | ⟨-, rfl⟩ | ⟨rfl, -⟩ | ⟨rfl, -⟩ | ⟨rfl, -⟩ | ⟨rfl, -⟩ | ⟨rfl, -⟩
  · exact hpassword
  · exact htoken
  all_goals exact absurd hname (by decide)

theorem jobEnvironment_differ {password token password' token' : String}
    (hpassword : Text.strip password ≠ "") (htoken : Text.strip token ≠ "")
    (hpassword' : Text.strip password' ≠ "") (htoken' : Text.strip token' ≠ "") :
    DifferInSecrets (jobEnvironment password token) (jobEnvironment password' token') where
  names _ := rfl
  shown name hname := by
    have hne : ∀ secret, isSecretVariable secret = true → (name == secret) = false := by
      intro secret hsecret
      rw [beq_eq_false_iff_ne]
      rintro rfl
      rw [hname] at hsecret
      cases hsecret
    have hnotPassword := hne "SPARK_CLICKHOUSE_SINK_PASSWORD" (by decide)
    have hnotToken := hne "SPARK_CLICKHOUSE_SINK_OPT_API_TOKEN" (by decide)
    simp only [OrderedMap.get?, jobEnvironment, List.lookup_cons, hnotPassword, hnotToken]
  given _ _ hname hget := jobEnvironment_given hpassword htoken hname hget
  given' _ _ hname hget := jobEnvironment_given hpassword' htoken' hname hget

/-- A world with a password and a token. -/
def jobWorld : World := { Sink.smallTable with environment := jobEnvironment "p@ss" "t/1" }

/-- One row of a text. -/
def oneRow : DataFrame := ⟨["a"], [[[("a", .text "x")]]]⟩

/-- Another password and another token make no difference. -/
theorem jobWorld_hides_secrets :
    DifferInSecrets jobWorld.environment (jobEnvironment "other" "x y") ∧
      (run oneRow () { jobWorld with environment := jobEnvironment "other" "x y" }).result =
        (run oneRow () jobWorld).result ∧
      (run oneRow () { jobWorld with environment := jobEnvironment "other" "x y" }).events.map
        Event.withoutUrl = (run oneRow () jobWorld).events.map Event.withoutUrl ∧
      (run oneRow () jobWorld).world.Alike DifferInSecrets
        (run oneRow () { jobWorld with environment := jobEnvironment "other" "x y" }).world := by
  have hdiffer : DifferInSecrets jobWorld.environment (jobEnvironment "other" "x y") :=
    jobEnvironment_differ (by decide) (by decide) (by decide) (by decide)
  exact ⟨hdiffer, run_hides_secrets oneRow () hdiffer⟩

end Load
end TableLoader
