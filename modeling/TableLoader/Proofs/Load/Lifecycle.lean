/-
# The course of a batch load

A load reads its options, checks the sink, opens the session, prepares the sink, reads
the input and loads it. What goes wrong first ends it, with its own error. Up to the
check this is all, and the session is not touched. Behind the check the session is
opened, unless its options cannot be read, when the connection of the check has been
closed already; and once it has been opened it is stopped, as the last event and
once, whatever comes in between. Rows are sent only after the input has been loaded,
and none if the engine fails to load it (`run_lifecycle`).

This is so whatever earlier loads have left of the engine: a context that has been
stopped is forgotten before the session is made (`forgetStopped_run`).

Key definitions: `Event.preparesSession`, `checked`, `prepared`, `read`, `loaded`,
`Lifecycle`.
Key theorems: `openBatchSession_ok`, `loadInput_run`, `run_lifecycle`.
-/
import TableLoader.Load
import TableLoader.Proofs.Sink.Events
import TableLoader.Proofs.Text.Integer

namespace TableLoader

/-! ### The session -/

theorem emitAll_run {σ : Type} (s : σ) (w : World) : ∀ es : List Event,
    emitAll es s w = ⟨.ok (), s, w, es⟩
  | [] => rfl
  | e :: es => by
    rw [emitAll, Act.emit_bind, emitAll_run s w es]
    rfl

theorem clientCalls_of_none {events : List Event} (h : ∀ e ∈ events, e.isClientCall = false) :
    clientCalls events = [] :=
  List.filter_eq_nil_iff.mpr fun e he => by simp [h e he]

/-- The call only says how the session is to be made. -/
def SessionCall.isSetting : SessionCall → Bool
  | .appName _ | .master _ | .config _ _ => true
  | _ => false

/-- The event comes before a session is made: an old one is asked whether it has been stopped, or
it is said how the new one is to be made. -/
def Event.preparesSession : Event → Bool
  | .isStopped => true
  | .session call => call.isSetting
  | _ => false

namespace SessionOptions

/-- The number of shuffle partitions can be written: it is the default, or has been read. -/
theorem isWritable_of_shufflePartitionsIn {env : Environment} {n : Int}
    (h : shufflePartitionsIn env = .ok n) : Number.isWritable n = true := by
  unfold shufflePartitionsIn Environment.integer? at h
  have height : Number.isWritable 8 = true := by decide +kernel
  cases htext : env.text? "SPARK_BATCH_SHUFFLE_PARTITIONS" with
  | none =>
    rw [htext] at h
    obtain rfl := Except.ok.inj h
    exact height
  | some value =>
    cases hread : Number.readInteger value with
    | none =>
      simp only [htext, hread] at h
      cases h
    | some m =>
      simp only [htext, hread] at h
      have hn : (if m = 0 then 8 else m) = n := Except.ok.inj h
      by_cases hzero : m = 0
      · rw [if_pos hzero] at hn
        rw [← hn]
        exact height
      · rw [if_neg hzero] at hn
        rw [← hn]
        exact Number.isWritable_of_readInteger hread

/-- The options of a batch load can be given to the builder. -/
theorem shuffleCalls_of_forBatch {env : Environment} {name : String} {master : Option String}
    {o : SessionOptions} (h : forBatch env name master = .ok o) :
    ∃ s, o.shuffleCalls = .ok [.config "spark.sql.shuffle.partitions" s] := by
  have hpartitions : ∃ n, Number.isWritable n = true ∧ o.shufflePartitions = some n := by
    unfold forBatch at h
    cases hread : shufflePartitionsIn env with
    | error e =>
      rw [hread] at h
      cases h
    | ok n =>
      rw [hread] at h
      exact ⟨n, isWritable_of_shufflePartitionsIn hread, by rw [← Except.ok.inj h]⟩
  obtain ⟨n, hwritten, hn⟩ := hpartitions
  have htext : (Cell.int n).toText = .ok (Cell.int n).display := by
    rw [Cell.toText, Cell.isWritable, if_pos hwritten]
  refine ⟨(Cell.int n).display, ?_⟩
  unfold shuffleCalls
  rw [hn]
  simp only [htext]
  rfl

theorem textCall_isSetting {call : String → SessionCall} (hcall : ∀ s, (call s).isSetting = true)
    (value : Option String) : ∀ c ∈ textCall call value, c.isSetting = true := by
  intro c hc
  obtain ⟨s, -, rfl⟩ := Option.map_eq_some_iff.mp (Option.mem_toList.mp hc)
  exact hcall s

theorem firstCalls_isSetting (o : SessionOptions) : ∀ c ∈ o.firstCalls, c.isSetting = true := by
  have hmaster : ∀ c ∈ textCall .master o.master, c.isSetting = true :=
    textCall_isSetting (fun _ => rfl) o.master
  intro c hc
  unfold firstCalls at hc
  by_cases hpackages : o.packages = []
  · simp only [hpackages, ↓reduceIte, List.append_nil, List.mem_append, List.mem_singleton] at hc
    rcases hc with (rfl | hc) | rfl
    · rfl
    · exact hmaster c hc
    · rfl
  · simp only [hpackages, ↓reduceIte, List.mem_append, List.mem_singleton] at hc
    rcases hc with ((rfl | hc) | rfl) | rfl
    · rfl
    · exact hmaster c hc
    · rfl
    · rfl

/-- The last of the last calls creates the session. -/
theorem lastCalls_eq (o : SessionOptions) :
    ∃ calls, o.lastCalls = calls ++ [.create] ∧ ∀ c ∈ calls, c.isSetting = true := by
  refine ⟨_, rfl, fun c hc => ?_⟩
  rcases List.mem_append.mp hc with hc | hc
  · rcases List.mem_append.mp hc with hc | hc
    · exact textCall_isSetting (fun _ => rfl) o.driverMemory c hc
    · exact textCall_isSetting (fun _ => rfl) o.executorMemory c hc
  · cases hdirectory : Text.nonEmpty? o.eventLogDirectory with
    | none =>
      rw [hdirectory] at hc
      cases hc
    | some directory =>
      simp only [hdirectory, List.mem_cons, List.not_mem_nil, or_false] at hc
      rcases hc with rfl | rfl <;> rfl

end SessionOptions

/-- Whatever is known of the engine, what is known then has no context that has been stopped. -/
theorem forgetStopped_run (registry : SessionRegistry) (w : World) :
    ∃ left asked, left.context ≠ some (.attached (some true)) ∧
      (∀ e ∈ asked, e = Event.isStopped) ∧
      SessionRegistry.forgetStopped registry w = ⟨.ok (), left, w, asked⟩ := by
  have hnone : ∀ e ∈ ([] : List Event), e = .isStopped := fun _ h => absurd h List.not_mem_nil
  have hasked : ∀ e ∈ [Event.isStopped], e = .isStopped := fun _ => List.mem_singleton.mp
  rcases registry with ⟨- | (- | (- | (- | -))), sessions⟩
  · exact ⟨⟨none, sessions⟩, [], nofun, hnone, rfl⟩
  · exact ⟨⟨some .detached, sessions⟩, [], nofun, hnone, rfl⟩
  · exact ⟨⟨some (.attached none), sessions⟩, _, nofun, hasked, rfl⟩
  · exact ⟨⟨some (.attached (some false)), sessions⟩, _, nofun, hasked, rfl⟩
  · exact ⟨⟨none, _⟩, _, nofun, hasked, rfl⟩

/-- A session is made by calls that say how it is to be made, and a last one that creates it. It is
not made in a context that has been stopped. -/
theorem openBatchSession_ok (registry : SessionRegistry) {w : World} {name : String}
    {master : Option String} {o : SessionOptions}
    (h : SessionOptions.forBatch w.environment name master = .ok o) :
    ∃ left opening, left.context ≠ some (.attached (some true)) ∧
      (∀ e ∈ opening, e.preparesSession = true) ∧
      openBatchSession name master registry w =
        ⟨.ok (), left, w, opening ++ [.session .create]⟩ := by
  obtain ⟨text, hshuffle⟩ := SessionOptions.shuffleCalls_of_forBatch h
  obtain ⟨last, hlast, hsettings⟩ := o.lastCalls_eq
  obtain ⟨left, asked, hleft, hasked, hforget⟩ := forgetStopped_run registry w
  let calls := o.firstCalls ++ .config "spark.sql.shuffle.partitions" text :: last
  have hcalls : ∀ c ∈ calls, c.isSetting = true := by
    intro c hc
    rcases List.mem_append.mp hc with hc | hc
    · exact o.firstCalls_isSetting c hc
    · rcases List.mem_cons.mp hc with rfl | hc
      · rfl
      · exact hsettings c hc
  refine ⟨left, asked ++ calls.map Event.session, hleft, fun e he => ?_, ?_⟩
  · rcases List.mem_append.mp he with he | he
    · rw [hasked e he]
      rfl
    · obtain ⟨c, hc, rfl⟩ := List.mem_map.mp he
      exact hcalls c hc
  · rw [openBatchSession, Act.world_bind, h, Act.ofExcept_ok_bind, openSession,
      Act.bind_ok hforget, Act.bind_ok (emitAll_run _ _ _), hshuffle, Act.ofExcept_ok_bind,
      Act.bind_ok (emitAll_run _ _ _), emitAll_run, hlast]
    simp [Ran.after, calls]

/-- Options that cannot be read make no session. -/
theorem openBatchSession_error (registry : SessionRegistry) {w : World} {name : String}
    {master : Option String} {e : Error}
    (h : SessionOptions.forBatch w.environment name master = .error e) :
    openBatchSession name master registry w = ⟨.error e, registry, w, []⟩ := by
  rw [openBatchSession, Act.world_bind, h, Act.ofExcept_error_bind]

namespace Load

/-! ### The input -/

theorem readerCalls_neither (format path : String) :
    ∀ c ∈ readerCalls format path, c ≠ .create ∧ c ≠ .stop := by
  unfold readerCalls
  by_cases hcsv : format = "csv"
  · simp [hcsv]
  · simp [hcsv]

/-- The input is read by calls of the reader, the last of which loads it if the engine does not
fail to, or it is not named. -/
theorem readInput_run (input : DataFrame) (w : World) :
    (∃ (calls : List SessionCall) (path : String), (∀ c ∈ calls, c ≠ .create ∧ c ≠ .stop) ∧
      .load path ∈ calls ∧ ∀ s : Sink,
        readInput input s w = ⟨loadOutcome input w, s, w, calls.map Event.session⟩) ∨
    ∀ s : Sink, readInput input s w = ⟨.error .noInput, s, w, []⟩ := by
  cases hpath : w.environment.text? "SPARK_SINK_INPUT_PATH" with
  | none =>
    refine .inr fun s => ?_
    rw [readInput, Act.world_bind]
    simp only [hpath]
    rfl
  | some path =>
    refine .inl ⟨readerCalls ((w.environment.text? "SPARK_SINK_INPUT_FORMAT").getD "parquet") path,
      path, ?_, by simp [readerCalls], fun s => ?_⟩
    · exact readerCalls_neither _ path
    · rw [readInput, Act.world_bind]
      simp only [hpath]
      rw [Act.bind_ok (emitAll_run _ _ _), Act.ofExcept_apply, Ran.after_mk, List.append_nil]

/-- What the engine loads is the input. -/
theorem eq_of_loadOutcome {input frame : DataFrame} {w : World}
    (h : loadOutcome input w = .ok frame) : frame = input := by
  unfold loadOutcome at h
  split at h
  · exact (Except.ok.inj h).symm
  · cases h

/-- The session is neither made nor stopped. -/
def KeepsSession (e : Event) : Prop := e ≠ .session .create ∧ e ≠ .session .stop

theorem keepsSession_of_spares {e : Event} (h : e.SparesSession) : KeepsSession e := by
  constructor
  · rintro rfl
    cases h
  · rintro rfl
    cases h

/-- What comes before a session is made sends no rows, neither makes nor stops a session, and is no
call of the client. -/
theorem preparesSession_effects {e : Event} (h : e.preparesSession = true) :
    e.isInsert = false ∧ KeepsSession e ∧ e.isClientCall = false := by
  cases e with
  | isStopped => exact ⟨rfl, ⟨nofun, nofun⟩, rfl⟩
  | session call =>
    refine ⟨rfl, ⟨?_, ?_⟩, rfl⟩
    · rintro ⟨⟩
      cases h
    · rintro ⟨⟩
      cases h
  | _ => cases h

/-- The input is loaded after the sink has been prepared and the input has been read. The first of
these that fails ends it. Rows are sent only behind the call that loads the input. -/
theorem loadInput_run (input : DataFrame) (s : Sink) (w : World) :
    (loadInput input s w).result = (do
      (Sink.prepare s w).result
      let frame ← (readInput input (Sink.prepare s w).state (Sink.prepare s w).world).result
      (Sink.output frame (Sink.prepare s w).state (Sink.prepare s w).world).result) ∧
    ∃ front back, (loadInput input s w).events = front ++ back ∧
      (∀ e ∈ front, e.isInsert = false) ∧ (∀ e ∈ front ++ back, KeepsSession e) ∧
      (back ≠ [] → (Sink.prepare s w).result = .ok () ∧
        (readInput input (Sink.prepare s w).state (Sink.prepare s w).world).result = .ok input ∧
        ∃ path, .session (.load path) ∈ front) := by
  have hquiet := Sink.prepare_quiet.emits s w
  have hprepareKeeps : ∀ e ∈ (Sink.prepare s w).events, KeepsSession e :=
    fun e he => keepsSession_of_spares (hquiet e he).1
  unfold loadInput
  cases hprepare : (Sink.prepare s w).result with
  | error e =>
    rw [Act.bind_of_error hprepare]
    refine ⟨rfl, (Sink.prepare s w).events, [], (List.append_nil _).symm,
      fun e he => (hquiet e he).2, ?_, fun h => absurd rfl h⟩
    rwa [List.append_nil]
  | ok =>
    rw [Act.bind_of_ok hprepare]
    rcases readInput_run input (Sink.prepare s w).world with ⟨calls, path, hcalls, hload, hread⟩ | hread
    · rw [hread]
      -- what is shown up to the answer of the engine
      have hinserts : ∀ e ∈ (Sink.prepare s w).events ++ calls.map Event.session,
          e.isInsert = false := by
        intro e he
        rcases List.mem_append.mp he with he | he
        · exact (hquiet e he).2
        · obtain ⟨c, -, rfl⟩ := List.mem_map.mp he
          rfl
      have hkeeps : ∀ e ∈ (Sink.prepare s w).events ++ calls.map Event.session,
          KeepsSession e := by
        intro e he
        rcases List.mem_append.mp he with he | he
        · exact hprepareKeeps e he
        · obtain ⟨c, hc, rfl⟩ := List.mem_map.mp he
          exact ⟨fun h => (hcalls c hc).1 (Event.session.inj h),
            fun h => (hcalls c hc).2 (Event.session.inj h)⟩
      cases houtcome : loadOutcome input (Sink.prepare s w).world with
      | error e =>
        have hfail := hread (Sink.prepare s w).state
        rw [houtcome] at hfail
        rw [Act.bind_error hfail]
        refine ⟨rfl, _, [], (List.append_nil _).symm, hinserts, ?_, fun h => absurd rfl h⟩
        rwa [List.append_nil]
      | ok frame =>
        obtain rfl : frame = input := eq_of_loadOutcome houtcome
        have hok := hread (Sink.prepare s w).state
        rw [houtcome] at hok
        have houtput := (Sink.output_emits frame).mono (fun _ => Event.IsOfOutput.sparesSession)
          (Sink.prepare s w).state (Sink.prepare s w).world
        rw [Act.bind_ok hok]
        refine ⟨rfl, (Sink.prepare s w).events ++ calls.map Event.session, _,
          (List.append_assoc _ _ _).symm, hinserts, fun e he => ?_, fun _ => ⟨rfl, rfl, path, ?_⟩⟩
        · rcases List.mem_append.mp he with he | he
          · exact hkeeps e he
          · exact keepsSession_of_spares (houtput e he)
        · exact List.mem_append_right _ (List.mem_map_of_mem hload)
    · rw [Act.bind_error (hread _), hread]
      refine ⟨rfl, (Sink.prepare s w).events, [], rfl, fun e he => (hquiet e he).2, ?_,
        fun h => absurd rfl h⟩
      rwa [List.append_nil]

/-! ### The whole load -/

/-- The check of a load with this configuration. -/
def checked (config : Config) (w : World) : Ran Sink CheckResult :=
  Sink.check (Sink.ofConfig config) w

/-- The preparation behind the check. -/
def prepared (config : Config) (w : World) : Ran Sink Unit :=
  Sink.prepare (checked config w).state (checked config w).world

/-- The reading of the input behind the preparation. -/
def read (input : DataFrame) (config : Config) (w : World) : Ran Sink DataFrame :=
  readInput input (prepared config w).state (prepared config w).world

/-- The output of what was read. -/
def loaded (frame : DataFrame) (config : Config) (w : World) : Ran Sink Unit :=
  Sink.output frame (prepared config w).state (prepared config w).world

/-- The records of the options. -/
def optionRecords (config : Config) : List Event :=
  (sorted config).map fun e => .log .info logger (optionLine e)

theorem optionRecords_quiet (config : Config) : ∀ e ∈ optionRecords config, e.IsQuiet := by
  intro e he
  obtain ⟨option, -, rfl⟩ := List.mem_map.mp he
  exact ⟨rfl, rfl⟩

section Runs

variable {σ : Type} {input : DataFrame} {s : σ} {w : World} {config : Config}

theorem run_unconfigured {e : Error} (h : SinkOptions.ofEnvironment w.environment = .error e) :
    run input s w = ⟨.error e, s, w, []⟩ := by
  rw [run, Act.world_bind, h, Act.ofExcept_error_bind]

theorem run_configured (h : SinkOptions.ofEnvironment w.environment = .ok config) :
    run input s w = ⟨(runSink input (Sink.ofConfig config) w).result, s,
      (runSink input (Sink.ofConfig config) w).world,
      optionRecords config ++ (runSink input (Sink.ofConfig config) w).events⟩ := by
  rw [run, Act.world_bind, h, Act.ofExcept_ok_bind, logOptions, Act.bind_ok (emitAll_run _ _ _)]
  rcases hrun : runSink input (Sink.ofConfig config) w with ⟨result, sink, w', es⟩
  cases result with
  | error e =>
    rw [Act.bind_error (Act.within_error s hrun)]
    rfl
  | ok =>
    rw [Act.bind_ok (Act.within_ok s hrun), Act.pure_apply, Ran.after_mk, Ran.after_mk,
      List.append_nil]
    rfl

theorem runSink_raised {e : Error} (h : (checked config w).result = .error e) :
    runSink input (Sink.ofConfig config) w =
      ⟨.error e, (checked config w).state, (checked config w).world, (checked config w).events⟩ := by
  have hcheck : checkSink (Sink.ofConfig config) w =
      ⟨.error e, (checked config w).state, (checked config w).world, (checked config w).events⟩ :=
    Act.bind_of_error h
  rw [runSink, Act.bind_error hcheck]

/-- What follows a check that returns. -/
theorem checkSink_of_ok {r : CheckResult} (h : (checked config w).result = .ok r) :
    checkSink (Sink.ofConfig config) w =
      ⟨r.toExcept, (checked config w).state, (checked config w).world,
        (checked config w).events⟩ := by
  rw [checkSink, Act.bind_of_ok h]
  cases r.toExcept with
  | error e => exact congrArg (Ran.mk _ _ _) (List.append_nil _)
  | ok => exact congrArg (Ran.mk _ _ _) (List.append_nil _)

theorem runSink_failed {r : CheckResult} {e : Error} (h : (checked config w).result = .ok r)
    (hr : r.success = false) (he : r.error = some e) :
    runSink input (Sink.ofConfig config) w =
      ⟨.error e, (checked config w).state, (checked config w).world, (checked config w).events⟩ := by
  have hfailure : r.toExcept = .error e := by
    unfold CheckResult.toExcept
    rw [hr, he]
    rfl
  have hcheck := checkSink_of_ok h
  rw [hfailure] at hcheck
  rw [runSink, Act.bind_error hcheck]

/-- A check that found nothing wrong is passed over. -/
theorem runSink_accepted (h : Sink.succeeded (checked config w).result = true) :
    runSink input (Sink.ofConfig config) w =
      ((do
        let _ ← Act.within (checked config w).world.registry
          (openBatchSession SessionOptions.batchName none)
        Act.always (loadInput input) stopSession : Act Sink Unit) (checked config w).state
          (checked config w).world).after (checked config w).events := by
  cases hresult : (checked config w).result with
  | error e =>
    rw [hresult] at h
    cases h
  | ok r =>
    rw [hresult] at h
    have hpassed : r.toExcept = .ok () := if_pos h
    have hcheck := checkSink_of_ok hresult
    rw [hpassed] at hcheck
    rw [runSink, Act.bind_ok hcheck, Act.world_bind]

/-- The check does not change what the session is made of. -/
theorem checked_environment (config : Config) (w : World) :
    (checked config w).world.environment = w.environment :=
  Sink.check_quiet.environment _ _

theorem runSink_malformed {e : Error} (h : Sink.succeeded (checked config w).result = true)
    (he : SessionOptions.forBatch w.environment SessionOptions.batchName none = .error e) :
    runSink input (Sink.ofConfig config) w =
      ⟨.error e, (checked config w).state, (checked config w).world, (checked config w).events⟩ := by
  rw [← checked_environment config w] at he
  rw [runSink_accepted h,
    Act.bind_error (Act.within_error (checked config w).state (openBatchSession_error _ he)),
    Ran.after_mk, List.append_nil]

/-- The session is stopped whatever an action does. -/
theorem always_stopSession (a : Act Sink Unit) (s : Sink) (w : World) :
    Act.always a stopSession s w = ⟨(a s w).result, (a s w).state, (a s w).world,
      (a s w).events ++ [.log .info logger "SparkSession 종료.", .session .stop]⟩ := rfl

/-- Between the making of the session and its stopping stands the load of the input. -/
theorem runSink_opened (input : DataFrame) {o : SessionOptions}
    (h : Sink.succeeded (checked config w).result = true)
    (ho : SessionOptions.forBatch w.environment SessionOptions.batchName none = .ok o) :
    ∃ opening, (∀ e ∈ opening, Event.preparesSession e = true) ∧
      (runSink input (Sink.ofConfig config) w).result =
        (loadInput input (checked config w).state (checked config w).world).result ∧
      (runSink input (Sink.ofConfig config) w).events =
        ((checked config w).events ++ opening) ++ .session .create ::
          ((loadInput input (checked config w).state (checked config w).world).events ++
            [.log .info logger "SparkSession 종료.", .session .stop]) := by
  rw [← checked_environment config w] at ho
  obtain ⟨left, opening, -, hprepares, hopen⟩ :=
    openBatchSession_ok (checked config w).world.registry ho
  refine ⟨opening, hprepares, ?_⟩
  rw [runSink_accepted h, Act.bind_ok (Act.within_ok (checked config w).state hopen),
    always_stopSession]
  exact ⟨rfl, by simp only [Ran.after_mk, List.append_assoc, List.singleton_append]⟩

/-- A load that ends with its check, or for want of session options, shows the records of the
options and what the check shows. -/
theorem run_quiet {e : Error} {sink : Sink} {w' : World}
    (hconfig : SinkOptions.ofEnvironment w.environment = .ok config)
    (h : runSink input (Sink.ofConfig config) w = ⟨.error e, sink, w', (checked config w).events⟩) :
    (run input s w).result = .error e ∧ ∀ ev ∈ (run input s w).events, ev.IsQuiet := by
  rw [run_configured hconfig, h]
  refine ⟨rfl, fun ev hev => ?_⟩
  rcases List.mem_append.mp hev with hev | hev
  · exact optionRecords_quiet config ev hev
  · exact Sink.check_quiet.emits _ _ ev hev

/-- The load of the input stands between two parts without rows, of which the first has the check,
and in which the session is made once and stopped once. -/
theorem run_opened (input : DataFrame) (s : σ) {o : SessionOptions}
    (hconfig : SinkOptions.ofEnvironment w.environment = .ok config)
    (h : Sink.succeeded (checked config w).result = true)
    (ho : SessionOptions.forBatch w.environment SessionOptions.batchName none = .ok o) :
    ∃ before, (∀ ev ∈ before, ev.isInsert = false ∧ KeepsSession ev) ∧
      (∃ url table, clientCalls before = Sink.checkCalls url table w) ∧
      (run input s w).result =
        (loadInput input (checked config w).state (checked config w).world).result ∧
      (run input s w).events = before ++ .session .create ::
        ((loadInput input (checked config w).state (checked config w).world).events ++
          [.log .info logger "SparkSession 종료.", .session .stop]) := by
  obtain ⟨opening, hopening, hresult, hevents⟩ := runSink_opened input h ho
  obtain ⟨settings, table, url, -, -, hclient⟩ := Sink.check_calls_of_succeeded h
  have hquiet : ∀ {ev : Event}, ev.IsQuiet → ev.isInsert = false ∧ KeepsSession ev :=
    fun h => ⟨h.2, keepsSession_of_spares h.1⟩
  have hrecords : clientCalls (optionRecords config) = [] := clientCalls_of_none fun ev hev => by
    obtain ⟨option, -, rfl⟩ := List.mem_map.mp hev
    rfl
  have hsession : clientCalls opening = [] :=
    clientCalls_of_none fun ev hev => (preparesSession_effects (hopening ev hev)).2.2
  refine ⟨optionRecords config ++ ((checked config w).events ++ opening), ?_,
    ⟨url, table, ?_⟩, ?_, ?_⟩
  · intro ev hev
    rcases List.mem_append.mp hev with hev | hev
    · exact hquiet (optionRecords_quiet config ev hev)
    · rcases List.mem_append.mp hev with hev | hev
      · exact hquiet (Sink.check_quiet.emits _ _ ev hev)
      · obtain ⟨hinsert, hkeeps, -⟩ := preparesSession_effects (hopening ev hev)
        exact ⟨hinsert, hkeeps⟩
  · rw [clientCalls_append, clientCalls_append, hrecords, hsession, List.nil_append,
      List.append_nil]
    exact hclient
  · rw [run_configured hconfig]
    exact hresult
  · rw [run_configured hconfig]
    show optionRecords config ++ _ = _
    rw [hevents]
    simp only [List.append_assoc]

end Runs

/-- What stands behind a part without rows has all of that part in front of it, if it sends
rows. -/
theorem prefix_of_insert {front back before after : List Event} {ev : Event}
    (h : front ++ back = before ++ ev :: after) (hfront : ∀ e ∈ front, e.isInsert = false)
    (hev : ev.isInsert = true) : front ⊆ before ∧ ev ∈ back := by
  rcases List.append_eq_append_iff.mp h with ⟨middle, hbefore, hback⟩ | ⟨middle, hfront', hback⟩
  · subst hbefore
    refine ⟨List.subset_append_left _ _, ?_⟩
    rw [hback]
    exact List.mem_append_right _ List.mem_cons_self
  · cases middle with
    | nil =>
      rw [hfront', List.append_nil]
      refine ⟨List.Subset.refl _, ?_⟩
      rw [List.nil_append] at hback
      rw [← hback]
      exact List.mem_cons_self
    | cons e middle =>
      obtain ⟨rfl, -⟩ := List.cons.inj hback
      have hmem : ev ∈ front := by
        rw [hfront']
        exact List.mem_append_right _ List.mem_cons_self
      rw [hfront ev hmem] at hev
      cases hev

/-! ### The course -/

/-- The course of a load, by its result and its events. -/
structure Lifecycle (input : DataFrame) (w : World) (result : Except Error Unit)
    (events : List Event) : Prop where
  /-- options that cannot be read end the load with their error -/
  unconfigured : ∀ e, SinkOptions.ofEnvironment w.environment = .error e →
    result = .error e ∧ ∀ ev ∈ events, ev.IsQuiet
  /-- a check that raises an error ends the load with it -/
  raised : ∀ config e, SinkOptions.ofEnvironment w.environment = .ok config →
    (checked config w).result = .error e → result = .error e ∧ ∀ ev ∈ events, ev.IsQuiet
  /-- a check that finds something wrong ends the load with what it found -/
  failed : ∀ config r, SinkOptions.ofEnvironment w.environment = .ok config →
    (checked config w).result = .ok r → r.success = false →
    ∃ e, r.error = some e ∧ result = .error e ∧ ∀ ev ∈ events, ev.IsQuiet
  /-- session options that cannot be read end the load with their error -/
  malformed : ∀ config e, SinkOptions.ofEnvironment w.environment = .ok config →
    Sink.succeeded (checked config w).result = true →
    SessionOptions.forBatch w.environment SessionOptions.batchName none = .error e →
    result = .error e ∧ ∀ ev ∈ events, ev.IsQuiet
  /-- otherwise the session is made once, when the connection of the check has been closed, and
  stopped once, at the end, and the first error of what comes in between is that of the load -/
  opened : ∀ config o, SinkOptions.ofEnvironment w.environment = .ok config →
    Sink.succeeded (checked config w).result = true →
    SessionOptions.forBatch w.environment SessionOptions.batchName none = .ok o →
    result = (do
      (prepared config w).result
      let frame ← (read input config w).result
      (loaded frame config w).result) ∧
    ∃ url table before work, clientCalls before = Sink.checkCalls url table w ∧
      events = before ++ .session .create :: (work ++ [.session .stop]) ∧
      ∀ ev ∈ before ++ work, KeepsSession ev
  /-- an input that the engine fails to load ends the load with this failure, and sends no rows -/
  unread : ∀ config o path e, SinkOptions.ofEnvironment w.environment = .ok config →
    Sink.succeeded (checked config w).result = true →
    SessionOptions.forBatch w.environment SessionOptions.batchName none = .ok o →
    (prepared config w).result = .ok () →
    w.environment.text? "SPARK_SINK_INPUT_PATH" = some path → w.loadFailure = some e →
    result = .error e ∧ ∀ ev ∈ events, ev.isInsert = false
  /-- rows are sent only after a check that found nothing wrong, a preparation that did not fail,
  and a call that loaded the input -/
  sent : ∀ before ev after, events = before ++ ev :: after → ev.isInsert = true →
    ∃ config path, SinkOptions.ofEnvironment w.environment = .ok config ∧
      Sink.succeeded (checked config w).result = true ∧ (prepared config w).result = .ok () ∧
      (read input config w).result = .ok input ∧ .session (.load path) ∈ before

/-- An input that the engine fails to load is not read. -/
theorem read_failed (input : DataFrame) (config : Config) {w : World} {path : String} {e : Error}
    (hpath : w.environment.text? "SPARK_SINK_INPUT_PATH" = some path)
    (hfailure : w.loadFailure = some e) : (read input config w).result = .error e := by
  have henvironment : (prepared config w).world.environment = w.environment :=
    (Sink.prepare_quiet.environment _ _).trans (checked_environment config w)
  have hengine : (prepared config w).world.loadFailure = w.loadFailure :=
    (Sink.prepare_quiet.loadFailure _ _).trans (Sink.check_quiet.loadFailure _ _)
  have houtcome : loadOutcome input (prepared config w).world = .error e := by
    rw [loadOutcome, hengine, hfailure]
  rw [read, readInput, Act.world_bind, henvironment]
  simp only [hpath]
  rw [Act.bind_ok (emitAll_run _ _ _), Act.ofExcept_apply, houtcome]
  rfl

section Course

variable {σ : Type} {input : DataFrame} {s : σ} {w : World}

/-- A check that found something wrong says what. -/
theorem error_of_checked {config : Config} {r : CheckResult}
    (h : (checked config w).result = .ok r) (hr : r.success = false) : ∃ e, r.error = some e := by
  obtain ⟨x, found, w', es, hchecks, hrun⟩ := Sink.check_run config w
  unfold checked at h
  rw [hrun (Sink.ofConfig config) rfl] at h
  obtain rfl : x = .ok r := h
  exact hchecks.error_of_failed hr

/-- If anything but quiet events shows, the options have been read, the check has found nothing
wrong, and the session has been made. -/
theorem opened_of_loud (h : ¬ ∀ ev ∈ (run input s w).events, ev.IsQuiet) :
    ∃ config o, SinkOptions.ofEnvironment w.environment = .ok config ∧
      Sink.succeeded (checked config w).result = true ∧
      SessionOptions.forBatch w.environment SessionOptions.batchName none = .ok o := by
  cases hconfig : SinkOptions.ofEnvironment w.environment with
  | error e =>
    rw [run_unconfigured hconfig] at h
    exact absurd (fun ev hev => absurd hev List.not_mem_nil) h
  | ok config =>
    cases hchecked : (checked config w).result with
    | error e => exact absurd (run_quiet hconfig (runSink_raised hchecked)).2 h
    | ok r =>
      cases hr : r.success with
      | false =>
        obtain ⟨e, he⟩ := error_of_checked hchecked hr
        exact absurd (run_quiet hconfig (runSink_failed hchecked hr he)).2 h
      | true =>
        have hsucceeded : Sink.succeeded (checked config w).result = true := by
          rw [hchecked]
          exact hr
        cases ho : SessionOptions.forBatch w.environment SessionOptions.batchName none with
        | error e => exact absurd (run_quiet hconfig (runSink_malformed hsucceeded ho)).2 h
        | ok o => exact ⟨config, o, rfl, hchecked ▸ hr, rfl⟩

/-- Rows are sent only behind the call that loads the input. -/
theorem sent_behind_load {before after : List Event} {ev : Event}
    (hevents : (run input s w).events = before ++ ev :: after) (hev : ev.isInsert = true) :
    ∃ config path, SinkOptions.ofEnvironment w.environment = .ok config ∧
      Sink.succeeded (checked config w).result = true ∧ (prepared config w).result = .ok () ∧
      (read input config w).result = .ok input ∧ .session (.load path) ∈ before := by
  have hloud : ¬ ∀ e ∈ (run input s w).events, e.IsQuiet := by
    intro hquiet
    have hmem : ev ∈ (run input s w).events := by
      rw [hevents]
      exact List.mem_append_right _ List.mem_cons_self
    rw [(hquiet ev hmem).2] at hev
    cases hev
  obtain ⟨config, o, hconfig, hsucceeded, ho⟩ := opened_of_loud hloud
  obtain ⟨opening, hopening, -, -, htrace⟩ :=
    run_opened input s hconfig hsucceeded ho
  obtain ⟨-, front, back, hload, hfront, -, hback⟩ :=
    loadInput_run input (checked config w).state (checked config w).world
  -- all in front of the rows, and all behind it
  have hsplit : (opening ++ .session .create :: front) ++
      (back ++ [.log .info logger "SparkSession 종료.", .session .stop]) =
      before ++ ev :: after := by
    rw [← hevents, htrace, hload]
    simp only [List.append_assoc, List.cons_append]
  have hquiet : ∀ e ∈ opening ++ .session .create :: front, e.isInsert = false := by
    intro e he
    rcases List.mem_append.mp he with he | he
    · exact (hopening e he).1
    · rcases List.mem_cons.mp he with rfl | he
      · rfl
      · exact hfront e he
  obtain ⟨hsubset, hmem⟩ := prefix_of_insert hsplit hquiet hev
  have hne : back ≠ [] := by
    rintro rfl
    rcases List.mem_cons.mp hmem with rfl | hmem
    · cases hev
    · rw [List.mem_singleton.mp hmem] at hev
      cases hev
  obtain ⟨hprepared, hread, path, hpath⟩ := hback hne
  exact ⟨config, path, hconfig, hsucceeded, hprepared, hread,
    hsubset (List.mem_append_right _ (List.mem_cons_of_mem _ hpath))⟩

/-- The result of a load whose session has been made. -/
theorem run_opened_result (input : DataFrame) (s : σ) {config : Config} {o : SessionOptions}
    (hconfig : SinkOptions.ofEnvironment w.environment = .ok config)
    (h : Sink.succeeded (checked config w).result = true)
    (ho : SessionOptions.forBatch w.environment SessionOptions.batchName none = .ok o) :
    (run input s w).result = (do
      (prepared config w).result
      let frame ← (read input config w).result
      (loaded frame config w).result) := by
  obtain ⟨-, -, -, hresult, -⟩ := run_opened input s hconfig h ho
  exact hresult.trans (loadInput_run input (checked config w).state (checked config w).world).1

/-- The course of every load. -/
theorem run_lifecycle (input : DataFrame) (s : σ) (w : World) :
    Lifecycle input w (run input s w).result (run input s w).events where
  unconfigured e he := by
    rw [run_unconfigured he]
    exact ⟨rfl, fun ev hev => absurd hev List.not_mem_nil⟩
  raised config e hconfig he := run_quiet hconfig (runSink_raised he)
  failed config r hconfig hr hfailed := by
    obtain ⟨e, he⟩ := error_of_checked hr hfailed
    exact ⟨e, he, run_quiet hconfig (runSink_failed hr hfailed he)⟩
  malformed config e hconfig hsucceeded he := run_quiet hconfig (runSink_malformed hsucceeded he)
  opened config o hconfig hsucceeded ho := by
    obtain ⟨before, hbefore, ⟨url, table, hcalls⟩, -, hevents⟩ :=
      run_opened input s hconfig hsucceeded ho
    obtain ⟨-, front, back, hshown, -, hkeeps, -⟩ :=
      loadInput_run input (checked config w).state (checked config w).world
    refine ⟨run_opened_result input s hconfig hsucceeded ho, url, table, before,
      front ++ back ++ [.log .info logger "SparkSession 종료."], hcalls, ?_, fun ev hev => ?_⟩
    · rw [hevents, hshown]
      simp only [List.append_assoc, List.singleton_append]
    · rcases List.mem_append.mp hev with hev | hev
      · exact (hbefore ev hev).2
      · rcases List.mem_append.mp hev with hev | hev
        · exact hkeeps ev hev
        · rw [List.mem_singleton.mp hev]
          exact keepsSession_of_spares rfl
  unread config o path e hconfig hsucceeded ho hprepared hpath hfailure := by
    have hread := read_failed input config hpath hfailure
    refine ⟨?_, fun ev hev => ?_⟩
    · rw [run_opened_result input s hconfig hsucceeded ho, hprepared, hread]
      rfl
    · obtain ⟨before, after, hevents⟩ := List.append_of_mem hev
      rw [← Bool.not_eq_true]
      intro hinsert
      obtain ⟨config', -, hconfig', -, -, hloaded, -⟩ := sent_behind_load hevents hinsert
      obtain rfl := Except.ok.inj (hconfig.symm.trans hconfig')
      cases hread.symm.trans hloaded
  sent before ev after hevents hev := sent_behind_load hevents hev

end Course
end Load
end TableLoader
