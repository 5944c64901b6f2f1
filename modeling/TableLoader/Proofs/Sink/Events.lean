/-
# What the steps of a sink show

A check and a preparation send no rows, do not touch the session and leave the
environment as it is (`Act.Quiet`, `check_quiet`, `prepare_quiet`). An output shows
the loads of partitions and how long they took (`output_emits`), so it does not
touch the session either. A check that finds nothing wrong has opened a connection,
asked for the columns and closed the connection again (`check_calls_of_succeeded`);
one that finds something wrong says what (`Checks.error_of_failed`).

Key definitions: `Event.isSessionCall`, `Event.isInsert`, `Event.IsOfOutput`, `Act.Quiet`.
Key theorems: `check_quiet`, `prepare_quiet`, `output_emits`, `check_calls_of_succeeded`.
-/
import TableLoader.Proofs.Partition.Events
import TableLoader.Proofs.Sink.History
import TableLoader.Proofs.Sink.Verdict

namespace TableLoader

/-- The event is a call of the session. -/
def Event.isSessionCall : Event → Bool
  | .session _ | .isStopped => true
  | _ => false

/-- The event is an attempt to send rows. -/
def Event.isInsert : Event → Bool
  | .insert .. => true
  | _ => false

/-- The event does not touch the session. -/
def Event.SparesSession (e : Event) : Prop := e.isSessionCall = false

/-- The event is one of an output: of the load of a partition, the report of one, a record of the
log of sinks, or the line that tells how long the output took, with warnings behind it. -/
inductive Event.IsOfOutput : Event → Prop where
  | load {e : Event} : e.IsOfLoad → IsOfOutput e
  | report (stats : PartitionStats) : IsOfOutput (.partition stats)
  | record (level : LogLevel) (text : String) : IsOfOutput (.log level Sink.logger text)
  | time (table : String) (start stop : Number.Binary64) :
      IsOfOutput (.log .info TimingLog.logger (Sink.timeLine table start stop))
  | warning {e : Event} : e.IsTimingWarning → IsOfOutput e

/-- The event neither touches the session nor sends rows. -/
def Event.IsQuiet (e : Event) : Prop := e.SparesSession ∧ e.isInsert = false

namespace Act

variable {σ α β : Type}

theorem Emits.mono {P Q : Event → Prop} {a : Act σ α} (ha : Emits P a) (h : ∀ e, P e → Q e) :
    Emits Q a :=
  fun s w e he => h e (ha s w e he)

/-- The action neither touches the session nor sends rows, and leaves the environment and the
engine as they are. -/
structure Quiet (a : Act σ α) : Prop where
  emits : Emits Event.IsQuiet a
  environment : ∀ s w, (a s w).world.environment = w.environment
  loadFailure : ∀ s w, (a s w).world.loadFailure = w.loadFailure

theorem quiet_pure (x : α) : Quiet (pure x : Act σ α) :=
  ⟨emits_pure x, fun _ _ => rfl, fun _ _ => rfl⟩

theorem quiet_get : Quiet (get : Act σ σ) := ⟨emits_get, fun _ _ => rfl, fun _ _ => rfl⟩

theorem quiet_modify (f : σ → σ) : Quiet (modify f) :=
  ⟨emits_modify f, fun _ _ => rfl, fun _ _ => rfl⟩

theorem quiet_emit {e : Event} (h : e.IsQuiet) : Quiet (emit e : Act σ Unit) :=
  ⟨emits_emit h, fun _ _ => rfl, fun _ _ => rfl⟩

theorem quiet_log (level : LogLevel) (name text : String) :
    Quiet (log level name text : Act σ Unit) :=
  quiet_emit ⟨rfl, rfl⟩

theorem quiet_ofExcept (x : Except Error α) : Quiet (ofExcept x : Act σ α) := by
  cases x with
  | ok x => exact quiet_pure x
  | error e => exact ⟨emits_ofExcept _, fun _ _ => rfl, fun _ _ => rfl⟩

theorem quiet_update (f : σ → Except Error σ) : Quiet (update f) := by
  have hworld : ∀ s w, (update f s w).world = w := by
    intro s w
    unfold update
    cases f s <;> rfl
  exact ⟨emits_update f, fun s w => by rw [hworld], fun s w => by rw [hworld]⟩

theorem Quiet.bind {a : Act σ α} {f : α → Act σ β} (ha : Quiet a) (hf : ∀ x, Quiet (f x)) :
    Quiet (a >>= f) := by
  have hworld : ∀ s w, ((a >>= f) s w).world.environment = w.environment ∧
      ((a >>= f) s w).world.loadFailure = w.loadFailure := by
    intro s w
    cases hresult : (a s w).result with
    | error e =>
      rw [bind_of_error hresult]
      exact ⟨ha.environment s w, ha.loadFailure s w⟩
    | ok x =>
      rw [bind_of_ok hresult]
      exact ⟨((hf x).environment _ _).trans (ha.environment s w),
        ((hf x).loadFailure _ _).trans (ha.loadFailure s w)⟩
  exact ⟨ha.emits.bind fun x => (hf x).emits, fun s w => (hworld s w).1,
    fun s w => (hworld s w).2⟩

theorem Quiet.always {a : Act σ α} {last : Act σ Unit} (ha : Quiet a) (hlast : Quiet last) :
    Quiet (always a last) :=
  ⟨ha.emits.always hlast.emits, fun s w => (hlast.environment _ _).trans (ha.environment s w),
    fun s w => (hlast.loadFailure _ _).trans (ha.loadFailure s w)⟩

end Act

open Act

namespace Sink

/-! ### The check -/

theorem withConnection_quiet {α : Type} {a : Act Sink α} (ha : Quiet a)
    (settings : ConnectionSettings) : Quiet (withConnection settings a) := by
  have hopen : Quiet (openConnection settings : Act Sink Unit) :=
    (quiet_ofExcept _).bind fun address => quiet_emit ⟨rfl, rfl⟩
  exact hopen.bind fun _ => ha.always (quiet_emit ⟨rfl, rfl⟩)

theorem noteFailure_quiet (what : String) (r : CheckResult) : Quiet (noteFailure what r) := by
  unfold noteFailure
  cases r.success with
  | true => exact quiet_pure _
  | false => exact quiet_log _ _ _

theorem fetchSchema_quiet (table : String) : Quiet (fetchSchema table) := by
  have hdescribe : Quiet (describeTable table : Act Sink (List (String × String))) := by
    have hnext : ∀ w : World, w.nextDescribe.2.environment = w.environment ∧
        w.nextDescribe.2.loadFailure = w.loadFailure := by
      intro w
      unfold World.nextDescribe
      split <;> exact ⟨rfl, rfl⟩
    refine ⟨fun s w e he => ?_, fun s w => ?_, fun s w => ?_⟩
    all_goals obtain ⟨x, hrun, -⟩ := describeTable_run table w
    · rw [hrun s w (.refl w)] at he
      rw [List.mem_singleton.mp he]
      exact ⟨rfl, rfl⟩
    · rw [hrun s w (.refl w)]
      exact (hnext w).1
    · rw [hrun s w (.refl w)]
      exact (hnext w).2
  exact hdescribe.bind fun _ => (quiet_log _ _ _).bind fun _ => quiet_pure _

theorem checkFields_quiet : Quiet checkFields := by
  refine quiet_get.bind fun s => (quiet_ofExcept _).bind fun given => ?_
  cases given with
  | none => exact quiet_pure _
  | some fields =>
    exact (quiet_modify _).bind fun _ => (noteFailure_quiet _ _).bind fun _ => quiet_pure _

/-- A check sends no rows, does not touch the session, and leaves the environment and the engine as
they are. -/
theorem check_quiet : Quiet check := by
  refine quiet_get.bind fun s => ?_
  dsimp only
  by_cases hcomplete : (s.config.checkRequired requiredOptions).success = true
  · simp only [hcomplete, Bool.not_true, Bool.false_eq_true, ↓reduceIte]
    have hkeep : ∀ table settings, Quiet (withConnection settings (do
        let schema ← fetchSchema table
        Act.modify fun s => { s with schema := schema })) := by
      intro table settings
      exact withConnection_quiet ((fetchSchema_quiet table).bind fun _ => quiet_modify _) settings
    exact (quiet_ofExcept _).bind fun settings => (quiet_modify _).bind fun _ =>
      (quiet_ofExcept _).bind fun table => (quiet_modify _).bind fun _ =>
        (hkeep table settings).bind fun _ => checkFields_quiet
  · simp only [hcomplete, Bool.not_false, ↓reduceIte]
    exact (noteFailure_quiet _ _).bind fun _ => quiet_pure _

/-- A check that finds something wrong says what. -/
theorem Checks.error_of_failed {config : Config} {r : CheckResult} {found : Found}
    (h : Checks config (.ok r) found) (hr : r.success = false) : ∃ e, r.error = some e := by
  cases h with
  | incomplete hincomplete =>
    unfold Config.checkRequired at hr ⊢
    dsimp only at hr ⊢
    by_cases hmissing : config.blankKeys requiredOptions = []
    · rw [if_pos hmissing] at hr
      cases hr
    · rw [if_neg hmissing]
      exact ⟨_, rfl⟩
  | whole => cases hr
  | @listed settings table schema fields =>
    unfold acceptFields at hr ⊢
    dsimp only at hr ⊢
    by_cases hunknown : unknownFields schema fields = []
    · rw [if_neg (not_not.mpr hunknown)] at hr ⊢
      by_cases hunsupported : unsupportedTypes schema fields = []
      · rw [if_neg (not_not.mpr hunsupported)] at hr
        cases hr
      · rw [if_pos hunsupported]
        exact ⟨_, rfl⟩
    · rw [if_pos hunknown]
      exact ⟨_, rfl⟩

/-- A check that finds nothing wrong has asked for the columns over a connection of its own. -/
theorem check_calls_of_succeeded {s : Sink} {w : World} (h : succeeded (check s w).result = true) :
    ∃ settings table url, Targets s.config settings table ∧ settings.address = .ok url ∧
      clientCalls (check s w).events = checkCalls url table w := by
  obtain ⟨x, found, w', es, hchecks, hrun⟩ := check_run s.config w
  have hx : succeeded x = true := by
    rw [hrun s rfl] at h
    exact h
  obtain ⟨settings, table, schema, names, htargets, hnames, -⟩ := hchecks.of_succeeded hx
  cases haddress : settings.address with
  | error e =>
    rw [check_targets htargets rfl, Act.bind_error (withConnection_error haddress _ _ _)] at h
    cases h
  | ok url =>
    exact ⟨settings, table, url, htargets, haddress, (check_described htargets haddress hnames w).1⟩

/-! ### Preparation and output -/

/-- A preparation sends no rows, does not touch the session, and leaves the environment and the
engine as they are. -/
theorem prepare_quiet : Quiet prepare := by
  refine (quiet_modify _).bind fun _ => quiet_get.bind fun s => (quiet_ofExcept _).bind fun policy =>
    (quiet_modify _).bind fun _ => (quiet_ofExcept _).bind fun size =>
      (quiet_update _).bind fun _ => ?_
  cases s.table with
  | none => exact quiet_pure _
  | some table =>
    cases s.fields with
    | none => exact quiet_pure _
    | some fields => exact (quiet_modify _).bind fun _ => quiet_log _ _ _

/-- A line that goes to the timing log shows itself, and warnings. -/
theorem append_emits {σ : Type} {P : Event → Prop} {line : String}
    (hline : P (.log .info TimingLog.logger line)) (hwarning : ∀ e, e.IsTimingWarning → P e) :
    Emits P (TimingLog.append line : Act σ Unit) := by
  intro s w e he
  obtain ⟨x, w', notes, hrun, hnotes, -⟩ := TimingLog.append_run (σ := σ) line w
  rw [hrun s] at he
  rcases List.mem_cons.mp he with rfl | he
  · exact hline
  · exact hwarning e (hnotes e he)

theorem loadPartitions_emits {σ : Type} (plan : PartitionPlan) : ∀ partitions : List (List Row),
    Emits Event.IsOfOutput (loadPartitions plan partitions : Act σ Unit)
  | [] => emits_pure _
  | rows :: rest => by
    have hload : Emits Event.IsOfOutput (plan.loadPartition rows : Act σ PartitionStats) :=
      (plan.loadPartition_emits rows).mono fun _ => .load
    have hreport : ∀ stats, Emits Event.IsOfOutput (emit (.partition stats) : Act σ Unit) :=
      fun stats => emits_emit (.report stats)
    exact hload.bind fun stats => (hreport stats).bind fun _ => loadPartitions_emits plan rest

/-- An output shows nothing else. -/
theorem output_emits (df : DataFrame) : Emits Event.IsOfOutput (output df) := by
  refine emits_get.bind fun s => ?_
  cases s.table with
  | none => exact emits_fail _
  | some table =>
    cases s.connection with
    | none => exact emits_fail _
    | some settings =>
      have hclock : Emits Event.IsOfOutput
          (Act.readClock : Act Sink Number.Binary64) := emits_of_nil fun _ _ => rfl
      have hload : ∀ plan : PartitionPlan, Emits Event.IsOfOutput
          (timedLoad plan table df.partitions) := fun plan =>
        hclock.bind fun start => (loadPartitions_emits plan _).bind fun _ =>
          hclock.bind fun stop => append_emits (.time table start stop) fun _ => .warning
      have hnote : ∀ text, Emits Event.IsOfOutput (Act.log .info logger text : Act Sink Unit) :=
        fun text => emits_emit (.record .info text)
      dsimp only
      cases s.fields.isNone with
      | true => exact (hnote _).bind fun _ => (emits_ofExcept _).bind hload
      | false => exact (emits_ofExcept _).bind hload

end Sink

/-- An output does not touch the session. -/
theorem Event.IsOfOutput.sparesSession {e : Event} (h : e.IsOfOutput) : e.SparesSession := by
  cases h with
  | load hload =>
    cases hload with
    | call hcall =>
      cases e with
      | session | isStopped => cases hcall
      | _ => rfl
    | record => rfl
  | warning hwarning =>
    obtain ⟨text, rfl⟩ := hwarning
    rfl
  | _ => rfl

end TableLoader
