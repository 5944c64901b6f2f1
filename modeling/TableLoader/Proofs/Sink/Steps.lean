/-
# The steps of a sink

What each step of a sink reads and writes. A check reads the configuration and
the world only, and writes what it finds over what is there (`check_run`):
first the connection settings, then the table, the schema and the fields, each
of them only if the check gets so far, and the fields only if they are
configured. Of the configuration it reads some options, and of the world what the
database says of the table (`ReadAlike`, `DescribesAlike`, `check_readAlike`). The
preparation writes the retry policy and the size of a batch, and an insertion only
where there are a table and fields (`prepare_run`). An output changes nothing
(`output_state`).

Key definitions: `Found`, `Targets`, `Checks`, `ReadAlike`, `DescribesAlike`,
`insertAfter`, `timedLoad`.
Key theorems: `check_readAlike`, `check_run`, `prepare_run`, `output_run`,
`output_state`.
-/
import TableLoader.Proofs.Partition.Run
import TableLoader.Proofs.TimingLog
import TableLoader.Sink

namespace TableLoader
namespace Sink

/-! ### The check -/

/-- What a check has found so far. -/
structure Found where
  connection : Option ConnectionSettings := none
  table : Option String := none
  schema : Option TableSchema := none
  fields : Option (List String) := none

/-- The sink with what was found; what was not found stays as it was. -/
def Found.into (f : Found) (s : Sink) : Sink :=
  { s with
    connection := f.connection.or s.connection
    table := f.table.or s.table
    schema := f.schema.getD s.schema
    fields := f.fields.or s.fields }

@[simp] theorem Found.config_into (f : Found) (s : Sink) : (f.into s).config = s.config := rfl

@[simp] theorem Found.prepared_into (f : Found) (s : Sink) : (f.into s).prepared = s.prepared := rfl

/-- With the configuration a check gets as far as the connection: all required options are given,
and the settings and the table can be read. -/
structure Targets (config : Config) (settings : ConnectionSettings) (table : String) : Prop where
  complete : (config.checkRequired requiredOptions).success = true
  settings : ConnectionSettings.ofConfig config = .ok settings
  table : ConnectionSettings.required config "table" = .ok table

/-- How far a check of a configuration gets, with its result and what it finds. -/
inductive Checks (config : Config) : Except Error CheckResult → Found → Prop where
  | incomplete : (config.checkRequired requiredOptions).success = false →
      Checks config (.ok (config.checkRequired requiredOptions)) {}
  | unreadable {e} : ConnectionSettings.ofConfig config = .error e → Checks config (.error e) {}
  | unnamed {settings e} : ConnectionSettings.required config "table" = .error e →
      Checks config (.error e) { connection := some settings }
  | undescribed {settings table e} : Targets config settings table →
      Checks config (.error e) { connection := some settings, table := some table }
  | unlisted {settings table schema e} : Targets config settings table →
      config.texts? "fields" = .error e →
      Checks config (.error e)
        { connection := some settings, table := some table, schema := some schema }
  | whole {settings table schema} : Targets config settings table →
      config.texts? "fields" = .ok none →
      Checks config (.ok .passed)
        { connection := some settings, table := some table, schema := some schema }
  | listed {settings table schema fields} : Targets config settings table →
      config.texts? "fields" = .ok (some fields) →
      Checks config (.ok (acceptFields schema table fields))
        { connection := some settings, table := some table, schema := some schema,
          fields := some fields }

/-- The configurations say the same where a check reads them. -/
structure ReadAlike (config config' : Config) : Prop where
  complete : config'.checkRequired requiredOptions = config.checkRequired requiredOptions
  settings : ConnectionSettings.ofConfig config' = ConnectionSettings.ofConfig config
  table : ConnectionSettings.required config' "table" = ConnectionSettings.required config "table"
  fields : config'.texts? "fields" = config.texts? "fields"

theorem ReadAlike.refl (config : Config) : ReadAlike config config := ⟨rfl, rfl, rfl, rfl⟩

theorem Targets.alike {config config' : Config} {settings : ConnectionSettings} {table : String}
    (h : Targets config settings table) (halike : ReadAlike config config') :
    Targets config' settings table :=
  ⟨by rw [halike.complete, h.complete], halike.settings.trans h.settings,
    halike.table.trans h.table⟩

/-- The schema of columns that the database lists. -/
def schemaOf (columns : List (String × String)) : TableSchema :=
  .ofList (columns.map fun c => (c.1, ColumnType.parse c.2))

/-- The next question for columns is answered, and these are the columns. -/
structure Describes (w : World) (columns : List (String × String)) : Prop where
  answered : w.nextDescribe.1 = none
  columns : w.schema.mapM columnText = .ok columns

/-- In both worlds the next question for columns has the same answer. -/
structure DescribesAlike (w w' : World) : Prop where
  answer : w'.nextDescribe.1 = w.nextDescribe.1
  schema : w'.schema = w.schema

theorem DescribesAlike.refl (w : World) : DescribesAlike w w := ⟨rfl, rfl⟩

/-- The database is asked for the columns once. -/
theorem describeTable_run (table : String) (w : World) : ∃ x,
    (∀ (s : Sink) (w' : World), DescribesAlike w w' → describeTable table s w' =
      ⟨x, s, w'.nextDescribe.2, [.describe ("desc " ++ table) w.nextDescribe.1]⟩) ∧
    ∀ columns, Describes w columns → x = .ok columns := by
  unfold describeTable
  cases hanswer : w.nextDescribe.1 with
  | some e =>
    have hask : ∀ (s : Sink) w', DescribesAlike w w' → askForColumns table s w' =
        ⟨.error e, s, w'.nextDescribe.2, [.describe ("desc " ++ table) (some e)]⟩ := by
      intro s w' halike
      simp only [askForColumns, halike.answer, hanswer]
    refine ⟨.error e, fun s w' halike => Act.bind_error (hask s w' halike),
      fun columns hdescribes => ?_⟩
    cases hanswer.symm.trans hdescribes.answered
  | none =>
    have hask : ∀ (s : Sink) w', DescribesAlike w w' → askForColumns table s w' =
        ⟨.ok (), s, w'.nextDescribe.2, [.describe ("desc " ++ table) none]⟩ := by
      intro s w' halike
      simp only [askForColumns, halike.answer, hanswer]
    refine ⟨w.schema.mapM columnText, fun s w' halike => ?_,
      fun columns hdescribes => hdescribes.columns⟩
    rw [Act.bind_ok (hask s w' halike), Act.world_bind, World.nextDescribe_schema, halike.schema]
    cases w.schema.mapM columnText <;> rfl

/-- The schema is made of the answer to one question for the columns. -/
theorem fetchSchema_run (table : String) (w : World) : ∃ x notes, clientCalls notes = [] ∧
    (∀ (s : Sink) (w' : World), DescribesAlike w w' → fetchSchema table s w' =
      ⟨x, s, w'.nextDescribe.2, .describe ("desc " ++ table) w.nextDescribe.1 :: notes⟩) ∧
    ∀ columns, Describes w columns → x = .ok (schemaOf columns) := by
  obtain ⟨x, hdescribe, hcolumns⟩ := describeTable_run table w
  unfold fetchSchema
  cases x with
  | error e =>
    refine ⟨.error e, [], rfl, fun s w' halike => Act.bind_error (hdescribe s w' halike),
      fun columns hdescribes => ?_⟩
    cases hcolumns columns hdescribes
  | ok columns =>
    refine ⟨.ok (schemaOf columns), [.log .info logger ("fetched schema table=" ++ table ++
      " columns=" ++ toString (schemaOf columns).size)], rfl, fun s w' halike => ?_, ?_⟩
    · rw [Act.bind_ok (hdescribe s w' halike)]
      rfl
    · intro columns' hdescribes
      rw [Except.ok.inj (hcolumns columns' hdescribes)]

/-- A failed check is noted, and that is all. -/
theorem noteFailure_run (what : String) (r : CheckResult) : ∃ es, clientCalls es = [] ∧
    ∀ (s : Sink) (w : World), noteFailure what r s w = ⟨.ok (), s, w, es⟩ := by
  unfold noteFailure
  cases r.success with
  | true => exact ⟨[], rfl, fun s w => rfl⟩
  | false => exact ⟨[.log .error logger ("clickhouse sink " ++ what ++ ": " ++ r.message)], rfl,
      fun s w => rfl⟩

/-- The configured fields, if there are any, are checked against the schema that is there, and
kept. -/
theorem checkFields_run {config : Config} {settings : ConnectionSettings} {table : String}
    (h : Targets config settings table) (schema : TableSchema) :
    ∃ x fields es, Checks config x ⟨some settings, some table, some schema, fields⟩ ∧
      clientCalls es = [] ∧
      ∀ (s : Sink) (w : World), ReadAlike config s.config → s.schema = schema →
        s.table = some table →
          checkFields s w = ⟨x, { s with fields := fields.or s.fields }, w, es⟩ := by
  cases hfields : config.texts? "fields" with
  | error e =>
    refine ⟨.error e, none, [], .unlisted h hfields, rfl, fun s w halike _ _ => ?_⟩
    rw [checkFields, Act.get_bind, halike.fields, hfields]
    rfl
  | ok given =>
    cases given with
    | none =>
      refine ⟨.ok .passed, none, [], .whole h hfields, rfl, fun s w halike _ _ => ?_⟩
      rw [checkFields, Act.get_bind, halike.fields, hfields]
      rfl
    | some fields =>
      obtain ⟨es, hes, hnote⟩ :=
        noteFailure_run "schema check failed" (acceptFields schema table fields)
      refine ⟨_, some fields, es ++ [], .listed h hfields, by rw [List.append_nil, hes],
        fun s w halike hschema htable => ?_⟩
      subst hschema
      rw [checkFields, Act.get_bind, halike.fields, hfields, Act.ofExcept_ok_bind]
      simp only [Act.modify_bind, htable, Option.getD_some]
      rw [Act.bind_ok (hnote _ _), Act.pure_apply, Ran.after_mk]
      rfl

/-- The calls of a check that gets as far as the connection. -/
def checkCalls (url table : String) (w : World) : List Event :=
  [.connect url, .describe ("desc " ++ table) w.nextDescribe.1, .disconnect]

/-- The schema is fetched over a connection and kept, or nothing is changed. -/
theorem keepSchema_run (settings : ConnectionSettings) (table : String) (w : World) :
    ∃ (x : Except Error TableSchema) (next : World → World) (es : List Event),
      (∀ (s : Sink) (w' : World), DescribesAlike w w' → withConnection settings (do
        let schema ← fetchSchema table
        Act.modify fun s => { s with schema := schema }) s w' =
      match x with
      | .error e => ⟨.error e, s, next w', es⟩
      | .ok schema => ⟨.ok (), { s with schema := schema }, next w', es⟩) ∧
      ∀ url, settings.address = .ok url → clientCalls es = checkCalls url table w ∧
        ∀ columns, Describes w columns → x = .ok (schemaOf columns) := by
  cases haddr : settings.address with
  | error e =>
    exact ⟨.error e, id, [], fun s w' _ => withConnection_error haddr _ s w',
      fun url h => by cases h⟩
  | ok url =>
    obtain ⟨x, notes, hnotes, hfetch, hschema⟩ := fetchSchema_run table w
    refine ⟨x, fun w => w.nextDescribe.2, .connect url ::
      ((.describe ("desc " ++ table) w.nextDescribe.1 :: notes) ++ [.disconnect]),
      fun s w' halike => ?_, fun url' h => ⟨?_, hschema⟩⟩
    · rw [withConnection_ok haddr]
      cases x with
      | error e => rw [Act.bind_error (hfetch s w' halike)]
      | ok schema =>
        rw [Act.bind_ok (hfetch s w' halike), Act.modify_apply, Ran.after_mk, List.append_nil]
    · obtain rfl := Except.ok.inj h
      rw [clientCalls_connect, clientCalls_append, clientCalls_describe, hnotes]
      rfl

/-- A check that finds options missing notes them, and changes nothing. -/
theorem check_incomplete {config : Config}
    (h : (config.checkRequired requiredOptions).success = false) :
    ∃ es, clientCalls es = [] ∧ ∀ (s : Sink) (w : World), ReadAlike config s.config →
      check s w = ⟨.ok (config.checkRequired requiredOptions), s, w, es⟩ := by
  obtain ⟨es, hes, hnote⟩ := noteFailure_run "config invalid" (config.checkRequired requiredOptions)
  refine ⟨es ++ [], by rw [List.append_nil, hes], fun s w halike => ?_⟩
  rw [check, Act.get_bind, halike.complete]
  simp only [h, Bool.not_false, ↓reduceIte]
  rw [Act.bind_ok (hnote s w), Act.pure_apply, Ran.after_mk]

/-- A check that cannot read the connection settings changes nothing. -/
theorem check_unreadable {config : Config} {e : Error}
    (hcomplete : (config.checkRequired requiredOptions).success = true)
    (h : ConnectionSettings.ofConfig config = .error e) {s : Sink} (hs : s.config = config)
    (w : World) : check s w = ⟨.error e, s, w, []⟩ := by
  rw [check, Act.get_bind, hs]
  simp only [hcomplete, Bool.not_true, Bool.false_eq_true, ↓reduceIte, h]
  rfl

/-- A check that cannot read the table has written the connection settings. -/
theorem check_unnamed {config : Config} {settings : ConnectionSettings} {e : Error}
    (hcomplete : (config.checkRequired requiredOptions).success = true)
    (hsettings : ConnectionSettings.ofConfig config = .ok settings)
    (h : ConnectionSettings.required config "table" = .error e) {s : Sink} (hs : s.config = config)
    (w : World) : check s w = ⟨.error e, { s with connection := some settings }, w, []⟩ := by
  subst hs
  rw [check, Act.get_bind]
  simp only [hcomplete, Bool.not_true, Bool.false_eq_true, ↓reduceIte, hsettings, h,
    Act.ofExcept_ok_bind, Act.modify_bind, Act.ofExcept_error_bind]

/-- A check that gets as far as the connection has written the settings and the table. It goes on
with the schema and the fields. -/
theorem check_targets {config : Config} {settings : ConnectionSettings} {table : String}
    (h : Targets config settings table) {s : Sink} (hs : s.config = config) (w : World) :
    check s w =
      (withConnection settings (do
        let schema ← fetchSchema table
        Act.modify fun s => { s with schema := schema }) >>= fun _ => checkFields)
        { s with connection := some settings, table := some table } w := by
  subst hs
  rw [check, Act.get_bind]
  simp only [h.complete, Bool.not_true, Bool.false_eq_true, ↓reduceIte, h.settings, h.table,
    Act.ofExcept_ok_bind, Act.modify_bind]

/-- A check gets as far as the configuration lets it, and writes what it has found until then. It
comes to the same for configurations that say the same and in worlds where the database does. -/
theorem check_readAlike (config : Config) (w : World) :
    ∃ x found, ∃ (next : World → World) (es : List Event), Checks config x found ∧
    ∀ (s : Sink) (w' : World), ReadAlike config s.config → DescribesAlike w w' →
      check s w' = ⟨x, found.into s, next w', es⟩ := by
  cases hcomplete : (config.checkRequired requiredOptions).success with
  | false =>
    obtain ⟨es, -, hrun⟩ := check_incomplete hcomplete
    exact ⟨_, {}, id, es, .incomplete hcomplete, fun s w' halike _ => hrun s w' halike⟩
  | true =>
    have hcompleteFor : ∀ s : Sink, ReadAlike config s.config →
        (s.config.checkRequired requiredOptions).success = true := fun s halike => by
      rw [halike.complete, hcomplete]
    cases hsettings : ConnectionSettings.ofConfig config with
    | error e =>
      exact ⟨.error e, {}, id, [], .unreadable hsettings, fun s w' halike _ =>
        check_unreadable (hcompleteFor s halike) (halike.settings.trans hsettings) rfl w'⟩
    | ok settings =>
      cases htable : ConnectionSettings.required config "table" with
      | error e =>
        exact ⟨.error e, { connection := some settings }, id, [], .unnamed htable,
          fun s w' halike _ => check_unnamed (hcompleteFor s halike)
            (halike.settings.trans hsettings) (halike.table.trans htable) rfl w'⟩
      | ok table =>
        have htargets : Targets config settings table := ⟨hcomplete, hsettings, htable⟩
        obtain ⟨x, next, es, hkeep, -⟩ := keepSchema_run settings table w
        cases x with
        | error e =>
          refine ⟨.error e, _, next, es, .undescribed htargets, fun s w' halike hworld => ?_⟩
          rw [check_targets (htargets.alike halike) rfl, Act.bind_error (hkeep _ w' hworld)]
          rfl
        | ok schema =>
          obtain ⟨x, fields, fs, hchecks, -, hfields⟩ := checkFields_run htargets schema
          refine ⟨x, _, next, es ++ fs, hchecks, fun s w' halike hworld => ?_⟩
          rw [check_targets (htargets.alike halike) rfl, Act.bind_ok (hkeep _ w' hworld)]
          exact congrArg (Ran.after es) (hfields
            (Found.into ⟨some settings, some table, some schema, none⟩ s) (next w') halike rfl rfl)

/-- A check reads the configuration and the world, and writes over what is there. -/
theorem check_run (config : Config) (w : World) : ∃ x found w' es, Checks config x found ∧
    ∀ s : Sink, s.config = config → check s w = ⟨x, found.into s, w', es⟩ := by
  obtain ⟨x, found, next, es, hchecks, hrun⟩ := check_readAlike config w
  refine ⟨x, found, next w, es, hchecks, ?_⟩
  rintro s rfl
  exact hrun s w (.refl _) (.refl _)

/-! ### The preparation -/

/-- The insertion that a preparation leaves: a new one where there are a table and fields. -/
def insertAfter (s : Sink) : Option Insert :=
  match s.table, s.fields with
  | some table, some fields => some ⟨table, fields⟩
  | _, _ => s.prepared

/-- A preparation fails or succeeds by the configuration. It writes the retry policy that is read
there and the size of a batch, and it may write the insertion; if it fails it may have written the
policy. -/
theorem prepare_run (config : Config) :
    (∃ e, ∀ (s : Sink) w, s.config = config → ∃ policy,
      (policy = s.policy ∨ RetryPolicy.ofConfig (config.withDefaults defaultOptions) = .ok policy) ∧
      prepare s w =
        ⟨.error e, { s with config := config.withDefaults defaultOptions, policy := policy }, w, []⟩) ∨
    ∃ policy size, ∃ hsize : 0 < size,
      RetryPolicy.ofConfig (config.withDefaults defaultOptions) = .ok policy ∧
      ∀ (s : Sink) w, s.config = config → ∃ es, clientCalls es = [] ∧ prepare s w =
        ⟨.ok (), { s with
          config := config.withDefaults defaultOptions
          policy := policy
          bulkSize := size
          bulkSize_pos := hsize
          prepared := s.insertAfter }, w, es⟩ := by
  cases hpolicy : RetryPolicy.ofConfig (config.withDefaults defaultOptions) with
  | error e =>
    refine .inl ⟨e, fun s w hs => ⟨s.policy, .inl rfl, ?_⟩⟩
    subst hs
    rw [prepare, Act.modify_bind, Act.get_bind]
    simp only [hpolicy, Act.ofExcept_error_bind]
  | ok policy =>
    cases hsize : Config.integer? (config.withDefaults defaultOptions) "bulk_size" with
    | error e =>
      refine .inl ⟨e, fun s w hs => ⟨policy, .inr rfl, ?_⟩⟩
      subst hs
      rw [prepare, Act.modify_bind, Act.get_bind]
      simp only [hpolicy, Act.ofExcept_ok_bind, Act.modify_bind, hsize, Act.ofExcept_error_bind]
    | ok size =>
      by_cases hpos : 0 < size.getD defaultBulkSize
      · refine .inr ⟨policy, (size.getD defaultBulkSize).toNat, by omega, rfl, fun s w hs => ?_⟩
        subst hs
        rw [prepare, Act.modify_bind, Act.get_bind]
        simp only [hpolicy, Act.ofExcept_ok_bind, Act.modify_bind, hsize]
        rw [Act.bind_ok (Act.update_ok (dif_pos hpos) w), Ran.after_nil]
        cases htable : s.table with
        | none => exact ⟨[], rfl, by simp [insertAfter, htable]⟩
        | some table =>
          cases hfields : s.fields with
          | none => exact ⟨[], rfl, by simp [insertAfter, htable, hfields]⟩
          | some fields =>
            exact ⟨[.log .info logger ("prepared insert: " ++ Insert.sql ⟨table, fields⟩)], rfl,
              by simp [insertAfter, htable, hfields]⟩
      · refine .inl ⟨.showing (.int (size.getD defaultBulkSize))
          (.badBulkSize (size.getD defaultBulkSize)), fun s w hs => ⟨policy, .inr rfl, ?_⟩⟩
        subst hs
        rw [prepare, Act.modify_bind, Act.get_bind]
        simp only [hpolicy, Act.ofExcept_ok_bind, Act.modify_bind, hsize]
        rw [Act.bind_error (Act.update_error (dif_neg hpos) w)]

/-! ### The output -/

/-- Either no check has got as far as the connection, or there are a table and settings. -/
theorem unchecked_or_exists (s : Sink) : (s.table = none ∨ s.connection = none) ∨
    ∃ table settings, s.table = some table ∧ s.connection = some settings := by
  cases htable : s.table with
  | none => exact .inl (.inl rfl)
  | some table =>
    cases hsettings : s.connection with
    | none => exact .inl (.inr rfl)
    | some settings => exact .inr ⟨table, settings, rfl, rfl⟩

/-- Without a table or connection settings nothing is done. -/
theorem output_unchecked {s : Sink} (h : s.table = none ∨ s.connection = none) (df : DataFrame)
    (w : World) : output df s w = ⟨.error .notChecked, s, w, []⟩ := by
  rw [output, Act.get_bind]
  rcases h with h | h
  · simp [h]
  · cases htable : s.table <;> simp [h]

/-- The record of an insertion whose fields are the columns of the data frame. -/
def inferenceNote (s : Sink) (table : String) (columns : List String) : List Event :=
  if s.fields.isNone then
    [.log .info logger ("prepared insert (inferred fields): " ++ (s.insertFor table columns).sql)]
  else []

theorem clientCalls_inferenceNote (s : Sink) (table : String) (columns : List String) :
    clientCalls (s.inferenceNote table columns) = [] := by
  unfold inferenceNote
  cases s.fields <;> rfl

/-- The line that tells how long a load took. -/
def timeLine (table : String) (start stop : Number.Binary64) : String :=
  "[clickhouse sink] table=" ++ table ++ " duration=" ++ durationText start stop

/-- Loads partitions and notes the time that it took. -/
def timedLoad (plan : PartitionPlan) (table : String) (partitions : List (List Row)) :
    Act Sink Unit := do
  let start ← Act.readClock
  loadPartitions plan partitions
  let stop ← Act.readClock
  TimingLog.append (timeLine table start stop)

section Planned

variable {s : Sink} {table : String} {settings : ConnectionSettings} (htable : s.table = some table)
  (hsettings : s.connection = some settings) (df : DataFrame) (w : World)

include htable hsettings

/-- An output makes its plan, after a record if the columns are the fields, and loads by it. -/
theorem output_run :
    output df s w =
      ((Act.ofExcept (s.planFor table settings df.columns) >>= fun plan =>
        timedLoad plan table df.partitions) s w).after (s.inferenceNote table df.columns) := by
  rw [output, Act.get_bind]
  simp only [htable, hsettings, inferenceNote]
  cases s.fields with
  | none => rfl
  | some fields => rfl

/-- Without a plan nothing is done but logged. -/
theorem output_unplanned {e : Error} (h : s.planFor table settings df.columns = .error e) :
    ∃ es, clientCalls es = [] ∧ output df s w = ⟨.error e, s, w, es⟩ := by
  refine ⟨_, clientCalls_inferenceNote s table df.columns, ?_⟩
  rw [output_run htable hsettings, h, Act.ofExcept_error_bind, Ran.after_mk, List.append_nil]

/-- With a plan the partitions are loaded, which takes time that is noted. -/
theorem output_planned {plan : PartitionPlan}
    (h : s.planFor table settings df.columns = .ok plan) : ∃ es, clientCalls es = [] ∧
      output df s w = Ran.after es ((do
        let start ← Act.readClock
        loadPartitions plan df.partitions
        let stop ← Act.readClock
        TimingLog.append ("[clickhouse sink] table=" ++ table ++ " duration=" ++
          durationText start stop) : Act Sink Unit) s w) := by
  refine ⟨_, clientCalls_inferenceNote s table df.columns, ?_⟩
  rw [output_run htable hsettings, h, Act.ofExcept_ok_bind]
  rfl

end Planned

theorem loadPartitions_stateless (plan : PartitionPlan) : ∀ partitions : List (List Row),
    Act.Stateless (loadPartitions plan partitions : Act Sink Unit)
  | [] => Act.stateless_pure _
  | rows :: rest => (plan.loadPartition_stateless rows).bind fun _ =>
      (Act.stateless_emit _).bind fun _ => loadPartitions_stateless plan rest

/-- An output changes nothing. -/
theorem output_state (df : DataFrame) (s : Sink) (w : World) : (output df s w).state = s := by
  rcases s.unchecked_or_exists with hunchecked | ⟨table, settings, htable, hsettings⟩
  · rw [output_unchecked hunchecked]
  cases hplan : s.planFor table settings df.columns with
  | error e =>
    obtain ⟨es, -, hrun⟩ := output_unplanned htable hsettings df w hplan
    rw [hrun]
  | ok plan =>
    obtain ⟨es, -, hrun⟩ := output_planned htable hsettings df w hplan
    rw [hrun, Ran.after_state]
    have hclock : Act.Stateless (Act.readClock : Act Sink Number.Binary64) :=
      Act.silent_readClock.stateless
    exact (hclock.bind fun _ => (loadPartitions_stateless plan _).bind fun _ =>
      hclock.bind fun _ => (TimingLog.append_silent _).stateless).state_eq s w

end Sink
end TableLoader
