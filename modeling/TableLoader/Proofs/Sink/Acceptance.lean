/-
# What a check decides

A check accepts a sink or says what is wrong, exactly (`check_decides`). Options that
are not given are named before anything is done. If all are given, the database is
asked for the columns of the table once, and the verdict on the configured fields
is the result. What was accepted then holds for the outputs: after a preparation
every data frame has a plan, with types that can be loaded for all configured
fields, so that an output fails only while it loads (`Serves`).

Key definitions: `Refused`, `Serves`.
Key theorems: `output_error`, `serves_of_accepted`, `check_decides`.
-/
import TableLoader.Proofs.Partition.Errors
import TableLoader.Proofs.Sink.Options
import TableLoader.Proofs.Sink.Partitions
import TableLoader.Proofs.Sink.Verdict

namespace TableLoader
namespace Sink

variable {s : Sink} {settings : ConnectionSettings} {table url : String}

/-! ### Errors of outputs -/

/-- An output that has a plan fails because there is no address, or by a load or its note, or with
an answer of the client that is none of its errors. -/
theorem output_error {df : DataFrame} (htable : s.table = some table)
    (hsettings : s.connection = some settings) {types : List ColumnType}
    (htypes : typesOf s.schema table (s.insertFor table df.columns).fields = .ok types) {w : World}
    {e : Error} (h : (output df s w).result = .error e) :
    settings.address = .error e ∨ e.EndsLoad ∨ some e ∈ w.inserts ∧ e.isClientError = false := by
  obtain ⟨plan, hplan, hconnection, -⟩ := planFor_of_typesOf settings htypes
  obtain ⟨after, -, -, -, hend⟩ := output_loads htable hsettings hplan w
  rcases hend with ⟨-, stop, w', -, hresult⟩ | ⟨done, last, rest, e', hfailed, hresult, -⟩
  · obtain ⟨x, w'', notes, hrun, -, hfault⟩ :=
      TimingLog.append_run (σ := Sink) (timeLine table w.nextReading.1 stop) w'
    rw [hresult, hrun] at h
    obtain ⟨f, rfl⟩ := hfault e h
    exact .inr (.inl (.fault f))
  · obtain rfl := Except.error.inj (hresult.symm.trans h)
    have hlast : last ∈ plan.loadsInTurn s df.partitions w.nextReading.2 := by
      rw [hfailed.runs]
      exact List.mem_append_right done (List.mem_singleton_self last)
    have hload := hfailed.failed
    rw [PartitionPlan.ran_of_mem_loadsInTurn last hlast] at hload
    obtain ⟨-, n, hbefore⟩ := PartitionPlan.before_of_mem_loadsInTurn last hlast
    rcases PartitionPlan.loadPartition_error hload with haddr | hends | ⟨hanswer, hforeign⟩
    · rw [hconnection] at haddr
      exact .inl haddr
    · exact .inr (.inl hends)
    · rw [hbefore] at hanswer
      have hleft := List.mem_of_mem_drop hanswer
      rw [World.nextReading_inserts] at hleft
      exact .inr (.inr ⟨hleft, hforeign⟩)

/-! ### What was accepted -/

variable {columns : List (String × String)} {fields : List String}

/-- Fields that are accepted have types, and all of these can be loaded. -/
theorem Verdict.types {r : CheckResult} (h : Verdict columns table (some fields) r)
    (hr : r.success = true) : ∃ types,
      List.Forall₂ (fun f t => typeIn? columns f = some t) fields types ∧
      ∀ t ∈ types, t.core.isUnknown = false := by
  cases h with
  | strange => cases hr
  | unsupported => cases hr
  | accepted hstrangers hunknown =>
    refine ⟨fields.filterMap (typeIn? columns), forall₂_some_iff.mpr ⟨fun f hf => ?_, rfl⟩,
      fun t ht => ?_⟩
    · have hcolumn := List.filter_eq_nil_iff.mp hstrangers f hf
      rw [decide_eq_true_eq, not_not] at hcolumn
      exact typeIn?_isSome_iff.mpr hcolumn
    · have hknown := List.filter_eq_nil_iff.mp (List.map_eq_nil_iff.mp hunknown) t ht
      exact Bool.eq_false_iff.mpr hknown

/-- The sink loads every data frame into the fields, whose types can be loaded, and an output fails
only by a load or its note, or with an answer of the client that is none of its errors. -/
structure Serves (s : Sink) (settings : ConnectionSettings) (table : String)
    (columns : List (String × String)) (fields : List String) : Prop where
  named : s.table = some table
  connected : s.connection = some settings
  plans : ∀ df : DataFrame, ∃ plan : PartitionPlan, s.planFor table settings df.columns = .ok plan ∧
    plan.insert = ⟨table, fields⟩ ∧
    List.Forall₂ (fun f t => typeIn? columns f = some t) fields plan.types ∧
    ∀ t ∈ plan.types, t.core.isUnknown = false
  errors : ∀ df w e, (output df s w).result = .error e →
    e.EndsLoad ∨ some e ∈ w.inserts ∧ e.isClientError = false

/-- A sink that always inserts into fields that were accepted serves every data frame. -/
theorem serves_of_types {types : List ColumnType} (htable : s.table = some table)
    (hsettings : s.connection = some settings) (haddr : settings.address = .ok url)
    (hschema : s.schema = schemaOf columns)
    (hinsert : ∀ input, s.insertFor table input = ⟨table, fields⟩)
    (htypes : List.Forall₂ (fun f t => typeIn? columns f = some t) fields types)
    (hsupported : ∀ t ∈ types, t.core.isUnknown = false) :
    Serves s settings table columns fields := by
  have hknown : ∀ df : DataFrame,
      typesOf s.schema table (s.insertFor table df.columns).fields = .ok types := by
    intro df
    rw [hinsert, hschema, typesOf_eq_ok_iff]
    exact htypes.imp fun f t h => (get?_schemaOf columns f).trans h
  refine ⟨htable, hsettings, fun df => ?_, fun df w e h => ?_⟩
  · obtain ⟨plan, hplan, -, hplanned, rfl, -⟩ := planFor_of_typesOf settings (hknown df)
    exact ⟨plan, hplan, hplanned.trans (hinsert df.columns), htypes, hsupported⟩
  · rcases output_error htable hsettings (hknown df) h with hnone | hends
    · cases haddr.symm.trans hnone
    · exact hends

/-- A sink that a check has accepted with its fields serves every data frame as soon as it is
prepared. -/
theorem serves_of_accepted {r : CheckResult} (haddr : settings.address = .ok url)
    (hverdict : Verdict columns table (some fields) r) (hr : r.success = true) {s₀ : Sink}
    (hstate : s = Found.into ⟨settings, table, schemaOf columns, fields⟩ s₀) {w : World}
    (hprepare : (prepare s w).result = .ok ()) :
    Serves (prepare s w).state settings table columns fields := by
  obtain ⟨types, htypes, hsupported⟩ := hverdict.types hr
  have hfound : s.connection = settings ∧ s.table = table ∧ s.schema = schemaOf columns ∧
      s.fields = fields := by
    rw [hstate]
    exact ⟨rfl, rfl, rfl, rfl⟩
  obtain ⟨hsettings, htable, hschema, hfields⟩ := hfound
  rcases prepare_run s.config with ⟨e, hrun⟩ | ⟨policy, size, hsize, -, hrun⟩
  · obtain ⟨policy, -, hfails⟩ := hrun s w rfl
    rw [hfails] at hprepare
    cases hprepare
  · obtain ⟨es, -, hsucceeds⟩ := hrun s w rfl
    have hinsert : s.insertAfter = some ⟨table, fields⟩ := by
      simp only [insertAfter, htable, hfields]
    rw [hsucceeds]
    refine serves_of_types htable hsettings haddr hschema (fun input => ?_) htypes hsupported
    simp only [insertFor, hfields, hinsert, Option.getD_some]

/-! ### The decision -/

/-- A run of a check that names the required options that are not given, in their order, and does
nothing else. -/
structure Refused (s : Sink) (missing : List String) (out : Ran Sink CheckResult) : Prop where
  found : missing ≠ []
  ordered : missing.Sublist requiredOptions
  exact : ∀ k ∈ requiredOptions, k ∈ missing ↔ NotGiven s.config k
  result : out.result = .ok (.failed (.missingSettings missing))
  unchanged : out.state = s
  silent : clientCalls out.events = []

/-- A run of a check that asks for the columns of the table, and if they are described comes to the
verdict on the configured fields. What it accepts serves every data frame after a preparation. -/
structure Decided (s : Sink) (w : World) (settings : ConnectionSettings) (url table : String)
    (names : Option (List String)) (out : Ran Sink CheckResult) : Prop where
  given : ∀ k ∈ requiredOptions, ¬ NotGiven s.config k
  connects : ConnectionSettings.ofConfig s.config = .ok settings
  reaches : settings.address = .ok url
  reads : s.config.get? "table" = some (.text table)
  lists : FieldNames (s.config.get? "fields") names
  calls : clientCalls out.events = checkCalls url table w
  verdict : ∀ columns, Describes w columns → ∃ r, out.result = .ok r ∧
    Verdict columns table names r ∧
    ∀ fields w', names = some fields → r.success = true →
      (prepare out.state w').result = .ok () →
        Serves (prepare out.state w').state settings table columns fields

/-- A check of options that are texts names the required ones that are not given, or asks for the
columns once and comes to the verdict on the configured fields. -/
theorem check_decides (h : TextOptions s.config) (w : World) :
    (∃ missing, Refused s missing (check s w)) ∨
      ∃ settings url table names, Decided s w settings url table names (check s w) := by
  obtain ⟨missing, hordered, hexact, hrequired⟩ := checkRequired_eq s.config requiredOptions
  by_cases hmissing : missing = []
  · have hgiven : ∀ k ∈ requiredOptions, ¬ NotGiven s.config k := by
      intro k hk
      rw [← hexact k hk, hmissing]
      exact List.not_mem_nil
    obtain ⟨settings, url, table, htargets, haddr, htable⟩ := h.exists_targets hgiven
    obtain ⟨names, hnames⟩ := h.fields
    obtain ⟨hcalls, hdescribed⟩ := check_described htargets haddr (texts?_of_fieldNames hnames) w
    refine .inr ⟨settings, url, table, names, hgiven, htargets.settings, haddr, htable, hnames,
      hcalls, fun columns hdescribes => ?_⟩
    obtain ⟨r, hresult, hverdict, hstate⟩ := hdescribed columns hdescribes
    refine ⟨r, hresult, hverdict, ?_⟩
    rintro fields w' rfl hr hprepare
    exact serves_of_accepted haddr hverdict hr hstate hprepare
  · rw [if_neg hmissing] at hrequired
    have hfailed : (s.config.checkRequired requiredOptions).success = false := by
      rw [hrequired]
      rfl
    obtain ⟨es, hes, hrun⟩ := check_incomplete hfailed
    rw [hrun s w (.refl _), hrequired]
    exact .inl ⟨missing, hmissing, hordered, hexact, rfl, rfl, hes⟩

/-- A sink with two fields, of texts and of integers. -/
def listedSink : Sink := ofConfig (smallOptions [("fields", .text " a ,b")])

theorem listedSink_options : TextOptions listedSink.config := by
  have hhost : ∀ s, [("host", "h"), ("table", "t"), ("database", "d"), ("username", "u"),
      ("password", "p"), ("fields", " a ,b")].reverse.lookup "host" = some s →
      Text.strip s ≠ "" → Text.items s ≠ [] ∧
        ∀ entry ∈ Text.items s, ∃ h, HostPort.read entry = .ok h := by
    intro s hs _
    obtain rfl := Option.some.inj hs
    have hitems : Text.items "h" = ["h"] := by decide +kernel
    rw [hitems]
    refine ⟨by decide, fun entry hentry => ⟨⟨"h", HostPort.defaultPort⟩, ?_⟩⟩
    rw [List.mem_singleton.mp hentry]
    rfl
  exact TextOptions.of_texts _ hhost

/-- The check of the sink accepts both fields, and the sink serves every data frame after its
preparation. -/
theorem listedSink_served : ∃ settings columns,
    Serves (prepare (check listedSink smallTable).state smallTable).state settings "t" columns
      ["a", "b"] := by
  have hsucceeds : succeeded (check listedSink smallTable).result = true := by decide +kernel
  have hprepares :
      (prepare (check listedSink smallTable).state smallTable).result.isOk = true := by
    decide +kernel
  have hdescribes : Describes smallTable [("a", "String"), ("b", "Int64"), ("c", "Point")] :=
    ⟨rfl, rfl⟩
  rcases check_decides listedSink_options smallTable with
    ⟨missing, hrefused⟩ | ⟨settings, url, table, names, hdecided⟩
  · rw [hrefused.result] at hsucceeds
    cases hsucceeds
  · obtain ⟨r, hresult, -, hserves⟩ := hdecided.verdict _ hdescribes
    rw [hresult] at hsucceeds
    have htable : listedSink.config.get? "table" = some (.text "t") := rfl
    obtain rfl := Cell.text.inj (Option.some.inj (htable.symm.trans hdecided.reads))
    have hfields : listedSink.config.get? "fields" = some (.text " a ,b") := rfl
    have hlists := hdecided.lists
    rw [hfields] at hlists
    have hnames : names = some ["a", "b"] := by
      have hitems : Text.items " a ,b" = ["a", "b"] := by decide +kernel
      cases hlists
      rw [hitems]
    have hprepared : (prepare (check listedSink smallTable).state smallTable).result = .ok () := by
      cases hresult : (prepare (check listedSink smallTable).state smallTable).result with
      | ok => rfl
      | error e =>
        rw [hresult] at hprepares
        cases hprepares
    exact ⟨settings, _, hserves ["a", "b"] smallTable hnames hsucceeds hprepared⟩

end Sink
end TableLoader
