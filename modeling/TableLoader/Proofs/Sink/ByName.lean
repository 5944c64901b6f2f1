/-
# Columns are found by name

A sink with configured fields loads by their names. Two data frames with the same
fields among their columns, and the same cells under these names row by row, are
loaded by the same run, in any order of their columns and with any other columns
(`output_by_name`): the same calls, tuples and errors. And each tuple that is sent
has, for each field in the order of the insertion, the cell that the row has under
the name of the field, converted by the type that the schema has for that name.

Key definitions: `loadedFields`, `SameUnder`.
Key theorems: `loadPartitions_congr`, `planFor_withInput`, `output_by_name`.
-/
import TableLoader.Proofs.Partition.Batching
import TableLoader.Proofs.Partition.ByName
import TableLoader.Proofs.Sink.Partitions

namespace TableLoader

namespace Sink

open PartitionPlan

variable {σ : Type} {plan : PartitionPlan}

/-- The fields that are loaded when these are configured: those of the insertion, if the sink has
been prepared. -/
def loadedFields (s : Sink) (fields : List String) : List String :=
  (s.prepared.map Insert.fields).getD fields

/-- Data frames with the same of these fields among their columns, and the same cells under these
names. -/
structure SameUnder (fields : List String) (df df' : DataFrame) : Prop where
  columns : ∀ f ∈ fields, f ∈ df.columns ↔ f ∈ df'.columns
  rows : List.Forall₂ (List.Forall₂ (Row.AgreesOn fields df.columns)) df.partitions df'.partitions

/-! ### The same run -/

/-- Partitions whose rows agree under the names of the fields are loaded alike, one after the
other. -/
theorem loadPartitions_congr {input : List String}
    (hinput : ∀ f ∈ plan.insert.fields, f ∈ plan.inputFields ↔ f ∈ input)
    {partitions partitions' : List (List Row)}
    (h : List.Forall₂ (List.Forall₂ (Row.AgreesOn plan.insert.fields plan.inputFields))
      partitions partitions') :
    ∀ (s : σ) (w : World),
    loadPartitions plan partitions s w = loadPartitions (plan.withInput input) partitions' s w := by
  induction h with
  | nil => exact fun s w => rfl
  | @cons rows rows' rest rest' hrows _ ih =>
    intro s w
    have hload := loadPartition_congr hinput hrows s w
    rw [loadPartitions, loadPartitions]
    generalize hran : plan.loadPartition rows s w = ran at hload
    obtain ⟨result, s', w', es⟩ := ran
    cases result with
    | error e => rw [Act.bind_error hran, Act.bind_error hload.symm]
    | ok stats =>
      rw [Act.bind_ok hran, Act.bind_ok hload.symm, Act.emit_bind, Act.emit_bind, ih s' w']

/-- With configured fields the insertion is the same for all data frames. -/
theorem insertFor_of_fields {s : Sink} {fields : List String} (h : s.fields = some fields)
    (table : String) (columns : List String) :
    s.insertFor table columns = s.prepared.getD ⟨table, fields⟩ := by
  unfold insertFor
  rw [h]

theorem fields_insertFor {s : Sink} {fields : List String} (h : s.fields = some fields)
    (table : String) (columns : List String) :
    (s.insertFor table columns).fields = s.loadedFields fields := by
  rw [insertFor_of_fields h, loadedFields]
  cases s.prepared <;> rfl

/-- With configured fields the plans for two data frames differ in the columns of the input
only. -/
theorem planFor_withInput {s : Sink} {fields : List String} (h : s.fields = some fields)
    (table : String) (settings : ConnectionSettings) (columns columns' : List String) :
    s.planFor table settings columns' =
      (s.planFor table settings columns).map fun plan => plan.withInput columns' := by
  unfold planFor
  rw [insertFor_of_fields h, insertFor_of_fields h]
  dsimp only
  cases typesOf s.schema table (s.prepared.getD ⟨table, fields⟩).fields with
  | error e => rfl
  | ok types =>
    show PartitionPlan.of? settings _ types columns' s.bulkSize s.policy =
      (PartitionPlan.of? settings _ types columns s.bulkSize s.policy).map _
    unfold PartitionPlan.of?
    split
    · split
      · rfl
      · rfl
    · rfl

/-- What is read off a plan that was made. -/
theorem fields_of_planFor {s : Sink} {table : String} {settings : ConnectionSettings}
    {columns : List String} (h : s.planFor table settings columns = .ok plan) :
    plan.insert = s.insertFor table columns ∧ plan.inputFields = columns ∧
      typesOf s.schema table (s.insertFor table columns).fields = .ok plan.types := by
  cases htypes : typesOf s.schema table (s.insertFor table columns).fields with
  | error e =>
    unfold planFor at h
    dsimp only at h
    rw [htypes] at h
    cases h
  | ok types =>
    obtain ⟨plan', hplan, -, hinsert, rfl, hinput, -⟩ :=
      planFor_of_typesOf settings htypes
    obtain rfl : plan = plan' := Except.ok.inj (h.symm.trans hplan)
    exact ⟨hinsert, hinput, rfl⟩

/-- Data frames that are the same under the loaded fields are loaded by the same run. -/
theorem output_congr {s : Sink} {fields : List String} (hfields : s.fields = some fields)
    {df df' : DataFrame} (h : SameUnder (s.loadedFields fields) df df') (w : World) :
    output df s w = output df' s w := by
  rcases s.unchecked_or_exists with hunchecked | ⟨table, settings, htable, hsettings⟩
  · rw [output_unchecked hunchecked, output_unchecked hunchecked]
  have hnote : ∀ columns, s.inferenceNote table columns = [] := by
    intro columns
    unfold inferenceNote
    rw [hfields]
    rfl
  rw [output_run htable hsettings, output_run htable hsettings, hnote, hnote, Ran.after_nil,
    Ran.after_nil, planFor_withInput hfields table settings df.columns df'.columns]
  cases hplan : s.planFor table settings df.columns with
  | error e => rfl
  | ok plan =>
    obtain ⟨hinsert, hinput, -⟩ := fields_of_planFor hplan
    have hnames : plan.insert.fields = s.loadedFields fields := by
      rw [hinsert, fields_insertFor hfields]
    rw [← hnames] at h
    have hcolumns := h.columns
    have hrows := h.rows
    rw [← hinput] at hcolumns hrows
    show timedLoad plan table df.partitions s w =
      timedLoad (plan.withInput df'.columns) table df'.partitions s w
    unfold timedLoad
    rw [Act.readClock_bind, Act.readClock_bind]
    exact Act.bind_congr _ (loadPartitions_congr hcolumns hrows s _)

/-! ### What is sent -/

/-- What an output inserts is the tuples of rows that stand together in some partition. -/
theorem exists_segment_of_insert {s : Sink} {df : DataFrame} {w : World} {sql : String}
    {batch : List (List Cell)} {checked : Bool} {o : Option Error}
    (hmem : .insert sql batch checked o ∈ (output df s w).events) :
    ∃ table settings plan, s.planFor table settings df.columns = .ok plan ∧
      ∃ rows ∈ df.partitions, ∃ segment, segment <:+: rows ∧ plan.Tuples w.now segment batch := by
  have hcall : .insert sql batch checked o ∈ clientCalls (output df s w).events :=
    List.mem_filter.mpr ⟨hmem, rfl⟩
  rcases s.unchecked_or_exists with hunchecked | ⟨table, settings, htable, hsettings⟩
  · rw [output_unchecked hunchecked] at hcall
    cases hcall
  cases hplan : s.planFor table settings df.columns with
  | error e =>
    obtain ⟨es, hes, hrun⟩ := output_unplanned htable hsettings df w hplan
    rw [hrun, hes] at hcall
    cases hcall
  | ok plan =>
    have hshows := output_showsLoads htable hsettings hplan w
    rw [hshows.calls] at hcall
    obtain ⟨r, hr, hinsert⟩ := List.mem_flatMap.mp hcall
    obtain ⟨hrows, n, hbefore⟩ := before_of_mem_loadsInTurn r hr
    have hnow : r.before.now = w.now := by
      rw [hbefore, World.afterInserts_now, World.nextReading_now]
    have hevent : .insert sql batch checked o ∈ (plan.loadPartition r.rows s r.before).events := by
      rw [← hshows.loads r hr]
      exact List.mem_of_mem_filter hinsert
    cases haddr : plan.connection.address with
    | error e =>
      rw [loadPartition_unaddressed haddr] at hevent
      cases hevent
    | ok url =>
      obtain ⟨sent, hloads, hsegments⟩ := exists_segments haddr r.rows s r.before
      obtain ⟨x, hx, -, rfl⟩ := hloads.exists_of_mem_events hevent
      obtain ⟨segment, hinfix, htuples⟩ := hsegments x hx
      rw [hnow] at htuples
      exact ⟨table, settings, plan, hplan, r.rows, hrows, segment, hinfix, htuples⟩

/-- Whatever the order of columns and the other columns are, data frames with the same cells under
the loaded fields are loaded by the same run. Each tuple that is inserted stands for a row, and has
for each field the cell that the row has under its name, by the type that the schema has for the
name, or the default of that type. -/
theorem output_by_name {s : Sink} {fields : List String} (hfields : s.fields = some fields)
    {df df' : DataFrame} (h : SameUnder (s.loadedFields fields) df df') (w : World) :
    output df s w = output df' s w ∧
    ∀ sql batch checked o, .insert sql batch checked o ∈ (output df s w).events →
      ∃ rows ∈ df.partitions, ∃ segment, segment <:+: rows ∧
        List.Forall₂ (fun r tuple => List.Forall₂ (fun field v => ∃ t,
          s.schema.get? field = some t ∧ Fills w.now df.columns r field t v)
          (s.loadedFields fields) tuple) segment batch := by
  refine ⟨output_congr hfields h w, ?_⟩
  intro sql batch checked o hmem
  obtain ⟨table, settings, plan, hplan, rows, hrows, segment, hinfix, htuples⟩ :=
    exists_segment_of_insert hmem
  obtain ⟨hinsert, hinput, htypes⟩ := fields_of_planFor hplan
  have hnames : plan.insert.fields = s.loadedFields fields := by
    rw [hinsert, fields_insertFor hfields]
  have haligned : List.Forall₂ (fun f t => s.schema.get? f = some t) plan.insert.fields
      plan.types := by
    rw [hinsert]
    exact typesOf_eq_ok_iff.mp htypes
  refine ⟨rows, hrows, segment, hinfix, htuples.imp fun r tuple ht => ?_⟩
  have hfills := fills_of_tuple haligned ht
  rwa [hnames, hinput] at hfills

/-- The small data frame with another column in front. -/
def widerFrame : DataFrame where
  columns := ["m", "n"]
  partitions := smallFrame.partitions.map fun rows => rows.map (("m", .int 0) :: ·)

/-- The other column makes no difference, and the rows that are sent, of which three are delivered,
have the cells of the first one. -/
theorem smallSink_by_name :
    output smallFrame smallSink smallAnswers = output widerFrame smallSink smallAnswers ∧
    (deliveredRows (output smallFrame smallSink smallAnswers).events).length = 3 ∧
    ∀ sql batch checked o,
      .insert sql batch checked o ∈ (output smallFrame smallSink smallAnswers).events →
      ∃ rows ∈ smallFrame.partitions, ∃ segment, segment <:+: rows ∧
        List.Forall₂ (fun r tuple => List.Forall₂ (fun field v => ∃ t,
          smallSink.schema.get? field = some t ∧
            Fills smallAnswers.now smallFrame.columns r field t v) ["n"] tuple) segment batch := by
  have hagrees : ∀ r : Row,
      Row.AgreesOn (smallSink.loadedFields ["n"]) smallFrame.columns r (("m", .int 0) :: r) := by
    intro r f hf _
    obtain rfl : f = "n" := List.mem_singleton.mp hf
    rfl
  have hrows : ∀ rows : List Row, List.Forall₂ (Row.AgreesOn (smallSink.loadedFields ["n"])
      smallFrame.columns) rows (rows.map (("m", .int 0) :: ·)) := by
    intro rows
    exact List.forall₂_map_right_iff.mpr (List.forall₂_same.mpr fun r _ => hagrees r)
  have hsame : SameUnder (smallSink.loadedFields ["n"]) smallFrame widerFrame := by
    refine ⟨?_, List.forall₂_map_right_iff.mpr (List.forall₂_same.mpr fun rows _ => hrows rows)⟩
    intro f hf
    obtain rfl : f = "n" := List.mem_singleton.mp hf
    decide
  obtain ⟨hrun, hsent⟩ := output_by_name (s := smallSink) rfl hsame smallAnswers
  exact ⟨hrun, by decide +kernel, hsent⟩

end Sink
end TableLoader
