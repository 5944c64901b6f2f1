/-
# Cells are taken by the names of fields

The tuple of a row depends on the cells of the row under the names of the fields
that are columns of the input, and on nothing else: not on the order of the
columns, and not on columns that are no fields (`tuple_congr`). So two lists of
rows that agree under these names are loaded by the same run, with the same
tuples, answers and errors (`loadPartition_congr`).

What the load sends has its rows for it: every batch is the tuples of rows that
stand together in the partition, in their order (`exists_segments`), and the cell of
each field is the one that the row has under its name, or the default of the
field's type (`Fills`, `fills_of_tuple`).

Key definitions: `PartitionPlan.withInput`, `Fills`.
Key theorems: `tuple_congr`, `loadPartition_congr`, `exists_segments`, `fills_of_tuple`.
-/
import TableLoader.Proofs.Partition.Run

namespace TableLoader

open Calendar

/-! ### Rows that agree under names -/

/-- The rows hold the same under the names of fields that are columns of the input. -/
def Row.AgreesOn (fields input : List String) (r r' : Row) : Prop :=
  ∀ f ∈ fields, f ∈ input → r.get? f = r'.get? f

/-- The parameter of a field depends on the cell under its name only, and on whether the field is a
column of the input. -/
theorem fieldParameter_congr (now : DateTime) {input input' : List String} {r r' : Row}
    {field : String} (t : ColumnType) (hinput : field ∈ input ↔ field ∈ input')
    (hrow : field ∈ input → r.get? field = r'.get? field) :
    fieldParameter now input r field t = fieldParameter now input' r' field t := by
  unfold fieldParameter
  by_cases hmem : field ∈ input
  · have hmem' : field ∈ input' := hinput.mp hmem
    rw [if_neg (not_not.mpr hmem), if_neg (not_not.mpr hmem'), hrow hmem]
  · have hmem' : field ∉ input' := fun h => hmem (hinput.mpr h)
    rw [if_pos hmem, if_pos hmem']

theorem rowParameters_congr (now : DateTime) {input input' : List String} {r r' : Row} :
    ∀ {columns : List (String × ColumnType)},
    (∀ c ∈ columns, c.1 ∈ input ↔ c.1 ∈ input') →
    (∀ c ∈ columns, c.1 ∈ input → r.get? c.1 = r'.get? c.1) →
    rowParameters now input r columns = rowParameters now input' r' columns
  | [], _, _ => rfl
  | (field, t) :: rest, hinput, hrow => by
    have hfield := fieldParameter_congr now t (hinput _ List.mem_cons_self)
      (hrow _ List.mem_cons_self)
    have hrest := rowParameters_congr now
      (fun c hc => hinput c (List.mem_cons_of_mem _ hc))
      (fun c hc => hrow c (List.mem_cons_of_mem _ hc))
    rw [rowParameters_cons, rowParameters_cons, hfield, hrest]

namespace PartitionPlan

variable {σ : Type} {plan : PartitionPlan} {input : List String}

/-- The plan for an input with other columns. -/
def withInput (plan : PartitionPlan) (input : List String) : PartitionPlan :=
  { plan with inputFields := input }

/-- The tuple of a row depends on the cells under the names of the fields only. -/
theorem tuple_congr (now : DateTime) {r r' : Row}
    (hinput : ∀ f ∈ plan.insert.fields, f ∈ plan.inputFields ↔ f ∈ input)
    (hrow : r.AgreesOn plan.insert.fields plan.inputFields r') :
    plan.tuple now r = (plan.withInput input).tuple now r' := by
  have hfield : ∀ c ∈ plan.insert.fields.zip plan.types, c.1 ∈ plan.insert.fields :=
    fun c hc => (List.of_mem_zip hc).1
  have hparameters : rowParameters now plan.inputFields r (plan.insert.fields.zip plan.types) =
      rowParameters now input r' (plan.insert.fields.zip plan.types) :=
    rowParameters_congr now (fun c hc => hinput c.1 (hfield c hc))
      fun c hc => hrow c.1 (hfield c hc)
  unfold tuple
  rw [hparameters]
  rfl

/-- Rows that agree under the names of the fields are loaded alike. -/
theorem loadRows_congr (hinput : ∀ f ∈ plan.insert.fields, f ∈ plan.inputFields ↔ f ∈ input)
    {rows rows' : List Row}
    (hrows : List.Forall₂ (Row.AgreesOn plan.insert.fields plan.inputFields) rows rows') :
    ∀ (batch : List (List Cell)) (stats : PartitionStats) (s : σ) (w : World),
    batch.length < plan.bulkSize →
    plan.loadRows rows (plan.holding batch) batch.length stats s w =
      (plan.withInput input).loadRows rows' (plan.holding batch) batch.length stats s w := by
  induction hrows with
  | nil => exact fun batch stats s w _ => rfl
  | @cons r r' rest rest' hrow _ ih =>
    intro batch stats s w hroom
    have htuple := tuple_congr w.now hinput hrow
    cases ht : plan.tuple w.now r with
    | error e =>
      have ht' : (plan.withInput input).tuple w.now r' = .error e := htuple.symm.trans ht
      have hright := loadRows_refused (s := s) ht' batch rest' stats
      rw [loadRows_refused ht]
      exact hright.symm
    | ok t =>
      have ht' : (plan.withInput input).tuple w.now r' = .ok t := htuple.symm.trans ht
      by_cases hfull : batch.length + 1 = plan.bulkSize
      · have hright := loadRows_full (s := s) ht' hfull rest' stats
        rw [loadRows_full ht hfull]
        refine Eq.trans ?_ hright.symm
        obtain ⟨outcomes, x, es, -, -, hflush, -⟩ :=
          plan.flush_run (batch ++ [t]) (stats.after 1 []) s w
        have hflush' : (plan.withInput input).flush ((plan.withInput input).holding (batch ++ [t]))
            (stats.after 1 []) s w = _ := hflush
        cases x with
        | error e => rw [Act.bind_error hflush, Act.bind_error hflush']
        | ok delivered =>
          rw [Act.bind_ok hflush, Act.bind_ok hflush']
          exact congrArg _ (ih [] _ s (w.afterInserts outcomes.length) plan.bulkSize_pos)
      · have hroom' : batch.length + 1 < plan.bulkSize := by omega
        have hright := loadRows_kept (s := s) ht' hroom' rest' stats
        have hnext : (batch ++ [t]).length < plan.bulkSize := by
          rw [List.length_append, List.length_singleton]
          exact hroom'
        rw [loadRows_kept ht hroom', ih (batch ++ [t]) _ s w hnext]
        exact hright.symm

/-- Partitions whose rows agree under the names of the fields are loaded alike. -/
theorem loadPartition_congr
    (hinput : ∀ f ∈ plan.insert.fields, f ∈ plan.inputFields ↔ f ∈ input) {rows rows' : List Row}
    (hrows : List.Forall₂ (Row.AgreesOn plan.insert.fields plan.inputFields) rows rows') (s : σ)
    (w : World) :
    plan.loadPartition rows s w = (plan.withInput input).loadPartition rows' s w := by
  have hload : plan.loadRows rows plan.statement 0 PartitionStats.none s w =
      (plan.withInput input).loadRows rows' plan.statement 0 PartitionStats.none s w :=
    loadRows_congr hinput hrows [] PartitionStats.none s w plan.bulkSize_pos
  unfold loadPartition
  apply Act.bind_congr
  cases haddr : plan.connection.address with
  | error e =>
    have haddr' : (plan.withInput input).connection.address = .error e := haddr
    rw [withConnection_error haddr, withConnection_error haddr']
  | ok url =>
    have haddr' : (plan.withInput input).connection.address = .ok url := haddr
    rw [withConnection_ok haddr, withConnection_ok haddr', hload]
    rfl

/-! ### What is sent -/

/-- The tuples of rows, row by row. -/
def Tuples (plan : PartitionPlan) (now : DateTime) (rows : List Row) (batch : List (List Cell)) :
    Prop :=
  List.Forall₂ (fun r t => plan.tuple now r = .ok t) rows batch

theorem Tuples.append_one {now : DateTime} {rows : List Row} {batch : List (List Cell)}
    (h : plan.Tuples now rows batch) {r : Row} {t : List Cell} (ht : plan.tuple now r = .ok t) :
    plan.Tuples now (rows ++ [r]) (batch ++ [t]) :=
  List.rel_append h (.cons ht .nil)

/-- Rows that are taken after those of the batch are sent in segments, and the last of them are
left. -/
theorem Taken.segments {now : DateTime} {rows : List Row} {batch left : List (List Cell)}
    {sent : List Shipment} (h : plan.Taken now rows batch sent left) :
    ∀ pre : List Row, plan.Tuples now pre batch →
    (∀ x ∈ sent, ∃ segment, segment <:+: pre ++ rows ∧ plan.Tuples now segment x.batch) ∧
      ∃ segment, segment <:+ pre ++ rows ∧ plan.Tuples now segment left := by
  induction h with
  | @done batch =>
    intro pre hpre
    have hall : pre <:+ pre ++ [] := ⟨[], (List.append_nil pre).symm⟩
    exact ⟨(fun x hx => by cases hx), pre, hall, hpre⟩
  | @kept r rest batch t sent left ht _ _ ih =>
    intro pre hpre
    have hnext := ih (pre ++ [r]) (hpre.append_one ht)
    rwa [List.append_assoc, List.singleton_append] at hnext
  | @sent r rest batch t outcomes delivered sent left ht _ _ _ ih =>
    intro pre hpre
    -- the rows of the batch and the one that fills it come first, the others behind them
    have hfirst : pre ++ [r] <:+: pre ++ r :: rest :=
      ⟨[], rest, by rw [List.nil_append, List.append_assoc, List.singleton_append]⟩
    have hrest : rest <:+ pre ++ r :: rest := ⟨pre ++ [r], by simp⟩
    obtain ⟨hsent, segment, hsuffix, hleft⟩ := ih [] .nil
    refine ⟨fun x hx => ?_, segment, hsuffix.trans hrest, hleft⟩
    rcases List.mem_cons.mp hx with rfl | hx
    · exact ⟨pre ++ [r], hfirst, hpre.append_one ht⟩
    · obtain ⟨segment', hinfix, htuples⟩ := hsent x hx
      exact ⟨segment', hinfix.trans hrest.isInfix, htuples⟩

/-- Every batch of a load is the tuples of rows that stand together in the partition. -/
theorem exists_segments {url : String} (haddr : plan.connection.address = .ok url)
    (rows : List Row) (s : σ) (w : World) :
    ∃ sent, plan.Loads url sent w (plan.loadPartition rows s w) ∧
      ∀ x ∈ sent, ∃ segment, segment <:+: rows ∧ plan.Tuples w.now segment x.batch := by
  have hleft : ∀ {sent : List Shipment} {left : List (List Cell)} {outcomes : List (Option Error)},
      plan.Taken w.now rows [] sent left → ∀ x ∈ sent ++ [⟨left, outcomes⟩],
      ∃ segment, segment <:+: rows ∧ plan.Tuples w.now segment x.batch := by
    intro sent left outcomes htaken x hx
    obtain ⟨hsent, segment, hsuffix, htuples⟩ := htaken.segments [] .nil
    rcases List.mem_append.mp hx with hx | hx
    · exact hsent x hx
    · rw [List.mem_singleton.mp hx]
      exact ⟨segment, hsuffix.isInfix, htuples⟩
  rcases loadPartition_run haddr rows s w with
    ⟨sent, left, outcomes, _, htaken, -, -, hloads⟩ |
    ⟨sent, left, outcomes, _, htaken, -, -, hloads⟩ |
    ⟨pre, r, rest, sent, left, last, e, rfl, htaken, hstop, -, hloads, -⟩
  · exact ⟨_, hloads, hleft htaken⟩
  · exact ⟨_, hloads, hleft htaken⟩
  · obtain ⟨hsent, segment, ⟨front, hfront⟩, htuples⟩ := htaken.segments [] .nil
    refine ⟨_, hloads, fun x hx => ?_⟩
    rcases List.mem_append.mp hx with hx | hx
    · obtain ⟨segment', hinfix, htuples'⟩ := hsent x hx
      exact ⟨segment', hinfix.trans (List.prefix_append _ _).isInfix, htuples'⟩
    · cases hstop with
      | refused => cases hx
      | @broken t outcomes e ht _ _ =>
        rw [List.mem_singleton.mp hx]
        refine ⟨segment ++ [r], ⟨front, rest, ?_⟩, htuples.append_one ht⟩
        rw [← List.append_assoc, hfront, List.nil_append, List.append_assoc,
          List.singleton_append]

/-- What the column of a field gets from a row: the cell under the name of the field, converted by
the type, or the default of the type where there is no such cell. -/
inductive Fills (now : DateTime) (input : List String) (r : Row) (field : String)
    (t : ColumnType) : Cell → Prop where
  | value {c : Cell} {p : Parameter} {v : Cell} : field ∈ input → r.get? field = some c →
      c.isNull = false → t.parameter c = .ok p → p.sent t = .ok v → Fills now input r field t v
  /-- the field is no column of the input -/
  | missing {v : Cell} : field ∉ input → (t.defaultParameter now).sent t = .ok v →
      Fills now input r field t v
  /-- the row has the missing value there -/
  | null {c : Cell} {v : Cell} : field ∈ input → r.get? field = some c → c.isNull = true →
      (t.defaultParameter now).sent t = .ok v → Fills now input r field t v

theorem fills_of_parameter {now : DateTime} {input : List String} {r : Row} {field : String}
    {t : ColumnType} {p : Parameter} {v : Cell} (hp : fieldParameter now input r field t = .ok p)
    (hv : p.sent t = .ok v) : Fills now input r field t v := by
  unfold fieldParameter at hp
  by_cases hmem : field ∈ input
  · rw [if_neg (not_not.mpr hmem)] at hp
    cases hget : r.get? field with
    | none =>
      rw [hget] at hp
      cases hp
    | some c =>
      rw [hget] at hp
      dsimp only at hp
      cases hnull : c.isNull with
      | true =>
        rw [hnull, if_pos rfl] at hp
        exact .null hmem hget hnull (by rw [Except.ok.inj hp]; exact hv)
      | false =>
        rw [hnull, if_neg Bool.false_ne_true] at hp
        exact .value hmem hget hnull hp hv
  · rw [if_pos hmem] at hp
    exact .missing hmem (by rw [Except.ok.inj hp]; exact hv)

/-- Fields, types, parameters and cells that stand side by side. -/
theorem fills_of_aligned {now : DateTime} {input : List String} {r : Row}
    {P : String → ColumnType → Prop} {fields : List String} {types : List ColumnType}
    (hfields : List.Forall₂ P fields types) : ∀ {ps : List Parameter} {vs : List Cell},
    rowParameters now input r (fields.zip types) = .ok ps →
    (types.zip ps).mapM (fun x => x.2.sent x.1) = .ok vs →
    List.Forall₂ (fun field v => ∃ t, P field t ∧ Fills now input r field t v) fields vs := by
  induction hfields with
  | nil =>
    intro ps vs _ hvs
    rw [← Except.ok.inj hvs]
    exact .nil
  | @cons field t fields types hfield _ ih =>
    intro ps vs hps hvs
    rw [List.zip_cons_cons] at hps
    obtain ⟨p, ps', hp, hps', rfl⟩ := List.forall₂_cons_left_iff.mp (mapM_eq_ok_iff.mp hps)
    rw [List.zip_cons_cons] at hvs
    obtain ⟨v, vs', hv, hvs', rfl⟩ := List.forall₂_cons_left_iff.mp (mapM_eq_ok_iff.mp hvs)
    have hrest := ih (mapM_eq_ok_iff.mpr hps') (mapM_eq_ok_iff.mpr hvs')
    exact .cons ⟨t, hfield, fills_of_parameter hp hv⟩ hrest

/-- The tuple of a row has a cell for each field, by the field's type. -/
theorem fills_of_tuple {now : DateTime} {r : Row} {vs : List Cell} {P : String → ColumnType → Prop}
    (htypes : List.Forall₂ P plan.insert.fields plan.types) (h : plan.tuple now r = .ok vs) :
    List.Forall₂ (fun field v => ∃ t, P field t ∧ Fills now plan.inputFields r field t v)
      plan.insert.fields vs := by
  unfold tuple at h
  cases hps : rowParameters now plan.inputFields r (plan.insert.fields.zip plan.types) with
  | error e =>
    rw [hps] at h
    cases h
  | ok ps =>
    rw [hps] at h
    exact fills_of_aligned htypes hps h

end PartitionPlan
end TableLoader
