/-
# Columns without a value

A column that is bound without a value gets one by its type, and the row takes it: no
default is refused, neither when it is bound nor when it is sent (`bindDefault_open`,
`sent_defaultParameter`). What is sent is the missing value exactly if the type admits
it, that is, if it is `Nullable` or `Array` up to `LowCardinality` around it
(`isDefault_defaultCell`). The default of a date or a time is written as a text and
read back when the row is complete, so the year has four digits here.

A value of a row, on the other hand, is not lost: what is bound and sent for it is not
the missing value (`parameter_present`). A row is bound field by field, each at its own
place (`bindFields_at`), and what is sent for a parameter stands at the place of the
parameter (`getElem?_row_eq_some_iff`, `lands_of_sent`).

Key definitions: `PlainType.defaultCell`, `ColumnType.dense`, `ColumnType.IsDefault`,
`Parameter.Present`, `Statement.Lands`.
Key theorems: `sent_defaultParameter`, `bindFields_at`, `lands_of_sent`,
`defaults_and_values`.
-/
import TableLoader.Binding
import TableLoader.ColumnType.Parser
import TableLoader.Proofs.Calendar.Reading
import TableLoader.Proofs.RowTuple

namespace TableLoader

open Calendar

/-! ### What a type has by default -/

/-- What is sent by default to a plain column. -/
def PlainType.defaultCell (now : DateTime) : PlainType → Cell
  | .date => .date now.date
  | .dateTime => .dateTime now.wholeSeconds
  | .int8 | .int16 | .int32 | .int64 | .uInt8 | .uInt16 | .uInt32 | .uInt64 => .int 0
  | .float32 | .float64 => .float (Number.Binary64.zero false)
  | .string | .decimal | .unknown => .text ""

theorem PlainType.defaultCell_ne_null (now : DateTime) (type : PlainType) :
    type.defaultCell now ≠ .null := by
  cases type <;> simp [defaultCell]

namespace ColumnType

/-- The type inside all `LowCardinality` around it. -/
def dense : ColumnType → ColumnType
  | wrapped .lowCardinality _ inner => inner.dense
  | t => t

/-- What is sent by default to a column. -/
def defaultCell (now : DateTime) (t : ColumnType) : Cell :=
  match t.dense with
  | plain type _ => type.defaultCell now
  | wrapped .. => .null

/-- The cell is the default of the type: missing if the type admits that, and else given by the
plain type. -/
structure IsDefault (now : DateTime) (t : ColumnType) (v : Cell) : Prop where
  null_iff : v = .null ↔ (∃ raw inner, t.dense = wrapped .nullable raw inner) ∨
    ∃ raw inner, t.dense = wrapped .array raw inner
  eq_of_plain {type : PlainType} {raw : String} :
    t.dense = plain type raw → v = type.defaultCell now

/-- Without the `LowCardinality` around it a type is plain, `Nullable` or `Array`. -/
theorem dense_cases (t : ColumnType) : (∃ type raw, t.dense = plain type raw) ∨
    (∃ raw inner, t.dense = wrapped .nullable raw inner) ∨
      ∃ raw inner, t.dense = wrapped .array raw inner := by
  induction t with
  | plain type raw => exact .inl ⟨type, raw, rfl⟩
  | wrapped wrapper raw inner ih =>
    cases wrapper with
    | nullable => exact .inr (.inl ⟨raw, inner, rfl⟩)
    | lowCardinality => exact ih
    | array => exact .inr (.inr ⟨raw, inner, rfl⟩)

theorem isDefault_defaultCell (now : DateTime) (t : ColumnType) :
    t.IsDefault now (t.defaultCell now) := by
  rcases t.dense_cases with ⟨type, raw, h⟩ | ⟨raw, inner, h⟩ | ⟨raw, inner, h⟩
  · refine ⟨?_, fun {type' raw'} h' => ?_⟩
    · simp [defaultCell, h, PlainType.defaultCell_ne_null]
    · obtain ⟨rfl, -⟩ := plain.inj (h.symm.trans h')
      simp only [defaultCell, h]
  · exact ⟨by simp [defaultCell, h], fun h' => nomatch h.symm.trans h'⟩
  · exact ⟨by simp [defaultCell, h], fun h' => nomatch h.symm.trans h'⟩

/-- The default of a plain column is sent. -/
theorem sent_defaultParameter_plain {now : DateTime} (h : 1000 ≤ now.date.year) (type : PlainType)
    (raw : String) : ((plain type raw).defaultParameter now).sent (plain type raw) =
      .ok (type.defaultCell now) := by
  cases type with
  | date =>
    show (orFault .badValue (Date.read (now.date.stamp.toList.take 10))).map Cell.date = _
    rw [Date.read_stamp h]
    rfl
  | dateTime =>
    show (orFault .badValue (DateTime.read now.stamp.toList)).map Cell.dateTime = _
    rw [DateTime.read_stamp h]
    rfl
  | _ => rfl

/-- The default of a column is sent, whatever its type is. -/
theorem sent_defaultParameter {now : DateTime} (h : 1000 ≤ now.date.year) (t : ColumnType) :
    (t.defaultParameter now).sent t = .ok (t.defaultCell now) := by
  induction t with
  | plain type raw => exact sent_defaultParameter_plain h type raw
  | wrapped wrapper raw inner ih =>
    cases wrapper with
    | lowCardinality => exact ih
    | nullable | array => rfl

end ColumnType

/-! ### Values are not lost -/

/-- What is bound is not the missing value, and is not sent as the missing value. -/
structure Parameter.Present (p : Parameter) : Prop where
  bound : p.value ≠ .null
  sent (t : ColumnType) : p.sent t ≠ .ok .null

theorem map_ne_ok {ε α β : Type} {f : α → β} {b : β} (h : ∀ a, f a ≠ b) (x : Except ε α) :
    x.map f ≠ .ok b := by
  cases x with
  | error e => intro heq; cases heq
  | ok a => exact fun heq => h a (Except.ok.inj heq)

theorem Parameter.present_of_value {p : Parameter} (h : p.value ≠ .null) : p.Present := by
  refine ⟨h, fun t => ?_⟩
  unfold sent
  split
  · exact map_ne_ok (by simp) _
  · exact map_ne_ok (by simp) _
  · exact fun heq => h (Except.ok.inj heq)

theorem Conversion.value_ne_null {k : Conversion} {c : Cell} (h : c ≠ .null) :
    k.value c ≠ .ok .null := by
  cases k with
  | text => exact fun heq => h (Except.ok.inj heq)
  | _ => exact map_ne_ok (by simp) _

theorem Conversion.apply_present {k : Conversion} {c : Cell} {p : Parameter}
    (h : k.apply c = .ok p) (hc : c ≠ .null) : p.Present := by
  refine Parameter.present_of_value fun hnull => ?_
  unfold apply at h
  cases hv : k.value c with
  | error e =>
    rw [hv] at h
    cases h
  | ok v =>
    rw [hv] at h
    obtain rfl := Except.ok.inj h
    exact value_ne_null hc (hv.trans (congrArg _ hnull))

/-- What is bound for a value is a value. -/
theorem ColumnType.parameter_present {t : ColumnType} {c : Cell} {p : Parameter}
    (h : t.parameter c = .ok p) (hc : c ≠ .null) : p.Present := by
  unfold parameter at h
  split at h
  · split at h
    · exact Conversion.apply_present h hc
    · cases htext : c.toText with
      | error e =>
        rw [htext] at h
        cases h
      | ok s =>
        rw [htext] at h
        exact Conversion.apply_present (k := .text) (c := .text s) h (by simp)
  · exact Conversion.apply_present h hc

theorem fieldParameter_of_value {now : DateTime} {input : List String} {r : Row} {field : String}
    {t : ColumnType} {c : Cell} (hfield : field ∈ input) (hc : r.get? field = some c)
    (hnull : c ≠ .null) : fieldParameter now input r field t = t.parameter c := by
  have hvalue : c.isNull = false := by
    cases c with
    | null => exact absurd rfl hnull
    | _ => rfl
  simp only [fieldParameter, hfield, not_true_eq_false, ↓reduceIte, hc, hvalue, Bool.false_eq_true]

namespace Statement

/-! ### Binding the fields of a row -/

section Fields

variable {now : DateTime} {input : List String} {r : Row} {s s' : Statement}

theorem bind_open {i : Nat} (hopen : s.closed = false) (hi : i < s.parameters.length)
    (p : Parameter) : s.bind i p = .ok { s with parameters := s.parameters.set i (some p) } := by
  have hrange : (0 : Int) ≤ i ∧ (i : Int) < s.parameters.length := by omega
  simp only [bind, hopen, Bool.false_eq_true, ↓reduceIte, if_pos hrange, Int.toNat_natCast]

theorem bindField_eq_ok {i : Nat} {field : String} {t : ColumnType}
    (h : bindField now input r i field t s = .ok s') :
    ∃ p, fieldParameter now input r field t = .ok p ∧ i < s.parameters.length ∧
      s' = { s with parameters := s.parameters.set i (some p) } := by
  rw [bindField_eq] at h
  cases hp : fieldParameter now input r field t with
  | error e =>
    rw [hp] at h
    cases h
  | ok p =>
    rw [hp] at h
    exact ⟨p, rfl, bind_eq_ok h⟩

/-- Binding fields leaves the parameters in front of them as they are. -/
theorem bindFields_before (cols : List (String × ColumnType)) {i k : Nat} (hk : k < i)
    (s : Statement) (w : World) :
    (bindFields now input r i cols s w).state.parameters[k]? = s.parameters[k]? := by
  induction cols generalizing i s with
  | nil => rfl
  | cons col rest ih =>
    obtain ⟨field, t⟩ := col
    rw [bindFields]
    cases hstep : bindField now input r i field t s with
    | error e => rw [Act.bind_error (Act.update_error hstep w)]
    | ok s₁ =>
      obtain ⟨p, -, -, rfl⟩ := bindField_eq_ok hstep
      rw [Act.bind_ok (Act.update_ok hstep w), Ran.after_state, ih (by omega),
        List.getElem?_set_ne (by omega)]

variable (now input r)

/-- A field is bound to its parameter at its place, or the row fails and the place is left as it
was. -/
theorem bindFields_at (cols : List (String × ColumnType)) {i j : Nat} {field : String}
    {t : ColumnType} (hcol : cols[j]? = some (field, t)) (s : Statement) (w : World) :
    (∃ p, fieldParameter now input r field t = .ok p ∧
      (bindFields now input r i cols s w).state.parameters[i + j]? = some (some p)) ∨
    (∃ e, (bindFields now input r i cols s w).result = .error e) ∧
      (bindFields now input r i cols s w).state.parameters[i + j]? = s.parameters[i + j]? := by
  induction cols generalizing i j s with
  | nil => cases hcol
  | cons col rest ih =>
    obtain ⟨field₀, t₀⟩ := col
    rw [bindFields]
    cases hstep : bindField now input r i field₀ t₀ s with
    | error e =>
      rw [Act.bind_error (Act.update_error hstep w)]
      exact .inr ⟨⟨e, rfl⟩, rfl⟩
    | ok s₁ =>
      obtain ⟨p, hp, hi, rfl⟩ := bindField_eq_ok hstep
      rw [Act.bind_ok (Act.update_ok hstep w), Ran.after_state, Ran.after_result]
      cases j with
      | zero =>
        -- The fields behind this one are bound behind its place.
        obtain ⟨rfl, rfl⟩ := Prod.mk.inj (Option.some.inj hcol)
        refine .inl ⟨p, hp, ?_⟩
        rw [Nat.add_zero, bindFields_before rest (by omega)]
        exact List.getElem?_set_self hi
      | succ j =>
        have hindex : i + (j + 1) = (i + 1) + j := by omega
        rw [hindex]
        have hset : (s.parameters.set i (some p))[i + 1 + j]? = s.parameters[i + 1 + j]? :=
          List.getElem?_set_ne (by omega)
        rw [← hset]
        exact ih hcol _

end Fields

/-! ### The place of a cell in the row -/

/-- At a place of the row stands the cell `v`, unless the row fails at another place. -/
inductive Lands (s : Statement) (i : Nat) (v : Cell) : Prop where
  | added {row} : row[i]? = some v → s.addRow = .ok { s with
      batch := s.batch.push row
      parameters := List.replicate s.parameters.length none } → Lands s i v
  | failed {j : Nat} {t p e} : j ≠ i → s.types[j]? = some t →
      s.parameters[j]? = some (some p) → p.sent t = .error e → s.addRow = .error e → Lands s i v

theorem map_some_filterMap {α : Type} : ∀ {l : List (Option α)}, none ∉ l →
    (l.filterMap id).map some = l
  | [], _ => rfl
  | none :: _, h => absurd List.mem_cons_self h
  | some a :: l, h => by
    have hl := map_some_filterMap fun hl => h (List.mem_cons_of_mem (some a) hl)
    rw [List.filterMap_cons_some (f := id) (b := a) rfl, List.map_cons, hl]

section Place

variable {s : Statement} {i : Nat} {t : ColumnType} {p : Parameter} {v : Cell}

/-- If nothing is unbound, the row is made of all parameters. -/
theorem exists_parameters (h : s.unboundIndices = []) :
    ∃ ps, s.parameters = ps.map some ∧ s.row = (s.types.zip ps).mapM fun x => x.2.sent x.1 := by
  refine ⟨s.parameters.filterMap id, (map_some_filterMap fun hnone => ?_).symm, rfl⟩
  obtain ⟨k, hk⟩ := List.mem_iff_getElem?.mp hnone
  exact List.filter_eq_nil_iff.mp (List.map_eq_nil_iff.mp h) (none, k)
    (List.mk_mem_zipIdx_iff_getElem?.mpr hk) rfl

theorem addRow_eq (hopen : s.closed = false) (hbound : s.unboundIndices = []) :
    s.addRow = s.row.map fun row => { s with
      batch := s.batch.push row
      parameters := List.replicate s.parameters.length none } := by
  simp only [addRow, hopen, hbound, Bool.false_eq_true, ↓reduceIte, ne_eq, not_true_eq_false]
  cases s.row <;> rfl

/-- What stands at a place of the row is what is sent for the parameter at this place. -/
theorem getElem?_row_eq_some_iff {row : List Cell} (hrow : s.row = .ok row)
    (hbound : s.unboundIndices = []) : row[i]? = some v ↔
      ∃ t p, s.types[i]? = some t ∧ s.parameters[i]? = some (some p) ∧ p.sent t = .ok v := by
  obtain ⟨ps, hps, hmap⟩ := exists_parameters hbound
  have hall := mapM_eq_ok_iff.mp (hmap.symm.trans hrow)
  have hpair : ∀ {t p}, (s.types.zip ps)[i]? = some (t, p) ↔
      s.types[i]? = some t ∧ s.parameters[i]? = some (some p) := by
    intro t p
    rw [List.getElem?_zip_eq_some, hps, List.getElem?_map]
    cases ps[i]? <;> simp
  constructor
  · intro hv
    obtain ⟨hi, rfl⟩ := List.getElem?_eq_some_iff.mp hv
    have hi' : i < (s.types.zip ps).length := hall.length_eq ▸ hi
    obtain ⟨ht, hp⟩ := hpair.mp (List.getElem?_eq_getElem hi')
    exact ⟨_, _, ht, hp, hall.get hi' hi⟩
  · rintro ⟨t, p, ht, hp, hv⟩
    obtain ⟨hi, hget⟩ := List.getElem?_eq_some_iff.mp (hpair.mpr ⟨ht, hp⟩)
    have hi' : i < row.length := hall.length_eq ▸ hi
    have hsent : (s.types.zip ps)[i].2.sent (s.types.zip ps)[i].1 = .ok row[i] := hall.get hi hi'
    rw [hget] at hsent
    rw [List.getElem?_eq_getElem hi', Except.ok.inj (hsent.symm.trans hv)]

/-- A parameter that can be sent is not what the row fails by. -/
theorem lands_of_sent (hopen : s.closed = false) (hbound : s.unboundIndices = [])
    (ht : s.types[i]? = some t) (hp : s.parameters[i]? = some (some p)) (hv : p.sent t = .ok v) :
    s.Lands i v := by
  have hadd := addRow_eq hopen hbound
  cases hrow : s.row with
  | ok row =>
    have hcell := (getElem?_row_eq_some_iff hrow hbound).mpr ⟨t, p, ht, hp, hv⟩
    exact .added hcell (by rw [hadd, hrow]; rfl)
  | error e =>
    -- The row fails by the first parameter that cannot be sent, and this one can.
    obtain ⟨ps, hps, hmap⟩ := exists_parameters hbound
    obtain ⟨before, ⟨t', p'⟩, after, hsplit, -, herror⟩ :=
      mapM_eq_error_iff.mp (hmap.symm.trans hrow)
    have hpair : (s.types.zip ps)[before.length]? = some (t', p') := by
      rw [hsplit, List.getElem?_append_right (Nat.le_refl _), Nat.sub_self]
      rfl
    obtain ⟨ht', hp'⟩ := List.getElem?_zip_eq_some.mp hpair
    have hparameter : s.parameters[before.length]? = some (some p') := by
      rw [hps, List.getElem?_map, hp']
      rfl
    refine .failed (fun hj => ?_) ht' hparameter herror (by rw [hadd, hrow]; rfl)
    rw [hj] at ht' hparameter
    obtain rfl := Option.some.inj (ht.symm.trans ht')
    obtain rfl := Option.some.inj (Option.some.inj (hp.symm.trans hparameter))
    cases hv.symm.trans herror

end Place

/-- The default of a type is bound, whatever the type is. -/
theorem bindDefault_open {i : Nat} {s : Statement} (hopen : s.closed = false)
    (hi : i < s.parameters.length) (now : DateTime) (t : ColumnType) :
    bindDefault now i t s =
      .ok { s with parameters := s.parameters.set i (some (t.defaultParameter now)) } :=
  bind_open hopen hi _

/-- What is present is not missing in the row. -/
theorem row_ne_null {s s' : Statement} {i : Nat} {p : Parameter} (hpresent : p.Present)
    (hp : s.parameters[i]? = some (some p)) (h : s.addRow = .ok s') :
    ∃ row, s'.batch = s.batch.push row ∧ row[i]? ≠ some .null := by
  obtain ⟨-, hbound, row, hrow, rfl⟩ := addRow_eq_ok h
  refine ⟨row, rfl, fun hnull => ?_⟩
  obtain ⟨t, p', -, hp', hv⟩ := (getElem?_row_eq_some_iff hrow hbound).mp hnull
  obtain rfl := Option.some.inj (Option.some.inj (hp.symm.trans hp'))
  exact hpresent.sent t hv

/-- **Defaults and values.** Whatever the text of a type is, its default is bound to an open
statement and taken into the row: as the missing value exactly if the type is `Nullable` or an
array up to `LowCardinality`, and else as the default of the plain type. A value of a row is
bound to its field as a value and stays one in the row. -/
theorem defaults_and_values :
    (∀ (raw : String) (now : DateTime) (s : Statement) (i : Nat),
      let t := ColumnType.parse raw
      1000 ≤ now.date.year → s.closed = false → i < s.parameters.length → s.types[i]? = some t →
      ∃ p v, bindDefault now i t s = .ok { s with parameters := s.parameters.set i (some p) } ∧
        p.sent t = .ok v ∧ t.IsDefault now v ∧
        ∀ s' : Statement, s'.types = s.types → s'.parameters[i]? = some (some p) →
          s'.closed = false → s'.unboundIndices = [] → s'.Lands i v) ∧
    (∀ (fields : List String) (types : List ColumnType) (input : List String) (r : Row)
      (s : Statement) (w : World) (i : Nat) (field : String) (t : ColumnType) (c : Cell),
      fields[i]? = some field → types[i]? = some t → field ∈ input → r.get? field = some c →
      c ≠ .null →
      let ran := bindRow fields types input r s w
      (∃ p, ran.state.parameters[i]? = some (some p) ∧ p.Present ∧
        ∀ s' s'' : Statement, s'.parameters[i]? = some (some p) → s'.addRow = .ok s'' →
          ∃ row, s''.batch = s'.batch.push row ∧ row[i]? ≠ some .null) ∨
      (∃ e, ran.result = .error e) ∧ ran.state.parameters[i]? = s.parameters[i]?) := by
  refine ⟨fun raw now s i => ?_, fun fields types input r s w i field t c => ?_⟩
  · intro t hyear hopen hi ht
    have hsent := t.sent_defaultParameter hyear
    refine ⟨_, _, bindDefault_open hopen hi now t, hsent, t.isDefault_defaultCell now, ?_⟩
    intro s' htypes hp hopen' hbound'
    exact lands_of_sent hopen' hbound' (htypes ▸ ht) hp hsent
  · intro hfield htype hinput hc hnull ran
    have hcol : (fields.zip types)[i]? = some (field, t) :=
      List.getElem?_zip_eq_some.mpr ⟨hfield, htype⟩
    have hat := bindFields_at w.now input r _ hcol (i := 0) s w
    rw [Nat.zero_add, fieldParameter_of_value hinput hc hnull] at hat
    refine hat.imp_left ?_
    rintro ⟨p, hp, hplace⟩
    have hpresent := ColumnType.parameter_present hp hnull
    exact ⟨p, hplace, hpresent, fun s' s'' hbound hadd => row_ne_null hpresent hbound hadd⟩

/-- A statement for one column of dates with `LowCardinality`. -/
def oneDate : Statement := fresh ⟨"t", ["d"]⟩ [ColumnType.parse "LowCardinality(Date)"]

/-- The day of loading is bound and sent by default, and the text of a row is bound as it is. -/
theorem loading_day_lands :
    (1000 ≤ World.beginning.date.year ∧ oneDate.closed = false ∧ 0 < oneDate.parameters.length ∧
      ∃ p v, bindDefault World.beginning 0 (ColumnType.parse "LowCardinality(Date)") oneDate =
          .ok { oneDate with parameters := [some p] } ∧
        p.sent (ColumnType.parse "LowCardinality(Date)") = .ok v ∧
        v = .date World.beginning.date) ∧
    ∃ p, (bindRow ["d"] oneDate.types ["d"] [("d", .text "2024-05-06")] oneDate
      (World.still .empty)).state.parameters[0]? = some (some p) ∧ p.Present := by
  refine ⟨⟨by decide, rfl, by decide, ?_⟩, ?_⟩
  · obtain ⟨p, v, hbind, hsent, hdefault, -⟩ := defaults_and_values.1 "LowCardinality(Date)"
      World.beginning oneDate 0 (by decide) rfl (by decide) rfl
    have hdense : (ColumnType.parse "LowCardinality(Date)").dense = .plain .date "Date" := by
      decide +kernel
    exact ⟨p, v, hbind, hsent, hdefault.eq_of_plain hdense⟩
  · have hok : (bindRow ["d"] oneDate.types ["d"] [("d", .text "2024-05-06")] oneDate
        (World.still .empty)).result.isOk = true := by decide +kernel
    obtain ⟨p, hp, hpresent, -⟩ | ⟨⟨e, he⟩, -⟩ := defaults_and_values.2 ["d"] oneDate.types ["d"]
      [("d", .text "2024-05-06")] oneDate (World.still .empty) 0 "d" _ (.text "2024-05-06")
      rfl rfl (by decide) rfl nofun
    · exact ⟨p, hp, hpresent⟩
    · rw [he] at hok
      cases hok

end Statement
end TableLoader
