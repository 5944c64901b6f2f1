/-
# The tuple of a row

Binding a row and putting it into the batch is one function of the row: each
field gets its parameter from the column of its name (`fieldParameter`), and the
parameters, converted by the types of their columns, make the tuple
(`PartitionPlan.tuple`). Into a statement that holds a batch, with nothing
bound, a row goes as its tuple at the end of the batch, or not at all
(`takeRow_run`). So what comes of a row does not hang on the rows before it, and
is seen on a fresh statement (`Renders`, `Refuses`).

Key definitions: `fieldParameter`, `rowParameters`, `PartitionPlan.tuple`,
`PartitionPlan.holding`, `PartitionPlan.Renders`, `PartitionPlan.Refuses`.
Key theorems: `bindFields_run`, `takeRow_run`.
-/
import Mathlib.Data.List.Forall2
import TableLoader.PartitionLoad
import TableLoader.Proofs.Running

namespace TableLoader

open Calendar

/-- A list is converted item by item, and not at all if some item cannot be converted. -/
theorem mapM_eq_ok_iff {ε α β : Type} {f : α → Except ε β} : ∀ {l : List α} {l' : List β},
    l.mapM f = .ok l' ↔ List.Forall₂ (fun a b => f a = .ok b) l l'
  | [], l' => by
    rw [List.forall₂_nil_left_iff, List.mapM_nil]
    constructor
    · intro h
      exact (Except.ok.inj h).symm
    · rintro rfl
      rfl
  | a :: l, l' => by
    rw [List.mapM_cons, List.forall₂_cons_left_iff]
    cases ha : f a with
    | error e => simp [bind, Except.bind]
    | ok b =>
      cases hl : l.mapM f with
      | error e =>
        have hno : ∀ bs, ¬ List.Forall₂ (fun a b => f a = .ok b) l bs := fun bs hbs => by
          rw [mapM_eq_ok_iff.mpr hbs] at hl
          cases hl
        simp [hno, bind, Except.bind]
      | ok bs =>
        have hbs : ∀ cs, List.Forall₂ (fun a b => f a = .ok b) l cs ↔ bs = cs := fun cs => by
          rw [← mapM_eq_ok_iff, hl, Except.ok.injEq]
        simp [hbs, bind, Except.bind, pure, Except.pure, eq_comm]

/-- A list whose items can all be converted is converted. -/
theorem exists_mapM_eq_ok {ε α β : Type} {f : α → Except ε β} : ∀ {l : List α},
    (∀ a ∈ l, ∃ b, f a = .ok b) → ∃ l', l.mapM f = .ok l'
  | [], _ => ⟨[], rfl⟩
  | a :: l, h => by
    obtain ⟨b, hb⟩ := h a List.mem_cons_self
    obtain ⟨bs, hbs⟩ := exists_mapM_eq_ok fun a' ha' => h a' (List.mem_cons_of_mem a ha')
    exact ⟨b :: bs, mapM_eq_ok_iff.mpr (.cons hb (mapM_eq_ok_iff.mp hbs))⟩

/-- A list is not converted because of its first item that cannot be converted. -/
theorem mapM_eq_error_iff {ε α β : Type} {f : α → Except ε β} {e : ε} : ∀ {l : List α},
    l.mapM f = .error e ↔ ∃ before a after, l = before ++ a :: after ∧
      (∀ x ∈ before, ∃ b, f x = .ok b) ∧ f a = .error e
  | [] => by
    refine iff_of_false (fun h => nomatch h) ?_
    rintro ⟨before, a, after, hl, -⟩
    cases before <;> cases hl
  | a :: l => by
    rw [List.mapM_cons]
    cases ha : f a with
    | error e' =>
      constructor
      · intro h
        rw [← Except.error.inj h]
        exact ⟨[], a, l, rfl, by simp, ha⟩
      · rintro ⟨before, a', after, hl, hbefore, herror⟩
        cases before with
        | nil =>
          obtain rfl := (List.cons.inj hl).1
          rw [← Except.error.inj (ha.symm.trans herror)]
          rfl
        | cons x before =>
          obtain rfl := (List.cons.inj hl).1
          obtain ⟨b, hb⟩ := hbefore a List.mem_cons_self
          cases ha.symm.trans hb
    | ok b =>
      have hrest : ((do return b :: (← l.mapM f)) : Except ε (List β)) = .error e ↔
          l.mapM f = .error e := by
        cases l.mapM f <;> simp [bind, Except.bind, pure, Except.pure]
      refine hrest.trans (mapM_eq_error_iff.trans ?_)
      constructor
      · rintro ⟨before, a', after, rfl, hbefore, herror⟩
        exact ⟨a :: before, a', after, rfl, List.forall_mem_cons.mpr ⟨⟨b, ha⟩, hbefore⟩, herror⟩
      · rintro ⟨before, a', after, hl, hbefore, herror⟩
        cases before with
        | nil =>
          obtain rfl := (List.cons.inj hl).1
          cases ha.symm.trans herror
        | cons x before =>
          exact ⟨before, a', after, (List.cons.inj hl).2, (List.forall_mem_cons.mp hbefore).2,
            herror⟩

/-- The parameter of a field, from the row's column of the same name or from the default of
its type. -/
def fieldParameter (now : DateTime) (input : List String) (r : Row) (field : String)
    (t : ColumnType) : Except Error Parameter :=
  if field ∉ input then .ok (t.defaultParameter now)
  else
    match r.get? field with
    | none => .error (.fault .noColumn)
    | some c => if c.isNull then .ok (t.defaultParameter now) else t.parameter c

/-- The parameters of a row, or the error of the first field that has none. -/
def rowParameters (now : DateTime) (input : List String) (r : Row)
    (columns : List (String × ColumnType)) : Except Error (List Parameter) :=
  columns.mapM fun c => fieldParameter now input r c.1 c.2

theorem rowParameters_cons (now : DateTime) (input : List String) (r : Row) (field : String)
    (t : ColumnType) (rest : List (String × ColumnType)) :
    rowParameters now input r ((field, t) :: rest) =
      (do return (← fieldParameter now input r field t) :: (← rowParameters now input r rest)) :=
  List.mapM_cons

/-- Each column has its parameter. -/
theorem length_rowParameters {now : DateTime} {input : List String} {r : Row}
    {columns : List (String × ColumnType)} {ps : List Parameter}
    (h : rowParameters now input r columns = .ok ps) : ps.length = columns.length :=
  (mapM_eq_ok_iff.mp h).length_eq.symm

namespace Statement

/-- Binding a field is binding its parameter. -/
theorem bindField_eq (now : DateTime) (input : List String) (r : Row) (i : Nat) (field : String)
    (t : ColumnType) (s : Statement) :
    bindField now input r i field t s =
      (do s.bind i (← fieldParameter now input r field t)) := by
  unfold bindField fieldParameter bindDefault bindValue
  split
  · rfl
  · cases r.get? field with
    | none => rfl
    | some c =>
      dsimp only
      split <;> rfl

/-- What is bound at an index is found there, and all else is as before. -/
theorem bind_eq_ok {s s' : Statement} {i : Nat} {p : Parameter} (h : s.bind i p = .ok s') :
    i < s.parameters.length ∧ s' = { s with parameters := s.parameters.set i (some p) } := by
  unfold bind at h
  split at h
  · cases h
  · split at h
    · next hrange => exact ⟨by omega, (Except.ok.inj h).symm⟩
    · cases h

/-- A row goes into the batch of an open statement with all parameters bound. -/
theorem addRow_eq_ok {s s' : Statement} (h : s.addRow = .ok s') :
    s.closed = false ∧ s.unboundIndices = [] ∧ ∃ row, s.row = .ok row ∧ s' = { s with
      batch := s.batch.push row
      parameters := List.replicate s.parameters.length none } := by
  unfold addRow at h
  split at h
  · cases h
  · next hopen =>
    split at h
    · cases h
    · next hbound =>
      cases hrow : s.row with
      | error e =>
        rw [hrow] at h
        cases h
      | ok row =>
        rw [hrow] at h
        exact ⟨Bool.eq_false_iff.mpr hopen, not_not.mp hbound, row, rfl,
          (Except.ok.inj h).symm⟩

/-- With the first parameters bound, the next one is bound at the place behind them. -/
theorem bind_next {s : Statement} {done : List Parameter} {n : Nat} (hopen : s.closed = false)
    (hp : s.parameters = done.map some ++ List.replicate (n + 1) none) (p : Parameter) :
    s.bind done.length p =
      .ok { s with parameters := (done ++ [p]).map some ++ List.replicate n none } := by
  have hlen : s.parameters.length = done.length + (n + 1) := by simp [hp]
  have hset : s.parameters.set done.length (some p) =
      (done ++ [p]).map some ++ List.replicate n none := by
    simp [hp, List.replicate_succ]
  simp only [bind, hopen, Bool.false_eq_true, ↓reduceIte, hlen, Int.toNat_natCast, hset]
  rw [if_pos (by omega)]

/-- Fields are bound from left to right, up to the first one that has no parameter. -/
theorem bindFields_run (now : DateTime) (input : List String) (r : Row) :
    ∀ (cols : List (String × ColumnType)) (done : List Parameter) {s : Statement},
    s.closed = false → s.parameters = done.map some ++ List.replicate cols.length none → ∀ w,
    ∃ s', bindFields now input r done.length cols s w =
        ⟨(rowParameters now input r cols).map fun _ => (), s', w, []⟩ ∧
      ∀ ps, rowParameters now input r cols = .ok ps →
        s' = { s with parameters := (done ++ ps).map some }
  | [], done, s, _, hp, w => by
    refine ⟨s, rfl, fun ps hps => ?_⟩
    obtain rfl : [] = ps := by simpa [rowParameters, pure, Except.pure] using hps
    simp only [List.append_nil, List.length_nil, List.replicate_zero] at hp ⊢
    rw [← hp]
  | (field, t) :: rest, done, s, hopen, hp, w => by
    rw [rowParameters_cons, bindFields]
    cases hf : fieldParameter now input r field t with
    | error e =>
      have hfield : bindField now input r done.length field t s = .error e := by
        rw [bindField_eq, hf]
        rfl
      exact ⟨s, Act.bind_error (Act.update_error hfield w), fun ps hps => by cases hps⟩
    | ok p =>
      have hfield : bindField now input r done.length field t s = .ok { s with
          parameters := (done ++ [p]).map some ++ List.replicate rest.length none } := by
        rw [bindField_eq, hf]
        exact bind_next hopen hp p
      obtain ⟨s', hrun, hs'⟩ := bindFields_run now input r rest (done ++ [p]) (s := { s with
        parameters := (done ++ [p]).map some ++ List.replicate rest.length none }) hopen rfl w
      rw [List.length_append, List.length_singleton] at hrun
      rw [Act.bind_ok (Act.update_ok hfield w), hrun]
      cases hr : rowParameters now input r rest with
      | error e => exact ⟨s', rfl, fun ps hps => by cases hps⟩
      | ok qs =>
        refine ⟨s', rfl, fun ps hps => ?_⟩
        obtain rfl : p :: qs = ps := by
          exact Except.ok.inj hps
        simpa using hs' qs hr

end Statement

namespace PartitionPlan

variable (plan : PartitionPlan)

/-- The tuple that is sent for parameters. -/
def convert (ps : List Parameter) : Except Error (List Cell) :=
  (plan.types.zip ps).mapM fun x => x.2.sent x.1

/-- The tuple that is sent for a row. -/
def tuple (now : DateTime) (r : Row) : Except Error (List Cell) := do
  plan.convert (← rowParameters now plan.inputFields r (plan.insert.fields.zip plan.types))

/-- The statement of the plan with a batch and nothing bound. -/
def holding (batch : List (List Cell)) : Statement where
  insert := plan.insert
  types := plan.types
  parameters := List.replicate plan.insert.placeholders none
  batch := batch.toArray
  closed := false

/-- The statement of the plan with a batch and all parameters bound. -/
def bound (batch : List (List Cell)) (ps : List Parameter) : Statement :=
  { plan.holding batch with parameters := ps.map some }

theorem statement_eq_holding : plan.statement = plan.holding [] := rfl

/-- There are as many columns as parameters. -/
theorem length_columns : (plan.insert.fields.zip plan.types).length = plan.insert.placeholders := by
  simp [List.length_zip, plan.types_aligned, Insert.placeholders]

/-- A statement whose parameters are all bound takes their row, if it can be converted. -/
theorem addRow_bound (batch : List (List Cell)) {ps : List Parameter}
    (hps : ps.length = plan.insert.placeholders) :
    (plan.bound batch ps).addRow =
      (plan.convert ps).map fun t => plan.holding (batch ++ [t]) := by
  have hunbound : (plan.bound batch ps).unboundIndices = [] := by
    simp only [Statement.unboundIndices, List.map_eq_nil_iff, List.filter_eq_nil_iff]
    intro p hp
    obtain ⟨q, -, hq⟩ := List.mem_map.mp (List.fst_mem_of_mem_zipIdx hp)
    simp [← hq]
  have hrow : (plan.bound batch ps).row = plan.convert ps := by
    simp [Statement.row, bound, holding, convert, List.filterMap_map]
  have hopen : (plan.bound batch ps).closed = false := rfl
  simp only [Statement.addRow, hopen, hunbound, hrow, Bool.false_eq_true, ↓reduceIte, ne_eq,
    not_true_eq_false]
  cases plan.convert ps with
  | error e => rfl
  | ok t => simp [bind, Except.bind, Except.map, bound, holding, hps]

/-- A row goes into the batch as its tuple, or is refused with its error. -/
theorem takeRow_run (r : Row) (batch : List (List Cell)) (w : World) :
    ∃ s', plan.takeRow r (plan.holding batch) w =
        ⟨(plan.tuple w.now r).map fun _ => (), s', w, []⟩ ∧
      ∀ t, plan.tuple w.now r = .ok t → s' = plan.holding (batch ++ [t]) := by
  obtain ⟨s', hrun, hs'⟩ := Statement.bindFields_run w.now plan.inputFields r
    (plan.insert.fields.zip plan.types) [] (s := plan.holding batch) rfl
    (by rw [length_columns]; rfl) w
  cases hps : rowParameters w.now plan.inputFields r (plan.insert.fields.zip plan.types) with
  | error e =>
    have htuple : plan.tuple w.now r = .error e := by rw [tuple, hps]; rfl
    rw [hps] at hrun
    have hbind : Statement.bindRow plan.insert.fields plan.types plan.inputFields r
        (plan.holding batch) w = ⟨.error e, s', w, []⟩ := hrun
    exact ⟨s', by rw [takeRow, Act.bind_error hbind, htuple]; rfl, fun t ht => by simp [htuple] at ht⟩
  | ok ps =>
    have htuple : plan.tuple w.now r = plan.convert ps := by rw [tuple, hps]; rfl
    obtain rfl : s' = plan.bound batch ps := hs' ps hps
    rw [hps] at hrun
    have hstep : plan.takeRow r (plan.holding batch) w =
        Act.update Statement.addRow (plan.bound batch ps) w := Act.bind_ok hrun
    have hadd := plan.addRow_bound batch ((length_rowParameters hps).trans plan.length_columns)
    rw [hstep, htuple]
    cases ht : plan.convert ps with
    | error e =>
      rw [ht] at hadd
      exact ⟨_, Act.update_error hadd w, fun t h => by cases h⟩
    | ok t =>
      rw [ht] at hadd
      exact ⟨_, Act.update_ok hadd w, fun t' h => by rw [Except.ok.inj h]⟩

/-- On a fresh statement the row is bound and put into the batch, as this tuple. -/
def Renders (w : World) (r : Row) (t : List Cell) : Prop :=
  (plan.takeRow r plan.statement w).result = .ok () ∧
    (plan.takeRow r plan.statement w).state.batch = #[t]

/-- On a fresh statement the row cannot be bound or put into the batch. -/
def Refuses (w : World) (r : Row) (e : Error) : Prop :=
  (plan.takeRow r plan.statement w).result = .error e

theorem renders_iff {w : World} {r : Row} {t : List Cell} :
    plan.Renders w r t ↔ plan.tuple w.now r = .ok t := by
  obtain ⟨s', hrun, hs'⟩ := plan.takeRow_run r [] w
  rw [Renders, statement_eq_holding, hrun]
  cases ht : plan.tuple w.now r with
  | error e => simp [Except.map]
  | ok t' =>
    rw [hs' t' ht]
    simp [Except.map, holding]

theorem refuses_iff {w : World} {r : Row} {e : Error} :
    plan.Refuses w r e ↔ plan.tuple w.now r = .error e := by
  obtain ⟨s', hrun, -⟩ := plan.takeRow_run r [] w
  rw [Refuses, statement_eq_holding, hrun]
  cases plan.tuple w.now r <;> simp [Except.map]

end PartitionPlan
end TableLoader
