/-
# Statements under any calls

A statement may be called in any order, with any indices and any cells, and the
client may answer an insertion as it likes. A call that fails need not be the
last one: its caller may go on with the statement that it left. So the rules for
one call say both what it does (`Takes`) and why it fails (`Refused`), and each
call does one of the two (`refused_or_takes`).

Over any calls (`Reached`), the rows that were delivered and the rows that wait
in the batch are together those that were accepted, in their order; a call that
fails changes nothing; and a closed statement is empty, and stays so
(`Reached.lawful`).

Key definitions: `Call`, `Refused`, `Takes`, `Reached`, `PastCall.accepted`,
`Lawful`.
Key theorems: `refused_or_takes`, `Reached.conserved`, `Reached.lawful`.
-/
import TableLoader.Proofs.DeliveryRun
import TableLoader.Proofs.RowTuple

namespace TableLoader

namespace Statement

/-- A call of a statement. -/
inductive Call where
  /-- a cell is converted and bound -/
  | set (k : Conversion) (index : Int) (value : Cell)
  /-- the missing value is bound -/
  | setNull (type : SqlType) (index : Int)
  /-- the row of the bound parameters is put into the batch -/
  | addRow
  /-- the batch is sent -/
  | send
  | close

namespace Call

/-- What the call does. -/
def act : Call → Act Statement Unit
  | set k index value => Act.update (Statement.set k index value)
  | setNull type index => Act.update (Statement.setNull type index)
  | addRow => Act.update Statement.addRow
  | send => do
    let _ ← Statement.send
    return ()
  | close => closing

/-- The index and the parameter of a call that binds one. -/
def binding? : Call → Option (Int × Except Error Parameter)
  | set k index value => some (index, k.apply value)
  | setNull type index => some (index, .ok ⟨type, .null⟩)
  | _ => none

/-- The error of a call that binds a cell which cannot be converted. -/
def fault? (c : Call) : Option Error :=
  match c.binding? with
  | some (_, .error e) => some e
  | _ => none

end Call

/-! ### One call -/

/-- Why a call fails, with the events that it has caused. -/
inductive Refused (s : Statement) (w : World) : Call → Error → List Event → Prop where
  /-- the cell cannot be converted -/
  | unconvertible {c e} : c.fault? = some e → Refused s w c e []
  /-- there is no such parameter -/
  | outOfRange {c} {i : Int} {p : Parameter} : c.binding? = some (i, .ok p) → s.closed = false →
      ¬ (0 ≤ i ∧ i < s.parameters.length) → Refused s w c (.showing (.int i) (.badIndex i)) []
  /-- the row has no value for some parameter -/
  | incomplete : s.closed = false → s.unboundIndices ≠ [] →
      Refused s w .addRow (.unbound s.unboundIndices) []
  /-- a text of the row is no date or time -/
  | unreadable {e} : s.closed = false → s.unboundIndices = [] → s.row = .error e →
      Refused s w .addRow e []
  /-- the client fails -/
  | undelivered {e} : s.closed = false → w.nextInsert.1 = some e →
      Refused s w .send e [s.attempt (some e)]
  /-- the statement is closed -/
  | closed {c} : s.closed = true → c ≠ .close → c.fault? = none → Refused s w c .closedStatement []

/-- What a call that does not fail makes of the statement, with the events that it causes. -/
inductive Takes (s : Statement) (w : World) : Call → Statement → List Event → Prop where
  | bound {c} {i : Int} {p : Parameter} : c.binding? = some (i, .ok p) → s.closed = false →
      0 ≤ i ∧ i < s.parameters.length →
      Takes s w c { s with parameters := s.parameters.set i.toNat (some p) } []
  | added {row} : s.closed = false → s.unboundIndices = [] → s.row = .ok row →
      Takes s w .addRow { s with
        batch := s.batch.push row
        parameters := List.replicate s.parameters.length none } []
  | delivered : s.closed = false → w.nextInsert.1 = none →
      Takes s w .send { s with batch := #[] } [s.attempt none]
  | closed : Takes s w .close s.close []

section Call

variable {s s' : Statement} {w : World} {c : Call} {e : Error} {es : List Event}

/-- A parameter is bound at its index, or refused. -/
theorem act_of_binding {i : Int} {x : Except Error Parameter} (h : c.binding? = some (i, x)) :
    c.act = Act.update (fun s => do s.bind i (← x)) := by
  cases c with
  | set k index value =>
    obtain ⟨rfl, rfl⟩ := Prod.mk.inj (Option.some.inj h)
    rfl
  | setNull type index =>
    obtain ⟨rfl, rfl⟩ := Prod.mk.inj (Option.some.inj h)
    rfl
  | addRow | send | close => cases h

/-- A cell that cannot be converted is not bound. -/
theorem act_of_fault (h : c.fault? = some e) (s : Statement) (w : World) :
    c.act s w = ⟨.error e, s, w, []⟩ := by
  unfold Call.fault? at h
  split at h
  · next i e' hbind =>
    obtain rfl := Option.some.inj h
    have hfail : (do s.bind i (← (.error e' : Except Error Parameter))) = .error e' := rfl
    rw [act_of_binding hbind]
    exact Act.update_error hfail w
  · cases h

/-- A closed statement refuses every call that asks for nothing else that is wrong. -/
theorem act_refused (hclosed : s.closed = true) (hc : c ≠ .close)
    (hfault : c.fault? = none) (w : World) : c.act s w = ⟨.error .closedStatement, s, w, []⟩ := by
  have hbind : ∀ i p, s.bind i p = .error .closedStatement := fun i p => if_pos hclosed
  cases c with
  | set k index value =>
    cases hk : k.apply value with
    | error e => simp [Call.fault?, Call.binding?, hk] at hfault
    | ok p =>
      have hset : s.set k index value = .error .closedStatement := by
        rw [set, hk]
        exact hbind index p
      exact Act.update_error hset w
  | setNull type index => exact Act.update_error (hbind index _) w
  | addRow =>
    have hadd : s.addRow = .error .closedStatement := if_pos hclosed
    exact Act.update_error hadd w
  | send =>
    have hsend : send s w = ⟨.error .closedStatement, s, w, []⟩ := if_pos hclosed
    exact Act.bind_error hsend
  | close => exact absurd rfl hc

/-- What is sent meets the next answer of the client. -/
theorem send_open (hopen : s.closed = false) (w : World) :
    send s w = match w.nextInsert.1 with
      | some e => ⟨.error e, s, w.nextInsert.2, [s.attempt (some e)]⟩
      | none => ⟨.ok s.batch.size, { s with batch := #[] }, w.nextInsert.2, [s.attempt none]⟩ := by
  simp only [send, hopen, Bool.false_eq_true, ↓reduceIte]
  cases w.nextInsert.1 <;> rfl

/-- A call with a reason to fail fails, and changes nothing. -/
theorem Refused.act (h : Refused s w c e es) : ∃ w', c.act s w = ⟨.error e, s, w', es⟩ := by
  cases h with
  | unconvertible hfault => exact ⟨w, act_of_fault hfault s w⟩
  | @outOfRange _ i p hbind hopen hrange =>
    have hfail : s.bind i p = .error (.showing (.int i) (.badIndex i)) := by
      simp only [bind, hopen, Bool.false_eq_true, ↓reduceIte, if_neg hrange]
    rw [act_of_binding hbind]
    exact ⟨w, Act.update_error hfail w⟩
  | incomplete hopen hunbound =>
    have hfail : s.addRow = .error (.unbound s.unboundIndices) := by
      simp only [addRow, hopen, Bool.false_eq_true, ↓reduceIte, if_pos hunbound]
    exact ⟨w, Act.update_error hfail w⟩
  | unreadable hopen hbound hrow =>
    have hfail : s.addRow = .error e := by
      simp only [addRow, hopen, hbound, hrow, Bool.false_eq_true, ↓reduceIte, ne_eq,
        not_true_eq_false]
      rfl
    exact ⟨w, Act.update_error hfail w⟩
  | undelivered hopen hanswer =>
    have hsend : send s w = ⟨.error e, s, w.nextInsert.2, [s.attempt (some e)]⟩ := by
      rw [send_open hopen, hanswer]
    exact ⟨_, Act.bind_error hsend⟩
  | closed hclosed hc hfault => exact ⟨w, act_refused hclosed hc hfault w⟩

/-- A call without one succeeds. -/
theorem Takes.act (h : Takes s w c s' es) : ∃ w', c.act s w = ⟨.ok (), s', w', es⟩ := by
  cases h with
  | @bound _ i p hbind hopen hrange =>
    have hok : s.bind i p = .ok { s with parameters := s.parameters.set i.toNat (some p) } := by
      simp only [bind, hopen, Bool.false_eq_true, ↓reduceIte, if_pos hrange]
    rw [act_of_binding hbind]
    exact ⟨w, Act.update_ok hok w⟩
  | @added row hopen hbound hrow =>
    have hok : s.addRow = .ok { s with
        batch := s.batch.push row
        parameters := List.replicate s.parameters.length none } := by
      simp only [addRow, hopen, hbound, hrow, Bool.false_eq_true, ↓reduceIte, ne_eq,
        not_true_eq_false]
      rfl
    exact ⟨w, Act.update_ok hok w⟩
  | delivered hopen hanswer =>
    have hsend : send s w =
        ⟨.ok s.batch.size, { s with batch := #[] }, w.nextInsert.2, [s.attempt none]⟩ := by
      rw [send_open hopen, hanswer]
    exact ⟨_, Act.bind_ok hsend⟩
  | closed => exact ⟨w, rfl⟩

/-- Every call has a reason to fail, or does something. -/
theorem refused_or_takes (s : Statement) (w : World) (c : Call) :
    (∃ e es, Refused s w c e es) ∨ ∃ s' es, Takes s w c s' es := by
  by_cases hclose : c = .close
  · subst hclose
    exact .inr ⟨_, _, .closed⟩
  cases hfault : c.fault? with
  | some e => exact .inl ⟨_, _, .unconvertible hfault⟩
  | none =>
    cases hclosed : s.closed with
    | true => exact .inl ⟨_, _, .closed hclosed hclose hfault⟩
    | false =>
      cases hbind : c.binding? with
      | some binding =>
        obtain ⟨i, x⟩ := binding
        cases x with
        | error e => simp [Call.fault?, hbind] at hfault
        | ok p =>
          by_cases hrange : 0 ≤ i ∧ i < s.parameters.length
          · exact .inr ⟨_, _, .bound hbind hclosed hrange⟩
          · exact .inl ⟨_, _, .outOfRange hbind hclosed hrange⟩
      | none =>
        cases c with
        | set | setNull => cases hbind
        | close => exact absurd rfl hclose
        | addRow =>
          by_cases hunbound : s.unboundIndices = []
          · cases hrow : s.row with
            | error e => exact .inl ⟨_, _, .unreadable hclosed hunbound hrow⟩
            | ok row => exact .inr ⟨_, _, .added hclosed hunbound hrow⟩
          · exact .inl ⟨_, _, .incomplete hclosed hunbound⟩
        | send =>
          cases hanswer : w.nextInsert.1 with
          | some e => exact .inl ⟨_, _, .undelivered hclosed hanswer⟩
          | none => exact .inr ⟨_, _, .delivered hclosed hanswer⟩

/-- A call fails exactly for these reasons. -/
theorem act_error_iff : (c.act s w).result = .error e ↔ ∃ es, Refused s w c e es := by
  constructor
  · intro hfail
    rcases refused_or_takes s w c with ⟨e', es, h⟩ | ⟨s', es, h⟩
    · obtain ⟨w', hrun⟩ := h.act
      rw [hrun] at hfail
      exact ⟨es, Except.error.inj hfail ▸ h⟩
    · obtain ⟨w', hrun⟩ := h.act
      rw [hrun] at hfail
      cases hfail
  · rintro ⟨es, h⟩
    obtain ⟨w', hrun⟩ := h.act
    rw [hrun]

/-- A call that fails leaves the statement as it is. -/
theorem act_error_state (h : (c.act s w).result = .error e) : (c.act s w).state = s := by
  obtain ⟨es, hrefused⟩ := act_error_iff.mp h
  obtain ⟨w', hrun⟩ := hrefused.act
  rw [hrun]

/-- Only a sending causes an event, and it sends the whole batch. -/
theorem act_events (s : Statement) (w : World) (c : Call) :
    (c.act s w).events = [] ∨
      c = .send ∧ s.closed = false ∧ (c.act s w).events = [s.attempt w.nextInsert.1] := by
  rcases refused_or_takes s w c with ⟨e, es, h⟩ | ⟨s', es, h⟩
  · obtain ⟨w', hrun⟩ := h.act
    rw [hrun]
    cases h with
    | undelivered hopen hanswer => exact .inr ⟨rfl, hopen, by rw [hanswer]⟩
    | unconvertible | outOfRange | incomplete | unreadable | closed => exact .inl rfl
  · obtain ⟨w', hrun⟩ := h.act
    rw [hrun]
    cases h with
    | delivered hopen hanswer => exact .inr ⟨rfl, hopen, by rw [hanswer]⟩
    | bound | added | closed => exact .inl rfl

end Call

/-! ### Any calls -/

/-- A call that was made: the statement before it, and what it left behind. -/
structure PastCall where
  call : Call
  before : Statement
  ran : Ran Statement Unit

/-- The row that the call has put into the batch, if it did that. -/
def PastCall.accepted (p : PastCall) : List (List Cell) :=
  match p.call, p.ran.result, p.before.row with
  | .addRow, .ok (), .ok row => [row]
  | _, _, _ => []

/-- The rows that calls have put into the batch, in their order. -/
def acceptedRows (past : List PastCall) : List (List Cell) := past.flatMap PastCall.accepted

/-- The events of calls, in their order. -/
def pastEvents (past : List PastCall) : List Event := past.flatMap (·.ran.events)

/-- A statement that comes of calls, each in some world, with these calls. -/
inductive Reached (insert : Insert) (types : List ColumnType) : Statement → List PastCall → Prop where
  | new {s} : open? insert types = .ok s → Reached insert types s []
  | call {s past} (c : Call) (w : World) : Reached insert types s past →
      Reached insert types (c.act s w).state (past ++ [⟨c, s, c.act s w⟩])

/-- A statement for an insertion, with as many parameters as it has placeholders, and as many
cells in each row of the batch. -/
structure Sized (insert : Insert) (s : Statement) : Prop where
  insertion : s.insert = insert
  types : s.types.length = insert.placeholders
  parameters : s.parameters.length = insert.placeholders
  rows : ∀ row ∈ s.batch, row.length = insert.placeholders

/-- A closed statement has no rows, and nothing is bound. -/
def EmptyIfClosed (s : Statement) : Prop :=
  s.closed = true → s.batch = #[] ∧ ∀ p ∈ s.parameters, p = none

/-- The row of bound parameters has a cell for each of them. -/
theorem length_row {s : Statement} {row : List Cell} (hbound : s.unboundIndices = [])
    (htypes : s.types.length = s.parameters.length) (h : s.row = .ok row) :
    row.length = s.parameters.length := by
  have hsome : ∀ p ∈ s.parameters, (id p).isSome := by
    intro p hp
    obtain ⟨i, hi⟩ := List.getElem?_of_mem hp
    have hmem : (p, i) ∈ s.parameters.zipIdx := List.mk_mem_zipIdx_iff_getElem?.mpr hi
    simp only [unboundIndices, List.map_eq_nil_iff, List.filter_eq_nil_iff] at hbound
    have hnot := hbound _ hmem
    cases p with
    | none => simp at hnot
    | some p => rfl
  have hcells : row.length = (s.types.zip (s.parameters.filterMap id)).length :=
    (mapM_eq_ok_iff.mp h).length_eq.symm
  have hall : (s.parameters.filterMap id).length = s.parameters.length :=
    List.filterMap_length_eq_length.mpr hsome
  rw [hcells, List.length_zip, hall, htypes, Nat.min_self]

section Step

variable {insert : Insert} {s s' : Statement} {w : World} {c : Call} {es : List Event}

theorem Takes.sized (h : Takes s w c s' es) (hs : Sized insert s) : Sized insert s' := by
  cases h with
  | bound =>
    exact ⟨hs.insertion, hs.types, by rw [List.length_set, hs.parameters], hs.rows⟩
  | @added row hopen hbound hrow =>
    have hlength : row.length = insert.placeholders := by
      rw [length_row hbound (hs.types.trans hs.parameters.symm) hrow, hs.parameters]
    refine ⟨hs.insertion, hs.types, by rw [List.length_replicate, hs.parameters], fun r hr => ?_⟩
    rcases Array.mem_push.mp hr with hr | rfl
    · exact hs.rows r hr
    · exact hlength
  | delivered => exact ⟨hs.insertion, hs.types, hs.parameters, by simp⟩
  | closed =>
    have hslots : s.close.parameters.length = insert.placeholders := by
      rw [close, List.length_replicate, hs.parameters]
    exact ⟨hs.insertion, hs.types, hslots, by simp [close]⟩

theorem Takes.emptyIfClosed (h : Takes s w c s' es) : EmptyIfClosed s' := by
  cases h with
  | bound _ hopen | added hopen | delivered hopen =>
    intro hclosed
    exact absurd (hopen.symm.trans hclosed) Bool.false_ne_true
  | closed => exact fun _ => ⟨rfl, fun p hp => (List.mem_replicate.mp hp).2⟩

/-- To a closed statement nothing is done: closing it again changes nothing, and every other call
fails without an event. -/
theorem act_of_closed (hclosed : s.closed = true) (hempty : EmptyIfClosed s) (c : Call) (w : World) :
    (c.act s w).state = s ∧
      (c ≠ .close → (∃ e, (c.act s w).result = .error e) ∧ (c.act s w).events = []) := by
  obtain ⟨hbatch, hnone⟩ := hempty hclosed
  by_cases hc : c = .close
  · subst hc
    refine ⟨?_, fun h => absurd rfl h⟩
    have hsame : List.replicate s.parameters.length none = s.parameters :=
      (List.eq_replicate_of_mem hnone).symm
    show s.close = s
    rw [close, ← hbatch, hsame, ← hclosed]
  · have hfail : ∃ e, c.act s w = ⟨.error e, s, w, []⟩ := by
      cases hfault : c.fault? with
      | some e => exact ⟨e, act_of_fault hfault s w⟩
      | none => exact ⟨_, act_refused hclosed hc hfault w⟩
    obtain ⟨e, hrun⟩ := hfail
    rw [hrun]
    exact ⟨rfl, fun _ => ⟨⟨e, rfl⟩, rfl⟩⟩

/-- A call that leaves the statement open adds to the rows that were delivered and those that wait
what it adds to the rows that were accepted. -/
theorem act_conserves (c : Call) (s : Statement) (w : World)
    (hopen : (c.act s w).state.closed = false) :
    deliveredRows (c.act s w).events ++ (c.act s w).state.batch.toList =
      s.batch.toList ++ PastCall.accepted ⟨c, s, c.act s w⟩ := by
  rcases refused_or_takes s w c with ⟨e, es, h⟩ | ⟨s', es, h⟩
  · obtain ⟨w', hrun⟩ := h.act
    have hnone : deliveredRows es = [] := by cases h <;> rfl
    have haccepted : PastCall.accepted ⟨c, s, ⟨.error e, s, w', es⟩⟩ = [] := by
      cases c <;> rfl
    rw [hrun, haccepted, hnone, List.append_nil, List.nil_append]
  · obtain ⟨w', hrun⟩ := h.act
    rw [hrun] at hopen ⊢
    cases h with
    | bound hbind =>
      have haccepted : ∀ ran, PastCall.accepted ⟨c, s, ran⟩ = [] := by
        cases c with
        | set | setNull | send | close => exact fun _ => rfl
        | addRow => cases hbind
      rw [haccepted, List.append_nil]
      rfl
    | added _ _ hrow => simp [PastCall.accepted, hrow]
    | delivered => simp [PastCall.accepted, deliveredRows, attempt]
    | closed => exact absurd hopen.symm Bool.false_ne_true

end Step

section Reached

variable {insert : Insert} {types : List ColumnType} {s : Statement} {past : List PastCall}

theorem Reached.sized (h : Reached insert types s past) : Sized insert s := by
  induction h with
  | @new s hnew =>
    unfold open? at hnew
    split at hnew
    · next haligned =>
      obtain rfl := Except.ok.inj hnew
      exact ⟨rfl, haligned, List.length_replicate, by simp [fresh]⟩
    · cases hnew
  | @call s past c w _ ih =>
    rcases refused_or_takes s w c with ⟨e, es, h⟩ | ⟨s', es, h⟩
    · rwa [act_error_state (act_error_iff.mpr ⟨es, h⟩)]
    · obtain ⟨w', hrun⟩ := h.act
      rw [hrun]
      exact h.sized ih

theorem Reached.emptyIfClosed (h : Reached insert types s past) : EmptyIfClosed s := by
  induction h with
  | @new s hnew =>
    unfold open? at hnew
    split at hnew
    · obtain rfl := Except.ok.inj hnew
      exact fun hclosed => absurd hclosed Bool.false_ne_true
    · cases hnew
  | @call s past c w _ ih =>
    rcases refused_or_takes s w c with ⟨e, es, h⟩ | ⟨s', es, h⟩
    · rwa [act_error_state (act_error_iff.mpr ⟨es, h⟩)]
    · obtain ⟨w', hrun⟩ := h.act
      rw [hrun]
      exact h.emptyIfClosed

/-- As long as the statement is open, every row that was accepted was delivered or waits in the
batch, and there are no other rows. -/
theorem Reached.conserved (h : Reached insert types s past) : s.closed = false →
    deliveredRows (pastEvents past) ++ s.batch.toList = acceptedRows past := by
  induction h with
  | @new s hnew =>
    intro _
    unfold open? at hnew
    split at hnew
    · obtain rfl := Except.ok.inj hnew
      rfl
    · cases hnew
  | @call s past c w hreached ih =>
    intro hopen
    -- a statement that is open now was open before the call
    have hbefore : s.closed = false := by
      cases hclosed : s.closed with
      | false => rfl
      | true =>
        have hsame := (act_of_closed hclosed hreached.emptyIfClosed c w).1
        rw [hsame] at hopen
        exact hclosed.symm.trans hopen
    have hstep := act_conserves c s w hopen
    have hpast := ih hbefore
    calc deliveredRows (pastEvents (past ++ [⟨c, s, c.act s w⟩])) ++ (c.act s w).state.batch.toList
        = deliveredRows (pastEvents past) ++
            (deliveredRows (c.act s w).events ++ (c.act s w).state.batch.toList) := by
          simp [pastEvents]
      _ = deliveredRows (pastEvents past) ++ s.batch.toList ++
            PastCall.accepted ⟨c, s, c.act s w⟩ := by rw [hstep, List.append_assoc]
      _ = acceptedRows (past ++ [⟨c, s, c.act s w⟩]) := by
          rw [hpast]
          simp [acceptedRows]

end Reached

/-- What holds of a statement for an insertion after these calls, and of every further call. -/
structure Lawful (insert : Insert) (s : Statement) (past : List PastCall) : Prop where
  slots : s.parameters.length = insert.placeholders
  rows : ∀ row ∈ s.batch, row.length = insert.placeholders
  fails_iff : ∀ (c : Call) w e, (c.act s w).result = .error e ↔ ∃ es, Refused s w c e es
  /-- a call that fails changes nothing -/
  unchanged : ∀ (c : Call) w e, (c.act s w).result = .error e → (c.act s w).state = s
  /-- once closed, it stays closed and empty -/
  emptied : s.closed = true → s.batch = #[] ∧ ∀ p ∈ s.parameters, p = none
  stays : s.closed = true → ∀ (c : Call) w, (c.act s w).state = s
  refuses : s.closed = true → ∀ (c : Call) w, c ≠ .close →
    (∃ e, (c.act s w).result = .error e) ∧ (c.act s w).events = []
  conserved : s.closed = false →
    deliveredRows (pastEvents past) ++ s.batch.toList = acceptedRows past
  /-- only a sending is seen by the client, and it sends the whole batch -/
  attempts : ∀ (c : Call) w, (c.act s w).events = [] ∨
    c = .send ∧ s.closed = false ∧
      (c.act s w).events = [.insert insert.head s.batch.toList true w.nextInsert.1]

/-- The laws hold of a new statement and after any calls. -/
theorem Reached.lawful {insert : Insert} {types : List ColumnType} {s : Statement}
    {past : List PastCall} (h : Reached insert types s past) : Lawful insert s past where
  slots := h.sized.parameters
  rows := h.sized.rows
  fails_iff := fun _ _ _ => act_error_iff
  unchanged := fun _ _ _ hfail => act_error_state hfail
  emptied := h.emptyIfClosed
  stays := fun hclosed c w => (act_of_closed hclosed h.emptyIfClosed c w).1
  refuses := fun hclosed c w => (act_of_closed hclosed h.emptyIfClosed c w).2
  conserved := h.conserved
  attempts := fun c w => by
    rw [← h.sized.insertion]
    exact act_events s w c

/-- A row that is sent twice, as the client fails at first, is delivered once. -/
theorem smallStatement_lawful : ∃ s past, Lawful ⟨"t", ["n"]⟩ s past ∧ s.closed = false ∧
    past.map (·.call) = [.set .long 0 (.int 1), .addRow, .send, .send] ∧
    deliveredRows (pastEvents past) = [[.int 1]] := by
  have hnew : Reached ⟨"t", ["n"]⟩ [.plain .int64 "Int64"] _ [] := .new rfl
  have hset := hnew.call (.set .long 0 (.int 1)) (World.still .empty)
  have hadded := hset.call .addRow (World.still .empty)
  have hfailed := hadded.call .send
    { World.still .empty with inserts := [some (.plain .system "broken" .null)] }
  have hsent := hfailed.call .send (World.still .empty)
  exact ⟨_, _, Reached.lawful hsent, rfl, rfl, rfl⟩

end Statement
end TableLoader
