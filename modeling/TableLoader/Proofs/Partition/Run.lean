/-
# The load of a partition, rule by rule

How the rows of a partition are taken, as a relation (`Taken`): a tuple goes to the
end of the batch, and a batch that is full is delivered before the next row is
looked at. A row ends the load if it has no tuple, or if the delivery of the batch
that it fills fails (`Stopped`). What is sent is a list of batches, each with the
outcomes of its attempts (`Shipment`). The load takes rows by these rules, and
delivers what is left when the rows end (`loadRows_run`). A load that ends before
that has looked at no row behind the one that ended it.

Key definitions: `Shipment`, `Taken`, `Stopped`, `Loads`.
Key theorems: `flush_run`, `loadRows_run`, `Taken.renders`, `loadPartition_run`.
-/
import Mathlib.Data.List.Forall2
import TableLoader.Proofs.DeliveryRun
import TableLoader.Proofs.Partition.Chunks
import TableLoader.Proofs.RowTuple

namespace TableLoader

/-- A batch that was sent, with the outcomes of its attempts. -/
structure Shipment where
  batch : List (List Cell)
  outcomes : List (Option Error)

/-- No attempt of the batch was a success. -/
def Shipment.isDropped (x : Shipment) : Bool := x.outcomes.all Option.isSome

/-- The outcomes of all attempts. -/
def allOutcomes (sent : List Shipment) : List (Option Error) := sent.flatMap (·.outcomes)

@[simp] theorem allOutcomes_nil : allOutcomes [] = [] := rfl

@[simp] theorem allOutcomes_cons (x : Shipment) (sent : List Shipment) :
    allOutcomes (x :: sent) = x.outcomes ++ allOutcomes sent := List.flatMap_cons

@[simp] theorem allOutcomes_append (xs ys : List Shipment) :
    allOutcomes (xs ++ ys) = allOutcomes xs ++ allOutcomes ys := List.flatMap_append

/-- Outcomes that are met one after the other are met together. -/
theorem consumed_cons {w : World} {batch : List (List Cell)} {outcomes : List (Option Error)}
    {sent : List Shipment} (h : outcomes = w.outcomes outcomes.length)
    (hsent : allOutcomes sent =
      (w.afterInserts outcomes.length).outcomes (allOutcomes sent).length) :
    allOutcomes (⟨batch, outcomes⟩ :: sent) =
      w.outcomes (allOutcomes (⟨batch, outcomes⟩ :: sent)).length := by
  rw [allOutcomes_cons, List.length_append, World.outcomes_add, ← h, ← hsent]

/-- The stats after further rows that were taken and batches that were sent. -/
def PartitionStats.after (stats : PartitionStats) (rows : Nat) (sent : List Shipment) :
    PartitionStats where
  rows := stats.rows + rows
  batches := stats.batches + sent.length
  dropped := stats.dropped + sent.countP Shipment.isDropped

@[simp] theorem PartitionStats.after_after (stats : PartitionStats) (m n : Nat)
    (xs ys : List Shipment) :
    (stats.after m xs).after n ys = stats.after (m + n) (xs ++ ys) := by
  simp [after, Nat.add_assoc]

namespace PartitionPlan

variable {σ : Type} (plan : PartitionPlan)

/-- A batch is delivered by the policy of the plan with these outcomes. -/
abbrev Delivers (outcomes : List (Option Error)) (r : Except Error Bool) : Prop :=
  Delivery plan.codes plan.policy.retries.toNat outcomes r

/-- The attempts of batches that were sent. -/
def attempts (sent : List Shipment) : List Event :=
  sent.flatMap fun x => x.outcomes.map (.insert plan.insert.head x.batch true)

@[simp] theorem attempts_nil : plan.attempts [] = [] := rfl

@[simp] theorem attempts_cons (x : Shipment) (sent : List Shipment) :
    plan.attempts (x :: sent) =
      x.outcomes.map (.insert plan.insert.head x.batch true) ++ plan.attempts sent :=
  List.flatMap_cons

@[simp] theorem attempts_append (xs ys : List Shipment) :
    plan.attempts (xs ++ ys) = plan.attempts xs ++ plan.attempts ys := List.flatMap_append

/-- A batch is delivered, and counted if that does not fail. -/
theorem flush_run (batch : List (List Cell)) (stats : PartitionStats) (s : σ) (w : World) :
    ∃ outcomes r es, plan.Delivers outcomes r ∧ outcomes = w.outcomes outcomes.length ∧
      plan.flush (plan.holding batch) stats s w =
        ⟨r.map fun _ => stats.after 0 [⟨batch, outcomes⟩], s, w.afterInserts outcomes.length, es⟩ ∧
      clientCalls es = plan.attempts [⟨batch, outcomes⟩] := by
  obtain ⟨outcomes, hd, hq, hw, hes⟩ := Statement.deliverWithin_run plan.codes
    plan.policy.retries.toNat (s := plan.holding batch) w rfl
  have hcalls : outcomes.map (plan.holding batch).attempt = plan.attempts [⟨batch, outcomes⟩] := by
    simp [Statement.attempt, holding]
  rw [hcalls] at hes
  unfold flush Statement.deliver
  rw [Act.log_bind]
  generalize hrun : Statement.deliverWithin plan.codes plan.policy.retries.toNat
    (plan.holding batch) w = run at hd hw hes
  obtain ⟨r, s', w', es⟩ := run
  obtain rfl : w' = w.afterInserts outcomes.length := hw
  cases r with
  | error e =>
    rw [Act.bind_error (Act.within_error s hrun)]
    exact ⟨outcomes, .error e, _, hd, hq, rfl, by simpa using hes⟩
  | ok delivered =>
    have hdropped : (if delivered then 0 else 1) =
        [(⟨batch, outcomes⟩ : Shipment)].countP Shipment.isDropped := by
      rw [hd.settled.2]
      cases h : outcomes.all Option.isSome <;> simp [Shipment.isDropped, h]
    rw [Act.bind_ok (Act.within_ok s hrun)]
    simp only [hdropped, Act.pure_apply, Ran.after_mk]
    exact ⟨outcomes, .ok delivered, _, hd, hq, rfl, by simpa using hes⟩

theorem flush_stateless (x : Statement) (stats : PartitionStats) :
    Act.Stateless (plan.flush x stats : Act σ PartitionStats) :=
  (Act.stateless_log _ _ _).bind fun _ =>
    (Act.stateless_within _ _).bind fun _ => Act.stateless_pure _

theorem loadRows_stateless : ∀ (rows : List Row) (x : Statement) (pending : Nat)
    (stats : PartitionStats), Act.Stateless (plan.loadRows rows x pending stats : Act σ PartitionStats)
  | [], x, _, stats => plan.flush_stateless x stats
  | r :: rest, x, pending, stats => by
    rw [loadRows]
    refine (Act.stateless_within _ _).bind fun taken => ?_
    dsimp only
    split
    · exact (plan.flush_stateless _ _).bind fun _ => loadRows_stateless rest _ _ _
    · exact loadRows_stateless rest _ _ _

theorem loadPartition_stateless (rows : List Row) :
    Act.Stateless (plan.loadPartition rows : Act σ PartitionStats) :=
  (stateless_withConnection _ (plan.loadRows_stateless rows _ _ _)).bind fun _ =>
    (Act.stateless_log _ _ _).bind fun _ => Act.stateless_pure _

/-! ### The rules -/

/-- Rows that were taken, with a batch already there: the batches that were sent, and the batch
that is left. A batch is sent when it is full. -/
inductive Taken (now : Calendar.DateTime) :
    List Row → List (List Cell) → List Shipment → List (List Cell) → Prop where
  | done {batch} : Taken now [] batch [] batch
  | kept {r rest batch t sent left} : plan.tuple now r = .ok t →
      batch.length + 1 < plan.bulkSize → Taken now rest (batch ++ [t]) sent left →
      Taken now (r :: rest) batch sent left
  | sent {r rest batch t outcomes delivered sent left} : plan.tuple now r = .ok t →
      batch.length + 1 = plan.bulkSize → plan.Delivers outcomes (.ok delivered) →
      Taken now rest [] sent left →
      Taken now (r :: rest) batch (⟨batch ++ [t], outcomes⟩ :: sent) left

/-- A row that ends the load with an error, and what was sent for it: the row has no tuple, or
its tuple fills the batch, and the delivery of that fails. -/
inductive Stopped (now : Calendar.DateTime) (r : Row) (batch : List (List Cell)) :
    List Shipment → Error → Prop where
  | refused {e} : plan.tuple now r = .error e → Stopped now r batch [] e
  | broken {t outcomes e} : plan.tuple now r = .ok t → batch.length + 1 = plan.bulkSize →
      plan.Delivers outcomes (.error e) → Stopped now r batch [⟨batch ++ [t], outcomes⟩] e

variable {plan}

/-- With a row that is taken in front, and the batch not full, the load goes on with the batch. -/
theorem loadRows_kept {w : World} {r : Row} {t : List Cell} {batch : List (List Cell)}
    (ht : plan.tuple w.now r = .ok t) (hroom : batch.length + 1 < plan.bulkSize) (rest : List Row)
    (stats : PartitionStats) (s : σ) :
    plan.loadRows (r :: rest) (plan.holding batch) batch.length stats s w =
      plan.loadRows rest (plan.holding (batch ++ [t])) (batch ++ [t]).length
        (stats.after 1 []) s w := by
  obtain ⟨s', hrun, hs'⟩ := plan.takeRow_run r batch w
  obtain rfl := hs' t ht
  rw [ht] at hrun
  rw [loadRows, Act.bind_ok (Act.within_ok s hrun), Ran.after_nil, List.length_append,
    List.length_singleton]
  simp only [if_neg (Nat.not_le.mpr hroom)]
  rfl

/-- With a row that is taken in front, and the batch full with it, the batch is delivered, and the
load goes on with an empty one. -/
theorem loadRows_full {w : World} {r : Row} {t : List Cell} {batch : List (List Cell)}
    (ht : plan.tuple w.now r = .ok t) (hfull : batch.length + 1 = plan.bulkSize) (rest : List Row)
    (stats : PartitionStats) (s : σ) :
    plan.loadRows (r :: rest) (plan.holding batch) batch.length stats s w =
      (do
        let stats ← plan.flush (plan.holding (batch ++ [t])) (stats.after 1 [])
        plan.loadRows rest (plan.holding []) 0 stats : Act σ PartitionStats) s w := by
  obtain ⟨s', hrun, hs'⟩ := plan.takeRow_run r batch w
  obtain rfl := hs' t ht
  rw [ht] at hrun
  rw [loadRows, Act.bind_ok (Act.within_ok s hrun), Ran.after_nil]
  simp only [if_pos (Nat.le_of_eq hfull.symm), statement_eq_holding]
  rfl

/-- A row that has no tuple ends the load. -/
theorem loadRows_refused {w : World} {r : Row} {e : Error} (ht : plan.tuple w.now r = .error e)
    (batch : List (List Cell)) (rest : List Row) (stats : PartitionStats) (s : σ) :
    plan.loadRows (r :: rest) (plan.holding batch) batch.length stats s w = ⟨.error e, s, w, []⟩ := by
  obtain ⟨s', hrun, -⟩ := plan.takeRow_run r batch w
  rw [ht] at hrun
  rw [loadRows, Act.bind_error (Act.within_error s hrun)]

/-- The load takes rows by the rules, until the rows end and it delivers what is left, or until a
row ends it. In the second case the rows behind that one make no difference. -/
theorem loadRows_run : ∀ (rows : List Row) (batch : List (List Cell)) (stats : PartitionStats)
    (s : σ) (w : World), batch.length < plan.bulkSize →
    (∃ sent left es, plan.Taken w.now rows batch sent left ∧
      allOutcomes sent = w.outcomes (allOutcomes sent).length ∧
      clientCalls es = plan.attempts sent ∧
      plan.loadRows rows (plan.holding batch) batch.length stats s w =
        (plan.flush (plan.holding left)
          (stats.after rows.length sent) s
          (w.afterInserts (allOutcomes sent).length)).after es) ∨
    ∃ pre r rest sent left last e es, rows = pre ++ r :: rest ∧
      plan.Taken w.now pre batch sent left ∧ plan.Stopped w.now r left last e ∧
      allOutcomes (sent ++ last) = w.outcomes (allOutcomes (sent ++ last)).length ∧
      clientCalls es = plan.attempts (sent ++ last) ∧
      ∀ later, plan.loadRows (pre ++ r :: later) (plan.holding batch) batch.length stats s w =
        ⟨.error e, s, w.afterInserts (allOutcomes (sent ++ last)).length, es⟩ := by
  intro rows
  induction rows with
  | nil => exact fun batch stats s w _ => .inl ⟨[], batch, [], .done, rfl, rfl, rfl⟩
  | cons r rest ih =>
    intro batch stats s w hroom
    cases ht : plan.tuple w.now r with
    | error e =>
      exact .inr ⟨[], r, rest, [], batch, [], e, [], rfl, .done, .refused ht, rfl, rfl,
        fun later => loadRows_refused ht batch later stats s⟩
    | ok t =>
      by_cases hfull : batch.length + 1 = plan.bulkSize
      · obtain ⟨outcomes, res, es₁, hd, hq₁, hflush, hes₁⟩ :=
          plan.flush_run (batch ++ [t]) (stats.after 1 []) s w
        cases res with
        | error e =>
          refine .inr ⟨[], r, rest, [], batch, [⟨batch ++ [t], outcomes⟩], e, es₁, rfl, .done,
            .broken ht hfull hd, by simpa using hq₁, hes₁, fun later => ?_⟩
          rw [List.nil_append, loadRows_full ht hfull, Act.bind_error hflush]
          simp
        | ok delivered =>
          have hstep : ∀ later, plan.loadRows (r :: later) (plan.holding batch) batch.length stats
              s w = (plan.loadRows later (plan.holding []) ([] : List (List Cell)).length
                (stats.after 1 [⟨batch ++ [t], outcomes⟩]) s
                (w.afterInserts outcomes.length)).after es₁ := fun later => by
            rw [loadRows_full ht hfull, Act.bind_ok hflush, PartitionStats.after_after,
              Nat.add_zero, List.nil_append, List.length_nil]
          rcases ih [] (stats.after 1 [⟨batch ++ [t], outcomes⟩]) s
              (w.afterInserts outcomes.length) plan.bulkSize_pos with
            ⟨sent, left, es, htaken, hq, hes, hrun⟩ |
            ⟨pre, r', rest', sent, left, last, e, es, rfl, htaken, hstop, hq, hes, hrun⟩
          · refine .inl ⟨⟨batch ++ [t], outcomes⟩ :: sent, left, es₁ ++ es,
              .sent ht hfull hd htaken, consumed_cons hq₁ hq, by simp [hes₁, hes], ?_⟩
            rw [hstep, hrun, Ran.after_after, PartitionStats.after_after, allOutcomes_cons,
              List.length_append, World.afterInserts_add, List.length_cons, Nat.add_comm 1]
            rfl
          · refine .inr ⟨r :: pre, r', rest', ⟨batch ++ [t], outcomes⟩ :: sent, left, last, e,
              es₁ ++ es, rfl, .sent ht hfull hd htaken, hstop, consumed_cons hq₁ hq,
              by simp [hes₁, hes], fun later => ?_⟩
            rw [List.cons_append, hstep, hrun, List.cons_append, allOutcomes_cons,
              List.length_append, World.afterInserts_add, Ran.after_mk]
      · have hroom' : batch.length + 1 < plan.bulkSize := by omega
        rcases ih (batch ++ [t]) (stats.after 1 []) s w (by simpa) with
          ⟨sent, left, es, htaken, hq, hes, hrun⟩ |
          ⟨pre, r', rest', sent, left, last, e, es, rfl, htaken, hstop, hq, hes, hrun⟩
        · refine .inl ⟨sent, left, es, .kept ht hroom' htaken, hq, hes, ?_⟩
          rw [loadRows_kept ht hroom', hrun, PartitionStats.after_after, List.length_cons,
            Nat.add_comm 1, List.nil_append]
        · refine .inr ⟨r :: pre, r', rest', sent, left, last, e, es, rfl, .kept ht hroom' htaken,
            hstop, hq, hes, fun later => ?_⟩
          rw [List.cons_append, loadRows_kept ht hroom', hrun]

/-- The batches that were sent are full, and with what is left they are what was there and the
tuples of the rows. -/
theorem Taken.batches {now : Calendar.DateTime} {rows : List Row} {batch left : List (List Cell)}
    {sent : List Shipment} (h : plan.Taken now rows batch sent left) :
    batch.length < plan.bulkSize → ∃ ts, List.Forall₂ (plan.tuple now · = .ok ·) rows ts ∧
      batch ++ ts = (sent.map (·.batch)).flatten ++ left ∧ left.length < plan.bulkSize ∧
      ∀ x ∈ sent, x.batch.length = plan.bulkSize ∧ Settled plan.policy x.outcomes := by
  induction h with
  | done => exact fun hroom => ⟨[], .nil, by simp, hroom, by simp⟩
  | @kept r rest batch t sent left ht hroom _ ih =>
    intro _
    obtain ⟨ts, hts, hsplit, hleft, hsent⟩ := ih (by simpa)
    exact ⟨t :: ts, .cons ht hts, by simpa using hsplit, hleft, hsent⟩
  | @sent r rest batch t outcomes delivered sent left ht hfull hd _ ih =>
    intro _
    obtain ⟨ts, hts, hsplit, hleft, hsent⟩ := ih plan.bulkSize_pos
    refine ⟨t :: ts, .cons ht hts, ?_, hleft, ?_⟩
    · simp only [List.nil_append] at hsplit
      simp [hsplit]
    · intro x hx
      rcases List.mem_cons.mp hx with rfl | hx
      · exact ⟨by simpa using hfull, hd.settled.1⟩
      · exact hsent x hx

/-- Rows that are taken with an empty batch render to tuples whose chunks are the batches that
were sent and what is left. -/
theorem Taken.renders {w : World} {rows : List Row} {sent : List Shipment} {left : List (List Cell)}
    (h : plan.Taken w.now rows [] sent left) : ∃ ts, List.Forall₂ (plan.Renders w) rows ts ∧
      ts = (sent.map (·.batch)).flatten ++ left ∧
      chunks plan.bulkSize ts = sent.map (·.batch) ++ [left] ∧
      rows.length = sent.length * plan.bulkSize + left.length ∧ left.length < plan.bulkSize ∧
      ∀ x ∈ sent, x.batch.length = plan.bulkSize ∧ Settled plan.policy x.outcomes := by
  obtain ⟨ts, hts, hsplit, hleft, hsent⟩ := h.batches plan.bulkSize_pos
  rw [List.nil_append] at hsplit
  have hchunks : chunks plan.bulkSize ts = sent.map (·.batch) ++ [left] := by
    rw [hsplit]
    apply chunks_flatten_append plan.bulkSize_pos hleft
    simpa using fun x hx => (hsent x hx).1
  have hlengths : sent.map (List.length ∘ (·.batch)) = sent.map fun _ => plan.bulkSize :=
    List.map_congr_left fun x hx => (hsent x hx).1
  have hlen : rows.length = sent.length * plan.bulkSize + left.length := by
    rw [hts.length_eq, hsplit, List.length_append, List.length_flatten, List.map_map, hlengths,
      List.map_const', List.sum_replicate_nat]
  exact ⟨ts, hts.imp fun _ _ => (plan.renders_iff).mpr, hsplit, hchunks, hlen, hleft, hsent⟩

/-! ### The whole load -/

/-- A run over one connection, which met the answers to insertions that were next and sent these
batches. -/
structure Loads {α : Type} (plan : PartitionPlan) (url : String) (sent : List Shipment) (w : World)
    (ran : Ran σ α) : Prop where
  outcomes : allOutcomes sent = w.outcomes (allOutcomes sent).length
  world : ran.world = w.afterInserts (allOutcomes sent).length
  calls : clientCalls ran.events = .connect url :: (plan.attempts sent ++ [.disconnect])

/-- The load of a partition is the load of its rows, between the opening and the closing of a
connection. -/
theorem loadPartition_eq {url : String} (haddr : plan.connection.address = .ok url)
    {rows : List Row} {s s' : σ} {w w' : World} {x : Except Error PartitionStats} {es : List Event}
    (h : plan.loadRows rows (plan.holding []) 0 PartitionStats.none s w = ⟨x, s', w', es⟩) :
    (plan.loadPartition rows s w).result = x ∧ (plan.loadPartition rows s w).state = s' ∧
      (plan.loadPartition rows s w).world = w' ∧
      clientCalls (plan.loadPartition rows s w).events =
        .connect url :: (clientCalls es ++ [.disconnect]) := by
  have hrun : withConnection plan.connection
      (plan.loadRows rows plan.statement 0 PartitionStats.none) s w =
        ⟨x, s', w', .connect url :: (es ++ [.disconnect])⟩ := by
    rw [withConnection_ok haddr, statement_eq_holding, h]
  unfold loadPartition
  cases x with
  | error e =>
    rw [Act.bind_error hrun]
    simp
  | ok stats =>
    rw [Act.bind_ok hrun]
    simp

/-- Without an address nothing is loaded. -/
theorem loadPartition_unaddressed {e : Error} (haddr : plan.connection.address = .error e)
    (rows : List Row) (s : σ) (w : World) : plan.loadPartition rows s w = ⟨.error e, s, w, []⟩ := by
  rw [loadPartition, Act.bind_error (withConnection_error haddr _ s w)]

/-- A load that runs through all rows delivers what is left, or fails at that; any other ends at a
row, and the rows behind that one make no difference. -/
theorem loadPartition_run {url : String} (haddr : plan.connection.address = .ok url)
    (rows : List Row) (s : σ) (w : World) :
    (∃ sent left outcomes delivered, plan.Taken w.now rows [] sent left ∧
      plan.Delivers outcomes (.ok delivered) ∧
      (plan.loadPartition rows s w).result =
        .ok (PartitionStats.none.after rows.length (sent ++ [⟨left, outcomes⟩])) ∧
      plan.Loads url (sent ++ [⟨left, outcomes⟩]) w (plan.loadPartition rows s w)) ∨
    (∃ sent left outcomes e, plan.Taken w.now rows [] sent left ∧
      plan.Delivers outcomes (.error e) ∧ (plan.loadPartition rows s w).result = .error e ∧
      plan.Loads url (sent ++ [⟨left, outcomes⟩]) w (plan.loadPartition rows s w)) ∨
    ∃ pre r rest sent left last e, rows = pre ++ r :: rest ∧
      plan.Taken w.now pre [] sent left ∧ plan.Stopped w.now r left last e ∧
      (plan.loadPartition rows s w).result = .error e ∧
      plan.Loads url (sent ++ last) w (plan.loadPartition rows s w) ∧
      ∀ later, plan.loadPartition (pre ++ r :: later) s w = plan.loadPartition rows s w := by
  rcases plan.loadRows_run rows [] PartitionStats.none s w plan.bulkSize_pos with
    ⟨sent, left, es, htaken, hq, hes, hrun⟩ |
    ⟨pre, r, rest, sent, left, last, e, es, rfl, htaken, hstop, hq, hes, hrun⟩
  · obtain ⟨outcomes, res, es', hd, hq', hflush, hes'⟩ := plan.flush_run left
      (PartitionStats.none.after rows.length sent) s (w.afterInserts (allOutcomes sent).length)
    rw [hflush, Ran.after_mk, PartitionStats.after_after, Nat.add_zero] at hrun
    obtain ⟨hresult, -, hworld, hcalls⟩ := loadPartition_eq haddr hrun
    have hall : allOutcomes (sent ++ [⟨left, outcomes⟩]) =
        w.outcomes (allOutcomes (sent ++ [⟨left, outcomes⟩])).length := by
      simp only [allOutcomes_append, allOutcomes_cons, allOutcomes_nil, List.append_nil,
        List.length_append, World.outcomes_add, ← hq, ← hq']
    have hloads : plan.Loads url (sent ++ [⟨left, outcomes⟩]) w (plan.loadPartition rows s w) := by
      refine ⟨hall, ?_, ?_⟩
      · rw [hworld, ← World.afterInserts_add]
        simp
      · rw [hcalls, clientCalls_append, hes, hes', attempts_append]
    cases res with
    | ok delivered =>
      exact .inl ⟨sent, left, outcomes, delivered, htaken, hd, hresult, hloads⟩
    | error e => exact .inr (.inl ⟨sent, left, outcomes, e, htaken, hd, hresult, hloads⟩)
  · obtain ⟨hresult, -, hworld, hcalls⟩ := loadPartition_eq haddr (hrun rest)
    refine .inr (.inr ⟨pre, r, rest, sent, left, last, e, rfl, htaken, hstop, hresult,
      ⟨hq, hworld, by rw [hcalls, hes]⟩, fun later => ?_⟩)
    unfold loadPartition
    apply Act.bind_congr
    rw [withConnection_ok haddr, withConnection_ok haddr, statement_eq_holding]
    rw [show plan.loadRows (pre ++ r :: later) (plan.holding []) 0 PartitionStats.none s w =
      plan.loadRows (pre ++ r :: rest) (plan.holding []) 0 PartitionStats.none s w from
        (hrun later).trans (hrun rest).symm]

/-- Every load over a connection sends some batches, maybe none. -/
theorem exists_loads {url : String} (haddr : plan.connection.address = .ok url) (rows : List Row)
    (s : σ) (w : World) : ∃ sent, plan.Loads url sent w (plan.loadPartition rows s w) := by
  rcases loadPartition_run haddr rows s w with ⟨_, _, _, _, _, _, _, hloads⟩ |
    ⟨_, _, _, _, _, _, _, hloads⟩ | ⟨_, _, _, _, _, _, _, _, _, _, _, hloads, _⟩
  · exact ⟨_, hloads⟩
  · exact ⟨_, hloads⟩
  · exact ⟨_, hloads⟩

/-- A load leaves the world as it is, but for the answers that insertions have met. -/
theorem loadPartition_world (plan : PartitionPlan) (rows : List Row) (s : σ) (w : World) :
    ∃ n, (plan.loadPartition rows s w).world = w.afterInserts n := by
  cases haddr : plan.connection.address with
  | error e => exact ⟨0, by rw [loadPartition_unaddressed haddr, World.afterInserts_zero]⟩
  | ok url =>
    obtain ⟨sent, hloads⟩ := exists_loads haddr rows s w
    exact ⟨_, hloads.world⟩

/-! ### A small plan -/

/-- The database at a host, without a user. -/
def smallSettings : ConnectionSettings where
  hosts := ["h"]
  database := "d"
  user := .null
  password := .null
  properties := .empty
  hosts_ne_nil := by decide

/-- One column of integers, in batches of two rows. -/
def smallPlan (codes : List Int) (retries : Int) : PartitionPlan where
  connection := smallSettings
  insert := ⟨"t", ["n"]⟩
  types := [.plain .int64 "Int64"]
  inputFields := ["n"]
  bulkSize := 2
  policy := ⟨codes, retries⟩
  types_aligned := rfl
  bulkSize_pos := by decide

theorem smallSettings_address : smallSettings.address = .ok "clickhouse://h:9000/d" := by
  rfl

theorem smallPlan_address (codes : List Int) (retries : Int) :
    (smallPlan codes retries).connection.address = .ok "clickhouse://h:9000/d" :=
  smallSettings_address

/-- A world with these answers to insertions. -/
def answering (answers : List (Option Error)) : World :=
  { World.still .empty with inserts := answers }

/-- An error that the server reports under a number. -/
def reported (code : Int) : Error := .server (.int code) none none

end PartitionPlan
end TableLoader
