/-
# Loads that fail

A load that fails over an open connection fails at one point, and what was sent
before that point is known (`loadPartition_failure`). Either a row cannot be
bound or put into the batch: then the full batches of the rows before it have
been delivered or dropped, and nothing else has been sent. Or the delivery of a
batch fails: then the batches before it have been delivered or dropped, and the
last attempts are those of that batch, without a success. No row behind the
point makes a difference, and the connection is closed once, at the end.

Key definitions: `EndsAtRow`, `EndsAtBatch`.
Key theorems: `loadPartition_failure`.
-/
import TableLoader.Proofs.Partition.Run

namespace TableLoader
namespace PartitionPlan

variable {σ : Type} {plan : PartitionPlan} {url : String}

/-- A load that ended with an error at the row of this index, after these batches. -/
structure EndsAtRow (plan : PartitionPlan) (url : String) (rows : List Row) (s : σ) (w : World)
    (e : Error) (i : Nat) (r : Row) (ts : List (List Cell)) (sent : List Shipment) : Prop where
  row : rows[i]? = some r
  refused : plan.Refuses w r e
  rendered : List.Forall₂ (plan.Renders w) (rows.take i) ts
  batches : sent.map (·.batch) = (chunks plan.bulkSize ts).take (i / plan.bulkSize)
  tuples : (sent.map (·.batch)).flatten = ts.take (plan.bulkSize * (i / plan.bulkSize))
  settled : ∀ x ∈ sent, x.batch.length = plan.bulkSize ∧ Settled plan.policy x.outcomes
  loads : plan.Loads url sent w (plan.loadPartition rows s w)
  /-- other rows behind it make no difference -/
  later : ∀ rest, plan.loadPartition (rows.take (i + 1) ++ rest) s w = plan.loadPartition rows s w

/-- A load that ended with an error at the batch of this index, after these other batches. -/
structure EndsAtBatch (plan : PartitionPlan) (url : String) (rows : List Row) (s : σ) (w : World)
    (e : Error) (c : Nat) (ts : List (List Cell)) (sent : List Shipment) (last : Shipment) :
    Prop where
  index : c ≤ rows.length / plan.bulkSize
  rendered : List.Forall₂ (plan.Renders w) (rows.take ((c + 1) * plan.bulkSize)) ts
  earlier : sent.length = c
  batches : (sent ++ [last]).map (·.batch) = (chunks plan.bulkSize ts).take (c + 1)
  settled : ∀ x ∈ sent, x.batch.length = plan.bulkSize ∧ Settled plan.policy x.outcomes
  broken : Broken plan.policy last.outcomes e
  unsuccessful : none ∉ last.outcomes
  loads : plan.Loads url (sent ++ [last]) w (plan.loadPartition rows s w)
  /-- if the batch was full, other rows behind it make no difference -/
  later : c < rows.length / plan.bulkSize → ∀ rest,
    plan.loadPartition (rows.take ((c + 1) * plan.bulkSize) ++ rest) s w =
      plan.loadPartition rows s w

/-- The number of full chunks, from a split of the items into full chunks and a rest. -/
theorem div_of_split {n k b m : Nat} (h : n = k * b + m) (hm : m < b) : n / b = k := by
  rw [h, Nat.mul_comm, Nat.mul_add_div (by omega), Nat.div_eq_of_lt hm, Nat.add_zero]

section Ends

variable {s : σ} {w : World} {e : Error} {sent : List Shipment} {left : List (List Cell)}

/-- When all rows are taken and the delivery of what is left fails, the load ends at the last
batch. -/
theorem Taken.endsAtBatch_left {rows : List Row} {outcomes : List (Option Error)}
    (h : plan.Taken w.now rows [] sent left) (hd : plan.Delivers outcomes (.error e))
    (hloads : plan.Loads url (sent ++ [⟨left, outcomes⟩]) w (plan.loadPartition rows s w)) :
    ∃ c ts last, plan.EndsAtBatch url rows s w e c ts sent last := by
  obtain ⟨ts, hts, -, hchunks, hlen, hleft, hsent⟩ := h.renders
  have hdiv : rows.length / plan.bulkSize = sent.length := div_of_split hlen hleft
  have htake : rows.take ((sent.length + 1) * plan.bulkSize) = rows := by
    apply List.take_of_length_le
    rw [Nat.succ_mul]
    omega
  refine ⟨sent.length, ts, ⟨left, outcomes⟩, ?_⟩
  exact {
    index := Nat.le_of_eq hdiv.symm
    rendered := by rwa [htake]
    earlier := rfl
    batches := by
      rw [hchunks, List.map_append, List.map_singleton]
      exact (List.take_of_length_le (by simp)).symm
    settled := hsent
    broken := hd.broken
    unsuccessful := hd.broken.unsuccessful
    loads := hloads
    later := fun hlt => absurd hdiv (Nat.ne_of_gt hlt) }

variable {pre rest : List Row} {r : Row}

/-- When a row has no tuple, the load ends at the row. -/
theorem Taken.endsAtRow (h : plan.Taken w.now pre [] sent left)
    (hr : plan.tuple w.now r = .error e)
    (hloads : plan.Loads url sent w (plan.loadPartition (pre ++ r :: rest) s w))
    (hlater : ∀ later, plan.loadPartition (pre ++ r :: later) s w =
      plan.loadPartition (pre ++ r :: rest) s w) :
    ∃ i ts, plan.EndsAtRow url (pre ++ r :: rest) s w e i r ts sent := by
  obtain ⟨ts, hts, hsplit, hchunks, hlen, hleft, hsent⟩ := h.renders
  have hdiv : pre.length / plan.bulkSize = sent.length := div_of_split hlen hleft
  have hcount : (sent.map (·.batch)).flatten.length = plan.bulkSize * sent.length := by
    have htuples := hts.length_eq
    rw [hsplit, List.length_append] at htuples
    rw [Nat.mul_comm]
    omega
  refine ⟨pre.length, ts, ?_⟩
  exact {
    row := by simp
    refused := plan.refuses_iff.mpr hr
    rendered := by rwa [List.take_left]
    batches := by rw [hchunks, hdiv, List.take_left' (by simp)]
    tuples := by rw [hsplit, hdiv, List.take_left' hcount]
    settled := hsent
    loads := hloads
    later := fun rest' => by
      rw [List.take_length_add_append, List.append_assoc]
      exact hlater rest' }

/-- When a row fills the batch and the delivery of that fails, the load ends at the batch. -/
theorem Taken.endsAtBatch_full {t : List Cell} {outcomes : List (Option Error)}
    (h : plan.Taken w.now pre [] sent left) (ht : plan.tuple w.now r = .ok t)
    (hfull : left.length + 1 = plan.bulkSize) (hd : plan.Delivers outcomes (.error e))
    (hloads : plan.Loads url (sent ++ [⟨left ++ [t], outcomes⟩]) w
      (plan.loadPartition (pre ++ r :: rest) s w))
    (hlater : ∀ later, plan.loadPartition (pre ++ r :: later) s w =
      plan.loadPartition (pre ++ r :: rest) s w) :
    ∃ c ts last, plan.EndsAtBatch url (pre ++ r :: rest) s w e c ts sent last := by
  obtain ⟨ts, hts, hsplit, -, hlen, -, hsent⟩ := h.renders
  have hcut : (sent.length + 1) * plan.bulkSize = pre.length + 1 := by
    rw [hlen, Nat.succ_mul]
    omega
  have hpre : (pre ++ r :: rest).take ((sent.length + 1) * plan.bulkSize) = pre ++ [r] := by
    rw [hcut, List.take_length_add_append]
    rfl
  -- the batch is full, so an empty one follows it among the chunks
  have hchunks : chunks plan.bulkSize (ts ++ [t]) =
      (sent ++ [(⟨left ++ [t], outcomes⟩ : Shipment)]).map (·.batch) ++ [[]] := by
    have hempty : ([] : List (List Cell)).length < plan.bulkSize := plan.bulkSize_pos
    rw [← chunks_flatten_append plan.bulkSize_pos hempty, hsplit]
    · simp
    · intro batch hbatch
      rw [List.map_append, List.map_singleton] at hbatch
      rcases List.mem_append.mp hbatch with hmem | hmem
      · obtain ⟨x, hx, rfl⟩ := List.mem_map.mp hmem
        exact (hsent x hx).1
      · rw [List.mem_singleton.mp hmem, List.length_append, List.length_singleton, hfull]
  refine ⟨sent.length, ts ++ [t], ⟨left ++ [t], outcomes⟩, ?_⟩
  exact {
    index := by
      rw [Nat.le_div_iff_mul_le plan.bulkSize_pos, List.length_append, List.length_cons]
      rw [Nat.succ_mul] at hcut
      omega
    rendered := by
      rw [hpre]
      exact List.rel_append hts (.cons (plan.renders_iff.mpr ht) .nil)
    earlier := rfl
    batches := by rw [hchunks, List.take_left' (by simp)]
    settled := hsent
    broken := hd.broken
    unsuccessful := hd.broken.unsuccessful
    loads := hloads
    later := fun _ rest' => by
      rw [hpre, List.append_assoc]
      exact hlater rest' }

end Ends

/-- A load over an open connection that fails ends at a row or at a batch. -/
theorem loadPartition_failure (haddr : plan.connection.address = .ok url) {rows : List Row} {s : σ}
    {w : World} {e : Error} (h : (plan.loadPartition rows s w).result = .error e) :
    (∃ i r ts sent, plan.EndsAtRow url rows s w e i r ts sent) ∨
      ∃ c ts sent last, plan.EndsAtBatch url rows s w e c ts sent last := by
  rcases loadPartition_run haddr rows s w with
    ⟨sent, left, outcomes, delivered, htaken, hd, hresult, hloads⟩ |
    ⟨sent, left, outcomes, e', htaken, hd, hresult, hloads⟩ |
    ⟨pre, r, rest, sent, left, last, e', rfl, htaken, hstop, hresult, hloads, hlater⟩
  · rw [hresult] at h
    cases h
  · obtain rfl : e' = e := Except.error.inj (hresult.symm.trans h)
    obtain ⟨c, ts, last, hends⟩ := htaken.endsAtBatch_left hd hloads
    exact .inr ⟨c, ts, sent, last, hends⟩
  · obtain rfl : e' = e := Except.error.inj (hresult.symm.trans h)
    cases hstop with
    | refused hr =>
      rw [List.append_nil] at hloads
      obtain ⟨i, ts, hends⟩ := htaken.endsAtRow hr hloads hlater
      exact .inl ⟨i, r, ts, sent, hends⟩
    | @broken t outcomes e ht hfull hd =>
      obtain ⟨c, ts, last, hends⟩ := htaken.endsAtBatch_full ht hfull hd hloads hlater
      exact .inr ⟨c, ts, sent, last, hends⟩

/-- The fault with which a run ended, if it ended with one. -/
def faultOf? {α : Type} : Except Error α → Option Fault
  | .error (.fault f) => some f
  | _ => none

theorem eq_of_faultOf? {α : Type} {x : Except Error α} {f : Fault} (h : faultOf? x = some f) :
    x = .error (.fault f) := by
  unfold faultOf? at h
  split at h
  · rw [Option.some.inj h]
  · cases h

/-- Three rows in batches of two, of which the last one has no column of the name. -/
theorem smallPlan_failure :
    (∃ i r ts sent, (smallPlan [7] 1).EndsAtRow "clickhouse://h:9000/d"
      [[("n", .int 1)], [("n", .int 2)], []] () (answering [some (reported 7)])
      (.fault .noColumn) i r ts sent) ∨
    ∃ c ts sent last, (smallPlan [7] 1).EndsAtBatch "clickhouse://h:9000/d"
      [[("n", .int 1)], [("n", .int 2)], []] () (answering [some (reported 7)])
      (.fault .noColumn) c ts sent last :=
  loadPartition_failure (smallPlan_address [7] 1) (eq_of_faultOf? (by decide +kernel))

/-- An error of the client may end a load with another error than its sorted form: its code cannot
be a member of a set, or cannot be written. -/
theorem client_error_ends_with_fault :
    ((Error.server (.list []) none none).isClientError = true ∧
      faultOf? ((smallPlan [7] 1).loadPartition [] ()
        (answering [some (.server (.list []) none none)])).result = some .badType) ∧
    (reported Number.writtenBelow).isClientError = true ∧
      faultOf? ((smallPlan [7] 1).loadPartition [] ()
        (answering [some (reported Number.writtenBelow)])).result = some .badValue :=
  ⟨⟨rfl, by decide +kernel⟩, rfl, by decide +kernel⟩

end PartitionPlan
end TableLoader
