/-
# Where the rows of a partition go

A load of a partition that ends well has gone through all rows, over a connection
of its own, and has sent their tuples in chunks (`exists_completed`). Each chunk was
delivered at its last attempt or dropped without a success, so no row is lost
between the two: the rows of the insertions that succeeded and the rows of the
chunks that were dropped are together as many as the partition has
(`Completed.accounted`).

Key definitions: `PartitionRun`, `Completed`, `droppedRows`.
Key theorems: `deliveredRows_attempts`, `exists_completed`, `Completed.accounted`.
-/
import TableLoader.Proofs.Partition.Run

namespace TableLoader

/-- The load of a partition: its rows, the world in which it began, and the run. -/
structure PartitionRun (σ : Type) where
  rows : List Row
  before : World
  ran : Ran σ PartitionStats

/-- The rows of the batches that were dropped. -/
def droppedRows (sent : List Shipment) : List (List Cell) :=
  (sent.filter Shipment.isDropped).flatMap (·.batch)

@[simp] theorem droppedRows_nil : droppedRows [] = [] := rfl

@[simp] theorem droppedRows_append (xs ys : List Shipment) :
    droppedRows (xs ++ ys) = droppedRows xs ++ droppedRows ys := by
  simp [droppedRows]

/-- The attempts at a batch that is done with deliver it, if it was not dropped. -/
theorem Settled.deliveredRows {p : RetryPolicy} {outcomes : List (Option Error)}
    (h : Settled p outcomes) (sql : String) (batch : List (List Cell)) :
    deliveredRows (outcomes.map (.insert sql batch true)) =
      if outcomes.all Option.isSome then [] else batch := by
  have hfailures : ∀ failures : List Error,
      TableLoader.deliveredRows ((failures.map some).map (.insert sql batch true)) = [] := by
    intro failures
    induction failures with
    | nil => rfl
    | cons e failures ih => exact ih
  cases h with
  | @delivered failures _ _ =>
    rw [List.map_append, deliveredRows_append, hfailures]
    have hall : (failures.map some ++ [none]).all Option.isSome = false := by simp
    rw [hall]
    simp [TableLoader.deliveredRows]
  | @dropped failures _ _ =>
    have hall : (failures.map some).all Option.isSome = true := by simp
    rw [hfailures, hall]
    rfl

namespace PartitionPlan

variable {σ : Type} {plan : PartitionPlan} {url : String}

/-- The attempts at batches that are done with deliver those that were not dropped. -/
theorem deliveredRows_attempts : ∀ {sent : List Shipment},
    (∀ x ∈ sent, Settled plan.policy x.outcomes) →
    (deliveredRows (plan.attempts sent)).length + (droppedRows sent).length =
      (sent.map (·.batch)).flatten.length
  | [], _ => rfl
  | x :: sent, h => by
    have ih := deliveredRows_attempts fun y hy => h y (List.mem_cons_of_mem x hy)
    have hx := (h x List.mem_cons_self).deliveredRows plan.insert.head x.batch
    rw [attempts_cons, deliveredRows_append, hx, List.length_append, List.map_cons,
      List.flatten_cons, List.length_append, ← List.singleton_append, droppedRows_append,
      List.length_append]
    by_cases hdropped : x.outcomes.all Option.isSome = true
    · have hone : droppedRows [x] = x.batch := by simp [droppedRows, Shipment.isDropped, hdropped]
      rw [if_pos hdropped, hone, List.length_nil]
      omega
    · have hone : droppedRows [x] = [] := by simp [droppedRows, Shipment.isDropped, hdropped]
      rw [if_neg hdropped, hone, List.length_nil]
      omega

/-- A load over a connection of its own that went through all rows of its partition, and sent
these batches. -/
structure Completed (plan : PartitionPlan) (url : String) (r : PartitionRun σ)
    (sent : List Shipment) : Prop where
  loads : plan.Loads url sent r.before r.ran
  stats : r.ran.result = .ok ⟨r.rows.length, sent.length, sent.countP Shipment.isDropped⟩
  batches : ∃ ts, List.Forall₂ (plan.Renders r.before) r.rows ts ∧
    sent.map (·.batch) = chunks plan.bulkSize ts
  settled : ∀ x ∈ sent, Settled plan.policy x.outcomes

/-- A load that ends well has gone through all rows. -/
theorem exists_completed (haddr : plan.connection.address = .ok url) {r : PartitionRun σ} {s : σ}
    (hran : r.ran = plan.loadPartition r.rows s r.before) {stats : PartitionStats}
    (h : r.ran.result = .ok stats) : ∃ sent, plan.Completed url r sent := by
  rw [hran] at h
  rcases loadPartition_run haddr r.rows s r.before with
    ⟨sent, left, outcomes, delivered, htaken, hd, hresult, hloads⟩ |
    ⟨_, _, _, _, _, _, hresult, _⟩ | ⟨_, _, _, _, _, _, _, _, _, _, hresult, _⟩
  · obtain ⟨ts, hts, -, hchunks, -, -, hsent⟩ := htaken.renders
    refine ⟨sent ++ [⟨left, outcomes⟩], ?_, ?_, ⟨ts, hts, ?_⟩, ?_⟩
    · rw [hran]
      exact hloads
    · rw [hran, hresult, PartitionStats.after]
      simp [PartitionStats.none]
    · rw [hchunks, List.map_append, List.map_singleton]
    · intro x hx
      rcases List.mem_append.mp hx with hx | hx
      · exact (hsent x hx).2
      · rw [List.mem_singleton.mp hx]
        exact hd.settled.1
  · rw [hresult] at h
    cases h
  · rw [hresult] at h
    cases h

/-- The rows of a partition were delivered or dropped. -/
theorem Completed.accounted {r : PartitionRun σ} {sent : List Shipment}
    (h : plan.Completed url r sent) :
    (deliveredRows r.ran.events).length + (droppedRows sent).length = r.rows.length := by
  obtain ⟨ts, hts, hbatches⟩ := h.batches
  have hcalls : deliveredRows r.ran.events = deliveredRows (plan.attempts sent) := by
    rw [← deliveredRows_clientCalls, h.loads.calls]
    show deliveredRows ([.connect url] ++ (plan.attempts sent ++ [.disconnect])) = _
    rw [deliveredRows_append, deliveredRows_append]
    exact List.append_nil _
  calc (deliveredRows r.ran.events).length + (droppedRows sent).length
      = (sent.map (·.batch)).flatten.length := by rw [hcalls, deliveredRows_attempts h.settled]
    _ = ts.length := by rw [hbatches, flatten_chunks plan.bulkSize_pos]
    _ = r.rows.length := hts.length_eq.symm

end PartitionPlan
end TableLoader
