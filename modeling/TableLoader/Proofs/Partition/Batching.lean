/-
# The batches of a partition

A partition whose rows all render, and whose insertions meet only failures that
the policy covers, is loaded to its end: the tuples of the rows go out in chunks
of the size of a batch, in their order, and one last chunk with what is left
(`loadPartition_batches`). Each chunk has attempts of its own, up to its first
success or as many as the policy allows, so attempts that one chunk uses are not
missing for the next.

That the code of a failure is among the codes of the policy is not enough for
this. A batch is only sent again after a failure that can be written
(`named_failure_ends_load`).

Key theorems: `Loads.mem_events`, `Loads.exists_of_mem_events`,
`loadPartition_batches`.
-/
import TableLoader.Proofs.Partition.Run

namespace TableLoader
namespace PartitionPlan

variable {σ α : Type} {plan : PartitionPlan} {url : String}

/-- Every attempt shows among the events of the run. -/
theorem Loads.mem_events {sent : List Shipment} {w : World} {ran : Ran σ α}
    (h : plan.Loads url sent w ran) {x : Shipment} (hx : x ∈ sent) {o : Option Error}
    (ho : o ∈ x.outcomes) : .insert plan.insert.head x.batch true o ∈ ran.events := by
  have hattempt : .insert plan.insert.head x.batch true o ∈ plan.attempts sent :=
    List.mem_flatMap.mpr ⟨x, hx, List.mem_map.mpr ⟨o, ho, rfl⟩⟩
  have hcall : .insert plan.insert.head x.batch true o ∈ clientCalls ran.events := by
    rw [h.calls]
    exact List.mem_cons_of_mem _ (List.mem_append_left _ hattempt)
  exact List.mem_of_mem_filter hcall

/-- Every insertion among the events of the run is an attempt. -/
theorem Loads.exists_of_mem_events {sent : List Shipment} {w : World} {ran : Ran σ α}
    (h : plan.Loads url sent w ran) {sql : String} {batch : List (List Cell)} {checked : Bool}
    {o : Option Error} (hmem : .insert sql batch checked o ∈ ran.events) :
    ∃ x ∈ sent, o ∈ x.outcomes ∧ x.batch = batch := by
  have hcall : .insert sql batch checked o ∈ clientCalls ran.events :=
    List.mem_filter.mpr ⟨hmem, rfl⟩
  rw [h.calls] at hcall
  simp only [List.mem_cons, reduceCtorEq, List.mem_append, attempts, List.mem_flatMap,
    List.mem_map, Event.insert.injEq, List.not_mem_nil, or_false, false_or] at hcall
  obtain ⟨x, hx, o', ho, -, hbatch, -, rfl⟩ := hcall
  exact ⟨x, hx, ho, hbatch⟩

/-- A failed insertion of a load fails with one of the coming answers. -/
theorem mem_inserts_of_mem_events (haddr : plan.connection.address = .ok url) {rows : List Row}
    {s : σ} {w : World} {sql : String} {batch : List (List Cell)} {checked : Bool} {e : Error}
    (h : .insert sql batch checked (some e) ∈ (plan.loadPartition rows s w).events) :
    some e ∈ w.inserts := by
  obtain ⟨sent, hloads⟩ := exists_loads haddr rows s w
  have hmem : some e ∈ allOutcomes sent := by
    obtain ⟨x, hx, ho, -⟩ := hloads.exists_of_mem_events h
    exact List.mem_flatMap.mpr ⟨x, hx, ho⟩
  rw [hloads.outcomes] at hmem
  exact World.mem_inserts_of_mem_outcomes hmem

/-- The tuples of rows are the only ones that they render to. -/
theorem eq_of_renders {w : World} {rows : List Row} {ts ts' : List (List Cell)}
    (h : List.Forall₂ (plan.Renders w) rows ts) (h' : List.Forall₂ (plan.Renders w) rows ts') :
    ts = ts' := by
  have hunique : Relator.RightUnique (plan.Renders w) := by
    intro r t t' ht ht'
    rw [renders_iff] at ht ht'
    exact Except.ok.inj (ht.symm.trans ht')
  exact List.right_unique_forall₂' hunique h h'

/-- If all rows render, and every failure that an insertion meets is covered by the policy, the
load ends well. The tuples are sent in full chunks and one last chunk with the rest, in their
order; each chunk is attempted until its first success, with all the attempts of the policy. -/
theorem loadPartition_batches (haddr : plan.connection.address = .ok url) {w : World}
    {rows : List Row} {ts : List (List Cell)} (hrows : List.Forall₂ (plan.Renders w) rows ts)
    (s : σ) (hcovered : ∀ sql batch checked e,
      .insert sql batch checked (some e) ∈ (plan.loadPartition rows s w).events →
      plan.policy.Covers e) :
    ∃ sent : List Shipment,
      sent.map (·.batch) = chunks plan.bulkSize ts ∧
      (sent.map (·.batch)).flatten = ts ∧
      sent.map (·.batch.length) =
        List.replicate (rows.length / plan.bulkSize) plan.bulkSize ++ [rows.length % plan.bulkSize] ∧
      (∀ x ∈ sent, Settled plan.policy x.outcomes ∧ 1 ≤ x.outcomes.length ∧
        (x.outcomes.length : Int) ≤ max plan.policy.retries 0 + 1) ∧
      (plan.loadPartition rows s w).result =
        .ok ⟨rows.length, rows.length / plan.bulkSize + 1, sent.countP Shipment.isDropped⟩ ∧
      clientCalls (plan.loadPartition rows s w).events =
        .connect url :: (plan.attempts sent ++ [.disconnect]) ∧
      allOutcomes sent = w.outcomes (allOutcomes sent).length ∧
      (plan.loadPartition rows s w).world = w.afterInserts (allOutcomes sent).length := by
  have hno : ∀ {sent : List Shipment} {x : Shipment} {e : Error},
      plan.Loads url sent w (plan.loadPartition rows s w) → x ∈ sent →
      ¬ plan.Delivers x.outcomes (.error e) := by
    intro sent x e hloads hx hd
    obtain ⟨e', he', huncovered⟩ := hd.broken.exists_uncovered
    exact huncovered (hcovered _ _ _ _ (hloads.mem_events hx he'))
  rcases loadPartition_run haddr rows s w with
    ⟨sent, left, outcomes, delivered, htaken, hd, hresult, hloads⟩ |
    ⟨sent, left, outcomes, e, htaken, hd, hresult, hloads⟩ |
    ⟨pre, r, rest, sent, left, last, e, rfl, htaken, hstop, hresult, hloads, hlater⟩
  · obtain ⟨ts', hts', -, hsplit, -, -, hsent⟩ := htaken.renders
    obtain rfl := eq_of_renders hrows hts'
    have hchunks : (sent ++ [(⟨left, outcomes⟩ : Shipment)]).map (·.batch) =
        chunks plan.bulkSize ts := by
      rw [hsplit, List.map_append, List.map_singleton]
    have hlen : ts.length = rows.length := hrows.length_eq.symm
    have hcount : (sent ++ [⟨left, outcomes⟩] : List Shipment).length =
        rows.length / plan.bulkSize + 1 := by
      rw [← List.length_map, hchunks, length_chunks, hlen]
    refine ⟨sent ++ [⟨left, outcomes⟩], hchunks, ?_, ?_, ?_, ?_, hloads.calls, hloads.outcomes,
      hloads.world⟩
    · rw [hchunks, flatten_chunks plan.bulkSize_pos]
    · rw [← hlen, ← map_length_chunks plan.bulkSize_pos, ← hchunks, List.map_map]
      rfl
    · intro x hx
      have hsettled : Settled plan.policy x.outcomes := by
        rcases List.mem_append.mp hx with hx | hx
        · exact (hsent x hx).2
        · rw [List.mem_singleton.mp hx]
          exact hd.settled.1
      exact ⟨hsettled, hsettled.length_bounds⟩
    · rw [hresult, PartitionStats.after, hcount]
      simp [PartitionStats.none]
  · exact absurd hd (hno (x := ⟨left, outcomes⟩) hloads (by simp))
  · cases hstop with
    | refused hr =>
      have hdrop := List.forall₂_drop pre.length hrows
      rw [List.drop_left] at hdrop
      obtain ⟨t, -, ht, -, -⟩ := List.forall₂_cons_left_iff.mp hdrop
      rw [renders_iff, hr] at ht
      cases ht
    | @broken t outcomes e ht hfull hd =>
      exact absurd hd (hno (x := ⟨left ++ [t], outcomes⟩) hloads (by simp))

/-- Three rows in batches of two: the first batch is delivered at its second attempt, and the
second one is dropped at its second attempt. -/
theorem smallPlan_batches : ∃ sent : List Shipment,
    sent.map (·.batch) = [[[.int 1], [.int 2]], [[.int 3]]] ∧
    ((smallPlan [7] 1).loadPartition [[("n", .int 1)], [("n", .int 2)], [("n", .int 3)]] ()
      (answering [some (reported 7), none, some (reported 7), some (reported 7)])).result =
        .ok ⟨3, 2, sent.countP Shipment.isDropped⟩ := by
  have hrows : List.Forall₂ ((smallPlan [7] 1).Renders
      (answering [some (reported 7), none, some (reported 7), some (reported 7)]))
      [[("n", .int 1)], [("n", .int 2)], [("n", .int 3)]] [[.int 1], [.int 2], [.int 3]] :=
    .cons ⟨rfl, rfl⟩ (.cons ⟨rfl, rfl⟩ (.cons ⟨rfl, rfl⟩ .nil))
  obtain ⟨sent, hbatches, -, -, -, hresult, -⟩ :=
    loadPartition_batches (smallPlan_address [7] 1) hrows () fun sql batch checked e h => by
      have he : e = reported 7 := by
        simpa [answering] using mem_inserts_of_mem_events (smallPlan_address [7] 1) h
      subst he
      exact ⟨⟨rfl, 7, by simp [smallPlan], by decide +kernel⟩, by decide +kernel⟩
  exact ⟨sent, hbatches, hresult⟩

/-- It is not enough that the policy names a failure: one whose code cannot be written ends the
load. -/
theorem named_failure_ends_load :
    (smallPlan [Number.writtenBelow] 1).policy.Names (reported Number.writtenBelow) ∧
      ((smallPlan [Number.writtenBelow] 1).loadPartition [] ()
        (answering [some (reported Number.writtenBelow)])).result.isOk = false :=
  ⟨⟨rfl, Number.writtenBelow, List.mem_singleton_self _, by decide +kernel⟩, by decide +kernel⟩

end PartitionPlan
end TableLoader
