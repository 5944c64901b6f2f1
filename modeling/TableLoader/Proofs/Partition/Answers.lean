/-
# What a load takes from the world

Loads read the answers of the database and the local time, and take away the answers that
they get; everything else in the world is neither read nor changed (`Act.ByAnswers`). So
in two worlds with the same answers and the same local time a load is the same run, and
each world stays as it is but for the answers. The rules follow the ways in which actions
are put together.

Key definitions: `Act.ByAnswers`.
Key theorems: `ByAnswers.bind`, `deliverWithin_byAnswers`, `loadPartition_byAnswers`.
-/
import TableLoader.Proofs.Running
import TableLoader.Sink

namespace TableLoader

variable {σ τ α β : Type}

namespace Act

/-- The action depends on the answers to insertions and the local time, and takes answers away; it
neither reads nor changes anything else in the world. -/
def ByAnswers (a : Act σ α) : Prop :=
  ∀ s w w', w'.inserts = w.inserts → w'.now = w.now →
    a s w' = { a s w with world := { w' with inserts := (a s w).world.inserts } }

/-- The world behind such an action is the one before it, but for the answers. -/
theorem ByAnswers.world_eq {a : Act σ α} (h : ByAnswers a) (s : σ) (w : World) :
    (a s w).world = { w with inserts := (a s w).world.inserts } :=
  congrArg Ran.world (h s w w rfl rfl)

/-- An action that neither reads nor changes the world. -/
theorem byAnswers_of_apart {a : Act σ α} (h : ∀ s, ∃ x t es, ∀ w, a s w = ⟨x, t, w, es⟩) :
    ByAnswers a := by
  intro s w w' hinserts _
  obtain ⟨x, t, es, hrun⟩ := h s
  rw [hrun w, hrun w', ← hinserts]

theorem byAnswers_pure (x : α) : ByAnswers (pure x : Act σ α) :=
  byAnswers_of_apart fun s => ⟨.ok x, s, [], fun _ => rfl⟩

theorem byAnswers_fail (e : Error) : ByAnswers (fail e : Act σ α) :=
  byAnswers_of_apart fun s => ⟨.error e, s, [], fun _ => rfl⟩

theorem byAnswers_ofExcept (x : Except Error α) : ByAnswers (ofExcept x : Act σ α) := by
  cases x with
  | ok x => exact byAnswers_pure x
  | error e => exact byAnswers_fail e

theorem byAnswers_emit (e : Event) : ByAnswers (emit e : Act σ Unit) :=
  byAnswers_of_apart fun s => ⟨.ok (), s, [e], fun _ => rfl⟩

theorem byAnswers_log (level : LogLevel) (name text : String) :
    ByAnswers (log level name text : Act σ Unit) :=
  byAnswers_emit _

theorem byAnswers_get : ByAnswers (get : Act σ σ) :=
  byAnswers_of_apart fun s => ⟨.ok s, s, [], fun _ => rfl⟩

theorem byAnswers_modify (f : σ → σ) : ByAnswers (modify f) :=
  byAnswers_of_apart fun s => ⟨.ok (), f s, [], fun _ => rfl⟩

theorem byAnswers_update (f : σ → Except Error σ) : ByAnswers (update f) := by
  refine byAnswers_of_apart fun s => ?_
  cases hs : f s with
  | ok t => exact ⟨.ok (), t, [], fun w => update_ok hs w⟩
  | error e => exact ⟨.error e, s, [], fun w => update_error hs w⟩

/-- What depends on the local time only may be read off the world. -/
theorem byAnswers_now {f : Calendar.DateTime → Act σ α} (hf : ∀ now, ByAnswers (f now)) :
    ByAnswers (world >>= fun w => f w.now) := by
  intro s w w' hinserts hnow
  have hsame : f w'.now = f w.now := by rw [hnow]
  rw [world_bind, world_bind, hsame]
  exact hf w.now s w w' hinserts hnow

theorem ByAnswers.bind {a : Act σ α} {f : α → Act σ β} (ha : ByAnswers a)
    (hf : ∀ x, ByAnswers (f x)) : ByAnswers (a >>= f) := by
  intro s w w' hinserts hnow
  have hrun := ha s w w' hinserts hnow
  have hworld := ha.world_eq s w
  cases hresult : (a s w).result with
  | error e =>
    rw [bind_of_error hresult, bind_of_error (by rw [hrun]; exact hresult), hrun]
  | ok x =>
    have hnow' : w'.now = (a s w).world.now := by
      rw [hworld]
      exact hnow
    have hnext := hf x (a s w).state (a s w).world
      { w' with inserts := (a s w).world.inserts } rfl hnow'
    rw [bind_of_ok hresult, bind_of_ok (x := x) (by rw [hrun]; exact hresult), hrun]
    dsimp only
    rw [hnext]

theorem ByAnswers.attempt {a : Act σ α} (h : ByAnswers a) : ByAnswers (attempt a) := by
  intro s w w' hinserts hnow
  unfold Act.attempt
  rw [h s w w' hinserts hnow]

theorem ByAnswers.within {a : Act τ α} (h : ByAnswers a) (t : τ) :
    ByAnswers (within t a : Act σ (α × τ)) := by
  intro s w w' hinserts hnow
  unfold Act.within
  rw [h t w w' hinserts hnow]

end Act

open Act

/-- An action between the opening and the closing of a connection takes no more from the world. -/
theorem withConnection_byAnswers {a : Act σ α} (ha : ByAnswers a) (settings : ConnectionSettings) :
    ByAnswers (withConnection settings a) := by
  have hopen : ByAnswers (openConnection settings : Act σ Unit) :=
    (byAnswers_ofExcept _).bind fun _ => byAnswers_emit _
  have hclosed : ByAnswers (always a (emit .disconnect)) := by
    intro s w w' hinserts hnow
    rw [always_emit, always_emit, ha s w w' hinserts hnow]
  exact hopen.bind fun _ => hclosed

namespace Statement

/-- An attempt to send takes one answer. -/
theorem send_byAnswers : ByAnswers send := by
  intro s w w' hinserts hnow
  unfold send
  by_cases hclosed : s.closed = true
  · rw [if_pos hclosed, if_pos hclosed, ← hinserts]
  · rw [if_neg hclosed, if_neg hclosed]
    unfold World.nextInsert
    rw [hinserts]
    cases hanswers : w.inserts with
    | nil => simp only [hanswers, ← hinserts.trans hanswers]
    | cons answer rest => cases answer <;> rfl

theorem trySend_byAnswers (codes : List Cell) : ByAnswers (trySend codes) := by
  refine send_byAnswers.attempt.bind fun sent => ?_
  cases sent with
  | ok n => exact byAnswers_pure _
  | error e =>
    dsimp only
    by_cases hc : e.isClientError = true
    · simp only [hc, Bool.not_true, Bool.false_eq_true, ↓reduceIte]
      refine (byAnswers_ofExcept _).bind fun failure => ?_
      cases failure.kind with
      | retryable => exact byAnswers_pure _
      | unknown => exact (byAnswers_modify _).bind fun _ => byAnswers_fail _
      | _ => exact byAnswers_fail _
    · simp only [hc, Bool.not_false, ↓reduceIte]
      exact byAnswers_fail e

theorem deliverWithin_byAnswers (codes : List Cell) :
    ∀ n, ByAnswers (deliverWithin codes n) := by
  have hfinish : ByAnswers finish := (byAnswers_modify _).bind fun _ => byAnswers_pure _
  intro n
  induction n with
  | zero =>
    refine (trySend_byAnswers codes).bind fun code => ?_
    cases code with
    | none => exact hfinish
    | some code =>
      exact byAnswers_get.bind fun _ => (byAnswers_log _ _ _).bind fun _ =>
        (byAnswers_modify _).bind fun _ => byAnswers_pure _
  | succ n ih =>
    refine (trySend_byAnswers codes).bind fun code => ?_
    cases code with
    | none => exact hfinish
    | some code =>
      have hnote : ByAnswers (noteRetry code n) := byAnswers_log _ _ _
      exact hnote.bind fun _ => ih

theorem bindFields_byAnswers (now : Calendar.DateTime) (input : List String) (r : Row) :
    ∀ (columns : List (String × ColumnType)) (i : Nat),
    ByAnswers (bindFields now input r i columns)
  | [], _ => byAnswers_pure _
  | (_, _) :: rest, i =>
    (byAnswers_update _).bind fun _ => bindFields_byAnswers now input r rest (i + 1)

end Statement

namespace PartitionPlan

variable (plan : PartitionPlan)

theorem flush_byAnswers (x : Statement) (stats : PartitionStats) :
    ByAnswers (plan.flush x stats : Act σ PartitionStats) :=
  (byAnswers_log _ _ _).bind fun _ =>
    ((Statement.deliverWithin_byAnswers _ _).within x).bind fun _ => byAnswers_pure _

theorem takeRow_byAnswers (r : Row) : ByAnswers (plan.takeRow r) :=
  (byAnswers_now fun now => Statement.bindFields_byAnswers now _ r _ 0).bind fun _ =>
    byAnswers_update _

theorem loadRows_byAnswers : ∀ (rows : List Row) (x : Statement) (pending : Nat)
    (stats : PartitionStats), ByAnswers (plan.loadRows rows x pending stats : Act σ PartitionStats)
  | [], x, _, stats => plan.flush_byAnswers x stats
  | r :: rest, x, pending, stats => by
    rw [loadRows]
    refine ((plan.takeRow_byAnswers r).within x).bind fun taken => ?_
    dsimp only
    by_cases hfull : plan.bulkSize ≤ pending + 1
    · rw [if_pos hfull]
      exact (plan.flush_byAnswers _ _).bind fun _ => loadRows_byAnswers rest _ _ _
    · rw [if_neg hfull]
      exact loadRows_byAnswers rest _ _ _

/-- The load of a partition takes answers from the world and reads the local time, and that is
all. -/
theorem loadPartition_byAnswers (rows : List Row) :
    ByAnswers (plan.loadPartition rows : Act σ PartitionStats) :=
  (withConnection_byAnswers (plan.loadRows_byAnswers rows _ _ _) _).bind fun _ =>
    (byAnswers_log _ _ _).bind fun _ => byAnswers_pure _

end PartitionPlan

theorem loadPartitions_byAnswers (plan : PartitionPlan) : ∀ partitions : List (List Row),
    ByAnswers (Sink.loadPartitions plan partitions : Act σ Unit)
  | [] => byAnswers_pure _
  | rows :: rest => (plan.loadPartition_byAnswers rows).bind fun _ =>
      (byAnswers_emit _).bind fun _ => loadPartitions_byAnswers plan rest

end TableLoader
