/-
# What the load of a partition shows

Which events an action can cause, whatever its state and the world are
(`Act.Emits`). The rules follow the ways in which actions are put together. By
them the load of a partition shows calls of the client and records of its own log,
and nothing else (`loadPartition_emits`), so no line of the timing log
(`timingLines_of_load`).

Key definitions: `Act.Emits`, `Event.IsOfLoad`.
Key theorems: `Emits.bind`, `deliverWithin_emits`, `loadPartition_emits`.
-/
import TableLoader.Proofs.TimingLog
import TableLoader.PartitionLoad

namespace TableLoader

variable {σ τ α β : Type}

namespace Act

/-- All events of the action have a property. -/
def Emits (P : Event → Prop) (a : Act σ α) : Prop := ∀ s w, ∀ e ∈ (a s w).events, P e

variable {P : Event → Prop}

/-- An action without events. -/
theorem emits_of_nil {a : Act σ α} (h : ∀ s w, (a s w).events = []) : Emits P a := by
  intro s w e he
  rw [h s w] at he
  cases he

theorem emits_pure (x : α) : Emits P (pure x : Act σ α) := emits_of_nil fun _ _ => rfl

theorem emits_fail (e : Error) : Emits P (fail e : Act σ α) := emits_of_nil fun _ _ => rfl

theorem emits_get : Emits P (get : Act σ σ) := emits_of_nil fun _ _ => rfl

theorem emits_world : Emits P (world : Act σ World) := emits_of_nil fun _ _ => rfl

theorem emits_modify (f : σ → σ) : Emits P (modify f) := emits_of_nil fun _ _ => rfl

theorem emits_ofExcept (x : Except Error α) : Emits P (ofExcept x : Act σ α) := by
  cases x with
  | ok x => exact emits_pure x
  | error e => exact emits_fail e

theorem emits_update (f : σ → Except Error σ) : Emits P (update f) := by
  refine emits_of_nil fun s w => ?_
  unfold update
  cases f s <;> rfl

theorem emits_emit {e : Event} (h : P e) : Emits P (emit e : Act σ Unit) := by
  intro s w e' he'
  rw [List.mem_singleton.mp he']
  exact h

theorem Emits.bind {a : Act σ α} {f : α → Act σ β} (ha : Emits P a) (hf : ∀ x, Emits P (f x)) :
    Emits P (a >>= f) := by
  intro s w e he
  cases hresult : (a s w).result with
  | error err =>
    rw [bind_of_error hresult] at he
    exact ha s w e he
  | ok x =>
    rw [bind_of_ok hresult] at he
    rcases List.mem_append.mp he with he | he
    · exact ha s w e he
    · exact hf x _ _ e he

theorem Emits.attempt {a : Act σ α} (ha : Emits P a) : Emits P (attempt a) :=
  fun s w e he => ha s w e he

theorem Emits.within {a : Act τ α} (ha : Emits P a) (t : τ) :
    Emits P (within t a : Act σ (α × τ)) :=
  fun _ w e he => ha t w e he

theorem Emits.always {a : Act σ α} {last : Act σ Unit} (ha : Emits P a) (hlast : Emits P last) :
    Emits P (always a last) := by
  intro s w e he
  rcases List.mem_append.mp he with he | he
  · exact ha s w e he
  · exact hlast _ _ e he

end Act

/-- The event is a call of the client or a record of the log of loading. -/
inductive Event.IsOfLoad : Event → Prop where
  | call {e : Event} : e.isClientCall = true → IsOfLoad e
  | record (level : LogLevel) (text : String) : IsOfLoad (.log level writerLog text)

open Act

theorem log_emits (level : LogLevel) (text : String) :
    Emits Event.IsOfLoad (Act.log level writerLog text : Act σ Unit) :=
  emits_emit (.record level text)

theorem withConnection_emits {a : Act σ α} (ha : Emits Event.IsOfLoad a)
    (settings : ConnectionSettings) : Emits Event.IsOfLoad (withConnection settings a) := by
  have hopen : Emits Event.IsOfLoad (openConnection settings : Act σ Unit) :=
    (emits_ofExcept _).bind fun address => emits_emit (.call rfl)
  exact hopen.bind fun _ => ha.always (emits_emit (.call rfl))

namespace Statement

theorem send_emits : Emits Event.IsOfLoad send := by
  intro s w e he
  unfold send at he
  by_cases hclosed : s.closed = true
  · rw [if_pos hclosed] at he
    cases he
  · rw [if_neg hclosed] at he
    cases hnext : w.nextInsert with
    | mk failure w' =>
      rw [hnext] at he
      cases failure with
      | none =>
        rw [List.mem_singleton.mp he]
        exact .call rfl
      | some _ =>
        rw [List.mem_singleton.mp he]
        exact .call rfl

theorem trySend_emits (codes : List Cell) : Emits Event.IsOfLoad (trySend codes) := by
  refine send_emits.attempt.bind fun sent => ?_
  cases sent with
  | ok n => exact emits_pure _
  | error e =>
    dsimp only
    by_cases hc : e.isClientError = true
    · simp only [hc, Bool.not_true, Bool.false_eq_true, ↓reduceIte]
      refine (emits_ofExcept _).bind fun failure => ?_
      cases failure.kind with
      | retryable => exact emits_pure _
      | unknown => exact (emits_modify _).bind fun _ => emits_fail _
      | _ => exact emits_fail _
    · simp only [hc, Bool.not_false, ↓reduceIte]
      exact emits_fail e

theorem deliverWithin_emits (codes : List Cell) :
    ∀ n, Emits Event.IsOfLoad (deliverWithin codes n) := by
  have hfinish : Emits Event.IsOfLoad finish := (emits_modify _).bind fun _ => emits_pure _
  intro n
  induction n with
  | zero =>
    refine (trySend_emits codes).bind fun code => ?_
    cases code with
    | none => exact hfinish
    | some code =>
      exact emits_get.bind fun _ => (log_emits _ _).bind fun _ =>
        (emits_modify _).bind fun _ => emits_pure _
  | succ n ih =>
    refine (trySend_emits codes).bind fun code => ?_
    cases code with
    | none => exact hfinish
    | some code =>
      have hnote : Emits Event.IsOfLoad (noteRetry code n) := log_emits _ _
      exact hnote.bind fun _ => ih

theorem bindFields_emits (now : Calendar.DateTime) (input : List String) (r : Row) :
    ∀ (columns : List (String × ColumnType)) (i : Nat),
    Emits Event.IsOfLoad (bindFields now input r i columns)
  | [], _ => emits_pure _
  | (_, _) :: rest, i => (emits_update _).bind fun _ => bindFields_emits now input r rest (i + 1)

end Statement

namespace PartitionPlan

variable (plan : PartitionPlan)

theorem flush_emits (x : Statement) (stats : PartitionStats) :
    Emits Event.IsOfLoad (plan.flush x stats : Act σ PartitionStats) :=
  (log_emits _ _).bind fun _ =>
    ((Statement.deliverWithin_emits _ _).within x).bind fun _ => emits_pure _

theorem takeRow_emits (r : Row) : Emits Event.IsOfLoad (plan.takeRow r) :=
  (emits_world.bind fun _ => Statement.bindFields_emits _ _ r _ 0).bind fun _ => emits_update _

theorem loadRows_emits : ∀ (rows : List Row) (x : Statement) (pending : Nat)
    (stats : PartitionStats),
    Emits Event.IsOfLoad (plan.loadRows rows x pending stats : Act σ PartitionStats)
  | [], x, _, stats => plan.flush_emits x stats
  | r :: rest, x, pending, stats => by
    rw [loadRows]
    refine ((plan.takeRow_emits r).within x).bind fun taken => ?_
    dsimp only
    by_cases hfull : plan.bulkSize ≤ pending + 1
    · rw [if_pos hfull]
      exact (plan.flush_emits _ _).bind fun _ => loadRows_emits rest _ _ _
    · rw [if_neg hfull]
      exact loadRows_emits rest _ _ _

/-- The load of a partition shows calls of the client and records of its own log only. -/
theorem loadPartition_emits (rows : List Row) :
    Emits Event.IsOfLoad (plan.loadPartition rows : Act σ PartitionStats) :=
  (withConnection_emits (plan.loadRows_emits rows _ _ _) _).bind fun _ =>
    (log_emits _ _).bind fun _ => emits_pure _

end PartitionPlan

/-- The load of a partition shows no line of the timing log. -/
theorem timingLines_of_load {es : List Event} (h : ∀ e ∈ es, e.IsOfLoad) : timingLines es = [] := by
  refine timingLines_eq_nil fun e he => ?_
  cases h e he with
  | record level text => exact timingLines_record (by decide) level text
  | call hcall =>
    cases e with
    | log => cases hcall
    | _ => rfl

end TableLoader
