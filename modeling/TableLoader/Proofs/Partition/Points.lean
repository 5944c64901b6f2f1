/-
# A load, point by point

Between any two uses of a statement a load stands at a point: before a row, before one
of the columns of a row or before the row goes into the batch, before an attempt to
send the batch, or at its end (`Site`, `Point`). From a point it steps to the next one,
or it fails there (`Step`, `Fails`). The points are those of the load itself: at each
point that is reached the load does what it has done so far and then what remains of
it there (`Reached.run`), and where the point fails the load fails (`Fails.run`).

Key definitions: `Site`, `Point`, `Step`, `Fails`, `Reached`, `remainder`.
Key theorems: `Step.run`, `Reached.run`, `Fails.run`.
-/
import Mathlib.Logic.Relation
import TableLoader.Proofs.DeliveryRun
import TableLoader.Proofs.RowTuple

namespace TableLoader

/-! ### Runs that begin in the middle -/

namespace Act

variable {σ τ α β γ : Type}

/-- A run that comes to be the run of another action goes on as that one does. -/
theorem bind_after {a b : Act σ α} {s s' : σ} {w w' : World} {es : List Event}
    (h : a s w = (b s' w').after es) (f : α → Act σ β) :
    (a >>= f) s w = ((b >>= f) s' w').after es := by
  cases hb : b s' w' with
  | mk x t v fs =>
    rw [hb] at h
    cases x with
    | error e =>
      rw [bind_error h, bind_error hb]
      rfl
    | ok x => rw [bind_ok h, bind_ok hb, Ran.after_after]

theorem within_after {a b : Act τ α} {t t' : τ} {w w' : World} {es : List Event}
    (h : a t w = (b t' w').after es) (s : σ) :
    within t a s w = (within t' b s w').after es := by
  simp only [within, h]
  rfl

theorem bind_assoc (a : Act σ α) (f : α → Act σ β) (g : β → Act σ γ) :
    (a >>= f) >>= g = a >>= fun x => f x >>= g := by
  funext s w
  cases ha : a s w with
  | mk x t v es =>
    cases x with
    | error e => rw [bind_error ha, bind_error (bind_error ha)]
    | ok x => rw [bind_ok ha, bind_after (bind_ok ha)]

end Act

namespace Statement

variable {codes : List Cell} {s s' : Statement} {w w' : World} {es : List Event}

/-- A batch that was sent is delivered, whatever attempts are left. -/
theorem deliverWithin_of_success (h : trySend codes s w = ⟨.ok none, s', w', es⟩) :
    ∀ left, ∃ fs, deliverWithin codes left s w = ⟨.ok true, s'.close, w', fs⟩
  | 0 => ⟨_, by rw [deliverWithin, Act.bind_ok h]; rfl⟩
  | _ + 1 => ⟨_, by rw [deliverWithin, Act.bind_ok h]; rfl⟩

/-- With no attempts left the batch is dropped. -/
theorem deliverWithin_zero_of_failure {code : Cell}
    (h : trySend codes s w = ⟨.ok (some code), s', w', es⟩) :
    ∃ fs, deliverWithin codes 0 s w = ⟨.ok false, s'.close, w', fs⟩ :=
  ⟨_, by rw [deliverWithin, Act.bind_ok h]; rfl⟩

end Statement

namespace PartitionPlan

/-! ### Points -/

/-- Where a load stands. -/
inductive Site where
  /-- before a row, with so many rows in the batch -/
  | row (rows : List Row) (pending : Nat)
  /-- before a column of a row, or before the row goes into the batch -/
  | column (r : Row) (k : Nat) (rest : List Row) (pending : Nat)
  /-- before an attempt, with so many left after it; then more rows follow, or none -/
  | attempt (left : Nat) (more : Option (List Row))
  /-- at the end -/
  | done

/-- What follows the last attempt of a batch. -/
def Site.next : Option (List Row) → Site
  | none => .done
  | some rest => .row rest 0

/-- The number of parameters that are bound where a load stands. -/
def Site.bound : Site → Nat
  | .column _ k _ _ => k
  | _ => 0

/-- Where a load stands, with its statement. -/
structure Point where
  site : Site
  statement : Statement
  world : World

variable (plan : PartitionPlan)

/-- The fields with their types. -/
def columns : List (String × ColumnType) := plan.insert.fields.zip plan.types

/-- The number of further attempts that each batch has. -/
def furtherAttempts : Nat := plan.policy.retries.toNat

/-- A load steps from one point to the next. -/
inductive Step : Point → Point → Prop where
  | row {r rest pending s w} :
      Step ⟨.row (r :: rest) pending, s, w⟩ ⟨.column r 0 rest pending, s, w⟩
  | last {pending s w} : Step ⟨.row [] pending, s, w⟩ ⟨.attempt plan.furtherAttempts none, s, w⟩
  | bound {r k rest pending s s' w field t} : plan.columns[k]? = some (field, t) →
      Statement.bindField w.now plan.inputFields r k field t s = .ok s' →
      Step ⟨.column r k rest pending, s, w⟩ ⟨.column r (k + 1) rest pending, s', w⟩
  | kept {r k rest pending s s' w} : k = plan.columns.length → s.addRow = .ok s' →
      pending + 1 < plan.bulkSize →
      Step ⟨.column r k rest pending, s, w⟩ ⟨.row rest (pending + 1), s', w⟩
  | full {r k rest pending s s' w} : k = plan.columns.length → s.addRow = .ok s' →
      plan.bulkSize ≤ pending + 1 →
      Step ⟨.column r k rest pending, s, w⟩ ⟨.attempt plan.furtherAttempts (some rest), s', w⟩
  | again {left : Nat} {more s w w' code es} :
      Statement.trySend plan.codes s w = ⟨.ok (some code), s, w', es⟩ →
      Step ⟨.attempt (left + 1) more, s, w⟩ ⟨.attempt left more, s, w'⟩
  | delivered {left more s s' w w' es} :
      Statement.trySend plan.codes s w = ⟨.ok none, s', w', es⟩ →
      Step ⟨.attempt left more, s, w⟩ ⟨.next more, plan.statement, w'⟩
  | dropped {more s s' w w' code es} :
      Statement.trySend plan.codes s w = ⟨.ok (some code), s', w', es⟩ →
      Step ⟨.attempt 0 more, s, w⟩ ⟨.next more, plan.statement, w'⟩

/-- A load fails at a point. -/
inductive Fails : Point → Error → Prop where
  | field {r k rest pending s w field t e} : plan.columns[k]? = some (field, t) →
      Statement.bindField w.now plan.inputFields r k field t s = .error e →
      Fails ⟨.column r k rest pending, s, w⟩ e
  | row {r k rest pending s w e} : k = plan.columns.length → s.addRow = .error e →
      Fails ⟨.column r k rest pending, s, w⟩ e
  | attempt {left more s w e} : (Statement.trySend plan.codes s w).result = .error e →
      Fails ⟨.attempt left more, s, w⟩ e

/-- The point is one at which the load of the rows comes to stand. -/
abbrev Reached (rows : List Row) (w : World) : Point → Prop :=
  Relation.ReflTransGen plan.Step ⟨.row rows 0, plan.statement, w⟩

/-! ### What remains -/

variable {σ : Type}

/-- What a load does after it has put a row into the batch. -/
def afterRow (rest : List Row) (pending : Nat) (stats : PartitionStats) (s : Statement) :
    Act σ PartitionStats :=
  let stats := { stats with rows := stats.rows + 1 }
  if plan.bulkSize ≤ pending + 1 then do
    let stats ← plan.flush s stats
    plan.loadRows rest plan.statement 0 stats
  else plan.loadRows rest s (pending + 1) stats

/-- What a load does after a batch has been delivered or dropped. -/
def afterBatch (more : Option (List Row)) (stats : PartitionStats) : Act σ PartitionStats :=
  match more with
  | none => return stats
  | some rest => plan.loadRows rest plan.statement 0 stats

/-- What remains of a load where it stands. -/
def remainder (stats : PartitionStats) : Site → Statement → Act σ PartitionStats
  | .row rows pending, s => plan.loadRows rows s pending stats
  | .column r k rest pending, s => do
    let w ← Act.world
    let (_, s) ← Act.within s do
      Statement.bindFields w.now plan.inputFields r k (plan.columns.drop k)
      Act.update Statement.addRow
    plan.afterRow rest pending stats s
  | .attempt left more, s => do
    let (delivered, _) ← Act.within s (Statement.deliverWithin plan.codes left)
    plan.afterBatch more { stats with
      batches := stats.batches + 1
      dropped := stats.dropped + if delivered then 0 else 1 }
  | .done, _ => return stats

/-- The run of what remains of a load at a point. -/
def remaining (p : Point) (stats : PartitionStats) (x : σ) : Ran σ PartitionStats :=
  plan.remainder stats p.site p.statement x p.world

variable {plan}

/-- A batch that has been delivered or dropped is counted, and the load goes on. -/
theorem remaining_attempt {left : Nat} {more : Option (List Row)} {s s' : Statement} {w w' : World}
    {delivered : Bool} {es : List Event}
    (h : Statement.deliverWithin plan.codes left s w = ⟨.ok delivered, s', w', es⟩)
    (stats : PartitionStats) (x : σ) :
    ∃ stats', plan.remaining ⟨.attempt left more, s, w⟩ stats x =
      (plan.remaining ⟨.next more, plan.statement, w'⟩ stats' x).after es := by
  refine ⟨{ stats with
    batches := stats.batches + 1
    dropped := stats.dropped + if delivered then 0 else 1 }, ?_⟩
  rw [remaining, remainder, Act.bind_ok (Act.within_ok x h)]
  cases more <;> rfl

/-- The columns behind a column that is bound. -/
theorem drop_columns {k : Nat} {c : String × ColumnType} (h : plan.columns[k]? = some c) :
    plan.columns.drop k = c :: plan.columns.drop (k + 1) := by
  obtain ⟨hk, rfl⟩ := List.getElem?_eq_some_iff.mp h
  exact List.drop_eq_getElem_cons hk

/-- Behind the last column the row goes into the batch. -/
theorem remaining_column {r : Row} {k : Nat} {rest : List Row} {pending : Nat} {s : Statement}
    {w : World} (hk : k = plan.columns.length) (stats : PartitionStats) (x : σ) :
    plan.remaining ⟨.column r k rest pending, s, w⟩ stats x =
      (Act.within s (Act.update Statement.addRow) >>= fun taken =>
        plan.afterRow rest pending stats taken.2) x w := by
  rw [remaining, remainder, hk, List.drop_length]
  rfl

/-- A batch that is full is delivered before the next row. -/
theorem afterRow_full {rest : List Row} {pending : Nat} (hfull : plan.bulkSize ≤ pending + 1)
    (stats : PartitionStats) (s : Statement) (w : World) (x : σ) :
    ∃ es, plan.afterRow rest pending stats s x w = (plan.remaining
      ⟨.attempt plan.furtherAttempts (some rest), s, w⟩
      { stats with rows := stats.rows + 1 } x).after es := by
  rw [afterRow, if_pos hfull, flush, Act.bind_assoc, Act.log_bind, Act.bind_assoc]
  exact ⟨_, rfl⟩

/-- A step is what the load does next; what remains of it at the next point follows. -/
theorem Step.run {p q : Point} (h : plan.Step p q) (stats : PartitionStats) (x : σ) :
    ∃ stats' es, plan.remaining p stats x = (plan.remaining q stats' x).after es := by
  cases h with
  | @row r rest pending s w =>
    have htake : plan.takeRow r s w = ((do
        Statement.bindFields w.now plan.inputFields r 0 plan.columns
        Act.update Statement.addRow : Act Statement Unit) s w).after [] := by
      rw [Ran.after_nil]
      rfl
    exact ⟨stats, [], Act.bind_after (Act.within_after htake x) _⟩
  | last => exact ⟨stats, _, rfl⟩
  | @bound r k rest pending s s' w field t hcolumn hfield =>
    refine ⟨stats, [], ?_⟩
    have hfields : Statement.bindFields w.now plan.inputFields r k (plan.columns.drop k) s w =
        (Statement.bindFields w.now plan.inputFields r (k + 1) (plan.columns.drop (k + 1))
          s' w).after [] := by
      rw [drop_columns hcolumn, Statement.bindFields, Act.bind_ok (Act.update_ok hfield w)]
    exact Act.bind_after (Act.within_after (Act.bind_after hfields _) x) _
  | @kept r k rest pending s s' w hk hadd hroom =>
    refine ⟨{ stats with rows := stats.rows + 1 }, [], ?_⟩
    rw [remaining_column hk, Act.bind_ok (Act.within_ok x (Act.update_ok hadd w)), afterRow,
      if_neg (Nat.not_le.mpr hroom)]
    rfl
  | @full r k rest pending s s' w hk hadd hfull =>
    obtain ⟨es, hrun⟩ := afterRow_full hfull stats s' w x
    refine ⟨{ stats with rows := stats.rows + 1 }, es, ?_⟩
    rw [remaining_column hk, Act.bind_ok (Act.within_ok x (Act.update_ok hadd w)), Ran.after_nil]
    exact hrun
  | @again left more s w w' code es hsend =>
    have hdeliver := Statement.deliverWithin_succ left hsend
    exact ⟨stats, es ++ [Statement.retryNote code left],
      Act.bind_after (Act.within_after hdeliver x) _⟩
  | delivered hsend =>
    obtain ⟨fs, hdeliver⟩ := Statement.deliverWithin_of_success hsend _
    obtain ⟨stats', hrun⟩ := remaining_attempt hdeliver stats x
    exact ⟨stats', fs, hrun⟩
  | dropped hsend =>
    obtain ⟨fs, hdeliver⟩ := Statement.deliverWithin_zero_of_failure hsend
    obtain ⟨stats', hrun⟩ := remaining_attempt hdeliver stats x
    exact ⟨stats', fs, hrun⟩

/-- At a point that is reached a load has done what it has done so far, and does what remains of it
there. -/
theorem Reached.run {rows : List Row} {w : World} {p : Point} (h : plan.Reached rows w p) (x : σ) :
    ∃ stats es, plan.loadRows rows plan.statement 0 .none x w =
      (plan.remaining p stats x).after es := by
  induction h with
  | refl => exact ⟨.none, [], rfl⟩
  | tail _ hstep ih =>
    obtain ⟨stats, es, hrun⟩ := ih
    obtain ⟨stats', fs, hnext⟩ := hstep.run stats x
    exact ⟨stats', es ++ fs, by rw [hrun, hnext, Ran.after_after]⟩

/-- Where a point fails, what remains of the load fails. -/
theorem Fails.run {p : Point} {e : Error} (h : plan.Fails p e) (stats : PartitionStats) (x : σ) :
    (plan.remaining p stats x).result = .error e := by
  cases h with
  | @field r k rest pending s w field t e hcolumn hfield =>
    -- A column that fails ends the row before it goes into the batch.
    have hfields : (do
        Statement.bindFields w.now plan.inputFields r k (plan.columns.drop k)
        Act.update Statement.addRow : Act Statement Unit) s w = ⟨.error e, s, w, []⟩ := by
      rw [drop_columns hcolumn, Statement.bindFields]
      exact Act.bind_error (Act.bind_error (Act.update_error hfield w))
    have hrun := Act.bind_error (Act.within_error x hfields)
      (f := fun taken => plan.afterRow rest pending stats taken.2)
    exact congrArg Ran.result hrun
  | @row r k rest pending s w e hk hadd =>
    rw [remaining_column hk, Act.bind_error (Act.within_error x (Act.update_error hadd w))]
  | @attempt left more s w e hsend =>
    have hdeliver : ∃ s' w' es,
        Statement.deliverWithin plan.codes left s w = ⟨.error e, s', w', es⟩ := by
      have hran : Statement.trySend plan.codes s w = ⟨.error e, _, _, _⟩ :=
        congrArg (fun x => ({ Statement.trySend plan.codes s w with result := x } : Ran _ _)) hsend
      cases left with
      | zero => exact ⟨_, _, _, by rw [Statement.deliverWithin, Act.bind_error hran]⟩
      | succ left => exact ⟨_, _, _, by rw [Statement.deliverWithin, Act.bind_error hran]⟩
    obtain ⟨s', w', es, hdeliver⟩ := hdeliver
    rw [remaining, remainder, Act.bind_error (Act.within_error x hdeliver)]

end PartitionPlan
end TableLoader
