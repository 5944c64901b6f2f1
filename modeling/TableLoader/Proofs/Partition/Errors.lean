/-
# With which errors a load fails

A value that cannot be bound or sent fails with a fault, and nothing else
(`FaultsOnly`): the rules follow the ways in which conversions are put together. So
a load that fails does so because there is no address, with a fault, with an error of
the client that was sorted, or with an answer of the client that is none of its own
errors and passes as it is (`loadPartition_error`). It never fails with what a check
finds wrong with a configuration, unless the client answers so.

Key definitions: `FaultsOnly`.
Key theorems: `tuple_faults`, `Delivery.error_cases`, `loadPartition_error`.
-/
import TableLoader.Proofs.Partition.Run

namespace TableLoader

open Calendar

/-- The conversion fails with a fault, if it fails. -/
def FaultsOnly {α : Type} (x : Except Error α) : Prop := ∀ e, x = .error e → ∃ f, e = .fault f

section Faults

variable {α β : Type}

theorem faultsOnly_ok (a : α) : FaultsOnly (.ok a) := by
  intro e he
  cases he

theorem faultsOnly_fault (f : Fault) : FaultsOnly (.error (.fault f) : Except Error α) := by
  intro e he
  exact ⟨f, (Except.error.inj he).symm⟩

theorem faultsOnly_orFault (f : Fault) (x : Option α) : FaultsOnly (orFault f x) := by
  cases x with
  | none => exact faultsOnly_fault f
  | some a => exact faultsOnly_ok a

theorem FaultsOnly.map {x : Except Error α} (h : FaultsOnly x) (g : α → β) :
    FaultsOnly (x.map g) := by
  cases x with
  | error e =>
    intro e' he'
    exact h e' (congrArg Except.error (Except.error.inj he'))
  | ok a => exact faultsOnly_ok (g a)

theorem FaultsOnly.bind {x : Except Error α} {g : α → Except Error β} (h : FaultsOnly x)
    (hg : ∀ a, FaultsOnly (g a)) : FaultsOnly (x >>= g) := by
  cases x with
  | error e =>
    intro e' he'
    exact h e' (congrArg Except.error (Except.error.inj he'))
  | ok a => exact hg a

theorem FaultsOnly.mapM {g : α → Except Error β} (hg : ∀ a, FaultsOnly (g a)) :
    ∀ l : List α, FaultsOnly (l.mapM g)
  | [] => faultsOnly_ok []
  | a :: l => by
    rw [List.mapM_cons]
    exact (hg a).bind fun b => (FaultsOnly.mapM hg l).bind fun bs => faultsOnly_ok (b :: bs)

end Faults

/-! ### Conversions -/

theorem Cell.toText_faults (c : Cell) : FaultsOnly c.toText := by
  unfold Cell.toText
  by_cases h : c.isWritable = true
  · rw [if_pos h]
    exact faultsOnly_ok _
  · rw [if_neg h]
    exact faultsOnly_fault _

theorem Cell.toInteger_faults (c : Cell) : FaultsOnly c.toInteger := by
  cases c with
  | flag b => exact faultsOnly_ok _
  | int n => exact faultsOnly_ok _
  | float x =>
    cases x with
    | finite => exact faultsOnly_ok _
    | infinity | nan => exact faultsOnly_fault _
  | decimal d =>
    cases d with
    | finite negative c e =>
      show FaultsOnly (if Number.Decimal.isVast c e = true then .error (.fault .noMemory)
        else .ok (Number.Decimal.truncate negative c e))
      by_cases h : Number.Decimal.isVast c e = true
      · rw [if_pos h]
        exact faultsOnly_fault _
      · rw [if_neg h]
        exact faultsOnly_ok _
    | infinity | nan => exact faultsOnly_fault _
  | text s => exact faultsOnly_orFault _ _
  | bytes bs => exact faultsOnly_orFault _ _
  | _ => exact faultsOnly_fault _

theorem Cell.toFloat_faults (c : Cell) : FaultsOnly c.toFloat := by
  cases c with
  | flag b => exact faultsOnly_orFault _ _
  | int n => exact faultsOnly_orFault _ _
  | float x => exact faultsOnly_ok _
  | decimal d =>
    cases d with
    | finite | infinity => exact faultsOnly_ok _
    | nan negative signaling payload =>
      cases signaling with
      | true => exact faultsOnly_fault _
      | false => exact faultsOnly_ok _
  | text s => exact faultsOnly_orFault _ _
  | bytes bs => exact faultsOnly_orFault _ _
  | _ => exact faultsOnly_fault _

theorem Cell.toDecimal_faults (c : Cell) : FaultsOnly c.toDecimal := by
  have hread : FaultsOnly (do orFault .badDecimal (Number.Decimal.read (← c.toText))) :=
    c.toText_faults.bind fun _ => faultsOnly_orFault _ _
  cases c with
  | decimal d => exact faultsOnly_ok d
  | _ => exact hread

theorem Cell.toItems_faults (c : Cell) : FaultsOnly c.toItems := by
  cases c with
  | text | bytes | list | tuple | dict | row => exact faultsOnly_ok _
  | _ => exact faultsOnly_fault _

theorem Conversion.apply_faults (k : Conversion) (c : Cell) : FaultsOnly (k.apply c) := by
  refine FaultsOnly.map ?_ _
  cases k with
  | text => exact faultsOnly_ok c
  | integer | long => exact c.toInteger_faults.map _
  | float | double => exact c.toFloat_faults.map _
  | decimal => exact c.toDecimal_faults.map _
  | array => exact c.toItems_faults.map _

theorem ColumnType.parameter_faults (t : ColumnType) (c : Cell) : FaultsOnly (t.parameter c) := by
  unfold parameter
  cases t.core with
  | plain type raw =>
    dsimp only
    cases type.conversion? with
    | some k => exact k.apply_faults c
    | none => exact c.toText_faults.bind fun _ => Conversion.apply_faults _ _
  | wrapped wrapper raw inner => exact Conversion.apply_faults _ _

theorem Parameter.sent_faults (t : ColumnType) (p : Parameter) : FaultsOnly (p.sent t) := by
  unfold sent
  split
  · exact (faultsOnly_orFault _ _).map _
  · exact (faultsOnly_orFault _ _).map _
  · exact faultsOnly_ok _

theorem fieldParameter_faults (now : DateTime) (input : List String) (r : Row) (field : String)
    (t : ColumnType) : FaultsOnly (fieldParameter now input r field t) := by
  unfold fieldParameter
  by_cases hmem : field ∉ input
  · rw [if_pos hmem]
    exact faultsOnly_ok _
  · rw [if_neg hmem]
    cases r.get? field with
    | none => exact faultsOnly_fault _
    | some c =>
      dsimp only
      by_cases hnull : c.isNull = true
      · rw [if_pos hnull]
        exact faultsOnly_ok _
      · rw [if_neg hnull]
        exact t.parameter_faults c

namespace PartitionPlan

/-- A row that has no tuple has a value that cannot be bound or sent. -/
theorem tuple_faults (plan : PartitionPlan) (now : DateTime) (r : Row) :
    FaultsOnly (plan.tuple now r) := by
  have hparameters : FaultsOnly
      (rowParameters now plan.inputFields r (plan.insert.fields.zip plan.types)) := by
    unfold rowParameters
    exact FaultsOnly.mapM
      (fun c : String × ColumnType => fieldParameter_faults now plan.inputFields r c.1 c.2) _
  have hconvert : ∀ ps, FaultsOnly (plan.convert ps) := by
    intro ps
    unfold convert
    exact FaultsOnly.mapM (fun x : ColumnType × Parameter => x.2.sent_faults x.1) _
  exact hparameters.bind hconvert

end PartitionPlan

/-! ### Deliveries and loads -/

/-- The error ends a load by itself: a fault, or an error of the client that was sorted. -/
inductive Error.EndsLoad : Error → Prop where
  | fault (f : Fault) : EndsLoad (.fault f)
  | driver (f : DriverFailure) : EndsLoad (.driver f)

/-- A delivery that fails does so by itself, or with an outcome that is no error of the client. -/
theorem Delivery.error_cases {codes : List Cell} {n : Nat} {outcomes : List (Option Error)}
    {e : Error} (h : Delivery codes n outcomes (.error e)) :
    e.EndsLoad ∨ some e ∈ outcomes ∧ e.isClientError = false := by
  obtain ⟨failures, -, hcases⟩ := h.cases
  rcases hcases with ⟨hr, -, -⟩ | ⟨hr, -, -⟩ | ⟨e₁, e₂, hr, ho, -, hend⟩
  · cases hr
  · cases hr
  · obtain rfl := Except.error.inj hr
    cases hend with
    | foreign hforeign => exact .inr ⟨by rw [ho]; simp, hforeign⟩
    | sorted => exact .inl (.driver _)
    | unwritable | unhashable => exact .inl (.fault _)

namespace PartitionPlan

variable {σ : Type} {plan : PartitionPlan}

/-- A load fails because there is no address, or by itself, or with an answer of the client that is
none of its errors. -/
theorem loadPartition_error {rows : List Row} {s : σ} {w : World} {e : Error}
    (h : (plan.loadPartition rows s w).result = .error e) :
    plan.connection.address = .error e ∨ e.EndsLoad ∨
      some e ∈ w.inserts ∧ e.isClientError = false := by
  cases haddr : plan.connection.address with
  | error e' =>
    rw [loadPartition_unaddressed haddr] at h
    obtain rfl := Except.error.inj h
    exact .inl rfl
  | ok url =>
    refine .inr ?_
    have hdelivery : ∀ {sent : List Shipment} {batch : List (List Cell)}
        {outcomes : List (Option Error)}, plan.Delivers outcomes (.error e) →
        plan.Loads url (sent ++ [⟨batch, outcomes⟩]) w (plan.loadPartition rows s w) →
        e.EndsLoad ∨ some e ∈ w.inserts ∧ e.isClientError = false := by
      intro sent batch outcomes hd hloads
      rcases hd.error_cases with hends | ⟨hmem, hforeign⟩
      · exact .inl hends
      · have hmet : some e ∈ w.outcomes (allOutcomes (sent ++ [⟨batch, outcomes⟩])).length := by
          rw [← hloads.outcomes]
          simp [hmem]
        exact .inr ⟨World.mem_inserts_of_mem_outcomes hmet, hforeign⟩
    rcases loadPartition_run haddr rows s w with ⟨_, _, _, _, _, _, hresult, _⟩ |
      ⟨sent, left, outcomes, e', -, hd, hresult, hloads⟩ |
      ⟨pre, r, rest, sent, left, last, e', -, -, hstop, hresult, hloads, -⟩
    · cases hresult.symm.trans h
    · obtain rfl := Except.error.inj (hresult.symm.trans h)
      exact hdelivery hd hloads
    · obtain rfl := Except.error.inj (hresult.symm.trans h)
      cases hstop with
      | refused hr =>
        obtain ⟨f, rfl⟩ := plan.tuple_faults w.now r _ hr
        exact .inl (.fault f)
      | broken _ _ hd => exact hdelivery hd hloads

end PartitionPlan
end TableLoader
