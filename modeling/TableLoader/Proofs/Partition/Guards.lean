/-
# Guards that never stop a load

A statement guards itself: it refuses everything once it is closed, it has no parameter
outside its placeholders, and it takes no row with a parameter that is not bound. A
load never meets these guards. At every point that it reaches, its statement is open,
and of the parameters exactly those of the columns before the point are bound
(`Holds`, `Step.ready`); so the next one is free, and when the row goes into the batch
none is left out (`Passes`). A statement that was flushed is replaced at once. What
ends a load is a value that cannot be converted, or the client, and nothing else
(`Fails.ends`); and every load ends (`exists_end`).

Key definitions: `Holds`, `Ready`, `Passes`, `Error.isGuard`.
Key theorems: `Step.ready`, `Ready.passes`, `Fails.ends`, `exists_end`,
`loadPartition_unguarded`.
-/
import TableLoader.Proofs.Address.Errors
import TableLoader.Proofs.Partition.Points
import TableLoader.Proofs.Statement.Defaults
import TableLoader.Proofs.Statement.Retries

namespace TableLoader

/-- The error is one with which a statement or a default guards itself. -/
def Error.isGuard : Error → Bool
  | .closedStatement | .badIndex _ | .unbound _ | .typeCount .. | .noTextDefault _ => true
  | _ => false

theorem Error.EndsLoad.not_isGuard {e : Error} (h : e.EndsLoad) : e.isGuard = false := by
  cases h <;> rfl

namespace PartitionPlan

variable (plan : PartitionPlan)

/-! ### What a statement holds -/

/-- The statement is open, and exactly its first `k` parameters are bound. -/
structure Holds (s : Statement) (k : Nat) : Prop where
  opened : s.closed = false
  bounded : k ≤ plan.columns.length
  parameters : ∃ done : List Parameter, done.length = k ∧
    s.parameters = done.map some ++ List.replicate (plan.columns.length - k) none

/-- At the point the statement holds the parameters of the columns before it. -/
def Ready (p : Point) : Prop := plan.Holds p.statement p.site.bound

variable {plan} {s s' : Statement} {k : Nat}

theorem columns_length (plan : PartitionPlan) :
    plan.columns.length = plan.insert.placeholders := plan.length_columns

theorem holds_statement (plan : PartitionPlan) : plan.Holds plan.statement 0 := by
  refine ⟨rfl, Nat.zero_le _, [], rfl, ?_⟩
  rw [columns_length, Nat.sub_zero]
  rfl

theorem Holds.length_parameters (h : plan.Holds s k) :
    s.parameters.length = plan.columns.length := by
  obtain ⟨done, rfl, hp⟩ := h.parameters
  have hbounded := h.bounded
  rw [hp, List.length_append, List.length_map, List.length_replicate]
  omega

/-- The next parameter is not bound yet. -/
theorem Holds.free (h : plan.Holds s k) (hk : k < plan.columns.length) :
    s.parameters[k]? = some none := by
  obtain ⟨done, rfl, hp⟩ := h.parameters
  rw [hp, List.getElem?_append_right (by simp), List.length_map, Nat.sub_self,
    List.getElem?_replicate_of_lt (by omega)]

/-- The next parameter can be bound, and then it is held as well. -/
theorem Holds.bind (h : plan.Holds s k) (hk : k < plan.columns.length) (x : Parameter) :
    s.bind k x = .ok { s with parameters := s.parameters.set k (some x) } ∧
      plan.Holds { s with parameters := s.parameters.set k (some x) } (k + 1) := by
  have hbind := Statement.bind_open h.opened (h.length_parameters ▸ hk) x
  refine ⟨hbind, h.opened, hk, ?_⟩
  obtain ⟨done, rfl, hp⟩ := h.parameters
  refine ⟨done ++ [x], by simp, ?_⟩
  have hrest : plan.columns.length - done.length = plan.columns.length - (done.length + 1) + 1 := by
    omega
  rw [hrest] at hp
  have hnext := Statement.bind_next h.opened hp x
  exact congrArg Statement.parameters (Except.ok.inj (hbind.symm.trans hnext))

/-- With all parameters held none is left out. -/
theorem Holds.unboundIndices (h : plan.Holds s plan.columns.length) : s.unboundIndices = [] := by
  obtain ⟨done, -, hp⟩ := h.parameters
  rw [Nat.sub_self, List.replicate_zero, List.append_nil] at hp
  rw [Statement.unboundIndices, List.map_eq_nil_iff, List.filter_eq_nil_iff]
  intro p hmem
  have hparameter := List.fst_mem_of_mem_zipIdx hmem
  rw [hp] at hparameter
  obtain ⟨x, -, hx⟩ := List.mem_map.mp hparameter
  rw [← hx]
  exact Bool.false_ne_true

/-- A statement that has taken a row holds nothing. -/
theorem Holds.addRow (h : plan.Holds s k) (hadd : s.addRow = .ok s') : plan.Holds s' 0 := by
  obtain ⟨-, -, row, -, rfl⟩ := Statement.addRow_eq_ok hadd
  refine ⟨h.opened, Nat.zero_le _, [], rfl, ?_⟩
  rw [h.length_parameters, Nat.sub_zero]
  rfl

/-! ### Steps and failures -/

variable {p q : Point} {e : Error}

/-- The parameter of a column is the next one. -/
theorem lt_of_column {c : String × ColumnType} (h : plan.columns[k]? = some c) :
    k < plan.columns.length :=
  (List.getElem?_eq_some_iff.mp h).1

/-- A step from a point that is ready leads to one. -/
theorem Step.ready (h : plan.Step p q) (hp : plan.Ready p) : plan.Ready q := by
  cases h with
  | row => exact hp
  | last => exact hp
  | @bound r k rest pending s s' w field t hcolumn hfield =>
    rw [Statement.bindField_eq] at hfield
    cases hparameter : fieldParameter w.now plan.inputFields r field t with
    | error e =>
      rw [hparameter] at hfield
      cases hfield
    | ok x =>
      rw [hparameter] at hfield
      obtain ⟨hbind, hnext⟩ := Holds.bind hp (lt_of_column hcolumn) x
      rw [← Except.ok.inj (hbind.symm.trans hfield)]
      exact hnext
  | kept _ hadd => exact Holds.addRow hp hadd
  | full _ hadd => exact Holds.addRow hp hadd
  | again => exact hp
  | @delivered _ more =>
    cases more with
    | none => exact holds_statement plan
    | some rest => exact holds_statement plan
  | @dropped more =>
    cases more with
    | none => exact holds_statement plan
    | some rest => exact holds_statement plan

/-- Every point that is reached is ready. -/
theorem Reached.ready {rows : List Row} {w : World} (h : plan.Reached rows w p) : plan.Ready p := by
  induction h with
  | refl => exact holds_statement plan
  | tail _ hstep ih => exact hstep.ready ih

/-- A load that fails at a point that is ready does so with a value that cannot be converted, with
an error of the client that was sorted, or with an answer of the client that is none of its
errors. -/
theorem Fails.ends (h : plan.Fails p e) (hp : plan.Ready p) :
    e.EndsLoad ∨ some e ∈ p.world.inserts ∧ e.isClientError = false := by
  cases h with
  | @field r k rest pending s w field t e hcolumn hfield =>
    rw [Statement.bindField_eq] at hfield
    cases hparameter : fieldParameter w.now plan.inputFields r field t with
    | error e' =>
      rw [hparameter] at hfield
      obtain rfl := Except.error.inj hfield
      obtain ⟨f, rfl⟩ := fieldParameter_faults _ _ _ _ _ _ hparameter
      exact .inl (.fault f)
    | ok x =>
      rw [hparameter] at hfield
      cases (Holds.bind hp (lt_of_column hcolumn) x).1.symm.trans hfield
  | @row r k rest pending s w e hk hadd =>
    subst hk
    -- All parameters are bound, so what fails is a value of the row.
    have hrow : s.row = .error e := by
      rw [Statement.addRow, hp.opened, Holds.unboundIndices hp] at hadd
      simp only [Bool.false_eq_true, ↓reduceIte, ne_eq, not_true_eq_false] at hadd
      cases hrow : s.row with
      | error e' =>
        rw [hrow] at hadd
        exact congrArg _ (Except.error.inj hadd)
      | ok row =>
        rw [hrow] at hadd
        cases hadd
    obtain ⟨f, rfl⟩ := FaultsOnly.mapM
      (fun x : ColumnType × Parameter => x.2.sent_faults x.1) _ e hrow
    exact .inl (.fault f)
  | @attempt left more s w e hsend =>
    cases hanswer : w.inserts.getD 0 none with
    | none =>
      rw [Statement.trySend_success hp.opened hanswer] at hsend
      cases hsend
    | some answer =>
      rcases Statement.trySend_failure plan.codes hp.opened hanswer with
        ⟨-, code, hrun⟩ | ⟨e', s', hends, hrun⟩
      · rw [hrun] at hsend
        cases hsend
      · rw [hrun] at hsend
        obtain rfl := Except.error.inj hsend
        have hmem : some answer ∈ w.inserts :=
          World.mem_inserts_of_mem_outcomes (n := 1) (by rw [World.outcomes_one, hanswer]; simp)
        cases hends with
        | foreign hforeign => exact .inr ⟨hmem, hforeign⟩
        | sorted => exact .inl (.driver _)
        | unwritable | unhashable => exact .inl (.fault _)

/-- From a point that is ready a load steps on, unless it is at its end or fails there. -/
theorem Ready.progress (hp : plan.Ready p) :
    p.site = .done ∨ (∃ q, plan.Step p q) ∨ ∃ e, plan.Fails p e := by
  obtain ⟨site, s, w⟩ := p
  cases site with
  | done => exact .inl rfl
  | row rows pending =>
    cases rows with
    | nil => exact .inr (.inl ⟨_, .last⟩)
    | cons r rest => exact .inr (.inl ⟨_, .row⟩)
  | column r k rest pending =>
    refine .inr ?_
    cases hcolumn : plan.columns[k]? with
    | some c =>
      cases hfield : Statement.bindField w.now plan.inputFields r k c.1 c.2 s with
      | error e => exact .inr ⟨e, .field hcolumn hfield⟩
      | ok s' => exact .inl ⟨_, .bound hcolumn hfield⟩
    | none =>
      have hk : k = plan.columns.length :=
        Nat.le_antisymm hp.bounded (List.getElem?_eq_none_iff.mp hcolumn)
      cases hadd : s.addRow with
      | error e => exact .inr ⟨e, .row hk hadd⟩
      | ok s' =>
        by_cases hfull : plan.bulkSize ≤ pending + 1
        · exact .inl ⟨_, .full hk hadd hfull⟩
        · exact .inl ⟨_, .kept hk hadd (Nat.lt_of_not_le hfull)⟩
  | attempt left more =>
    refine .inr ?_
    cases hanswer : w.inserts.getD 0 none with
    | none => exact .inl ⟨_, .delivered (Statement.trySend_success hp.opened hanswer)⟩
    | some answer =>
      rcases Statement.trySend_failure plan.codes hp.opened hanswer with
        ⟨-, code, hrun⟩ | ⟨e', s', -, hrun⟩
      · cases left with
        | zero => exact .inl ⟨_, .dropped hrun⟩
        | succ left => exact .inl ⟨_, .again hrun⟩
      · exact .inr ⟨e', .attempt (by rw [hrun])⟩

/-! ### The end -/

/-- The most steps that a row takes. -/
def rowWeight (plan : PartitionPlan) : Nat := plan.columns.length + plan.furtherAttempts + 4

/-- The most steps that a load takes from where it stands. -/
def weight (plan : PartitionPlan) : Site → Nat
  | .row rows _ => (rows.length + 1) * plan.rowWeight
  | .column _ k rest _ => (rest.length + 1) * plan.rowWeight + (plan.columns.length - k) +
      plan.furtherAttempts + 3
  | .attempt left none => left + 1
  | .attempt left (some rest) => (rest.length + 1) * plan.rowWeight + left + 1
  | .done => 0

theorem Step.weight_lt (h : plan.Step p q) : plan.weight q.site < plan.weight p.site := by
  cases h with
  | row =>
    simp only [weight, rowWeight, List.length_cons, Nat.add_mul]
    omega
  | last =>
    simp only [weight, rowWeight, List.length_nil, Nat.zero_add, Nat.one_mul]
    omega
  | bound hcolumn =>
    have hk := lt_of_column hcolumn
    simp only [weight]
    omega
  | kept | full =>
    simp only [weight]
    omega
  | @again left more =>
    cases more with
    | none => exact Nat.lt_succ_self _
    | some rest => exact Nat.lt_succ_self _
  | @delivered left more =>
    cases more with
    | none => exact Nat.succ_pos _
    | some rest =>
      simp only [weight, Site.next]
      omega
  | @dropped more =>
    cases more with
    | none => exact Nat.succ_pos _
    | some rest => exact Nat.lt_succ_self _

/-- From every point that is ready a load comes to its end, or to a point where it fails. -/
theorem exists_end (hp : plan.Ready p) :
    ∃ q, Relation.ReflTransGen plan.Step p q ∧ (q.site = .done ∨ ∃ e, plan.Fails q e) := by
  -- No step goes back: each one takes something from the weight of what is left.
  induction hweight : plan.weight p.site using Nat.strong_induction_on generalizing p with
  | _ n ih =>
    rcases hp.progress with hdone | ⟨q, hstep⟩ | hfails
    · exact ⟨p, .refl, .inl hdone⟩
    · have hlt := hstep.weight_lt
      rw [hweight] at hlt
      obtain ⟨q', hsteps, hend⟩ := ih _ hlt (hstep.ready hp) rfl
      exact ⟨q', .head hstep hsteps, hend⟩
    · exact ⟨p, .refl, .inr hfails⟩

/-- The load of rows fails exactly where a point that it reaches fails. -/
theorem loadRows_error_iff {σ : Type} (rows : List Row) (x : σ) (w : World) :
    (plan.loadRows rows plan.statement 0 .none x w).result = .error e ↔
      ∃ p, plan.Reached rows w p ∧ plan.Fails p e := by
  constructor
  · intro h
    have hstart : plan.Ready ⟨.row rows 0, plan.statement, w⟩ := holds_statement plan
    obtain ⟨p, hreached, hend⟩ := exists_end hstart
    obtain ⟨stats, es, hrun⟩ := Reached.run hreached x
    rw [hrun, Ran.after_result] at h
    rcases hend with hdone | ⟨e', hfails⟩
    · rw [remaining, hdone] at h
      cases h
    · obtain rfl := Except.error.inj ((hfails.run stats x).symm.trans h)
      exact ⟨p, hreached, hfails⟩
  · rintro ⟨p, hreached, hfails⟩
    obtain ⟨stats, es, hrun⟩ := Reached.run hreached x
    rw [hrun, Ran.after_result, hfails.run]

/-! ### Guards -/

/-- No guard of the statement stops the load at the point. -/
structure Passes (plan : PartitionPlan) (p : Point) : Prop where
  /-- what the statement is asked for, it is open -/
  opened : p.statement.closed = false
  /-- before a row nothing is bound -/
  clear : ∀ rows pending, p.site = .row rows pending → ∀ x ∈ p.statement.parameters, x = none
  /-- the row is bound field by field, and if that does not fail each field has its parameter -/
  renders : ∀ r rest pending, p.site = .row (r :: rest) pending →
    (Statement.bindRow plan.insert.fields plan.types plan.inputFields r p.statement
      p.world).result = .ok () →
      ∃ xs, rowParameters p.world.now plan.inputFields r plan.columns = .ok xs ∧
      xs.length = plan.insert.placeholders ∧
      (Statement.bindRow plan.insert.fields plan.types plan.inputFields r p.statement
        p.world).state = { p.statement with parameters := xs.map some }
  /-- the parameter of a column is not bound before, and whatever it is it can be bound -/
  binds : ∀ r k rest pending, p.site = .column r k rest pending → k < plan.insert.placeholders →
    p.statement.parameters[k]? = some none ∧ ∀ x, p.statement.bind k x =
      .ok { p.statement with parameters := p.statement.parameters.set k (some x) }
  /-- when the row goes into the batch no parameter is left out -/
  complete : ∀ r rest pending, p.site = .column r plan.insert.placeholders rest pending →
    p.statement.unboundIndices = []

theorem Ready.passes (hp : plan.Ready p) : plan.Passes p := by
  have hnothing : ∀ {s : Statement}, plan.Holds s 0 →
      s.parameters = List.replicate plan.columns.length none := fun hs => by
    obtain ⟨done, hdone, hparameters⟩ := hs.parameters
    rw [hparameters, List.length_eq_zero_iff.mp hdone]
    rfl
  obtain ⟨site, s, w⟩ := p
  refine ⟨hp.opened, ?_, ?_, ?_, ?_⟩
  · rintro rows pending rfl x hx
    rw [hnothing hp] at hx
    exact List.eq_of_mem_replicate hx
  · rintro r rest pending rfl hreturns
    obtain ⟨s', hrun, hs'⟩ := Statement.bindFields_run w.now plan.inputFields r plan.columns []
      hp.opened (hnothing hp) w
    have hbind : Statement.bindRow plan.insert.fields plan.types plan.inputFields r s w =
        ⟨(rowParameters w.now plan.inputFields r plan.columns).map fun _ => (), s', w, []⟩ := hrun
    dsimp only at hreturns ⊢
    rw [hbind] at hreturns ⊢
    cases hxs : rowParameters w.now plan.inputFields r plan.columns with
    | error e =>
      rw [hxs] at hreturns
      cases hreturns
    | ok xs =>
      exact ⟨xs, rfl, (length_rowParameters hxs).trans plan.columns_length, hs' xs hxs⟩
  · rintro r k rest pending rfl hk
    rw [← columns_length] at hk
    exact ⟨Holds.free hp hk, fun x => (Holds.bind hp hk x).1⟩
  · rintro r rest pending rfl
    have hall : plan.Holds s plan.columns.length := by
      rw [columns_length]
      exact hp
    exact hall.unboundIndices

/-- A column of texts, days or times has a default text, and that is what a field of it gets. -/
theorem exists_defaultText (now : Calendar.DateTime) {type : PlainType}
    (h : type ∈ [PlainType.string, .date, .dateTime]) (raw : String) : ∃ text,
      (ColumnType.parse type.name).defaultText? now = some text ∧
      (ColumnType.plain type raw).defaultParameter now = ⟨.varchar, .text text⟩ := by
  have hparse : ColumnType.parse type.name = .plain type type.name := by
    simp only [List.mem_cons, List.not_mem_nil, or_false] at h
    rcases h with rfl | rfl | rfl <;> decide +kernel
  rw [hparse]
  simp only [List.mem_cons, List.not_mem_nil, or_false] at h
  rcases h with rfl | rfl | rfl <;> exact ⟨_, rfl, rfl⟩

/-- **A load never meets a guard.** Whatever the rows are and whatever the client answers:
statements can be opened, default texts exist, and at every point that the load reaches no guard of
the statement stops it. If it fails there, it fails with a value that cannot be converted or with
what the client answers, and it fails nowhere else. So the error of a guard is the result only if
the client itself answers with it. -/
theorem loadPartition_unguarded {σ : Type} (plan : PartitionPlan) (rows : List Row) (x : σ)
    (w : World) :
    Statement.open? plan.insert plan.types = .ok plan.statement ∧
    (∀ now raw, ∀ type ∈ [PlainType.string, .date, .dateTime], ∃ text,
      (ColumnType.parse type.name).defaultText? now = some text ∧
      (ColumnType.plain type raw).defaultParameter now = ⟨.varchar, .text text⟩) ∧
    (∀ p, plan.Reached rows w p → plan.Passes p ∧
      (∃ stats es, plan.loadRows rows plan.statement 0 .none x w =
        (plan.remaining p stats x).after es) ∧
      ∀ e, plan.Fails p e → e.EndsLoad ∨ some e ∈ p.world.inserts ∧ e.isClientError = false) ∧
    (∀ e, (plan.loadRows rows plan.statement 0 .none x w).result = .error e ↔
      ∃ p, plan.Reached rows w p ∧ plan.Fails p e) ∧
    ∀ e, (plan.loadPartition rows x w).result = .error e → e.isGuard = true →
      some e ∈ w.inserts := by
  refine ⟨if_pos plan.types_aligned, fun now raw type htype => exists_defaultText now htype raw,
    fun p hreached => ?_, fun e => loadRows_error_iff rows x w, fun e herror hguard => ?_⟩
  · have hready := Reached.ready hreached
    exact ⟨hready.passes, Reached.run hreached x, fun e hfails => hfails.ends hready⟩
  · rcases loadPartition_error herror with haddress | hends | ⟨hanswer, -⟩
    · rcases ConnectionSettings.address_error haddress with ⟨entry, rfl⟩ | ⟨f, rfl⟩
      · cases hguard
      · cases hguard
    · rw [hends.not_isGuard] at hguard
      cases hguard
    · exact hanswer

/-- A batch of two rows is refused once, and sent again. -/
theorem smallPlan_reached : (smallPlan [7] 1).Reached [[("n", .int 1)], [("n", .int 2)]]
    (answering [some (reported 7)]) ⟨.row [] 0, (smallPlan [7] 1).statement, answering []⟩ := by
  have hcovers : (⟨[7], 1⟩ : RetryPolicy).Covers (reported 7) :=
    ⟨⟨rfl, 7, List.mem_singleton_self _, by decide +kernel⟩, by decide +kernel⟩
  refine .head .row <| .head (.bound rfl rfl) <| .head (.kept rfl rfl (by decide)) <|
    .head .row <| .head (.bound rfl rfl) <| .head (.full rfl rfl (by decide)) ?_
  exact .head (.again (Statement.trySend_covered rfl rfl hcovers)) (.single (.delivered rfl))

/-- The statement is replaced after a batch that was sent twice; a row has no column of the name;
and the client answers with the error of a guard. -/
theorem smallPlan_unguarded :
    (smallPlan [7] 1).Passes ⟨.row [] 0, (smallPlan [7] 1).statement, answering []⟩ ∧
    (Error.fault .noColumn).EndsLoad ∧
    some Error.closedStatement ∈ (answering [some .closedStatement]).inserts := by
  obtain ⟨-, -, hpoints, -⟩ := loadPartition_unguarded (smallPlan [7] 1)
    [[("n", .int 1)], [("n", .int 2)]] () (answering [some (reported 7)])
  obtain ⟨-, -, hfailing, -⟩ := loadPartition_unguarded (smallPlan [7] 1) [[]] () (answering [])
  obtain ⟨-, -, -, -, hguarded⟩ :=
    loadPartition_unguarded (smallPlan [7] 1) [] () (answering [some .closedStatement])
  refine ⟨(hpoints _ smallPlan_reached).1, ?_, hguarded _ rfl rfl⟩
  rcases (hfailing _ (.single .row)).2.2 _ (.field rfl rfl) with hends | ⟨hmem, -⟩
  · exact hends
  · cases hmem

end PartitionPlan
end TableLoader
