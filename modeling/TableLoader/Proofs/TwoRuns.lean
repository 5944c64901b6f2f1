/-
# Two runs side by side

Two runs of actions in worlds that differ in their environments only. What the
environments have in common is a relation `E` between them, what the states have in
common a relation `S`, and what the results have in common a relation `R`; errors are
the same. The events are the same but for the addresses of connections
(`Act.Alike`). The rules follow the ways in which actions are put together, so that
two runs are compared step by step: what an action is given alike it leaves alike.

Key definitions: `Event.withoutUrl`, `World.Alike`, `Ran.Alike`, `Act.Alike`.
Key theorems: `Alike.bind`, `Alike.always`, `Alike.within`, `withConnection_alike`.
-/
import TableLoader.Proofs.Results
import TableLoader.Proofs.Running
import TableLoader.Sink

namespace TableLoader

/-- The event without the address of a connection. -/
def Event.withoutUrl : Event → Event
  | .connect _ => .connect ""
  | e => e

/-- The worlds differ in their environments only, and these are related. -/
inductive World.Alike (E : Environment → Environment → Prop) : World → World → Prop
  | mk {w : World} {env : Environment} : E w.environment env →
      Alike E w { w with environment := env }

namespace World.Alike

variable {E : Environment → Environment → Prop} {w w' : World}

theorem environment (h : w.Alike E w') : E w.environment w'.environment := by
  cases h with
  | mk henv => exact henv

theorem registry (h : w.Alike E w') : w.registry = w'.registry := by
  cases h
  rfl

theorem loadFailure (h : w.Alike E w') : w.loadFailure = w'.loadFailure := by
  cases h
  rfl

theorem nextInsert (h : w.Alike E w') :
    w.nextInsert.1 = w'.nextInsert.1 ∧ w.nextInsert.2.Alike E w'.nextInsert.2 := by
  cases h with
  | mk henv =>
    rcases w with ⟨schema, inserts, describes, clock, now, epoch, old, files, timingLog, registry,
      loadFailure⟩
    cases inserts with
    | nil => exact ⟨rfl, .mk henv⟩
    | cons answer rest => exact ⟨rfl, .mk henv⟩

theorem nextDescribe (h : w.Alike E w') :
    w.nextDescribe.1 = w'.nextDescribe.1 ∧ w.nextDescribe.2.Alike E w'.nextDescribe.2 := by
  cases h with
  | mk henv =>
    rcases w with ⟨schema, inserts, describes, clock, now, epoch, old, files, timingLog, registry,
      loadFailure⟩
    cases describes with
    | nil => exact ⟨rfl, .mk henv⟩
    | cons answer rest => exact ⟨rfl, .mk henv⟩

theorem nextReading (h : w.Alike E w') :
    w.nextReading.1 = w'.nextReading.1 ∧ w.nextReading.2.Alike E w'.nextReading.2 := by
  cases h with
  | mk henv =>
    rcases w with ⟨schema, inserts, describes, clock, now, epoch, old, files, timingLog, registry,
      loadFailure⟩
    rcases clock with - | ⟨reading, - | ⟨next, rest⟩⟩
    · exact ⟨rfl, .mk henv⟩
    · exact ⟨rfl, .mk henv⟩
    · exact ⟨rfl, .mk henv⟩

end World.Alike

variable {E : Environment → Environment → Prop} {σ τ α β : Type}

/-- The runs end alike, with the same events but for the addresses of connections. -/
structure Ran.Alike (E : Environment → Environment → Prop) (S : σ → σ → Prop) (R : α → α → Prop)
    (r r' : Ran σ α) : Prop where
  result : ResultsAlike R r.result r'.result
  state : S r.state r'.state
  world : r.world.Alike E r'.world
  events : r.events.map Event.withoutUrl = r'.events.map Event.withoutUrl

theorem Ran.Alike.after {S : σ → σ → Prop} {R : α → α → Prop} {r r' : Ran σ α}
    (h : Ran.Alike E S R r r') (es : List Event) : Ran.Alike E S R (r.after es) (r'.after es) := by
  refine ⟨h.result, h.state, h.world, ?_⟩
  rw [Ran.after_events, Ran.after_events, List.map_append, List.map_append, h.events]

namespace Act

/-- From states and worlds that are alike the actions run alike. -/
def Alike (E : Environment → Environment → Prop) (S : σ → σ → Prop) (R : α → α → Prop)
    (a a' : Act σ α) : Prop :=
  ∀ s s' w w', S s s' → w.Alike E w' → Ran.Alike E S R (a s w) (a' s' w')

variable {S : σ → σ → Prop} {T : τ → τ → Prop} {R : α → α → Prop} {Q : β → β → Prop}

theorem alike_pure {x x' : α} (h : R x x') : Alike E S R (pure x) (pure x') :=
  fun _ _ _ _ hs hw => ⟨.ok h, hs, hw, rfl⟩

theorem alike_fail (e : Error) : Alike E S R (fail e) (fail e) :=
  fun _ _ _ _ hs hw => ⟨.error e, hs, hw, rfl⟩

theorem alike_ofExcept {x x' : Except Error α} (h : ResultsAlike R x x') :
    Alike E S R (ofExcept x) (ofExcept x') := by
  cases h with
  | ok h => exact alike_pure h
  | error e => exact alike_fail e

theorem alike_emit {e e' : Event} (h : e.withoutUrl = e'.withoutUrl) :
    Alike E S Eq (emit e) (emit e') :=
  fun _ _ _ _ hs hw => ⟨.ok rfl, hs, hw, congrArg (fun e => [e]) h⟩

theorem alike_log (level : LogLevel) (name text : String) :
    Alike E S Eq (log level name text) (log level name text) :=
  alike_emit rfl

theorem alike_get : Alike E S S get get := fun _ _ _ _ hs hw => ⟨.ok hs, hs, hw, rfl⟩

theorem alike_world : Alike E S (World.Alike E) world world :=
  fun _ _ _ _ hs hw => ⟨.ok hw, hs, hw, rfl⟩

theorem alike_modify {f f' : σ → σ} (h : ∀ s s', S s s' → S (f s) (f' s')) :
    Alike E S Eq (modify f) (modify f') :=
  fun s s' _ _ hs hw => ⟨.ok rfl, h s s' hs, hw, rfl⟩

theorem alike_changeWorld {f f' : World → World}
    (h : ∀ w w', w.Alike E w' → (f w).Alike E (f' w')) :
    Alike E S Eq (changeWorld f) (changeWorld f') :=
  fun _ _ w w' hs hw => ⟨.ok rfl, hs, h w w' hw, rfl⟩

theorem alike_update {f f' : σ → Except Error σ} (h : ∀ s s', S s s' → ResultsAlike S (f s) (f' s')) :
    Alike E S Eq (update f) (update f') := by
  intro s s' w w' hs hw
  unfold update
  rcases (h s s' hs).cases with ⟨t, t', ht, hf, hf'⟩ | ⟨e, hf, hf'⟩
  · rw [hf, hf']
    exact ⟨.ok rfl, ht, hw, rfl⟩
  · rw [hf, hf']
    exact ⟨.error e, hs, hw, rfl⟩

theorem alike_update_eq (f : σ → Except Error σ) : Alike E Eq Eq (update f) (update f) := by
  refine alike_update ?_
  rintro s _ rfl
  exact .refl _

theorem alike_readClock : Alike E S Eq readClock readClock :=
  fun _ _ _ _ hs hw => ⟨.ok hw.nextReading.1, hs, hw.nextReading.2, rfl⟩

theorem Alike.bind {a a' : Act σ α} {f f' : α → Act σ β} (ha : Alike E S R a a')
    (hf : ∀ x x', R x x' → Alike E S Q (f x) (f' x')) : Alike E S Q (a >>= f) (a' >>= f') := by
  intro s s' w w' hs hw
  obtain ⟨hresult, hstate, hworld, hevents⟩ := ha s s' w w' hs hw
  rcases hresult.cases with ⟨x, x', hx, hran, hran'⟩ | ⟨e, hran, hran'⟩
  · rw [bind_of_ok hran, bind_of_ok hran']
    obtain ⟨hresult, hstate, hworld, hevents'⟩ := hf x x' hx _ _ _ _ hstate hworld
    refine ⟨hresult, hstate, hworld, ?_⟩
    show (_ ++ _ : List Event).map _ = (_ ++ _ : List Event).map _
    rw [List.map_append, List.map_append, hevents, hevents']
  · rw [bind_of_error hran, bind_of_error hran']
    exact ⟨.error e, hstate, hworld, hevents⟩

theorem Alike.attempt {a a' : Act σ α} (ha : Alike E S R a a') :
    Alike E S (ResultsAlike R) (attempt a) (attempt a') := by
  intro s s' w w' hs hw
  obtain ⟨hresult, hstate, hworld, hevents⟩ := ha s s' w w' hs hw
  exact ⟨.ok hresult, hstate, hworld, hevents⟩

theorem Alike.always {a a' : Act σ α} {last last' : Act σ Unit} (ha : Alike E S R a a')
    (hlast : Alike E S Eq last last') : Alike E S R (always a last) (always a' last') := by
  intro s s' w w' hs hw
  obtain ⟨hresult, hstate, hworld, hevents⟩ := ha s s' w w' hs hw
  obtain ⟨hresult', hstate', hworld', hevents'⟩ := hlast _ _ _ _ hstate hworld
  refine ⟨?_, hstate', hworld', ?_⟩
  · have hlastResult := hresult'.eq
    unfold Act.always
    dsimp only
    rw [← hlastResult]
    cases (last (a s w).state (a s w).world).result with
    | ok => exact hresult
    | error e => exact .error e
  · show (_ ++ _ : List Event).map _ = (_ ++ _ : List Event).map _
    rw [List.map_append, List.map_append, hevents, hevents']

theorem Alike.within {a a' : Act τ α} {t t' : τ} (ha : Alike E T R a a') (ht : T t t') :
    Alike E S (fun p p' => R p.1 p'.1 ∧ T p.2 p'.2) (within t a) (within t' a') := by
  intro s s' w w' hs hw
  obtain ⟨hresult, hstate, hworld, hevents⟩ := ha t t' w w' ht hw
  exact ⟨hresult.map fun x x' hx => ⟨hx, hstate⟩, hs, hworld, hevents⟩

end Act

open Act

variable {S : σ → σ → Prop} {R : α → α → Prop}

/-! ### Connections -/

/-- Both settings have an address, or neither has, for the same reason. -/
def ConnectionSettings.Alike (c c' : ConnectionSettings) : Prop :=
  ResultsAlike (fun _ _ => True) c.address c'.address

theorem openConnection_alike {c c' : ConnectionSettings} (h : c.Alike c') :
    Act.Alike E S Eq (openConnection c) (openConnection c') :=
  (alike_ofExcept h).bind fun _ _ _ => alike_emit rfl

theorem withConnection_alike {c c' : ConnectionSettings} (h : c.Alike c') {a a' : Act σ α}
    (ha : Act.Alike E S R a a') :
    Act.Alike E S R (withConnection c a) (withConnection c' a') :=
  (openConnection_alike h).bind fun _ _ _ => ha.always (alike_emit rfl)

theorem describeTable_alike (table : String) :
    Act.Alike E S Eq (describeTable table : Act σ _) (describeTable table) := by
  have hask : Act.Alike E S Eq (askForColumns table : Act σ Unit) (askForColumns table) := by
    intro s s' w w' hs hw
    obtain ⟨hanswer, hnext⟩ := hw.nextDescribe
    unfold askForColumns
    dsimp only
    rw [← hanswer]
    cases w.nextDescribe.1 with
    | some e => exact ⟨.error e, hs, hnext, rfl⟩
    | none => exact ⟨.ok rfl, hs, hnext, rfl⟩
  refine hask.bind fun _ _ _ => alike_world.bind ?_
  rintro w _ ⟨-⟩
  exact alike_ofExcept (.refl _)

/-! ### Statements -/

namespace Statement

theorem send_alike : Act.Alike E Eq Eq send send := by
  rintro s _ w w' rfl hw
  obtain ⟨hanswer, hnext⟩ := hw.nextInsert
  unfold send
  by_cases hclosed : s.closed = true
  · rw [if_pos hclosed, if_pos hclosed]
    exact ⟨.error _, rfl, hw, rfl⟩
  · rw [if_neg hclosed, if_neg hclosed]
    dsimp only
    rw [← hanswer]
    cases w.nextInsert.1 with
    | some e => exact ⟨.error e, rfl, hnext, rfl⟩
    | none => exact ⟨.ok rfl, rfl, hnext, rfl⟩

theorem closing_alike : Act.Alike E Eq Eq closing closing :=
  alike_modify fun _ _ h => congrArg close h

theorem trySend_alike (codes : List Cell) : Act.Alike E Eq Eq (trySend codes) (trySend codes) := by
  refine send_alike.attempt.bind fun sent sent' hsent => ?_
  obtain rfl := hsent.eq
  cases sent with
  | ok n => exact alike_pure rfl
  | error e =>
    dsimp only
    by_cases hc : e.isClientError = true
    · simp only [hc, Bool.not_true, Bool.false_eq_true, ↓reduceIte]
      refine (alike_ofExcept (.refl _)).bind fun failure _ hfailure => ?_
      subst hfailure
      cases failure.kind with
      | retryable => exact alike_pure rfl
      | unknown => exact closing_alike.bind fun _ _ _ => alike_fail _
      | _ => exact alike_fail _
    · simp only [hc, Bool.not_false, ↓reduceIte]
      exact alike_fail e

theorem deliverWithin_alike (codes : List Cell) :
    ∀ n, Act.Alike E Eq Eq (deliverWithin codes n) (deliverWithin codes n) := by
  have hfinish : Act.Alike E Eq Eq finish finish :=
    closing_alike.bind fun _ _ _ => alike_pure rfl
  intro n
  induction n with
  | zero =>
    refine (trySend_alike codes).bind fun code _ hcode => ?_
    subst hcode
    cases code with
    | none => exact hfinish
    | some code =>
      refine alike_get.bind fun s _ hs => ?_
      subst hs
      exact (alike_log _ _ _).bind fun _ _ _ => closing_alike.bind fun _ _ _ => alike_pure rfl
  | succ n ih =>
    refine (trySend_alike codes).bind fun code _ hcode => ?_
    subst hcode
    cases code with
    | none => exact hfinish
    | some code =>
      have hnote : Act.Alike E Eq Eq (noteRetry code n) (noteRetry code n) := alike_log _ _ _
      exact hnote.bind fun _ _ _ => ih

theorem bindFields_alike (now : Calendar.DateTime) (input : List String) (r : Row) :
    ∀ (columns : List (String × ColumnType)) (i : Nat), Act.Alike E Eq Eq
      (bindFields now input r i columns) (bindFields now input r i columns)
  | [], _ => alike_pure rfl
  | (_, _) :: rest, i =>
    (alike_update_eq _).bind fun _ _ _ => bindFields_alike now input r rest (i + 1)

end Statement

/-! ### Partitions -/

namespace PartitionPlan

/-- The plans differ in their connections only, and these have an address both or fail alike. -/
inductive Alike : PartitionPlan → PartitionPlan → Prop
  | mk {plan : PartitionPlan} {c : ConnectionSettings} : plan.connection.Alike c →
      Alike plan { plan with connection := c }

variable {plan plan' : PartitionPlan}

/-- A plan is made for both connections or for neither. -/
theorem of?_alike {c c' : ConnectionSettings} (h : c.Alike c') (insert : Insert)
    (types : List ColumnType) (inputFields : List String) (bulkSize : Int) (policy : RetryPolicy) :
    ResultsAlike Alike (of? c insert types inputFields bulkSize policy)
      (of? c' insert types inputFields bulkSize policy) := by
  unfold of?
  by_cases haligned : types.length = insert.placeholders
  · rw [dif_pos haligned, dif_pos haligned]
    by_cases hbulk : 0 < bulkSize
    · rw [dif_pos hbulk, dif_pos hbulk]
      exact .ok (.mk h)
    · rw [dif_neg hbulk, dif_neg hbulk]
      exact .error _
  · rw [dif_neg haligned, dif_neg haligned]
    exact .error _

theorem takeRow_alike (plan : PartitionPlan) (r : Row) :
    Act.Alike E Eq Eq (plan.takeRow r) (plan.takeRow r) := by
  have hrow : ∀ w w' : World, w.Alike E w' → Act.Alike E Eq Eq
      (Statement.bindFields w.now plan.inputFields r 0 (plan.insert.fields.zip plan.types))
      (Statement.bindFields w'.now plan.inputFields r 0 (plan.insert.fields.zip plan.types)) := by
    rintro w _ ⟨-⟩
    exact Statement.bindFields_alike _ _ r _ 0
  exact (alike_world.bind hrow).bind fun _ _ _ => alike_update_eq _

theorem flush_alike (plan : PartitionPlan) (x : Statement) (stats : PartitionStats) :
    Act.Alike E S Eq (plan.flush x stats) (plan.flush x stats) := by
  have hdeliver : Act.Alike E Eq Eq (Statement.deliver plan.codes plan.policy.retries)
      (Statement.deliver plan.codes plan.policy.retries) := Statement.deliverWithin_alike _ _
  refine (alike_log _ _ _).bind fun _ _ _ => (hdeliver.within rfl).bind ?_
  rintro ⟨delivered, x⟩ ⟨_, _⟩ ⟨rfl, rfl⟩
  exact alike_pure rfl

theorem loadRows_alike (h : plan.Alike plan') : ∀ (rows : List Row) (x : Statement) (pending : Nat)
    (stats : PartitionStats),
    Act.Alike E S Eq (plan.loadRows rows x pending stats) (plan'.loadRows rows x pending stats) := by
  cases h with
  | mk hconnection =>
    intro rows
    induction rows with
    | nil => exact fun x _ stats => plan.flush_alike x stats
    | cons r rest ih =>
      intro x pending stats
      rw [loadRows, loadRows]
      refine ((plan.takeRow_alike r).within rfl).bind ?_
      rintro ⟨-, x⟩ ⟨-, _⟩ ⟨-, rfl⟩
      dsimp only
      by_cases hfull : plan.bulkSize ≤ pending + 1
      · rw [if_pos hfull, if_pos hfull]
        refine (plan.flush_alike _ _).bind ?_
        rintro stats _ rfl
        exact ih _ _ _
      · rw [if_neg hfull, if_neg hfull]
        exact ih _ _ _

theorem loadPartition_alike (h : plan.Alike plan') (rows : List Row) :
    Act.Alike E S Eq (plan.loadPartition rows) (plan'.loadPartition rows) := by
  have hrows := loadRows_alike (E := E) (S := S) h rows plan.statement 0 .none
  cases h with
  | mk hconnection =>
    refine (withConnection_alike hconnection hrows).bind ?_
    rintro stats _ rfl
    exact (alike_log _ _ _).bind fun _ _ _ => alike_pure rfl

end PartitionPlan

theorem loadPartitions_alike {plan plan' : PartitionPlan} (h : plan.Alike plan') :
    ∀ partitions : List (List Row), Act.Alike E S Eq
      (Sink.loadPartitions plan partitions) (Sink.loadPartitions plan' partitions)
  | [] => alike_pure rfl
  | rows :: rest => by
    refine (PartitionPlan.loadPartition_alike h rows).bind ?_
    rintro stats _ rfl
    exact (alike_emit rfl).bind fun _ _ _ => loadPartitions_alike h rest

/-! ### The timing log -/

namespace TimingLog

/-- A line is written alike if both environments name the same path. -/
theorem append_alike (hpath : ∀ env env', E env env' → pathIn env = pathIn env') (line : String) :
    Act.Alike E S Eq (append line) (append line) := by
  have hfind : Act.Alike E S Eq (path : Act σ (Option String)) path := by
    refine alike_world.bind ?_
    rintro w _ ⟨henv⟩
    dsimp only
    cases w.timingLog with
    | some p => exact alike_pure rfl
    | none =>
      dsimp only
      rw [← hpath _ _ henv]
      refine (alike_changeWorld ?_).bind fun _ _ _ => alike_pure rfl
      rintro w _ ⟨henv⟩
      exact .mk (w := { w with timingLog := _ }) henv
  refine (alike_log _ _ _).bind fun _ _ _ => hfind.bind ?_
  rintro p _ rfl
  cases p with
  | none => exact alike_pure rfl
  | some p =>
    refine alike_world.bind ?_
    rintro w _ ⟨henv⟩
    dsimp only
    refine (alike_changeWorld ?_).bind fun _ _ _ => ?_
    · rintro w _ ⟨henv⟩
      exact .mk (w := { w with files := _ }) henv
    · cases (write w.files w.epoch p.toList line).2 with
      | none => exact alike_pure rfl
      | some f =>
        dsimp only
        unfold settle
        cases f.error? with
        | none => exact alike_log _ _ _
        | some e => exact alike_fail e

end TimingLog
end TableLoader
