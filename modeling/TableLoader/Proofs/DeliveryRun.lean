/-
# Deliveries, rule by rule

The delivery of a batch as a relation: which outcomes its attempts meet, one after
the other, and what comes of it (`Delivery`). An outcome is none for a success.
A failure that is worth another attempt is followed by one as long as attempts
are left; with the last of them the batch is dropped, and any other failure ends
the delivery with an error (`EndsWith`). The action delivers by these rules
(`deliverWithin_run`), and meets the answers of the database in their order.

What follows from the rules under a policy: a batch that is delivered or dropped
has had one attempt at least, not more than are allowed, and none after a success
(`Settled`); a delivery that fails has had no success (`Broken`); and it fails
only at a failure that the policy does not cover (`Broken.exists_uncovered`).

Key definitions: `World.outcomes`, `RetryPolicy.Covers`, `EndsWith`, `Delivery`,
`Settled`, `Broken`.
Key theorems: `isRetryable_iff`, `deliverWithin_run`, `Delivery.settled`,
`Delivery.broken`, `Broken.exists_uncovered`.
-/
import TableLoader.Delivery
import TableLoader.Proofs.Running
import TableLoader.RetryPolicy

namespace TableLoader

/-! ### The answers to insertions -/

namespace World

/-- The next `n` answers to insertions. An answer that is not given is a success. -/
def outcomes (w : World) (n : Nat) : List (Option Error) :=
  (List.range n).map fun i => w.inserts.getD i none

/-- The world after `n` insertions. -/
def afterInserts (w : World) (n : Nat) : World := { w with inserts := w.inserts.drop n }

@[simp] theorem length_outcomes (w : World) (n : Nat) : (w.outcomes n).length = n := by
  simp [outcomes]

@[simp] theorem afterInserts_zero (w : World) : w.afterInserts 0 = w := rfl

@[simp] theorem afterInserts_now (w : World) (n : Nat) : (w.afterInserts n).now = w.now := rfl

theorem afterInserts_add (w : World) (m n : Nat) :
    w.afterInserts (m + n) = (w.afterInserts m).afterInserts n := by
  simp [afterInserts, List.drop_drop]

theorem outcomes_add (w : World) (m n : Nat) :
    w.outcomes (m + n) = w.outcomes m ++ (w.afterInserts m).outcomes n := by
  simp [outcomes, afterInserts, List.range_add, List.getD_eq_getElem?_getD, Function.comp_def]

theorem nextInsert_eq (w : World) : w.nextInsert = (w.inserts.getD 0 none, w.afterInserts 1) := by
  unfold nextInsert afterInserts
  cases h : w.inserts with
  | nil =>
    show (none, w) = (none, { w with inserts := [] })
    rw [← h]
  | cons => rfl

theorem outcomes_one (w : World) : w.outcomes 1 = [w.inserts.getD 0 none] := rfl

/-- The answers that insertions have met are among those that were to come, but for successes. -/
theorem mem_inserts_of_mem_outcomes {w : World} {n : Nat} {e : Error}
    (h : some e ∈ w.outcomes n) : some e ∈ w.inserts := by
  obtain ⟨i, -, hi⟩ := List.mem_map.mp h
  rw [List.getD_eq_getElem?_getD] at hi
  cases hget : w.inserts[i]? with
  | none => simp [hget] at hi
  | some o =>
    obtain rfl : o = some e := by simpa [hget] using hi
    exact List.mem_of_getElem? hget

end World

/-! ### Failures that are worth another attempt -/

/-- The error comes from the client, and its code is worth another attempt. -/
def Error.IsRetryable (codes : List Cell) (e : Error) : Prop :=
  e.isClientError = true ∧ ∃ f, classify e codes = .ok f ∧ f.kind = .retryable

/-- The error comes from the client, and its code is among the codes of the policy. -/
def RetryPolicy.Names (p : RetryPolicy) (e : Error) : Prop :=
  e.isClientError = true ∧ ∃ n ∈ p.codes, (Cell.int n).same e.code = true

/-- The policy sends a batch again after the error: it names the error, and the error can be
written. -/
def RetryPolicy.Covers (p : RetryPolicy) (e : Error) : Prop :=
  p.Names e ∧ e.isWritable = true

/-- What equals an integer can be a member of a set, and is not the missing value. -/
theorem Cell.isKey_of_same_int {n : Int} {c : Cell} (h : (Cell.int n).same c = true) :
    c.isKey = true ∧ c.isNull = false := by
  cases c with
  | decimal d =>
    cases d with
    | nan => simp [same, number?, Number.Decimal.ofInt, Number.Decimal.sameValue] at h
    | _ => simp [isKey, isNull]
  | flag | int | float => simp [isKey, isNull]
  | _ => simp [same, number?] at h

/-- A number of at most three digits can be written. -/
theorem Number.isWritable_of_lt {n : Int} (h : n.natAbs < 1000) : isWritable n = true := by
  have hlimit : 1000 ≤ writtenBelow := by decide +kernel
  simp only [isWritable, decide_eq_true_eq]
  exact Nat.lt_of_lt_of_le h hlimit

theorem ClientKind.code_isWritable (kind : ClientKind) : kind.code.isWritable = true := by
  cases kind with
  | general => rfl
  | _ => exact Number.isWritable_of_lt (by decide)

theorem Error.code_isWritable {e : Error} (hc : e.isClientError = true)
    (hw : e.isWritable = true) : e.code.isWritable = true := by
  cases e with
  | server code => exact hw
  | client kind => exact kind.code_isWritable
  | _ => cases hc

/-- An error of the client is sorted if it can be written and its code, if it has one, can be
a member of a set. -/
theorem classify_client {e : Error} (hc : e.isClientError = true) (codes : List Cell) :
    (e.isWritable = false ∧ classify e codes = .error (.fault .badValue)) ∨
    (e.isWritable = true ∧ e.code.isNull = true ∧
      ∃ f, classify e codes = .ok f ∧ f.kind = .unknown) ∨
    (e.isWritable = true ∧ e.code.isNull = false ∧ e.code.isKey = false ∧
      classify e codes = .error (.fault .badType)) ∨
    (e.isWritable = true ∧ e.code.isNull = false ∧ e.code.isKey = true ∧
      ∃ f, classify e codes = .ok f ∧
        f.kind = if codes.any (·.same e.code) then .retryable else .fatal) := by
  unfold classify
  generalize (if e.message = "" then e.name else e.message) = detail
  dsimp only
  cases hw : e.isWritable with
  | false => exact .inl ⟨rfl, rfl⟩
  | true =>
    refine .inr ?_
    cases hn : e.code.isNull with
    | true => exact .inl ⟨rfl, rfl, _, rfl, rfl⟩
    | false =>
      refine .inr ?_
      cases hk : e.code.isKey with
      | false => exact .inl ⟨rfl, rfl, rfl, rfl⟩
      | true =>
        refine .inr ⟨rfl, rfl, rfl, ⟨if codes.any (·.same e.code) then .retryable else .fatal,
          detail, e.code⟩, ?_, rfl⟩
        simp only [DriverFailure.of?, Error.code_isWritable hc hw, Bool.not_true,
          Bool.false_eq_true, ↓reduceIte]

/-- Under a policy the failures worth another attempt are those that it covers. -/
theorem isRetryable_iff {p : RetryPolicy} {e : Error} :
    e.IsRetryable (p.codes.map .int) ↔ p.Covers e := by
  have hany : (p.codes.map Cell.int).any (·.same e.code) = true ↔
      ∃ n ∈ p.codes, (Cell.int n).same e.code = true := by
    simp [List.any_map, List.any_eq_true]
  unfold Error.IsRetryable RetryPolicy.Covers RetryPolicy.Names
  rw [and_assoc]
  refine and_congr_right fun hc => ?_
  rcases classify_client hc (p.codes.map .int) with ⟨hw, h⟩ | ⟨hw, hn, g, h, hg⟩ |
    ⟨hw, hn, hk, h⟩ | ⟨hw, hn, hk, g, h, hg⟩
  · simp [h, hw]
  · have hno : ¬ ∃ n ∈ p.codes, (Cell.int n).same e.code = true := by
      rintro ⟨n, -, hs⟩
      simp [(Cell.isKey_of_same_int hs).2] at hn
    simp [h, hg, hno]
  · have hno : ¬ ∃ n ∈ p.codes, (Cell.int n).same e.code = true := by
      rintro ⟨n, -, hs⟩
      simp [(Cell.isKey_of_same_int hs).1] at hk
    simp [h, hno]
  · rw [← hany]
    simp [h, hg, hw]

/-! ### The rules -/

/-- The error with which a failed attempt ends a delivery. -/
inductive EndsWith (codes : List Cell) : Error → Error → Prop where
  /-- an error that is not the client's passes as it is -/
  | foreign {e} : e.isClientError = false → EndsWith codes e e
  /-- an error of the client that is not worth another attempt is sorted -/
  | sorted {e f} : e.isClientError = true → classify e codes = .ok f →
      f.kind = .fatal ∨ f.kind = .unknown → EndsWith codes e (.driver f)
  /-- an error of the client cannot be written -/
  | unwritable {e} : e.isClientError = true → e.isWritable = false →
      EndsWith codes e (.fault .badValue)
  /-- the code of an error of the client cannot be a member of a set -/
  | unhashable {e} : e.isClientError = true → e.isWritable = true → e.code.isNull = false →
      e.code.isKey = false → EndsWith codes e (.fault .badType)

/-- The delivery of a batch with a number of further attempts: the outcomes of its attempts,
and whether it was delivered or dropped, or the error that ended it. -/
inductive Delivery (codes : List Cell) : Nat → List (Option Error) → Except Error Bool → Prop where
  | delivered {n} : Delivery codes n [none] (.ok true)
  | dropped {e} : e.IsRetryable codes → Delivery codes 0 [some e] (.ok false)
  | again {n : Nat} {e outcomes r} : e.IsRetryable codes → Delivery codes n outcomes r →
      Delivery codes (n + 1) (some e :: outcomes) r
  | ended {n e e'} : EndsWith codes e e' → Delivery codes n [some e] (.error e')

namespace Statement

variable {codes : List Cell} {s : Statement}

/-- The event of an attempt that meets an outcome. -/
def attempt (s : Statement) (o : Option Error) : Event := .insert s.insert.head s.batch.toList true o

/-- An attempt that succeeds. -/
theorem trySend_success (hopen : s.closed = false) {w : World} (h : w.inserts.getD 0 none = none) :
    trySend codes s w = ⟨.ok none, { s with batch := #[] }, w.afterInserts 1, [s.attempt none]⟩ := by
  have hsend : send s w =
      ⟨.ok s.batch.size, { s with batch := #[] }, w.afterInserts 1, [s.attempt none]⟩ := by
    simp only [send, hopen, Bool.false_eq_true, ↓reduceIte, w.nextInsert_eq, h]
    rfl
  have hattempt : Act.attempt send s w = ⟨.ok (.ok s.batch.size), { s with batch := #[] },
      w.afterInserts 1, [s.attempt none]⟩ := by
    simp only [Act.attempt, hsend]
  rw [trySend, Act.bind_ok hattempt]
  rfl

/-- An attempt that fails: the failure is worth another one, or it ends the delivery. -/
theorem trySend_failure (codes : List Cell) (hopen : s.closed = false) {w : World} {e : Error}
    (h : w.inserts.getD 0 none = some e) :
    (e.IsRetryable codes ∧ ∃ code,
      trySend codes s w = ⟨.ok (some code), s, w.afterInserts 1, [s.attempt (some e)]⟩) ∨
    ∃ e' s', EndsWith codes e e' ∧
      trySend codes s w = ⟨.error e', s', w.afterInserts 1, [s.attempt (some e)]⟩ := by
  have hsend : send s w = ⟨.error e, s, w.afterInserts 1, [s.attempt (some e)]⟩ := by
    simp only [send, hopen, Bool.false_eq_true, ↓reduceIte, w.nextInsert_eq, h]
    rfl
  have hattempt : Act.attempt send s w =
      ⟨.ok (.error e), s, w.afterInserts 1, [s.attempt (some e)]⟩ := by
    simp only [Act.attempt, hsend]
  rw [trySend, Act.bind_ok hattempt]
  cases hc : e.isClientError with
  | false => exact .inr ⟨e, s, .foreign hc, by simp [hc]⟩
  | true =>
    rcases classify_client hc codes with ⟨hw, h⟩ | ⟨hw, hn, f, h, hf⟩ | ⟨hw, hn, hk, h⟩ |
      ⟨hw, hn, hk, f, h, hf⟩
    · exact .inr ⟨_, s, .unwritable hc hw, by simp [hc, h]⟩
    · exact .inr ⟨.driver f, s.close, .sorted hc h (.inr hf), by simp [hc, h, hf, closing]⟩
    · exact .inr ⟨_, s, .unhashable hc hw hn hk, by simp [hc, h]⟩
    · split at hf
      · exact .inl ⟨⟨hc, f, h, hf⟩, f.code, by simp [hc, h, hf]⟩
      · exact .inr ⟨.driver f, s, .sorted hc h (.inl hf), by simp [hc, h, hf]⟩

/-- With no attempts left, a failure that is worth another one drops the batch. -/
theorem deliverWithin_zero {w w' : World} {code : Cell} {es : List Event}
    (h : trySend codes s w = ⟨.ok (some code), s, w', es⟩) :
    (deliverWithin codes 0 s w).result = .ok false ∧ (deliverWithin codes 0 s w).world = w' ∧
      clientCalls (deliverWithin codes 0 s w).events = clientCalls es := by
  rw [deliverWithin, Act.bind_ok h]
  simp [drop, closing]

/-- The note that a batch is sent again after a failure with this code, with so many attempts left
then. -/
def retryNote (code : Cell) (left : Nat) : Event :=
  .log .warning writerLog ("batch failed code=" ++ code.display ++ "; retrying (remaining=" ++
    (Cell.int left).display ++ ")")

/-- A failure that is worth another attempt is noted and followed by one. -/
theorem deliverWithin_succ (n : Nat) {w w' : World} {code : Cell} {es : List Event}
    (h : trySend codes s w = ⟨.ok (some code), s, w', es⟩) :
    deliverWithin codes (n + 1) s w =
      (deliverWithin codes n s w').after (es ++ [retryNote code n]) := by
  have hnote : noteRetry code n s w' = ⟨.ok (), s, w', [retryNote code n]⟩ := rfl
  rw [deliverWithin, Act.bind_ok h]
  dsimp only
  rw [Act.bind_ok hnote, Ran.after_after]

/-- The action delivers by the rules. It meets the answers of the database in their order and
sends the whole batch each time. -/
theorem deliverWithin_run (codes : List Cell) : ∀ (n : Nat) {s : Statement} (w : World),
    s.closed = false → ∃ outcomes, Delivery codes n outcomes (deliverWithin codes n s w).result ∧
      outcomes = w.outcomes outcomes.length ∧
      (deliverWithin codes n s w).world = w.afterInserts outcomes.length ∧
      clientCalls (deliverWithin codes n s w).events = outcomes.map s.attempt := by
  intro n
  induction n with
  | zero =>
    intro s w hopen
    cases ho : w.inserts.getD 0 none with
    | none =>
      rw [deliverWithin, Act.bind_ok (trySend_success hopen ho)]
      exact ⟨[none], .delivered, by rw [← ho]; rfl, rfl, rfl⟩
    | some e =>
      rcases trySend_failure codes hopen ho with ⟨he, code, h⟩ | ⟨e', s', he, h⟩
      · obtain ⟨hr, hw, hes⟩ := deliverWithin_zero h
        exact ⟨[some e], hr ▸ .dropped he, by rw [← ho]; rfl, hw, hes⟩
      · rw [deliverWithin, Act.bind_error h]
        exact ⟨[some e], .ended he, by rw [← ho]; rfl, rfl, rfl⟩
  | succ n ih =>
    intro s w hopen
    cases ho : w.inserts.getD 0 none with
    | none =>
      rw [deliverWithin, Act.bind_ok (trySend_success hopen ho)]
      exact ⟨[none], .delivered, by rw [← ho]; rfl, rfl, rfl⟩
    | some e =>
      rcases trySend_failure codes hopen ho with ⟨he, code, h⟩ | ⟨e', s', he, h⟩
      · obtain ⟨outcomes, hd, hq, hw, hes⟩ := ih (w.afterInserts 1) hopen
        rw [deliverWithin_succ n h]
        refine ⟨some e :: outcomes, .again he hd, ?_, ?_, ?_⟩
        · rw [List.length_cons, Nat.add_comm, World.outcomes_add, World.outcomes_one, ho, ← hq]
          rfl
        · rw [Ran.after_world, hw, List.length_cons, Nat.add_comm, World.afterInserts_add]
        · simp [retryNote, hes, attempt]
      · rw [deliverWithin, Act.bind_error h]
        exact ⟨[some e], .ended he, by rw [← ho]; rfl, rfl, rfl⟩

end Statement

/-! ### What follows from the rules -/

/-- A delivery meets failures that are worth another attempt, and then a success, or the last
attempt that there is, or a failure that ends it. -/
theorem Delivery.cases {codes : List Cell} {n : Nat} {outcomes : List (Option Error)}
    {r : Except Error Bool} (h : Delivery codes n outcomes r) :
    ∃ failures : List Error, (∀ e ∈ failures, e.IsRetryable codes) ∧
      ((r = .ok true ∧ outcomes = failures.map some ++ [none] ∧ failures.length ≤ n) ∨
       (r = .ok false ∧ outcomes = failures.map some ∧ failures.length = n + 1) ∨
       ∃ e e', r = .error e' ∧ outcomes = failures.map some ++ [some e] ∧
        failures.length ≤ n ∧ EndsWith codes e e') := by
  induction h with
  | delivered => exact ⟨[], by simp, .inl ⟨rfl, rfl, Nat.zero_le _⟩⟩
  | @dropped e he => exact ⟨[e], by simpa using he, .inr (.inl ⟨rfl, rfl, rfl⟩)⟩
  | @ended n e e' he =>
    exact ⟨[], by simp, .inr (.inr ⟨e, e', rfl, rfl, Nat.zero_le _, he⟩)⟩
  | @again n e outcomes r he _ ih =>
    obtain ⟨failures, hall, h⟩ := ih
    refine ⟨e :: failures, by simpa using ⟨he, hall⟩, ?_⟩
    rcases h with ⟨hr, ho, hl⟩ | ⟨hr, ho, hl⟩ | ⟨e₁, e', hr, ho, hl, hend⟩
    · exact .inl ⟨hr, by simp [ho], by simpa using hl⟩
    · exact .inr (.inl ⟨hr, by simp [ho], by simpa using hl⟩)
    · exact .inr (.inr ⟨e₁, e', hr, by simp [ho], by simpa using hl, hend⟩)

/-- The attempts of a batch that is done with under a policy: after failures that the policy
covers it was delivered, or it was dropped when its attempts were used up. -/
inductive Settled (p : RetryPolicy) : List (Option Error) → Prop where
  | delivered {failures : List Error} : (∀ e ∈ failures, p.Covers e) →
      failures.length ≤ p.retries.toNat → Settled p (failures.map some ++ [none])
  | dropped {failures : List Error} : (∀ e ∈ failures, p.Covers e) →
      failures.length = p.retries.toNat + 1 → Settled p (failures.map some)

/-- A batch that is done with was attempted, but not more often than the policy allows. -/
theorem Settled.length_bounds {p : RetryPolicy} {outcomes : List (Option Error)}
    (h : Settled p outcomes) :
    1 ≤ outcomes.length ∧ (outcomes.length : Int) ≤ max p.retries 0 + 1 := by
  cases h with
  | delivered _ hl =>
    rw [List.length_append, List.length_map, List.length_singleton]
    omega
  | dropped _ hl =>
    rw [List.length_map, hl]
    omega

/-- The attempts of a batch whose delivery fails under a policy: after failures that the policy
covers comes one that ends the delivery with an error. -/
inductive Broken (p : RetryPolicy) : List (Option Error) → Error → Prop where
  | mk {failures : List Error} {e e' : Error} : (∀ e ∈ failures, p.Covers e) →
      failures.length ≤ p.retries.toNat →
      EndsWith (p.codes.map .int) e e' →
      Broken p (failures.map some ++ [some e]) e'

section Policy

variable {p : RetryPolicy} {outcomes : List (Option Error)}

/-- The attempts of a delivery that fails have no success. -/
theorem Broken.unsuccessful {e : Error} (h : Broken p outcomes e) : none ∉ outcomes := by
  cases h with
  | mk => simp

/-- A delivery that does not fail settles the batch, and drops it if there was no success. -/
theorem Delivery.settled {delivered : Bool}
    (h : Delivery (p.codes.map .int) p.retries.toNat outcomes (.ok delivered)) :
    Settled p outcomes ∧ delivered = !outcomes.all Option.isSome := by
  obtain ⟨failures, hall, h⟩ := h.cases
  have hcovers : ∀ e ∈ failures, p.Covers e := fun e he => isRetryable_iff.mp (hall e he)
  rcases h with ⟨hr, ho, hl⟩ | ⟨hr, ho, hl⟩ | ⟨_, _, hr, _⟩
  · obtain rfl := Except.ok.inj hr
    exact ⟨ho ▸ .delivered hcovers hl, by simp [ho]⟩
  · obtain rfl := Except.ok.inj hr
    exact ⟨ho ▸ .dropped hcovers hl, by simp [ho]⟩
  · cases hr

theorem Delivery.broken {e' : Error}
    (h : Delivery (p.codes.map .int) p.retries.toNat outcomes (.error e')) : Broken p outcomes e' := by
  obtain ⟨failures, hall, h⟩ := h.cases
  rcases h with ⟨hr, _⟩ | ⟨hr, _⟩ | ⟨e, e₁, hr, ho, hl, hend⟩
  · cases hr
  · cases hr
  · obtain rfl := Except.error.inj hr
    exact ho ▸ .mk (fun e he => isRetryable_iff.mp (hall e he)) hl hend

/-- A delivery fails only at a failure that the policy does not cover. -/
theorem Broken.exists_uncovered {e' : Error} (h : Broken p outcomes e') :
    ∃ e, some e ∈ outcomes ∧ ¬ p.Covers e := by
  cases h with | @mk failures e _ _ hl hend
  refine ⟨e, by simp, fun hcov => ?_⟩
  obtain ⟨⟨hc, n, -, hsame⟩, hw⟩ := id hcov
  cases hend with
  | foreign h => simp [hc] at h
  | sorted _ h hkind =>
    obtain ⟨-, f, hf, hk⟩ := isRetryable_iff.mpr hcov
    obtain rfl := Except.ok.inj (hf.symm.trans h)
    simp [hk] at hkind
  | unwritable _ h => simp [hw] at h
  | unhashable _ _ _ h => simp [(Cell.isKey_of_same_int hsame).1] at h

end Policy

end TableLoader
