/-
# Retries, counted

What comes of a batch under a retry policy can be read off the outcomes that the
client is going to report. The failures in front that the policy covers are the
leading ones (`RetryPolicy.leading`). Each of them is followed by another attempt
as long as attempts are left, and noted in the log with the number of those that
are left then (`retried`). If there are more leading failures than further
attempts, the batch is dropped; otherwise the first outcome behind them decides
(`Decides`), and leaves the statement closed, or open with its batch.

A policy covers a failure if it names its code and the failure can be written. A
code with too many digits cannot be written, and a failure with such a code is
never sorted: it ends the work on the batch with an error, whatever the policy
names (`long_codes_are_not_sorted`).

Key definitions: `RetryPolicy.leading`, `Decides`, `retried`, `Counted`.
Key theorems: `classify_client_eq`, `deliverWithin_dropped`,
`deliverWithin_decided`, `deliver_counted`.
-/
import TableLoader.Proofs.Statement.Calls

namespace TableLoader

/-- What a sorted error says: the text of the error, or its kind if the text is empty. -/
def Error.detail (e : Error) : String := if e.message = "" then e.name else e.message

/-- An error of the client that can be written is sorted by its code alone. -/
theorem classify_client_eq {e : Error} (hc : e.isClientError = true) (hw : e.isWritable = true)
    (codes : List Cell) :
    classify e codes =
      if e.code.isNull then .ok ⟨.unknown, e.detail, .null⟩
      else if !e.code.isKey then .error (.fault .badType)
      else .ok ⟨if codes.any (·.same e.code) then .retryable else .fatal, e.detail, e.code⟩ := by
  have hcode : e.code.isWritable = true := Error.code_isWritable hc hw
  simp only [classify, hw, DriverFailure.of?, hcode, Error.detail, Bool.not_true,
    Bool.false_eq_true, ↓reduceIte]

namespace RetryPolicy

variable (p : RetryPolicy)

instance : DecidablePred p.Names := fun e =>
  inferInstanceAs
    (Decidable (e.isClientError = true ∧ ∃ n ∈ p.codes, (Cell.int n).same e.code = true))

instance : DecidablePred p.Covers := fun e =>
  inferInstanceAs (Decidable (p.Names e ∧ e.isWritable = true))

/-- The failures that the policy covers, up to the first outcome that is no such failure. -/
def leading : List (Option Error) → List Error
  | some e :: rest => if p.Covers e then e :: leading rest else []
  | _ => []

/-- The next outcome is a leading failure, or there is none. -/
theorem leading_cases (w : World) :
    (∃ e, w.inserts.getD 0 none = some e ∧ p.Covers e ∧
      p.leading w.inserts = e :: p.leading (w.afterInserts 1).inserts) ∨
    (p.leading w.inserts = [] ∧ ∀ e, w.inserts.getD 0 none = some e → ¬ p.Covers e) := by
  have hlater : (w.afterInserts 1).inserts = w.inserts.drop 1 := rfl
  rw [hlater]
  match w.inserts with
  | [] => exact .inr ⟨rfl, fun e he => by cases he⟩
  | none :: rest => exact .inr ⟨rfl, fun e he => by cases he⟩
  | some e :: rest =>
    by_cases hcovers : p.Covers e
    · exact .inl ⟨e, rfl, hcovers, if_pos hcovers⟩
    · refine .inr ⟨if_neg hcovers, fun e' he' => ?_⟩
      obtain rfl : e = e' := Option.some.inj he'
      exact hcovers

/-- A covered failure has a code that can be a member of a set and is among those of the policy. -/
theorem Covers.classify {p : RetryPolicy} {e : Error} (h : p.Covers e) :
    classify e (p.codes.map .int) = .ok ⟨.retryable, e.detail, e.code⟩ := by
  obtain ⟨⟨hc, n, hn, hsame⟩, hw⟩ := h
  obtain ⟨hkey, hnull⟩ := Cell.isKey_of_same_int hsame
  have hany : (p.codes.map Cell.int).any (·.same e.code) = true :=
    List.any_eq_true.mpr ⟨.int n, List.mem_map_of_mem hn, hsame⟩
  rw [classify_client_eq hc hw]
  simp only [hnull, hkey, hany, Bool.not_true, Bool.false_eq_true, ↓reduceIte]

end RetryPolicy

namespace Statement

/-- What comes of a batch after an outcome that is not followed by another attempt, and of its
statement: it is left closed, or as it is. -/
inductive Decides (p : RetryPolicy) (s : Statement) :
    Option Error → Except Error Bool → Statement → Prop where
  | delivered : Decides p s none (.ok true) s.close
  /-- the code is none of the policy -/
  | fatal {e} : e.isClientError = true → e.isWritable = true → e.code.isNull = false →
      e.code.isKey = true → ¬ p.Names e →
      Decides p s (some e) (.error (.driver ⟨.fatal, e.detail, e.code⟩)) s
  /-- there is no code -/
  | unknown {e} : e.isClientError = true → e.code.isNull = true →
      Decides p s (some e) (.error (.driver ⟨.unknown, e.detail, .null⟩)) s.close
  /-- the failure is not the client's -/
  | foreign {e} : e.isClientError = false → Decides p s (some e) (.error e) s
  /-- the code has too many digits to be written -/
  | unwritable {e} : e.isClientError = true → e.isWritable = false →
      Decides p s (some e) (.error (.fault .badValue)) s
  /-- the code cannot be a member of a set -/
  | unhashable {e} : e.isClientError = true → e.isWritable = true → e.code.isNull = false →
      e.code.isKey = false → Decides p s (some e) (.error (.fault .badType)) s

/-- The note that a batch is dropped after a failure. -/
def dropNote (s : Statement) (e : Error) : Event :=
  .log .warning writerLog ("batch dropped after retries code=" ++ e.code.display ++ " rows=" ++
    toString s.batch.size)

/-- The attempts that meet failures, each followed by another one, with their notes. Before the
first of them `n` further attempts are left. -/
def retried (s : Statement) : Nat → List Error → List Event
  | _, [] => []
  | n, e :: rest => s.attempt (some e) :: retryNote e.code (n - 1) :: retried s (n - 1) rest

section Attempt

variable {p : RetryPolicy} {s : Statement} {w : World} {e : Error}

/-- An attempt whose failure is reported to the one who sends. -/
theorem attempt_send_failure (hopen : s.closed = false) (h : w.inserts.getD 0 none = some e) :
    Act.attempt send s w = ⟨.ok (.error e), s, w.afterInserts 1, [s.attempt (some e)]⟩ := by
  have hsend : send s w = ⟨.error e, s, w.afterInserts 1, [s.attempt (some e)]⟩ := by
    rw [send_open hopen, w.nextInsert_eq]
    dsimp only
    rw [h]
  simp only [Act.attempt, hsend]

/-- A failure that the policy covers is worth another attempt. -/
theorem trySend_covered (hopen : s.closed = false) (h : w.inserts.getD 0 none = some e)
    (hcovers : p.Covers e) :
    trySend (p.codes.map .int) s w =
      ⟨.ok (some e.code), s, w.afterInserts 1, [s.attempt (some e)]⟩ := by
  rw [trySend, Act.bind_ok (attempt_send_failure hopen h)]
  simp [hcovers.1.1, hcovers.classify]

/-- An error of the client that cannot be written is not sorted. -/
theorem trySend_unwritable (codes : List Cell) (hopen : s.closed = false)
    (h : w.inserts.getD 0 none = some e) (hc : e.isClientError = true)
    (hw : e.isWritable = false) :
    trySend codes s w =
      ⟨.error (.fault .badValue), s, w.afterInserts 1, [s.attempt (some e)]⟩ := by
  have hclassify : classify e codes = .error (.fault .badValue) := by simp [classify, hw]
  rw [trySend, Act.bind_ok (attempt_send_failure hopen h)]
  simp [hc, hclassify]

/-- Any other failure decides what comes of the batch. -/
theorem trySend_uncovered (hopen : s.closed = false) (h : w.inserts.getD 0 none = some e)
    (huncovered : ¬ p.Covers e) :
    ∃ e' s', Decides p s (some e) (.error e') s' ∧ trySend (p.codes.map .int) s w =
      ⟨.error e', s', w.afterInserts 1, [s.attempt (some e)]⟩ := by
  have htry : trySend (p.codes.map .int) s w = _ :=
    Act.bind_ok (attempt_send_failure hopen h)
  cases hc : e.isClientError with
  | false => exact ⟨e, s, .foreign hc, by simp [htry, hc]⟩
  | true =>
    cases hw : e.isWritable with
    | false => exact ⟨_, s, .unwritable hc hw, trySend_unwritable _ hopen h hc hw⟩
    | true =>
      have hclassify := classify_client_eq hc hw (p.codes.map .int)
      cases hnull : e.code.isNull with
      | true =>
        rw [hnull, if_pos rfl] at hclassify
        exact ⟨_, s.close, .unknown hc hnull, by simp [htry, hc, hclassify, closing]⟩
      | false =>
        cases hkey : e.code.isKey with
        | false =>
          simp only [hnull, hkey, Bool.not_false, Bool.false_eq_true, ↓reduceIte] at hclassify
          exact ⟨_, s, .unhashable hc hw hnull hkey, by simp [htry, hc, hclassify]⟩
        | true =>
          have hnames : ¬ p.Names e := fun hnames => huncovered ⟨hnames, hw⟩
          have hany : (p.codes.map Cell.int).any (·.same e.code) = false := by
            rw [← Bool.not_eq_true, List.any_eq_true]
            rintro ⟨c, hmem, hsame⟩
            obtain ⟨n, hn, rfl⟩ := List.mem_map.mp hmem
            exact hnames ⟨hc, n, hn, hsame⟩
          simp only [hnull, hkey, hany, Bool.not_true, Bool.false_eq_true, ↓reduceIte] at hclassify
          exact ⟨_, s, .fatal hc hw hnull hkey hnames, by simp [htry, hc, hclassify]⟩

/-- An outcome that is no covered failure is the last one, however many attempts are left. -/
theorem deliverWithin_uncovered (hopen : s.closed = false) (n : Nat)
    (huncovered : ∀ e, w.inserts.getD 0 none = some e → ¬ p.Covers e) :
    ∃ r s', Decides p s (w.inserts.getD 0 none) r s' ∧ deliverWithin (p.codes.map .int) n s w =
      ⟨r, s', w.afterInserts 1, [s.attempt (w.inserts.getD 0 none)]⟩ := by
  cases ho : w.inserts.getD 0 none with
  | none =>
    have hrun : deliverWithin (p.codes.map .int) n s w =
        ⟨.ok true, s.close, w.afterInserts 1, [s.attempt none]⟩ := by
      cases n <;> rw [deliverWithin, Act.bind_ok (trySend_success hopen ho)] <;> rfl
    exact ⟨_, _, .delivered, hrun⟩
  | some e =>
    obtain ⟨e', s', hdecides, htry⟩ := trySend_uncovered hopen ho (huncovered e ho)
    have hrun : deliverWithin (p.codes.map .int) n s w =
        ⟨.error e', s', w.afterInserts 1, [s.attempt (some e)]⟩ := by
      cases n <;> rw [deliverWithin, Act.bind_error htry]
    exact ⟨_, _, hdecides, hrun⟩

/-- An error of the client that cannot be written is the last outcome, whatever the codes are that
are worth another attempt. -/
theorem deliverWithin_unwritable (codes : List Cell) (hopen : s.closed = false)
    (h : w.inserts.getD 0 none = some e) (hc : e.isClientError = true)
    (hw : e.isWritable = false) (n : Nat) :
    deliverWithin codes n s w =
      ⟨.error (.fault .badValue), s, w.afterInserts 1, [s.attempt (some e)]⟩ := by
  have htry := trySend_unwritable codes hopen h hc hw
  cases n with
  | zero => rw [deliverWithin, Act.bind_error htry]
  | succ n => rw [deliverWithin, Act.bind_error htry]

/-- With no attempts left, a covered failure drops the batch. -/
theorem deliverWithin_last (hopen : s.closed = false) (h : w.inserts.getD 0 none = some e)
    (hcovers : p.Covers e) :
    deliverWithin (p.codes.map .int) 0 s w =
      ⟨.ok false, s.close, w.afterInserts 1, [s.attempt (some e), dropNote s e]⟩ := by
  rw [deliverWithin, Act.bind_ok (trySend_covered hopen h hcovers)]
  rfl

/-- With attempts left, a covered failure is noted and followed by another attempt. -/
theorem deliverWithin_again (hopen : s.closed = false) (h : w.inserts.getD 0 none = some e)
    (hcovers : p.Covers e) (n : Nat) :
    deliverWithin (p.codes.map .int) (n + 1) s w =
      (deliverWithin (p.codes.map .int) n s (w.afterInserts 1)).after
        [s.attempt (some e), retryNote e.code n] :=
  deliverWithin_succ n (trySend_covered hopen h hcovers)

end Attempt

/-! ### Whole deliveries -/

section Run

variable {p : RetryPolicy} {s : Statement}

/-- A batch that meets more covered failures than further attempts is dropped at the last one. -/
theorem deliverWithin_dropped (hopen : s.closed = false) : ∀ (n : Nat) (w : World),
    n < (p.leading w.inserts).length →
    ∃ last, (p.leading w.inserts)[n]? = some last ∧ deliverWithin (p.codes.map .int) n s w =
      ⟨.ok false, s.close, w.afterInserts (n + 1),
        retried s n ((p.leading w.inserts).take n) ++
          [s.attempt (some last), dropNote s last]⟩ := by
  -- A covered failure uses up one attempt and one of the leading failures.
  intro n
  induction n with
  | zero =>
    intro w hmore
    rcases p.leading_cases w with ⟨e, ho, hcovers, hleading⟩ | ⟨hleading, -⟩
    · rw [hleading]
      exact ⟨e, rfl, deliverWithin_last hopen ho hcovers⟩
    · rw [hleading] at hmore
      cases hmore
  | succ n ih =>
    intro w hmore
    rcases p.leading_cases w with ⟨e, ho, hcovers, hleading⟩ | ⟨hleading, -⟩
    · rw [hleading] at hmore ⊢
      obtain ⟨last, hlast, hrun⟩ := ih (w.afterInserts 1) (Nat.lt_of_succ_lt_succ hmore)
      refine ⟨last, hlast, ?_⟩
      rw [deliverWithin_again hopen ho hcovers, hrun, Ran.after_mk, ← World.afterInserts_add,
        Nat.add_comm 1]
      rfl
    · rw [hleading] at hmore
      cases hmore

/-- If the covered failures are no more than the further attempts, the outcome behind them
decides. -/
theorem deliverWithin_decided (hopen : s.closed = false) : ∀ (n : Nat) (w : World),
    (p.leading w.inserts).length ≤ n →
    ∃ r s', Decides p s (w.inserts.getD (p.leading w.inserts).length none) r s' ∧
      deliverWithin (p.codes.map .int) n s w =
        ⟨r, s', w.afterInserts ((p.leading w.inserts).length + 1),
          retried s n (p.leading w.inserts) ++
            [s.attempt (w.inserts.getD (p.leading w.inserts).length none)]⟩ := by
  intro n
  induction n with
  | zero =>
    intro w hfew
    rcases p.leading_cases w with ⟨e, ho, hcovers, hleading⟩ | ⟨hleading, huncovered⟩
    · rw [hleading] at hfew
      cases hfew
    · rw [hleading]
      exact deliverWithin_uncovered hopen 0 huncovered
  | succ n ih =>
    intro w hfew
    rcases p.leading_cases w with ⟨e, ho, hcovers, hleading⟩ | ⟨hleading, huncovered⟩
    · rw [hleading] at hfew ⊢
      obtain ⟨r, s', hdecides, hrun⟩ := ih (w.afterInserts 1) (Nat.le_of_succ_le_succ hfew)
      have hnext : w.inserts.getD ((p.leading (w.afterInserts 1).inserts).length + 1) none =
          (w.afterInserts 1).inserts.getD (p.leading (w.afterInserts 1).inserts).length none := by
        simp [World.afterInserts, List.getD_eq_getElem?_getD, Nat.add_comm]
      rw [List.length_cons, hnext]
      refine ⟨r, s', hdecides, ?_⟩
      rw [deliverWithin_again hopen ho hcovers, hrun, Ran.after_mk, ← World.afterInserts_add,
        Nat.add_comm 1]
      rfl
    · rw [hleading]
      exact deliverWithin_uncovered hopen (n + 1) huncovered

end Run

/-- What comes of a batch in an open statement under a policy, by the outcomes that the client is
going to report. Every attempt sends the whole batch. -/
structure Counted (p : RetryPolicy) (s : Statement) (w : World) (ran : Ran Statement Bool) :
    Prop where
  /-- more leading failures than further attempts: every attempt is made, and the last one drops
  the batch -/
  dropped : p.retries.toNat < (p.leading w.inserts).length →
    ∃ last, (p.leading w.inserts)[p.retries.toNat]? = some last ∧
      ran = ⟨.ok false, s.close, w.afterInserts (p.retries.toNat + 1),
        retried s p.retries.toNat ((p.leading w.inserts).take p.retries.toNat) ++
          [s.attempt (some last), dropNote s last]⟩
  /-- otherwise: there is one attempt more than leading failures, and its outcome decides -/
  decided : (p.leading w.inserts).length ≤ p.retries.toNat →
    ∃ r s', Decides p s (w.inserts.getD (p.leading w.inserts).length none) r s' ∧
      ran = ⟨r, s', w.afterInserts ((p.leading w.inserts).length + 1),
        retried s p.retries.toNat (p.leading w.inserts) ++
          [s.attempt (w.inserts.getD (p.leading w.inserts).length none)]⟩

/-- The delivery of a batch is counted out by the outcomes, whatever they are. -/
theorem deliver_counted (p : RetryPolicy) {s : Statement} (hopen : s.closed = false) (w : World) :
    Counted p s w (deliver (p.codes.map .int) p.retries s w) where
  dropped := deliverWithin_dropped hopen _ w
  decided := deliverWithin_decided hopen _ w

/-- A statement with one row in its batch. -/
def oneRow : Statement :=
  { fresh ⟨"t", ["n"]⟩ [.plain .int64 "Int64"] with batch := #[[.int 1]] }

/-- A world in which the first insertion is refused by the server. -/
def refusing (code : Int) : World :=
  { World.still .empty with inserts := [some (.server (.int code) none none)] }

/-- A batch whose first attempt is refused is delivered at the second one. -/
theorem oneRow_counted : oneRow.closed = false ∧
    deliver [.int 7] 1 oneRow (refusing 7) =
      ⟨.ok true, oneRow.close, (refusing 7).afterInserts 2,
        [oneRow.attempt (some (.server (.int 7) none none)),
          retryNote (.int 7) 0, oneRow.attempt none]⟩ := by
  have hcovers : (⟨[7], 1⟩ : RetryPolicy).Covers (.server (.int 7) none none) :=
    ⟨⟨rfl, 7, List.mem_singleton_self _, by decide +kernel⟩, by decide +kernel⟩
  have hleading : (⟨[7], 1⟩ : RetryPolicy).leading (refusing 7).inserts =
      [.server (.int 7) none none] := if_pos hcovers
  obtain ⟨r, s', hdecides, hrun⟩ :=
    (deliver_counted ⟨[7], 1⟩ (s := oneRow) rfl (refusing 7)).decided (by simp [hleading])
  rw [hleading] at hdecides hrun
  cases hdecides
  exact ⟨rfl, hrun⟩

/-- An error of the client with a code does not always end as a fatal one, or in another attempt: a
code that cannot be written ends the work on the batch with an error of its own, whether the
policy names it or not. -/
theorem long_codes_are_not_sorted :
    ((⟨[Number.writtenBelow], 1⟩ : RetryPolicy).Names
        (.server (.int Number.writtenBelow) none none) ∧
      (deliver [.int Number.writtenBelow] 1 oneRow (refusing Number.writtenBelow)).result =
        .error (.fault .badValue)) ∧
    ¬ (⟨[7], 1⟩ : RetryPolicy).Names (.server (.int Number.writtenBelow) none none) ∧
      (deliver [.int 7] 1 oneRow (refusing Number.writtenBelow)).result =
        .error (.fault .badValue) := by
  have hlong : (Error.server (.int Number.writtenBelow) none none).isWritable = false := by
    decide +kernel
  have hended : ∀ codes : List Cell,
      (deliver codes 1 oneRow (refusing Number.writtenBelow)).result = .error (.fault .badValue) :=
    fun codes => congrArg Ran.result (deliverWithin_unwritable codes rfl rfl rfl hlong 1)
  exact ⟨⟨⟨rfl, Number.writtenBelow, List.mem_singleton_self _, by decide +kernel⟩, hended _⟩,
    by decide +kernel, hended _⟩

end Statement
end TableLoader
