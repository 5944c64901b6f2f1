/-
# Sinks that are fit for an output

What every sink has, however its steps went: a batch holds some row, the retries are no
negative number, and what comes later is there only with what comes before it, from the
connection settings over the table and the fields to the insertion (`Fit`). Each step
keeps this, also a step that fails on its way: a check writes the settings before the
table and the table before the fields, and what it does not find stays as it was
(`Fit.into`); a preparation writes a retry policy that was read, and an insertion only
where there are fields (`Fit.prepare`).

Key definitions: `Fit`.
Key theorems: `Fit.check`, `Fit.prepare`, `Fit.output`.
-/
import TableLoader.Proofs.Sink.Steps

namespace TableLoader

/-- A policy that was read has no negative number of retries. -/
theorem RetryPolicy.retries_nonneg {config : Config} {policy : RetryPolicy}
    (h : ofConfig config = .ok policy) : 0 ≤ policy.retries := by
  unfold ofConfig at h
  cases hretry : config.integer? "retry" with
  | error e =>
    rw [hretry] at h
    cases h
  | ok retry =>
    cases hcodes : config.integers "retry_codes" with
    | error e =>
      rw [hretry, hcodes] at h
      cases h
    | ok codes =>
      rw [hretry, hcodes] at h
      obtain rfl := Except.ok.inj h
      exact Int.le_max_right _ _

namespace Sink

/-- Batches and retries are in their bounds, and nothing is there without what it is made of. -/
structure Fit (s : Sink) : Prop where
  bulkSize : 1 ≤ s.bulkSize
  retries : 0 ≤ s.policy.retries
  connected : s.table.isSome → s.connection.isSome
  named : s.fields.isSome → s.table.isSome
  listed : s.prepared.isSome → s.fields.isSome

variable {s : Sink}

theorem fit_ofConfig (config : Config) : Fit (ofConfig config) where
  bulkSize := (ofConfig config).bulkSize_pos
  retries := show (0 : Int) ≤ RetryPolicy.default.retries by decide
  connected := nofun
  named := nofun
  listed := nofun

theorem Fit.setConfig (h : Fit s) (config : Config) : Fit (s.setConfig config) where
  bulkSize := h.bulkSize
  retries := h.retries
  connected := h.connected
  named := h.named
  listed := h.listed

/-! ### The check -/

section Checks

variable {config : Config} {x : Except Error CheckResult} {found : Found}

/-- The settings of the connection are found before the table. -/
theorem Checks.connection_isSome (h : Checks config x found) (htable : found.table.isSome) :
    found.connection.isSome := by
  cases h with
  | incomplete | unreadable | unnamed => cases htable
  | undescribed | unlisted | whole | listed => rfl

/-- The table is found before the fields. -/
theorem Checks.table_isSome_of_fields (h : Checks config x found) (hfields : found.fields.isSome) :
    found.table.isSome := by
  cases h with
  | listed => rfl
  | _ => cases hfields

end Checks

/-- A sink stays fit when what was found in order is written over what is there. -/
theorem Fit.into (h : Fit s) {found : Found}
    (hconnected : found.table.isSome → found.connection.isSome)
    (hnamed : found.fields.isSome → found.table.isSome) : Fit (found.into s) where
  bulkSize := h.bulkSize
  retries := h.retries
  connected := by
    simp only [Found.into, Option.isSome_or, Bool.or_eq_true]
    exact Or.imp hconnected h.connected
  named := by
    simp only [Found.into, Option.isSome_or, Bool.or_eq_true]
    exact Or.imp hnamed h.named
  listed := fun hprepared => by
    simp only [Found.into, Option.isSome_or, Bool.or_eq_true]
    exact .inr (h.listed hprepared)

/-- A check keeps the sink fit, wherever it ends. -/
theorem Fit.check (h : Fit s) (w : World) : Fit (check s w).state := by
  obtain ⟨x, found, w', es, hchecks, hrun⟩ := check_run s.config w
  rw [hrun s rfl]
  exact h.into hchecks.connection_isSome hchecks.table_isSome_of_fields

/-! ### Preparation and output -/

/-- An insertion is left only where there are fields. -/
theorem fields_isSome_of_insertAfter (h : Fit s) (hinsert : s.insertAfter.isSome) :
    s.fields.isSome := by
  cases hfields : s.fields with
  | some fields => rfl
  | none =>
    have hkept : s.insertAfter = s.prepared := by
      unfold insertAfter
      rw [hfields]
      cases s.table <;> rfl
    rw [hkept] at hinsert
    rw [← hfields]
    exact h.listed hinsert

/-- A preparation keeps the sink fit: it may fail with the policy written, but not with the size of
a batch. -/
theorem Fit.prepare (h : Fit s) (w : World) : Fit (prepare s w).state := by
  rcases prepare_run s.config with ⟨e, hfails⟩ | ⟨policy, size, hsize, hpolicy, hrun⟩
  · obtain ⟨policy, hpolicy, hprepare⟩ := hfails s w rfl
    have hretries : 0 ≤ policy.retries := by
      rcases hpolicy with rfl | hread
      · exact h.retries
      · exact RetryPolicy.retries_nonneg hread
    rw [hprepare]
    exact ⟨h.bulkSize, hretries, h.connected, h.named, h.listed⟩
  · obtain ⟨es, -, hprepare⟩ := hrun s w rfl
    rw [hprepare]
    exact ⟨hsize, RetryPolicy.retries_nonneg hpolicy, h.connected, h.named,
      fields_isSome_of_insertAfter h⟩

/-- An output changes nothing. -/
theorem Fit.output (h : Fit s) (df : DataFrame) (w : World) : Fit (output df s w).state := by
  rwa [output_state]

end Sink
end TableLoader
