/-
# Histories of a sink

The sinks that come of any calls in any worlds, each with the checks that it has
had: their configurations and results, the last one first (`Reached`). What a
sink knows comes of its checks. It has a table and connection settings if one of
them got as far as the connection, whatever came of it after that
(`Reached.unchecked_iff`), and it has fields if one of them did so, returned a
result, and had fields configured (`Reached.fields_eq_none_iff`). However the
calls went, the sink is fit for an output (`Reached.fit`).

Key definitions: `Reached`, `ReachesConnection`, `KeepsFields`.
Key theorems: `Reached.unchecked_iff`, `Reached.fields_eq_none_iff`,
`Reached.fit`, `Reached.prepared_eq_none`.
-/
import TableLoader.Proofs.Sink.Fit

namespace TableLoader
namespace Sink

/-- A check: the configuration at that time, and what came of it. -/
abbrev PastCheck := Config × Except Error CheckResult

/-- A sink that comes of calls, each in some world, with its checks. -/
inductive Reached : Sink → List PastCheck → Prop where
  | new (config : Config) : Reached (ofConfig config) []
  | setConfig {s checks} (config : Config) : Reached s checks → Reached (s.setConfig config) checks
  | check {s checks} (w : World) : Reached s checks →
      Reached (check s w).state ((s.config, (check s w).result) :: checks)
  | prepare {s checks} (w : World) : Reached s checks → Reached (prepare s w).state checks
  | output {s checks} (df : DataFrame) (w : World) : Reached s checks →
      Reached (output df s w).state checks

/-- The check got as far as the connection. -/
def ReachesConnection (c : PastCheck) : Prop := ∃ settings table, Targets c.1 settings table

/-- The check got as far as the fields, and they were configured. -/
def KeepsFields (c : PastCheck) : Prop :=
  ReachesConnection c ∧ c.2.isOk = true ∧ ∃ fields, c.1.texts? "fields" = .ok (some fields)

/-- The result of a check is that nothing is wrong. -/
def succeeded : Except Error CheckResult → Bool
  | .ok r => r.success
  | .error _ => false

/-! ### What a check finds -/

section Checks

variable {config : Config} {x : Except Error CheckResult} {found : Found}

/-- A check that finds nothing wrong has read the options, and has found all but the fields, and
these if they are configured. -/
theorem Checks.of_succeeded (h : Checks config x found) (hx : succeeded x = true) :
    ∃ settings table schema fields, Targets config settings table ∧
      config.texts? "fields" = .ok fields ∧
      found = ⟨some settings, some table, some schema, fields⟩ := by
  cases h with
  | incomplete h => exact absurd (h.symm.trans hx) Bool.false_ne_true
  | unreadable | unnamed | undescribed | unlisted => cases hx
  | whole h hfields => exact ⟨_, _, _, none, h, hfields, rfl⟩
  | listed h hfields => exact ⟨_, _, _, _, h, hfields, rfl⟩

/-- A check has found the table if it got as far as the connection. -/
theorem Checks.table_isSome (h : Checks config x found) :
    found.table.isSome ↔ ReachesConnection (config, x) := by
  cases h with
  | incomplete h =>
    refine iff_of_false Bool.false_ne_true ?_
    rintro ⟨settings, table, htargets⟩
    exact absurd (h.symm.trans htargets.complete) Bool.false_ne_true
  | unreadable h =>
    refine iff_of_false Bool.false_ne_true ?_
    rintro ⟨settings, table, htargets⟩
    cases h.symm.trans htargets.settings
  | unnamed h =>
    refine iff_of_false Bool.false_ne_true ?_
    rintro ⟨settings, table, htargets⟩
    cases h.symm.trans htargets.table
  | undescribed h | unlisted h | whole h | listed h => exact iff_of_true rfl ⟨_, _, h⟩

/-- A check has found fields if it got so far and they were configured. -/
theorem Checks.fields_isSome (h : Checks config x found) :
    found.fields.isSome ↔ KeepsFields (config, x) := by
  have hreaches := h.table_isSome
  cases h with
  | incomplete | unreadable | unnamed =>
    refine iff_of_false Bool.false_ne_true fun hkeeps => ?_
    exact absurd (hreaches.mpr hkeeps.1) Bool.false_ne_true
  | undescribed | unlisted =>
    exact iff_of_false Bool.false_ne_true fun hkeeps => absurd hkeeps.2.1 Bool.false_ne_true
  | whole h hnone =>
    refine iff_of_false Bool.false_ne_true ?_
    rintro ⟨-, -, fields, hfields⟩
    cases hnone.symm.trans hfields
  | listed h hfields => exact iff_of_true rfl ⟨⟨_, _, h⟩, rfl, _, hfields⟩

end Checks

/-! ### What a sink knows -/

section Reached

variable {s : Sink} {checks : List PastCheck}

/-- A preparation changes neither table nor fields. -/
theorem prepare_frame (s : Sink) (w : World) :
    (prepare s w).state.table = s.table ∧ (prepare s w).state.fields = s.fields := by
  rcases prepare_run s.config with ⟨e, hrun⟩ | ⟨policy, size, hsize, -, hrun⟩
  · obtain ⟨policy, -, h⟩ := hrun s w rfl
    rw [h]
    exact ⟨rfl, rfl⟩
  · obtain ⟨es, -, h⟩ := hrun s w rfl
    rw [h]
    exact ⟨rfl, rfl⟩

/-- A sink has a table if a check got as far as the connection. -/
theorem Reached.table_isSome (h : Reached s checks) :
    s.table.isSome ↔ ∃ c ∈ checks, ReachesConnection c := by
  induction h with
  | new config => simp [ofConfig]
  | setConfig config _ ih => exact ih
  | @check s checks w _ ih =>
    obtain ⟨x, found, w', es, hchecks, hrun⟩ := check_run s.config w
    rw [hrun s rfl]
    simp only [List.mem_cons, exists_eq_or_imp, ← hchecks.table_isSome, ← ih, Found.into]
    cases found.table <;> simp
  | @prepare s checks w _ ih => rwa [(prepare_frame s w).1]
  | @output s checks df w _ ih => rwa [output_state]

/-- A sink that comes of calls is fit for an output. -/
theorem Reached.fit (h : Reached s checks) : Fit s := by
  induction h with
  | new config => exact fit_ofConfig config
  | setConfig config _ ih => exact ih.setConfig config
  | check w _ ih => exact ih.check w
  | prepare w _ ih => exact ih.prepare w
  | output df w _ ih => exact ih.output df w

/-- A sink has no table or no connection settings as long as no check got as far as the
connection. -/
theorem Reached.unchecked_iff (h : Reached s checks) :
    (s.table = none ∨ s.connection = none) ↔ ∀ c ∈ checks, ¬ ReachesConnection c := by
  have htable := h.table_isSome
  constructor
  · rintro hnone c hc hreaches
    have hsome := htable.mpr ⟨c, hc, hreaches⟩
    have hconnection := h.fit.connected hsome
    rcases hnone with hnone | hnone
    · simp [hnone] at hsome
    · simp [hnone] at hconnection
  · intro hno
    refine .inl (Option.not_isSome_iff_eq_none.mp fun hsome => ?_)
    obtain ⟨c, hc, hreaches⟩ := htable.mp hsome
    exact hno c hc hreaches

/-- A sink has fields if they were configured at a check that got so far. -/
theorem Reached.fields_eq_none_iff (h : Reached s checks) :
    s.fields = none ↔ ∀ c ∈ checks, ¬ KeepsFields c := by
  induction h with
  | new config => simp [ofConfig]
  | setConfig config _ ih => exact ih
  | @check s checks w _ ih =>
    obtain ⟨x, found, w', es, hchecks, hrun⟩ := check_run s.config w
    rw [hrun s rfl]
    simp only [List.forall_mem_cons, ← hchecks.fields_isSome, ← ih, Found.into]
    cases found.fields <;> simp
  | @prepare s checks w _ ih => rwa [(prepare_frame s w).2]
  | @output s checks df w _ ih => rwa [output_state]

/-- A sink without fields has no insertion. -/
theorem Reached.prepared_eq_none (h : Reached s checks) (hfields : s.fields = none) :
    s.prepared = none := by
  refine Option.not_isSome_iff_eq_none.mp fun hprepared => ?_
  have hsome := h.fit.listed hprepared
  rw [hfields] at hsome
  cases hsome

end Reached

/-! ### A small table -/

/-- All required options, and more of them. -/
def smallOptions (more : List (String × Cell)) : Config :=
  .ofList ([("host", .text "h"), ("table", .text "t"), ("database", .text "d"),
    ("username", .text "u"), ("password", .text "p")] ++ more)

/-- A table with a column of texts, one of integers, and one that cannot be loaded. -/
def smallTable : World :=
  { World.still .empty with
    schema := [(.text "a", .text "String"), (.text "b", .text "Int64"), (.text "c", .text "Point")] }

end Sink
end TableLoader
