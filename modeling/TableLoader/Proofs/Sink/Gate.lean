/-
# When an output is stopped

A sink that was not checked loads nothing. What an output looks for, however, are
a table and connection settings, and those are there as soon as any check got as
far as the connection, whatever came of it and of later checks. So an output
after a check that failed is stopped, without a call of the client, exactly if no
check so far got as far as the connection, or if there is another reason to stop
(`output_gated_iff`): the fields are not in the schema that is there, or the
settings give no address, or there are no partitions and the time that this took
cannot be noted (`Stops`).

Key definitions: `Cleared`, `Stops`.
Key theorems: `output_stopped_iff`, `output_gated_iff`.
-/
import TableLoader.Proofs.Sink.History

namespace TableLoader
namespace Sink

/-- The most recent check, if there was one, found nothing wrong. -/
def Cleared (checks : List PastCheck) : Prop := ∃ c, checks.head? = some c ∧ succeeded c.2 = true

/-- Notes the time that it takes to load nothing. -/
def noteTime (table : String) : Act Sink Unit := do
  let start ← Act.readClock
  let stop ← Act.readClock
  TimingLog.append ("[clickhouse sink] table=" ++ table ++ " duration=" ++ durationText start stop)

/-- An output of the data frame is stopped though there are a table and connection settings. -/
inductive Stops (s : Sink) (df : DataFrame) (w : World) : Prop where
  /-- there is no plan: a field is not in the schema, for instance -/
  | unplanned {table settings e} : s.table = some table → s.connection = some settings →
      s.planFor table settings df.columns = .error e → Stops s df w
  /-- the first connection cannot be opened -/
  | unaddressed {table settings e} : s.table = some table → s.connection = some settings →
      settings.address = .error e → df.partitions ≠ [] → Stops s df w
  /-- nothing is loaded, and the time of that cannot be noted -/
  | unnoted {table e} : s.table = some table → df.partitions = [] →
      (noteTime table s w).result = .error e → Stops s df w

/-- A plan connects with the settings that it is made for. -/
theorem connection_of_planFor {s : Sink} {table : String} {settings : ConnectionSettings}
    {columns : List String} {plan : PartitionPlan}
    (h : s.planFor table settings columns = .ok plan) : plan.connection = settings := by
  unfold planFor at h
  dsimp only at h
  cases htypes : typesOf s.schema table (s.insertFor table columns).fields with
  | error e =>
    rw [htypes] at h
    cases h
  | ok types =>
    rw [htypes] at h
    change PartitionPlan.of? settings _ types columns s.bulkSize s.policy = .ok plan at h
    unfold PartitionPlan.of? at h
    split at h
    · split at h
      · rw [← Except.ok.inj h]
      · cases h
    · cases h

theorem noteTime_silent (table : String) : Act.Silent (noteTime table) :=
  Act.silent_readClock.bind fun _ => Act.silent_readClock.bind fun _ => TimingLog.append_silent _

section Planned

variable {s : Sink} {table : String} {settings : ConnectionSettings} {df : DataFrame} {w : World}
  {plan : PartitionPlan} (htable : s.table = some table)
  (hsettings : s.connection = some settings)
  (hplan : s.planFor table settings df.columns = .ok plan)

include htable hsettings hplan

/-- Without partitions the client is not called, and the time is noted. -/
theorem output_nothing (hnone : df.partitions = []) :
    (output df s w).result = (noteTime table s w).result ∧
      clientCalls (output df s w).events = [] := by
  obtain ⟨es, hes, hrun⟩ := output_planned htable hsettings df w hplan
  have hskip : ∀ f : Unit → Act Sink Unit, (loadPartitions plan [] >>= f) = f () := fun f => rfl
  simp only [hnone, hskip] at hrun
  rw [← noteTime] at hrun
  rw [hrun, Ran.after_result, Ran.after_events, clientCalls_append, hes,
    (noteTime_silent table).calls]
  exact ⟨rfl, rfl⟩

/-- Without an address the first partition is not loaded, and the client is not called. -/
theorem output_unaddressed {e : Error} (haddr : settings.address = .error e)
    (hsome : df.partitions ≠ []) :
    (output df s w).result = .error e ∧ clientCalls (output df s w).events = [] := by
  obtain ⟨es, hes, hrun⟩ := output_planned htable hsettings df w hplan
  obtain ⟨rows, rest, hpartitions⟩ := List.exists_cons_of_ne_nil hsome
  rw [← connection_of_planFor hplan] at haddr
  have hload : ∀ w, loadPartitions plan df.partitions s w = ⟨.error e, s, w, []⟩ := fun w => by
    rw [hpartitions, loadPartitions,
      Act.bind_error (PartitionPlan.loadPartition_unaddressed haddr rows s w)]
  rw [Act.readClock_bind, Act.bind_error (hload _), Ran.after_mk, List.append_nil] at hrun
  rw [hrun]
  exact ⟨rfl, hes⟩

/-- With an address the first partition is loaded over a connection. -/
theorem output_connects {url : String} (haddr : settings.address = .ok url)
    (hsome : df.partitions ≠ []) : clientCalls (output df s w).events ≠ [] := by
  obtain ⟨es, -, hrun⟩ := output_planned htable hsettings df w hplan
  obtain ⟨rows, rest, hpartitions⟩ := List.exists_cons_of_ne_nil hsome
  rw [← connection_of_planFor hplan] at haddr
  have hload : ∀ w, clientCalls (loadPartitions plan df.partitions s w).events ≠ [] := fun w => by
    obtain ⟨sent, hloads⟩ := PartitionPlan.exists_loads haddr rows s w
    rw [hpartitions, loadPartitions]
    apply clientCalls_bind_ne_nil
    rw [hloads.calls]
    exact List.cons_ne_nil _ _
  rw [hrun, Ran.after_events, clientCalls_append, Act.readClock_bind]
  exact List.append_ne_nil_of_right_ne_nil _ (clientCalls_bind_ne_nil (hload _))

end Planned

/-- An output is stopped, without a call of the client, if there are no table or no connection
settings, or for one of the other reasons; and for no other reason. -/
theorem output_stopped_iff (s : Sink) (df : DataFrame) (w : World) :
    ((∃ e, (output df s w).result = .error e) ∧ clientCalls (output df s w).events = []) ↔
      (s.table = none ∨ s.connection = none) ∨ Stops s df w := by
  rcases s.unchecked_or_exists with hnone | ⟨table, settings, htable, hsettings⟩
  · rw [output_unchecked hnone]
    exact iff_of_true ⟨⟨_, rfl⟩, rfl⟩ (.inl hnone)
  have hnone : ¬ (s.table = none ∨ s.connection = none) := by
    rw [htable, hsettings]
    exact not_or.mpr ⟨Option.some_ne_none _, Option.some_ne_none _⟩
  rw [or_iff_right hnone]
  cases hplan : s.planFor table settings df.columns with
  | error e =>
    obtain ⟨es, hes, hrun⟩ := output_unplanned htable hsettings df w hplan
    rw [hrun]
    exact iff_of_true ⟨⟨e, rfl⟩, hes⟩ (.unplanned htable hsettings hplan)
  | ok plan =>
    -- with a plan, the first reason to stop is none
    have hreasons : Stops s df w ↔ (∃ e, settings.address = .error e) ∧ df.partitions ≠ [] ∨
        df.partitions = [] ∧ ∃ e, (noteTime table s w).result = .error e := by
      constructor
      · rintro (⟨htable', hsettings', hplan'⟩ | ⟨-, hsettings', haddr, hsome⟩ |
          ⟨htable', hnone, hnote⟩)
        · obtain rfl := Option.some.inj (htable.symm.trans htable')
          obtain rfl := Option.some.inj (hsettings.symm.trans hsettings')
          cases hplan.symm.trans hplan'
        · obtain rfl := Option.some.inj (hsettings.symm.trans hsettings')
          exact .inl ⟨⟨_, haddr⟩, hsome⟩
        · obtain rfl := Option.some.inj (htable.symm.trans htable')
          exact .inr ⟨hnone, _, hnote⟩
      · rintro (⟨⟨e, haddr⟩, hsome⟩ | ⟨hnone, e, hnote⟩)
        · exact .unaddressed htable hsettings haddr hsome
        · exact .unnoted htable hnone hnote
    rw [hreasons]
    by_cases hnone : df.partitions = []
    · obtain ⟨hresult, hcalls⟩ := output_nothing (w := w) htable hsettings hplan hnone
      simp [hresult, hcalls, hnone]
    · cases haddr : settings.address with
      | error e =>
        obtain ⟨hresult, hcalls⟩ := output_unaddressed (w := w) htable hsettings hplan haddr hnone
        simp [hresult, hcalls, hnone]
      | ok url =>
        have hcalls := output_connects (w := w) htable hsettings hplan haddr hnone
        simp [hcalls, hnone]

/-- That an output is stopped unless the most recent check found nothing wrong holds exactly if that
check did, or no check so far got as far as the connection, or there is another reason to stop. -/
theorem output_gated_iff {s : Sink} {checks : List PastCheck} (h : Reached s checks)
    (df : DataFrame) (w : World) :
    (¬ Cleared checks → (∃ e, (output df s w).result = .error e) ∧
        clientCalls (output df s w).events = []) ↔
      Cleared checks ∨ (∀ c ∈ checks, ¬ ReachesConnection c) ∨ Stops s df w := by
  rw [output_stopped_iff, h.unchecked_iff]
  by_cases hcleared : Cleared checks
  · simp [hcleared]
  · simp [hcleared]

/-- A check that misses required options stops the next output, though there are rows to load. -/
theorem smallSink_output_gated :
    let config : Config := .ofList [("host", .text "h"), ("table", .text "t")]
    let checked := check (ofConfig config) smallTable
    let frame : DataFrame := ⟨["a"], [[[("a", .text "x")], [("a", .text "y")]], [[("a", .text "z")]]]⟩
    Reached checked.state [(config, checked.result)] ∧
      ¬ Cleared [(config, checked.result)] ∧
      (∃ e, (output frame checked.state smallTable).result = .error e) ∧
      clientCalls (output frame checked.state smallTable).events = [] := by
  intro config checked frame
  have hreached : Reached checked.state [(config, checked.result)] := .check smallTable (.new config)
  have hfailed : succeeded checked.result = false := by decide +kernel
  have huncleared : ¬ Cleared [(config, checked.result)] := by
    rintro ⟨c, hc, hsucceeded⟩
    obtain rfl := Option.some.inj hc
    exact absurd (hsucceeded.symm.trans hfailed) (by decide)
  have hincomplete : (config.checkRequired requiredOptions).success = false := by decide +kernel
  have hno : ∀ c ∈ [(config, checked.result)], ¬ ReachesConnection c := by
    rintro c hc ⟨settings, table, htargets⟩
    obtain rfl := List.mem_singleton.mp hc
    exact absurd (htargets.complete.symm.trans hincomplete) (by decide)
  exact ⟨hreached, huncleared,
    (output_gated_iff hreached frame smallTable).mpr (.inr (.inl hno)) huncleared⟩

/-- A check that fails at the type of a column lets the next output pass, with all its calls. -/
theorem failed_check_passes_gate :
    let config := smallOptions [("fields", .text "c")]
    let checked := check (ofConfig config) smallTable
    Reached checked.state [(config, checked.result)] ∧
      ¬ Cleared [(config, checked.result)] ∧
      (clientCalls (output ⟨["c"], [[[("c", .int 1)]]]⟩ checked.state smallTable).events).length = 3 := by
  refine ⟨.check smallTable (.new _), ?_, by decide +kernel⟩
  rintro ⟨c, hc, hsucceeded⟩
  obtain rfl := Option.some.inj hc
  have hfailed : succeeded (check (ofConfig (smallOptions [("fields", .text "c")])) smallTable).result =
      false := by decide +kernel
  exact absurd (hsucceeded.symm.trans hfailed) (by decide)

end Sink
end TableLoader
