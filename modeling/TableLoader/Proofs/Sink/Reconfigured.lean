/-
# Sinks that get other settings

A sink that has a past gets other settings, is checked and prepared. Next to it
stands a new sink with these settings. The checks of both come to the same, and
leave the same connection settings, table, schema, retry policy and size of a
batch (`Agrees`). The fields and the insertion are another matter: a check only
sets the fields that are configured. So the two sinks load alike (`LoadsAlike`)
exactly if fields are among the new settings, or no earlier check has kept any
(`reconfigured_iff`).

Key definitions: `configured`, `Agrees`, `LoadsAlike`.
Key theorems: `configured_run`, `reconfigured_iff`.
-/
import TableLoader.Proofs.Sink.History

namespace TableLoader
namespace Sink

/-- The sink after it got settings, was checked and was prepared. -/
def configured (config : Config) (w w' : World) (s : Sink) : Sink :=
  (prepare (check (s.setConfig config) w).state w').state

/-- The sinks agree in all that checks and preparations set but the fields and the insertion. -/
structure Agrees (a b : Sink) : Prop where
  config : a.config = b.config
  table : a.table = b.table
  schema : a.schema = b.schema
  connection : a.connection = b.connection
  policy : a.policy = b.policy
  bulkSize : a.bulkSize = b.bulkSize

/-- The sinks have the same fields, make the same insertions, and load every data frame with the
same events and the same result. -/
structure LoadsAlike (a b : Sink) : Prop where
  fields : a.fields = b.fields
  insert : ∀ table columns, a.insertFor table columns = b.insertFor table columns
  result : ∀ df w, (output df a w).result = (output df b w).result
  events : ∀ df w, (output df a w).events = (output df b w).events
  world : ∀ df w, (output df a w).world = (output df b w).world

theorem LoadsAlike.refl (s : Sink) : LoadsAlike s s :=
  ⟨rfl, fun _ _ => rfl, fun _ _ => rfl, fun _ _ => rfl, fun _ _ => rfl⟩

variable {config : Config} {w w' : World}

/-- The insertion of a sink with this table, after a preparation. -/
def insertionWith (table : String) (fields : Option (List String)) (old : Option Insert) :
    Option Insert :=
  match fields with
  | some fields => some ⟨table, fields⟩
  | none => old

theorem insertAfter_of_table {s : Sink} {table : String} (h : s.table = some table) :
    s.insertAfter = insertionWith table s.fields s.prepared := by
  cases hfields : s.fields with
  | none => simp [insertAfter, insertionWith, h, hfields]
  | some fields => simp [insertAfter, insertionWith, h, hfields]

/-- What settings, a check that finds nothing wrong and a preparation make of a sink they make of
every sink. Of the old sink they keep fields, if none are configured, and with these the
insertion. -/
theorem configured_run {s : Sink} (hcheck : succeeded (check (s.setConfig config) w).result = true)
    (hprepare : (prepare (check (s.setConfig config) w).state w').result.isOk = true) :
    ∃ x w₁ es settings table schema fields policy size, ∃ hsize : 0 < size,
      config.texts? "fields" = .ok fields ∧ ∀ t : Sink,
        check (t.setConfig config) w = ⟨x, (check (t.setConfig config) w).state, w₁, es⟩ ∧
        ∃ fs, clientCalls fs = [] ∧ prepare (check (t.setConfig config) w).state w' =
          ⟨.ok (), {
            config := config.withDefaults defaultOptions
            table := some table
            schema := schema
            fields := fields.or t.fields
            connection := some settings
            prepared := insertionWith table (fields.or t.fields) t.prepared
            policy := policy
            bulkSize := size
            bulkSize_pos := hsize }, w', fs⟩ := by
  obtain ⟨x, found, w₁, es, hchecks, hrun⟩ := check_run config w
  rw [hrun (s.setConfig config) rfl] at hcheck hprepare
  obtain ⟨settings, table, schema, fields, -, hfields, rfl⟩ := hchecks.of_succeeded hcheck
  rcases prepare_run config with ⟨e, hfail⟩ | ⟨policy, size, hsize, -, hprep⟩
  · obtain ⟨policy, -, hrun'⟩ := hfail (Found.into _ (s.setConfig config)) w' rfl
    rw [hrun'] at hprepare
    cases hprepare
  · refine ⟨x, w₁, es, settings, table, schema, fields, policy, size, hsize, hfields, fun t => ?_⟩
    obtain ⟨fs, hfs, hrun'⟩ := hprep (Found.into _ (t.setConfig config)) w' rfl
    rw [hrun (t.setConfig config) rfl]
    refine ⟨rfl, fs, hfs, hrun'.trans ?_⟩
    rw [insertAfter_of_table (s := Found.into ⟨some settings, some table, some schema, fields⟩
      (t.setConfig config)) rfl]
    rfl

/-- A sink with a past that gets settings, passes a check and is prepared shows the same check as
a new sink, and agrees with it but for the fields and the insertion. It loads like the new one
exactly if fields are configured, or no earlier check has kept any. -/
theorem reconfigured_iff {s : Sink} {checks : List PastCheck} (h : Reached s checks)
    (hcheck : succeeded (check (s.setConfig config) w).result = true)
    (hprepare : (prepare (check (s.setConfig config) w).state w').result.isOk = true) :
    ((check (s.setConfig config) w).result = (check (ofConfig config) w).result ∧
      (check (s.setConfig config) w).events = (check (ofConfig config) w).events ∧
      (check (s.setConfig config) w).world = (check (ofConfig config) w).world) ∧
    ((prepare (check (ofConfig config) w).state w').result = .ok () ∧
      clientCalls (prepare (check (s.setConfig config) w).state w').events = [] ∧
      clientCalls (prepare (check (ofConfig config) w).state w').events = []) ∧
    Agrees (configured config w w' s) (configured config w w' (ofConfig config)) ∧
    (LoadsAlike (configured config w w' s) (configured config w w' (ofConfig config)) ↔
      (∃ fields, config.texts? "fields" = .ok (some fields)) ∨ ∀ c ∈ checks, ¬ KeepsFields c) := by
  obtain ⟨x, w₁, es, settings, table, schema, fields, policy, size, hsize, hfields, hrun⟩ :=
    configured_run hcheck hprepare
  have hnew : (ofConfig config).setConfig config = ofConfig config := rfl
  obtain ⟨hcheckOld, fs, hfs, hprepareOld⟩ := hrun s
  obtain ⟨hcheckNew, gs, hgs, hprepareNew⟩ := hrun (ofConfig config)
  rw [hnew] at hcheckNew hprepareNew
  have hold := congrArg Ran.state hprepareOld
  have hfresh := congrArg Ran.state hprepareNew
  refine ⟨⟨?_, ?_, ?_⟩, ⟨?_, ?_, ?_⟩, ?_, ?_⟩
  · exact (congrArg Ran.result hcheckOld).trans (congrArg Ran.result hcheckNew).symm
  · exact (congrArg Ran.events hcheckOld).trans (congrArg Ran.events hcheckNew).symm
  · exact (congrArg Ran.world hcheckOld).trans (congrArg Ran.world hcheckNew).symm
  · rw [hprepareNew]
  · rw [hprepareOld]
    exact hfs
  · rw [hprepareNew]
    exact hgs
  · unfold configured
    rw [hnew, hold, hfresh]
    exact ⟨rfl, rfl, rfl, rfl, rfl, rfl⟩
  unfold configured
  rw [hnew, hold, hfresh]
  constructor
  · intro hsame
    have hkept : fields.or s.fields = fields.or none := hsame.fields
    cases fields with
    | some fields => exact .inl ⟨fields, hfields⟩
    | none => exact .inr (h.fields_eq_none_iff.mp hkept)
  · rintro (⟨given, hgiven⟩ | hno)
    · obtain rfl : some given = fields := Except.ok.inj (hgiven.symm.trans hfields)
      exact .refl _
    · have hnone := h.fields_eq_none_iff.mpr hno
      rw [hnone, h.prepared_eq_none hnone]
      exact .refl _

/-- Configured fields take the place of those that an earlier check has kept. -/
theorem smallSink_reconfigured :
    LoadsAlike
      (configured (smallOptions [("fields", .text "b")]) smallTable smallTable
        (check (ofConfig (smallOptions [("fields", .text "a")])) smallTable).state)
      (configured (smallOptions [("fields", .text "b")]) smallTable smallTable
        (ofConfig (smallOptions [("fields", .text "b")]))) :=
  (reconfigured_iff (.check smallTable (.new (smallOptions [("fields", .text "a")])))
    (by decide +kernel) (by decide +kernel)).2.2.2.mpr (.inl ⟨["b"], rfl⟩)

/-- Without configured fields those that an earlier check has kept survive, and are loaded instead
of the columns of the data frame. -/
theorem kept_fields_survive :
    let old := (check (ofConfig (smallOptions [("fields", .text "a")])) smallTable).state
    let new := ofConfig (smallOptions [])
    succeeded (check (old.setConfig (smallOptions [])) smallTable).result = true ∧
      (prepare (check (old.setConfig (smallOptions [])) smallTable).state smallTable).result.isOk =
        true ∧
      ((configured (smallOptions []) smallTable smallTable old).insertFor "t" ["b"]).fields =
        ["a"] ∧
      ((configured (smallOptions []) smallTable smallTable new).insertFor "t" ["b"]).fields =
        ["b"] := by
  refine ⟨?_, ?_, ?_, ?_⟩
  · decide +kernel
  · decide +kernel
  · decide +kernel
  · decide +kernel

end Sink
end TableLoader
