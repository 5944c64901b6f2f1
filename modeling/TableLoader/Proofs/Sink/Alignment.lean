/-
# Outputs of fit sinks

An output of a sink that comes of calls does not stumble over the sink itself. Types and
fields have the same number, there is one type for each placeholder of a statement, and a
batch holds some row: an error that says otherwise is one that the client has given as an
answer (`insert_of_misfit`). What can be wrong are the fields. Those that an output loads
into are the ones of the insertion that was prepared, or else the configured ones, or else
the columns of the data frame (`effectiveFields`); where some of them are no columns of the
table the output fails with these, in their order, and does not call the client
(`output_of_unknown`).

Key definitions: `Error.IsMisfit`, `effectiveFields`.
Key theorems: `insert_of_misfit`, `output_of_unknown`, `output_fits`.
-/
import TableLoader.Proofs.Sink.Acceptance
import TableLoader.Proofs.Sink.ByName
import TableLoader.Proofs.Sink.History

namespace TableLoader

namespace Error

/-- Types, fields and batches do not go together. -/
inductive IsMisfit : Error → Prop where
  | types : IsMisfit .typesNotAligned
  | bulkSize (size : Int) : IsMisfit (.badBulkSize size)
  | count (types placeholders : Nat) : IsMisfit (.typeCount types placeholders)

theorem EndsLoad.not_isMisfit {e : Error} (h : e.EndsLoad) : ¬ e.IsMisfit := by
  intro hmisfit
  cases h <;> cases hmisfit

end Error

theorem ConnectionSettings.not_isMisfit_of_address {settings : ConnectionSettings} {e : Error}
    (h : settings.address = .error e) : ¬ e.IsMisfit := by
  intro hmisfit
  rcases address_error h with ⟨entry, rfl⟩ | ⟨f, rfl⟩ <;> cases hmisfit

namespace Sink

variable {s : Sink} {df : DataFrame} {w : World}

/-- The fields that an output of a data frame with these columns loads into: without configured
fields they are the columns. -/
def effectiveFields (s : Sink) (columns : List String) : List String :=
  match s.fields with
  | none => columns
  | some fields => s.loadedFields fields

theorem fields_insertFor_eq (s : Sink) (table : String) (columns : List String) :
    (s.insertFor table columns).fields = s.effectiveFields columns := by
  cases hfields : s.fields with
  | none => simp only [insertFor, effectiveFields, hfields]
  | some fields => rw [fields_insertFor hfields, effectiveFields, hfields]

/-- If all fields are columns of the table, their types are known. -/
theorem exists_typesOf (table : String) {columns : List String}
    (h : unknownFields s.schema (s.effectiveFields columns) = []) :
    ∃ types, typesOf s.schema table (s.insertFor table columns).fields = .ok types := by
  rw [fields_insertFor_eq]
  exact ⟨_, if_neg (not_not.mpr h)⟩

/-- If some fields are no columns of the table, there is no plan. -/
theorem planFor_of_unknown {table : String} {settings : ConnectionSettings} {columns : List String}
    (h : unknownFields s.schema (s.effectiveFields columns) ≠ []) :
    s.planFor table settings columns =
      .error (.unknownFields (unknownFields s.schema (s.effectiveFields columns)) table) := by
  have htypes : typesOf s.schema table (s.effectiveFields columns) =
      .error (.unknownFields (unknownFields s.schema (s.effectiveFields columns)) table) := if_pos h
  unfold planFor
  dsimp only
  rw [fields_insertFor_eq, htypes]
  rfl

/-- An output fails with the fields that are no columns of the table, before it calls the
client. -/
theorem output_of_unknown {table : String} {settings : ConnectionSettings}
    (htable : s.table = some table) (hsettings : s.connection = some settings)
    (h : unknownFields s.schema (s.effectiveFields df.columns) ≠ []) :
    (output df s w).result =
        .error (.unknownFields (unknownFields s.schema (s.effectiveFields df.columns)) table) ∧
      clientCalls (output df s w).events = [] := by
  obtain ⟨es, hes, hrun⟩ := output_unplanned htable hsettings df w (planFor_of_unknown h)
  rw [hrun]
  exact ⟨rfl, hes⟩

/-- An output fails with types, fields and batches that do not go together only if the client has
answered so. -/
theorem insert_of_misfit {e : Error} (hmisfit : e.IsMisfit)
    (h : (output df s w).result = .error e) : some e ∈ w.inserts := by
  rcases s.unchecked_or_exists with hunchecked | ⟨table, settings, htable, hsettings⟩
  · rw [output_unchecked hunchecked] at h
    cases h
    cases hmisfit
  by_cases hknown : unknownFields s.schema (s.effectiveFields df.columns) = []
  · obtain ⟨types, htypes⟩ := exists_typesOf table hknown
    rcases output_error htable hsettings htypes h with haddress | hends | ⟨hanswer, -⟩
    · exact absurd hmisfit (ConnectionSettings.not_isMisfit_of_address haddress)
    · exact absurd hmisfit hends.not_isMisfit
    · exact hanswer
  · rw [(output_of_unknown htable hsettings hknown).1] at h
    cases h
    cases hmisfit

/-- A sink with known fields has a plan for the data frame, and each statement of the plan can be
opened. -/
theorem exists_plan {table : String} (settings : ConnectionSettings)
    (h : unknownFields s.schema (s.effectiveFields df.columns) = []) :
    ∃ plan : PartitionPlan, s.planFor table settings df.columns = .ok plan ∧
      plan.insert.fields = s.effectiveFields df.columns ∧
      Statement.open? plan.insert plan.types = .ok plan.statement := by
  obtain ⟨types, htypes⟩ := exists_typesOf table h
  obtain ⟨plan, hplan, -, hinsert, -⟩ := planFor_of_typesOf settings htypes
  refine ⟨plan, hplan, ?_, if_pos plan.types_aligned⟩
  rw [hinsert, fields_insertFor_eq]

/-- A sink that comes of calls, whatever their results and worlds, is fit for an output. Its own
code does not fail over types, fields and batches that do not go together: a data frame whose
fields are columns of the table has a plan whose statements can be opened, and one with other fields
fails with these, in their order, without a call of the client. -/
theorem output_fits {checks : List PastCheck} (h : Reached s checks) (df : DataFrame)
    (w : World) :
    Fit s ∧
    (∀ e : Error, e.IsMisfit → (output df s w).result = .error e → some e ∈ w.inserts) ∧
    ∀ table, s.table = some table →
      (unknownFields s.schema (s.effectiveFields df.columns) = [] →
        ∃ settings plan, s.connection = some settings ∧
          s.planFor table settings df.columns = .ok plan ∧
          plan.insert.fields = s.effectiveFields df.columns ∧
          Statement.open? plan.insert plan.types = .ok plan.statement) ∧
      (unknownFields s.schema (s.effectiveFields df.columns) ≠ [] →
        (output df s w).result =
            .error (.unknownFields (unknownFields s.schema (s.effectiveFields df.columns)) table) ∧
          clientCalls (output df s w).events = []) := by
  refine ⟨h.fit, fun e hmisfit herror => insert_of_misfit hmisfit herror, fun table htable => ?_⟩
  obtain ⟨settings, hsettings⟩ : ∃ settings, s.connection = some settings :=
    Option.isSome_iff_exists.mp (h.fit.connected (by rw [htable]; rfl))
  refine ⟨fun hknown => ?_, output_of_unknown htable hsettings⟩
  obtain ⟨plan, hplan⟩ := exists_plan settings hknown
  exact ⟨settings, plan, hsettings, hplan⟩

/-- A sink whose check has found that two of its three fields are no columns. -/
def strayedSink : Sink := (check (ofConfig (smallOptions [("fields", .text "x,a,y")])) smallTable).state

/-- The next output fails with the two fields. -/
theorem strayedSink_output_fits :
    Reached strayedSink [(smallOptions [("fields", .text "x,a,y")],
      (check (ofConfig (smallOptions [("fields", .text "x,a,y")])) smallTable).result)] ∧
    (output ⟨["a"], [[[("a", .text "s")]]]⟩ strayedSink smallTable).result =
      .error (.unknownFields ["x", "y"] "t") := by
  have hreached := Reached.check smallTable (.new (smallOptions [("fields", .text "x,a,y")]))
  have htable : strayedSink.table = some "t" := by decide +kernel
  have hstrays : unknownFields strayedSink.schema (strayedSink.effectiveFields ["a"]) = ["x", "y"] := by
    decide +kernel
  obtain ⟨-, -, houtput⟩ :=
    output_fits hreached ⟨["a"], [[[("a", .text "s")]]]⟩ smallTable
  obtain ⟨hresult, -⟩ := (houtput "t" htable).2 (by rw [← strayedSink, hstrays]; decide)
  rw [← strayedSink, hstrays] at hresult
  exact ⟨hreached, hresult⟩

end Sink
end TableLoader
