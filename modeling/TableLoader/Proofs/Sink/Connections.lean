/-
# Connections are closed

What a sink calls the client for are whole connections, one after the other: a
connection is opened, calls go over it, and it is closed before the next one is opened
(`Connections`). Each step of a sink has connections of its own, whether it fails or not
(`Act.Closes`): a check has at most one, an output one for each partition that it gets
to. So after every step of a run, whatever the steps have met, each connection that was
opened has been closed once (`run_connections`).

Key definitions: `Connections`, `Act.Closes`, `Step`, `eventsOf`.
Key theorems: `Closes.bind`, `check_closes`, `output_closes`, `run_connections`.
-/
import TableLoader.Proofs.Sink.Steps

namespace TableLoader

variable {σ α β : Type}

/-- The event is a call over a connection. -/
def Event.isOverConnection : Event → Bool
  | .describe .. | .insert .. => true
  | _ => false

/-- Calls of the client that are whole connections one after the other: each is opened, calls go
over it, and it is closed. -/
inductive Connections : List Event → Prop where
  | none : Connections []
  | next {url calls rest} : (∀ e ∈ calls, e.isOverConnection = true) → Connections rest →
      Connections (.connect url :: (calls ++ .disconnect :: rest))

theorem Connections.append {es fs : List Event} (h : Connections es) (hfs : Connections fs) :
    Connections (es ++ fs) := by
  induction h with
  | none => exact hfs
  | @next url calls rest hcalls _ ih =>
    rw [List.cons_append, List.append_assoc, List.cons_append]
    exact .next hcalls ih

/-- A single connection. -/
theorem Connections.one {url : String} {calls : List Event}
    (h : ∀ e ∈ calls, e.isOverConnection = true) :
    Connections (.connect url :: (calls ++ [.disconnect])) :=
  .next h .none

namespace Act

/-- The client calls of the action are whole connections, whether it fails or not. -/
def Closes (a : Act σ α) : Prop := ∀ s w, Connections (clientCalls (a s w).events)

theorem closes_of_calls {a : Act σ α} (h : ∀ s w, clientCalls (a s w).events = []) :
    Closes a := by
  intro s w
  rw [h s w]
  exact .none

theorem closes_pure (x : α) : Closes (pure x : Act σ α) := closes_of_calls fun _ _ => rfl

theorem closes_get : Closes (get : Act σ σ) := closes_of_calls fun _ _ => rfl

theorem closes_modify (f : σ → σ) : Closes (modify f) := closes_of_calls fun _ _ => rfl

theorem closes_ofExcept (x : Except Error α) : Closes (ofExcept x : Act σ α) := by
  refine closes_of_calls fun s w => ?_
  cases x <;> rfl

theorem Closes.bind {a : Act σ α} {f : α → Act σ β} (ha : Closes a) (hf : ∀ x, Closes (f x)) :
    Closes (a >>= f) := by
  intro s w
  cases hresult : (a s w).result with
  | error e =>
    rw [bind_of_error hresult]
    exact ha s w
  | ok x =>
    rw [bind_of_ok hresult, clientCalls_append]
    exact (ha s w).append (hf x _ _)

theorem Silent.closes {a : Act σ α} (h : Silent a) : Closes a := closes_of_calls h.calls

end Act

open Act

/-- The load of a partition has one connection, or none if there is no address. -/
theorem PartitionPlan.loadPartition_closes (plan : PartitionPlan) (rows : List Row) :
    Closes (plan.loadPartition rows : Act σ PartitionStats) := by
  intro s w
  cases haddr : plan.connection.address with
  | error e =>
    rw [loadPartition_unaddressed haddr]
    exact .none
  | ok url =>
    obtain ⟨sent, hloads⟩ := exists_loads haddr rows s w
    rw [hloads.calls]
    refine .one fun e he => ?_
    obtain ⟨x, -, he⟩ := List.mem_flatMap.mp he
    obtain ⟨o, -, rfl⟩ := List.mem_map.mp he
    rfl

namespace Sink

/-! ### The steps -/

theorem noteFailure_closes (what : String) (r : CheckResult) : Closes (noteFailure what r) := by
  obtain ⟨es, hes, hrun⟩ := noteFailure_run what r
  refine closes_of_calls fun s w => ?_
  rw [hrun s w]
  exact hes

theorem checkFields_closes : Closes checkFields := by
  refine closes_get.bind fun s => (closes_ofExcept _).bind fun given => ?_
  cases given with
  | none => exact closes_pure _
  | some fields =>
    exact (closes_modify _).bind fun _ => (noteFailure_closes _ _).bind fun _ => closes_pure _

/-- The columns of a table are asked for over one connection, or not if there is no address. -/
theorem keepSchema_closes (settings : ConnectionSettings) (table : String) :
    Closes (withConnection settings (do
      let schema ← fetchSchema table
      Act.modify fun s => { s with schema := schema })) := by
  intro s w
  cases haddr : settings.address with
  | error e =>
    rw [withConnection_error haddr]
    exact .none
  | ok url =>
    obtain ⟨x, next, es, hrun, hcalls⟩ := keepSchema_run settings table w
    have hevents : (withConnection settings (do
        let schema ← fetchSchema table
        Act.modify fun s => { s with schema := schema }) s w).events = es := by
      rw [hrun s w (.refl w)]
      cases x <;> rfl
    have hdescribe : ∀ e ∈ [Event.describe ("desc " ++ table) w.nextDescribe.1],
        e.isOverConnection = true := by
      intro e he
      rw [List.mem_singleton.mp he]
      rfl
    rw [hevents, (hcalls url haddr).1]
    exact .one hdescribe

/-- A check closes the connection that it opens. -/
theorem check_closes : Closes check := by
  refine closes_get.bind fun s => ?_
  dsimp only
  by_cases hcomplete : (s.config.checkRequired requiredOptions).success = true
  · simp only [hcomplete, Bool.not_true, Bool.false_eq_true, ↓reduceIte]
    exact (closes_ofExcept _).bind fun settings => (closes_modify _).bind fun _ =>
      (closes_ofExcept _).bind fun table => (closes_modify _).bind fun _ =>
        (keepSchema_closes settings table).bind fun _ => checkFields_closes
  · simp only [hcomplete, Bool.not_false, ↓reduceIte]
    exact (noteFailure_closes _ _).bind fun _ => closes_pure _

/-- A preparation opens no connection. -/
theorem prepare_closes : Closes prepare := by
  refine closes_of_calls fun s w => ?_
  rcases prepare_run s.config with ⟨e, hrun⟩ | ⟨policy, size, hsize, -, hrun⟩
  · obtain ⟨policy, -, h⟩ := hrun s w rfl
    rw [h]
    rfl
  · obtain ⟨es, hes, h⟩ := hrun s w rfl
    rw [h]
    exact hes

theorem loadPartitions_closes (plan : PartitionPlan) : ∀ partitions : List (List Row),
    Closes (loadPartitions plan partitions : Act σ Unit)
  | [] => closes_pure _
  | rows :: rest => (plan.loadPartition_closes rows).bind fun stats =>
      have hreport : Closes (emit (.partition stats) : Act σ Unit) := closes_of_calls fun _ _ => rfl
      hreport.bind fun _ => loadPartitions_closes plan rest

/-- An output closes the connection of each partition that it gets to. -/
theorem output_closes (df : DataFrame) : Closes (output df) := by
  intro s w
  rcases s.unchecked_or_exists with hunchecked | ⟨table, settings, htable, hsettings⟩
  · rw [output_unchecked hunchecked]
    exact .none
  have hload : ∀ plan, Closes (timedLoad plan table df.partitions) := fun plan =>
    silent_readClock.closes.bind fun _ => (loadPartitions_closes plan _).bind fun _ =>
      silent_readClock.closes.bind fun _ => (TimingLog.append_silent _).closes
  rw [output_run htable hsettings, Ran.after_events, clientCalls_append,
    clientCalls_inferenceNote, List.nil_append]
  exact (closes_ofExcept _).bind hload s w

/-! ### Runs -/

/-- A step of a sink, in the world that it meets. -/
inductive Step where
  | setConfig (config : Config)
  | check (w : World)
  | prepare (w : World)
  | output (df : DataFrame) (w : World)

/-- The sink that a step leaves and the events of the step, whether the step fails or not. -/
def Step.run (s : Sink) : Step → Sink × List Event
  | setConfig config => (s.setConfig config, [])
  | check w => ((Sink.check s w).state, (Sink.check s w).events)
  | prepare w => ((Sink.prepare s w).state, (Sink.prepare s w).events)
  | output df w => ((Sink.output df s w).state, (Sink.output df s w).events)

/-- The events of each of the steps, which are made one after the other. -/
def eventsOf : Sink → List Step → List (List Event)
  | _, [] => []
  | s, step :: rest => (step.run s).2 :: eventsOf (step.run s).1 rest

/-- The client calls of a step are whole connections. -/
theorem Step.connections (step : Step) (s : Sink) : Connections (clientCalls (step.run s).2) := by
  cases step with
  | setConfig config => exact .none
  | check w => exact check_closes s w
  | prepare w => exact prepare_closes s w
  | output df w => exact output_closes df s w

/-- After any number of steps of a run the client calls so far are whole connections: each one that
was opened was used and closed before the next one was opened, and none is left open. -/
theorem run_connections (s : Sink) (steps : List Step) (n : Nat) :
    Connections (clientCalls ((eventsOf s steps).take n).flatten) := by
  induction steps generalizing s n with
  | nil =>
    rw [eventsOf, List.take_nil]
    exact .none
  | cons step rest ih =>
    cases n with
    | zero => exact .none
    | succ n =>
      rw [eventsOf, List.take_succ_cons, List.flatten_cons, clientCalls_append]
      exact (step.connections s).append (ih (step.run s).1 n)

end Sink
end TableLoader
