/-
# A data frame, partition by partition

An output that has a plan is the loads of its partitions, one after the other: each
begins in the world that the one before leaves, with the answers to insertions
that are left there, and the first one that fails is the last (`loadsInTurn`). So
what the client sees of an output is what it sees of those loads, each over a
connection of its own, and the error of an output is the error of its last load
(`output_in_turn`). If no load fails, all rows of the data frame are delivered or
dropped with their batch, each partition reports its own number of rows, and the
time that all took is noted once; if one fails, it is not noted.

Key definitions: `loadsInTurn`, `PartitionRun.shown`, `reports`, `LoadsAll`, `StopsAt`.
Key theorems: `loadPartitions_run`, `output_loads`, `output_in_turn`.
-/
import Mathlib
import TableLoader.Proofs.Partition.Accounting
import TableLoader.Proofs.Partition.Events
import TableLoader.Proofs.Sink.History
import TableLoader.Proofs.Sink.Plan

namespace TableLoader

/-- The number of rows of a data frame. -/
def DataFrame.rowCount (df : DataFrame) : Nat := (df.partitions.map List.length).sum

/-! ### Reports -/

/-- The stats that partitions report. -/
def reports (events : List Event) : List PartitionStats :=
  events.filterMap fun
    | .partition stats => some stats
    | _ => none

@[simp] theorem reports_append (es fs : List Event) :
    reports (es ++ fs) = reports es ++ reports fs := List.filterMap_append

/-- The load of a partition shows no report. -/
theorem reports_of_load {es : List Event} (h : ∀ e ∈ es, e.IsOfLoad) : reports es = [] := by
  refine List.filterMap_eq_nil_iff.mpr fun e he => ?_
  cases h e he with
  | record => rfl
  | call hcall =>
    cases e with
    | partition => cases hcall
    | _ => rfl

/-- A line of the timing log is no report. -/
theorem reports_append_events {σ : Type} (line : String) (s : σ) (w : World) :
    reports (TimingLog.append line s w).events = [] := by
  obtain ⟨x, w', notes, hrun, hnotes, -⟩ := TimingLog.append_run (σ := σ) line w
  rw [hrun s]
  refine List.filterMap_eq_nil_iff.mpr fun e he => ?_
  rcases List.mem_cons.mp he with rfl | he
  · rfl
  · obtain ⟨text, rfl⟩ := hnotes e he
    rfl

/-! ### Partitions in turn -/

/-- The stats of a load that ended well. -/
def PartitionRun.stats? {σ : Type} (r : PartitionRun σ) : Option PartitionStats :=
  r.ran.result.toOption

/-- What an output shows of the load of a partition: the events, and the stats if it ended well. -/
def PartitionRun.shown {σ : Type} (r : PartitionRun σ) : List Event :=
  r.ran.events ++ (r.stats?.map .partition).toList

namespace PartitionPlan

variable {σ : Type} (plan : PartitionPlan)

/-- The loads of partitions one after the other, each in the world that the one before leaves, up
to the first that fails. -/
def loadsInTurn (s : σ) : List (List Row) → World → List (PartitionRun σ)
  | [], _ => []
  | rows :: rest, w =>
    let ran := plan.loadPartition rows s w
    ⟨rows, w, ran⟩ :: match ran.result with
      | .ok _ => loadsInTurn s rest ran.world
      | .error _ => []

/-- The loads went through all partitions. -/
structure Finished (partitions : List (List Row)) (runs : List (PartitionRun σ)) : Prop where
  partitions : runs.map (·.rows) = partitions
  ended : ∀ r ∈ runs, ∃ stats, r.ran.result = .ok stats

/-- The loads ended with the one of some partition, which failed. -/
structure Failed (partitions : List (List Row)) (runs done : List (PartitionRun σ))
    (last : PartitionRun σ) (rest : List (List Row)) (e : Error) : Prop where
  runs : runs = done ++ [last]
  partitions : partitions = done.map (·.rows) ++ last.rows :: rest
  ended : ∀ r ∈ done, ∃ stats, r.ran.result = .ok stats
  failed : last.ran.result = .error e

variable {plan}

/-- A load that ends well is followed by the loads of the other partitions. -/
theorem loadsInTurn_ok {s s' : σ} {rows : List Row} {w w' : World} {stats : PartitionStats}
    {es : List Event} (h : plan.loadPartition rows s w = ⟨.ok stats, s', w', es⟩)
    (rest : List (List Row)) : plan.loadsInTurn s (rows :: rest) w =
      ⟨rows, w, ⟨.ok stats, s', w', es⟩⟩ :: plan.loadsInTurn s rest w' := by
  rw [← h]
  show _ :: (match (plan.loadPartition rows s w).result with
    | .ok _ => plan.loadsInTurn s rest (plan.loadPartition rows s w).world
    | .error _ => []) = _
  rw [h]

/-- A load that fails is the last one. -/
theorem loadsInTurn_error {s s' : σ} {rows : List Row} {w w' : World} {e : Error}
    {es : List Event} (h : plan.loadPartition rows s w = ⟨.error e, s', w', es⟩)
    (rest : List (List Row)) : plan.loadsInTurn s (rows :: rest) w =
      [⟨rows, w, ⟨.error e, s', w', es⟩⟩] := by
  rw [← h]
  show _ :: (match (plan.loadPartition rows s w).result with
    | .ok _ => plan.loadsInTurn s rest (plan.loadPartition rows s w).world
    | .error _ => []) = _
  rw [h]

/-- The loads are loads of the plan. -/
theorem ran_of_mem_loadsInTurn {s : σ} : ∀ {partitions : List (List Row)} {w : World},
    ∀ r ∈ plan.loadsInTurn s partitions w, r.ran = plan.loadPartition r.rows s r.before
  | [], _, r, hr => by cases hr
  | rows :: rest, w, r, hr => by
    rcases List.mem_cons.mp hr with rfl | hr
    · rfl
    · cases hresult : (plan.loadPartition rows s w).result with
      | error e =>
        rw [hresult] at hr
        cases hr
      | ok stats =>
        rw [hresult] at hr
        exact ran_of_mem_loadsInTurn r hr

/-- The loads are loads of the partitions, and begin in worlds in which earlier insertions have met
their answers. -/
theorem before_of_mem_loadsInTurn {s : σ} : ∀ {partitions : List (List Row)} {w : World},
    ∀ r ∈ plan.loadsInTurn s partitions w,
      r.rows ∈ partitions ∧ ∃ n, r.before = w.afterInserts n
  | [], _, r, hr => by cases hr
  | rows :: rest, w, r, hr => by
    rcases List.mem_cons.mp hr with rfl | hr
    · exact ⟨List.mem_cons_self, 0, rfl⟩
    · cases hresult : (plan.loadPartition rows s w).result with
      | error e =>
        rw [hresult] at hr
        cases hr
      | ok stats =>
        rw [hresult] at hr
        obtain ⟨m, hworld⟩ := plan.loadPartition_world rows s w
        obtain ⟨hmem, n, hbefore⟩ := before_of_mem_loadsInTurn r hr
        refine ⟨List.mem_cons_of_mem rows hmem, m + n, ?_⟩
        rw [hbefore, hworld, World.afterInserts_add]

end PartitionPlan

namespace Sink

open PartitionPlan

variable {σ : Type} {plan : PartitionPlan}

/-- To load partitions is to load them in turn: all of them, or up to one that fails, with its
error. -/
theorem loadPartitions_run (plan : PartitionPlan) (s : σ) : ∀ (partitions : List (List Row))
    (w : World),
    (Finished partitions (plan.loadsInTurn s partitions w) ∧
      ∃ w', loadPartitions plan partitions s w =
        ⟨.ok (), s, w', (plan.loadsInTurn s partitions w).flatMap PartitionRun.shown⟩) ∨
    ∃ done last rest e, Failed partitions (plan.loadsInTurn s partitions w) done last rest e ∧
      loadPartitions plan partitions s w = ⟨.error e, s, last.ran.world,
        (plan.loadsInTurn s partitions w).flatMap PartitionRun.shown⟩
  | [], w => .inl ⟨⟨rfl, fun r hr => by cases hr⟩, w, rfl⟩
  | rows :: rest, w => by
    have hstate : (plan.loadPartition rows s w).state = s :=
      (plan.loadPartition_stateless rows).state_eq s w
    generalize hran : plan.loadPartition rows s w = ran at hstate
    obtain ⟨result, s', w', es⟩ := ran
    obtain rfl : s' = s := hstate
    rw [loadPartitions]
    cases result with
    | error e =>
      have hshown : (PartitionRun.mk rows w ⟨.error e, s', w', es⟩).shown = es :=
        List.append_nil es
      rw [Act.bind_error hran, loadsInTurn_error hran]
      refine .inr ⟨[], _, rest, e, ⟨rfl, rfl, (fun r hr => by cases hr), rfl⟩, ?_⟩
      rw [List.flatMap_singleton, hshown]
    | ok stats =>
      have hshown : (PartitionRun.mk rows w ⟨.ok stats, s', w', es⟩).shown =
          es ++ [.partition stats] := rfl
      rw [Act.bind_ok hran, Act.emit_bind, loadsInTurn_ok hran, Ran.after_after]
      rcases loadPartitions_run plan s' rest w' with
        ⟨hfinished, w'', hrest⟩ | ⟨done, last, rest', e, hfailed, hrest⟩
      · refine .inl ⟨⟨by rw [List.map_cons, hfinished.partitions], ?_⟩, w'', ?_⟩
        · intro r hr
          rcases List.mem_cons.mp hr with rfl | hr
          · exact ⟨stats, rfl⟩
          · exact hfinished.ended r hr
        · rw [hrest, Ran.after_mk, List.flatMap_cons, hshown]
      · refine .inr ⟨⟨rows, w, ⟨.ok stats, s', w', es⟩⟩ :: done, last, rest', e, ?_, ?_⟩
        · refine ⟨by rw [hfailed.runs, List.cons_append], ?_, ?_, hfailed.failed⟩
          · rw [hfailed.partitions]
            rfl
          · intro r hr
            rcases List.mem_cons.mp hr with rfl | hr
            · exact ⟨stats, rfl⟩
            · exact hfailed.ended r hr
        · rw [hrest, Ran.after_mk, List.flatMap_cons, hshown]

/-- The load of a partition shows its calls of the client, its stats if it ended well, and no line
of the timing log. -/
theorem shown_of_load {r : PartitionRun σ} (h : ∀ e ∈ r.ran.events, e.IsOfLoad) :
    clientCalls r.shown = clientCalls r.ran.events ∧ reports r.shown = r.stats?.toList ∧
      timingLines r.shown = [] := by
  unfold PartitionRun.shown
  rw [clientCalls_append, reports_append, timingLines_append, reports_of_load h,
    timingLines_of_load h]
  cases r.stats? with
  | none => exact ⟨List.append_nil _, rfl, rfl⟩
  | some stats => exact ⟨List.append_nil _, rfl, rfl⟩

/-- Loads in turn show what each of them shows. -/
theorem shown_of_loadsInTurn {s : σ} : ∀ {runs : List (PartitionRun σ)},
    (∀ r ∈ runs, r.ran = plan.loadPartition r.rows s r.before) →
    clientCalls (runs.flatMap PartitionRun.shown) = runs.flatMap (clientCalls ·.ran.events) ∧
      reports (runs.flatMap PartitionRun.shown) = runs.filterMap PartitionRun.stats? ∧
      timingLines (runs.flatMap PartitionRun.shown) = []
  | [], _ => ⟨rfl, rfl, rfl⟩
  | r :: runs, h => by
    obtain ⟨hcalls, hreports, htiming⟩ :=
      shown_of_loadsInTurn fun r' hr' => h r' (List.mem_cons_of_mem r hr')
    have hload : ∀ e ∈ r.ran.events, e.IsOfLoad := by
      rw [h r List.mem_cons_self]
      exact plan.loadPartition_emits r.rows s r.before
    obtain ⟨hcalls₁, hreports₁, htiming₁⟩ := shown_of_load hload
    rw [List.flatMap_cons, List.flatMap_cons, clientCalls_append, reports_append,
      timingLines_append, hcalls, hreports, htiming, hcalls₁, hreports₁, htiming₁]
    refine ⟨rfl, ?_, rfl⟩
    cases hstats : r.stats? with
    | none => rw [List.filterMap_cons_none hstats, Option.toList_none, List.nil_append]
    | some stats => rw [List.filterMap_cons_some hstats, Option.toList_some, List.singleton_append]

/-- Of loads that went through all rows of their partitions, the delivered rows and the dropped
ones are all rows. -/
theorem accounted_of_completed {runs : List (PartitionRun σ)} {sents : List (List Shipment)}
    (h : List.Forall₂ (fun r sent => ∃ url, plan.Completed url r sent) runs sents) :
    (deliveredRows (runs.flatMap PartitionRun.shown)).length + (droppedRows sents.flatten).length =
      (runs.map (·.rows.length)).sum := by
  induction h with
  | nil => rfl
  | @cons r sent runs sents hr _ ih =>
    obtain ⟨url, hcompleted⟩ := hr
    have hshown : deliveredRows r.shown = deliveredRows r.ran.events := by
      unfold PartitionRun.shown
      rw [deliveredRows_append]
      cases r.stats? <;> exact List.append_nil _
    have hone := hcompleted.accounted
    rw [List.flatMap_cons, deliveredRows_append, List.flatten_cons, droppedRows_append,
      List.length_append, List.length_append, List.map_cons, List.sum_cons, hshown]
    omega

/-- Each load that went through all rows of its partition reports their number. -/
theorem reported_of_completed {runs : List (PartitionRun σ)} {sents : List (List Shipment)}
    (h : List.Forall₂ (fun r sent => ∃ url, plan.Completed url r sent) runs sents) :
    (runs.filterMap PartitionRun.stats?).map (·.rows) = runs.map (·.rows.length) := by
  induction h with
  | nil => rfl
  | @cons r sent runs sents hr _ ih =>
    obtain ⟨url, hcompleted⟩ := hr
    have hstats : r.stats? = some ⟨r.rows.length, sent.length, sent.countP Shipment.isDropped⟩ := by
      unfold PartitionRun.stats?
      rw [hcompleted.stats]
      rfl
    rw [List.filterMap_cons_some hstats, List.map_cons, List.map_cons, ih]

/-- Loads in turn that all end well have gone through all rows of their partitions. -/
theorem completed_of_loadsInTurn {s : σ} {runs : List (PartitionRun σ)}
    (hruns : ∀ r ∈ runs, r.ran = plan.loadPartition r.rows s r.before)
    (hended : ∀ r ∈ runs, ∃ stats, r.ran.result = .ok stats) :
    ∃ sents, List.Forall₂ (fun r sent => ∃ url, plan.Completed url r sent) runs sents := by
  induction runs with
  | nil => exact ⟨[], .nil⟩
  | cons r runs ih =>
    obtain ⟨sents, hsents⟩ := ih (fun r' hr' => hruns r' (List.mem_cons_of_mem r hr'))
      fun r' hr' => hended r' (List.mem_cons_of_mem r hr')
    obtain ⟨stats, hstats⟩ := hended r List.mem_cons_self
    have hran := hruns r List.mem_cons_self
    cases haddr : plan.connection.address with
    | error e =>
      rw [hran, loadPartition_unaddressed haddr] at hstats
      cases hstats
    | ok url =>
      obtain ⟨sent, hsent⟩ := exists_completed haddr hran hstats
      exact ⟨sent :: sents, .cons ⟨url, hsent⟩ hsents⟩

/-! ### The whole output -/

/-- A run that shows loads in turn, each over a connection of its own, and changes no state. -/
structure ShowsLoads (plan : PartitionPlan) (s : Sink) (runs : List (PartitionRun Sink))
    (out : Ran Sink Unit) : Prop where
  state : out.state = s
  calls : clientCalls out.events = runs.flatMap (clientCalls ·.ran.events)
  reported : reports out.events = runs.filterMap PartitionRun.stats?
  loads : ∀ r ∈ runs, r.ran = plan.loadPartition r.rows s r.before
  /-- only without an address there is none -/
  connections : ∀ r ∈ runs,
    (∃ url sent, plan.connection.address = .ok url ∧ plan.Loads url sent r.before r.ran) ∨
    ∃ e, plan.connection.address = .error e ∧ r.ran = ⟨.error e, s, r.before, []⟩

/-- A run in which all partitions of the data frame were loaded. -/
structure LoadsAll (plan : PartitionPlan) (table : String) (df : DataFrame) (w : World)
    (runs : List (PartitionRun Sink)) (out : Ran Sink Unit) : Prop where
  finished : Finished df.partitions runs
  /-- each partition reports its own number of rows -/
  rows : (reports out.events).map (·.rows) = df.partitions.map List.length
  total : ((reports out.events).map (·.rows)).sum = df.rowCount
  /-- each partition was loaded to its end, and no row is lost -/
  accounted : ∃ sents, List.Forall₂ (fun r sent => ∃ url, plan.Completed url r sent) runs sents ∧
    (deliveredRows out.events).length + (droppedRows sents.flatten).length = df.rowCount
  /-- the time is noted once, and the output fails only if it cannot be noted in the file -/
  timed : ∃ stop w', timingLines out.events = [timeLine table w.nextReading.1 stop] ∧
    out.result = (TimingLog.append (timeLine table w.nextReading.1 stop) out.state w').result

/-- A run that stops at a partition whose load fails, and shows nothing after that. -/
structure StopsAt (table : String) (df : DataFrame) (runs done : List (PartitionRun Sink))
    (last : PartitionRun Sink) (rest : List (List Row)) (e : Error) (out : Ran Sink Unit) :
    Prop where
  failed : Failed df.partitions runs done last rest e
  result : out.result = .error e
  events : out.events =
    out.state.inferenceNote table df.columns ++ runs.flatMap PartitionRun.shown
  untimed : timingLines out.events = []

/-- The record before the loads is no call, no report and no line of the timing log. -/
theorem inferenceNote_shows (s : Sink) (table : String) (columns : List String) :
    reports (s.inferenceNote table columns) = [] ∧
      timingLines (s.inferenceNote table columns) = [] := by
  have hname : logger ≠ TimingLog.logger := by decide
  unfold inferenceNote
  cases s.fields with
  | some fields => exact ⟨rfl, rfl⟩
  | none =>
    refine ⟨rfl, List.filterMap_eq_nil_iff.mpr fun e he => ?_⟩
    rw [List.mem_singleton.mp he]
    exact if_neg hname

section Output

variable {s : Sink} {table : String} {df : DataFrame} {runs : List (PartitionRun Sink)}
  {out : Ran Sink Unit} (hruns : ∀ r ∈ runs, r.ran = plan.loadPartition r.rows s r.before)

include hruns

/-- A run whose events are those of loads in turn, but for some that are neither calls of the
client nor reports, shows these loads. -/
theorem showsLoads_of_events {before after : List Event} (hstate : out.state = s)
    (hevents : out.events = before ++ (runs.flatMap PartitionRun.shown ++ after))
    (hcalls : clientCalls before = [] ∧ clientCalls after = [])
    (hreports : reports before = [] ∧ reports after = []) : ShowsLoads plan s runs out := by
  obtain ⟨hshown, hreported, -⟩ := shown_of_loadsInTurn hruns
  refine ⟨hstate, ?_, ?_, hruns, ?_⟩
  · rw [hevents, clientCalls_append, clientCalls_append, hcalls.1, hcalls.2, hshown,
      List.nil_append, List.append_nil]
  · rw [hevents, reports_append, reports_append, hreports.1, hreports.2, hreported,
      List.nil_append, List.append_nil]
  · intro r hr
    rw [hruns r hr]
    cases haddr : plan.connection.address with
    | error e => exact .inr ⟨e, rfl, loadPartition_unaddressed haddr r.rows s r.before⟩
    | ok url =>
      obtain ⟨sent, hloads⟩ := exists_loads haddr r.rows s r.before
      exact .inl ⟨url, sent, rfl, hloads⟩

/-- Loads in turn that went through all partitions have delivered or dropped all rows, and have
reported them. -/
theorem loadsAll_of_finished {w w' : World} {stop : Number.Binary64}
    (hfinished : Finished df.partitions runs) (hshows : ShowsLoads plan s runs out)
    (htimed : timingLines out.events = [timeLine table w.nextReading.1 stop])
    (hresult : out.result =
      (TimingLog.append (timeLine table w.nextReading.1 stop) out.state w').result) :
    LoadsAll plan table df w runs out := by
  obtain ⟨sents, hsents⟩ := completed_of_loadsInTurn hruns hfinished.ended
  have hlengths : runs.map (·.rows.length) = df.partitions.map List.length := by
    rw [← hfinished.partitions, List.map_map]
    rfl
  have hrows : (reports out.events).map (·.rows) = df.partitions.map List.length := by
    rw [hshows.reported, reported_of_completed hsents, hlengths]
  have hdelivered : deliveredRows out.events =
      deliveredRows (runs.flatMap PartitionRun.shown) := by
    rw [← deliveredRows_clientCalls, hshows.calls, ← (shown_of_loadsInTurn hruns).1,
      deliveredRows_clientCalls]
  refine ⟨hfinished, hrows, ?_, ⟨sents, hsents, ?_⟩, stop, w', htimed, hresult⟩
  · rw [hrows]
    rfl
  · rw [hdelivered, accounted_of_completed hsents, hlengths]
    rfl

end Output

section Planned

variable {s : Sink} {table : String} {settings : ConnectionSettings} {df : DataFrame}
  (htable : s.table = some table) (hsettings : s.connection = some settings)
  (hplan : s.planFor table settings df.columns = .ok plan) (w : World)

include htable hsettings hplan

/-- An output that has a plan loads the partitions in turn. Behind the loads comes the line of the
timing log if all of them ended well, and nothing if one failed. -/
theorem output_loads :
    let runs := plan.loadsInTurn s df.partitions w.nextReading.2
    ∃ after, (output df s w).events = s.inferenceNote table df.columns ++
        (runs.flatMap PartitionRun.shown ++ after) ∧
      clientCalls after = [] ∧ reports after = [] ∧
      ((Finished df.partitions runs ∧ ∃ stop w',
        timingLines after = [timeLine table w.nextReading.1 stop] ∧ (output df s w).result =
          (TimingLog.append (timeLine table w.nextReading.1 stop) s w').result) ∨
      ∃ done last rest e, Failed df.partitions runs done last rest e ∧
        (output df s w).result = .error e ∧ after = []) := by
  intro runs
  have hout : output df s w =
      (timedLoad plan table df.partitions s w).after (s.inferenceNote table df.columns) := by
    rw [output_run htable hsettings, hplan, Act.ofExcept_ok_bind]
  rw [hout, Ran.after_events, Ran.after_result]
  unfold timedLoad
  rw [Act.readClock_bind]
  rcases loadPartitions_run plan s df.partitions w.nextReading.2 with
    ⟨hfinished, w', hrun⟩ | ⟨done, last, rest, e, hfailed, hrun⟩
  · rw [Act.bind_ok hrun, Act.readClock_bind]
    exact ⟨_, rfl, (TimingLog.append_silent _).calls s _, reports_append_events _ s _,
      .inl ⟨hfinished, _, _, TimingLog.timingLines_append_events _ s _, rfl⟩⟩
  · rw [Act.bind_error hrun]
    refine ⟨[], ?_, rfl, rfl, .inr ⟨done, last, rest, e, hfailed, rfl, rfl⟩⟩
    rw [List.append_nil]

/-- What an output shows are the loads of the partitions in turn. -/
theorem output_showsLoads :
    ShowsLoads plan s (plan.loadsInTurn s df.partitions w.nextReading.2) (output df s w) := by
  obtain ⟨after, hevents, hcalls, hreports, -⟩ := output_loads htable hsettings hplan w
  exact showsLoads_of_events ran_of_mem_loadsInTurn (output_state df s w) hevents
    ⟨clientCalls_inferenceNote s table df.columns, hcalls⟩
    ⟨(inferenceNote_shows s table df.columns).1, hreports⟩

end Planned

/-- A sink with a table and connection settings that knows the types of the fields loads the
partitions of a data frame in turn. Either all of them are loaded, and the time is noted once, or
one of them fails, and its error ends the output without a note. -/
theorem output_in_turn {s : Sink} {table : String} {settings : ConnectionSettings}
    (htable : s.table = some table) (hsettings : s.connection = some settings) {df : DataFrame}
    {types : List ColumnType}
    (htypes : typesOf s.schema table (s.insertFor table df.columns).fields = .ok types)
    (w : World) :
    ∃ plan : PartitionPlan, s.planFor table settings df.columns = .ok plan ∧
      (plan.connection = settings ∧ plan.insert = s.insertFor table df.columns ∧
        plan.types = types ∧ plan.inputFields = df.columns ∧ plan.bulkSize = s.bulkSize ∧
        plan.policy = s.policy) ∧
      let runs := plan.loadsInTurn s df.partitions w.nextReading.2
      ShowsLoads plan s runs (output df s w) ∧
        (LoadsAll plan table df w runs (output df s w) ∨
          ∃ done last rest e, StopsAt table df runs done last rest e (output df s w)) := by
  obtain ⟨plan, hplan, hfields⟩ := planFor_of_typesOf settings htypes
  refine ⟨plan, hplan, hfields, ?_⟩
  intro runs
  have hruns : ∀ r ∈ runs, r.ran = plan.loadPartition r.rows s r.before := ran_of_mem_loadsInTurn
  have hshows := output_showsLoads htable hsettings hplan w
  obtain ⟨after, hevents, -, -, hend⟩ := output_loads htable hsettings hplan w
  have htiming : timingLines (output df s w).events = timingLines after := by
    rw [hevents, timingLines_append, timingLines_append,
      (inferenceNote_shows s table df.columns).2, (shown_of_loadsInTurn hruns).2.2,
      List.nil_append, List.nil_append]
  refine ⟨hshows, ?_⟩
  rcases hend with ⟨hfinished, stop, w', hline, hresult⟩ |
    ⟨done, last, rest, e, hfailed, hresult, rfl⟩
  · exact .inl (loadsAll_of_finished hruns hfinished hshows (htiming.trans hline)
      (by rw [output_state]; exact hresult))
  · refine .inr ⟨done, last, rest, e, hfailed, hresult, ?_, htiming⟩
    rw [output_state, hevents, List.append_nil]

/-- A sink for one column of integers that has passed its check, with batches of two rows and one
retry. -/
def smallSink : Sink :=
  { ofConfig (smallOptions [("fields", .text "n")]) with
    table := some "t"
    schema := .ofList [("n", .plain .int64 "Int64")]
    fields := some ["n"]
    connection := some smallSettings
    policy := ⟨[7], 1⟩
    bulkSize := 2
    bulkSize_pos := Nat.two_pos }

/-- A data frame of four rows in three partitions, of which the second one is empty. -/
def smallFrame : DataFrame where
  columns := ["n"]
  partitions := [[[("n", .int 1)], [("n", .int 2)], [("n", .int 3)]], [], [[("n", .int 4)]]]

/-- The second attempt and the fifth are a success, the others a failure. -/
def smallAnswers : World :=
  answering [some (reported 7), none, some (reported 7), some (reported 7), none]

/-- The first batch of the first partition is delivered at its second attempt and the second one
is dropped; the other partitions are loaded with the answers that are left. -/
theorem smallSink_in_turn : ∃ plan : PartitionPlan,
    LoadsAll plan "t" smallFrame smallAnswers
      (plan.loadsInTurn smallSink smallFrame.partitions smallAnswers.nextReading.2)
      (output smallFrame smallSink smallAnswers) := by
  have hok : (output smallFrame smallSink smallAnswers).result.isOk = true := by decide +kernel
  obtain ⟨plan, -, -, -, hall | ⟨done, last, rest, e, hstops⟩⟩ :=
    @output_in_turn smallSink "t" smallSettings rfl rfl smallFrame _ rfl smallAnswers
  · exact ⟨plan, hall⟩
  · have hfailed := congrArg Except.isOk hstops.result
    exact Bool.noConfusion (hok.symm.trans hfailed)

end Sink
end TableLoader
