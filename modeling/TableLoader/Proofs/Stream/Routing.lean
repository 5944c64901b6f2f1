/-
# Which sink gets a micro-batch

A streaming load starts a query for each sink, and the engine gives micro-batches to the
queries in any order (`serve`). A query gives a micro-batch to its own sink, once, and
notes in one line how long that took; a micro-batch without rows may be noted only; and if
the sink fails the query fails with its error and notes nothing (`Routed`).

What one invocation passes on to later ones are the files. A sink that fails leaves them as
they were, but for directories of the timing log if it is at its own line there that it
fails (`output_leaves`). Others would make these directories anyway. So an invocation whose
sink fails makes no difference to the others but for durations (`serve_eraseIdx`), if no
`.` stands behind a `..` in the path of the log (`Retraced`).

Key definitions: `Arrival`, `serve`, `EndsWithLine`, `Routed`, `Arrival.Raises`.
Key theorems: `Query.run_routed`, `serve_sameButTimes`, `serve_eraseIdx`, `start_routes`.
-/
import TableLoader.Proofs.Sink.Events
import TableLoader.Proofs.Sink.OutputFiles
import TableLoader.Proofs.Stream.SameButTimes

namespace TableLoader

variable {σ : Type}

/-! ### Lines of queries -/

/-- The lines in which queries note how long micro-batches took. -/
def batchLines (events : List Event) : List String :=
  (timingLines events).filter fun line => Text.startsWith "[spark batch] " line

@[simp] theorem batchLines_append (es fs : List Event) :
    batchLines (es ++ fs) = batchLines es ++ batchLines fs := by
  unfold batchLines
  rw [timingLines_append, List.filter_append]

theorem batchLines_of_timingLines {es : List Event} (h : timingLines es = []) :
    batchLines es = [] := by
  unfold batchLines
  rw [h]
  rfl

/-- The line for a micro-batch of a sink. -/
def batchLine (t : Target) (b : MicroBatch) (remark : String) (start stop : Number.Binary64) :
    String :=
  timedLine ("[spark batch] sink=" ++ t.name ++ " batch_id=" ++ toString b.id ++ remark) start stop

theorem batchLines_line (t : Target) (b : MicroBatch) (remark : String)
    (start stop : Number.Binary64) :
    batchLines [.log .info TimingLog.logger (batchLine t b remark start stop)] =
      [batchLine t b remark start stop] := by
  have hstart : Text.startsWith "[spark batch] " (batchLine t b remark start stop) = true := by
    unfold Text.startsWith batchLine timedLine
    simp only [String.toList_append, List.append_assoc]
    rfl
  exact List.filter_cons_of_pos hstart

/-- There are no lines of queries among events none of which is one. -/
theorem batchLines_eq_nil {es : List Event} (h : ∀ e ∈ es, batchLines [e] = []) :
    batchLines es = [] := by
  induction es with
  | nil => rfl
  | cons e es ih =>
    rw [← List.singleton_append, batchLines_append, h e List.mem_cons_self,
      ih fun e' he' => h e' (List.mem_cons_of_mem e he')]
    rfl

/-- An output shows no line of a query. -/
theorem batchLines_of_isOfOutput {e : Event} (h : e.IsOfOutput) : batchLines [e] = [] := by
  cases h with
  | load hload =>
    exact batchLines_of_timingLines
      (timingLines_of_load fun e' he' => List.mem_singleton.mp he' ▸ hload)
  | report => rfl
  | record level text =>
    exact batchLines_of_timingLines (timingLines_record (by decide) level text)
  | time table start stop =>
    have hstart : Text.startsWith "[spark batch] " (Sink.timeLine table start stop) = false := by
      unfold Text.startsWith Sink.timeLine
      simp only [String.toList_append, List.append_assoc]
      rfl
    exact List.filter_cons_of_neg (Bool.eq_false_iff.mp hstart)
  | warning hwarning =>
    exact batchLines_of_timingLines
      (shows_of_warnings fun e' he' => List.mem_singleton.mp he' ▸ hwarning).1

/-! ### One micro-batch -/

/-- The question whether a micro-batch has rows, which a query that skips none does not ask. -/
def asked (skip : Bool) (b : MicroBatch) : List Event := if skip then [.isEmpty b.label] else []

/-- Behind some events the run ends with a line of the timing log, and warnings at most. No other
line is one of a query, and only the timing log may make the run fail. -/
structure EndsWithLine (ran : Ran σ Unit) (before : List Event) (line : String) : Prop where
  events : ∃ notes, (∀ e ∈ notes, e.IsTimingWarning) ∧
    ran.events = before ++ .log .info TimingLog.logger line :: notes
  only : batchLines ran.events = [line]
  fault : ∀ e, ran.result = .error e → ∃ f, e = .fault f

/-- What an invocation does that belongs to a target: a micro-batch without rows is skipped, if
those are; any other one is given to the target, and the invocation ends with a line, or with the
error of the target and without one. In the last case the files are as they were, unless the target
has put a line of its own into the timing log, and then directories have been made at most. -/
inductive Routed (t : Target) (skip : Bool) (b : MicroBatch) (s : σ) (w : World)
    (ran : Ran σ Unit) : Prop where
  | skipped (start stop : Number.Binary64) : skip = true → b.isEmpty = true →
      EndsWithLine ran [.isEmpty b.label] (batchLine t b " empty=true" start stop) →
      Routed t skip b s w ran
  | returned (start stop : Number.Binary64) : (skip && b.isEmpty) = false →
      (t.output b s w.nextReading.2).result = .ok () →
      EndsWithLine ran (asked skip b ++ (t.output b s w.nextReading.2).events)
        (batchLine t b "" start stop) →
      Routed t skip b s w ran
  | raised (e : Error) : (skip && b.isEmpty) = false →
      (t.output b s w.nextReading.2).result = .error e → ran.result = .error e →
      ran.events = asked skip b ++ (t.output b s w.nextReading.2).events →
      batchLines ran.events = [] →
      (timingLines ran.events = [] → ran.world.files = w.files) →
      TimingLog.Leaves w.logPath w.files ran.world.files →
      Routed t skip b s w ran

theorem endsWithLine_of_events {ran : Ran σ Unit} {t : Target} {b : MicroBatch} {remark : String}
    {start stop : Number.Binary64} {before notes : List Event}
    (hevents : ran.events =
      before ++ .log .info TimingLog.logger (batchLine t b remark start stop) :: notes)
    (hbefore : batchLines before = []) (hnotes : ∀ e ∈ notes, e.IsTimingWarning)
    (hfault : ∀ e, ran.result = .error e → ∃ f, e = .fault f) :
    EndsWithLine ran before (batchLine t b remark start stop) where
  events := ⟨notes, hnotes, hevents⟩
  only := by
    rw [hevents, ← List.singleton_append, batchLines_append, batchLines_append, hbefore,
      batchLines_line, batchLines_of_timingLines (shows_of_warnings hnotes).1]
    rfl
  fault := hfault

namespace Target

/-- A target shows what an output shows, or that another sink has been given the micro-batch. -/
theorem output_emits (b : MicroBatch) (t : Target) : Act.Emits
    (fun e => e.IsOfOutput ∨ ∃ name, e = .output name b.label) (t.output b : Act σ Unit) := by
  cases t with
  | table sink =>
    exact (((Sink.output_emits b.frame).mono fun _ => .inl).within sink).bind fun _ =>
      Act.emits_pure ()
  | other name failure =>
    refine (Act.emits_emit (.inr ⟨name, rfl⟩)).bind fun _ => ?_
    cases failure with
    | none => exact Act.emits_pure ()
    | some e => exact Act.emits_fail e

/-- A target shows no line of a query. -/
theorem batchLines_output (b : MicroBatch) (t : Target) (s : σ) (w : World) :
    batchLines (t.output b s w).events = [] := by
  refine batchLines_eq_nil fun e he => ?_
  rcases output_emits b t s w e he with houtput | ⟨name, rfl⟩
  · exact batchLines_of_isOfOutput houtput
  · rfl

/-- The output of a table sink is its run; nothing of the sink is kept. -/
theorem table_output (sink : Sink) (b : MicroBatch) (s : σ) (w : World) :
    (table sink).output b s w =
      ⟨(Sink.output b.frame sink w).result, s, (Sink.output b.frame sink w).world,
        (Sink.output b.frame sink w).events⟩ := by
  show (Act.within sink (Sink.output b.frame) >>= fun _ => pure ()) s w = _
  rcases hrun : Sink.output b.frame sink w with ⟨x, sink', w', es⟩
  cases x with
  | error e => exact Act.bind_error (Act.within_error s hrun)
  | ok =>
    rw [Act.bind_ok (Act.within_ok s hrun), Act.pure_apply, Ran.after_mk, List.append_nil]

/-- A target without a line in the timing log leaves the files as they are. -/
theorem output_files {b : MicroBatch} {t : Target} {s : σ} {w : World}
    (hlines : timingLines (t.output b s w).events = []) :
    (t.output b s w).world.files = w.files := by
  cases t with
  | table sink =>
    rw [table_output] at hlines ⊢
    exact Sink.output_files hlines
  | other name failure => cases failure <;> rfl

/-- A target that fails leaves the files as they are, but for directories of the timing log. -/
theorem output_leaves {b : MicroBatch} {t : Target} {s : σ} {w : World} {e : Error}
    (herror : (t.output b s w).result = .error e) :
    TimingLog.Leaves w.logPath w.files (t.output b s w).world.files := by
  cases t with
  | table sink =>
    rw [table_output] at herror ⊢
    cases hresult : (Sink.output b.frame sink w).result with
    | ok => simp [hresult] at herror
    | error e => exact Sink.output_leaves hresult
  | other name failure => cases failure <;> exact .kept

end Target

namespace Query

variable (q : Query) {b : MicroBatch}

theorem skips_run (b : MicroBatch) (s : σ) (w : World) :
    q.skips b s w = ⟨.ok (q.skipEmpty && b.isEmpty), s, w, asked q.skipEmpty b⟩ := by
  unfold skips asked
  cases q.skipEmpty <;> rfl

/-- The duration of a micro-batch whose number can be written is one line. -/
theorem logDuration_run (hid : Number.isWritable b.id = true) (remark : String)
    (start : Number.Binary64) (s : σ) (w : World) : q.logDuration b remark start s w =
      TimingLog.append (batchLine q.target b remark start w.nextReading.1) s w.nextReading.2 := by
  have hwritten : (Cell.int b.id).toText = .ok (toString b.id) := by
    rw [Cell.toText, Cell.isWritable, if_pos hid]
    rfl
  rw [logDuration, Act.readClock_bind, hwritten, Act.ofExcept_ok_bind]
  rfl

/-- A query that skips a micro-batch without rows notes how long that took. -/
theorem run_of_skipped (hskip : (q.skipEmpty && b.isEmpty) = true)
    (hid : Number.isWritable b.id = true) (s : σ) (w : World) : q.run b s w = Ran.after
      [.isEmpty b.label] (TimingLog.append (batchLine q.target b " empty=true" w.nextReading.1
        w.nextReading.2.nextReading.1) s w.nextReading.2.nextReading.2) := by
  have hflag := (Bool.and_eq_true_iff.mp hskip).1
  rw [run, Act.readClock_bind, Act.bind_ok (q.skips_run b s _), hskip, if_pos rfl,
    q.logDuration_run hid, asked, if_pos hflag]

/-- If its line cannot be written, the run ends with the warning that says why. -/
theorem run_of_noted (hskip : (q.skipEmpty && b.isEmpty) = true)
    (hid : Number.isWritable b.id = true) {w : World} {p : String} (hpath : w.logPath = some p)
    {files : FileTree} {f : TimingLog.Failure}
    (hwrite : ∀ line, TimingLog.write w.files w.epoch p.toList line = (files, some f))
    (hf : f.error? = none) (s : σ) : ∃ line, (q.run b s w).events = [.isEmpty b.label,
      .log .info TimingLog.logger line,
      .log .warning TimingLog.logger ("batch log write failed: " ++ f.message)] := by
  have hpath' : w.nextReading.2.nextReading.2.logPath = some p := by simpa using hpath
  have hwrite' : ∀ line, TimingLog.write w.nextReading.2.nextReading.2.files
      w.nextReading.2.nextReading.2.epoch p.toList line = (files, some f) := by simpa using hwrite
  rw [q.run_of_skipped hskip hid, Ran.after_events]
  exact ⟨_, congrArg _ (TimingLog.append_noted hpath' (hwrite' _) hf)⟩

/-- A query whose target fails ends there. -/
theorem run_of_raised {s : σ} {w : World} {e : Error} (hcalled : (q.skipEmpty && b.isEmpty) = false)
    (herror : (q.target.output b s w.nextReading.2).result = .error e) :
    q.run b s w = ⟨.error e, (q.target.output b s w.nextReading.2).state,
      (q.target.output b s w.nextReading.2).world,
      asked q.skipEmpty b ++ (q.target.output b s w.nextReading.2).events⟩ := by
  rw [run, Act.readClock_bind, Act.bind_ok (q.skips_run b s _), hcalled, if_neg Bool.false_ne_true,
    Act.bind_of_error herror]
  rfl

/-- A query whose target fails without a line in the timing log leaves the files as they are. -/
theorem files_of_raised {s : σ} {w : World} {e : Error}
    (hcalled : (q.skipEmpty && b.isEmpty) = false)
    (herror : (q.target.output b s w.nextReading.2).result = .error e)
    (hlines : timingLines (q.run b s w).events = []) : (q.run b s w).world.files = w.files := by
  rw [q.run_of_raised hcalled herror] at hlines ⊢
  rw [timingLines_append, List.append_eq_nil_iff] at hlines
  exact (Target.output_files hlines.2).trans (World.nextReading_files w)

/-- A query whose target fails leaves the files as they are, but for directories of the timing
log. -/
theorem leaves_of_raised {s : σ} {w : World} {e : Error}
    (hcalled : (q.skipEmpty && b.isEmpty) = false)
    (herror : (q.target.output b s w.nextReading.2).result = .error e) :
    TimingLog.Leaves w.logPath w.files (q.run b s w).world.files := by
  rw [q.run_of_raised hcalled herror, ← World.nextReading_files w, ← World.nextReading_logPath w]
  exact Target.output_leaves herror

/-- A query whose micro-batch has a number that cannot be written has given it to its target, and
then it fails without a line. -/
theorem run_of_unwritable {s : σ} {w : World} (hid : Number.isWritable b.id = false)
    (hcalled : (q.skipEmpty && b.isEmpty) = false)
    (hreturned : (q.target.output b s w.nextReading.2).result = .ok ()) :
    (q.run b s w).result = .error (.fault .badValue) ∧ (q.run b s w).events =
      asked q.skipEmpty b ++ (q.target.output b s w.nextReading.2).events := by
  have hnumber : (Cell.int b.id).toText = .error (.fault .badValue) := by
    rw [Cell.toText, Cell.isWritable, hid]
    rfl
  rw [run, Act.readClock_bind, Act.bind_ok (q.skips_run b s _), hcalled, if_neg Bool.false_ne_true,
    Act.bind_of_ok hreturned, logDuration, Act.readClock_bind, hnumber, Act.ofExcept_error_bind,
    Ran.after_events, List.append_nil]
  exact ⟨rfl, rfl⟩

/-- A query gives a micro-batch to its own target. -/
theorem run_routed (hid : Number.isWritable b.id = true) (s : σ) (w : World) :
    Routed q.target q.skipEmpty b s w (q.run b s w) := by
  have hasked : ∀ es : List Event, batchLines es = [] →
      batchLines (asked q.skipEmpty b ++ es) = [] := by
    intro es hes
    rw [batchLines_append, hes]
    unfold asked
    cases q.skipEmpty <;> rfl
  cases hskip : (q.skipEmpty && b.isEmpty) with
  | true =>
    obtain ⟨hflag, hempty⟩ := Bool.and_eq_true_iff.mp hskip
    obtain ⟨x, w', notes, hrun, hnotes, hfault⟩ := TimingLog.append_run (σ := σ)
      (batchLine q.target b " empty=true" w.nextReading.1 w.nextReading.2.nextReading.1)
      w.nextReading.2.nextReading.2
    refine .skipped w.nextReading.1 w.nextReading.2.nextReading.1 hflag hempty ?_
    rw [q.run_of_skipped hskip hid, hrun s]
    exact endsWithLine_of_events rfl rfl hnotes hfault
  | false =>
    cases houtput : (q.target.output b s w.nextReading.2).result with
    | error e =>
      have hrun := q.run_of_raised hskip houtput
      refine .raised e hskip houtput (by rw [hrun]) (by rw [hrun]) ?_
        (q.files_of_raised hskip houtput) (q.leaves_of_raised hskip houtput)
      rw [hrun]
      exact hasked _ (q.target.batchLines_output b s _)
    | ok =>
      obtain ⟨x, w', notes, hrun, hnotes, hfault⟩ := TimingLog.append_run (σ := σ)
        (batchLine q.target b "" w.nextReading.1
          (q.target.output b s w.nextReading.2).world.nextReading.1)
        (q.target.output b s w.nextReading.2).world.nextReading.2
      refine .returned w.nextReading.1
        (q.target.output b s w.nextReading.2).world.nextReading.1 hskip houtput ?_
      rw [run, Act.readClock_bind, Act.bind_ok (q.skips_run b s _), hskip,
        if_neg Bool.false_ne_true, Act.bind_of_ok houtput, q.logDuration_run hid, hrun]
      exact endsWithLine_of_events (List.append_assoc _ _ _).symm
        (hasked _ (q.target.batchLines_output b s _)) hnotes hfault

end Query

/-! ### Micro-batches in any order -/

/-- The target, which ends this call with that outcome if it is a sink of another kind. -/
def Target.answering (outcome : Option Error) : Target → Target
  | .table sink => .table sink
  | .other name _ => .other name outcome

/-- A micro-batch that the engine gives to a query, with what the sink meets then: the answers of
the database, the outcome if the sink is of another kind, and the time. -/
structure Arrival where
  query : Query
  batch : MicroBatch
  answers : List (Option Error)
  outcome : Option Error
  now : Calendar.DateTime
  epoch : Int

namespace Arrival

/-- The query, whose target ends this call with that outcome. -/
def queryNow (a : Arrival) : Query :=
  { a.query with target := a.query.target.answering a.outcome }

/-- The world as the invocation meets it. -/
def meets (a : Arrival) (w : World) : World :=
  { w with inserts := a.answers, now := a.now, epoch := a.epoch }

/-- The invocation. -/
def run (a : Arrival) (w : World) : Ran Unit Unit :=
  a.queryNow.run a.batch () (a.meets w)

end Arrival

/-- An invocation that has been made, with the world in which it was. -/
structure Served where
  arrival : Arrival
  before : World
  ran : Ran Unit Unit

/-- Invocations one after the other, whether they fail or not. -/
def serve : List Arrival → World → List Served
  | [], _ => []
  | a :: rest, w => ⟨a, a.meets w, a.run w⟩ :: serve rest (a.run w).world

/-- The world after invocations. -/
def worldAfter (schedule : List Arrival) (w : World) : World :=
  schedule.foldl (fun w a => (a.run w).world) w

theorem serve_append (earlier later : List Arrival) (w : World) :
    serve (earlier ++ later) w = serve earlier w ++ serve later (worldAfter earlier w) := by
  induction earlier generalizing w with
  | nil => rfl
  | cons a rest ih =>
    show _ :: serve (rest ++ later) _ = _
    rw [ih]
    rfl

theorem length_serve (schedule : List Arrival) (w : World) :
    (serve schedule w).length = schedule.length := by
  induction schedule generalizing w with
  | nil => rfl
  | cons a rest ih =>
    show (serve rest _).length + 1 = _
    rw [ih]
    rfl

/-- Each invocation is the run of a query, in a world that the earlier ones have left. -/
theorem mem_serve {schedule : List Arrival} {w : World} {v : Served} (h : v ∈ serve schedule w) :
    v.arrival ∈ schedule ∧ ∃ w', v.before = v.arrival.meets w' ∧ v.ran = v.arrival.run w' := by
  induction schedule generalizing w with
  | nil => cases h
  | cons a rest ih =>
    rcases List.mem_cons.mp h with rfl | h
    · exact ⟨List.mem_cons_self, w, rfl, rfl⟩
    · obtain ⟨hmem, hran⟩ := ih h
      exact ⟨List.mem_cons_of_mem a hmem, hran⟩

/-! ### Invocations that make no difference -/

namespace Arrival

/-- In this world the invocation calls its target, and that fails. -/
def Raises (a : Arrival) (w : World) : Prop :=
  (a.queryNow.skipEmpty && a.batch.isEmpty) = false ∧
    ∃ e, (a.queryNow.target.output a.batch () (a.meets w).nextReading.2).result = .error e

theorem Raises.leaves {a : Arrival} {w : World} (h : a.Raises w) :
    TimingLog.Leaves w.logPath w.files (a.run w).world.files := by
  obtain ⟨hcalled, e, herror⟩ := h
  exact Query.leaves_of_raised (w := a.meets w) a.queryNow hcalled herror

/-- The output of a table sink that fails is all that its invocation does. -/
theorem raises_of_table {a : Arrival} {sink : Sink} (htarget : a.query.target = .table sink)
    (hcalled : (a.queryNow.skipEmpty && a.batch.isEmpty) = false) {w : World} {e : Error}
    (herror : (Sink.output a.batch.frame sink (a.meets w).nextReading.2).result = .error e) :
    a.Raises w ∧ (a.run w).world =
      (Sink.output a.batch.frame sink (a.meets w).nextReading.2).world := by
  have hnow : a.queryNow.target = .table sink := by
    unfold queryNow
    rw [htarget]
    rfl
  have houtput : (a.queryNow.target.output a.batch () (a.meets w).nextReading.2).result =
      .error e := by
    rw [hnow, Target.table_output, ← herror]
  refine ⟨⟨hcalled, e, houtput⟩, ?_⟩
  rw [run, Query.run_of_raised _ hcalled houtput, hnow, Target.table_output]

end Arrival

section Alike

variable {path : Option String} {L : TimingLog.Likeness path} {w w' : World}

/-- The same invocation, with runs that differ in durations only and leave files that are alike. -/
def Served.SameButTimes (L : TimingLog.Likeness path) (v v' : Served) : Prop :=
  v.arrival = v'.arrival ∧ Ran.SameButTimes L Eq v.ran v'.ran

theorem Arrival.run_sameButTimes (a : Arrival) (h : World.SameLog L w w') :
    Ran.SameButTimes L Eq (a.run w) (a.run w') :=
  Query.run_sameButTimes _ a.batch path L () _ _
    ⟨⟨h.path_left, h.path_right, h.files⟩, rfl, rfl, rfl⟩

/-- Invocations run alike in worlds that differ in what the timing log says of durations only, and
in a likeness of files. -/
theorem serve_sameButTimes (schedule : List Arrival) (h : World.SameLog L w w') :
    List.Forall₂ (Served.SameButTimes L) (serve schedule w) (serve schedule w') := by
  induction schedule generalizing w w' with
  | nil => exact .nil
  | cons a rest ih =>
    have hrun := a.run_sameButTimes h
    exact .cons ⟨rfl, hrun⟩ (ih hrun.world.toSameLog)

end Alike

/-- The timing log keeps its path. -/
theorem logPath_worldAfter (schedule : List Arrival) (w : World) :
    (worldAfter schedule w).logPath = w.logPath := by
  induction schedule generalizing w with
  | nil => rfl
  | cons a rest ih =>
    have hrun := a.run_sameButTimes (World.SameLog.refl (.inTexts w.logPath) rfl)
    exact (ih _).trans hrun.world.path_left

/-- An invocation makes no difference to the others but for durations, if the files that it leaves
are like those that it met. -/
theorem serve_eraseIdx (earlier later : List Arrival) (a : Arrival) {w : World}
    (L : TimingLog.Likeness w.logPath)
    (hfiles : L.Related (a.run (worldAfter earlier w)).world.files (worldAfter earlier w).files) :
    List.Forall₂ (Served.SameButTimes L)
      ((serve (earlier ++ a :: later) w).eraseIdx earlier.length)
      (serve (earlier ++ later) w) := by
  have hpath : (a.run (worldAfter earlier w)).world.logPath = w.logPath := by
    have hafter := logPath_worldAfter (earlier ++ [a]) w
    unfold worldAfter at hafter
    rwa [List.foldl_concat] at hafter
  have hlog : World.SameLog L (a.run (worldAfter earlier w)).world (worldAfter earlier w) :=
    ⟨hpath, logPath_worldAfter earlier w, hfiles⟩
  have herased : (serve (earlier ++ a :: later) w).eraseIdx earlier.length =
      serve earlier w ++ serve later (a.run (worldAfter earlier w)).world := by
    rw [serve_append, List.eraseIdx_append_of_length_le (Nat.le_of_eq (length_serve earlier w)),
      length_serve, Nat.sub_self]
    rfl
  rw [herased, serve_append]
  exact List.rel_append (serve_sameButTimes earlier (World.SameLog.refl L rfl))
    (serve_sameButTimes later hlog)

/-! ### Queries that are started -/

namespace Stream

/-- The queries for targets, the first of them with the number `i`. -/
def queriesFrom (config : Config) (root source : String) (i : Nat) (targets : List Target) :
    List Query :=
  (targets.zipIdx i).map fun t => queryFor config root source t.2 t.1

theorem startFrom_run (config : Config) (root source : String) : ∀ (i : Nat)
    (targets : List Target), ∃ es, ∀ (s : σ) w, startFrom config root source i targets s w =
      ⟨.ok (queriesFrom config root source i targets), s, w, es⟩
  | _, [] => ⟨[], fun _ _ => rfl⟩
  | i, t :: rest => by
    obtain ⟨es, hrest⟩ := startFrom_run config root source (i + 1) rest
    refine ⟨[.log .info logger ("streaming query started name=" ++ queryName i t)] ++ (es ++ []),
      fun s w => ?_⟩
    rw [startFrom, Act.log_bind, Act.bind_ok (hrest s w), Act.pure_apply, Ran.after_mk,
      Ran.after_mk]
    rfl

/-- There is one query for each target, in their order. -/
theorem map_target_queriesFrom (config : Config) (root source : String) (i : Nat)
    (targets : List Target) :
    (queriesFrom config root source i targets).map Query.target = targets := by
  unfold queriesFrom
  rw [List.map_map]
  exact List.zipIdx_map_fst i targets

/-- With a place for their progress, a load starts one query for each of its targets, in their
order, all of them on the first source after the transformations. A micro-batch that is given to
the `i`th query is one of the `i`th target. Two kinds of invocations make no difference to the
others but for durations: one that leaves the files as they were, as one does whose target fails
without a line in the timing log, and any one whose target fails, if no `.` stands behind a `..` in
the path of the log. Without a source no query is started. -/
theorem start_routes {config : Config} {root : String} (hroot : checkpointRoot config = .ok root)
    (source : String) (more transforms : List String) (targets : List Target) (s : σ) (w : World) :
    (∃ queries : List Query,
      (start config (source :: more) transforms targets s w).result = .ok queries ∧
      queries.map Query.target = targets ∧
      (∀ q ∈ queries, q.source =
        transforms.foldl (fun label name => name ++ "(" ++ label ++ ")") source) ∧
      (∀ (schedule : List Arrival) (w' : World), ∀ v ∈ serve schedule w', ∀ i : Nat,
        queries[i]? = some v.arrival.query → Number.isWritable v.arrival.batch.id = true →
        ∃ t, targets[i]? = some t ∧
          Routed (t.answering v.arrival.outcome) (skipsEmpty config) v.arrival.batch () v.before
            v.ran) ∧
      ∀ (earlier later : List Arrival) (a : Arrival) (w' : World),
        ((a.run (worldAfter earlier w')).world.files = (worldAfter earlier w').files →
          List.Forall₂ (Served.SameButTimes (.inTexts w'.logPath))
            ((serve (earlier ++ a :: later) w').eraseIdx earlier.length)
            (serve (earlier ++ later) w')) ∧
        (a.Raises (worldAfter earlier w') →
          (∀ p, w'.logPath = some p → Retraced (TimingLog.directoryOf p.toList)) →
          List.Forall₂ (Served.SameButTimes (.onceMade w'.logPath))
            ((serve (earlier ++ a :: later) w').eraseIdx earlier.length)
            (serve (earlier ++ later) w'))) ∧
    (start config [] transforms targets s w).result = .ok [] := by
  obtain ⟨es, hstart⟩ :=
    startFrom_run (σ := σ) config root (transformed source transforms) 0 targets
  have htargets := map_target_queriesFrom config root (transformed source transforms) 0 targets
  refine ⟨⟨queriesFrom config root (transformed source transforms) 0 targets, ?_, htargets, ?_, ?_,
    fun earlier later a w' => ⟨fun hfiles => ?_, fun hraises hpath => ?_⟩⟩, rfl⟩
  · rw [start, hroot, Act.ofExcept_ok_bind, hstart]
  · intro q hq
    obtain ⟨t, -, rfl⟩ := List.mem_map.mp hq
    rfl
  · intro schedule w' v hv i hi hid
    obtain ⟨-, w'', hbefore, hran⟩ := mem_serve hv
    have ht : targets[i]? = some v.arrival.query.target := by
      rw [← htargets, List.getElem?_map, hi]
      rfl
    have hskip : v.arrival.query.skipEmpty = skipsEmpty config := by
      obtain ⟨t, -, hquery⟩ := List.mem_map.mp (List.mem_of_getElem? hi)
      rw [← hquery]
      rfl
    refine ⟨_, ht, ?_⟩
    rw [hbefore, hran, ← hskip]
    exact v.arrival.queryNow.run_routed hid () _
  · refine serve_eraseIdx earlier later a (.inTexts w'.logPath) ?_
    rw [hfiles]
    exact (TimingLog.Likeness.inTexts w'.logPath).refl _
  · have hleaves := hraises.leaves
    rw [logPath_worldAfter] at hleaves
    exact serve_eraseIdx earlier later a (.onceMade w'.logPath) (hleaves.sameOnceMade hpath)

/-! ### A load into a table and another sink -/

open TimingLog (loggedWorld)

/-- A sink for one column of integers that has passed its check. -/
def tableSink : Sink :=
  { Sink.ofConfig (Sink.smallOptions [("fields", .text "n")]) with
    table := some "t"
    schema := .ofList [("n", .plain .int64 "Int64")]
    fields := some ["n"]
    connection := some PartitionPlan.smallSettings
    policy := ⟨[], 0⟩
    bulkSize := 2
    bulkSize_pos := Nat.two_pos }

/-- The table, and a sink of another kind. -/
def tableAndOther : List Target := [.table tableSink, .other "B" none]

/-- A place for the progress of queries. -/
def placedConfig : Config := .ofList [("checkpoint_location", .text "/cp")]

/-- The query for the `i`th sink. -/
def placedQuery (i : Nat) (t : Target) : Query := queryFor placedConfig "/cp" "up(src)" i t

/-- A micro-batch for a query, at the beginning of 1970. -/
def arrivalAt (q : Query) (id : Int) (isEmpty : Bool) (outcome : Option Error) : Arrival where
  query := q
  batch := ⟨id, "batch", ⟨[], []⟩, isEmpty⟩
  answers := []
  outcome := outcome
  now := World.beginning
  epoch := 0

/-- Two rows for the table, at a moment whose year is too large to be counted. -/
def farArrival : Arrival :=
  { arrivalAt (placedQuery 0 (.table tableSink)) 0 false none with
    batch := ⟨0, "batch", ⟨["n"], [[[("n", .int 1)], [("n", .int 2)]]]⟩, false⟩
    epoch := TimingLog.farCall.epoch }

/-- A micro-batch for the other sink, which fails. -/
def failingArrival : Arrival :=
  arrivalAt (placedQuery 1 (.other "B" none)) 0 false (some (.fault .badValue))

/-- A micro-batch without rows for the other sink. -/
def emptyArrival : Arrival := arrivalAt (placedQuery 1 (.other "B" none)) 1 true none

/-- The two that fail, and then the one without rows. -/
def failingSchedule : List Arrival := [farArrival, failingArrival, emptyArrival]

/-- The rows are loaded, the directory of the log is made, and the line has no time: the sink
fails. -/
theorem farArrival_raises {w : World} {p : String} (hpath : w.logPath = some p) {made : FileTree}
    (hmade : TimingLog.makeDirectoryOf w.files p.toList = (made, none)) :
    farArrival.Raises w ∧ (farArrival.run w).world.files = made := by
  have hplan : tableSink.planFor "t" PartitionPlan.smallSettings ["n"] =
      .ok (PartitionPlan.smallPlan [] 0) := rfl
  have hload : (Sink.loadPartitions (PartitionPlan.smallPlan [] 0)
      farArrival.batch.frame.partitions tableSink
      (farArrival.meets w).nextReading.2.nextReading.2).result = .ok () := by
    rw [loadPartitions_byAnswers _ _ tableSink (World.still .empty)
      (farArrival.meets w).nextReading.2.nextReading.2 (by simp; rfl) (by simp; rfl)]
    rfl
  have hstamp : Calendar.utcStamp farArrival.epoch = .error .tooLarge := rfl
  have hfailed : (Sink.output farArrival.batch.frame tableSink
        (farArrival.meets w).nextReading.2).result = .error (.fault .overflow) ∧
      (Sink.output farArrival.batch.frame tableSink
        (farArrival.meets w).nextReading.2).world.files = made :=
    Sink.output_tooLarge rfl rfl hplan hload ((World.nextReading_logPath _).trans hpath)
      (by rw [World.nextReading_files]; exact hmade) (by rw [World.nextReading_epoch]; exact hstamp)
  have htarget : farArrival.query.target = .table tableSink := rfl
  obtain ⟨hraises, hworld⟩ := Arrival.raises_of_table htarget rfl hfailed.1
  exact ⟨hraises, (congrArg World.files hworld).trans hfailed.2⟩

/-- Both queries run on the first source, and the three micro-batches go where they belong. The two
that fail make no difference to the others but for durations: the table at its line in the timing
log, whose directory is made then, and the other sink without a line. -/
theorem failures_routed :
    (start placedConfig ["src", "other"] ["up"] tableAndOther () loggedWorld).result =
        .ok [placedQuery 0 (.table tableSink), placedQuery 1 (.other "B" none)] ∧
      (∀ v ∈ serve failingSchedule loggedWorld, ∃ t ∈ tableAndOther,
        Routed (t.answering v.arrival.outcome) true v.arrival.batch () v.before v.ran) ∧
      farArrival.Raises loggedWorld ∧
      List.Forall₂ (Served.SameButTimes (.onceMade loggedWorld.logPath))
        ((serve failingSchedule loggedWorld).eraseIdx 0)
        (serve (failingSchedule.eraseIdx 0) loggedWorld) ∧
      List.Forall₂ (Served.SameButTimes (.inTexts loggedWorld.logPath))
        ((serve failingSchedule loggedWorld).eraseIdx 1)
        (serve (failingSchedule.eraseIdx 1) loggedWorld) := by
  obtain ⟨⟨queries, hstart, -, -, hrouted, hapart⟩, -⟩ := start_routes
    (show checkpointRoot placedConfig = .ok "/cp" from rfl) "src" ["other"] ["up"] tableAndOther ()
    loggedWorld
  obtain rfl : [placedQuery 0 (.table tableSink), placedQuery 1 (.other "B" none)] = queries :=
    Except.ok.inj hstart
  have hzero : Number.isWritable 0 = true := Number.isWritable_of_lt (by decide)
  have hone : Number.isWritable 1 = true := Number.isWritable_of_lt (by decide)
  have hfiles : ∀ w : World, (failingArrival.run w).world.files = w.files := by
    intro w
    have hraised : (failingArrival.queryNow.target.output failingArrival.batch ()
        (failingArrival.meets w).nextReading.2).result = .error (.fault .badValue) := rfl
    refine failingArrival.queryNow.files_of_raised rfl hraised ?_
    rw [failingArrival.queryNow.run_of_raised rfl hraised]
    rfl
  have hretraced : ∀ p, loggedWorld.logPath = some p →
      Retraced (TimingLog.directoryOf p.toList) := by
    intro p hp
    obtain rfl := Option.some.inj (TimingLog.logPath_loggedWorld.symm.trans hp)
    exact ⟨by decide +kernel, by decide +kernel⟩
  obtain ⟨made, hmade, -⟩ := TimingLog.makeDirectoryOf_of_admits TimingLog.loggedWorld_admits
  have hraises := (farArrival_raises TimingLog.logPath_loggedWorld hmade).1
  refine ⟨rfl, fun v hv => ?_, hraises, (hapart [] [_, _] farArrival _).2 hraises hretraced,
    (hapart [_] [_] failingArrival _).1 (hfiles _)⟩
  obtain ⟨hmem, -⟩ := mem_serve hv
  have hindex : ∃ i : Nat,
      [placedQuery 0 (.table tableSink), placedQuery 1 (.other "B" none)][i]? =
        some v.arrival.query ∧ Number.isWritable v.arrival.batch.id = true := by
    rcases List.mem_cons.mp hmem with h | hmem
    · exact ⟨0, by rw [h]; rfl, by rw [h]; exact hzero⟩
    rcases List.mem_cons.mp hmem with h | hmem
    · exact ⟨1, by rw [h]; rfl, by rw [h]; exact hzero⟩
    · have h := List.mem_singleton.mp hmem
      exact ⟨1, by rw [h]; rfl, by rw [h]; exact hone⟩
  obtain ⟨i, hi, hid⟩ := hindex
  obtain ⟨t, ht, hr⟩ := hrouted _ _ v hv i hi hid
  exact ⟨t, List.mem_of_getElem? ht, hr⟩

/-- Two sinks of other kinds. -/
def recorders : List Target := [.other "A" none, .other "B" none]

/-- A place that is a number with more digits than can be written. -/
def longPlace : Config := .ofList [("checkpoint_location", .int Number.writtenBelow)]

/-- A micro-batch with such a number. -/
def longArrival : Arrival :=
  arrivalAt (placedQuery 0 (.other "A" none)) Number.writtenBelow false none

/-- A log behind a file, a directory that is missing, and back again. -/
def dottedWorld : World :=
  { World.still (.ofList [(TimingLog.variableName, "x/../f/./log")]) with
    files := FileTree.dottedTree }

theorem logPath_dottedWorld : dottedWorld.logPath = some "x/../f/./log" := by decide +kernel

theorem makeDirectoryOf_dotted : TimingLog.makeDirectoryOf dottedWorld.files
    "x/../f/./log".toList = (FileTree.dottedMade, none) :=
  (if_neg (by decide)).trans FileTree.dotted_fails_again.1

/-- Once the table has failed the directories of the log have been made, and the next line fails at
them. It would have failed at the file otherwise. -/
theorem dotted_warnings_differ (L : TimingLog.Likeness dottedWorld.logPath) :
    ¬ List.Forall₂ (Served.SameButTimes L)
      ((serve [farArrival, emptyArrival] dottedWorld).eraseIdx 0)
      (serve [emptyArrival] dottedWorld) := by
  have hid : Number.isWritable emptyArrival.batch.id = true := Number.isWritable_of_lt (by decide)
  have hstamp : Calendar.utcStamp 0 = .ok "1970-01-01T00:00:00Z" := by decide +kernel
  have hfile : FileTree.dottedMade.fileAt "x/../f/./log".toList = .error .notDirectory := rfl
  have hagain : TimingLog.makeDirectoryOf FileTree.dottedMade "x/../f/./log".toList =
      (FileTree.dottedMade, some ⟨.notDirectory, FileTree.dottedPath⟩) :=
    (if_neg (by decide)).trans FileTree.dotted_fails_again.2
  have hpath : (farArrival.run dottedWorld).world.logPath = some "x/../f/./log" :=
    (logPath_worldAfter [farArrival] dottedWorld).trans logPath_dottedWorld
  obtain ⟨-, hfiles⟩ := farArrival_raises logPath_dottedWorld makeDirectoryOf_dotted
  have hwrite : ∀ line, TimingLog.write (farArrival.run dottedWorld).world.files 0
      "x/../f/./log".toList line =
        (FileTree.dottedMade, some (.path ⟨.notDirectory, FileTree.dottedPath⟩)) := fun line => by
    rw [hfiles, TimingLog.write, hagain]
  obtain ⟨line, hwithout⟩ := Query.run_of_noted (w := emptyArrival.meets dottedWorld) (s := ())
    emptyArrival.queryNow rfl hid logPath_dottedWorld
    (fun line => TimingLog.write_unopened makeDirectoryOf_dotted hstamp hfile line) rfl
  obtain ⟨line', hwith⟩ := Query.run_of_noted
    (w := emptyArrival.meets (farArrival.run dottedWorld).world) (s := ())
    emptyArrival.queryNow rfl hid hpath hwrite rfl
  intro hsame
  have hevents : List.Forall₂ Event.SameButTimes
      (emptyArrival.run (farArrival.run dottedWorld).world).events
      (emptyArrival.run dottedWorld).events := by
    cases hsame with
    | cons hfirst => exact hfirst.2.events
  rw [Arrival.run, hwith, Arrival.run, hwithout] at hevents
  cases hevents with
  | cons _ hrest =>
    cases hrest with
    | cons _ hlast =>
      cases hlast with
      | cons hwarning => exact absurd hwarning.eq_of_warning (by decide +kernel)

/-- With such a place a load does not start. A micro-batch with such a number is given to the sink,
and then the query fails without a line. And a table that fails at its line in a log with a `.`
behind a `..` makes a difference to another sink. -/
theorem long_numbers_and_dots_differ :
    (start longPlace ["src"] [] recorders () (World.still .empty)).result =
        .error (.fault .badValue) ∧
      (longArrival.run (World.still .empty)).result = .error (.fault .badValue) ∧
      (longArrival.run (World.still .empty)).events = [.isEmpty "batch", .output "A" "batch"] ∧
      farArrival.Raises dottedWorld ∧
      ∀ L : TimingLog.Likeness dottedWorld.logPath, ¬ List.Forall₂ (Served.SameButTimes L)
        ((serve [farArrival, emptyArrival] dottedWorld).eraseIdx 0)
        (serve [emptyArrival] dottedWorld) := by
  have hlong : Number.isWritable Number.writtenBelow = false := by decide +kernel
  refine ⟨?_, ?_⟩
  · have hplace : longPlace.get? "checkpoint_location" = some (.int Number.writtenBelow) := rfl
    have htruthy : (Cell.int Number.writtenBelow).isTruthy = true := by decide +kernel
    rw [start, checkpointRoot, hplace]
    dsimp only
    rw [if_pos htruthy, Cell.toText, Cell.isWritable, hlong]
    rfl
  · have hrun : (longArrival.run (World.still .empty)).result = .error (.fault .badValue) ∧
        (longArrival.run (World.still .empty)).events = [.isEmpty "batch", .output "A" "batch"] :=
      longArrival.queryNow.run_of_unwritable hlong rfl rfl
    exact ⟨hrun.1, hrun.2,
      (farArrival_raises logPath_dottedWorld makeDirectoryOf_dotted).1, dotted_warnings_differ⟩

end Stream
end TableLoader
