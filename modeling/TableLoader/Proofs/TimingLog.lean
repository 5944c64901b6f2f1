/-
# What a line of the timing log does

A line that is appended is logged once, before the file is looked at. Behind it
there is at most a warning that the file could not be written, and the only errors
are faults: a name that is no path, or a time that has no text (`append_run`).

Key definitions: `Event.IsTimingWarning`, `timingLines`, `World.logPath`.
Key theorems: `append_run`, `append_silent`.
-/
import TableLoader.Proofs.Running
import TableLoader.TimingLog

namespace TableLoader

/-- The event is a warning of the timing log. -/
def Event.IsTimingWarning (e : Event) : Prop := ∃ text, e = .log .warning TimingLog.logger text

/-- The lines of the timing log. -/
def timingLines (events : List Event) : List String :=
  events.filterMap fun
    | .log .info name line => if name = TimingLog.logger then some line else none
    | _ => none

@[simp] theorem timingLines_append (es fs : List Event) :
    timingLines (es ++ fs) = timingLines es ++ timingLines fs := List.filterMap_append

/-- There are no lines among events none of which is a line. -/
theorem timingLines_eq_nil {es : List Event} (h : ∀ e ∈ es, timingLines [e] = []) :
    timingLines es = [] := by
  induction es with
  | nil => rfl
  | cons e es ih =>
    rw [← List.singleton_append, timingLines_append, h e List.mem_cons_self,
      ih fun e' he' => h e' (List.mem_cons_of_mem e he')]
    rfl

/-- A record of another log is no line. -/
theorem timingLines_record {name : String} (h : name ≠ TimingLog.logger) (level : LogLevel)
    (text : String) : timingLines [.log level name text] = [] := by
  refine List.filterMap_eq_nil_iff.mpr fun e he => ?_
  obtain rfl := List.mem_singleton.mp he
  cases level with
  | info => exact if_neg h
  | debug | warning | error => rfl

/-- Warnings are no lines, and no calls of the client. -/
theorem shows_of_warnings {es : List Event} (h : ∀ e ∈ es, e.IsTimingWarning) :
    timingLines es = [] ∧ clientCalls es = [] := by
  constructor
  · refine List.filterMap_eq_nil_iff.mpr fun e he => ?_
    obtain ⟨text, rfl⟩ := h e he
    rfl
  · refine List.filter_eq_nil_iff.mpr fun e he => ?_
    obtain ⟨text, rfl⟩ := h e he
    exact Bool.false_ne_true

/-- The path of the file of the timing log, whether it has been looked up or not. -/
def World.logPath (w : World) : Option String :=
  w.timingLog.getD (TimingLog.pathIn w.environment)

namespace World

/-- A reading of the clock changes the clock and nothing else. -/
theorem nextReading_eq (w : World) : ∃ clock, w.nextReading.2 = { w with clock := clock } := by
  unfold World.nextReading
  split
  · exact ⟨w.clock, rfl⟩
  · exact ⟨w.clock, rfl⟩
  · exact ⟨_, rfl⟩

@[simp] theorem nextReading_files (w : World) : w.nextReading.2.files = w.files := by
  obtain ⟨clock, hclock⟩ := nextReading_eq w
  rw [hclock]

@[simp] theorem nextReading_epoch (w : World) : w.nextReading.2.epoch = w.epoch := by
  obtain ⟨clock, hclock⟩ := nextReading_eq w
  rw [hclock]

@[simp] theorem nextReading_logPath (w : World) : w.nextReading.2.logPath = w.logPath := by
  obtain ⟨clock, hclock⟩ := nextReading_eq w
  rw [hclock]
  rfl

end World

namespace TimingLog

variable {σ : Type}

/-- The path is looked up, and is then the one that it was. -/
theorem path_run (s : σ) (w : World) :
    path s w = ⟨.ok w.logPath, s, { w with timingLog := some w.logPath }, []⟩ := by
  unfold path World.logPath
  rw [Act.world_bind]
  cases h : w.timingLog with
  | none => rfl
  | some p =>
    dsimp only [Option.getD_some]
    rw [← h]
    rfl

/-- The only failures that are errors are a name that is no path, and a time that has no text. -/
theorem Failure.error?_eq_some {f : Failure} {e : Error} (h : f.error? = some e) :
    (∃ g, f = .path g ∧ g.fault = .invalid ∧ e = .fault .badValue) ∨
      (f = .moment .tooLarge ∧ e = .fault .overflow) := by
  cases f with
  | path g =>
    simp only [Failure.error?] at h
    by_cases hinvalid : g.fault = .invalid
    · rw [if_pos hinvalid] at h
      exact .inl ⟨g, rfl, hinvalid, (Option.some.inj h).symm⟩
    · rw [if_neg hinvalid] at h
      cases h
  | moment m =>
    cases m with
    | beyondCalendar => cases h
    | tooLarge => exact .inr ⟨rfl, (Option.some.inj h).symm⟩

theorem settle_error {f : Failure} {e : Error} (h : f.error? = some e) (s : σ) (w : World) :
    settle f s w = ⟨.error e, s, w, []⟩ := by
  rw [settle, h]
  rfl

theorem settle_noted {f : Failure} (h : f.error? = none) (s : σ) (w : World) : settle f s w =
    ⟨.ok (), s, w, [.log .warning logger ("batch log write failed: " ++ f.message)]⟩ := by
  rw [settle, h]
  rfl

/-- A failure is passed on as a fault, or noted with a warning. -/
theorem settle_run (f : Failure) (w : World) : ∃ x notes,
    (∀ s : σ, settle f s w = ⟨x, s, w, notes⟩) ∧ (∀ e ∈ notes, e.IsTimingWarning) ∧
      ∀ e, x = .error e → ∃ g, e = .fault g := by
  cases h : f.error? with
  | none =>
    refine ⟨.ok (), [_], fun s => settle_noted h s w,
      fun e he => ⟨_, List.mem_singleton.mp he⟩, ?_⟩
    intro e he
    cases he
  | some e =>
    refine ⟨.error e, [], fun s => settle_error h s w, fun e he => absurd he List.not_mem_nil, ?_⟩
    intro e' he'
    obtain rfl := Except.error.inj he'
    rcases Failure.error?_eq_some h with ⟨g, -, -, rfl⟩ | ⟨-, rfl⟩
    · exact ⟨.badValue, rfl⟩
    · exact ⟨.overflow, rfl⟩

/-- Without a path the line is logged only. -/
theorem append_noFile {w : World} (hpath : w.logPath = none) (line : String) (s : σ) :
    append line s w =
      ⟨.ok (), s, { w with timingLog := some none }, [.log .info logger line]⟩ := by
  unfold append
  rw [Act.log_bind, Act.bind_ok (path_run s w), hpath]
  rfl

/-- With a path the line is logged, the file is written, and a failure is settled. -/
theorem append_file {line p : String} {w : World} (hpath : w.logPath = some p) {files : FileTree}
    {failure : Option Failure} (hfiles : write w.files w.epoch p.toList line = (files, failure))
    (s : σ) : append line s w =
      ((failure.elim (pure ()) settle : Act σ Unit) s
        { w with timingLog := some (some p), files := files }).after
        [.log .info logger line] := by
  unfold append
  rw [Act.log_bind, Act.bind_ok (path_run s w), Ran.after_nil, hpath]
  dsimp only
  rw [Act.world_bind, hfiles]
  cases failure <;> rfl

/-- A line is logged first. Behind it there are warnings at most, and only faults are errors. -/
theorem append_run (line : String) (w : World) : ∃ x w' notes,
    (∀ s : σ, append line s w = ⟨x, s, w', .log .info logger line :: notes⟩) ∧
      (∀ e ∈ notes, e.IsTimingWarning) ∧ ∀ e, x = .error e → ∃ f, e = .fault f := by
  have hnone : ∀ e ∈ ([] : List Event), e.IsTimingWarning := fun e he => by cases he
  cases hpath : w.logPath with
  | none => exact ⟨.ok (), _, [], append_noFile hpath line, hnone, fun e he => by cases he⟩
  | some p =>
    rcases hfiles : write w.files w.epoch p.toList line with ⟨files, failure⟩
    have hwrite := append_file (σ := σ) hpath hfiles
    cases failure with
    | none => exact ⟨.ok (), _, [], hwrite, hnone, fun e he => by cases he⟩
    | some f =>
      obtain ⟨x, notes, hsettle, hnotes, hfault⟩ :=
        settle_run (σ := σ) f { w with timingLog := some (some p), files := files }
      refine ⟨x, { w with timingLog := some (some p), files := files }, notes, fun s => ?_, hnotes,
        hfault⟩
      rw [hwrite s, Option.elim_some, hsettle s, Ran.after_mk, List.singleton_append]

/-- A line goes to the timing log without a look at the state and without a call of the client. -/
theorem append_silent (line : String) : Act.Silent (append line : Act σ Unit) := by
  intro w
  obtain ⟨x, w', notes, hrun, hnotes, -⟩ := append_run (σ := σ) line w
  exact ⟨x, w', .log .info logger line :: notes, (shows_of_warnings hnotes).2, hrun⟩

/-- A line that is appended is one line of the timing log, whatever comes of the file. -/
theorem timingLines_append_events (line : String) (s : σ) (w : World) :
    timingLines (append line s w).events = [line] := by
  obtain ⟨x, w', notes, hrun, hnotes, -⟩ := append_run (σ := σ) line w
  rw [hrun s]
  show line :: timingLines notes = [line]
  rw [(shows_of_warnings hnotes).1]

end TimingLog
end TableLoader
