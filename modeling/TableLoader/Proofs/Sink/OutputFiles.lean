/-
# What an output does to the files

Until its partitions have been loaded an output takes readings of the clock and answers from
the world, and the files stay as they are. Then there is one line for the timing log
(`output_loaded`). So an output that fails leaves the files as they were, but for
directories of the log if it is at that line that it fails (`output_leaves`), as it does at
a moment whose year is too large to be counted (`output_tooLarge`).

Key theorems: `output_loaded`, `output_tooLarge`, `output_files`, `output_leaves`.
-/
import TableLoader.Proofs.Partition.Answers
import TableLoader.Proofs.Sink.Steps
import TableLoader.Proofs.TimingLog.FailedLines
import TableLoader.Proofs.TimingLog.Records

namespace TableLoader
namespace Sink

variable {s : Sink} {df : DataFrame} {w : World}

/-- An output whose partitions have been loaded ends with its line in the timing log. Until then
readings of the clock and answers have been taken from the world, and nothing else. -/
theorem output_loaded {table : String} {settings : ConnectionSettings}
    (htable : s.table = some table) (hsettings : s.connection = some settings)
    {plan : PartitionPlan} (hplan : s.planFor table settings df.columns = .ok plan)
    (hload : (loadPartitions plan df.partitions s w.nextReading.2).result = .ok ()) :
    ∃ line s' clock inserts es, output df s w = Ran.after es
      (TimingLog.append line s' { w with clock := clock, inserts := inserts }) := by
  have hworld := (loadPartitions_byAnswers plan df.partitions).world_eq s w.nextReading.2
  obtain ⟨clock, hclock⟩ := World.nextReading_eq w
  obtain ⟨clock', hclock'⟩ :=
    World.nextReading_eq (loadPartitions plan df.partitions s w.nextReading.2).world
  have hread : (loadPartitions plan df.partitions s w.nextReading.2).world.nextReading.2 =
      { w with
        clock := clock'
        inserts := (loadPartitions plan df.partitions s w.nextReading.2).world.inserts } := by
    rw [hclock', hworld, hclock]
  rw [output_run htable hsettings, hplan, Act.ofExcept_ok_bind, timedLoad, Act.readClock_bind,
    Act.bind_of_ok hload, Act.readClock_bind, hread]
  exact ⟨_, _, _, _, _, Ran.after_after _ _ _⟩

/-- At a moment whose year is too large to be counted an output fails behind the last partition, at
its line in the timing log, and the directory of the log has been made. -/
theorem output_tooLarge {table : String} {settings : ConnectionSettings}
    (htable : s.table = some table) (hsettings : s.connection = some settings)
    {plan : PartitionPlan} (hplan : s.planFor table settings df.columns = .ok plan)
    (hload : (loadPartitions plan df.partitions s w.nextReading.2).result = .ok ())
    {p : String} (hpath : w.logPath = some p) {made : FileTree}
    (hmade : TimingLog.makeDirectoryOf w.files p.toList = (made, none))
    (hstamp : Calendar.utcStamp w.epoch = .error .tooLarge) :
    (output df s w).result = .error (.fault .overflow) ∧ (output df s w).world.files = made := by
  obtain ⟨line, s', clock, inserts, es, hrun⟩ := output_loaded htable hsettings hplan hload
  have hline := TimingLog.append_tooLarge (w := { w with clock := clock, inserts := inserts })
    hpath hmade hstamp line s'
  rw [hrun, hline]
  exact ⟨rfl, rfl⟩

/-- An output either leaves the files as they are or ends with its line in the timing log. -/
theorem output_files_cases (df : DataFrame) (s : Sink) (w : World) :
    (output df s w).world.files = w.files ∨ ∃ line s' clock inserts es, output df s w =
      (TimingLog.append line s' { w with clock := clock, inserts := inserts }).after es := by
  rcases s.unchecked_or_exists with hunchecked | ⟨table, settings, htable, hsettings⟩
  · exact .inl (by rw [output_unchecked hunchecked])
  cases hplan : s.planFor table settings df.columns with
  | error e =>
    obtain ⟨es, -, hrun⟩ := output_unplanned htable hsettings df w hplan
    exact .inl (by rw [hrun])
  | ok plan =>
    cases hload : (loadPartitions plan df.partitions s w.nextReading.2).result with
    | error e =>
      left
      rw [output_run htable hsettings, hplan, Act.ofExcept_ok_bind, timedLoad, Act.readClock_bind,
        Act.bind_of_error hload, Ran.after_world, (loadPartitions_byAnswers plan _).world_eq]
      exact World.nextReading_files w
    | ok => exact .inr (output_loaded htable hsettings hplan hload)

/-- An output without a line in the timing log leaves the files as they are. -/
theorem output_files (hlines : timingLines (output df s w).events = []) :
    (output df s w).world.files = w.files := by
  rcases output_files_cases df s w with hfiles | ⟨line, s', clock, inserts, es, hrun⟩
  · exact hfiles
  · rw [hrun, Ran.after_events, timingLines_append, TimingLog.timingLines_append_events,
      List.append_eq_nil_iff] at hlines
    cases hlines.2

/-- An output that fails leaves the files as they are, but for directories of the timing log. -/
theorem output_leaves {e : Error} (herror : (output df s w).result = .error e) :
    TimingLog.Leaves w.logPath w.files (output df s w).world.files := by
  rcases output_files_cases df s w with hfiles | ⟨line, s', clock, inserts, es, hrun⟩
  · rw [hfiles]
    exact .kept
  · rw [hrun] at herror ⊢
    exact TimingLog.append_error herror

end Sink
end TableLoader
