/-
# Runs that differ in durations only

Two runs of actions in worlds whose clocks show different times. What tells them apart
are the durations at the ends of lines of the timing log, in the log and in its file
(`Event.SameButTimes`, `TimingLog.SameTexts`); everything else is the same, errors and
results included (`Ran.SameButTimes`). The worlds may also differ in whether the path of
the file has been looked up, as long as it is the same path (`World.logPath`).

The files may differ in more than durations, in whatever is kept by the lines of the log
and makes no difference to them (`TimingLog.Likeness`): one tree may already have the
directories of the file, which an error has left there, and the other may not
(`SameOnceMade`). By the rules for putting actions together the output of a sink and the run
of a query on a micro-batch are such runs (`output_sameButTimes`, `run_sameButTimes`).

Key definitions: `timedLine`, `Event.SameButTimes`, `TimingLog.Likeness`,
`World.SameButTimes`, `Ran.SameButTimes`, `Act.SameButTimes`.
Key theorems: `write_of_made`, `SameButTimes.bind`, `append_sameButTimes`,
`output_sameButTimes`, `run_sameButTimes`.
-/
import TableLoader.Proofs.FileTree
import TableLoader.Proofs.Partition.Answers
import TableLoader.Proofs.Sink.Steps
import TableLoader.Proofs.TimingLog.FailedLines
import TableLoader.Stream

namespace TableLoader

variable {σ τ α β : Type}

/-- A line that ends with a duration. -/
def timedLine (text : String) (start stop : Number.Binary64) : String :=
  text ++ " duration=" ++ Sink.durationText start stop

/-- The events are the same, but for the duration at the end of a line of the timing log. -/
inductive Event.SameButTimes : Event → Event → Prop where
  | refl (e : Event) : SameButTimes e e
  | line (text : String) (start stop start' stop' : Number.Binary64) :
      SameButTimes (.log .info TimingLog.logger (timedLine text start stop))
        (.log .info TimingLog.logger (timedLine text start' stop'))

theorem Event.sameButTimes_refl (es : List Event) : List.Forall₂ Event.SameButTimes es es :=
  List.forall₂_same.mpr fun e _ => .refl e

/-- Warnings have no durations. -/
theorem Event.SameButTimes.eq_of_warning {name a b : String}
    (h : Event.SameButTimes (.log .warning name a) (.log .warning name b)) : a = b := by
  cases h
  rfl

/-- The texts are the same, but for the durations at the ends of lines that were added. -/
inductive TimingLog.SameTexts : String → String → Prop where
  | refl (s : String) : SameTexts s s
  | line {a b : String} (stamp text : String) (start stop start' stop' : Number.Binary64) :
      SameTexts a b → SameTexts (a ++ (stamp ++ " " ++ timedLine text start stop ++ "\n"))
        (b ++ (stamp ++ " " ++ timedLine text start' stop' ++ "\n"))

/-! ### Files -/

namespace TimingLog

theorem makeDirectoryOf_sameTexts {files files' : FileTree} (h : files.Alike SameTexts files')
    (p : List Char) :
    FileTree.SameFailure SameTexts (makeDirectoryOf files p) (makeDirectoryOf files' p) := by
  unfold makeDirectoryOf
  split
  · exact ⟨h, rfl⟩
  · exact h.makeDirectories true _

section Written

variable {files files' : FileTree} (epoch : Int) (p : List Char) (text : String)
  (start stop start' stop' : Number.Binary64)

/-- Lines that differ in durations only are added to a file in both trees, behind the same time. -/
theorem appendLine_sameTexts (h : files.Alike SameTexts files') :
    ResultsAlike (FileTree.Alike SameTexts) (appendLine files epoch p (timedLine text start stop))
      (appendLine files' epoch p (timedLine text start' stop')) := by
  refine (ResultsAlike.refl _).bind fun stamp _ hstamp => ?_
  subst hstamp
  have hadded : ∀ c c', SameTexts c c' →
      SameTexts (c ++ (stamp ++ " " ++ timedLine text start stop ++ "\n"))
        (c' ++ (stamp ++ " " ++ timedLine text start' stop' ++ "\n")) :=
    fun _ _ => .line stamp text start stop start' stop'
  rcases (h.append (.refl "") hadded p).cases with ⟨u, u', hu, hr, hr'⟩ | ⟨fault, hr, hr'⟩
  · rw [hr, hr']
    exact .ok hu
  · rw [hr, hr']
    exact .error _

/-- Lines that differ in durations only are written to files that do once their directories are
made, or fail to be for the same reason. -/
theorem write_of_made
    (h : FileTree.SameFailure SameTexts (makeDirectoryOf files p) (makeDirectoryOf files' p)) :
    (write files epoch p (timedLine text start stop)).1.Alike SameTexts
        (write files' epoch p (timedLine text start' stop')).1 ∧
      (write files epoch p (timedLine text start stop)).2 =
        (write files' epoch p (timedLine text start' stop')).2 := by
  unfold write
  rcases hfiles : makeDirectoryOf files p with ⟨u, failure⟩
  rcases hfiles' : makeDirectoryOf files' p with ⟨u', failure'⟩
  rw [hfiles, hfiles'] at h
  obtain ⟨htrees, rfl⟩ := h
  cases failure with
  | some f => exact ⟨htrees, rfl⟩
  | none =>
    dsimp only
    rcases (appendLine_sameTexts epoch p text start stop start' stop' htrees).cases with
      ⟨v, v', hv, hr, hr'⟩ | ⟨f, hr, hr'⟩
    · rw [hr, hr']
      exact ⟨hv, rfl⟩
    · rw [hr, hr']
      exact ⟨htrees, rfl⟩

end Written

/-- The trees differ in durations only, or they will once the directories of the log's file are
made. -/
inductive SameOnceMade (path : Option String) (files files' : FileTree) : Prop where
  | alike : files.Alike SameTexts files' → SameOnceMade path files files'
  | made (p : String) : path = some p → FileTree.SameFailure SameTexts
      (makeDirectoryOf files p.toList) (makeDirectoryOf files' p.toList) →
      SameOnceMade path files files'

theorem SameOnceMade.makeDirectoryOf {path : Option String} {files files' : FileTree}
    (h : SameOnceMade path files files') {p : String} (hp : path = some p) :
    FileTree.SameFailure SameTexts (TimingLog.makeDirectoryOf files p.toList)
      (TimingLog.makeDirectoryOf files' p.toList) := by
  cases h with
  | alike h => exact makeDirectoryOf_sameTexts h p.toList
  | made q hq h =>
    obtain rfl := Option.some.inj (hp.symm.trans hq)
    exact h

/-- A relation of trees that is kept by lines of the timing log, if these differ in durations only,
and which leaves no difference in what comes of such lines. -/
structure Likeness (path : Option String) where
  Related : FileTree → FileTree → Prop
  refl : ∀ files, Related files files
  kept : ∀ {files files' : FileTree} (p : String), path = some p → Related files files' →
    ∀ (epoch : Int) (text : String) (start stop start' stop' : Number.Binary64),
      Related (write files epoch p.toList (timedLine text start stop)).1
          (write files' epoch p.toList (timedLine text start' stop')).1 ∧
        (write files epoch p.toList (timedLine text start stop)).2 =
          (write files' epoch p.toList (timedLine text start' stop')).2

/-- The files differ in durations only. -/
def Likeness.inTexts (path : Option String) : Likeness path where
  Related := FileTree.Alike SameTexts
  refl := .refl .refl
  kept p _ h epoch text start stop start' stop' :=
    write_of_made epoch p.toList text start stop start' stop' (makeDirectoryOf_sameTexts h p.toList)

/-- The files differ in durations only, and directories of the log's file may be there in one tree
and not in the other. -/
def Likeness.onceMade (path : Option String) : Likeness path where
  Related := SameOnceMade path
  refl files := .alike (.refl .refl files)
  kept p hp h epoch text start stop start' stop' :=
    (write_of_made epoch p.toList text start stop start' stop' (h.makeDirectoryOf hp)).imp_left
      .alike

/-- What an error has left makes no difference once the directories are made. -/
theorem Leaves.sameOnceMade {path : Option String} {files files' : FileTree}
    (h : Leaves path files files')
    (hpath : ∀ p, path = some p → Retraced (directoryOf p.toList)) :
    SameOnceMade path files' files := by
  cases path with
  | none =>
    cases h with
    | kept => exact .alike (.refl .refl files)
    | made p hp => cases hp
  | some p =>
    refine .made p rfl ?_
    rw [h.again (hpath p rfl)]
    exact ⟨.refl .refl _, rfl⟩

end TimingLog

open TimingLog

namespace World

variable {path : Option String}

/-- In both worlds the timing log has this path, and the files are alike. -/
structure SameLog (L : Likeness path) (w w' : World) : Prop where
  path_left : w.logPath = path
  path_right : w'.logPath = path
  files : L.Related w.files w'.files

/-- The worlds also give the same answers, and it is the same time of the day. -/
structure SameButTimes (L : Likeness path) (w w' : World) : Prop extends SameLog L w w' where
  inserts : w.inserts = w'.inserts
  now : w.now = w'.now
  epoch : w.epoch = w'.epoch

variable {L : Likeness path} {w w' : World}

theorem SameLog.refl (L : Likeness path) (h : w.logPath = path) : SameLog L w w :=
  ⟨h, h, L.refl w.files⟩

theorem SameButTimes.nextReading (h : SameButTimes L w w') :
    SameButTimes L w.nextReading.2 w'.nextReading.2 := by
  obtain ⟨clock, hclock⟩ := nextReading_eq w
  obtain ⟨clock', hclock'⟩ := nextReading_eq w'
  rw [hclock, hclock']
  exact ⟨⟨h.path_left, h.path_right, h.files⟩, h.inserts, h.now, h.epoch⟩

end World

/-- The runs end alike, what they show differs in durations only, and what they leave behind is
alike. -/
structure Ran.SameButTimes {path : Option String} (L : Likeness path) (R : α → α → Prop)
    (r r' : Ran σ α) : Prop where
  result : ResultsAlike R r.result r'.result
  state : r.state = r'.state
  world : r.world.SameButTimes L r'.world
  events : List.Forall₂ Event.SameButTimes r.events r'.events

theorem Ran.SameButTimes.after {path : Option String} {L : Likeness path} {R : α → α → Prop}
    {r r' : Ran σ α} (h : Ran.SameButTimes L R r r') (es : List Event) :
    Ran.SameButTimes L R (r.after es) (r'.after es) :=
  ⟨h.result, h.state, h.world, List.rel_append (Event.sameButTimes_refl es) h.events⟩

namespace Act

/-- From worlds that differ in times and in a likeness of files only the actions run alike but for
durations. -/
def SameButTimes (R : α → α → Prop) (a a' : Act σ α) : Prop :=
  ∀ (path : Option String) (L : Likeness path) s w w', World.SameButTimes L w w' →
    Ran.SameButTimes L R (a s w) (a' s w')

variable {R : α → α → Prop} {Q : β → β → Prop}

/-- An action that takes nothing but answers from the world does not see the difference. -/
theorem ByAnswers.sameButTimes {a : Act σ α} (h : ByAnswers a) : SameButTimes Eq a a := by
  intro path L s w w' hw
  have hworld := h.world_eq s w
  rw [h s w w' hw.inserts.symm hw.now.symm]
  refine ⟨.refl _, rfl, ?_, Event.sameButTimes_refl _⟩
  dsimp only
  rw [hworld]
  exact ⟨⟨hw.path_left, hw.path_right, hw.files⟩, rfl, hw.now, hw.epoch⟩

/-- The readings themselves have nothing in common. -/
theorem sameButTimes_readClock :
    SameButTimes (fun _ _ => True) (readClock : Act σ Number.Binary64) readClock :=
  fun _ _ _ _ _ hw => ⟨.ok trivial, rfl, hw.nextReading, .nil⟩

theorem SameButTimes.bind {a a' : Act σ α} {f f' : α → Act σ β} (ha : SameButTimes R a a')
    (hf : ∀ x x', R x x' → SameButTimes Q (f x) (f' x')) :
    SameButTimes Q (a >>= f) (a' >>= f') := by
  intro path L s w w' hw
  obtain ⟨hresult, hstate, hworld, hevents⟩ := ha path L s w w' hw
  rcases hresult.cases with ⟨x, x', hx, hran, hran'⟩ | ⟨e, hran, hran'⟩
  · rw [bind_of_ok hran, bind_of_ok hran', ← hstate]
    obtain ⟨hresult, hstate', hworld, hevents'⟩ := hf x x' hx path L _ _ _ hworld
    exact ⟨hresult, hstate', hworld, List.rel_append hevents hevents'⟩
  · rw [bind_of_error hran, bind_of_error hran']
    exact ⟨.error e, hstate, hworld, hevents⟩

theorem SameButTimes.within {a a' : Act τ α} (ha : SameButTimes R a a') (t : τ) :
    SameButTimes (fun _ _ => True) (within t a : Act σ (α × τ)) (within t a') := by
  intro path L s w w' hw
  obtain ⟨hresult, -, hworld, hevents⟩ := ha path L t w w' hw
  exact ⟨hresult.map fun _ _ _ => trivial, rfl, hworld, hevents⟩

end Act

open Act

/-! ### The timing log -/

namespace TimingLog

/-- A failure is settled alike. -/
theorem settle_byAnswers (f : Failure) : ByAnswers (settle f : Act σ Unit) := by
  unfold settle
  cases f.error? with
  | none => exact byAnswers_log _ _ _
  | some e => exact byAnswers_fail e

/-- Lines that differ in durations only are logged and written alike. -/
theorem append_sameButTimes (text : String) (start stop start' stop' : Number.Binary64) :
    SameButTimes Eq (append (timedLine text start stop) : Act σ Unit)
      (append (timedLine text start' stop')) := by
  intro path L s w w' hw
  have hline : List.Forall₂ Event.SameButTimes
      [.log .info logger (timedLine text start stop)]
      [.log .info logger (timedLine text start' stop')] := .cons (.line _ _ _ _ _) .nil
  cases path with
  | none =>
    rw [append_noFile hw.path_left, append_noFile hw.path_right]
    exact ⟨.ok rfl, rfl, ⟨⟨rfl, rfl, hw.files⟩, hw.inserts, hw.now, hw.epoch⟩, hline⟩
  | some p =>
    have hsame := L.kept p rfl hw.files w.epoch text start stop start' stop'
    rcases hwrite : write w.files w.epoch p.toList (timedLine text start stop) with ⟨u, failure⟩
    rcases hwrite' : write w'.files w'.epoch p.toList (timedLine text start' stop') with
      ⟨u', failure'⟩
    rw [hwrite, hw.epoch, hwrite'] at hsame
    obtain ⟨hfiles, rfl⟩ := hsame
    have hsettle : SameButTimes Eq (failure.elim (pure ()) settle : Act σ Unit)
        (failure.elim (pure ()) settle) := by
      cases failure with
      | none => exact (byAnswers_pure ()).sameButTimes
      | some f => exact (settle_byAnswers f).sameButTimes
    have hworld : World.SameButTimes L { w with timingLog := some (some p), files := u }
        { w' with timingLog := some (some p), files := u' } :=
      ⟨⟨rfl, rfl, hfiles⟩, hw.inserts, hw.now, hw.epoch⟩
    rw [append_file hw.path_left hwrite, append_file hw.path_right hwrite']
    obtain ⟨hresult, hstate, hworld, hevents⟩ := hsettle (some p) L s _ _ hworld
    exact ⟨hresult, hstate, hworld, List.rel_append hline hevents⟩

end TimingLog

/-! ### Outputs and queries -/

theorem Sink.timedLoad_sameButTimes (plan : PartitionPlan) (table : String)
    (partitions : List (List Row)) :
    SameButTimes Eq (timedLoad plan table partitions) (timedLoad plan table partitions) :=
  sameButTimes_readClock.bind fun _ _ _ =>
    (loadPartitions_byAnswers plan partitions).sameButTimes.bind fun _ _ _ =>
      sameButTimes_readClock.bind fun _ _ _ => TimingLog.append_sameButTimes _ _ _ _ _

theorem Sink.output_sameButTimes (df : DataFrame) :
    SameButTimes Eq (output df) (output df) := by
  intro path L s w w' hw
  rcases s.unchecked_or_exists with hunchecked | ⟨table, settings, htable, hsettings⟩
  · rw [output_unchecked hunchecked, output_unchecked hunchecked]
    exact ⟨.error _, rfl, hw, .nil⟩
  have hload : SameButTimes Eq
      (ofExcept (s.planFor table settings df.columns) >>= fun plan =>
        timedLoad plan table df.partitions)
      (ofExcept (s.planFor table settings df.columns) >>= fun plan =>
        timedLoad plan table df.partitions) := by
    refine (byAnswers_ofExcept _).sameButTimes.bind ?_
    rintro plan _ rfl
    exact timedLoad_sameButTimes plan table df.partitions
  rw [output_run htable hsettings, output_run htable hsettings]
  exact (hload path L s w w' hw).after _

theorem Target.output_sameButTimes (b : MicroBatch) (t : Target) :
    SameButTimes Eq (t.output b : Act σ Unit) (t.output b) := by
  cases t with
  | table sink =>
    exact ((Sink.output_sameButTimes b.frame).within sink).bind fun _ _ _ =>
      (byAnswers_pure ()).sameButTimes
  | other name failure =>
    refine (byAnswers_emit _).sameButTimes.bind fun _ _ _ => ?_
    cases failure with
    | none => exact (byAnswers_pure ()).sameButTimes
    | some e => exact (byAnswers_fail e).sameButTimes

/-- A query runs on a micro-batch alike but for durations. -/
theorem Query.run_sameButTimes (q : Query) (b : MicroBatch) :
    SameButTimes Eq (q.run b : Act σ Unit) (q.run b) := by
  have hnote : ∀ remark start start', SameButTimes Eq
      (q.logDuration b remark start : Act σ Unit) (q.logDuration b remark start') := by
    intro remark start start'
    refine sameButTimes_readClock.bind fun stop stop' _ =>
      (byAnswers_ofExcept _).sameButTimes.bind ?_
    rintro id _ rfl
    exact TimingLog.append_sameButTimes _ _ _ _ _
  have hasks : ByAnswers (q.skips b : Act σ Bool) := by
    unfold skips
    cases q.skipEmpty with
    | true => exact (byAnswers_emit _).bind fun _ => byAnswers_pure _
    | false => exact byAnswers_pure _
  refine sameButTimes_readClock.bind fun start start' _ => hasks.sameButTimes.bind ?_
  rintro skip _ rfl
  cases skip with
  | true => exact hnote _ _ _
  | false => exact (q.target.output_sameButTimes b).bind fun _ _ _ => hnote _ _ _

end TableLoader
