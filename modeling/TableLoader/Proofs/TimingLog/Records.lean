/-
# The records of the timing log

Each call logs its line and adds one record to the end of the file of the path: the time,
the line and its end (`Call.record?`). What comes of a call depends on whether the file can
be opened once its directories are made, and on whether the time has a text
(`Call.run_outcome`). A call leaves behind no obstacle for the next one, and removes none
(`write_recorded`, `write_unrecorded`), so the first tree decides for all calls: the file
holds what it held and then the records, in the order of the calls, or nothing is ever
written (`calls_kept`). The path of a directory and a path through a file cannot be opened
(`after_directory`, `after_throughFile`), and a path that leads downwards can, unless a
directory or a file is in its way (`after_plain`).

A time whose year is too large to be counted has no text and is not noted as a failure
either (`far_line_lost`).

Key definitions: `Call`, `Call.record?`, `Call.Outcome`, `extended`, `after`.
Key theorems: `admits_iff`, `write_recorded`, `write_unrecorded`, `Call.run_outcome`,
`after_recorded`, `after_unrecorded`, `after_plain`, `calls_kept`.
-/
import TableLoader.Proofs.FileTree.Openable
import TableLoader.Proofs.TimingLog

namespace TableLoader
namespace TimingLog

open Calendar FileTree

variable {σ : Type}

/-! ### The file of a path -/

section Files

variable {files made : FileTree} {p : List Char} {place : FilePath}

/-- From a working directory that is not there nothing is made. -/
theorem makeDirectoryOf_homeless (h : files.startAt p = none) :
    (makeDirectoryOf files p).1 = files ∧
      (directoryOf p ≠ [] → ∃ f, makeDirectoryOf files p = (files, some f)) := by
  unfold makeDirectoryOf
  by_cases hempty : directoryOf p = []
  · rw [if_pos hempty]
    exact ⟨rfl, fun hne => absurd hempty hne⟩
  · have hstart : files.startAt (directoryOf p) = none :=
      (startAt_of_begins (splitPath_begins p) hempty).trans h
    obtain ⟨f, hrun, -⟩ := makeDirectories_homeless true hstart
    rw [if_neg hempty, hrun]
    exact ⟨rfl, fun _ => ⟨f, rfl⟩⟩

theorem makeDirectoryOf_adds (files : FileTree) (p : List Char) :
    files.AddsDirectories (makeDirectoryOf files p).1 := by
  unfold makeDirectoryOf
  split
  · exact .refl files
  · exact makeDirectories_adds true (directoryOf p)

/-- The directory of a file can be made if there is a way to open the file. -/
theorem makeDirectoryOf_of_admits (h : files.Admits p place) : ∃ made,
    makeDirectoryOf files p = (made, none) ∧ files.AddsDirectories made ∧
      made.fileAt p = .ok (place, (files.contentAt place).getD "") := by
  obtain ⟨hstart, u, content, hadds, hfile⟩ := h
  obtain ⟨start, hstart⟩ := Option.isSome_iff_exists.mp hstart
  obtain ⟨folder, hfolder, -, hslash, -⟩ := fileAt_eq_ok_iff.mp hfile
  have hself : withoutTail p = p := withoutTail_eq_self_iff.mpr hslash
  have hfront : (splitPath (withoutTail p)).1 = directoryOf p := by rw [hself, directoryOf]
  unfold makeDirectoryOf
  by_cases hempty : directoryOf p = []
  · have hhere : files.InFolder p start :=
      inFolder_of_no_front hfolder.1 (hfront.trans hempty) hstart
    rw [if_pos hempty]
    exact ⟨files, rfl, .refl files, fileAt_of_adds hhere hadds hfile⟩
  · have hthere : u.isDirectory (directoryOf p) = true :=
      hfront ▸ hfolder.isDirectory_front (hfront ▸ hempty)
    have hstart' : files.startAt (directoryOf p) = some start :=
      (startAt_of_begins (splitPath_begins p) hempty).trans hstart
    obtain ⟨made, hrun, hmade, hneeded, hdirectory⟩ := makeDirectories_reaches hadds hthere hstart'
    obtain ⟨folder', hfolder'⟩ :=
      inFolder_of_front hfolder.1 (hfront ▸ hempty) (hfront ▸ hdirectory)
    rw [if_neg hempty, ← hmade.contents]
    exact ⟨made, hrun, hmade, fileAt_of_adds hfolder' hneeded hfile⟩

/-- There is a way to open the file of a path exactly if it is opened. -/
theorem admits_iff : files.Admits p place ↔ ∃ made content,
    makeDirectoryOf files p = (made, none) ∧ made.fileAt p = .ok (place, content) := by
  constructor
  · intro h
    obtain ⟨made, hmade, -, hfile⟩ := makeDirectoryOf_of_admits h
    exact ⟨made, _, hmade, hfile⟩
  · rintro ⟨made, content, hmade, hfile⟩
    refine ⟨?_, made, content, ?_, hfile⟩
    · by_contra hnowhere
      have hstart : files.startAt p = none := Option.not_isSome_iff_eq_none.mp hnowhere
      by_cases hempty : directoryOf p = []
      · rw [makeDirectoryOf, if_pos hempty] at hmade
        obtain ⟨rfl, -⟩ := Prod.mk.inj hmade
        obtain ⟨folder, ⟨-, start, hstart', -⟩, -⟩ := fileAt_eq_ok_iff.mp hfile
        rw [hstart] at hstart'
        cases hstart'
      · obtain ⟨f, hrun⟩ := (makeDirectoryOf_homeless hstart).2 hempty
        rw [hrun] at hmade
        cases hmade
    · have hadds := makeDirectoryOf_adds files p
      rwa [hmade] at hadds

/-- Making its directory neither opens a path up nor closes it. -/
theorem admits_makeDirectoryOf_iff :
    (makeDirectoryOf files p).1.Admits p place ↔ files.Admits p place := by
  constructor
  · intro h
    cases hstart : files.startAt p with
    | none => rwa [(makeDirectoryOf_homeless hstart).1] at h
    | some start =>
      obtain ⟨-, u, content, hadds, hfile⟩ := h
      exact ⟨by rw [hstart]; rfl, u, content, (makeDirectoryOf_adds files p).trans hadds, hfile⟩
  · intro h
    obtain ⟨made, content, hmade, hfile⟩ := admits_iff.mp h
    rw [hmade]
    exact admits_of_fileAt hfile

theorem mem_of_makeDirectoryOf_invalid {f : PathFailure}
    (h : makeDirectoryOf files p = (made, some f)) (hinvalid : f.fault = .invalid) :
    pathEnd ∈ p := by
  by_cases hempty : directoryOf p = []
  · rw [makeDirectoryOf, if_pos hempty] at h
    cases h
  · rw [makeDirectoryOf, if_neg hempty] at h
    have hfailed : (files.makeDirectories true (directoryOf p)).2 = some f := by rw [h]
    exact (splitPath_begins p).subset (mem_of_makeDirectories_invalid hfailed hinvalid)

/-! ### Lines that are written -/

/-- A line at a moment that has a text goes to the end of the file. -/
theorem write_recorded (h : files.Admits p place) {epoch : Int} {stamp : String}
    (hstamp : utcStamp epoch = .ok stamp) (line : String) : ∃ u,
    write files epoch p line = (u, none) ∧ u.Admits p place ∧
      ∀ q, u.contentAt q = if q = place then
        some ((files.contentAt place).getD "" ++ (stamp ++ " " ++ line ++ "\n")) else files.contentAt q := by
  obtain ⟨made, hmade, hadds, hfile⟩ := makeDirectoryOf_of_admits h
  obtain ⟨u, happend, hfile', hcontents⟩ := append_of_fileAt hfile (stamp ++ " " ++ line ++ "\n")
  refine ⟨u, ?_, admits_of_fileAt hfile', fun q => ?_⟩
  · have hline : appendLine made epoch p line = .ok u := by
      rw [appendLine, hstamp]
      exact congrArg (Except.mapError fun fault => Failure.path ⟨fault, p⟩) happend
    rw [write, hmade]
    dsimp only
    rw [hline]
  · rw [hcontents, hadds.contents]

/-- At a moment without a text only the directory is made. -/
theorem write_unstamped (hmade : makeDirectoryOf files p = (made, none)) {epoch : Int}
    {fault : MomentFault} (hstamp : utcStamp epoch = .error fault) (line : String) :
    write files epoch p line = (made, some (.moment fault)) := by
  rw [write, hmade]
  dsimp only
  rw [appendLine, hstamp]
  rfl

/-- At a moment whose year is too large to be counted a line ends in an error, and only the
directory is made. -/
theorem append_tooLarge {w : World} {p : String} (hpath : w.logPath = some p)
    (hmade : makeDirectoryOf w.files p.toList = (made, none))
    (hstamp : utcStamp w.epoch = .error .tooLarge) (line : String) (s : σ) :
    append line s w = ⟨.error (.fault .overflow), s,
      { w with timingLog := some (some p), files := made }, [.log .info logger line]⟩ := by
  rw [append_file hpath (write_unstamped hmade hstamp line), Option.elim_some, settle_error rfl]
  rfl

/-- A path that names no file once its directory is there gets no line. -/
theorem write_unopened (hmade : makeDirectoryOf files p = (made, none)) {epoch : Int}
    {stamp : String} (hstamp : utcStamp epoch = .ok stamp) {fault : PathFault}
    (hfile : made.fileAt p = .error fault) (line : String) :
    write files epoch p line = (made, some (.path ⟨fault, p⟩)) := by
  rw [write, hmade]
  dsimp only
  rw [appendLine, hstamp]
  simp [FileTree.append, hfile, bind, Except.bind, Except.mapError]

/-- Without a way to open the file, or at a moment without a text, there is a failure: of the path,
which is none at all only if the mark that ends a path stands in it, or of the moment. -/
theorem exists_failure {epoch : Int} (h : (∀ place, ¬ files.Admits p place) ∨
    ∃ fault, utcStamp epoch = .error fault) (line : String) : ∃ f,
    write files epoch p line = ((makeDirectoryOf files p).1, some f) ∧
      (∀ g, f = .path g → g.fault = .invalid → pathEnd ∈ p) ∧
      ∀ m, f = .moment m → utcStamp epoch = .error m := by
  rcases hmade : makeDirectoryOf files p with ⟨made, failure⟩
  cases failure with
  | some f =>
    refine ⟨.path f, by rw [write, hmade], fun g hg hinvalid => ?_, fun m hm => nomatch hm⟩
    obtain rfl := Failure.path.inj hg
    exact mem_of_makeDirectoryOf_invalid hmade hinvalid
  | none =>
    cases hstamp : utcStamp epoch with
    | error fault =>
      refine ⟨.moment fault, write_unstamped hmade hstamp line, fun g hg => (nomatch hg),
        fun m hm => ?_⟩
      rw [Failure.moment.inj hm]
    | ok stamp =>
      have hclosed : ∀ place, ¬ files.Admits p place := by
        refine h.resolve_right fun ⟨fault, hfault⟩ => ?_
        rw [hstamp] at hfault
        cases hfault
      cases hfile : made.fileAt p with
      | ok found =>
        exact absurd (admits_iff.mpr ⟨made, found.2, hmade, hfile⟩) (hclosed found.1)
      | error fault =>
        refine ⟨_, write_unopened hmade hstamp hfile line, fun g hg hinvalid => ?_,
          fun m hm => nomatch hm⟩
        obtain rfl := Failure.path.inj hg
        obtain rfl : fault = .invalid := hinvalid
        exact mem_of_fileAt_invalid hfile

/-- Without a way to open the file, or at a moment without a text, nothing is written. -/
theorem write_unrecorded {epoch : Int} (h : (∀ place, ¬ files.Admits p place) ∨
    ∃ fault, utcStamp epoch = .error fault) (line : String) : ∃ u f,
    write files epoch p line = (u, some f) ∧ files.AddsDirectories u ∧
      (∀ place, u.Admits p place ↔ files.Admits p place) ∧
      ∀ e, f.error? = some e → (∃ g, e = .fault g) ∧
        (pathEnd ∈ p ∨ utcStamp epoch = .error .tooLarge) := by
  obtain ⟨f, hwrite, hpath, hmoment⟩ := exists_failure h line
  refine ⟨_, f, hwrite, makeDirectoryOf_adds files p, fun place => admits_makeDirectoryOf_iff,
    fun e he => ?_⟩
  rcases Failure.error?_eq_some he with ⟨g, rfl, hinvalid, rfl⟩ | ⟨rfl, rfl⟩
  · exact ⟨⟨_, rfl⟩, .inl (hpath g rfl hinvalid)⟩
  · exact ⟨⟨_, rfl⟩, .inr (hmoment _ rfl)⟩

end Files

/-! ### Calls -/

/-- A line that is appended at a moment. -/
structure Call where
  epoch : Int
  line : String

namespace Call

/-- The line goes to the log. -/
def logged (c : Call) : Event := .log .info logger c.line

/-- What the line adds to the file: the time, the line and its end. There is nothing to add at a
moment without a text. -/
def record? (c : Call) : Option String :=
  match utcStamp c.epoch with
  | .ok stamp => some (stamp ++ " " ++ c.line ++ "\n")
  | .error _ => none

/-- The line is appended at its moment. -/
def run (c : Call) : Act σ Unit := do
  Act.changeWorld fun w => { w with epoch := c.epoch }
  append c.line

theorem run_eq (c : Call) (s : σ) (w : World) :
    c.run s w = append c.line s { w with epoch := c.epoch } := rfl

/-- What comes of a call. Whatever happens the line is logged first. If no file is named, that is
all. If there is a way to open the file and the moment has a text, then the file has one more
record at its end, and no other file is changed. Otherwise no file is changed and there is one
warning, unless the path or the moment cannot be handed to the system at all. -/
structure Outcome (c : Call) (w : World) (r : Ran σ Unit) : Prop where
  unnamed : w.logPath = none →
    r.result = .ok () ∧ r.events = [c.logged] ∧ r.world.files = w.files
  recorded : ∀ p place added, w.logPath = some p → w.files.Admits p.toList place →
    c.record? = some added → r.result = .ok () ∧ r.events = [c.logged] ∧
      ∀ q, r.world.files.contentAt q = if q = place then
        some ((w.files.contentAt place).getD "" ++ added) else w.files.contentAt q
  unrecorded : ∀ p, w.logPath = some p →
    (∀ place, ¬ w.files.Admits p.toList place) ∨ c.record? = none →
    w.files.AddsDirectories r.world.files ∧
      ((r.result = .ok () ∧ ∃ reason, r.events =
          [c.logged, .log .warning logger ("batch log write failed: " ++ reason)]) ∨
        ((∃ f, r.result = .error (.fault f)) ∧ r.events = [c.logged] ∧
          (pathEnd ∈ p.toList ∨ utcStamp c.epoch = .error .tooLarge)))

theorem record?_eq_some_iff {c : Call} {added : String} : c.record? = some added ↔
    ∃ stamp, utcStamp c.epoch = .ok stamp ∧ added = stamp ++ " " ++ c.line ++ "\n" := by
  unfold record?
  cases utcStamp c.epoch with
  | error fault => simp
  | ok stamp => simp [eq_comm]

theorem record?_eq_none_iff {c : Call} : c.record? = none ↔
    ∃ fault, utcStamp c.epoch = .error fault := by
  unfold record?
  cases utcStamp c.epoch with
  | error fault => simp
  | ok stamp => simp

section Runs

variable {c : Call} {w : World} {p : String} {place : FilePath}

/-- A call at a moment with a text, with a file that can be opened. -/
theorem run_recorded (hpath : w.logPath = some p) (h : w.files.Admits p.toList place)
    {added : String} (hadded : c.record? = some added) (s : σ) : ∃ u,
    c.run s w = ⟨.ok (), s, { w with epoch := c.epoch, timingLog := some (some p), files := u },
      [c.logged]⟩ ∧ u.Admits p.toList place ∧
      ∀ q, u.contentAt q = if q = place then
        some ((w.files.contentAt place).getD "" ++ added) else w.files.contentAt q := by
  obtain ⟨stamp, hstamp, rfl⟩ := record?_eq_some_iff.mp hadded
  obtain ⟨u, hwrite, hadmits, hcontents⟩ := write_recorded h hstamp c.line
  exact ⟨u, append_file (w := { w with epoch := c.epoch }) hpath hwrite s, hadmits, hcontents⟩

/-- Any other call with a file. -/
theorem run_unrecorded (hpath : w.logPath = some p)
    (h : (∀ place, ¬ w.files.Admits p.toList place) ∨ c.record? = none) (s : σ) : ∃ u x notes,
    c.run s w = ⟨x, s, { w with epoch := c.epoch, timingLog := some (some p), files := u },
      c.logged :: notes⟩ ∧ w.files.AddsDirectories u ∧
      (∀ place, u.Admits p.toList place ↔ w.files.Admits p.toList place) ∧
      ((x = .ok () ∧ ∃ reason,
          notes = [.log .warning logger ("batch log write failed: " ++ reason)]) ∨
        ((∃ f, x = .error (.fault f)) ∧ notes = [] ∧
          (pathEnd ∈ p.toList ∨ utcStamp c.epoch = .error .tooLarge))) := by
  obtain ⟨u, f, hwrite, hadds, hkept, herror⟩ :=
    write_unrecorded (h.imp_right record?_eq_none_iff.mp) c.line
  have hrun := append_file (w := { w with epoch := c.epoch }) hpath hwrite s
  rw [Option.elim_some] at hrun
  cases hfailure : f.error? with
  | none =>
    rw [settle_noted hfailure] at hrun
    exact ⟨u, _, _, hrun, hadds, hkept, .inl ⟨rfl, f.message, rfl⟩⟩
  | some e =>
    obtain ⟨⟨g, rfl⟩, hcause⟩ := herror e hfailure
    rw [settle_error hfailure] at hrun
    exact ⟨u, _, _, hrun, hadds, hkept, .inr ⟨⟨g, rfl⟩, rfl, hcause⟩⟩

theorem run_outcome (c : Call) (s : σ) (w : World) : c.Outcome w (c.run s w) where
  unnamed hpath := by
    have hrun := append_noFile (w := { w with epoch := c.epoch }) hpath c.line s
    rw [run_eq, hrun]
    exact ⟨rfl, rfl, rfl⟩
  recorded p place added hpath h hadded := by
    obtain ⟨u, hrun, -, hcontents⟩ := run_recorded hpath h hadded s
    rw [hrun]
    exact ⟨rfl, rfl, hcontents⟩
  unrecorded p hpath h := by
    obtain ⟨u, x, notes, hrun, hadds, -, hcases⟩ := run_unrecorded hpath h s
    rw [hrun]
    refine ⟨hadds, ?_⟩
    rcases hcases with ⟨rfl, reason, rfl⟩ | ⟨hfault, rfl, hcause⟩
    · exact .inl ⟨rfl, reason, rfl⟩
    · exact .inr ⟨hfault, rfl, hcause⟩

/-- The path is looked up once. -/
theorem logPath_run (c : Call) (s : σ) (w : World) : (c.run s w).world.logPath = w.logPath := by
  cases hpath : w.logPath with
  | none =>
    have hrun := append_noFile (w := { w with epoch := c.epoch }) hpath c.line s
    rw [run_eq, hrun]
    rfl
  | some p =>
    by_cases h : (∃ place, w.files.Admits p.toList place) ∧ c.record? ≠ none
    · obtain ⟨⟨place, hadmits⟩, hadded⟩ := h
      obtain ⟨added, hadded⟩ := Option.ne_none_iff_exists'.mp hadded
      obtain ⟨u, hrun, -⟩ := run_recorded hpath hadmits hadded s
      rw [hrun]
      rfl
    · have h' : (∀ place, ¬ w.files.Admits p.toList place) ∨ c.record? = none := by
        by_contra hboth
        push Not at hboth
        exact h hboth
      obtain ⟨u, x, notes, hrun, -⟩ := run_unrecorded hpath h' s
      rw [hrun]
      rfl

end Runs

end Call

/-- What a file holds once records have been added at its end. A file that is not there is made by
the first one. -/
def extended (content : Option String) (records : List String) : Option String :=
  if records = [] then content else some (content.getD "" ++ String.join records)

theorem extended_append (content : Option String) (records more : List String) :
    extended (extended content records) more = extended content (records ++ more) := by
  unfold extended
  by_cases hrecords : records = []
  · simp [hrecords]
  · by_cases hmore : more = []
    · simp [hmore]
    · simp [hrecords, hmore, String.append_assoc]

/-- The world after calls, each made whether the one before it failed or not. -/
def after (s : σ) (w : World) (calls : List Call) : World :=
  calls.foldl (fun w c => (c.run s w).world) w

theorem after_concat (s : σ) (w : World) (calls : List Call) (c : Call) :
    after s w (calls ++ [c]) = (c.run s (after s w calls)).world := List.foldl_concat ..

theorem logPath_after (s : σ) (w : World) (calls : List Call) :
    (after s w calls).logPath = w.logPath := by
  induction calls using List.reverseRecOn with
  | nil => rfl
  | append_singleton calls c ih => rw [after_concat, Call.logPath_run, ih]

/-- A file that can be opened once stays the file of the path, and gets the records of all calls. -/
theorem after_recorded {s : σ} {w : World} {p : String} {place : FilePath}
    (hpath : w.logPath = some p) (h : w.files.Admits p.toList place) (calls : List Call) :
    (after s w calls).files.Admits p.toList place ∧
      ∀ q, (after s w calls).files.contentAt q = if q = place then
        extended (w.files.contentAt place) (calls.filterMap Call.record?)
        else w.files.contentAt q := by
  induction calls using List.reverseRecOn with
  | nil =>
    refine ⟨h, fun q => ?_⟩
    by_cases hq : q = place
    · rw [if_pos hq, hq]
      rfl
    · rw [if_neg hq]
      rfl
  | append_singleton calls c ih =>
    obtain ⟨hadmits, hcontents⟩ := ih
    have hpath' := (logPath_after s w calls).trans hpath
    rw [after_concat, List.filterMap_append, ← extended_append]
    cases hadded : c.record? with
    | none =>
      obtain ⟨u, x, notes, hrun, hadds, hkept, -⟩ := c.run_unrecorded hpath' (.inr hadded) s
      rw [hrun]
      refine ⟨(hkept place).mpr hadmits, fun q => ?_⟩
      rw [hadds.contents, hcontents]
      simp [hadded, extended]
    | some added =>
      obtain ⟨u, hrun, hadmits', hcontents'⟩ := c.run_recorded hpath' hadmits hadded s
      rw [hrun]
      refine ⟨hadmits', fun q => ?_⟩
      rw [hcontents']
      by_cases hq : q = place
      · rw [if_pos hq, if_pos hq, hcontents, if_pos rfl]
        simp [hadded, extended]
      · rw [if_neg hq, if_neg hq, hcontents, if_neg hq]

/-- A file that cannot be opened once is never opened, and without a path there is none. -/
theorem after_unrecorded {s : σ} {w : World}
    (h : ∀ p, w.logPath = some p → ∀ place, ¬ w.files.Admits p.toList place)
    (calls : List Call) :
    (∀ p, w.logPath = some p → ∀ place, ¬ (after s w calls).files.Admits p.toList place) ∧
      ∀ q, (after s w calls).files.contentAt q = w.files.contentAt q := by
  induction calls using List.reverseRecOn with
  | nil => exact ⟨h, fun _ => rfl⟩
  | append_singleton calls c ih =>
    obtain ⟨hclosed, hcontents⟩ := ih
    rw [after_concat]
    cases hpath : w.logPath with
    | none =>
      have hpath' := (logPath_after s w calls).trans hpath
      have hfiles := ((c.run_outcome s (after s w calls)).unnamed hpath').2.2
      rw [hfiles]
      exact ⟨fun p hp => (nomatch hp), hcontents⟩
    | some p =>
      have hpath' := (logPath_after s w calls).trans hpath
      obtain ⟨u, x, notes, hrun, hadds, hkept, -⟩ :=
        c.run_unrecorded hpath' (.inl (hclosed p hpath)) s
      rw [hrun]
      refine ⟨fun p' hp' place hadmits => ?_, fun q => (hadds.contents q).trans (hcontents q)⟩
      obtain rfl := Option.some.inj hp'
      exact hclosed p hpath place ((hkept place).mp hadmits)

section Shapes

variable {s : σ} {w : World} {p : String} (hpath : w.logPath = some p)

include hpath

/-- If the file cannot be opened, no file is ever changed. -/
theorem after_closed (h : ∀ place, ¬ w.files.Admits p.toList place) (calls : List Call)
    (q : FilePath) : (after s w calls).files.contentAt q = w.files.contentAt q := by
  refine (after_unrecorded (fun p' hp' => ?_) calls).2 q
  obtain rfl := Option.some.inj (hpath.symm.trans hp')
  exact h

/-- With the path of a directory no file is ever changed. -/
theorem after_directory (h : w.files.isDirectory p.toList = true) (calls : List Call)
    (q : FilePath) : (after s w calls).files.contentAt q = w.files.contentAt q :=
  after_closed hpath (fun _ => not_admits_of_isDirectory h) calls q

/-- With a path that leads through a file no file is ever changed. -/
theorem after_throughFile {a b : List Char} (hp : p.toList = a ++ '/' :: b) (ha : a ≠ [])
    (hfile : w.files.isFile a = true) (hdirectory : w.files.isDirectory a = false)
    (calls : List Call) (q : FilePath) :
    (after s w calls).files.contentAt q = w.files.contentAt q :=
  after_closed hpath (fun _ => hp ▸ not_admits_of_isFile hfile hdirectory ha) calls q

/-- With a path that leads downwards, through directories that may be missing, the file behind its
names gets the records of all calls. If there is a directory or a file on the way, no file is ever
changed. -/
theorem after_plain (hp : IsPlain p.toList) {start place : FilePath}
    (hstart : w.files.startAt p.toList = some start)
    (hplace : place = start ++ downward (pathNames p.toList)) (calls : List Call) (q : FilePath) :
    (w.files.kindAt place ≠ some .directory ∧
        (∀ above, above <+: place → above ≠ place → w.files.contentAt above = none) →
      (after s w calls).files.contentAt q = if q = place then
        extended (w.files.contentAt place) (calls.filterMap Call.record?)
        else w.files.contentAt q) ∧
    (w.files.kindAt place = some .directory ∨
        (∃ above, above <+: place ∧ above ≠ place ∧ w.files.contentAt above ≠ none) →
      (after s w calls).files.contentAt q = w.files.contentAt q) := by
  constructor
  · intro hfree
    exact (after_recorded hpath ((admits_iff_of_plain hp hstart).mpr ⟨hplace, hfree⟩) calls).2 q
  · intro hblocked
    refine after_closed hpath (fun place' hadmits => ?_) calls q
    obtain ⟨rfl, hkind, hfree⟩ := (admits_iff_of_plain hp hstart).mp hadmits
    obtain rfl := hplace
    rcases hblocked with hdirectory | ⟨above, hbegins, hne, hfile⟩
    · exact hkind hdirectory
    · exact hfile (hfree above hbegins hne)

end Shapes

/-- **The timing log loses no line and rewrites none.** Of every call in a sequence of calls it is
told what comes of it in the tree that the calls before it have left; the path is the same for
all of them. If the file of the path can be opened at first, it can be opened at every call, and
in the end it holds what it held at first and behind it one record for each call at a moment with
a text, in the order of the calls. Every other file holds what it held, and so does every file if
there is no path or it cannot be opened. -/
theorem calls_kept (s : σ) (w : World) (calls : List Call) :
    (∀ before c behind, calls = before ++ c :: behind → (after s w before).logPath = w.logPath ∧
      c.Outcome (after s w before) (c.run s (after s w before))) ∧
    (∀ p place, w.logPath = some p → w.files.Admits p.toList place →
      (∀ before, before <+: calls → (after s w before).files.Admits p.toList place) ∧
      ∀ q, (after s w calls).files.contentAt q = if q = place then
        extended (w.files.contentAt place) (calls.filterMap Call.record?)
        else w.files.contentAt q) ∧
    ((∀ p, w.logPath = some p → ∀ place, ¬ w.files.Admits p.toList place) →
      ∀ q, (after s w calls).files.contentAt q = w.files.contentAt q) := by
  refine ⟨fun before c behind _ => ⟨logPath_after s w before, c.run_outcome s _⟩, ?_, ?_⟩
  · intro p place hpath hadmits
    exact ⟨fun before _ => (after_recorded hpath hadmits before).1,
      (after_recorded hpath hadmits calls).2⟩
  · intro h
    exact (after_unrecorded h calls).2

/-! ### A log in a directory that is not there -/

/-- A world in which the environment names a file whose directory is not there. -/
def loggedWorld : World := .still (.ofList [(variableName, "logs/t.log")])

/-- The place of the file. -/
def loggedPlace : FilePath := ["tmp", "work", "logs", "t.log"]

theorem logPath_loggedWorld : loggedWorld.logPath = some "logs/t.log" := by decide +kernel

theorem loggedWorld_admits : loggedWorld.files.Admits "logs/t.log".toList loggedPlace := by
  have htrail : FileTree.empty.Leads [("work", []), ("tmp", [("work", .directory [])])] :=
    ⟨rfl, rfl, trivial⟩
  exact ⟨rfl, FileTree.empty.put ["tmp", "work", "logs"] (.directory []), "",
    adds_put htrail (by decide +kernel), rfl⟩

theorem lines_kept : loggedWorld.logPath = some "logs/t.log" ∧
    loggedWorld.files.Admits "logs/t.log".toList loggedPlace ∧
    (after () loggedWorld [⟨0, "first"⟩, ⟨-1, "second"⟩]).files.contentAt loggedPlace =
      some "1970-01-01T00:00:00Z first\n1969-12-31T23:59:59Z second\n" := by
  obtain ⟨-, hkept, -⟩ := calls_kept () loggedWorld [⟨0, "first"⟩, ⟨-1, "second"⟩]
  have hcontent := (hkept "logs/t.log" loggedPlace logPath_loggedWorld loggedWorld_admits).2 loggedPlace
  refine ⟨logPath_loggedWorld, loggedWorld_admits, hcontent.trans ?_⟩
  rw [if_pos rfl]
  decide +kernel

/-- A line at a moment whose year is too large to be counted. -/
def farCall : Call := ⟨67768036191676799, "line"⟩

/-- The file of the path can be opened, but a line at a moment without a text is neither in the file
nor is there a warning: it ends in an error. -/
theorem far_line_lost : loggedWorld.logPath = some "logs/t.log" ∧
    loggedWorld.files.Admits "logs/t.log".toList loggedPlace ∧
    (farCall.run () loggedWorld).result = .error (.fault .overflow) ∧
    (farCall.run () loggedWorld).events = [farCall.logged] ∧
    (farCall.run () loggedWorld).world.files.contentAt loggedPlace = none := by
  obtain ⟨made, hmade, hadds, -⟩ := makeDirectoryOf_of_admits loggedWorld_admits
  have hcontent : made.contentAt loggedPlace = none :=
    (hadds.contents loggedPlace).trans (by decide +kernel)
  rw [Call.run_eq, append_tooLarge (w := { loggedWorld with epoch := farCall.epoch })
    logPath_loggedWorld hmade rfl]
  exact ⟨logPath_loggedWorld, loggedWorld_admits, rfl, rfl, hcontent⟩

end TimingLog
end TableLoader
