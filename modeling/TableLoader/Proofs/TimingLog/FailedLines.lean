/-
# Lines that fail

A line of the timing log whose failure is an error has found that the path of the file is
none, or that the time has no text, and has made directories at most (`append_error`). If
no `.` stands behind a `..` in the path (`Retraced`), these directories are made once: where
they have been made the next line meets what it would have met without them
(`Leaves.again`).

Key definitions: `TimingLog.Leaves`.
Key theorems: `write_error`, `append_error`, `Leaves.again`.
-/
import TableLoader.Proofs.FileTree.MadeAgain
import TableLoader.Proofs.TimingLog

namespace TableLoader
namespace TimingLog

open FileTree

variable {σ : Type} {files files' : FileTree}

/-- What an error leaves of the files if the timing log has this path: they are as they were, or
the directories of the path have been made, which have not failed but because the path is none. -/
inductive Leaves (path : Option String) (files : FileTree) : FileTree → Prop where
  | kept : Leaves path files files
  | made (p : String) : path = some p →
      (∀ f, (makeDirectoryOf files p.toList).2 = some f → f.fault = .invalid) →
      Leaves path files (makeDirectoryOf files p.toList).1

/-- A line that cannot be written because of an error leaves the directories of its file. -/
theorem write_error {epoch : Int} {p : List Char} {line : String} {f : Failure} {e : Error}
    (hwrite : write files epoch p line = (files', some f)) (he : f.error? = some e) :
    files' = (makeDirectoryOf files p).1 ∧
      ∀ g, (makeDirectoryOf files p).2 = some g → g.fault = .invalid := by
  unfold write at hwrite
  rcases hmade : makeDirectoryOf files p with ⟨made, failure⟩
  rw [hmade] at hwrite
  cases failure with
  | some g =>
    obtain ⟨rfl, hf⟩ := Prod.mk.inj hwrite
    obtain rfl := Option.some.inj hf
    rcases Failure.error?_eq_some he with ⟨g', hg', hinvalid, -⟩ | ⟨hmoment, -⟩
    · cases hg'
      refine ⟨rfl, fun h hsome => ?_⟩
      obtain rfl := Option.some.inj hsome
      exact hinvalid
    · cases hmoment
  | none =>
    dsimp only at hwrite
    cases happend : appendLine made epoch p line with
    | ok u =>
      rw [happend] at hwrite
      cases (Prod.mk.inj hwrite).2
    | error f' =>
      rw [happend] at hwrite
      exact ⟨(Prod.mk.inj hwrite).1.symm, fun g hnone => nomatch hnone⟩

/-- A line that ends in an error leaves the directories of its file. -/
theorem append_error {line : String} {s : σ} {w : World} {e : Error}
    (h : (append line s w).result = .error e) :
    Leaves w.logPath w.files (append line s w).world.files := by
  cases hpath : w.logPath with
  | none =>
    rw [append_noFile hpath] at h
    cases h
  | some p =>
    rcases hwrite : write w.files w.epoch p.toList line with ⟨files, failure⟩
    have hrun := append_file hpath hwrite s
    rw [hrun] at h ⊢
    cases failure with
    | none => cases h
    | some f =>
      cases he : f.error? with
      | none =>
        rw [Option.elim_some, settle_noted he] at h
        cases h
      | some e' =>
        obtain ⟨hfiles, hinvalid⟩ := write_error hwrite he
        rw [Option.elim_some, settle_error he]
        exact hfiles ▸ .made p rfl hinvalid

/-- A line that cannot be written for another reason is followed by a warning that says it. -/
theorem append_noted {line p : String} {s : σ} {w : World} {f : Failure}
    (hpath : w.logPath = some p) (hwrite : write w.files w.epoch p.toList line = (files, some f))
    (hf : f.error? = none) : (append line s w).events = [.log .info logger line,
      .log .warning logger ("batch log write failed: " ++ f.message)] := by
  rw [append_file hpath hwrite, Option.elim_some, settle_noted hf]
  rfl

/-- Directories that an error has left are not made again. -/
theorem makeDirectoryOf_again {p : List Char} (hp : Retraced (directoryOf p))
    (hinvalid : ∀ f, (makeDirectoryOf files p).2 = some f → f.fault = .invalid) :
    makeDirectoryOf (makeDirectoryOf files p).1 p = makeDirectoryOf files p := by
  unfold makeDirectoryOf at hinvalid ⊢
  split
  · rfl
  · next hne =>
    rw [if_neg hne] at hinvalid
    exact makeDirectories_again hp rfl hinvalid

/-- With the files that an error has left the directories of the path are made as they would have
been without it. -/
theorem Leaves.again {p : String} (h : Leaves (some p) files files')
    (hp : Retraced (directoryOf p.toList)) :
    makeDirectoryOf files' p.toList = makeDirectoryOf files p.toList := by
  cases h with
  | kept => rfl
  | made q hq hinvalid =>
    obtain rfl := Option.some.inj hq
    exact makeDirectoryOf_again hp hinvalid

end TimingLog
end TableLoader
