/-
# Directories that are made

Making directories changes no file (`AddsDirectories`): where there was nothing there may
be a directory, and that is all. It also does no more than it has to. If a path could lead
to a directory in some tree with more directories, then making the directories of the path
succeeds, and all of them are in that tree (`makeDirectories_reaches`).

So a file can be opened after its directories have been made exactly if there is a way to
open it by adding directories to the tree (`Admits`). Nothing that stands in its way can
be removed, and nothing but directories is ever missing.

Key definitions: `FileTree.AddsDirectories`, `FileTree.Admits`.
Key theorems: `makeDirectories_adds`, `makeDirectories_reaches`, `makeDirectories_homeless`,
`mem_of_makeDirectories_invalid`.
-/
import TableLoader.Proofs.FileTree.Places

namespace TableLoader
namespace FileTree

variable {t u v : FileTree}

/-- The second tree has the files of the first one, and its directories and perhaps more. -/
structure AddsDirectories (t u : FileTree) : Prop where
  workingDirectory : u.workingDirectory = t.workingDirectory
  directories : ∀ q, t.kindAt q = some .directory → u.kindAt q = some .directory
  contents : ∀ q, u.contentAt q = t.contentAt q

theorem AddsDirectories.refl (t : FileTree) : t.AddsDirectories t :=
  ⟨rfl, fun _ h => h, fun _ => rfl⟩

theorem AddsDirectories.trans (h : t.AddsDirectories u) (h' : u.AddsDirectories v) :
    t.AddsDirectories v where
  workingDirectory := h'.workingDirectory.trans h.workingDirectory
  directories q hq := h'.directories q (h.directories q hq)
  contents q := (h'.contents q).trans (h.contents q)

theorem LeadsTo.of_adds {p : List Char} {names : List String} {place : FilePath}
    (h : t.LeadsTo p names place) (hadds : t.AddsDirectories u) : u.LeadsTo p names place :=
  h.mono hadds.workingDirectory hadds.directories

theorem InFolder.of_adds {p : List Char} {folder : FilePath} (h : t.InFolder p folder)
    (hadds : t.AddsDirectories u) : u.InFolder p folder := LeadsTo.of_adds h hadds

section New

variable {trail : Trail} {name : String}

/-- Where nothing stood there is a directory now, and nothing else is new. -/
theorem kindAt_put_directory (htrail : t.Leads trail) (hfree : t.kindAt (pathTo trail name) = none)
    (q : FilePath) : (t.put (pathTo trail name) (.directory [])).kindAt q =
      if q = pathTo trail name then some .directory else t.kindAt q := by
  have hbare : (FileEntry.directory []).IsBare := rfl
  have hplace : t.kindAt (pathTo trail name) ≠ some .directory := by simp [hfree]
  exact kindAt_put htrail hbare hplace q

theorem adds_put (htrail : t.Leads trail) (hfree : t.kindAt (pathTo trail name) = none) :
    t.AddsDirectories (t.put (pathTo trail name) (.directory [])) where
  workingDirectory := rfl
  directories q hq := by
    rw [kindAt_put_directory htrail hfree, hq, ite_self]
  contents q := by
    unfold contentAt
    rw [kindAt_put_directory htrail hfree]
    by_cases hself : q = pathTo trail name
    · rw [if_pos hself, hself, hfree]
      rfl
    · rw [if_neg hself]

/-- The new directory is in every tree with more directories that has one at its place. -/
theorem adds_of_put (htrail : t.Leads trail) (hfree : t.kindAt (pathTo trail name) = none)
    (hadds : t.AddsDirectories u) (hthere : u.kindAt (pathTo trail name) = some .directory) :
    (t.put (pathTo trail name) (.directory [])).AddsDirectories u where
  workingDirectory := hadds.workingDirectory
  directories q hq := by
    rw [kindAt_put_directory htrail hfree] at hq
    by_cases hself : q = pathTo trail name
    · rw [hself, hthere]
    · rw [if_neg hself] at hq
      exact hadds.directories q hq
  contents q := (hadds.contents q).trans ((adds_put htrail hfree).contents q).symm

end New

/-! ### No file is changed -/

theorem exists_inFolder_of_makeDirectory {p : List Char} (h : t.makeDirectory p = .ok u) :
    ∃ folder, t.InFolder p folder := by
  cases hplace : t.place p with
  | error e =>
    rw [makeDirectory_unplaced hplace] at h
    cases h
  | ok found => exact exists_inFolder hplace

theorem makeDirectory_adds {p : List Char} (h : t.makeDirectory p = .ok u) :
    t.AddsDirectories u := by
  obtain ⟨folder, hfolder⟩ := exists_inFolder_of_makeDirectory h
  obtain ⟨trail, htrail, rfl, hrun⟩ := makeDirectory_run hfolder
  rw [hrun] at h
  split at h
  · cases h
  · split at h
    · cases h
    · split at h
      · cases h
      · next hfree =>
        obtain rfl := Except.ok.inj h
        exact adds_put htrail (Option.not_isSome_iff_eq_none.mp hfree)

theorem settleDirectory_adds (settled : Bool) (p : List Char) :
    t.AddsDirectories (t.settleDirectory settled p).1 := by
  unfold settleDirectory
  cases hmade : t.makeDirectory p with
  | ok u => exact makeDirectory_adds hmade
  | error fault =>
    dsimp only
    split
    · exact .refl t
    · exact .refl t

/-- Directories on the way to a path are made without a change of any file. -/
theorem makeDirectories_adds (settled : Bool) (p : List Char) :
    t.AddsDirectories (t.makeDirectories settled p).1 := by
  induction hlength : p.length using Nat.strongRecOn generalizing p with
  | _ n ih =>
    unfold makeDirectories
    dsimp only
    split
    · next hfront =>
      have hbefore : t.AddsDirectories (t.makeDirectories settled (splitLast p).1).1 :=
        ih _ (hlength ▸ splitLast_length hfront.2.1) _ rfl
      have hlast : t.AddsDirectories
          (if (splitLast p).2 = ['.'] then ((t.makeDirectories settled (splitLast p).1).1, none)
            else (t.makeDirectories settled (splitLast p).1).1.settleDirectory settled p).1 := by
        split
        · exact hbefore
        · exact hbefore.trans (settleDirectory_adds settled p)
      split
      · split
        · exact hlast
        · exact hbefore
      · exact hlast
    · exact settleDirectory_adds settled p

/-! ### No directory is made without need -/

/-- A directory can be made where there is one in a tree with more directories. -/
theorem settleDirectory_reaches {p : List Char} {folder : FilePath} (hfolder : t.InFolder p folder)
    (hadds : t.AddsDirectories u) (hthere : u.isDirectory p = true) :
    ∃ made, t.settleDirectory true p = (made, none) ∧ t.AddsDirectories made ∧
      made.AddsDirectories u ∧ made.isDirectory p = true := by
  have hu := (hfolder.of_adds hadds).isDirectory_iff.mp hthere
  obtain ⟨trail, htrail, rfl, hrun⟩ := makeDirectory_run hfolder
  -- a directory that is there already is found again
  have hfound : t.makeDirectory p = .error .occupied → t.isDirectory p = true →
      ∃ made, t.settleDirectory true p = (made, none) ∧ t.AddsDirectories made ∧
        made.AddsDirectories u ∧ made.isDirectory p = true := fun herror hdirectory => by
    refine ⟨t, ?_, .refl t, hadds, hdirectory⟩
    simp [settleDirectory, herror, hdirectory]
  cases hstep : isStep (entryName p) with
  | true =>
    rw [if_pos hstep] at hrun
    exact hfound hrun (hfolder.isDirectory_iff.mpr (exists_follow_step hstep _))
  | false =>
    obtain ⟨hshort, hkind⟩ := (exists_follow_iff hstep).mp hu
    rw [hstep, if_neg Bool.false_ne_true, hshort, if_neg Bool.false_ne_true] at hrun
    cases hentry : t.kindAt (placeOf trail ++ [entryName p]) with
    | none =>
      rw [hentry] at hrun
      have hmade := adds_put htrail hentry
      refine ⟨_, ?_, hmade, adds_of_put htrail hentry hadds hkind, ?_⟩
      · rw [settleDirectory, hrun]
        rfl
      · refine (hfolder.of_adds hmade).isDirectory_iff.mpr
          ((exists_follow_iff hstep).mpr ⟨hshort, ?_⟩)
        exact (kindAt_put_directory htrail hentry _).trans (if_pos rfl)
    | some kind =>
      rw [hentry] at hrun
      cases kind with
      | directory =>
        exact hfound hrun (hfolder.isDirectory_iff.mpr ((exists_follow_iff hstep).mpr
          ⟨hshort, hentry⟩))
      | file c =>
        have hfile := hadds.contents (placeOf trail ++ [entryName p])
        rw [contentAt_eq_some_iff.mpr hentry, contentAt_eq_some_iff, hkind] at hfile
        cases hfile

theorem front_begins (p : List Char) : (splitPath (withoutTail p)).1 <+: p :=
  (splitPath_begins _).trans (withoutTail_begins p)

/-- The front of a directory is a directory. -/
theorem InFolder.isDirectory_front {p : List Char} {folder : FilePath} (h : t.InFolder p folder)
    (hne : (splitPath (withoutTail p)).1 ≠ []) :
    t.isDirectory (splitPath (withoutTail p)).1 = true :=
  FileTree.isDirectory_iff.mpr ⟨folder, h.of_begins (front_begins p) hne⟩

/-- A path whose front is a directory has a place in it. -/
theorem inFolder_of_front {p : List Char} (husable : usable p = .ok ())
    (hne : (splitPath (withoutTail p)).1 ≠ [])
    (h : t.isDirectory (splitPath (withoutTail p)).1 = true) : ∃ folder, t.InFolder p folder := by
  obtain ⟨folder, -, start, hstart, hfollow⟩ := isDirectory_iff.mp h
  exact ⟨folder, husable, start, (startAt_of_begins (front_begins p) hne).symm.trans hstart, hfollow⟩

/-- A path without a front has its place where it leads from. -/
theorem inFolder_of_no_front {p : List Char} (husable : usable p = .ok ())
    (hempty : (splitPath (withoutTail p)).1 = []) {start : FilePath}
    (hstart : t.startAt p = some start) : t.InFolder p start := by
  refine ⟨husable, start, hstart, ?_⟩
  rw [hempty]
  exact follow_empties start [] 1

/-- A file stands in the directory to which the other names of its path lead. -/
theorem exists_of_isFile {p : List Char} (h : t.isFile p = true) : ∃ folder c,
    t.LeadsTo p (pathNames p).dropLast folder ∧
      t.kindAt (folder ++ [String.ofList (splitPath p).2]) = some (.file c) := by
  unfold isFile at h
  rw [getLast?_pathNames, Option.getD_some] at h
  cases hreach : t.reach p (pathNames p).dropLast with
  | error e => simp [hreach] at h
  | ok trail =>
    simp only [hreach] at h
    have hentry := (reach_leads hreach).entryAt_pathTo (String.ofList (splitPath p).2)
    split at h
    · next c hfile =>
      refine ⟨placeOf trail, c, leadsTo_iff.mpr ⟨trail, hreach, rfl⟩, ?_⟩
      rw [hfile] at hentry
      exact congrArg (Option.map FileEntry.kind) hentry
    · cases h

theorem hasPath_of_isDirectory (h : t.isDirectory p = true) : t.hasPath p = true := by
  rw [hasPath, h, Bool.true_or]

theorem hasPath_of_isFile (h : t.isFile p = true) : t.hasPath p = true := by
  rw [hasPath, h, Bool.or_true]

/-- What is there and can lead to a directory is one: a file would still be there. -/
theorem isDirectory_of_hasPath {p : List Char} (hadds : t.AddsDirectories u)
    (hthere : u.isDirectory p = true) (h : t.hasPath p = true) : t.isDirectory p = true := by
  rcases Bool.or_eq_true_iff.mp h with hdirectory | hfile
  · exact hdirectory
  obtain ⟨folder, c, hfolder, hkind⟩ := exists_of_isFile hfile
  have hnames : pathNames p = (pathNames p).dropLast ++ [String.ofList (splitPath p).2] :=
    (List.dropLast_append_getLast? _ (getLast?_pathNames p)).symm
  cases hstep : isStep (String.ofList (splitPath p).2) with
  | true =>
    obtain ⟨target, hfollow⟩ := exists_follow_step (t := t) hstep folder
    obtain ⟨husable, start, hstart, hfront⟩ := hfolder
    refine isDirectory_iff.mpr ⟨target, husable, start, hstart, ?_⟩
    rw [hnames, follow_append, hfront]
    exact hfollow
  | false =>
    obtain ⟨target, -, start, hstart, hfollow⟩ := isDirectory_iff.mp hthere
    obtain ⟨-, start', hstart', hfront⟩ := hfolder.of_adds hadds
    obtain rfl := Option.some.inj (hstart'.symm.trans hstart)
    rw [hnames, follow_append, hfront] at hfollow
    obtain ⟨-, hdirectory⟩ := (exists_follow_iff hstep).mp ⟨target, hfollow⟩
    have hcontent := hadds.contents (folder ++ [String.ofList (splitPath p).2])
    rw [contentAt_eq_some_iff.mpr hkind, contentAt_eq_some_iff, hdirectory] at hcontent
    cases hcontent

/-- Making the directories of a path succeeds if the path leads to a directory in some tree with
more directories, and makes no directory that is not in that tree. -/
theorem makeDirectories_reaches {p : List Char} (hadds : t.AddsDirectories u)
    (hthere : u.isDirectory p = true) {start : FilePath} (hstart : t.startAt p = some start) :
    ∃ made, t.makeDirectories true p = (made, none) ∧ t.AddsDirectories made ∧
      made.AddsDirectories u ∧ made.isDirectory p = true := by
  induction hlength : p.length using Nat.strongRecOn generalizing p with
  | _ n ih =>
    obtain ⟨folder, hfolder⟩ := inFolder_of_isDirectory hthere
    unfold makeDirectories
    dsimp only
    split
    · next hmissing =>
      obtain ⟨hfront, hname, -⟩ := hmissing
      have hw := withoutTail_ne_nil hname
      have hsplit := splitLast_eq hw
      have hstart' : t.startAt (splitLast p).1 = some start :=
        (startAt_of_begins (splitLast_begins p) hfront).trans hstart
      rw [hsplit] at hfront
      have hbefore : u.isDirectory (splitLast p).1 = true := hsplit ▸ hfolder.isDirectory_front hfront
      obtain ⟨made, hrun, hmade, hneeded, hdirectory⟩ :=
        ih _ (hlength ▸ splitLast_length hname) hbefore hstart' rfl
      rw [hsplit] at hdirectory
      obtain ⟨folder', hfolder'⟩ := inFolder_of_front hfolder.1 hfront hdirectory
      rw [hrun]
      dsimp only
      by_cases hdot : (splitLast p).2 = ['.']
      · have hentry : isStep (entryName p) = true := by
          rw [entryName, ← hsplit, hdot]
          rfl
        rw [if_pos hdot]
        exact ⟨made, rfl, hmade, hneeded,
          hfolder'.isDirectory_iff.mpr (exists_follow_step hentry folder')⟩
      · rw [if_neg hdot]
        obtain ⟨made', hrun', hmade', hneeded', hthere'⟩ :=
          settleDirectory_reaches hfolder' hneeded hthere
        exact ⟨made', hrun', hmade.trans hmade', hneeded', hthere'⟩
    · next hready =>
      have hplace : ∃ folder, t.InFolder p folder := by
        by_cases hfront : (splitPath (withoutTail p)).1 = []
        · exact ⟨start, inFolder_of_no_front hfolder.1 hfront hstart⟩
        · have hw : withoutTail p ≠ [] := by
            intro hslashes
            rw [hslashes] at hfront
            exact hfront rfl
          have hsplit := splitLast_eq hw
          have hname := splitLast_ne_nil hw
          have hbefore := hfolder.isDirectory_front hfront
          rw [← hsplit] at hfront hbefore
          have hpath : t.hasPath (splitLast p).1 = true := by
            by_contra hmissing
            exact hready ⟨hfront, hname, by simpa using hmissing⟩
          have hdirectory := isDirectory_of_hasPath hadds hbefore hpath
          rw [hsplit] at hfront hdirectory
          exact inFolder_of_front hfolder.1 hfront hdirectory
      obtain ⟨folder', hfolder'⟩ := hplace
      exact settleDirectory_reaches hfolder' hadds hthere

/-! ### Faults -/

theorem walk_fault {trail : Trail} {names : List String} {fault : PathFault}
    (h : t.walk trail names = .error fault) : fault ≠ .occupied ∧ fault ≠ .invalid := by
  induction names generalizing trail with
  | nil => cases h
  | cons name names ih =>
    unfold walk at h
    split at h
    · exact ih h
    · split at h
      · exact ih h
      · split at h
        · obtain rfl := Except.error.inj h
          simp
        · split at h
          · obtain rfl := Except.error.inj h
            simp
          · obtain rfl := Except.error.inj h
            simp
          · exact ih h

/-- A path that cannot be looked up has one of the faults of paths, and is no path at all only if
the mark that ends a path stands in it. -/
theorem reach_fault {p : List Char} {names : List String} {fault : PathFault}
    (h : t.reach p names = .error fault) :
    fault ≠ .occupied ∧ (fault = .invalid → pathEnd ∈ p) := by
  have hwalk : ∀ trail names, t.walk trail names = .error fault →
      fault ≠ .occupied ∧ (fault = .invalid → pathEnd ∈ p) := fun _ _ hwalk =>
    ⟨(walk_fault hwalk).1, fun hinvalid => absurd hinvalid (walk_fault hwalk).2⟩
  cases husable : usable p with
  | error e =>
    have he : e = fault := by simpa [reach, husable, bind, Except.bind] using h
    rw [he] at husable
    refine ⟨fun hoccupied => ?_, fun hinvalid => mem_of_usable_invalid (hinvalid ▸ husable)⟩
    rw [hoccupied] at husable
    unfold usable at husable
    split at husable
    · cases husable
    · split at husable
      · cases husable
      · split at husable <;> cases husable
  | ok =>
    cases hstart : t.startOf p with
    | error e =>
      have he : e = fault := by simpa [reach, husable, hstart, bind, Except.bind] using h
      rw [he] at hstart
      unfold startOf at hstart
      split at hstart
      · cases hstart
      · exact hwalk [] t.workingDirectory hstart
    | ok start =>
      exact hwalk start names (by simpa [reach, husable, hstart, bind, Except.bind] using h)

theorem place_fault {p : List Char} {fault : PathFault} (h : t.place p = .error fault) :
    fault ≠ .occupied ∧ (fault = .invalid → pathEnd ∈ p) := by
  cases hreach : t.reach p (pathNames (withoutTail p)).dropLast with
  | error e =>
    have he : e = fault := by simpa [place, hreach, bind, Except.bind] using h
    exact reach_fault (he ▸ hreach)
  | ok trail => simp [place, hreach, bind, Except.bind, pure, Except.pure] at h

theorem mem_of_makeDirectory_invalid {p : List Char} (h : t.makeDirectory p = .error .invalid) :
    pathEnd ∈ p := by
  cases hplace : t.place p with
  | error e =>
    exact (place_fault hplace).2 (Except.error.inj ((makeDirectory_unplaced hplace).symm.trans h))
  | ok found =>
    obtain ⟨folder, hfolder⟩ := exists_inFolder hplace
    obtain ⟨trail, -, -, hrun⟩ := makeDirectory_run hfolder
    rw [hrun] at h
    split at h
    · cases h
    · split at h
      · cases h
      · split at h <;> cases h

theorem mem_of_fileAt_invalid {p : List Char} (h : t.fileAt p = .error .invalid) :
    pathEnd ∈ p := by
  cases hplace : t.place p with
  | error e =>
    exact (place_fault hplace).2 (Except.error.inj ((fileAt_unplaced hplace).symm.trans h))
  | ok found =>
    obtain ⟨folder, hfolder⟩ := exists_inFolder hplace
    rw [fileAt_run hfolder] at h
    split at h
    · cases h
    · split at h
      · cases h
      · split at h <;> cases h

theorem mem_of_settleDirectory_invalid {settled : Bool} {p : List Char} {f : PathFailure}
    (h : (t.settleDirectory settled p).2 = some f) (hinvalid : f.fault = .invalid) :
    pathEnd ∈ p := by
  unfold settleDirectory at h
  cases hmade : t.makeDirectory p with
  | ok u => simp [hmade] at h
  | error fault =>
    rw [hmade] at h
    dsimp only at h
    split at h
    · cases h
    · obtain rfl := Option.some.inj h
      obtain rfl : fault = .invalid := hinvalid
      exact mem_of_makeDirectory_invalid hmade

/-- Directories of a path that is one are not refused as no path. -/
theorem mem_of_makeDirectories_invalid {settled : Bool} {p : List Char} {f : PathFailure}
    (h : (t.makeDirectories settled p).2 = some f) (hinvalid : f.fault = .invalid) :
    pathEnd ∈ p := by
  induction hlength : p.length using Nat.strongRecOn generalizing p with
  | _ n ih =>
    unfold makeDirectories at h
    dsimp only at h
    split at h
    · next hmissing =>
      have hlast : ∀ {u : FileTree}, (if (splitLast p).2 = ['.'] then (u, none)
          else u.settleDirectory settled p).2 = some f → pathEnd ∈ p := fun h => by
        split at h
        · cases h
        · exact mem_of_settleDirectory_invalid h hinvalid
      split at h
      · next f' hbefore =>
        split at h
        · exact hlast h
        · obtain rfl := Option.some.inj h
          have hmem := ih _ (hlength ▸ splitLast_length hmissing.2.1) hbefore rfl
          exact (splitLast_begins p).subset hmem
      · exact hlast h
    · exact mem_of_settleDirectory_invalid h hinvalid

/-- From a working directory that is not there no directory is made. -/
theorem makeDirectories_homeless (settled : Bool) {p : List Char} (h : t.startAt p = none) :
    ∃ f, t.makeDirectories settled p = (t, some f) ∧ f.fault ≠ .occupied := by
  induction hlength : p.length using Nat.strongRecOn generalizing p with
  | _ n ih =>
    have hsettle : ∃ f, t.settleDirectory settled p = (t, some f) ∧ f.fault ≠ .occupied := by
      have hnowhere : ¬ t.isDirectory p = true := fun hdirectory => by
        obtain ⟨place, -, start, hstart, -⟩ := isDirectory_iff.mp hdirectory
        rw [h] at hstart
        cases hstart
      cases hplace : t.place p with
      | error fault =>
        refine ⟨⟨fault, p⟩, ?_, (place_fault hplace).1⟩
        simp [settleDirectory, makeDirectory_unplaced hplace, hnowhere]
      | ok found =>
        obtain ⟨folder, -, start, hstart, -⟩ := exists_inFolder hplace
        rw [h] at hstart
        cases hstart
    unfold makeDirectories
    dsimp only
    split
    · next hmissing =>
      have hstart : t.startAt (splitLast p).1 = none :=
        (startAt_of_begins (splitLast_begins p) hmissing.1).trans h
      obtain ⟨f, hrun, hfault⟩ := ih _ (hlength ▸ splitLast_length hmissing.2.1) hstart rfl
      rw [hrun]
      exact ⟨f, if_neg hfault, hfault⟩
    · exact hsettle

/-! ### Files that can be opened -/

/-- With some more directories the path would name a file at the place, and the directory from
which it leads is there. -/
def Admits (t : FileTree) (p : List Char) (place : FilePath) : Prop :=
  (t.startAt p).isSome ∧ ∃ u content, t.AddsDirectories u ∧ u.fileAt p = .ok (place, content)

theorem admits_of_fileAt {p : List Char} {place : FilePath} {content : String}
    (h : t.fileAt p = .ok (place, content)) : t.Admits p place := by
  obtain ⟨folder, ⟨-, start, hstart, -⟩, -⟩ := fileAt_eq_ok_iff.mp h
  exact ⟨by rw [hstart]; rfl, t, content, .refl t, h⟩

/-- What names a file in a tree with more directories names it as soon as its directory is there. -/
theorem fileAt_of_adds {p : List Char} {place folder : FilePath} {content : String}
    (hfolder : t.InFolder p folder) (hadds : t.AddsDirectories u)
    (h : u.fileAt p = .ok (place, content)) :
    t.fileAt p = .ok (place, (t.contentAt place).getD "") := by
  obtain ⟨folder', hfolder', hstep, hslash, hlong, hplace, hkind, -⟩ := fileAt_eq_ok_iff.mp h
  obtain rfl := (hfolder.of_adds hadds).unique hfolder'
  exact fileAt_eq_ok_iff.mpr ⟨folder, hfolder, hstep, hslash, hlong, hplace,
    fun hdirectory => hkind (hadds.directories place hdirectory), rfl⟩

end FileTree
end TableLoader
