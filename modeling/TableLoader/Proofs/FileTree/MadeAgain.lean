/-
# Directories that are made again

What making the directories of a path has done once it does not do again: where it has
succeeded the path leads to a directory (`Makes.isDirectory`) and nothing is left to be
made, and where it has found that the path is none it finds the same again
(`Makes.invalid_again`).

There is one exception. A name `.` stands for the directory in front of it and is passed over
without a look at it. If a name `..` stands before, the path may lead over a directory that
is missing the first time and back to a file, which is found the second time only
(`dotted_fails_again`). So no `.` may stand behind a `..` (`Retraced`).

Key definitions: `FileTree.FrontMissing`, `FileTree.Makes`, `Retraced`.
Key theorems: `makes_iff`, `isFile_of_adds`, `Makes.isFile`, `Makes.isDirectory`,
`makeDirectories_again`.
-/
import TableLoader.Proofs.FileTree.Openable

namespace TableLoader

open FileTree

/-! ### Fronts of paths -/

/-- All that stands in a path, but for slashes, stands in its front or in its last name. -/
theorem mem_splitPath {c : Char} {p : List Char} (hc : c ≠ '/') (h : c ∈ p) :
    c ∈ (splitPath p).1 ∨ c ∈ (splitPath p).2 := by
  obtain ⟨before, hp, -, -, hfront⟩ := splitPath_cases p
  rw [hp] at h
  refine (List.mem_append.mp h).imp (fun hbefore => ?_) id
  rw [hfront]
  split
  · exact hbefore
  · obtain ⟨k, hslashes⟩ := exists_slashes before
    rw [hslashes] at hbefore
    refine (List.mem_append.mp hbefore).resolve_right fun hslash => hc ?_
    exact (List.mem_replicate.mp hslash).2

/-- The front of a path ends in a slash only if it has nothing else. -/
theorem withoutTail_front (p : List Char) :
    withoutTail (splitPath p).1 = [] ∨ withoutTail (splitPath p).1 = (splitPath p).1 := by
  obtain ⟨before, -, -, -, hfront⟩ := splitPath_cases p
  rw [hfront]
  split
  · next h => exact .inl h
  · exact .inr (List.rdropWhile_idempotent _ _)

/-- The names of a path without the empty ones, which lead nowhere else. -/
def properNames (p : List Char) : List String := (pathNames p).filter (· ≠ "")

theorem properNames_withoutTail (p : List Char) :
    properNames (withoutTail p) = properNames p := by
  obtain ⟨k, h⟩ := pathNames_withoutTail p
  unfold properNames
  rw [h, List.filter_append, List.filter_replicate_of_neg (by simp), List.append_nil]

theorem properNames_front (p : List Char) :
    properNames (splitPath p).1 = (pathNames p).dropLast.filter (· ≠ "") := by
  obtain ⟨k, l, h⟩ := pathNames_front p
  have hfiltered := congrArg (List.filter (· ≠ "")) h
  rw [List.filter_append, List.filter_append, List.filter_replicate_of_neg (by simp),
    List.filter_replicate_of_neg (by simp), List.append_nil, List.append_nil] at hfiltered
  exact hfiltered.symm

theorem sublist_properNames_iff {p : List Char} :
    ["..", "."].Sublist (properNames p) ↔ ["..", "."].Sublist (pathNames p) :=
  ⟨fun h => h.trans List.filter_sublist, fun h => h.filter (· ≠ "")⟩

/-- A path that leads the same way the second time: no name `.` stands behind a name `..`, and the
path is not too long. -/
structure Retraced (p : List Char) : Prop where
  names : ¬ ["..", "."].Sublist (pathNames p)
  length : (String.ofList p).utf8ByteSize ≤ pathLimit

section Fronts

variable {p : List Char} (h : Retraced p) (hname : (splitLast p).2 ≠ [])

include h hname

theorem Retraced.front : Retraced (splitLast p).1 where
  names hbehind := by
    have hw := withoutTail_ne_nil hname
    have hproper := sublist_properNames_iff.mpr hbehind
    rw [splitLast_eq hw, properNames_front] at hproper
    have hwhole : ["..", "."].Sublist (properNames (withoutTail p)) :=
      hproper.trans ((List.dropLast_sublist _).filter _)
    rw [properNames_withoutTail, sublist_properNames_iff] at hwhole
    exact h.names hwhole
  length := by
    obtain ⟨b, hp⟩ := splitLast_begins p
    have hlength := h.length
    rw [← hp, String.ofList_append, String.utf8ByteSize_append] at hlength
    omega

/-- No name in front of a `.` leads upwards. -/
theorem Retraced.downward_front (hdot : (splitLast p).2 = ['.']) :
    ".." ∉ pathNames (splitLast p).1 := by
  intro hup
  have hw := withoutTail_ne_nil hname
  rw [splitLast_eq hw] at hup hdot
  have hfront : ".." ∈ properNames (splitPath (withoutTail p)).1 :=
    List.mem_filter.mpr ⟨hup, by simp⟩
  rw [properNames_front] at hfront
  have hlast : (pathNames (withoutTail p)).getLast? = some "." := by
    rw [getLast?_pathNames, hdot]
  have hbehind : ["..", "."].Sublist (pathNames (withoutTail p)) := by
    rw [← List.dropLast_append_getLast? _ hlast]
    exact (List.singleton_sublist.mpr (List.mem_of_mem_filter hfront)).append (.refl ["."])
  rw [← sublist_properNames_iff, properNames_withoutTail, sublist_properNames_iff] at hbehind
  exact h.names hbehind

end Fronts

namespace FileTree

variable {t u made : FileTree} {p : List Char} {r : Option PathFailure}

/-! ### Single directories -/

/-- What stands at a place stands in a directory. -/
theorem kindAt_folder {folder : FilePath} {name : String} {kind : EntryKind}
    (h : t.kindAt (folder ++ [name]) = some kind) : t.kindAt folder = some .directory := by
  unfold kindAt at h ⊢
  rw [entryAt_concat] at h
  cases hentry : t.entryAt folder with
  | none => simp [hentry] at h
  | some entry =>
    cases entry with
    | file c => simp [hentry, FileEntry.at?] at h
    | directory => rfl

theorem makeDirectory_of_isDirectory (h : t.isDirectory p = true) :
    t.makeDirectory p = .error .occupied := by
  obtain ⟨folder, hfolder⟩ := inFolder_of_isDirectory h
  obtain ⟨trail, -, rfl, hrun⟩ := makeDirectory_run hfolder
  cases hstep : isStep (entryName p) with
  | true => rw [hrun, if_pos hstep]
  | false =>
    obtain ⟨hshort, hkind⟩ := (exists_follow_iff hstep).mp (hfolder.isDirectory_iff.mp h)
    rw [hrun, hstep, hshort, hkind]
    rfl

theorem settleDirectory_of_isDirectory (h : t.isDirectory p = true) :
    t.settleDirectory true p = (t, none) := by
  simp [settleDirectory, makeDirectory_of_isDirectory h, h]

/-- A directory that has been made is there. -/
theorem isDirectory_of_makeDirectory (h : t.makeDirectory p = .ok made) :
    made.isDirectory p = true := by
  obtain ⟨folder, hfolder⟩ := exists_inFolder_of_makeDirectory h
  obtain ⟨trail, htrail, rfl, hrun⟩ := makeDirectory_run hfolder
  rw [hrun] at h
  split at h
  · cases h
  · next hstep =>
    split at h
    · cases h
    · next hshort =>
      split at h
      · cases h
      · next hfree =>
        obtain rfl := Except.ok.inj h
        have hkind := Option.not_isSome_iff_eq_none.mp hfree
        refine (hfolder.of_adds (adds_put htrail hkind)).isDirectory_iff.mpr
          ((exists_follow_iff (by simpa using hstep)).mpr ⟨by simpa using hshort, ?_⟩)
        exact (kindAt_put_directory htrail hkind _).trans (if_pos rfl)

/-- A directory that cannot be made because something is there already is one, or there is a file at
its place. -/
theorem exists_file_of_occupied (h : t.makeDirectory p = .error .occupied)
    (hdirectory : t.isDirectory p = false) : ∃ folder c, t.InFolder p folder ∧
      isStep (entryName p) = false ∧ t.kindAt (folder ++ [entryName p]) = some (.file c) := by
  have hfolder : ∃ folder, t.InFolder p folder := by
    cases hplace : t.place p with
    | error fault =>
      have hfault := Except.error.inj ((makeDirectory_unplaced hplace).symm.trans h)
      exact absurd hfault (place_fault hplace).1
    | ok found => exact exists_inFolder hplace
  obtain ⟨folder, hfolder⟩ := hfolder
  have hnone : ¬ ∃ target, t.follow folder [entryName p] = some target := fun hthere => by
    rw [hfolder.isDirectory_iff.mpr hthere] at hdirectory
    cases hdirectory
  obtain ⟨trail, -, rfl, hrun⟩ := makeDirectory_run hfolder
  cases hstep : isStep (entryName p) with
  | true => exact absurd (exists_follow_step hstep _) hnone
  | false =>
    rw [exists_follow_iff hstep] at hnone
    rw [hrun, hstep, if_neg Bool.false_ne_true] at h
    split at h
    · cases h
    · next hshort =>
      cases hkind : t.kindAt (placeOf trail ++ [entryName p]) with
      | none => simp [hkind] at h
      | some kind =>
        cases kind with
        | file c => exact ⟨_, c, hfolder, rfl, hkind⟩
        | directory => exact absurd ⟨by simpa using hshort, hkind⟩ hnone

/-- A single directory is there in the end, or it is refused and nothing is changed. -/
theorem settleDirectory_cases (h : t.settleDirectory true p = (made, r)) :
    (r = none ∧ made.isDirectory p = true) ∨ (made = t ∧ ∃ fault, r = some ⟨fault, p⟩ ∧
      t.makeDirectory p = .error fault ∧ t.isDirectory p = false) := by
  unfold settleDirectory at h
  cases hmade : t.makeDirectory p with
  | ok u =>
    rw [hmade] at h
    obtain ⟨rfl, rfl⟩ := Prod.mk.inj h
    exact .inl ⟨rfl, isDirectory_of_makeDirectory hmade⟩
  | error fault =>
    rw [hmade] at h
    cases hdirectory : t.isDirectory p with
    | true =>
      obtain ⟨rfl, rfl⟩ := Prod.mk.inj (by simpa [hdirectory] using h : (t, none) = (made, r))
      exact .inl ⟨rfl, hdirectory⟩
    | false =>
      obtain ⟨rfl, rfl⟩ := Prod.mk.inj
        (by simpa [hdirectory] using h : (t, some (PathFailure.mk fault p)) = (made, r))
      exact .inr ⟨rfl, fault, rfl, rfl, rfl⟩

/-! ### Files that were there before -/

theorem isFile_of_leadsTo {folder : FilePath} {c : String}
    (h : t.LeadsTo p (pathNames p).dropLast folder)
    (hkind : t.kindAt (folder ++ [String.ofList (splitPath p).2]) = some (.file c)) :
    t.isFile p = true := by
  obtain ⟨trail, hreach, rfl⟩ := leadsTo_iff.mp h
  have hentry := (reach_leads hreach).entryAt_pathTo (String.ofList (splitPath p).2)
  have hfile : (t.entry? trail (String.ofList (splitPath p).2)).map FileEntry.kind =
      some (.file c) := by
    rw [← hentry]
    exact hkind
  unfold isFile
  rw [getLast?_pathNames, Option.getD_some, hreach]
  dsimp only
  cases hthere : t.entry? trail (String.ofList (splitPath p).2) with
  | none => simp [hthere] at hfile
  | some entry =>
    cases entry with
    | file => rfl
    | directory => simp [hthere, FileEntry.kind] at hfile

/-- Names that do not lead upwards lead to a directory in any tree that has it. -/
theorem follow_of_target {place target : FilePath} {names : List String} (hup : ".." ∉ names)
    (hfollow : u.follow place names = some target) (htarget : t.kindAt target = some .directory) :
    t.follow place names = some target := by
  induction names generalizing place with
  | nil => exact hfollow
  | cons name names ih =>
    have hname : name ≠ ".." := fun heq => hup (heq ▸ List.mem_cons_self)
    have hrest : ".." ∉ names := fun hmem => hup (List.mem_cons_of_mem name hmem)
    unfold follow at hfollow ⊢
    by_cases hstay : name = "" ∨ name = "."
    · rw [if_pos hstay] at hfollow ⊢
      exact ih hrest hfollow
    · rw [if_neg hstay, if_neg hname] at hfollow ⊢
      split at hfollow
      · next hdown =>
        have hbegins : place ++ [name] <+: target :=
          ⟨_, (follow_eq_some_of_downward hrest hfollow).symm⟩
        rw [if_pos ⟨hdown.1, kindAt_of_begins htarget hbegins⟩]
        exact ih hrest hfollow
      · cases hfollow

/-- A path that does not lead upwards leads to a file in a tree with more directories only if it
did before: the file stands in a directory, and so there are directories all the way to it. -/
theorem isFile_of_adds (hadds : t.AddsDirectories u) {start : FilePath}
    (hstart : t.startAt p = some start) (hup : ".." ∉ pathNames p) (h : u.isFile p = true) :
    t.isFile p = true := by
  obtain ⟨folder, c, ⟨husable, start', hstart', hfollow⟩, hkind⟩ := exists_of_isFile h
  have hsame := startAt_mono hadds.workingDirectory hadds.directories hstart
  obtain rfl := Option.some.inj (hsame.symm.trans hstart')
  have hfile : t.kindAt (folder ++ [String.ofList (splitPath p).2]) = some (.file c) := by
    rw [← contentAt_eq_some_iff, ← hadds.contents, contentAt_eq_some_iff, hkind]
  have hup' : ".." ∉ (pathNames p).dropLast := fun hmem => hup (List.dropLast_subset _ hmem)
  exact isFile_of_leadsTo ⟨husable, start, hstart,
    follow_of_target hup' hfollow (kindAt_folder hfile)⟩ hfile

/-! ### Runs -/

/-- The path has a front, and that leads to nothing. -/
def FrontMissing (t : FileTree) (p : List Char) : Prop :=
  (splitLast p).1 ≠ [] ∧ (splitLast p).2 ≠ [] ∧ t.hasPath (splitLast p).1 = false

/-- The ways in which the directories of a path are made. If its front is not missing there is one
directory to make. Otherwise the front is made first: a failure ends the run, unless it says that
there is something already. Behind that the directory of the path is made, if its name is not one
for the directory in front of it. -/
inductive Makes (t : FileTree) : List Char → FileTree → Option PathFailure → Prop where
  | last {made : FileTree} {p : List Char} {r : Option PathFailure} :
      ¬ t.FrontMissing p → t.settleDirectory true p = (made, r) → Makes t p made r
  | stopped {made : FileTree} {p : List Char} {f : PathFailure} : t.FrontMissing p →
      Makes t (splitLast p).1 made (some f) → f.fault ≠ .occupied → Makes t p made (some f)
  | dot {made : FileTree} {p : List Char} {r : Option PathFailure} : t.FrontMissing p →
      Makes t (splitLast p).1 made r → (∀ f, r = some f → f.fault = .occupied) →
      (splitLast p).2 = ['.'] → Makes t p made none
  | behind {between made : FileTree} {p : List Char} {r r' : Option PathFailure} :
      t.FrontMissing p → Makes t (splitLast p).1 between r →
      (∀ f, r = some f → f.fault = .occupied) → (splitLast p).2 ≠ ['.'] →
      between.settleDirectory true p = (made, r') → Makes t p made r'

theorem Makes.makeDirectories_eq (h : Makes t p made r) :
    t.makeDirectories true p = (made, r) := by
  induction h with
  | last hthere hrun =>
    unfold makeDirectories
    exact (dif_neg hthere).trans hrun
  | stopped hmissing _ hfault ih =>
    unfold makeDirectories
    refine (dif_pos hmissing).trans ?_
    rw [ih]
    exact if_neg hfault
  | @dot made p r hmissing _ hpassed hdot ih =>
    unfold makeDirectories
    refine (dif_pos hmissing).trans ?_
    rw [ih]
    cases r with
    | none => exact if_pos hdot
    | some f => exact (if_pos (hpassed f rfl)).trans (if_pos hdot)
  | @behind between made p r r' hmissing _ hpassed hdot hrun ih =>
    unfold makeDirectories
    refine (dif_pos hmissing).trans ?_
    rw [ih]
    cases r with
    | none => exact (if_neg hdot).trans hrun
    | some f => exact (if_pos (hpassed f rfl)).trans ((if_neg hdot).trans hrun)

theorem makes_makeDirectories (t : FileTree) (p : List Char) :
    Makes t p (t.makeDirectories true p).1 (t.makeDirectories true p).2 := by
  induction hlength : p.length using Nat.strongRecOn generalizing p with
  | _ n ih =>
    by_cases hmissing : t.FrontMissing p
    · have hbefore := ih _ (hlength ▸ splitLast_length hmissing.2.1) (splitLast p).1 rfl
      rcases hrun : t.makeDirectories true (splitLast p).1 with ⟨between, failure⟩
      rw [hrun] at hbefore
      by_cases hpassed : ∀ f, failure = some f → f.fault = .occupied
      · by_cases hdot : (splitLast p).2 = ['.']
        · have hmakes := Makes.dot hmissing hbefore hpassed hdot
          rwa [hmakes.makeDirectories_eq]
        · have hmakes := Makes.behind hmissing hbefore hpassed hdot rfl
          rwa [hmakes.makeDirectories_eq]
      · push Not at hpassed
        obtain ⟨f, rfl, hfault⟩ := hpassed
        have hmakes := Makes.stopped hmissing hbefore hfault
        rwa [hmakes.makeDirectories_eq]
    · have hmakes := Makes.last hmissing (rfl : t.settleDirectory true p = _)
      rwa [hmakes.makeDirectories_eq]

/-- These are the runs. -/
theorem makes_iff : Makes t p made r ↔ t.makeDirectories true p = (made, r) := by
  refine ⟨Makes.makeDirectories_eq, fun h => ?_⟩
  have hmakes := makes_makeDirectories t p
  rwa [h] at hmakes

/-! ### What a run leaves behind -/

theorem makeDirectories_of_isDirectory (h : t.isDirectory p = true) :
    t.makeDirectories true p = (t, none) := by
  obtain ⟨folder, hfolder⟩ := inFolder_of_isDirectory h
  refine (Makes.last ?_ (settleDirectory_of_isDirectory h)).makeDirectories_eq
  rintro ⟨hfront, hname, hmissing⟩
  have hw := withoutTail_ne_nil hname
  rw [splitLast_eq hw] at hfront hmissing
  rw [hasPath_of_isDirectory (hfolder.isDirectory_front hfront)] at hmissing
  cases hmissing

/-- If something is there already where the directory should be, it is a file. -/
theorem Makes.isFile {f : PathFailure} (h : Makes t p made (some f)) (hf : f.fault = .occupied)
    (htail : withoutTail p = [] ∨ withoutTail p = p) : made.isFile p = true := by
  have hfile : ∀ v : FileTree, v.settleDirectory true p = (made, some f) →
      made.isFile p = true := fun v hrun => by
    obtain ⟨hnone, -⟩ | ⟨rfl, fault, hfault, herror, hdirectory⟩ := settleDirectory_cases hrun
    · cases hnone
    obtain rfl := Option.some.inj hfault
    obtain rfl : fault = .occupied := hf
    obtain ⟨folder, c, hfolder, hstep, hkind⟩ := exists_file_of_occupied herror hdirectory
    have hself : withoutTail p = p := by
      refine htail.resolve_left fun hslashes => ?_
      rw [entryName, hslashes] at hstep
      cases hstep
    have hfront : made.LeadsTo p (pathNames p).dropLast folder := by
      rw [InFolder, hself] at hfolder
      exact hfolder.of_follow (follow_front p)
    rw [entryName, hself] at hkind
    exact isFile_of_leadsTo hfront hkind
  cases h with
  | last _ hrun => exact hfile _ hrun
  | stopped _ _ hfault => exact absurd hf hfault
  | behind _ _ _ _ hrun => exact hfile _ hrun

theorem Makes.adds (h : Makes t p made r) : t.AddsDirectories made := by
  have hadds := makeDirectories_adds (t := t) true p
  rwa [h.makeDirectories_eq] at hadds

/-- If the path does not lead upwards the file was there before. -/
theorem Makes.isFile_before {f : PathFailure} (h : Makes t p made (some f))
    (hf : f.fault = .occupied) (htail : withoutTail p = [] ∨ withoutTail p = p)
    (hup : ".." ∉ pathNames p) : t.isFile p = true := by
  cases hstart : t.startAt p with
  | none =>
    -- from a working directory that is missing nothing is found to be there
    obtain ⟨g, hfailed, hother⟩ := makeDirectories_homeless true hstart
    obtain ⟨-, hsame⟩ := Prod.mk.inj (h.makeDirectories_eq.symm.trans hfailed)
    obtain rfl := Option.some.inj hsame
    exact absurd hf hother
  | some start => exact isFile_of_adds h.adds hstart hup (h.isFile hf htail)

/-- A path in front of a `.` can be looked up with the `.` as well. -/
theorem usable_of_dot (hsize : (String.ofList p).utf8ByteSize ≤ pathLimit)
    (hw : withoutTail p ≠ []) (hdot : (splitPath (withoutTail p)).2 = ['.'])
    (h : usable (splitPath (withoutTail p)).1 = .ok ()) : usable p = .ok () := by
  obtain ⟨hend, -, -⟩ := usable_eq_ok_iff.mp h
  refine usable_eq_ok_iff.mpr ⟨fun hmem => ?_, hsize, fun hempty => hw (by rw [hempty]; rfl)⟩
  obtain ⟨k, hp⟩ := exists_slashes p
  have hslash : pathEnd ≠ '/' := by decide
  have hdotted : pathEnd ≠ '.' := by decide
  rw [hp] at hmem
  rcases List.mem_append.mp hmem with hmem | hmem
  · rcases mem_splitPath hslash hmem with hfront | hname
    · exact hend hfront
    · rw [hdot] at hname
      exact hdotted (List.mem_singleton.mp hname)
  · exact hslash (List.mem_replicate.mp hmem).2

theorem isDirectory_of_settled (h : t.settleDirectory true p = (made, none)) :
    made.isDirectory p = true := by
  obtain ⟨-, hdirectory⟩ | ⟨-, fault, hfault, -⟩ := settleDirectory_cases h
  · exact hdirectory
  · cases hfault

/-- A path whose directories have been made leads to a directory. -/
theorem Makes.isDirectory (h : Makes t p made none) (hp : Retraced p) :
    made.isDirectory p = true := by
  generalize hr : none = r at h
  induction h with
  | last _ hrun => exact isDirectory_of_settled (hr ▸ hrun)
  | stopped => cases hr
  | behind _ _ _ _ hrun => exact isDirectory_of_settled (hr ▸ hrun)
  | @dot made p r hmissing hfront hpassed hdot ih =>
    obtain ⟨hne, hname, hnothing⟩ := hmissing
    have hw := withoutTail_ne_nil hname
    have hsplit := splitLast_eq hw
    cases r with
    | none =>
      have hdirectory := ih (hp.front hname) rfl
      rw [hsplit] at hne hdot hdirectory
      obtain ⟨-, husable, -⟩ := isDirectory_iff.mp hdirectory
      obtain ⟨folder, hfolder⟩ :=
        inFolder_of_front (usable_of_dot hp.length hw hdot husable) hne hdirectory
      have hstep : isStep (entryName p) = true := by
        rw [entryName, hdot]
        rfl
      exact hfolder.isDirectory_iff.mpr (exists_follow_step hstep folder)
    | some f =>
      have hfile := hfront.isFile_before (hpassed f rfl) (hsplit ▸ withoutTail_front _)
        (hp.downward_front hname hdot)
      rw [hasPath_of_isFile hfile] at hnothing
      cases hnothing

theorem hasPath_of_mem_end (t : FileTree) (h : pathEnd ∈ p) : t.hasPath p = false := by
  have husable : usable p = .error .invalid := by rw [usable, if_pos h]
  simp [hasPath, isDirectory, isFile, reach, husable, bind, Except.bind, Except.isOk, Except.toBool]

/-- A path that is none is found to be none again, and nothing is made. -/
theorem Makes.invalid_again {f : PathFailure} (h : Makes t p made (some f)) (hp : Retraced p)
    (hf : f.fault = .invalid) : Makes made p made (some f) := by
  have hrefused : ∀ {v w : FileTree} {q : List Char} {r : Option PathFailure}, some f = r →
      v.settleDirectory true q = (w, r) → w = v := fun hr hrun => by
    obtain ⟨hnone, -⟩ | ⟨hkept, -⟩ := settleDirectory_cases hrun
    · cases hr.trans hnone
    · exact hkept
  generalize hr : some f = r at h
  induction h with
  | last hthere hrun =>
    obtain rfl := hrefused hr hrun
    exact .last hthere hrun
  | stopped hmissing hfront hfault ih =>
    obtain rfl := Option.some.inj hr
    have hend := mem_of_makeDirectories_invalid (congrArg Prod.snd hfront.makeDirectories_eq) hf
    exact .stopped ⟨hmissing.1, hmissing.2.1, hasPath_of_mem_end _ hend⟩
      (ih (hp.front hmissing.2.1) rfl) hfault
  | dot => cases hr
  | @behind between made p r r' hmissing hfront hpassed hdot hrun ih =>
    obtain rfl := hrefused hr hrun
    have hname := hmissing.2.1
    have hw := withoutTail_ne_nil hname
    have hpath : made.hasPath (splitLast p).1 = true := by
      cases r with
      | none => exact hasPath_of_isDirectory (hfront.isDirectory (hp.front hname))
      | some g =>
        exact hasPath_of_isFile (hfront.isFile (hpassed g rfl) (splitLast_eq hw ▸ withoutTail_front _))
    exact .last (fun hagain => Bool.false_ne_true (hagain.2.2.symm.trans hpath)) hrun

/-- Directories that have been made are not made again, and a path that is none stays none. -/
theorem makeDirectories_again (hp : Retraced p) (h : t.makeDirectories true p = (made, r))
    (hr : ∀ f, r = some f → f.fault = .invalid) : made.makeDirectories true p = (made, r) := by
  have hmakes := makes_iff.mpr h
  cases r with
  | none => exact makeDirectories_of_isDirectory (hmakes.isDirectory hp)
  | some f => exact (hmakes.invalid_again hp (hr f rfl)).makeDirectories_eq

/-- A working directory with a file. -/
def dottedTree : FileTree := FileTree.empty.put ["tmp", "work", "f"] (.file "")

/-- A path over a directory that is missing and back to a `.` behind the file. -/
def dottedPath : List Char := "x/../f/.".toList

/-- The tree with that directory. -/
def dottedMade : FileTree := dottedTree.put ["tmp", "work", "x"] (.directory [])

/-- The first time the missing directory is made, the file is found to be there already, and the `.`
is passed over. The second time there is no way behind the file. -/
theorem dotted_fails_again :
    dottedTree.makeDirectories true dottedPath = (dottedMade, none) ∧
      dottedMade.makeDirectories true dottedPath =
        (dottedMade, some ⟨.notDirectory, dottedPath⟩) := by
  have hx : Makes dottedTree "x".toList dottedMade none := .last (fun h => h.1 rfl) rfl
  have hback : Makes dottedTree "x/..".toList dottedMade none :=
    .behind ⟨by decide, by decide, by decide +kernel⟩ hx (fun _ h => nomatch h) (by decide) rfl
  have hfile : Makes dottedTree "x/../f".toList dottedMade (some ⟨.occupied, "x/../f".toList⟩) :=
    .behind ⟨by decide, by decide, by decide +kernel⟩ hback (fun _ h => nomatch h) (by decide) rfl
  have hdot : Makes dottedTree dottedPath dottedMade none :=
    .dot ⟨by decide, by decide, by decide +kernel⟩ hfile
      (fun f h => by rw [← Option.some.inj h]) rfl
  have hagain : Makes dottedMade dottedPath dottedMade (some ⟨.notDirectory, dottedPath⟩) :=
    .last (fun h => absurd h.2.2 (by decide +kernel)) rfl
  exact ⟨hdot.makeDirectories_eq, hagain.makeDirectories_eq⟩

end FileTree
end TableLoader
