/-
# File trees with the same names

Two trees of files that differ in what the files hold only, and there by a relation `R`
between texts (`FileTree.Alike`). No path is looked up by what a file holds, so a path
leads to the same place in both, or fails alike (`Alike.walk`, `Alike.fileAt`);
directories are made in both or in neither (`Alike.makeDirectories`), and the same holds
for texts that are added to a file (`Alike.append`). Both trees are alike after that.

Key definitions: `FileEntry.Alike`, `FileTree.Alike`, `Trail.Alike`.
Key theorems: `Alike.walk`, `Alike.makeDirectories`, `Alike.append`.
-/
import Mathlib.Data.List.Forall2
import TableLoader.FileTree
import TableLoader.Proofs.Results

namespace TableLoader

variable {R : String → String → Prop}

mutual

/-- Both are files, and what they hold is related, or both are directories with entries of the same
names. -/
inductive FileEntry.Alike (R : String → String → Prop) : FileEntry → FileEntry → Prop
  | file {c c' : String} : R c c' → FileEntry.Alike R (.file c) (.file c')
  | directory {f f' : Folder} : Folder.Alike R f f' →
      FileEntry.Alike R (.directory f) (.directory f')

inductive Folder.Alike (R : String → String → Prop) : Folder → Folder → Prop
  | nil : Folder.Alike R [] []
  | cons {name : String} {e e' : FileEntry} {f f' : Folder} : FileEntry.Alike R e e' →
      Folder.Alike R f f' → Folder.Alike R ((name, e) :: f) ((name, e') :: f')

end

mutual

theorem FileEntry.Alike.refl (hR : ∀ c, R c c) : ∀ e : FileEntry, FileEntry.Alike R e e
  | .file c => .file (hR c)
  | .directory entries => .directory (Folder.Alike.refl hR entries)

theorem Folder.Alike.refl (hR : ∀ c, R c c) : ∀ f : List (String × FileEntry), Folder.Alike R f f
  | [] => .nil
  | (_, e) :: rest => .cons (FileEntry.Alike.refl hR e) (Folder.Alike.refl hR rest)

end

namespace Folder

variable {f f' : Folder}

theorem lookup_alike (h : Folder.Alike R f f') (name : String) :
    Option.Rel (FileEntry.Alike R) (f.lookup name) (f'.lookup name) := by
  induction f generalizing f' with
  | nil =>
    cases h
    exact .none
  | cons entry f ih =>
    cases h with
    | @cons n e e' _ f' he hf =>
      rw [List.lookup_cons, List.lookup_cons]
      cases name == n with
      | true => exact .some he
      | false => exact ih hf

theorem inside_alike (h : Folder.Alike R f f') (name : String) :
    Folder.Alike R (f.inside name) (f'.inside name) := by
  unfold inside
  rcases optionRel_cases (lookup_alike h name) with ⟨hf, hf'⟩ | ⟨e, e', he, hf, hf'⟩
  · rw [hf, hf']
    exact .nil
  · rw [hf, hf']
    cases he with
    | file => exact .nil
    | directory hentries => exact hentries

theorem set_alike {e e' : FileEntry} (he : FileEntry.Alike R e e') (name : String)
    (h : Folder.Alike R f f') : Folder.Alike R (f.set name e) (f'.set name e') := by
  induction f generalizing f' with
  | nil =>
    cases h
    exact .cons he .nil
  | cons entry f ih =>
    cases h with
    | @cons n old old' _ f' hold hf =>
      unfold set
      by_cases hn : n = name
      · rw [if_pos hn, if_pos hn]
        exact .cons he hf
      · rw [if_neg hn, if_neg hn]
        exact .cons hold (ih hf)

theorem put_alike {e e' : FileEntry} (he : FileEntry.Alike R e e') (path : FilePath)
    (h : Folder.Alike R f f') : Folder.Alike R (f.put e path) (f'.put e' path) := by
  induction path generalizing f f' with
  | nil => exact h
  | cons name rest ih =>
    cases rest with
    | nil => exact set_alike he name h
    | cons => exact set_alike (.directory (ih (inside_alike h name))) name h

end Folder

/-- The trails lead over the same names. -/
def Trail.Alike (R : String → String → Prop) : Trail → Trail → Prop :=
  List.Forall₂ fun a b => a.1 = b.1 ∧ Folder.Alike R a.2 b.2

namespace FileTree

/-- The trees have the same names, and what their files hold is related. -/
structure Alike (R : String → String → Prop) (t t' : FileTree) : Prop where
  root : Folder.Alike R t.root t'.root
  workingDirectory : t.workingDirectory = t'.workingDirectory

theorem Alike.refl (hR : ∀ c, R c c) (t : FileTree) : Alike R t t := ⟨.refl hR t.root, rfl⟩

section Paths

variable {t t' : FileTree} (h : Alike R t t')

include h

theorem Alike.entry? {trail trail' : Trail} (htrail : Trail.Alike R trail trail') (name : String) :
    Option.Rel (FileEntry.Alike R) (t.entry? trail name) (t'.entry? trail' name) := by
  cases htrail with
  | nil => exact Folder.lookup_alike h.root name
  | cons hhead => exact Folder.lookup_alike hhead.2 name

/-- From places that are alike the same names lead to places that are alike. -/
theorem Alike.walk (names : List String) {trail trail' : Trail}
    (htrail : Trail.Alike R trail trail') :
    ResultsAlike (Trail.Alike R) (t.walk trail names) (t'.walk trail' names) := by
  induction names generalizing trail trail' with
  | nil => exact .ok htrail
  | cons name rest ih =>
    have hback : Trail.Alike R trail.tail trail'.tail := by
      cases htrail with
      | nil => exact .nil
      | cons _ hrest => exact hrest
    unfold FileTree.walk
    split
    · exact ih htrail
    · split
      · exact ih hback
      · split
        · exact .error _
        · rcases optionRel_cases (h.entry? htrail name) with
            ⟨he, he'⟩ | ⟨e, e', hentries, he, he'⟩
          · rw [he, he']
            exact .error _
          · rw [he, he']
            cases hentries with
            | file => exact .error _
            | directory hentries => exact ih (.cons ⟨rfl, hentries⟩ htrail)

theorem Alike.reach (p : List Char) (names : List String) :
    ResultsAlike (Trail.Alike R) (t.reach p names) (t'.reach p names) := by
  have hstart : ResultsAlike (Trail.Alike R) (t.startOf p) (t'.startOf p) := by
    unfold startOf
    rw [← h.workingDirectory]
    split
    · exact .ok .nil
    · exact h.walk _ .nil
  exact (ResultsAlike.refl (usable p)).bind fun _ _ _ => hstart.bind fun _ _ => h.walk names

theorem Alike.isDirectory (p : List Char) : t.isDirectory p = t'.isDirectory p := by
  unfold FileTree.isDirectory
  rcases (h.reach p (pathNames p)).cases with ⟨_, _, -, hr, hr'⟩ | ⟨_, hr, hr'⟩
  · rw [hr, hr']
    rfl
  · rw [hr, hr']

theorem Alike.isFile (p : List Char) : t.isFile p = t'.isFile p := by
  unfold FileTree.isFile
  rcases (h.reach p (pathNames p).dropLast).cases with
    ⟨trail, trail', htrail, hr, hr'⟩ | ⟨_, hr, hr'⟩
  · rw [hr, hr']
    dsimp only
    rcases optionRel_cases (h.entry? htrail ((pathNames p).getLast?.getD "")) with
      ⟨he, he'⟩ | ⟨e, e', hentries, he, he'⟩
    · rw [he, he']
    · rw [he, he']
      cases hentries <;> rfl
  · rw [hr, hr']

theorem Alike.hasPath (p : List Char) : t.hasPath p = t'.hasPath p := by
  unfold FileTree.hasPath
  rw [h.isDirectory, h.isFile]

theorem Alike.put {e e' : FileEntry} (he : FileEntry.Alike R e e') (path : FilePath) :
    Alike R (t.put path e) (t'.put path e') :=
  ⟨Folder.put_alike he path h.root, h.workingDirectory⟩

theorem Alike.place (p : List Char) :
    ResultsAlike (fun a b => Trail.Alike R a.1 b.1 ∧ a.2 = b.2) (t.place p) (t'.place p) :=
  (h.reach p _).bind fun _ _ htrail => .ok ⟨htrail, rfl⟩

end Paths

theorem pathTo_eq {trail trail' : Trail} (h : Trail.Alike R trail trail') (name : String) :
    pathTo trail name = pathTo trail' name := by
  have hnames : trail.map Prod.fst = trail'.map Prod.fst := by
    induction h with
    | nil => rfl
    | cons hhead _ ih => rw [List.map_cons, List.map_cons, hhead.1, ih]
  unfold pathTo
  rw [hnames]

/-! ### Directories that are made -/

section Making

variable {t t' : FileTree}

theorem Alike.makeDirectory (h : Alike R t t') (p : List Char) :
    ResultsAlike (Alike R) (t.makeDirectory p) (t'.makeDirectory p) := by
  refine (h.place p).bind ?_
  rintro ⟨trail, name⟩ ⟨trail', _⟩ ⟨htrail, rfl⟩
  cases name with
  | none => exact .error _
  | some n =>
    dsimp only
    have hthere : (t.entry? trail n).isSome = (t'.entry? trail' n).isSome := by
      rcases optionRel_cases (h.entry? htrail n) with ⟨he, he'⟩ | ⟨_, _, -, he, he'⟩
      · rw [he, he']
      · rw [he, he']
        rfl
    rw [← hthere, pathTo_eq htrail]
    split
    · exact .error _
    · split
      · exact .error _
      · exact .ok (h.put (.directory .nil) _)

/-- The trees are alike, and the failures are the same. -/
def SameFailure (R : String → String → Prop) (x y : FileTree × Option PathFailure) : Prop :=
  Alike R x.1 y.1 ∧ x.2 = y.2

theorem Alike.settleDirectory (h : Alike R t t') (settled : Bool) (p : List Char) :
    SameFailure R (t.settleDirectory settled p) (t'.settleDirectory settled p) := by
  unfold FileTree.settleDirectory
  rcases (h.makeDirectory p).cases with ⟨u, u', hu, hmade, hmade'⟩ | ⟨fault, hmade, hmade'⟩
  · rw [hmade, hmade']
    exact ⟨hu, rfl⟩
  · rw [hmade, hmade', h.isDirectory]
    dsimp only
    split
    · exact ⟨h, rfl⟩
    · exact ⟨h, rfl⟩

/-- The directories on the way to a path are made in both trees up to the same failure. -/
theorem Alike.makeDirectories (h : Alike R t t') (settled : Bool) (p : List Char) :
    SameFailure R (t.makeDirectories settled p) (t'.makeDirectories settled p) := by
  induction hlength : p.length using Nat.strongRecOn generalizing p t t' with
  | _ n ih =>
    unfold FileTree.makeDirectories
    dsimp only
    rw [← h.hasPath]
    split
    · next hfront =>
      have hshorter : (splitLast p).1.length < n := hlength ▸ splitLast_length hfront.2.1
      obtain ⟨htrees, hfailure⟩ := ih _ hshorter h (splitLast p).1 rfl
      rw [← hfailure]
      have hlast : SameFailure R
          (if (splitLast p).2 = ['.'] then ((t.makeDirectories settled (splitLast p).1).1, none)
            else (t.makeDirectories settled (splitLast p).1).1.settleDirectory settled p)
          (if (splitLast p).2 = ['.'] then ((t'.makeDirectories settled (splitLast p).1).1, none)
            else (t'.makeDirectories settled (splitLast p).1).1.settleDirectory settled p) := by
        split
        · exact ⟨htrees, rfl⟩
        · exact htrees.settleDirectory settled p
      cases (t.makeDirectories settled (splitLast p).1).2 with
      | none => exact hlast
      | some failure =>
        dsimp only
        by_cases hoccupied : failure.fault = .occupied
        · rw [if_pos hoccupied, if_pos hoccupied]
          exact hlast
        · rw [if_neg hoccupied, if_neg hoccupied]
          exact ⟨htrees, rfl⟩
    · exact h.settleDirectory settled p

end Making

/-! ### Texts that are added -/

section Adding

variable {t t' : FileTree}

/-- The same file is found in both trees. -/
theorem Alike.fileAt (h : Alike R t t') (hempty : R "" "") (p : List Char) :
    ResultsAlike (fun a b => a.1 = b.1 ∧ R a.2 b.2) (t.fileAt p) (t'.fileAt p) := by
  refine (h.place p).bind ?_
  rintro ⟨trail, name⟩ ⟨trail', _⟩ ⟨htrail, rfl⟩
  cases name with
  | none => exact .error _
  | some n =>
    dsimp only
    split
    · exact .error _
    · split
      · exact .error _
      · rcases optionRel_cases (h.entry? htrail n) with ⟨he, he'⟩ | ⟨e, e', hentry, he, he'⟩
        · rw [he, he']
          exact .ok ⟨pathTo_eq htrail n, hempty⟩
        · rw [he, he']
          cases hentry with
          | file hcontent => exact .ok ⟨pathTo_eq htrail n, hcontent⟩
          | directory => exact .error _

/-- Texts are added to a file of both trees, if they keep what the files hold related. -/
theorem Alike.append (h : Alike R t t') (hempty : R "" "") {s s' : String}
    (hadded : ∀ c c', R c c' → R (c ++ s) (c' ++ s')) (p : List Char) :
    ResultsAlike (Alike R) (t.append p s) (t'.append p s') := by
  refine (h.fileAt hempty p).bind ?_
  rintro ⟨path, content⟩ ⟨_, content'⟩ ⟨rfl, hcontent⟩
  exact .ok (h.put (.file (hadded _ _ hcontent)) path)

end Adding

end FileTree
end TableLoader
