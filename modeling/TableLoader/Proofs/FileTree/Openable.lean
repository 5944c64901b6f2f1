/-
# Which files can be opened

A path that leads to a directory opens no file, and neither does a path that has a file
on its way (`not_admits_of_isDirectory`, `not_admits_of_isFile`). A path that never leads
upwards opens the file behind its names exactly if no file stands on the way and no
directory at the end (`admits_iff_of_plain`): directories that are missing on the way are
made, and nothing else can be missing.

Key definitions: `FileTree.downward`.
Key theorems: `not_admits_of_isDirectory`, `not_admits_of_isFile`, `admits_iff_of_plain`.
-/
import TableLoader.Proofs.FileTree.Directories

namespace TableLoader
namespace FileTree

variable {t : FileTree} {p : List Char} {place : FilePath}

/-! ### Paths that open nothing -/

/-- A directory is no file. -/
theorem not_admits_of_isDirectory (h : t.isDirectory p = true) : ¬ t.Admits p place := by
  rintro ⟨-, u, content, hadds, hfile⟩
  obtain ⟨folder, hfolder, hstep, -, -, rfl, hkind, -⟩ := fileAt_eq_ok_iff.mp hfile
  obtain ⟨target, hleads⟩ := isDirectory_iff.mp h
  have hthere : u.isDirectory p = true := isDirectory_iff.mpr ⟨target, hleads.of_adds hadds⟩
  have hbelow := hfolder.isDirectory_iff.mp hthere
  exact hkind ((exists_follow_iff hstep).mp hbelow).2

/-- Nothing stands below a file. -/
theorem not_admits_of_isFile {a b : List Char} (hfile : t.isFile a = true)
    (hdirectory : t.isDirectory a = false) (ha : a ≠ []) : ¬ t.Admits (a ++ '/' :: b) place := by
  rintro ⟨-, u, content, hadds, hopened⟩
  obtain ⟨folder, ⟨husable, start, hstart, hfollow⟩, -, hslash, -⟩ := fileAt_eq_ok_iff.mp hopened
  have hself : withoutTail (a ++ '/' :: b) = a ++ '/' :: b := withoutTail_eq_self_iff.mpr hslash
  have hb : pathNames b ≠ [] := by
    have hlast := getLast?_pathNames b
    intro hempty
    rw [hempty] at hlast
    cases hlast
  -- the names of the file are the first ones on the way to the directory of the path
  rw [hself, ← follow_front, pathNames_append, List.dropLast_append_of_ne_nil hb,
    follow_append] at hfollow
  obtain ⟨target, htarget, -⟩ := Option.bind_eq_some_iff.mp hfollow
  have hbegins : a <+: a ++ '/' :: b := List.prefix_append a ('/' :: b)
  have hthere : u.isDirectory a = true := isDirectory_iff.mpr
    ⟨target, usable_of_begins hbegins ha husable, start,
      (startAt_of_begins hbegins ha).trans hstart, htarget⟩
  rw [isDirectory_of_hasPath hadds hthere (hasPath_of_isFile hfile)] at hdirectory
  cases hdirectory

/-! ### Paths that lead downwards -/

/-- The names that lead downwards. -/
def downward (names : List String) : List String := names.filter fun n => n ≠ "" ∧ n ≠ "."

theorem downward_append (a b : List String) : downward (a ++ b) = downward a ++ downward b :=
  List.filter_append a b

/-- Names that do not lead upwards lead straight downwards. -/
theorem follow_eq_some_of_downward {names : List String} (h : ".." ∉ names) {target : FilePath}
    (hfollow : t.follow place names = some target) : target = place ++ downward names := by
  induction names generalizing place with
  | nil =>
    rw [downward, List.filter_nil, List.append_nil]
    exact (Option.some.inj hfollow).symm
  | cons name names ih =>
    have hup : name ≠ ".." := fun hname => h (hname ▸ List.mem_cons_self)
    have hrest : ".." ∉ names := fun hmem => h (List.mem_cons_of_mem name hmem)
    unfold follow at hfollow
    by_cases hstay : name = "" ∨ name = "."
    · have hnone : downward (name :: names) = downward names := by
        rcases hstay with rfl | rfl <;> rfl
      rw [if_pos hstay] at hfollow
      rw [hnone]
      exact ih hrest hfollow
    · have hdown : downward (name :: names) = name :: downward names := by
        rw [not_or] at hstay
        exact List.filter_cons_of_pos (by simpa using hstay)
      rw [if_neg hstay, if_neg hup] at hfollow
      split at hfollow
      · rw [ih hrest hfollow, hdown, List.append_assoc]
        rfl
      · cases hfollow

/-- Above a directory there are directories. -/
theorem kindAt_of_begins {q : FilePath} (h : t.kindAt place = some .directory) (hq : q <+: place) :
    t.kindAt q = some .directory := by
  obtain ⟨below, rfl⟩ := hq
  unfold kindAt entryAt at h ⊢
  rw [FileEntry.at?_append] at h
  cases hentry : (FileEntry.directory t.root).at? q with
  | none => simp [hentry] at h
  | some entry =>
    cases entry with
    | directory => rfl
    | file c =>
      rw [hentry] at h
      cases below with
      | nil => exact h
      | cons => cases h

theorem exists_leads (h : t.kindAt place = some .directory) :
    ∃ trail, t.Leads trail ∧ placeOf trail = place := by
  induction place using List.reverseRecOn with
  | nil => exact ⟨[], leads_nil, rfl⟩
  | append_singleton place name ih =>
    obtain ⟨trail, htrail, rfl⟩ := ih (kindAt_of_begins h (List.prefix_append place [name]))
    have hentry : t.entryAt (placeOf trail ++ [name]) = t.entry? trail name :=
      htrail.entryAt_pathTo name
    rw [kindAt, hentry] at h
    cases hthere : t.entry? trail name with
    | none => simp [hthere] at h
    | some entry =>
      cases entry with
      | file => simp [hthere, FileEntry.kind] at h
      | directory entries =>
        exact ⟨(name, entries) :: trail, ⟨hthere, htrail⟩, by simp [placeOf]⟩

/-- A directory can be added below a directory unless there is a file. -/
theorem exists_adds_directory {name : String} (h : t.kindAt place = some .directory)
    (hfree : t.contentAt (place ++ [name]) = none) : ∃ u, t.AddsDirectories u ∧
      ∀ q, u.kindAt q = some .directory ↔
        (t.kindAt q = some .directory ∨ q = place ++ [name]) := by
  cases hkind : t.kindAt (place ++ [name]) with
  | some kind =>
    cases kind with
    | file c =>
      rw [contentAt_eq_some_iff.mpr hkind] at hfree
      cases hfree
    | directory =>
      refine ⟨t, .refl t, fun q => ⟨.inl, fun hq => ?_⟩⟩
      rcases hq with hq | rfl
      · exact hq
      · exact hkind
  | none =>
    obtain ⟨trail, htrail, rfl⟩ := exists_leads h
    refine ⟨_, adds_put htrail hkind, fun q => ?_⟩
    rw [kindAt_put_directory htrail hkind]
    show (if q = placeOf trail ++ [name] then some EntryKind.directory else t.kindAt q) =
      some .directory ↔ _
    by_cases hq : q = placeOf trail ++ [name]
    · rw [if_pos hq]
      exact ⟨fun _ => .inr hq, fun _ => rfl⟩
    · rw [if_neg hq, or_iff_left hq]

/-- The directories on the way downwards can be added if there is no file on it, and no other
directory has to be. -/
theorem exists_adds_follow {names : List String} (hplace : t.kindAt place = some .directory)
    (hnames : ∀ name ∈ names, name ≠ ".." ∧ isLongName name = false)
    (hfree : ∀ q, q <+: place ++ downward names → t.contentAt q = none) :
    ∃ u, t.AddsDirectories u ∧ u.follow place names = some (place ++ downward names) ∧
      ∀ q, u.kindAt q = some .directory →
        t.kindAt q = some .directory ∨ q <+: place ++ downward names := by
  induction names generalizing t place with
  | nil => exact ⟨t, .refl t, by simp [follow, downward], fun q hq => .inl hq⟩
  | cons name names ih =>
    have hrest : ∀ n ∈ names, n ≠ ".." ∧ isLongName n = false := fun n hn =>
      hnames n (List.mem_cons_of_mem name hn)
    obtain ⟨hup, hshort⟩ := hnames name List.mem_cons_self
    by_cases hstay : name = "" ∨ name = "."
    · have hnone : downward (name :: names) = downward names := by
        rcases hstay with rfl | rfl <;> rfl
      rw [hnone] at hfree ⊢
      obtain ⟨u, hadds, hfollow, hkinds⟩ := ih hplace hrest hfree
      refine ⟨u, hadds, ?_, hkinds⟩
      rw [follow, if_pos hstay]
      exact hfollow
    · have hdown : place ++ downward (name :: names) = place ++ [name] ++ downward names := by
        rw [not_or] at hstay
        rw [downward, List.filter_cons_of_pos (by simpa using hstay), List.append_assoc]
        rfl
      rw [hdown] at hfree ⊢
      obtain ⟨t', hadds, hkinds⟩ := exists_adds_directory hplace
        (hfree _ (List.prefix_append (place ++ [name]) (downward names)))
      have hnext : t'.kindAt (place ++ [name]) = some .directory := (hkinds _).mpr (.inr rfl)
      obtain ⟨u, hadds', hfollow, hkinds'⟩ := ih hnext hrest fun q hq =>
        (hadds.contents q).trans (hfree q hq)
      refine ⟨u, hadds.trans hadds', ?_, fun q hq => ?_⟩
      · rw [follow, if_neg hstay, if_neg hup, if_pos ⟨hshort, hadds'.directories _ hnext⟩]
        exact hfollow
      · rcases hkinds' q hq with hq' | hq'
        · rcases (hkinds q).mp hq' with hq'' | rfl
          · exact .inl hq''
          · exact .inr (List.prefix_append (place ++ [name]) (downward names))
        · exact .inr hq'

/-- A path that can be looked up, all of whose names lead downwards and that ends in the name of a
file. -/
structure IsPlain (p : List Char) : Prop where
  usable : usable p = .ok ()
  names : ∀ name ∈ pathNames p, name ≠ ".." ∧ isLongName name = false
  last : isStep (entryName p) = false
  slash : p.getLast? ≠ some '/'

theorem IsPlain.names_eq (h : IsPlain p) :
    pathNames p = (pathNames p).dropLast ++ [entryName p] := by
  have hself : withoutTail p = p := withoutTail_eq_self_iff.mpr h.slash
  have hlast : (pathNames p).getLast? = some (entryName p) := by
    rw [getLast?_pathNames, entryName, hself]
  exact (List.dropLast_append_getLast? _ hlast).symm

theorem IsPlain.downward_eq (h : IsPlain p) :
    downward (pathNames p) = downward (pathNames p).dropLast ++ [entryName p] := by
  have hname : downward [entryName p] = [entryName p] := by
    have hstep := h.last
    simp only [isStep, Bool.or_eq_false_iff, decide_eq_false_iff_not] at hstep
    exact List.filter_cons_of_pos (by simpa using hstep.1)
  rw [h.names_eq, downward_append, hname, ← h.names_eq]

/-- A path that leads downwards opens the file behind its names exactly if there is no file on the
way and no directory at the end. -/
theorem admits_iff_of_plain (h : IsPlain p) {start : FilePath} (hstart : t.startAt p = some start) :
    t.Admits p place ↔ place = start ++ downward (pathNames p) ∧
      t.kindAt place ≠ some .directory ∧ ∀ q, q <+: place → q ≠ place → t.contentAt q = none := by
  have hself : withoutTail p = p := withoutTail_eq_self_iff.mpr h.slash
  have hnames : ∀ name ∈ (pathNames p).dropLast, name ≠ ".." ∧ isLongName name = false :=
    fun name hname => h.names name (List.dropLast_subset _ hname)
  have hfront : ∀ (u : FileTree), u.follow start (pathNames (splitPath (withoutTail p)).1) =
      u.follow start (pathNames p).dropLast := fun u => by rw [hself, follow_front]
  rw [h.downward_eq, ← List.append_assoc]
  constructor
  · rintro ⟨-, u, content, hadds, hfile⟩
    obtain ⟨folder, hfolder, -, -, -, rfl, hkind, -⟩ := fileAt_eq_ok_iff.mp hfile
    have hdirectory : u.kindAt folder = some .directory := LeadsTo.kindAt hfolder
    obtain ⟨-, start', hstart', hfollow⟩ := hfolder
    have hsame : u.startAt p = some start :=
      startAt_mono hadds.workingDirectory hadds.directories hstart
    obtain rfl := Option.some.inj (hsame.symm.trans hstart')
    rw [hfront] at hfollow
    have hup : ".." ∉ (pathNames p).dropLast := fun hmem => (hnames _ hmem).1 rfl
    refine ⟨by rw [follow_eq_some_of_downward hup hfollow], fun hthere => ?_, fun q hq hne => ?_⟩
    · exact hkind (hadds.directories _ hthere)
    · have habove : q <+: folder := (List.prefix_concat_iff.mp hq).resolve_left hne
      rw [← hadds.contents, contentAt, kindAt_of_begins hdirectory habove]
      rfl
  · rintro ⟨rfl, hkind, hfree⟩
    have hhere : t.LeadsTo p [] start := ⟨h.usable, start, hstart, rfl⟩
    have hshorter : ∀ {q}, q <+: start ++ downward (pathNames p).dropLast →
        q ≠ start ++ downward (pathNames p).dropLast ++ [entryName p] := fun hq heq => by
      have hlength := hq.length_le
      rw [heq, List.length_append, List.length_singleton] at hlength
      omega
    obtain ⟨u, hadds, hfollow, hkinds⟩ := exists_adds_follow hhere.kindAt hnames fun q hq =>
      hfree q (hq.trans (List.prefix_append _ _)) (hshorter hq)
    have hfolder : u.InFolder p (start ++ downward (pathNames p).dropLast) :=
      ⟨h.usable, start, startAt_mono hadds.workingDirectory hadds.directories hstart,
        (hfront u).trans hfollow⟩
    have hshort : isLongName (entryName p) = false :=
      (h.names _ (h.names_eq ▸ List.mem_append_right _ (List.mem_singleton_self _))).2
    refine ⟨by rw [hstart]; rfl, u, _, hadds, fileAt_eq_ok_iff.mpr
      ⟨_, hfolder, h.last, h.slash, hshort, rfl, fun hthere => ?_, rfl⟩⟩
    rcases hkinds _ hthere with hdirectory | hbegins
    · exact hkind hdirectory
    · exact hshorter hbegins rfl

end FileTree
end TableLoader
