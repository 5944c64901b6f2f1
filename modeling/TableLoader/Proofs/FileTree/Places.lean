/-
# Places in a file tree

A place is the list of names from the root to it, and what stands there is a directory or
a file with what it holds (`FileTree.kindAt`). There are no other ways to a place, so names
lead from one place to another in one way (`FileTree.follow`), and what a path leads to is
told by the places that are directories (`leadsTo_iff`, `fileAt_eq_ok_iff`): in a tree that
has more of them the path leads to the same place (`follow_mono`).

Putting a file or an empty directory to a place that is not a directory changes what
stands there and nothing else (`kindAt_put`).

Key definitions: `EntryKind`, `FileTree.kindAt`, `FileTree.contentAt`, `FileTree.follow`,
`FileTree.LeadsTo`, `FileTree.InFolder`.
Key theorems: `kindAt_put`, `follow_mono`, `leadsTo_iff`, `isDirectory_iff`,
`fileAt_eq_ok_iff`, `makeDirectory_run`, `append_of_fileAt`.
-/
import TableLoader.Proofs.FileTree.Paths

namespace TableLoader

/-- A directory, or a file with what it holds. -/
inductive EntryKind where
  | directory
  | file (content : String)
deriving DecidableEq, Repr

/-- What a file holds. -/
def EntryKind.content? : EntryKind → Option String
  | .directory => none
  | .file content => some content

namespace FileEntry

/-- What an entry is. -/
def kind : FileEntry → EntryKind
  | .file content => .file content
  | .directory _ => .directory

/-- The entry to which names lead down from an entry. -/
def at? : FilePath → FileEntry → Option FileEntry
  | [], e => some e
  | _ :: _, .file _ => none
  | name :: rest, .directory entries => (entries.lookup name).bind (at? rest)

theorem at?_append (a b : FilePath) (e : FileEntry) : at? (a ++ b) e = (at? a e).bind (at? b) := by
  induction a generalizing e with
  | nil => rfl
  | cons name a ih =>
    cases e with
    | file => rfl
    | directory entries =>
      show (entries.lookup name).bind (at? (a ++ b)) = ((entries.lookup name).bind (at? a)).bind (at? b)
      cases entries.lookup name with
      | none => rfl
      | some e => exact ih e

/-- Below a file and below an empty directory there is nothing. -/
def IsBare : FileEntry → Prop
  | .file _ => True
  | .directory entries => entries = []

theorem IsBare.at?_cons {e : FileEntry} (h : e.IsBare) (name : String) (rest : FilePath) :
    at? (name :: rest) e = none := by
  cases e with
  | file => rfl
  | directory entries =>
    obtain rfl : entries = [] := h
    rfl

end FileEntry

namespace Folder

variable {f : Folder} {e : FileEntry}

theorem lookup_set (name n : String) (e : FileEntry) (f : Folder) :
    (f.set name e).lookup n = if n = name then some e else f.lookup n := by
  induction f with
  | nil =>
    by_cases h : n = name
    · simp [set, h]
    · have hbeq : (n == name) = false := by simpa using h
      simp [set, List.lookup_cons, hbeq, h]
  | cons entry f ih =>
    obtain ⟨m, old⟩ := entry
    unfold set
    by_cases hm : m = name
    · rw [if_pos hm, List.lookup_cons, List.lookup_cons, hm]
      by_cases h : n = name
      · simp [h]
      · have hbeq : (n == name) = false := by simpa using h
        simp [hbeq, h]
    · rw [if_neg hm, List.lookup_cons, List.lookup_cons, ih]
      by_cases h : n = m
      · have hne : n ≠ name := h ▸ hm
        simp [h, hm]
      · have hbeq : (n == m) = false := by simpa using h
        simp [hbeq]

/-- What is put somewhere stands there. -/
theorem at?_put_self (e : FileEntry) (q : FilePath) : ∀ {path : FilePath} (f : Folder), path ≠ [] →
    FileEntry.at? (path ++ q) (.directory (f.put e path)) = e.at? q
  | [], _, h => absurd rfl h
  | [name], f, _ => by
    show ((f.set name e).lookup name).bind (FileEntry.at? q) = _
    rw [lookup_set, if_pos rfl]
    rfl
  | name :: n :: rest, f, _ => by
    show ((f.set name (.directory (put e (n :: rest) (f.inside name)))).lookup name).bind
      (FileEntry.at? (n :: rest ++ q)) = _
    rw [lookup_set, if_pos rfl]
    exact at?_put_self e q (f.inside name) (List.cons_ne_nil n rest)

/-- What is put into a directory changes no other place. -/
theorem kind_at?_put (e : FileEntry) : ∀ {path q : FilePath} (f : Folder), ¬ path <+: q →
    ((FileEntry.directory f).at? path.dropLast).map FileEntry.kind = some .directory →
    (FileEntry.at? q (.directory (f.put e path))).map FileEntry.kind =
      ((FileEntry.directory f).at? q).map FileEntry.kind
  | [], q, _, h, _ => absurd List.nil_prefix h
  | _ :: _, [], _, _, _ => rfl
  | [name], n :: q, f, h, _ => by
    have hne : n ≠ name := fun heq => h (heq ▸ (List.prefix_append [n] q))
    show (((f.set name e).lookup n).bind (FileEntry.at? q)).map _ = _
    rw [lookup_set, if_neg hne]
    rfl
  | name :: m :: rest, n :: q, f, h, hparent => by
    show (((f.set name (.directory (put e (m :: rest) (f.inside name)))).lookup n).bind
      (FileEntry.at? q)).map _ = _
    rw [lookup_set]
    by_cases hn : n = name
    · subst hn
      have hrest : ¬ m :: rest <+: q := fun hbegins => h (List.cons_prefix_cons.mpr ⟨rfl, hbegins⟩)
      have hdrop : (n :: m :: rest).dropLast = n :: (m :: rest).dropLast := rfl
      rw [hdrop] at hparent
      rw [if_pos rfl]
      cases hlookup : f.lookup n with
      | none => simp [FileEntry.at?, hlookup] at hparent
      | some entry =>
        cases entry with
        | file c =>
          cases rest <;> simp [FileEntry.at?, FileEntry.kind, hlookup] at hparent
        | directory entries =>
          have hinside : f.inside n = entries := by rw [inside, hlookup]
          have hbelow : ((FileEntry.directory entries).at? (m :: rest).dropLast).map
              FileEntry.kind = some .directory := by
            simpa only [FileEntry.at?, hlookup, Option.bind_some] using hparent
          rw [hinside]
          simpa only [FileEntry.at?, hlookup, Option.bind_some] using
            kind_at?_put e entries hrest hbelow
    · rw [if_neg hn]
      rfl

end Folder

namespace FileTree

variable {t u : FileTree}

/-- What stands at a place. -/
def entryAt (t : FileTree) (place : FilePath) : Option FileEntry :=
  (FileEntry.directory t.root).at? place

/-- What there is at a place: nothing, a directory, or a file with what it holds. -/
def kindAt (t : FileTree) (place : FilePath) : Option EntryKind :=
  (t.entryAt place).map FileEntry.kind

/-- What the file at a place holds, if there is one. -/
def contentAt (t : FileTree) (place : FilePath) : Option String :=
  (t.kindAt place).bind EntryKind.content?

theorem contentAt_eq_some_iff {place : FilePath} {c : String} :
    t.contentAt place = some c ↔ t.kindAt place = some (.file c) := by
  unfold contentAt
  cases t.kindAt place with
  | none => simp
  | some kind => cases kind <;> simp [EntryKind.content?]

/-- The names of a trail from the root. -/
def placeOf (trail : Trail) : FilePath := (trail.map Prod.fst).reverse

/-- The directories of a trail are those of the tree. -/
def Leads (t : FileTree) : Trail → Prop
  | [] => True
  | (name, entries) :: trail => t.entry? trail name = some (.directory entries) ∧ t.Leads trail

theorem leads_nil : t.Leads [] := trivial

theorem Leads.tail {trail : Trail} (h : t.Leads trail) : t.Leads trail.tail := by
  cases trail with
  | nil => exact leads_nil
  | cons => exact h.2

theorem entryAt_concat (place : FilePath) (name : String) : t.entryAt (place ++ [name]) =
    (t.entryAt place).bind (FileEntry.at? [name]) := FileEntry.at?_append _ _ _

/-- At the end of a trail stands what the trail says. -/
theorem Leads.entryAt {trail : Trail} (h : t.Leads trail) :
    t.entryAt (placeOf trail) = some (.directory (t.folderAt trail)) := by
  induction trail with
  | nil => rfl
  | cons directory trail ih =>
    obtain ⟨name, entries⟩ := directory
    obtain ⟨hentry, hrest⟩ := h
    have hplace : placeOf ((name, entries) :: trail) = placeOf trail ++ [name] := by
      simp [placeOf]
    rw [hplace, entryAt_concat, ih hrest]
    show ((t.folderAt trail).lookup name).bind (FileEntry.at? []) = _
    rw [show (t.folderAt trail).lookup name = _ from hentry]
    rfl

theorem Leads.kindAt {trail : Trail} (h : t.Leads trail) :
    t.kindAt (placeOf trail) = some .directory := by
  rw [FileTree.kindAt, h.entryAt]
  rfl

/-- The entries of the last directory of a trail stand behind it. -/
theorem Leads.entryAt_pathTo {trail : Trail} (h : t.Leads trail) (name : String) :
    t.entryAt (pathTo trail name) = t.entry? trail name := by
  show t.entryAt (placeOf trail ++ [name]) = _
  rw [entryAt_concat, h.entryAt]
  show (t.entry? trail name).bind (FileEntry.at? []) = _
  cases t.entry? trail name <;> rfl

/-- What is put to a place that is no directory stands there, and all other places stay as they
are. -/
theorem kindAt_put {trail : Trail} {name : String} {e : FileEntry} (htrail : t.Leads trail)
    (he : e.IsBare) (hplace : t.kindAt (pathTo trail name) ≠ some .directory) (q : FilePath) :
    (t.put (pathTo trail name) e).kindAt q =
      if q = pathTo trail name then some e.kind else t.kindAt q := by
  have hne : pathTo trail name ≠ [] := List.append_ne_nil_of_right_ne_nil _ (List.cons_ne_nil _ _)
  by_cases hbegins : pathTo trail name <+: q
  · obtain ⟨below, rfl⟩ := hbegins
    have hput : (t.put (pathTo trail name) e).kindAt (pathTo trail name ++ below) =
        (e.at? below).map FileEntry.kind :=
      congrArg (Option.map FileEntry.kind) (Folder.at?_put_self e below t.root hne)
    rw [hput]
    cases below with
    | nil =>
      rw [List.append_nil, if_pos rfl]
      rfl
    | cons n below =>
      have hlonger : pathTo trail name ++ n :: below ≠ pathTo trail name := by simp
      rw [he.at?_cons, if_neg hlonger]
      -- what stood at the place is no directory, so nothing stood below it
      have hnothing : (t.entryAt (pathTo trail name)).bind (FileEntry.at? (n :: below)) = none := by
        cases hentry : t.entryAt (pathTo trail name) with
        | none => rfl
        | some entry =>
          cases entry with
          | file => rfl
          | directory =>
            rw [FileTree.kindAt, hentry] at hplace
            exact absurd rfl hplace
      rw [FileTree.kindAt, FileTree.entryAt, FileEntry.at?_append]
      exact (congrArg (Option.map FileEntry.kind) hnothing).symm
  · have hself : q ≠ pathTo trail name := fun heq => hbegins (heq ▸ List.prefix_rfl)
    have hparent : t.kindAt (pathTo trail name).dropLast = some .directory := by
      have hdrop : (pathTo trail name).dropLast = placeOf trail := List.dropLast_concat
      rw [hdrop, htrail.kindAt]
    rw [if_neg hself]
    exact Folder.kind_at?_put e t.root hbegins hparent

theorem contentAt_put {trail : Trail} {name : String} {e : FileEntry} (htrail : t.Leads trail)
    (he : e.IsBare) (hplace : t.kindAt (pathTo trail name) ≠ some .directory) (q : FilePath) :
    (t.put (pathTo trail name) e).contentAt q =
      if q = pathTo trail name then e.kind.content? else t.contentAt q := by
  unfold contentAt
  rw [kindAt_put htrail he hplace]
  split <;> rfl

/-! ### Where names lead -/

/-- The place to which names lead from a place. -/
def follow (t : FileTree) (place : FilePath) : List String → Option FilePath
  | [] => some place
  | name :: rest =>
    if name = "" ∨ name = "." then follow t place rest
    else if name = ".." then follow t place.dropLast rest
    else if isLongName name = false ∧ t.kindAt (place ++ [name]) = some .directory then
      follow t (place ++ [name]) rest
    else none

theorem follow_append (place : FilePath) (a b : List String) :
    t.follow place (a ++ b) = (t.follow place a).bind (t.follow · b) := by
  induction a generalizing place with
  | nil => rfl
  | cons name a ih =>
    simp only [List.cons_append, follow]
    split
    · exact ih place
    · split
      · exact ih place.dropLast
      · split
        · exact ih (place ++ [name])
        · rfl

/-- Empty names lead nowhere else. -/
theorem follow_empties (place : FilePath) (names : List String) (k : ℕ) :
    t.follow place (names ++ List.replicate k "") = t.follow place names := by
  have hempties : ∀ place, t.follow place (List.replicate k "") = some place := fun place => by
    induction k with
    | zero => rfl
    | succ k ih =>
      rw [List.replicate_succ, follow, if_pos (.inl rfl)]
      exact ih
  rw [follow_append]
  cases t.follow place names with
  | none => rfl
  | some place => exact hempties place

/-- In a tree with more directories names lead to the same place. -/
theorem follow_mono (h : ∀ q, t.kindAt q = some .directory → u.kindAt q = some .directory)
    {names : List String} {place place' : FilePath} (hfollow : t.follow place names = some place') :
    u.follow place names = some place' := by
  induction names generalizing place with
  | nil => exact hfollow
  | cons name names ih =>
    unfold follow at hfollow ⊢
    split at hfollow
    · next hstay => rw [if_pos hstay]; exact ih hfollow
    · next hstay =>
      rw [if_neg hstay]
      split at hfollow
      · next hback => rw [if_pos hback]; exact ih hfollow
      · next hback =>
        rw [if_neg hback]
        split at hfollow
        · next hdown => rw [if_pos ⟨hdown.1, h _ hdown.2⟩]; exact ih hfollow
        · cases hfollow

theorem entry?_eq_directory_iff {trail : Trail} (h : t.Leads trail) (name : String) :
    (∃ entries, t.entry? trail name = some (.directory entries)) ↔
      t.kindAt (placeOf trail ++ [name]) = some .directory := by
  have hentry := h.entryAt_pathTo name
  constructor
  · rintro ⟨entries, he⟩
    rw [he] at hentry
    exact congrArg (Option.map FileEntry.kind) hentry
  · intro hkind
    have hkind' : (t.entry? trail name).map FileEntry.kind = some .directory := by
      rw [← hentry]
      exact hkind
    cases hlookup : t.entry? trail name with
    | none => simp [hlookup] at hkind'
    | some entry =>
      cases entry with
      | file c => simp [hlookup, FileEntry.kind] at hkind'
      | directory entries => exact ⟨entries, rfl⟩

/-- A walk along the directories of a tree stays on them. -/
theorem walk_leads {trail trail' : Trail} {names : List String} (h : t.Leads trail)
    (hwalk : t.walk trail names = .ok trail') : t.Leads trail' := by
  induction names generalizing trail with
  | nil =>
    obtain rfl := Except.ok.inj hwalk
    exact h
  | cons name names ih =>
    unfold walk at hwalk
    split at hwalk
    · exact ih h hwalk
    · split at hwalk
      · exact ih h.tail hwalk
      · split at hwalk
        · cases hwalk
        · split at hwalk
          · cases hwalk
          · cases hwalk
          · next entries hentry =>
            have hdown : t.Leads ((name, entries) :: trail) := ⟨hentry, h⟩
            exact ih hdown hwalk

/-- Names lead from a place to a place exactly if a walk does. -/
theorem follow_eq_some_iff {trail : Trail} (h : t.Leads trail) (names : List String)
    (place : FilePath) : t.follow (placeOf trail) names = some place ↔
      ∃ trail', t.walk trail names = .ok trail' ∧ placeOf trail' = place := by
  induction names generalizing trail with
  | nil => simp [follow, walk]
  | cons name names ih =>
    unfold follow walk
    split
    · exact ih h
    · split
      · have htail : placeOf trail.tail = (placeOf trail).dropLast := by
          simp [placeOf, List.dropLast_reverse]
        rw [← htail]
        exact ih h.tail
      · cases hlong : isLongName name with
        | true => simp
        | false =>
          simp only [true_and, Bool.false_eq_true, if_false]
          have hdirectory := entry?_eq_directory_iff h name
          cases hentry : t.entry? trail name with
          | none =>
            rw [if_neg fun hkind => by simpa [hentry] using hdirectory.mpr hkind]
            simp
          | some entry =>
            cases entry with
            | file c =>
              rw [if_neg fun hkind => by simpa [hentry] using hdirectory.mpr hkind]
              simp
            | directory entries =>
              have hplace : placeOf trail ++ [name] = placeOf ((name, entries) :: trail) := by
                simp [placeOf]
              have hdown : t.Leads ((name, entries) :: trail) := ⟨hentry, h⟩
              rw [if_pos (hdirectory.mp ⟨entries, hentry⟩), hplace]
              exact ih hdown

/-! ### Where paths lead -/

/-- The place from which a path leads. -/
def startAt (t : FileTree) (p : List Char) : Option FilePath :=
  if p.head? = some '/' then some [] else t.follow [] t.workingDirectory

/-- Names lead to the place from where the path leads from, and the path can be looked up. -/
def LeadsTo (t : FileTree) (p : List Char) (names : List String) (place : FilePath) : Prop :=
  usable p = .ok () ∧ ∃ start, t.startAt p = some start ∧ t.follow start names = some place

theorem LeadsTo.unique {p : List Char} {names : List String} {place place' : FilePath}
    (h : t.LeadsTo p names place) (h' : t.LeadsTo p names place') : place = place' := by
  obtain ⟨-, start, hstart, hfollow⟩ := h
  obtain ⟨-, start', hstart', hfollow'⟩ := h'
  obtain rfl := Option.some.inj (hstart.symm.trans hstart')
  exact Option.some.inj (hfollow.symm.trans hfollow')

/-- A beginning of a path leads from where the path leads from. -/
theorem startAt_of_begins {a p : List Char} (h : a <+: p) (hne : a ≠ []) :
    t.startAt a = t.startAt p := by
  rw [startAt, startAt, head?_of_begins h hne]

theorem LeadsTo.of_begins {a p : List Char} {names : List String} {place : FilePath}
    (h : t.LeadsTo p names place) (hbegins : a <+: p) (hne : a ≠ []) : t.LeadsTo a names place := by
  obtain ⟨husable, start, hstart, hfollow⟩ := h
  exact ⟨usable_of_begins hbegins hne husable, start,
    (startAt_of_begins hbegins hne).trans hstart, hfollow⟩

theorem startAt_mono {p : List Char} {start : FilePath}
    (hdirectory : u.workingDirectory = t.workingDirectory)
    (hkinds : ∀ q, t.kindAt q = some .directory → u.kindAt q = some .directory)
    (h : t.startAt p = some start) : u.startAt p = some start := by
  unfold startAt at h ⊢
  split at h
  · next habsolute => rwa [if_pos habsolute]
  · next habsolute =>
    rw [if_neg habsolute, hdirectory]
    exact follow_mono hkinds h

theorem LeadsTo.mono {p : List Char} {names : List String} {place : FilePath}
    (h : t.LeadsTo p names place) (hdirectory : u.workingDirectory = t.workingDirectory)
    (hkinds : ∀ q, t.kindAt q = some .directory → u.kindAt q = some .directory) :
    u.LeadsTo p names place := by
  obtain ⟨husable, start, hstart, hfollow⟩ := h
  exact ⟨husable, start, startAt_mono hdirectory hkinds hstart, follow_mono hkinds hfollow⟩

/-- Only where names lead matters. -/
theorem LeadsTo.of_follow {p : List Char} {names names' : List String} {place : FilePath}
    (h : t.LeadsTo p names place) (heq : ∀ start, t.follow start names' = t.follow start names) :
    t.LeadsTo p names' place := by
  obtain ⟨husable, start, hstart, hfollow⟩ := h
  exact ⟨husable, start, hstart, (heq start).trans hfollow⟩

theorem startOf_leads {p : List Char} {trail : Trail} (h : t.startOf p = .ok trail) :
    t.Leads trail := by
  unfold startOf at h
  split at h
  · obtain rfl := Except.ok.inj h
    trivial
  · exact walk_leads leads_nil h

theorem startAt_eq_some_iff (p : List Char) (place : FilePath) : t.startAt p = some place ↔
    ∃ trail, t.startOf p = .ok trail ∧ placeOf trail = place := by
  unfold startAt startOf
  split
  · simp [placeOf]
  · exact follow_eq_some_iff leads_nil t.workingDirectory place

theorem reach_leads {p : List Char} {names : List String} {trail : Trail}
    (h : t.reach p names = .ok trail) : t.Leads trail := by
  cases husable : usable p with
  | error e => simp [reach, husable, bind, Except.bind] at h
  | ok =>
    cases hstart : t.startOf p with
    | error e => simp [reach, husable, hstart, bind, Except.bind] at h
    | ok start =>
      have hwalk : t.walk start names = .ok trail := by
        simpa [reach, husable, hstart, bind, Except.bind] using h
      exact walk_leads (startOf_leads hstart) hwalk

/-- A path leads to a place exactly if it is found there. -/
theorem leadsTo_iff {p : List Char} {names : List String} {place : FilePath} :
    t.LeadsTo p names place ↔ ∃ trail, t.reach p names = .ok trail ∧ placeOf trail = place := by
  constructor
  · rintro ⟨husable, start, hstart, hfollow⟩
    obtain ⟨first, hfirst, rfl⟩ := (startAt_eq_some_iff p start).mp hstart
    obtain ⟨trail, hwalk, hplace⟩ :=
      (follow_eq_some_iff (startOf_leads hfirst) names place).mp hfollow
    refine ⟨trail, ?_, hplace⟩
    simpa [reach, husable, hfirst, bind, Except.bind] using hwalk
  · rintro ⟨trail, hreach, hplace⟩
    cases husable : usable p with
    | error e => simp [reach, husable, bind, Except.bind] at hreach
    | ok =>
      cases hstart : t.startOf p with
      | error e => simp [reach, husable, hstart, bind, Except.bind] at hreach
      | ok start =>
        have hwalk : t.walk start names = .ok trail := by
          simpa [reach, husable, hstart, bind, Except.bind] using hreach
        exact ⟨husable, placeOf start, (startAt_eq_some_iff p _).mpr ⟨start, hstart, rfl⟩,
          (follow_eq_some_iff (startOf_leads hstart) names place).mpr ⟨trail, hwalk, hplace⟩⟩

/-- The path of a directory leads to one place. -/
theorem isDirectory_iff {p : List Char} :
    t.isDirectory p = true ↔ ∃ place, t.LeadsTo p (pathNames p) place := by
  unfold isDirectory
  cases hreach : t.reach p (pathNames p) with
  | error e =>
    refine ⟨fun h => (Bool.false_ne_true h).elim, fun ⟨place, h⟩ => ?_⟩
    obtain ⟨trail, htrail, -⟩ := leadsTo_iff.mp h
    rw [hreach] at htrail
    cases htrail
  | ok trail => exact ⟨fun _ => ⟨placeOf trail, leadsTo_iff.mpr ⟨trail, hreach, rfl⟩⟩, fun _ => rfl⟩

/-- What a path leads to is a directory. -/
theorem LeadsTo.kindAt {p : List Char} {names : List String} {place : FilePath}
    (h : t.LeadsTo p names place) : t.kindAt place = some .directory := by
  obtain ⟨trail, hreach, rfl⟩ := leadsTo_iff.mp h
  exact (reach_leads hreach).kindAt

/-! ### Places of entries -/

/-- The name of the entry that a path names, without the slashes at its end. -/
def entryName (p : List Char) : String := String.ofList (splitPath (withoutTail p)).2

/-- The directory of the entry that a path names. -/
def InFolder (t : FileTree) (p : List Char) (folder : FilePath) : Prop :=
  t.LeadsTo p (pathNames (splitPath (withoutTail p)).1) folder

/-- Fronts of paths lead where their names lead. -/
theorem follow_front (p : List Char) (start : FilePath) :
    t.follow start (pathNames p).dropLast = t.follow start (pathNames (splitPath p).1) := by
  obtain ⟨k, l, h⟩ := pathNames_front p
  rw [← follow_empties start _ k, h, follow_empties]

theorem follow_withoutTail (p : List Char) (start : FilePath) :
    t.follow start (pathNames (withoutTail p)) = t.follow start (pathNames p) := by
  obtain ⟨k, h⟩ := pathNames_withoutTail p
  rw [h, follow_empties]

/-- The place of a new entry is its name in its directory. -/
theorem place_eq_ok_iff {p : List Char} {trail : Trail} {name : Option String} :
    t.place p = .ok (trail, name) ↔
      t.reach p (pathNames (withoutTail p)).dropLast = .ok trail ∧
        name = if isStep (entryName p) then none else some (entryName p) := by
  have hname : (pathNames (withoutTail p)).getLast?.getD "" = entryName p := by
    rw [getLast?_pathNames]
    rfl
  unfold place
  dsimp only
  rw [hname]
  cases t.reach p (pathNames (withoutTail p)).dropLast with
  | error e =>
    constructor
    · intro h
      cases h
    · rintro ⟨h, -⟩
      cases h
  | ok found =>
    constructor
    · intro h
      obtain ⟨rfl, rfl⟩ := Prod.mk.inj (Except.ok.inj h)
      exact ⟨rfl, rfl⟩
    · rintro ⟨h, rfl⟩
      obtain rfl := Except.ok.inj h
      rfl

/-- A path has a place for an entry if its front leads to a directory. -/
theorem inFolder_iff {p : List Char} {folder : FilePath} : t.InFolder p folder ↔
    ∃ trail, t.Leads trail ∧ placeOf trail = folder ∧
      t.place p = .ok (trail, if isStep (entryName p) then none else some (entryName p)) := by
  have hfollow : ∀ start, t.follow start (pathNames (withoutTail p)).dropLast =
      t.follow start (pathNames (splitPath (withoutTail p)).1) := follow_front (withoutTail p)
  constructor
  · intro h
    obtain ⟨trail, hreach, hplace⟩ := leadsTo_iff.mp (h.of_follow hfollow)
    exact ⟨trail, reach_leads hreach, hplace, place_eq_ok_iff.mpr ⟨hreach, rfl⟩⟩
  · rintro ⟨trail, -, hplace, hfound⟩
    obtain ⟨hreach, -⟩ := place_eq_ok_iff.mp hfound
    exact (leadsTo_iff.mpr ⟨trail, hreach, hplace⟩).of_follow fun start => (hfollow start).symm

theorem InFolder.mono {p : List Char} {folder : FilePath} (h : t.InFolder p folder)
    (hdirectory : u.workingDirectory = t.workingDirectory)
    (hkinds : ∀ q, t.kindAt q = some .directory → u.kindAt q = some .directory) :
    u.InFolder p folder := LeadsTo.mono h hdirectory hkinds

theorem exists_inFolder {p : List Char} {found : Trail × Option String}
    (h : t.place p = .ok found) : ∃ folder, t.InFolder p folder := by
  obtain ⟨hreach, hname⟩ := place_eq_ok_iff.mp h
  exact ⟨_, inFolder_iff.mpr ⟨found.1, reach_leads hreach, rfl, hname ▸ h⟩⟩

theorem fileAt_unplaced {p : List Char} {fault : PathFault} (h : t.place p = .error fault) :
    t.fileAt p = .error fault := by
  rw [fileAt, h]
  rfl

theorem makeDirectory_unplaced {p : List Char} {fault : PathFault}
    (h : t.place p = .error fault) : t.makeDirectory p = .error fault := by
  rw [makeDirectory, h]
  rfl

/-- A path names a file at its place, if there is no directory and the name is one that a file can
have. -/
theorem fileAt_run {p : List Char} {folder : FilePath} (h : t.InFolder p folder) :
    t.fileAt p =
      if isStep (entryName p) ∨ p.getLast? = some '/' then .error .isDirectory
      else if isLongName (entryName p) then .error .nameTooLong
      else if t.kindAt (folder ++ [entryName p]) = some .directory then .error .isDirectory
      else .ok (folder ++ [entryName p], (t.contentAt (folder ++ [entryName p])).getD "") := by
  obtain ⟨trail, htrail, rfl, hplace⟩ := inFolder_iff.mp h
  have hkind : t.kindAt (placeOf trail ++ [entryName p]) =
      (t.entry? trail (entryName p)).map FileEntry.kind := by
    rw [← htrail.entryAt_pathTo]
    rfl
  unfold fileAt
  rw [hplace]
  cases isStep (entryName p) with
  | true => rfl
  | false =>
    simp only [Bool.false_eq_true, false_or, if_false, bind, Except.bind, contentAt, hkind]
    split
    · rfl
    · split
      · rfl
      · cases t.entry? trail (entryName p) with
        | none => rfl
        | some entry => cases entry <;> rfl

theorem fileAt_eq_ok_iff {p : List Char} {place : FilePath} {content : String} :
    t.fileAt p = .ok (place, content) ↔ ∃ folder, t.InFolder p folder ∧
      isStep (entryName p) = false ∧ p.getLast? ≠ some '/' ∧ isLongName (entryName p) = false ∧
      place = folder ++ [entryName p] ∧ t.kindAt place ≠ some .directory ∧
      content = (t.contentAt place).getD "" := by
  constructor
  · intro h
    have hfolder : ∃ folder, t.InFolder p folder := by
      cases hplace : t.place p with
      | error e =>
        rw [fileAt_unplaced hplace] at h
        cases h
      | ok found => exact exists_inFolder hplace
    obtain ⟨folder, hfolder⟩ := hfolder
    rw [fileAt_run hfolder] at h
    split at h
    · cases h
    · next hname =>
      split at h
      · cases h
      · next hlong =>
        split at h
        · cases h
        · next hkind =>
          obtain ⟨rfl, rfl⟩ := Prod.mk.inj (Except.ok.inj h)
          rw [not_or] at hname
          exact ⟨folder, hfolder, by simpa using hname.1, hname.2, by simpa using hlong, rfl, hkind,
            rfl⟩
  · rintro ⟨folder, hfolder, hstep, hslash, hlong, rfl, hkind, rfl⟩
    rw [fileAt_run hfolder, if_neg (by simp [hstep, hslash]), if_neg (by simp [hlong]), if_neg hkind]

/-- A directory is made at the place of the path, if there is nothing there. -/
theorem makeDirectory_run {p : List Char} {folder : FilePath} (h : t.InFolder p folder) :
    ∃ trail, t.Leads trail ∧ placeOf trail = folder ∧ t.makeDirectory p =
      if isStep (entryName p) then .error .occupied
      else if isLongName (entryName p) then .error .nameTooLong
      else if (t.kindAt (folder ++ [entryName p])).isSome then .error .occupied
      else .ok (t.put (pathTo trail (entryName p)) (.directory [])) := by
  obtain ⟨trail, htrail, rfl, hplace⟩ := inFolder_iff.mp h
  refine ⟨trail, htrail, rfl, ?_⟩
  have hentry : (t.entry? trail (entryName p)).isSome =
      (t.kindAt (placeOf trail ++ [entryName p])).isSome := by
    rw [← htrail.entryAt_pathTo, kindAt, Option.isSome_map]
    rfl
  unfold makeDirectory
  rw [hplace]
  cases isStep (entryName p) with
  | true => rfl
  | false =>
    rw [← hentry]
    rfl

/-- What is added to a file stands at its end, the path still names the file, and nothing else is
changed. -/
theorem append_of_fileAt {p : List Char} {place : FilePath} {content : String}
    (h : t.fileAt p = .ok (place, content)) (s : String) :
    ∃ u, t.append p s = .ok u ∧ u.fileAt p = .ok (place, content ++ s) ∧
      ∀ q, u.contentAt q = if q = place then some (content ++ s) else t.contentAt q := by
  obtain ⟨folder, hfolder, hstep, hslash, hlong, rfl, hkind, -⟩ := fileAt_eq_ok_iff.mp h
  obtain ⟨trail, htrail, rfl, -⟩ := inFolder_iff.mp hfolder
  have hput : t.append p s = .ok (t.put (pathTo trail (entryName p)) (.file (content ++ s))) := by
    rw [append, h]
    rfl
  have hbare : (FileEntry.file (content ++ s)).IsBare := trivial
  have hkinds := kindAt_put htrail hbare hkind
  have hcontents := contentAt_put htrail hbare hkind
  have hkept : ∀ q, t.kindAt q = some .directory →
      (t.put (pathTo trail (entryName p)) (.file (content ++ s))).kindAt q = some .directory :=
    fun q hq => by
      have hne : q ≠ pathTo trail (entryName p) := by
        rintro rfl
        exact hkind hq
      rw [hkinds, if_neg hne, hq]
  have hself : placeOf trail ++ [entryName p] = pathTo trail (entryName p) := rfl
  have hkind' := (hkinds (placeOf trail ++ [entryName p])).trans (if_pos hself)
  have hcontent' := (hcontents (placeOf trail ++ [entryName p])).trans (if_pos hself)
  refine ⟨_, hput, fileAt_eq_ok_iff.mpr ⟨_, hfolder.mono rfl hkept, hstep, hslash, hlong, rfl,
    ?_, ?_⟩, hcontents⟩
  · rw [hkind']
    exact nofun
  · rw [hcontent']
    rfl

/-! ### Directories that are there -/

/-- A name that stands for a directory leads somewhere. -/
theorem exists_follow_step {name : String} (h : isStep name = true) (place : FilePath) :
    ∃ target, t.follow place [name] = some target := by
  unfold follow
  by_cases hstay : name = "" ∨ name = "."
  · exact ⟨place, if_pos hstay⟩
  · have hback : name = ".." := by
      rw [not_or] at hstay
      simpa [isStep, hstay.1, hstay.2] using h
    rw [if_neg hstay, if_pos hback]
    exact ⟨_, rfl⟩

/-- Any other name leads to a directory of that name. -/
theorem exists_follow_iff {name : String} (h : isStep name = false) {place : FilePath} :
    (∃ target, t.follow place [name] = some target) ↔
      isLongName name = false ∧ t.kindAt (place ++ [name]) = some .directory := by
  have hnames : ¬ (name = "" ∨ name = ".") ∧ name ≠ ".." := by
    simpa [isStep, not_or] using h
  unfold follow
  rw [if_neg hnames.1, if_neg hnames.2]
  by_cases hdown : isLongName name = false ∧ t.kindAt (place ++ [name]) = some .directory
  · rw [if_pos hdown]
    exact ⟨fun _ => hdown, fun _ => ⟨_, rfl⟩⟩
  · rw [if_neg hdown]
    exact ⟨fun ⟨_, hnone⟩ => (nomatch hnone), fun hthere => absurd hthere hdown⟩

theorem follow_concat (p : List Char) (start : FilePath) : t.follow start (pathNames p) =
    (t.follow start (pathNames (splitPath (withoutTail p)).1)).bind
      (t.follow · [entryName p]) := by
  have hnames : pathNames (withoutTail p) = (pathNames (withoutTail p)).dropLast ++ [entryName p] :=
    (List.dropLast_append_getLast? _ (getLast?_pathNames (withoutTail p))).symm
  rw [← follow_withoutTail, hnames, follow_append, follow_front]

/-- The path of an entry leads to a directory if its last name does. -/
theorem InFolder.isDirectory_iff {p : List Char} {folder : FilePath} (h : t.InFolder p folder) :
    t.isDirectory p = true ↔ ∃ target, t.follow folder [entryName p] = some target := by
  obtain ⟨husable, start, hstart, hfront⟩ := h
  rw [FileTree.isDirectory_iff]
  constructor
  · rintro ⟨target, -, start', hstart', hfollow⟩
    obtain rfl := Option.some.inj (hstart.symm.trans hstart')
    rw [follow_concat, hfront] at hfollow
    exact ⟨target, hfollow⟩
  · rintro ⟨target, hfollow⟩
    refine ⟨target, husable, start, hstart, ?_⟩
    rw [follow_concat, hfront]
    exact hfollow

/-- A directory stands in a directory. -/
theorem inFolder_of_isDirectory {p : List Char} (h : t.isDirectory p = true) :
    ∃ folder, t.InFolder p folder := by
  obtain ⟨target, husable, start, hstart, hfollow⟩ := FileTree.isDirectory_iff.mp h
  rw [follow_concat] at hfollow
  cases hfront : t.follow start (pathNames (splitPath (withoutTail p)).1) with
  | none => simp [hfront] at hfollow
  | some folder => exact ⟨folder, husable, start, hstart, hfront⟩

end FileTree
end TableLoader
