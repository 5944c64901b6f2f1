/-
# The names in a path

A path is its names with slashes between them (`pathNames_append`). Slashes at the end
add empty names only (`pathNames_withoutTail`), and the front of a path has all of its
names but the last one, and perhaps empty ones (`pathNames_front`). Both are beginnings of
the path, so they can be looked up if the path can, from where the path leads from.

Key theorems: `pathNames_append`, `pathNames_withoutTail`, `pathNames_front`,
`splitLast_eq`, `usable_of_begins`.
-/
import Mathlib.Data.List.DropRight
import TableLoader.FileTree

namespace TableLoader

open FileTree

/-! ### Names -/

/-- The names of a path are those in front of a slash and those behind it. -/
theorem pathNames_append (a b : List Char) :
    pathNames (a ++ '/' :: b) = pathNames a ++ pathNames b := by
  unfold pathNames
  rw [List.splitOn_append_cons_self, List.map_append]

theorem pathNames_plain {p : List Char} (h : '/' ∉ p) : pathNames p = [String.ofList p] := by
  unfold pathNames
  rw [List.splitOn_eq_singleton h]
  rfl

/-- Slashes behind a path add empty names. -/
theorem pathNames_slashes (a : List Char) (k : ℕ) :
    pathNames (a ++ List.replicate k '/') = pathNames a ++ List.replicate k "" := by
  induction k generalizing a with
  | zero => simp
  | succ k ih =>
    have hslash : a ++ List.replicate (k + 1) '/' = (a ++ ['/']) ++ List.replicate k '/' := by
      simp [List.replicate_succ]
    have hone : pathNames (a ++ ['/']) = pathNames a ++ [""] := pathNames_append a []
    rw [hslash, ih, hone, List.append_assoc, List.replicate_succ]
    rfl

/-! ### Slashes at the end -/

theorem withoutTail_eq (p : List Char) : withoutTail p = p.rdropWhile (· = '/') := rfl

/-- A path has slashes only behind what is left without them. -/
theorem exists_slashes (p : List Char) : ∃ k, p = withoutTail p ++ List.replicate k '/' := by
  have hslashes : p.rtakeWhile (· = '/') =
      List.replicate (p.rtakeWhile (· = '/')).length '/' :=
    List.eq_replicate_iff.mpr ⟨rfl, fun c hc => by simpa using List.mem_rtakeWhile_imp hc⟩
  refine ⟨(p.rtakeWhile (· = '/')).length, ?_⟩
  rw [withoutTail_eq, ← hslashes]
  exact List.rdropWhile_append_rtakeWhile.symm

theorem withoutTail_begins (p : List Char) : withoutTail p <+: p := List.rdropWhile_prefix _ p

/-- The names of a path are those without the slashes at its end, and empty ones. -/
theorem pathNames_withoutTail (p : List Char) :
    ∃ k, pathNames p = pathNames (withoutTail p) ++ List.replicate k "" := by
  obtain ⟨k, hp⟩ := exists_slashes p
  refine ⟨k, ?_⟩
  conv_lhs => rw [hp]
  exact pathNames_slashes _ k

/-- Without the slashes at its end no path ends in one. -/
theorem withoutTail_eq_self_iff {p : List Char} : withoutTail p = p ↔ p.getLast? ≠ some '/' := by
  rw [withoutTail_eq]
  cases p using List.reverseRecOn with
  | nil => simp
  | append_singleton p c =>
    by_cases h : c = '/'
    · have hshort := (List.rdropWhile_prefix (· = '/') p).length_le
      have hcut : (p ++ [c]).rdropWhile (· = '/') = p.rdropWhile (· = '/') :=
        List.rdropWhile_concat_pos _ _ _ (by simpa using h)
      rw [hcut]
      refine ⟨fun heq => ?_, fun hne => absurd (by simp [h]) hne⟩
      have hlength := congrArg List.length heq
      simp at hlength
      omega
    · rw [List.rdropWhile_concat_neg _ _ _ (by simpa using h)]
      simp [h]

/-! ### Fronts -/

/-- What a path is cut into: its last name, in which there is no slash, and what stands before it,
which ends in a slash unless it is empty. Slashes at the end of the front are dropped, unless it
has nothing else. -/
theorem splitPath_cases (p : List Char) : ∃ before, p = before ++ (splitPath p).2 ∧
    '/' ∉ (splitPath p).2 ∧ (before = [] ∨ ∃ b, before = b ++ ['/']) ∧
    (splitPath p).1 = if withoutTail before = [] then before else withoutTail before := by
  have hparts : p.rdropWhile (· ≠ '/') ++ p.rtakeWhile (· ≠ '/') = p :=
    List.rdropWhile_append_rtakeWhile
  have hname : (splitPath p).2 = p.rtakeWhile (· ≠ '/') := rfl
  have hbefore : p.take (p.length - (splitPath p).2.length) = p.rdropWhile (· ≠ '/') := by
    have hlength := congrArg List.length hparts
    rw [List.length_append] at hlength
    have htake : p.length - (splitPath p).2.length = (p.rdropWhile (· ≠ '/')).length := by
      rw [hname]
      omega
    rw [htake]
    exact (List.prefix_iff_eq_take.mp (List.rdropWhile_prefix _ p)).symm
  refine ⟨p.rdropWhile (· ≠ '/'), ?_, ?_, ?_, ?_⟩
  · rw [hname, hparts]
  · rw [hname]
    intro hslash
    have := List.mem_rtakeWhile_imp hslash
    simp at this
  · cases hcases : p.rdropWhile (· ≠ '/') using List.reverseRecOn with
    | nil => exact .inl rfl
    | append_singleton b c =>
      have hlast := List.rdropWhile_last_not (· ≠ '/') p (by rw [hcases]; simp)
      simp only [hcases] at hlast
      have hc : c = '/' := by simpa using hlast
      exact .inr ⟨b, by rw [hc]⟩
  · have hall : (p.rdropWhile (· ≠ '/')).all (· = '/') = true ↔
        withoutTail (p.rdropWhile (· ≠ '/')) = [] := by
      rw [withoutTail_eq, List.rdropWhile_eq_nil_iff, List.all_eq_true]
    have hsplit : (splitPath p).1 = if (p.rdropWhile (· ≠ '/')).all (· = '/') then
        p.rdropWhile (· ≠ '/') else withoutTail (p.rdropWhile (· ≠ '/')) := by
      rw [← hbefore]
      rfl
    rw [hsplit]
    by_cases h : withoutTail (p.rdropWhile (· ≠ '/')) = []
    · rw [if_pos h, if_pos (hall.mpr h)]
    · rw [if_neg h, if_neg fun h' => h (hall.mp h')]

theorem splitPath_begins (p : List Char) : (splitPath p).1 <+: p := by
  obtain ⟨before, hp, -, -, hfront⟩ := splitPath_cases p
  have hbefore : before <+: p := ⟨_, hp.symm⟩
  rw [hfront]
  split
  · exact hbefore
  · exact (withoutTail_begins before).trans hbefore

/-- The last name of a path is what stands behind its last slash. -/
theorem getLast?_pathNames (p : List Char) :
    (pathNames p).getLast? = some (String.ofList (splitPath p).2) := by
  obtain ⟨before, hp, hname, hbefore, -⟩ := splitPath_cases p
  conv_lhs => rw [hp]
  obtain rfl | ⟨b, rfl⟩ := hbefore
  · rw [List.nil_append, pathNames_plain hname]
    rfl
  · rw [List.append_assoc, List.singleton_append, pathNames_append, pathNames_plain hname]
    simp

/-- The front of a path has all of its names but the last one, and otherwise empty ones. -/
theorem pathNames_front (p : List Char) : ∃ k l, (pathNames p).dropLast ++ List.replicate k "" =
    pathNames (splitPath p).1 ++ List.replicate l "" := by
  obtain ⟨before, hp, hname, hbefore, hfront⟩ := splitPath_cases p
  have hnames : (pathNames p).dropLast ++ [""] = pathNames before := by
    conv_lhs => rw [hp]
    obtain rfl | ⟨b, rfl⟩ := hbefore
    · rw [List.nil_append, pathNames_plain hname]
      rfl
    · rw [List.append_assoc, List.singleton_append, pathNames_append, pathNames_plain hname,
        pathNames_append, List.dropLast_append_of_ne_nil (List.cons_ne_nil _ _),
        List.dropLast_singleton, List.append_nil]
      rfl
  obtain ⟨k, htail⟩ := pathNames_withoutTail before
  rw [hfront]
  split
  · exact ⟨1, 0, by rw [← hnames]; simp⟩
  · exact ⟨1, k, by rw [← htail, ← hnames]; rfl⟩

/-- Slashes at the end of a path are passed over. -/
theorem splitLast_eq {p : List Char} (h : withoutTail p ≠ []) :
    splitLast p = splitPath (withoutTail p) := by
  obtain ⟨before, hp, hname, hbefore, hfront⟩ := splitPath_cases p
  by_cases hempty : (splitPath p).2 = []
  · rw [hempty, List.append_nil] at hp
    obtain rfl := hp
    rw [if_neg h] at hfront
    simp only [splitLast, hempty, if_true, hfront]
  · have hself : withoutTail p = p := by
      rw [withoutTail_eq_self_iff, hp, List.getLast?_append_of_ne_nil _ hempty]
      exact fun hslash => hname (List.mem_of_getLast? hslash)
    rw [hself]
    simp only [splitLast, hempty, if_false]

/-- A path of slashes has no last name. -/
theorem splitLast_slashes {p : List Char} (h : withoutTail p = []) : (splitLast p).2 = [] := by
  have hname : ∀ q, withoutTail q = [] → (splitPath q).2 = [] := fun q hq => by
    obtain ⟨before, hp, hplain, -, -⟩ := splitPath_cases q
    obtain ⟨k, hslashes⟩ := exists_slashes q
    rw [hq, List.nil_append] at hslashes
    refine List.eq_nil_iff_forall_not_mem.mpr fun c hc => hplain ?_
    have hmem : c ∈ q := hp ▸ List.mem_append_right before hc
    rw [hslashes] at hmem
    rwa [← (List.mem_replicate.mp hmem).2]
  obtain ⟨before, hp, -, -, hfront⟩ := splitPath_cases p
  have hempty := hname p h
  rw [hempty, List.append_nil] at hp
  rw [← hp, if_pos h] at hfront
  simp only [splitLast, hempty, if_true, hfront]

theorem splitLast_ne_nil {p : List Char} (h : withoutTail p ≠ []) : (splitLast p).2 ≠ [] := by
  rw [splitLast_eq h]
  intro hempty
  obtain ⟨before, hp, -, hbefore, -⟩ := splitPath_cases (withoutTail p)
  rw [hempty, List.append_nil] at hp
  obtain rfl | ⟨b, rfl⟩ := hbefore
  · exact h hp
  · have hself : withoutTail (withoutTail p) = withoutTail p :=
      List.rdropWhile_idempotent _ _
    rw [withoutTail_eq_self_iff, hp] at hself
    simp at hself

theorem withoutTail_ne_nil {p : List Char} (h : (splitLast p).2 ≠ []) : withoutTail p ≠ [] :=
  fun hslashes => h (splitLast_slashes hslashes)

theorem splitLast_begins (p : List Char) : (splitLast p).1 <+: p := by
  unfold splitLast
  dsimp only
  split
  · exact (splitPath_begins _).trans (splitPath_begins p)
  · exact splitPath_begins p

/-! ### Beginnings of paths -/

/-- A path that can be looked up has no mark in it that ends it. -/
theorem usable_eq_ok_iff {p : List Char} : usable p = .ok () ↔
    pathEnd ∉ p ∧ (String.ofList p).utf8ByteSize ≤ pathLimit ∧ p ≠ [] := by
  unfold usable
  by_cases hend : pathEnd ∈ p
  · simp [hend]
  · by_cases hlimit : pathLimit < (String.ofList p).utf8ByteSize
    · simp [hend, hlimit, Nat.not_le_of_lt hlimit]
    · by_cases hempty : p = []
      · simp [hempty]
      · simp [hend, hlimit, hempty, Nat.le_of_not_lt hlimit]

theorem usable_of_begins {a p : List Char} (h : a <+: p) (hne : a ≠ []) (hp : usable p = .ok ()) :
    usable a = .ok () := by
  obtain ⟨hend, hlimit, -⟩ := usable_eq_ok_iff.mp hp
  obtain ⟨b, rfl⟩ := h
  refine usable_eq_ok_iff.mpr ⟨fun hmem => hend (List.mem_append_left b hmem), ?_, hne⟩
  rw [String.ofList_append, String.utf8ByteSize_append] at hlimit
  omega

theorem head?_of_begins {a p : List Char} (h : a <+: p) (hne : a ≠ []) : a.head? = p.head? := by
  obtain ⟨b, rfl⟩ := h
  exact (List.head?_append_of_ne_nil a hne).symm

/-- The only fault of a path without the mark that ends one is its length. -/
theorem mem_of_usable_invalid {p : List Char} (h : usable p = .error .invalid) : pathEnd ∈ p := by
  unfold usable at h
  split at h
  · assumption
  · split at h
    · cases h
    · split at h <;> cases h

end TableLoader
