/-
# Texts that are cut

Where a text is cut at a separator that stands in it once, or at its first or last
separator, the two parts are those that were put together (`cutFirst_append`,
`cutLast_append`). A text whose blanks are cut off at its ends has none there to be
cut off again (`strip_strip`, `tight_iff`), and so the items of a list are read as they
are (`strip_of_mem_items`).

Key definitions: `cutFirst`, `Tight`.
Key theorems: `cutFirst_append`, `cutLast_append`, `exists_trimWhere`, `mem_trimWhere`,
`strip_of_mem_items`, `tight_iff`, `dropStart?_eq_some_iff`.
-/
import Mathlib.Data.List.DropRight
import TableLoader.Text.Blank

namespace TableLoader.Text

/-- The text before and after the first occurrence of `separator`, if it occurs. -/
def cutFirst (separator : Char) (s : List Char) : Option (List Char × List Char) :=
  if separator ∈ s then some (s.takeWhile (· ≠ separator), (s.dropWhile (· ≠ separator)).tail)
  else none

section Cutting

variable {separator : Char} {a b : List Char}

/-- The first separator ends the part in front of it. -/
theorem parts_of_append (h : separator ∉ a) (b : List Char) :
    (a ++ separator :: b).takeWhile (· ≠ separator) = a ∧
      (a ++ separator :: b).dropWhile (· ≠ separator) = separator :: b := by
  have hall : ∀ c ∈ a, decide (c ≠ separator) = true := by
    intro c hc
    have hne : c ≠ separator := fun heq => h (heq ▸ hc)
    simpa using hne
  rw [List.takeWhile_append_of_pos hall, List.dropWhile_append_of_pos hall]
  simp

theorem cutFirst_append (h : separator ∉ a) (b : List Char) :
    cutFirst separator (a ++ separator :: b) = some (a, b) := by
  have hmem : separator ∈ a ++ separator :: b := by simp
  obtain ⟨hfront, hback⟩ := parts_of_append h b
  unfold cutFirst
  rw [if_pos hmem, hfront, hback, List.tail_cons]

theorem cutFirst_eq_none (h : separator ∉ a) : cutFirst separator a = none := if_neg h

theorem cutLast_append (h : separator ∉ b) (a : List Char) :
    cutLast separator (a ++ separator :: b) = some (a, b) := by
  have hmem : separator ∈ a ++ separator :: b := by simp
  have hreverse : (a ++ separator :: b).reverse = b.reverse ++ separator :: a.reverse := by simp
  obtain ⟨hfront, hback⟩ := parts_of_append (a := b.reverse) (by simpa using h) a.reverse
  unfold cutLast
  rw [if_pos hmem, hreverse]
  dsimp only
  rw [hfront, hback]
  simp

theorem cutLast_eq_none (h : separator ∉ a) : cutLast separator a = none := if_neg h

/-- A text in which a separator stands has a last one. -/
theorem exists_last_separator (h : separator ∈ a) :
    ∃ front back, a = front ++ separator :: back ∧ separator ∉ back := by
  obtain ⟨back, front, hreverse, hback⟩ := List.eq_append_cons_of_mem (List.mem_reverse.mpr h)
  refine ⟨front.reverse, back.reverse, ?_, by simpa using hback⟩
  rw [← List.reverse_reverse a, hreverse]
  simp

end Cutting

section Trimming

variable {p : Char → Bool}

theorem trimWhere_eq (p : Char → Bool) (s : List Char) :
    trimWhere p s = (s.dropWhile p).rdropWhile p := rfl

/-- What is left of a text is not cut again. -/
theorem trimWhere_trimWhere (s : List Char) : trimWhere p (trimWhere p s) = trimWhere p s := by
  have hstart : (trimWhere p s).dropWhile p = trimWhere p s := by
    rw [List.dropWhile_eq_self_iff]
    intro hlength
    have hbegins : trimWhere p s <+: s.dropWhile p := List.rdropWhile_prefix p _
    have hlength' : 0 < (s.dropWhile p).length := Nat.lt_of_lt_of_le hlength hbegins.length_le
    have hhead := List.dropWhile_eq_self_iff.mp (List.dropWhile_idempotent p s) hlength'
    rwa [hbegins.getElem hlength]
  rw [trimWhere_eq p (trimWhere p s), hstart, trimWhere_eq p s, List.rdropWhile_idempotent]

/-- What stands around a text and belongs to the class is cut off with what the text has of it. -/
theorem trimWhere_surround {a b : List Char} (ha : ∀ c ∈ a, p c = true) (hb : ∀ c ∈ b, p c = true)
    (s : List Char) : trimWhere p (a ++ s ++ b) = trimWhere p s := by
  have hend : ∀ x : List Char, (x ++ b).rdropWhile p = x.rdropWhile p := fun x => by
    rw [List.rdropWhile, List.reverse_append, List.dropWhile_append_of_pos (by simpa using hb)]
    rfl
  rw [trimWhere_eq, trimWhere_eq, List.append_assoc, List.dropWhile_append_of_pos ha,
    List.dropWhile_append]
  split
  · next hempty =>
    have hnil : s.dropWhile p = [] := List.isEmpty_iff.mp hempty
    rw [hnil, List.dropWhile_eq_nil_iff.mpr hb]
  · exact hend _

/-- A text is what is left of it between the two ends that are cut off. -/
theorem exists_trimWhere (p : Char → Bool) (s : List Char) :
    ∃ before after, (∀ c ∈ before, p c = true) ∧ (∀ c ∈ after, p c = true) ∧
      s = before ++ trimWhere p s ++ after := by
  have hstart := List.takeWhile_append_dropWhile (p := p) (l := s)
  have hend := List.rdropWhile_append_rtakeWhile (p := p) (l := s.dropWhile p)
  refine ⟨s.takeWhile p, (s.dropWhile p).rtakeWhile p,
    fun c hc => List.mem_takeWhile_imp hc, fun c hc => List.mem_rtakeWhile_imp hc, ?_⟩
  rw [trimWhere_eq, List.append_assoc, hend, hstart]

/-- A text that neither begins nor ends with the class is not cut. -/
theorem trimWhere_eq_self {c d : Char} {s : List Char} (hc : p c = false) (hd : p d = false) :
    trimWhere p (c :: (s ++ [d])) = c :: (s ++ [d]) := by
  have hstart : (c :: (s ++ [d])).dropWhile p = c :: (s ++ [d]) :=
    List.dropWhile_cons_of_neg (by simp [hc])
  rw [trimWhere_eq, hstart, ← List.cons_append, List.rdropWhile_concat_neg _ _ _ (by simp [hd])]

theorem mem_dropWhile {c : Char} {s : List Char} (hc : c ∈ s) (hp : p c = false) :
    c ∈ s.dropWhile p := by
  rw [← List.takeWhile_append_dropWhile (p := p) (l := s)] at hc
  rcases List.mem_append.mp hc with htaken | hleft
  · have htrue := List.mem_takeWhile_imp htaken
    rw [hp] at htrue
    cases htrue
  · exact hleft

/-- Characters outside the class are not cut off. -/
theorem mem_trimWhere {c : Char} {s : List Char} (hc : c ∈ s) (hp : p c = false) :
    c ∈ trimWhere p s := by
  have hstart : c ∈ s.dropWhile p := mem_dropWhile hc hp
  have hend : c ∈ (s.dropWhile p).reverse.dropWhile p :=
    mem_dropWhile (List.mem_reverse.mpr hstart) hp
  exact List.mem_reverse.mpr hend

theorem strip_strip (s : String) : strip (strip s) = strip s := by
  unfold strip trim
  rw [String.toList_ofList, trimWhere_trimWhere]

/-- The items of a list have no blanks around them. -/
theorem strip_of_mem_items {item s : String} (h : item ∈ items s) : strip item = item := by
  unfold items at h
  obtain ⟨x, -, rfl⟩ := List.mem_map.mp (List.mem_of_mem_filter h)
  exact strip_strip x

theorem dropWhile_eq_self_iff {s : List Char} :
    s.dropWhile p = s ↔ ∀ c ∈ s.head?, p c = false := by
  cases s with
  | nil => simp
  | cons c s =>
    rw [List.dropWhile_eq_self_iff]
    simp

/-- Exactly the texts that neither begin nor end with the class are not cut. -/
theorem trimWhere_eq_self_iff {s : List Char} : trimWhere p s = s ↔
    (∀ c ∈ s.head?, p c = false) ∧ ∀ c ∈ s.getLast?, p c = false := by
  have hlast : s.rdropWhile p = s ↔ ∀ c ∈ s.getLast?, p c = false := by
    rw [List.rdropWhile, List.reverse_eq_iff, dropWhile_eq_self_iff, List.head?_reverse]
  rw [trimWhere_eq, ← dropWhile_eq_self_iff, ← hlast]
  constructor
  · intro h
    have hback : s.dropWhile p <:+ s := List.dropWhile_suffix p
    have hfront : s <+: s.dropWhile p := by
      conv_lhs => rw [← h]
      exact List.rdropWhile_prefix p _
    have hstart : s.dropWhile p = s :=
      hback.eq_of_length (Nat.le_antisymm hback.length_le hfront.length_le)
    rw [hstart] at h
    exact ⟨hstart, h⟩
  · rintro ⟨hstart, hend⟩
    rw [hstart, hend]

end Trimming

/-- The text is not empty, and neither its first nor its last character is a blank. -/
structure Tight (s : String) : Prop where
  nonempty : s ≠ ""
  first : ∀ c ∈ s.toList.head?, isBlank c = false
  last : ∀ c ∈ s.toList.getLast?, isBlank c = false

theorem tight_iff {s : String} : Tight s ↔ strip s = s ∧ s ≠ "" := by
  have hstrip : strip s = s ↔ trimWhere isBlank s.toList = s.toList := by
    rw [strip, trim, ← String.toList_inj, String.toList_ofList]
  rw [hstrip, trimWhere_eq_self_iff]
  exact ⟨fun h => ⟨⟨h.first, h.last⟩, h.nonempty⟩, fun h => ⟨h.2, h.1.1, h.1.2⟩⟩

/-! ### Beginnings -/

/-- The beginning that is taken off a text stands in front of what is left. -/
theorem dropStart?_eq_some_iff {start s rest : String} :
    dropStart? start s = some rest ↔ s = start ++ rest := by
  unfold dropStart?
  constructor
  · intro h
    split at h
    · next hbegins =>
      obtain ⟨back, hback⟩ := List.isPrefixOf_iff_prefix.mp hbegins
      obtain rfl := Option.some.inj h
      rw [← hback, List.drop_left, ← String.toList_inj, String.toList_append, String.toList_ofList,
        hback]
    · cases h
  · rintro rfl
    have hbegins : start.toList.isPrefixOf (start ++ rest).toList = true := by
      rw [String.toList_append]
      exact List.isPrefixOf_iff_prefix.mpr (List.prefix_append _ _)
    rw [if_pos hbegins, String.toList_append, List.drop_left, String.ofList_toList]

theorem startsWith_eq_isSome (start s : String) :
    startsWith start s = (dropStart? start s).isSome := by
  unfold startsWith dropStart?
  by_cases h : start.toList.isPrefixOf s.toList = true
  · rw [if_pos h, h]
    rfl
  · rw [if_neg h, Bool.eq_false_iff.mpr h]
    rfl

theorem startsWith_append (start rest : String) : startsWith start (start ++ rest) = true := by
  rw [startsWith, String.toList_append]
  exact List.isPrefixOf_iff_prefix.mpr (List.prefix_append _ _)

theorem dropStart?_append (start rest : String) : dropStart? start (start ++ rest) = some rest :=
  dropStart?_eq_some_iff.mpr rfl

end TableLoader.Text
