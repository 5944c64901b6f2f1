/-
# Lists written with commas

A list is written as its items with commas between them. Around each item there may be
blanks, and between, before and behind the items any number of pieces that are blank or
empty (`Lists`). However a list is written, its items are read in their order and as often
as they stand there, without the blanks around them (`items_of_lists`). Blanks around the
whole text make no difference (`items_strip`), so it does not matter whether they were cut
off before. Every text is a way to write the list of its items (`lists_items`).

Key definitions: `Lists`.
Key theorems: `items_append`, `items_of_lists`, `items_strip`,
`lists_items`.
-/
import TableLoader.Proofs.Text.Cut

namespace TableLoader.Text

/-- All characters are blanks. -/
def Blanks (s : List Char) : Prop := ∀ c ∈ s, isBlank c = true

/-- The text is a way to write the list of the items. -/
inductive Lists : List Char → List String → Prop where
  | blank {s : List Char} : Blanks s → Lists s []
  | item {before after : List Char} (item : String) : Blanks before → Blanks after →
      Lists (before ++ item.toList ++ after) [item]
  | comma {s t : List Char} {items more : List String} : Lists s items → Lists t more →
      Lists (s ++ ',' :: t) (items ++ more)

/-- A comma separates the items in front of it from those behind it. -/
theorem items_append (s t : List Char) :
    items (.ofList (s ++ ',' :: t)) = items (.ofList s) ++ items (.ofList t) := by
  unfold items splitAt
  rw [String.toList_ofList, String.toList_ofList, String.toList_ofList,
    List.splitOn_append_cons_self, List.map_append, List.map_append, List.filter_append]

/-- A text without commas is one item, or none if it is blank. -/
theorem items_plain {s : List Char} (h : ',' ∉ s) :
    items (.ofList s) = [strip (.ofList s)].filter (· ≠ "") := by
  unfold items splitAt
  rw [String.toList_ofList, List.splitOn_eq_singleton h]
  rfl

section Surrounded

variable {before after : List Char}

theorem not_mem_blanks (h : Blanks before) : ',' ∉ before := fun hmem => by
  have hcomma : isBlank ',' = true := h ',' hmem
  revert hcomma
  decide

/-- Blanks around a text without commas are cut off with its own. -/
theorem items_plain_surround {s : List Char} (hbefore : Blanks before) (hafter : Blanks after)
    (h : ',' ∉ s) : items (.ofList (before ++ s ++ after)) = items (.ofList s) := by
  have hsurrounded : ',' ∉ before ++ s ++ after := by
    simp [not_mem_blanks hbefore, not_mem_blanks hafter, h]
  have hstrip : strip (.ofList (before ++ s ++ after)) = strip (.ofList s) := by
    unfold strip trim
    rw [String.toList_ofList, String.toList_ofList, trimWhere_surround hbefore hafter]
  rw [items_plain hsurrounded, items_plain h, hstrip]

/-- Blanks in front of a text belong to its first piece, which ends at the first comma. -/
theorem items_front (hbefore : Blanks before) (s : List Char) :
    items (.ofList (before ++ s)) = items (.ofList s) := by
  have hplain : ∀ a, ',' ∉ a → items (.ofList (before ++ a)) = items (.ofList a) := fun a ha => by
    have h : items (.ofList (before ++ a ++ [])) = items (.ofList a) :=
      items_plain_surround hbefore nofun ha
    rwa [List.append_nil] at h
  by_cases hcomma : ',' ∈ s
  · obtain ⟨a, b, rfl, ha⟩ := List.eq_append_cons_of_mem hcomma
    rw [← List.append_assoc, items_append, items_append, hplain a ha]
  · exact hplain s hcomma

/-- Blanks behind a text belong to its last piece, which begins behind the last comma. -/
theorem items_back (hafter : Blanks after) (s : List Char) :
    items (.ofList (s ++ after)) = items (.ofList s) := by
  have hplain : ∀ b, ',' ∉ b → items (.ofList (b ++ after)) = items (.ofList b) := fun b hb => by
    have h : items (.ofList ([] ++ b ++ after)) = items (.ofList b) :=
      items_plain_surround nofun hafter hb
    rwa [List.nil_append] at h
  by_cases hcomma : ',' ∈ s
  · obtain ⟨a, b, rfl, hb⟩ := exists_last_separator hcomma
    rw [List.append_assoc, List.cons_append, items_append, items_append, hplain b hb]
  · exact hplain s hcomma

end Surrounded

theorem exists_trim (s : List Char) :
    ∃ before after, Blanks before ∧ Blanks after ∧ s = before ++ trim s ++ after :=
  exists_trimWhere isBlank s

/-- Blanks around a list make no difference. -/
theorem items_strip (s : String) : items (strip s) = items s := by
  obtain ⟨before, after, hbefore, hafter, hs⟩ := exists_trim s.toList
  calc items (strip s)
      = items (.ofList (before ++ trim s.toList)) := (items_front hbefore _).symm
    _ = items (.ofList (before ++ trim s.toList ++ after)) := (items_back hafter _).symm
    _ = items s := by rw [← hs, String.ofList_toList]

/-- **Items are read as they are listed**: in their order and as often as they stand there. -/
theorem items_of_lists {s : List Char} {names : List String} (h : Lists s names)
    (hnames : ∀ name ∈ names, strip name ≠ "" ∧ ',' ∉ name.toList) :
    items (.ofList s) = names.map strip := by
  induction h with
  | blank hblank =>
    have hnone := items_front hblank []
    rw [List.append_nil] at hnone
    exact hnone
  | item name hbefore hafter =>
    obtain ⟨hname, hplain⟩ := hnames name (List.mem_singleton_self _)
    rw [items_plain_surround hbefore hafter hplain, items_plain hplain, String.ofList_toList]
    simpa using hname
  | comma _ _ ih ihmore =>
    obtain ⟨hitems, hmore⟩ := List.forall_mem_append.mp hnames
    rw [items_append, ih hitems, ihmore hmore, List.map_append]

/-- A text without commas lists what is left of it, if that is not empty. -/
theorem lists_plain {s : List Char} (h : ',' ∉ s) : Lists s (items (.ofList s)) := by
  obtain ⟨before, after, hbefore, hafter, hs⟩ := exists_trim s
  have hstrip : strip (.ofList s) = .ofList (trim s) := by rw [strip, String.toList_ofList]
  rw [items_plain h, hstrip]
  by_cases hleft : trim s = []
  · have hblank : Blanks s := by
      rw [hs, hleft, List.append_nil]
      exact List.forall_mem_append.mpr ⟨hbefore, hafter⟩
    rw [hleft]
    exact .blank hblank
  · have hne : String.ofList (trim s) ≠ "" := by simpa using hleft
    have hitem := Lists.item (.ofList (trim s)) hbefore hafter
    rw [String.toList_ofList, ← hs] at hitem
    simpa [hne] using hitem

/-- Every text is a way to write the list of its items. -/
theorem lists_items (s : List Char) : Lists s (items (.ofList s)) := by
  by_cases hcomma : ',' ∈ s
  · obtain ⟨a, b, hs, ha⟩ := List.eq_append_cons_of_mem hcomma
    have hshorter : b.length < s.length := by
      rw [hs, List.length_append, List.length_cons]
      omega
    rw [hs, items_append]
    exact .comma (lists_plain ha) (lists_items b)
  · exact lists_plain hcomma
termination_by s.length

end TableLoader.Text
