/-
# Chunks of a list

The batches into which a list falls: full chunks as long as there are enough
items, and one last chunk with what is left, which may be empty. So `n` items
make `n / b` full chunks of `b` and one of `n % b`.

Key definitions: `chunks`.
Key theorems: `chunks_of_lt`, `chunks_append`, `flatten_chunks`,
`map_length_chunks`.
-/
namespace TableLoader

variable {α : Type} {b : Nat}

/-- The full chunks of `b` items, and one with the rest. -/
def chunks (b : Nat) (l : List α) : List (List α) :=
  (List.range (l.length / b + 1)).map fun i => (l.drop (i * b)).take b

@[simp] theorem length_chunks (b : Nat) (l : List α) :
    (chunks b l).length = l.length / b + 1 := by
  simp [chunks]

/-- Fewer items than a chunk holds are the last chunk. -/
theorem chunks_of_lt {l : List α} (h : l.length < b) : chunks b l = [l] := by
  simp [chunks, Nat.div_eq_of_lt h, List.take_of_length_le (Nat.le_of_lt h)]

/-- A full chunk in front of a list is the first chunk. -/
theorem chunks_append {first : List α} (hfirst : first.length = b) (hb : 0 < b) (l : List α) :
    chunks b (first ++ l) = first :: chunks b l := by
  have hlen : (first ++ l).length / b = l.length / b + 1 := by
    rw [List.length_append, hfirst, Nat.add_div_left _ hb]
  have hdrop : ∀ i, (first ++ l).drop ((i + 1) * b) = l.drop (i * b) := fun i => by
    rw [List.drop_append, List.drop_of_length_le (by rw [hfirst, Nat.succ_mul]; omega), hfirst,
      Nat.succ_mul, Nat.add_sub_cancel]
    rfl
  unfold chunks
  rw [hlen, List.range_succ_eq_map, List.map_cons, List.map_map]
  simp only [Function.comp_def, Nat.succ_eq_add_one, hdrop]
  simp [← hfirst]

/-- Full chunks and fewer items than a chunk holds are the chunks of what they make together. -/
theorem chunks_flatten_append (hb : 0 < b) {last : List α} (hlast : last.length < b) :
    ∀ {full : List (List α)}, (∀ c ∈ full, c.length = b) →
    chunks b (full.flatten ++ last) = full ++ [last]
  | [], _ => chunks_of_lt hlast
  | first :: rest, hfull => by
    rw [List.flatten_cons, List.append_assoc,
      chunks_append (hfull first List.mem_cons_self) hb,
      chunks_flatten_append hb hlast fun c hc => hfull c (List.mem_cons_of_mem _ hc),
      List.cons_append]

/-- What holds of lists shorter than a chunk, and of a list with a full chunk in front of it if
it holds of the list, holds of all. -/
theorem chunk_induction {P : List α → Prop} (hb : 0 < b) (short : ∀ l, l.length < b → P l)
    (full : ∀ first l, first.length = b → P l → P (first ++ l)) : ∀ l, P l := by
  intro l
  induction hn : l.length using Nat.strongRecOn generalizing l with
  | ind n ih =>
    by_cases hl : l.length < b
    · exact short l hl
    · rw [← List.take_append_drop b l]
      refine full _ _ (by simp; omega) (ih (l.drop b).length ?_ _ rfl)
      rw [List.length_drop]
      omega

/-- The chunks, put together, are the list. -/
theorem flatten_chunks (hb : 0 < b) (l : List α) : (chunks b l).flatten = l := by
  induction l using chunk_induction hb with
  | short l hl => simp [chunks_of_lt hl]
  | full first l hfirst ih => rw [chunks_append hfirst hb, List.flatten_cons, ih]

/-- All chunks but the last are full. -/
theorem map_length_chunks (hb : 0 < b) (l : List α) :
    (chunks b l).map List.length = List.replicate (l.length / b) b ++ [l.length % b] := by
  induction l using chunk_induction hb with
  | short l hl => simp [chunks_of_lt hl, Nat.div_eq_of_lt hl, Nat.mod_eq_of_lt hl]
  | full first l hfirst ih =>
    rw [chunks_append hfirst hb, List.map_cons, ih, List.length_append, hfirst,
      Nat.add_div_left _ hb, Nat.add_mod_left, List.replicate_succ, List.cons_append]

end TableLoader
