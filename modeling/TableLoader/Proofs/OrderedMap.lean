/-
# The order of keys

A map is told by its keys, in their order, and by their values (`ext_keys`). The keys
of the map of a list stand where they come first in it (`keys_ofList_pairwise`).

Merging two maps keeps the keys of the first one where they are and puts the new ones
at the end (`keys_merge`); the values of the second one count (`get?_merge`). So
merging once more with the same map changes nothing (`merge_merge`), and entries of a
kind that the first map does not have are those of the second one, in their order
(`filter_entries_merge`).

Keys that are texts can be sorted, which leaves nothing of their order
(`sorted_keys_eq`).

Key theorems: `ext_keys`, `keys_ofList_pairwise`, `keys_merge`, `get?_merge`,
`merge_merge`, `filter_entries_merge`, `sorted_keys_lt`, `sorted_keys_eq`.
-/
import Mathlib.Data.List.Induction
import Mathlib.Data.String.Basic
import TableLoader.OrderedMap

namespace TableLoader
namespace OrderedMap

variable {κ α : Type}

theorem ext_entries : ∀ {m m' : OrderedMap κ α}, m.entries = m'.entries → m = m'
  | ⟨_, _⟩, ⟨_, _⟩, rfl => rfl

variable [DecidableEq κ]

/-- The entries with keys of a kind are those of these keys, in order. -/
theorem filter_entries (m : OrderedMap κ α) (kind : κ → Bool) :
    m.entries.filter (fun e => kind e.1) =
      (m.keys.filter kind).filterMap fun k => (m.get? k).map (k, ·) := by
  have hvalues : ∀ e ∈ m.entries.filter (fun e => kind e.1),
      some e = (m.get? e.1).map (e.1, ·) := fun e he => by
    rw [get?_of_mem_entries (k := e.1) (v := e.2) (List.mem_of_mem_filter he)]
    rfl
  rw [keys, List.filter_map, List.filterMap_map]
  exact List.filterMap_some.symm.trans (List.filterMap_congr hvalues)

/-- The entries are those of the keys, in order. -/
theorem entries_eq_filterMap (m : OrderedMap κ α) :
    m.entries = m.keys.filterMap fun k => (m.get? k).map (k, ·) := by
  have hall := m.filter_entries fun _ => true
  rwa [List.filter_true, List.filter_true] at hall

/-- Maps with the same keys in the same order and the same values are the same. -/
theorem ext_keys {m m' : OrderedMap κ α} (hkeys : m.keys = m'.keys)
    (hvalues : ∀ k, m.get? k = m'.get? k) : m = m' := by
  refine ext_entries ?_
  rw [m.entries_eq_filterMap, m'.entries_eq_filterMap, hkeys]
  exact List.filterMap_congr fun k _ => by rw [hvalues k]

/-- The map of its own entries is the map. -/
theorem ofList_entries (m : OrderedMap κ α) : ofList m.entries = m :=
  ext_entries (entries_ofList m.nodup)

/-! ### Maps of lists -/

theorem mem_keys_iff {m : OrderedMap κ α} {k : κ} : k ∈ m.keys ↔ ∃ v, m.get? k = some v := by
  rw [← Option.isSome_iff_exists, get?, lookup_isSome_iff]
  rfl

theorem mem_of_lookup {l : List (κ × α)} {k : κ} {v : α} (h : l.lookup k = some v) :
    (k, v) ∈ l := by
  obtain ⟨front, back, rfl, -⟩ := List.lookup_eq_some_iff.mp h
  exact List.mem_append_right front List.mem_cons_self

/-- A key that stands for one value only has this value. -/
theorem lookup_eq_some_iff {l : List (κ × α)} {k : κ}
    (h : ∀ v v', (k, v) ∈ l → (k, v') ∈ l → v = v') (v : α) : l.lookup k = some v ↔ (k, v) ∈ l := by
  refine ⟨mem_of_lookup, fun hv => ?_⟩
  obtain ⟨v', hlookup⟩ := Option.isSome_iff_exists.mp
    ((lookup_isSome_iff k l).mpr (List.mem_map.mpr ⟨(k, v), hv, rfl⟩))
  rw [hlookup, h v v' hv (mem_of_lookup hlookup)]

/-- The values of the keys do not depend on the order of the entries. -/
theorem get?_of_perm {m m' : OrderedMap κ α} (h : m.entries.Perm m'.entries) (k : κ) :
    m.get? k = m'.get? k := by
  have hvalue : ∀ (m : OrderedMap κ α) v, m.get? k = some v ↔ (k, v) ∈ m.entries :=
    fun m v => ⟨mem_of_lookup, get?_of_mem_entries⟩
  refine Option.ext fun v => ?_
  rw [hvalue, hvalue, h.mem_iff]

theorem mem_keys_ofList {pairs : List (κ × α)} {k : κ} :
    k ∈ (ofList pairs).keys ↔ k ∈ pairs.map Prod.fst := by
  rw [mem_keys_iff, ← Option.isSome_iff_exists, get?_ofList, lookup_isSome_iff, List.map_reverse,
    List.mem_reverse]

theorem ofList_concat (pairs : List (κ × α)) (k : κ) (v : α) :
    ofList (pairs ++ [(k, v)]) = (ofList pairs).insert k v := by
  rw [ofList, List.foldl_append]
  rfl

/-- The keys stand in the order in which they come first. -/
theorem keys_ofList_pairwise (pairs : List (κ × α)) : (ofList pairs).keys.Pairwise fun k k' =>
    (pairs.map Prod.fst).idxOf k < (pairs.map Prod.fst).idxOf k' := by
  induction pairs using List.reverseRecOn with
  | nil => exact List.Pairwise.nil
  | append_singleton pairs e ih =>
    obtain ⟨x, v⟩ := e
    have hold : ∀ {k}, k ∈ (ofList pairs).keys →
        ((pairs ++ [(x, v)]).map Prod.fst).idxOf k = (pairs.map Prod.fst).idxOf k := fun hk => by
      rw [List.map_append, List.idxOf_append_of_mem (mem_keys_ofList.mp hk)]
    have hkept := ih.imp_of_mem (S := fun k k' => ((pairs ++ [(x, v)]).map Prod.fst).idxOf k <
        ((pairs ++ [(x, v)]).map Prod.fst).idxOf k') fun hk hk' hlt => by
      rwa [hold hk, hold hk']
    rw [ofList_concat, keys_insert]
    split
    · exact hkept
    · next hnew =>
      refine List.pairwise_append.mpr ⟨hkept, List.pairwise_singleton _ _, fun k hk k' hk' => ?_⟩
      rw [List.mem_singleton.mp hk', hold hk, List.map_append,
        List.idxOf_append_of_notMem fun hx => hnew (mem_keys_ofList.mpr hx)]
      exact Nat.lt_of_lt_of_le (List.idxOf_lt_length_of_mem (mem_keys_ofList.mp hk))
        (Nat.le_add_right _ _)

/-! ### Merged maps -/

/-- The value that was put in later counts. -/
theorem get?_merge (base later : OrderedMap κ α) (k : κ) :
    (base.merge later).get? k = (later.get? k).or (base.get? k) := by
  have hlater : later.entries.reverse.lookup k = later.get? k := by
    rw [← get?_ofList, ofList_entries]
  rw [merge, get?_foldl_insert, hlater]

theorem keys_foldl_insert : ∀ (pairs : List (κ × α)) (m : OrderedMap κ α),
    (pairs.map Prod.fst).Nodup → (pairs.foldl (fun m e => m.insert e.1 e.2) m).keys =
      m.keys ++ (pairs.map Prod.fst).filter (· ∉ m.keys)
  | [], m, _ => (List.append_nil m.keys).symm
  | (k, v) :: pairs, m, h => by
    obtain ⟨hnew, hrest⟩ := List.nodup_cons.mp h
    rw [List.foldl_cons, keys_foldl_insert pairs _ hrest, keys_insert, List.map_cons,
      List.filter_cons]
    by_cases hk : k ∈ m.keys
    · simp [hk]
    · have hothers : (pairs.map Prod.fst).filter (· ∉ m.keys ++ [k]) =
          (pairs.map Prod.fst).filter (· ∉ m.keys) := by
        refine List.filter_congr fun x hx => ?_
        have hne : x ≠ k := fun hxk => hnew (hxk ▸ hx)
        simp [hne]
      simp only [hk, not_false_eq_true, decide_true, ↓reduceIte]
      rw [hothers, List.append_assoc]
      rfl

/-- The new keys stand at the end. -/
theorem keys_merge (base later : OrderedMap κ α) :
    (base.merge later).keys = base.keys ++ later.keys.filter (· ∉ base.keys) :=
  keys_foldl_insert later.entries base later.nodup

/-- Merging once more changes nothing. -/
theorem merge_merge (base later : OrderedMap κ α) :
    base.merge (base.merge later) = base.merge later := by
  refine ext_keys ?_ fun k => ?_
  · rw [keys_merge, keys_merge, List.filter_append, List.filter_filter]
    simp
  · rw [get?_merge, get?_merge, Option.or_assoc, Option.or_self]

/-- Entries of a kind that `base` does not have all come from `later`. -/
theorem filter_entries_merge {base : OrderedMap κ α} {kind : κ → Bool}
    (h : ∀ k ∈ base.keys, kind k = false) (later : OrderedMap κ α) :
    (base.merge later).entries.filter (fun e => kind e.1) =
      later.entries.filter fun e => kind e.1 := by
  have hkeys : (base.merge later).keys.filter kind = later.keys.filter kind := by
    have hbase : base.keys.filter kind = [] :=
      List.filter_eq_nil_iff.mpr fun k hk => Bool.eq_false_iff.mp (h k hk)
    rw [keys_merge, List.filter_append, hbase, List.nil_append, List.filter_filter]
    refine List.filter_congr fun k _ => Bool.and_eq_left_iff_imp.mpr fun hk => ?_
    exact decide_eq_true fun hmem => Bool.eq_false_iff.mp (h k hmem) hk
  rw [filter_entries, filter_entries, hkeys]
  refine List.filterMap_congr fun k hk => ?_
  have hbase : base.get? k = none := get?_eq_none fun hmem =>
    Bool.eq_false_iff.mp (h k hmem) (List.mem_filter.mp hk).2
  rw [get?_merge, hbase, Option.or_none]

/-! ### Sorted keys -/

section Sorted

variable {α β : Type}

/-- Keys that are sorted stand in increasing order. -/
theorem sorted_keys_lt (m : OrderedMap String α) :
    (m.keys.mergeSort fun a b => a ≤ b).Pairwise (· < ·) := by
  have hle : (m.keys.mergeSort fun a b => a ≤ b).Pairwise (decide <| · ≤ ·) := by
    refine List.pairwise_mergeSort (fun a b c hab hbc => ?_) (fun a b => ?_) m.keys
    · rw [decide_eq_true_eq] at hab hbc ⊢
      exact String.le_trans hab hbc
    · rw [Bool.or_eq_true, decide_eq_true_eq, decide_eq_true_eq]
      exact le_total a b
  have hne : (m.keys.mergeSort fun a b => a ≤ b).Pairwise (· ≠ ·) :=
    (List.mergeSort_perm _ _).nodup_iff.mpr m.nodup
  refine hle.imp₂ (fun a b hab hne => ?_) hne
  exact lt_of_le_of_ne (of_decide_eq_true hab) hne

/-- There is one order in which keys are sorted. -/
theorem sorted_keys_eq_of_perm {m : OrderedMap String α} {keys : List String}
    (hperm : m.keys.Perm keys) (hlt : keys.Pairwise (· < ·)) :
    (m.keys.mergeSort fun a b => a ≤ b) = keys :=
  ((List.mergeSort_perm _ _).trans hperm).eq_of_pairwise
    (fun _ _ _ _ hab hba => absurd hab hba.asymm) m.sorted_keys_lt hlt

/-- Maps with the same keys have them in the same order once they are sorted. -/
theorem sorted_keys_eq {m : OrderedMap String α} {m' : OrderedMap String β}
    (h : ∀ k, m.contains k = m'.contains k) :
    (m.keys.mergeSort fun a b => a ≤ b) = m'.keys.mergeSort fun a b => a ≤ b := by
  have hkeys : m.keys.Perm m'.keys := by
    refine (List.perm_ext_iff_of_nodup m.nodup m'.nodup).mpr fun k => ?_
    have hk := h k
    unfold contains at hk
    rwa [decide_eq_decide] at hk
  exact sorted_keys_eq_of_perm (hkeys.trans (List.mergeSort_perm _ _).symm) m'.sorted_keys_lt

end Sorted

end OrderedMap
end TableLoader
