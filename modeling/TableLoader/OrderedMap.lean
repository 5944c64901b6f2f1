/-
# Maps that keep the order of their keys

Settings, environments and table schemas are maps whose order shows in what is
sent and logged: a key stands where it first came, with the value it last got.
The keys of such a map are distinct by construction.

Key definitions: `OrderedMap`, `insert`, `get?`, `ofList`, `merge`.
Key lemmas: `keys_insert`, `lookup_isSome_iff`, `get?_insert`, `get?_ofList`,
`entries_ofList`, `get?_of_mem_entries`.
-/

namespace TableLoader

/-- Keys with their values, in the order in which the keys first came. -/
structure OrderedMap (κ α : Type) where
  entries : List (κ × α)
  nodup : (entries.map Prod.fst).Nodup

namespace OrderedMap

variable {κ α : Type} [DecidableEq κ]

def empty : OrderedMap κ α := ⟨[], List.nodup_nil⟩

instance : Inhabited (OrderedMap κ α) := ⟨empty⟩

/-- The keys, in order. -/
def keys (m : OrderedMap κ α) : List κ := m.entries.map Prod.fst

/-- The value of a key. -/
def get? (m : OrderedMap κ α) (k : κ) : Option α := m.entries.lookup k

/-- The map has the key. -/
def contains (m : OrderedMap κ α) (k : κ) : Bool := decide (k ∈ m.keys)

/-- `entries` with the value of the key `k`, which is there, replaced. -/
def replace (k : κ) (v : α) (entries : List (κ × α)) : List (κ × α) :=
  entries.map fun e => if e.1 = k then (k, v) else e

theorem keys_replace (k : κ) (v : α) (entries : List (κ × α)) :
    (replace k v entries).map Prod.fst = entries.map Prod.fst := by
  simp only [replace, List.map_map]
  refine List.map_congr_left fun e _ => ?_
  simp only [Function.comp_apply]
  split
  · next h => exact h.symm
  · rfl

/-- Gives `k` the value `v`, at the end if `k` is new and in its place if it is not. -/
def insert (m : OrderedMap κ α) (k : κ) (v : α) : OrderedMap κ α :=
  if h : k ∈ m.keys then ⟨replace k v m.entries, keys_replace k v m.entries ▸ m.nodup⟩
  else ⟨m.entries ++ [(k, v)], by
    simp only [List.map_append, List.map_cons, List.map_nil]
    refine List.nodup_append.mpr ⟨m.nodup, by simp, ?_⟩
    intro a ha b hb
    simp only [List.mem_singleton] at hb
    rintro rfl
    exact h (hb ▸ ha)⟩

/-- The map of a list of pairs: each key where it first came, with its last value. -/
def ofList (pairs : List (κ × α)) : OrderedMap κ α :=
  pairs.foldl (fun m e => m.insert e.1 e.2) empty

/-- `base` with all pairs of `later` put into it. -/
def merge (base later : OrderedMap κ α) : OrderedMap κ α :=
  later.entries.foldl (fun m e => m.insert e.1 e.2) base

/-- The number of keys. -/
def size (m : OrderedMap κ α) : Nat := m.entries.length

theorem keys_insert (m : OrderedMap κ α) (k : κ) (v : α) :
    (m.insert k v).keys = if k ∈ m.keys then m.keys else m.keys ++ [k] := by
  unfold insert
  split
  · exact keys_replace k v m.entries
  · simp [keys]

theorem get?_eq_none {m : OrderedMap κ α} {k : κ} (h : k ∉ m.keys) : m.get? k = none := by
  simp only [get?, List.lookup_eq_none_iff]
  intro e he
  have : k ≠ e.1 := fun hk => h (hk ▸ List.mem_map_of_mem he)
  simpa using this

theorem lookup_isSome_iff (k : κ) : ∀ entries : List (κ × α),
    (entries.lookup k).isSome = true ↔ k ∈ entries.map Prod.fst
  | [] => by simp
  | (x, a) :: es => by
    rw [List.lookup_cons, List.map_cons, List.mem_cons, ← lookup_isSome_iff k es]
    by_cases h : k = x
    · simp [h]
    · have hbeq : (k == x) = false := by simpa using h
      rw [hbeq, or_iff_right h]

theorem contains_eq_isSome (m : OrderedMap κ α) (k : κ) : m.contains k = (m.get? k).isSome := by
  rw [Bool.eq_iff_iff, contains, decide_eq_true_iff]
  exact (lookup_isSome_iff k m.entries).symm

theorem lookup_replace_self {k : κ} (v : α) :
    ∀ {entries : List (κ × α)}, k ∈ entries.map Prod.fst →
      (replace k v entries).lookup k = some v
  | [], h => by simp at h
  | (x, y) :: es, h => by
    by_cases hk : x = k
    · simp [replace, hk]
    · have hk' : (k == x) = false := by simpa using Ne.symm hk
      simp only [replace, List.map_cons, if_neg hk, List.lookup_cons, hk']
      exact lookup_replace_self v (by simpa [Ne.symm hk] using h)

theorem lookup_replace_of_ne {k k' : κ} (v : α) (hne : k' ≠ k) :
    ∀ entries : List (κ × α), (replace k v entries).lookup k' = entries.lookup k'
  | [] => rfl
  | (x, y) :: es => by
    have ih := lookup_replace_of_ne v hne es
    simp only [replace] at ih
    by_cases hk : x = k
    · have h1 : (k' == k) = false := by simpa using hne
      simp [replace, List.lookup_cons, hk, h1, ih]
    · simp only [replace, List.map_cons, if_neg hk, List.lookup_cons, ih]

theorem get?_insert_self (m : OrderedMap κ α) (k : κ) (v : α) :
    (m.insert k v).get? k = some v := by
  unfold insert
  split
  · next h => exact lookup_replace_self v h
  · next h =>
    have := get?_eq_none h
    simp only [get?] at this ⊢
    rw [List.lookup_append, this]
    simp

theorem get?_insert_of_ne (m : OrderedMap κ α) {k k' : κ} (v : α) (h : k' ≠ k) :
    (m.insert k v).get? k' = m.get? k' := by
  unfold insert
  split
  · exact lookup_replace_of_ne v h m.entries
  · have h1 : (k' == k) = false := by simpa using h
    simp [get?, List.lookup_append, List.lookup_cons, h1]

theorem get?_insert (m : OrderedMap κ α) (k k' : κ) (v : α) :
    (m.insert k v).get? k' = if k' = k then some v else m.get? k' := by
  by_cases h : k' = k
  · rw [if_pos h, h, get?_insert_self]
  · rw [if_neg h, get?_insert_of_ne m v h]

theorem lookup_map_snd {β : Type} (f : α → β) (k : κ) : ∀ l : List (κ × α),
    (l.map fun e => (e.1, f e.2)).lookup k = (l.lookup k).map f
  | [] => rfl
  | (x, a) :: l => by
    rw [List.map_cons, List.lookup_cons, List.lookup_cons, lookup_map_snd f k l]
    cases k == x <;> rfl

/-- Of several values that are put in for a key the last one counts. -/
theorem get?_foldl_insert (k : κ) : ∀ (pairs : List (κ × α)) (m : OrderedMap κ α),
    (pairs.foldl (fun m e => m.insert e.1 e.2) m).get? k =
      (pairs.reverse.lookup k).or (m.get? k)
  | [], m => rfl
  | (x, v) :: pairs, m => by
    rw [List.foldl_cons, get?_foldl_insert k pairs, get?_insert, List.reverse_cons,
      List.lookup_append, Option.or_assoc, List.lookup_cons, List.lookup_nil]
    by_cases h : k = x
    · simp [h]
    · have hbeq : (k == x) = false := by simpa using h
      rw [if_neg h, hbeq, Option.none_or]

/-- Of several values for a key the last one counts. -/
theorem get?_ofList (pairs : List (κ × α)) (k : κ) :
    (ofList pairs).get? k = pairs.reverse.lookup k := by
  rw [ofList, get?_foldl_insert]
  exact Option.or_none

/-- A new key stands at the end. -/
theorem entries_insert {m : OrderedMap κ α} {k : κ} (h : k ∉ m.keys) (v : α) :
    (m.insert k v).entries = m.entries ++ [(k, v)] := by
  unfold insert
  rw [dif_neg h]

theorem entries_foldl_insert : ∀ (pairs : List (κ × α)) (m : OrderedMap κ α),
    (m.keys ++ pairs.map Prod.fst).Nodup →
    (pairs.foldl (fun m e => m.insert e.1 e.2) m).entries = m.entries ++ pairs
  | [], m, _ => (List.append_nil m.entries).symm
  | (k, v) :: pairs, m, h => by
    have hnew : k ∉ m.keys := fun hk =>
      (List.nodup_append.mp h).2.2 k hk k List.mem_cons_self rfl
    have hkeys : (m.insert k v).keys = m.keys ++ [k] := by rw [keys_insert, if_neg hnew]
    have hrest : ((m.insert k v).keys ++ pairs.map Prod.fst).Nodup := by
      rw [hkeys, List.append_assoc]
      exact h
    rw [List.foldl_cons, entries_foldl_insert pairs _ hrest, entries_insert hnew,
      List.append_assoc]
    rfl

/-- Pairs with distinct keys are the entries of their map. -/
theorem entries_ofList {pairs : List (κ × α)} (h : (pairs.map Prod.fst).Nodup) :
    (ofList pairs).entries = pairs :=
  entries_foldl_insert pairs empty h

/-- Every entry is the value of its key. -/
theorem get?_of_mem_entries {m : OrderedMap κ α} {k : κ} {v : α} (h : (k, v) ∈ m.entries) :
    m.get? k = some v := by
  obtain ⟨entries, hnodup⟩ := m
  show entries.lookup k = some v
  replace h : (k, v) ∈ entries := h
  induction entries with
  | nil => cases h
  | cons e entries ih =>
    obtain ⟨x, y⟩ := e
    rw [List.map_cons, List.nodup_cons] at hnodup
    rcases List.mem_cons.mp h with heq | hmem
    · obtain ⟨rfl, rfl⟩ := Prod.mk.inj heq
      simp
    · have hne : k ≠ x := by
        rintro rfl
        exact hnodup.1 (List.mem_map.mpr ⟨(k, v), hmem, rfl⟩)
      have hbeq : (k == x) = false := by simpa using hne
      rw [List.lookup_cons, hbeq]
      exact ih hnodup.2 hmem

end OrderedMap
end TableLoader
