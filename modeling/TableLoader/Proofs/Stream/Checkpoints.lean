/-
# Where queries keep their progress

Each query of a streaming load has a name of its own and a directory of its own,
whatever the sinks are called and wherever the directories stand (`start_apart`).
Names of sinks may be the same, end in numbers, or look like paths: a name of a
query, and the path that is made of it, end in an underscore and the number of the
query (`Numbered`), and what stands behind the last underscore of a text is one
number (`Numbered.unique`).

Paths that differ may still lead to the same directory, as `/a//b` and `/a/b` do. The
last parts of these paths differ, so their directories do.

Key definitions: `Numbered`, `lastPart`.
Key theorems: `Numbered.unique`, `numbered_joinPath`, `start_apart`.
-/
import TableLoader.Proofs.Stream.Routing
import TableLoader.Proofs.Text.Integer

namespace TableLoader

/-! ### Numbers at the end -/

/-- The text ends in an underscore and a number. -/
def Numbered (i : Nat) (s : String) : Prop := ∃ front, s = front ++ "_" ++ toString i

/-- What is no digit stands in no number. -/
theorem not_mem_toString {c : Char} (hdigit : c.isDigit = false) (i : Nat) :
    c ∉ (toString i).toList := fun hmem => by
  rw [Number.isDigit_of_mem_toString hmem] at hdigit
  cases hdigit

/-- The characters of a text with a number at its end. -/
theorem numbered_iff {i : Nat} {s : String} :
    Numbered i s ↔ ∃ front, s.toList = front ++ '_' :: (toString i).toList := by
  constructor
  · rintro ⟨front, rfl⟩
    exact ⟨front.toList, by simp⟩
  · rintro ⟨front, h⟩
    refine ⟨String.ofList front, ?_⟩
    rw [← String.toList_inj, h]
    simp

/-- A text ends in one number: no number has an underscore in it. -/
theorem Numbered.unique {i j : Nat} {s : String} (h : Numbered i s) (h' : Numbered j s) :
    i = j := by
  obtain ⟨front, hi⟩ := numbered_iff.mp h
  obtain ⟨front', hj⟩ := numbered_iff.mp h'
  have hcut := Text.cutLast_append (not_mem_toString (by decide : '_'.isDigit = false) i) front
  rw [← hi, hj, Text.cutLast_append (not_mem_toString (by decide) j)] at hcut
  obtain ⟨-, hnumber⟩ := Prod.mk.inj (Option.some.inj hcut)
  rw [Number.toList_toString, Number.toList_toString] at hnumber
  rw [← Nat.ofDigitChars_ten_toDigits (n := i), ← hnumber, Nat.ofDigitChars_ten_toDigits]

theorem Numbered.append {i : Nat} {s : String} (h : Numbered i s) (front : String) :
    Numbered i (front ++ s) := by
  obtain ⟨middle, rfl⟩ := h
  exact ⟨front ++ middle, by simp only [String.append_assoc]⟩

/-! ### Paths -/

/-- What stands behind the last slash of a path. -/
def lastPart (path : String) : String :=
  ((Text.cutLast '/' path.toList).map fun parts => String.ofList parts.2).getD path

/-- A path keeps the number at its end, whether it is put behind a directory or stands alone. -/
theorem numbered_joinPath {i : Nat} {name : String} (h : Numbered i name) (directory : String) :
    Numbered i (joinPath directory name) := by
  unfold joinPath
  split
  · exact h
  split
  · exact h.append directory
  · exact h.append (directory ++ "/")

/-- The last part of a path with a number at its end has it too. -/
theorem numbered_lastPart {i : Nat} {path : String} (h : Numbered i path) :
    Numbered i (lastPart path) := by
  obtain ⟨front, hpath⟩ := numbered_iff.mp h
  have hslash : '/' ∉ (toString i).toList := not_mem_toString (by decide) i
  by_cases hfront : '/' ∈ front
  · obtain ⟨before, behind, rfl, hbehind⟩ := Text.exists_last_separator hfront
    have hpart : '/' ∉ behind ++ '_' :: (toString i).toList := by
      simpa [hbehind] using hslash
    rw [List.append_assoc, List.cons_append] at hpath
    unfold lastPart
    rw [hpath, Text.cutLast_append hpart]
    exact numbered_iff.mpr ⟨behind, String.toList_ofList⟩
  · have hpath' : '/' ∉ path.toList := by
      rw [hpath]
      simpa [hfront] using hslash
    unfold lastPart
    rw [Text.cutLast_eq_none hpath']
    exact h

/-! ### Queries -/

namespace Stream

theorem numbered_queryName (i : Nat) (t : Target) : Numbered i (queryName i t) := ⟨_, rfl⟩

/-- The name of a query is not empty, so the query gets it. -/
theorem name_queryFor (config : Config) (root source : String) (i : Nat) (t : Target) :
    (queryFor config root source i t).name = some (queryName i t) := by
  have hne : queryName i t ≠ "" := by
    obtain ⟨front, h⟩ := numbered_iff.mp (numbered_queryName i t)
    intro hempty
    simp [hempty] at h
  simp [queryFor, Query.make, Text.nonEmpty?, Option.filter, hne]

theorem checkpoint_queryFor (config : Config) (root source : String) (i : Nat) (t : Target) :
    (queryFor config root source i t).checkpoint = joinPath root (queryName i t) := by
  rw [queryFor, Query.make]

/-- Texts of queries that end in the numbers of the queries are distinct. -/
theorem nodup_of_numbered (config : Config) (root source : String) (text : Query → String)
    (targets : List Target)
    (h : ∀ i t, Numbered i (text (queryFor config root source i t))) :
    ((queriesFrom config root source 0 targets).map text).Nodup := by
  unfold queriesFrom
  rw [List.map_map]
  have hnumbers : ((targets.zipIdx 0).map Prod.snd).Nodup := by
    rw [List.zipIdx_map_snd]
    exact List.nodup_range'
  refine List.pairwise_map.mpr ((List.pairwise_map.mp hnumbers).imp fun {a b} hne heq => hne ?_)
  have hsame : text (queryFor config root source a.2 a.1) =
      text (queryFor config root source b.2 b.1) := heq
  have ha := h a.2 a.1
  rw [hsame] at ha
  exact ha.unique (h b.2 b.1)

/-- The queries have distinct names, and distinct directories for their progress. -/
theorem queriesFrom_apart (config : Config) (root source : String) (targets : List Target) :
    let queries := queriesFrom config root source 0 targets
    (∃ names : List String, queries.map Query.name = names.map some ∧ names.Nodup) ∧
      (queries.map Query.checkpoint).Nodup ∧ (queries.map fun q => lastPart q.checkpoint).Nodup := by
  have hpath : ∀ i t, Numbered i (queryFor config root source i t).checkpoint := fun i t => by
    rw [checkpoint_queryFor]
    exact numbered_joinPath (numbered_queryName i t) root
  have hpart : ∀ i t, Numbered i (lastPart (queryFor config root source i t).checkpoint) :=
    fun i t => numbered_lastPart (hpath i t)
  refine ⟨⟨(queriesFrom config root source 0 targets).map fun q => q.name.getD "", ?_, ?_⟩,
    nodup_of_numbered config root source Query.checkpoint targets hpath,
    nodup_of_numbered config root source (fun q => lastPart q.checkpoint) targets hpart⟩
  · rw [List.map_map]
    refine List.map_congr_left fun q hq => ?_
    obtain ⟨t, -, rfl⟩ := List.mem_map.mp hq
    rw [Function.comp_apply, name_queryFor]
    rfl
  · refine nodup_of_numbered config root source (fun q => q.name.getD "") targets fun i t => ?_
    rw [name_queryFor]
    exact numbered_queryName i t

/-- **Queries never share their progress.** A load fails before it starts a query, since the place
for their progress cannot be written; or it starts one query for each target, or none without a
source. The names of these queries are distinct, and so are the paths where they keep their progress,
even in their last parts. -/
theorem start_apart {σ : Type} (config : Config) (sources transforms : List String)
    (targets : List Target) (s : σ) (w : World) :
    (∃ e, checkpointRoot config = .error e ∧ sources ≠ [] ∧
      start config sources transforms targets s w = ⟨.error e, s, w, []⟩) ∨
    ∃ queries, (start config sources transforms targets s w).result = .ok queries ∧
      queries.length = (if sources = [] then 0 else targets.length) ∧
      (∃ names : List String, queries.map Query.name = names.map some ∧ names.Nodup) ∧
      (queries.map Query.checkpoint).Nodup ∧
      (queries.map fun q => lastPart q.checkpoint).Nodup := by
  cases sources with
  | nil => exact .inr ⟨[], rfl, rfl, ⟨[], rfl, List.nodup_nil⟩, List.nodup_nil, List.nodup_nil⟩
  | cons source more =>
    cases hroot : checkpointRoot config with
    | error e =>
      refine .inl ⟨e, rfl, List.cons_ne_nil _ _, ?_⟩
      rw [start, hroot]
      rfl
    | ok root =>
      obtain ⟨es, hstart⟩ :=
        startFrom_run (σ := σ) config root (transformed source transforms) 0 targets
      have htargets :=
        map_target_queriesFrom config root (transformed source transforms) 0 targets
      refine .inr ⟨queriesFrom config root (transformed source transforms) 0 targets, ?_, ?_,
        queriesFrom_apart config root (transformed source transforms) targets⟩
      · rw [start, hroot, Act.ofExcept_ok_bind, hstart]
      · rw [if_neg (List.cons_ne_nil _ _), ← List.length_map Query.target, htargets]

/-- Sinks of the same name, of a name that ends in a number, and of one that looks like a path. -/
example : (queriesFrom placedConfig "/cp" "src" 0 [.other "A" none, .other "A" none,
      .other "A_0" none, .other "/cp/A_1" none]).map Query.checkpoint =
    ["/cp/a_0", "/cp/a_1", "/cp/a_0_2", "/cp/a_1_3"] := by decide +kernel

end Stream
end TableLoader
