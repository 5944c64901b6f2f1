/-
# Columns with wrappers

`Nullable` and `LowCardinality` change nothing about the values of a column: what is
bound, what is sent and what is refused depend on the type inside them only. A
statement with other column types than another one, but with the same types inside
all such wrappers, takes rows as the other one does (`addRow_retyped`), and a column
with wrappers binds values as the column inside does (`bindValue_retyped`). What a
column gets without a value differs with `Nullable`, but not with `LowCardinality`
(`defaultParameter_printed`).

Key definitions: `Statement.retyped`, `Statement.withType`.
Key theorems: `core_printed`, `addRow_retyped`, `bindValue_retyped`,
`printed_binds_alike`.
-/
import TableLoader.Binding
import TableLoader.Proofs.ColumnType.Nesting
import TableLoader.Proofs.RowTuple

namespace TableLoader

open Calendar

namespace ColumnType

/-- The type inside all wrappers is inside no more of them. -/
theorem core_core (t : ColumnType) : t.core.core = t.core := by
  induction t with
  | plain type raw => rfl
  | wrapped wrapper raw inner ih =>
    cases h : wrapper.isTransparent with
    | true => simpa [core, h] using ih
    | false => simp [core, h]

/-- Layers of `Nullable` and `LowCardinality` around a text do not change the type inside. -/
theorem core_printed {layers : List Layer}
    (h : ∀ l ∈ layers, l.wrapper.isTransparent = true) (s : List Char) :
    (ofChars (printed layers s)).core = (ofChars s).core := by
  induction layers with
  | nil => rfl
  | cons l layers ih =>
    obtain ⟨hl, hlayers⟩ := List.forall_mem_cons.mp h
    rw [printed_cons, ofChars_around, core, if_pos hl, ih hlayers]

/-- Layers of `LowCardinality` do not change what a field gets without a value. -/
theorem defaultParameter_printed {layers : List Layer}
    (h : ∀ l ∈ layers, l.wrapper = .lowCardinality) (s : List Char) (now : DateTime) :
    (ofChars (printed layers s)).defaultParameter now = (ofChars s).defaultParameter now := by
  induction layers with
  | nil => rfl
  | cons l layers ih =>
    obtain ⟨hl, hlayers⟩ := List.forall_mem_cons.mp h
    rw [printed_cons, ofChars_around, hl, defaultParameter, ih hlayers]

/-- A value is converted to the type inside all wrappers. -/
theorem parameter_congr {t t' : ColumnType} (h : t'.core = t.core) (c : Cell) :
    t'.parameter c = t.parameter c := by
  rw [parameter, parameter, h]

end ColumnType

/-- A parameter is sent by the type inside all wrappers. -/
theorem Parameter.sent_core (t : ColumnType) (p : Parameter) : p.sent t.core = p.sent t := by
  rw [sent, sent, ColumnType.core_core]

namespace Statement

/-- The statement with other types of its columns. -/
def retyped (types : List ColumnType) (s : Statement) : Statement := { s with types := types }

/-- The statement with another type of one column. -/
def withType (i : Nat) (t : ColumnType) (s : Statement) : Statement :=
  s.retyped (s.types.set i t)

section Retyped

variable {s : Statement} {types : List ColumnType}

theorem bind_retyped (i : Int) (p : Parameter) :
    (s.retyped types).bind i p = (s.bind i p).map (retyped types) := by
  unfold bind
  split
  · next hclosed => rw [if_pos (show s.closed = true from hclosed), Except.map]
  · next hopen =>
    rw [if_neg (show ¬ s.closed = true from hopen)]
    split
    · next hrange => rw [if_pos (show 0 ≤ i ∧ i < s.parameters.length from hrange)]; rfl
    · next hrange => rw [if_neg (show ¬ (0 ≤ i ∧ i < s.parameters.length) from hrange)]; rfl

/-- The row of the bound parameters depends on the types inside all wrappers only. -/
theorem row_eq_of_core (s : Statement) :
    s.row = ((s.types.map ColumnType.core).zip (s.parameters.filterMap id)).mapM
      fun x => x.2.sent x.1 := by
  rw [row]
  generalize s.parameters.filterMap id = ps
  induction s.types generalizing ps with
  | nil => rfl
  | cons t types ih =>
    cases ps with
    | nil => rfl
    | cons p ps =>
      simp only [List.map_cons, List.zip_cons_cons, List.mapM_cons, Parameter.sent_core, ih ps]

theorem addRow_retyped (h : types.map ColumnType.core = s.types.map ColumnType.core) :
    (s.retyped types).addRow = s.addRow.map (retyped types) := by
  have hrow : (s.retyped types).row = s.row := by
    have hcores : (s.retyped types).types.map ColumnType.core = s.types.map ColumnType.core := h
    rw [row_eq_of_core, hcores, row_eq_of_core s]
    rfl
  have hunbound : (s.retyped types).unboundIndices = s.unboundIndices := rfl
  have hclosed : (s.retyped types).closed = s.closed := rfl
  unfold addRow
  rw [hrow, hunbound, hclosed]
  split
  · rfl
  · split
    · rfl
    · cases s.row <;> rfl

theorem bindValue_retyped {t t' : ColumnType} (h : t'.core = t.core) (i : Nat) (c : Cell) :
    bindValue i t' c (s.retyped types) = (bindValue i t c s).map (retyped types) := by
  rw [bindValue, bindValue, ColumnType.parameter_congr h]
  cases t.parameter c with
  | error e => rfl
  | ok p => exact bind_retyped i p

theorem bindDefault_retyped {t t' : ColumnType} {now : DateTime}
    (h : t'.defaultParameter now = t.defaultParameter now) (i : Nat) :
    bindDefault now i t' (s.retyped types) = (bindDefault now i t s).map (retyped types) := by
  rw [bindDefault, bindDefault, h]
  exact bind_retyped i _

theorem types_of_bind {i : Nat} {p : Parameter} {s' : Statement} (h : s.bind i p = .ok s') :
    s'.types = s.types := by
  rw [(bind_eq_ok h).2]

theorem types_of_bindValue {i : Nat} {t : ColumnType} {c : Cell} {s' : Statement}
    (h : bindValue i t c s = .ok s') : s'.types = s.types := by
  rw [bindValue] at h
  cases hp : t.parameter c with
  | error e =>
    rw [hp] at h
    cases h
  | ok p =>
    rw [hp] at h
    exact types_of_bind h

theorem types_of_addRow {s' : Statement} (h : s.addRow = .ok s') : s'.types = s.types := by
  obtain ⟨-, -, row, -, rfl⟩ := addRow_eq_ok h
  rfl

end Retyped

/-- What binds alike into a column of two types that are the same inside all wrappers makes the
same of the row. -/
theorem bound_alike {f : ColumnType → Statement → Except Error Statement} {t t' : ColumnType}
    (hcore : t'.core = t.core)
    (hf : ∀ s types, f t' (retyped types s) = (f t s).map (retyped types))
    (hkept : ∀ {s s'}, f t s = .ok s' → s'.types = s.types) (i : Nat) (s : Statement) :
    f t' (s.withType i t') = (f t (s.withType i t)).map (withType i t') ∧
      (do (← f t' (s.withType i t')).addRow) =
        (do (← f t (s.withType i t)).addRow).map (withType i t') := by
  -- No step changes the types: to change one of them afterwards is to put all of them back.
  have hmap : ∀ x : Except Error Statement, (∀ s', x = .ok s' → s'.types = s.types.set i t) →
      x.map (withType i t') = x.map (retyped (s.types.set i t')) := by
    intro x hx
    cases x with
    | error e => rfl
    | ok s' => rw [Except.map, Except.map, withType, hx s' rfl, List.set_set]
  have hfirst : f t' (s.withType i t') =
      (f t (s.withType i t)).map (retyped (s.types.set i t')) := hf (s.withType i t) _
  refine ⟨by rw [hfirst, hmap _ fun s' h => hkept h], ?_⟩
  cases hs : f t (s.withType i t) with
  | error e =>
    rw [hfirst, hs]
    rfl
  | ok s' =>
    have htypes : s'.types = s.types.set i t := hkept hs
    have hcores : (s.types.set i t').map ColumnType.core = s'.types.map ColumnType.core := by
      rw [htypes, List.map_set, List.map_set, hcore]
    rw [hfirst, hs]
    show (s'.retyped (s.types.set i t')).addRow = s'.addRow.map (withType i t')
    rw [addRow_retyped hcores, hmap _ fun s'' h => (types_of_addRow h).trans htypes]

/-- **Wrappers do not show.** Whatever the text of a type is, and however many `Nullable` and
`LowCardinality` are put around it, each value is bound, sent or refused as in a column of the type
itself. With `LowCardinality` only, the same holds without a value. -/
theorem printed_binds_alike (raw : String) (layers : List ColumnType.Layer) (s : Statement)
    (i : Nat) :
    let t := ColumnType.parse raw
    let t' := ColumnType.parse (String.ofList (ColumnType.printed layers raw.toList))
    ((∀ l ∈ layers, l.wrapper.isTransparent = true) → ∀ c : Cell,
      (s.withType i t').bindValue i t' c = ((s.withType i t).bindValue i t c).map (withType i t') ∧
        (do (← bindValue i t' c (s.withType i t')).addRow) =
          (do (← bindValue i t c (s.withType i t)).addRow).map (withType i t')) ∧
    ((∀ l ∈ layers, l.wrapper = .lowCardinality) → ∀ now : DateTime,
      bindDefault now i t' (s.withType i t') =
          (bindDefault now i t (s.withType i t)).map (withType i t') ∧
        (do (← bindDefault now i t' (s.withType i t')).addRow) =
          (do (← bindDefault now i t (s.withType i t)).addRow).map (withType i t')) := by
  have hread : ColumnType.parse (String.ofList (ColumnType.printed layers raw.toList)) =
      ColumnType.ofChars (ColumnType.printed layers raw.toList) := by
    rw [ColumnType.parse, String.toList_ofList]
  rw [hread]
  refine ⟨fun hlayers c => ?_, fun hlayers now => ?_⟩
  · have hcore := ColumnType.core_printed hlayers raw.toList
    exact bound_alike (f := fun t => bindValue i t c) hcore
      (fun _ _ => bindValue_retyped hcore i c) types_of_bindValue i s
  · have hcore : (ColumnType.ofChars (ColumnType.printed layers raw.toList)).core =
        (ColumnType.parse raw).core :=
      ColumnType.core_printed (fun l hl => by rw [hlayers l hl]; rfl) raw.toList
    have hdefault := ColumnType.defaultParameter_printed hlayers raw.toList now
    exact bound_alike (f := bindDefault now i) hcore
      (fun _ _ => bindDefault_retyped hdefault i) types_of_bind i s

/-- In a column of nullable dates a text is bound as in a column of dates, and in one of dates
with `LowCardinality` so is the default. -/
theorem wrapped_dates_bound :
    (∀ l ∈ [ColumnType.Layer.bare .nullable, .bare .lowCardinality],
      l.wrapper.isTransparent = true) ∧
    (let t := ColumnType.parse "Nullable(LowCardinality(Date))"
     bindValue 0 t (.text "2024-05-06") (fresh ⟨"t", ["d"]⟩ [t]) =
       .ok { fresh ⟨"t", ["d"]⟩ [t] with parameters := [some ⟨.varchar, .text "2024-05-06"⟩] }) ∧
    (∀ l ∈ [ColumnType.Layer.bare .lowCardinality], l.wrapper = .lowCardinality) ∧
    (let t := ColumnType.parse "LowCardinality(Date)"
     bindDefault World.beginning 0 t (fresh ⟨"t", ["d"]⟩ [t]) =
       .ok { fresh ⟨"t", ["d"]⟩ [t] with
         parameters := [some ⟨.varchar, .text World.beginning.date.stamp⟩] }) := by
  have hdate : ColumnType.parse "Date" = .plain .date "Date" := by decide +kernel
  have hnullable :
      String.ofList (ColumnType.printed [.bare .nullable, .bare .lowCardinality] "Date".toList) =
        "Nullable(LowCardinality(Date))" := by decide +kernel
  have hdense : String.ofList (ColumnType.printed [.bare .lowCardinality] "Date".toList) =
      "LowCardinality(Date)" := by decide +kernel
  refine ⟨by decide, ?_, by decide, ?_⟩
  · have hvalue := ((printed_binds_alike "Date" [.bare .nullable, .bare .lowCardinality]
      (fresh ⟨"t", ["d"]⟩ [.plain .date "Date"]) 0).1 (by decide) (.text "2024-05-06")).1
    rw [hnullable, hdate] at hvalue
    exact hvalue
  · have hdefault := ((printed_binds_alike "Date" [.bare .lowCardinality]
      (fresh ⟨"t", ["d"]⟩ [.plain .date "Date"]) 0).2 (by decide) World.beginning).1
    rw [hdense, hdate] at hdefault
    exact hdefault

end Statement
end TableLoader
