/-
# The plan of an output

The types of fields are known if every field is in the schema, and then they stand
in the order of the fields (`typesOf_eq_ok_iff`). That is all that a plan needs: the
size of a batch is positive in every sink, and types and fields are aligned
(`planFor_of_typesOf`). A plan is made of what the sink knows and of the columns of
the data frame, and the columns are the fields only if none are configured.

Key theorems: `typesOf_eq_ok_iff`, `planFor_of_typesOf`.
-/
import Mathlib.Data.List.Forall2
import TableLoader.Sink

namespace TableLoader
namespace Sink

variable {schema : TableSchema} {table : String}

/-- No field is unknown if the schema has all of them. -/
theorem unknownFields_eq_nil_iff {fields : List String} :
    unknownFields schema fields = [] ↔ ∀ f ∈ fields, (schema.get? f).isSome = true := by
  unfold unknownFields
  rw [List.filter_eq_nil_iff]
  refine forall₂_congr fun f _ => ?_
  rw [OrderedMap.contains_eq_isSome, Bool.not_eq_true', Bool.not_eq_false]

/-- Items that all have a value, with their values. -/
theorem forall₂_some_iff {α β : Type} {g : α → Option β} : ∀ {l : List α} {l' : List β},
    List.Forall₂ (fun a b => g a = some b) l l' ↔
      (∀ a ∈ l, (g a).isSome = true) ∧ l.filterMap g = l'
  | [], l' => by
    rw [List.forall₂_nil_left_iff, List.filterMap_nil]
    constructor
    · rintro rfl
      exact ⟨fun a ha => absurd ha List.not_mem_nil, rfl⟩
    · rintro ⟨-, rfl⟩
      rfl
  | a :: l, l' => by
    rw [List.forall₂_cons_left_iff, List.forall_mem_cons]
    cases ha : g a with
    | none => simp
    | some b =>
      rw [List.filterMap_cons_some ha]
      constructor
      · rintro ⟨b', bs, hb, hbs, rfl⟩
        obtain ⟨hall, rfl⟩ := forall₂_some_iff.mp hbs
        rw [Option.some.inj hb]
        exact ⟨⟨rfl, hall⟩, rfl⟩
      · rintro ⟨⟨-, hall⟩, rfl⟩
        exact ⟨b, _, rfl, forall₂_some_iff.mpr ⟨hall, rfl⟩, rfl⟩

/-- Types are those of fields if each is the schema's type of its field. -/
theorem typesOf_eq_ok_iff {fields : List String} {types : List ColumnType} :
    typesOf schema table fields = .ok types ↔
      List.Forall₂ (fun f t => schema.get? f = some t) fields types := by
  rw [forall₂_some_iff, ← unknownFields_eq_nil_iff]
  unfold typesOf
  dsimp only
  by_cases hknown : unknownFields schema fields = []
  · rw [if_neg (not_not.mpr hknown)]
    simp [hknown]
  · rw [if_pos hknown]
    simp [hknown]

/-- If the types of the fields are known there is a plan, made of what the sink knows. -/
theorem planFor_of_typesOf {s : Sink} (settings : ConnectionSettings) {columns : List String}
    {types : List ColumnType}
    (h : typesOf s.schema table (s.insertFor table columns).fields = .ok types) :
    ∃ plan : PartitionPlan, s.planFor table settings columns = .ok plan ∧
      plan.connection = settings ∧ plan.insert = s.insertFor table columns ∧ plan.types = types ∧
      plan.inputFields = columns ∧ plan.bulkSize = s.bulkSize ∧ plan.policy = s.policy := by
  have haligned : types.length = (s.insertFor table columns).placeholders :=
    (typesOf_eq_ok_iff.mp h).length_eq.symm
  have hbulk : 0 < (s.bulkSize : Int) := Int.natCast_pos.mpr s.bulkSize_pos
  refine ⟨⟨settings, s.insertFor table columns, types, columns, s.bulkSize, s.policy, haligned,
    s.bulkSize_pos⟩, ?_, rfl, rfl, rfl, rfl, rfl, rfl⟩
  unfold planFor
  dsimp only
  rw [h]
  show PartitionPlan.of? settings _ types columns s.bulkSize s.policy = _
  unfold PartitionPlan.of?
  rw [dif_pos haligned, dif_pos hbulk]
  rfl

end Sink
end TableLoader
