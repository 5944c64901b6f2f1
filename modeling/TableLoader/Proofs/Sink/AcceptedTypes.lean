/-
# What accepted types are made of

A type that can be loaded is recognised in all its parts, or has an array among them,
and every type of one of these two sorts can be loaded
(`isSupported_iff_recognised_or_hasArray`). An array ends the search: what its items
are is not looked at, so a type of unknown kind may stand in an array, at any depth and
with any wrappers around it, and nowhere else (`arrays_hide_unknown_types`). Fields that
a check accepts have such types (`accepts_recognised_or_arrays`).

Key definitions: `Recognised`, `HasArray`.
Key theorems: `isSupported_iff_recognised_or_hasArray`, `Verdict.success_iff`,
`accepts_recognised_or_arrays`.
-/
import TableLoader.Proofs.ColumnType.Nesting
import TableLoader.Proofs.Sink.Acceptance
import TableLoader.Proofs.Sink.HostErrors

namespace TableLoader

namespace ColumnType

/-- No type from the outermost to the innermost one is of unknown kind. -/
def Recognised (t : ColumnType) : Prop := ∀ u ∈ t.chain, u.isUnknown = false

/-- One of the types from the outermost to the innermost one is an array. -/
def HasArray (t : ColumnType) : Prop := ∃ u ∈ t.chain, u.kindName = Wrapper.array.name

variable {w : Wrapper} {kept : String} {inner : ColumnType}

theorem recognised_plain {type : PlainType} :
    (plain type kept).Recognised ↔ type ≠ .unknown := by
  cases type <;> simp [Recognised, chain, isUnknown]

theorem not_hasArray_plain (type : PlainType) : ¬ (plain type kept).HasArray := by
  rintro ⟨u, hu, hkind⟩
  obtain rfl := List.mem_singleton.mp hu
  exact name_ne_wrapper type .array hkind

/-- A wrapper is recognised if what is inside is. -/
theorem recognised_wrapped : (wrapped w kept inner).Recognised ↔ inner.Recognised := by
  have hself : (wrapped w kept inner).isUnknown = false := rfl
  unfold Recognised
  rw [chain, List.forall_mem_cons, hself]
  exact and_iff_right rfl

theorem hasArray_wrapped : (wrapped w kept inner).HasArray ↔ w = .array ∨ inner.HasArray := by
  have hname : w.name = Wrapper.array.name ↔ w = .array := by cases w <;> decide
  unfold HasArray
  rw [chain, List.exists_mem_cons_iff, ← hname]
  rfl

/-- A type can be loaded if all its parts are recognised, or if it has an array. -/
theorem isSupported_iff_recognised_or_hasArray (t : ColumnType) :
    t.isSupported = true ↔ t.Recognised ∨ t.HasArray := by
  induction t with
  | plain type kept =>
    rw [recognised_plain, or_iff_left (not_hasArray_plain type)]
    simp [isSupported]
  | wrapped w kept inner ih =>
    rw [recognised_wrapped, hasArray_wrapped]
    cases w with
    | nullable | lowCardinality => simpa [isSupported, Wrapper.isTransparent] using ih
    | array => simp [isSupported, Wrapper.isTransparent]

end ColumnType

namespace Sink

/-- Fields are accepted if each is a column of a type that can be loaded. -/
theorem Verdict.success_iff {columns : List (String × String)} {table : String}
    {names : List String} {r : CheckResult} (h : Verdict columns table (some names) r) :
    r.success = true ↔ ∀ name ∈ names, ∃ t, typeIn? columns name = some t ∧
      t.isSupported = true := by
  constructor
  · intro hr name hname
    obtain ⟨types, htypes, hknown⟩ := h.types hr
    obtain ⟨hcolumns, rfl⟩ := forall₂_some_iff.mp htypes
    obtain ⟨t, htype⟩ := Option.isSome_iff_exists.mp (hcolumns name hname)
    have ht : t ∈ names.filterMap (typeIn? columns) := List.mem_filterMap.mpr ⟨name, hname, htype⟩
    exact ⟨t, htype, t.isSupported_iff.mpr (hknown t ht)⟩
  · intro hall
    cases h with
    | strange hstrange =>
      obtain ⟨name, hname⟩ := List.exists_mem_of_ne_nil _ hstrange
      obtain ⟨hmem, hno⟩ := List.mem_filter.mp hname
      obtain ⟨t, htype, -⟩ := hall name hmem
      have hcolumn := typeIn?_isSome_iff.mp (htype ▸ rfl : (typeIn? columns name).isSome = true)
      exact absurd hcolumn (of_decide_eq_true hno)
    | unsupported hstrangers hunknown =>
      obtain ⟨raw, hraw⟩ := List.exists_mem_of_ne_nil _ hunknown
      obtain ⟨t, ht, -⟩ := List.mem_map.mp hraw
      obtain ⟨hmem, hno⟩ := List.mem_filter.mp ht
      obtain ⟨name, hname, htype⟩ := List.mem_filterMap.mp hmem
      obtain ⟨t', htype', hsupported⟩ := hall name hname
      obtain rfl := Option.some.inj (htype.symm.trans htype')
      rw [t.isSupported_iff.mp hsupported] at hno
      cases hno
    | accepted => rfl

variable {s : Sink} {w : World} {names : List String} {columns : List (String × String)}
  {r : CheckResult}

/-- A check with fields that returns a result finds options missing, or comes to the verdict on the
fields. -/
theorem check_verdict (hnames : s.config.texts? "fields" = .ok (some names))
    (hdescribes : Describes w columns) (hresult : (check s w).result = .ok r) :
    (s.config.checkRequired requiredOptions).success = false ∧ r.success = false ∨
      (s.config.checkRequired requiredOptions).success = true ∧
        ∃ table, Verdict columns table (some names) r := by
  obtain ⟨x, found, w', es, hchecks, hrun⟩ := check_run s.config w
  have hx : x = .ok r := by rw [← hresult, hrun s rfl]
  have hverdict : ∀ {settings table}, Targets s.config settings table →
      (s.config.checkRequired requiredOptions).success = true ∧
        ∃ table, Verdict columns table (some names) r := by
    intro settings table htargets
    cases haddr : settings.address with
    | error e =>
      rw [check_unaddressed htargets haddr] at hresult
      cases hresult
    | ok url =>
      obtain ⟨-, hdescribed⟩ := check_described htargets haddr hnames w
      obtain ⟨r', hresult', hverdict, -⟩ := hdescribed columns hdescribes
      obtain rfl := Except.ok.inj (hresult'.symm.trans hresult)
      exact ⟨htargets.complete, table, hverdict⟩
  cases hchecks with
  | incomplete hcomplete => exact .inl ⟨hcomplete, Except.ok.inj hx ▸ hcomplete⟩
  | unreadable | unnamed | undescribed | unlisted => cases hx
  | whole htargets | listed htargets => exact .inr (hverdict htargets)

/-- **What is accepted.** Exactly those types can be loaded that are recognised in all their parts
or have an array among these; so a type that can be loaded is recognised unless there is an array
around parts that are not. A check of configured fields that returns a result accepts them exactly
if all required options are given and each field is a column of such a type. -/
theorem accepts_recognised_or_arrays (raw : String) :
    ((ColumnType.parse raw).isSupported = true ↔
      (ColumnType.parse raw).Recognised ∨ (ColumnType.parse raw).HasArray) ∧
    (((ColumnType.parse raw).isSupported = true → (ColumnType.parse raw).Recognised) ↔
      ((ColumnType.parse raw).HasArray → (ColumnType.parse raw).Recognised)) ∧
    ∀ (s : Sink) (w : World) (names : List String) (columns : List (String × String))
      (r : CheckResult), s.config.texts? "fields" = .ok (some names) → Describes w columns →
      (check s w).result = .ok r →
      (r.success = true ↔ (s.config.checkRequired requiredOptions).success = true ∧
        ∀ name ∈ names, ∃ t, typeIn? columns name = some t ∧ (t.Recognised ∨ t.HasArray)) := by
  have hparts := ColumnType.isSupported_iff_recognised_or_hasArray (ColumnType.parse raw)
  refine ⟨hparts, by tauto, ?_⟩
  intro s w names columns r hnames hdescribes hresult
  simp only [← ColumnType.isSupported_iff_recognised_or_hasArray]
  rcases check_verdict hnames hdescribes hresult with
    ⟨hcomplete, hfailed⟩ | ⟨hcomplete, table, hverdict⟩
  · rw [hcomplete, hfailed]
    simp
  · rw [hverdict.success_iff, hcomplete, eq_self_iff_true, true_and]

/-- A table with a column of texts and one of arrays whose items are of unknown kind. -/
def arrayTable : World :=
  { World.still .empty with
    schema := [(.text "a", .text "String"), (.text "b", .text "Nullable(Array(UUID))")] }

/-- A sink with both columns for its fields. -/
def arraySink : Sink := ofConfig (smallOptions [("fields", .list [.text "a", .text "b"])])

/-- The check accepts both columns. The second one is not recognised in all its parts, but has an
array. -/
theorem arraySink_accepted : ∃ r, (check arraySink arrayTable).result = .ok r ∧ r.success = true ∧
    ∃ t, typeIn? [("a", "String"), ("b", "Nullable(Array(UUID))")] "b" = some t ∧
      ¬ t.Recognised ∧ t.HasArray := by
  have hsucceeds : succeeded (check arraySink arrayTable).result = true := by decide +kernel
  have hnames : arraySink.config.texts? "fields" = .ok (some ["a", "b"]) := by
    have hstrip : ["a", "b"].map Text.strip = ["a", "b"] := by decide +kernel
    have hfields : arraySink.config.get? "fields" = some (.list (["a", "b"].map .text)) := rfl
    rw [← hstrip]
    exact texts?_of_fieldNames (hfields ▸ .list _)
  have hdescribes : Describes arrayTable [("a", "String"), ("b", "Nullable(Array(UUID))")] :=
    ⟨rfl, rfl⟩
  have hunknown :
      ((typeIn? [("a", "String"), ("b", "Nullable(Array(UUID))")] "b").any fun t =>
        t.chain.any (·.isUnknown)) = true := by decide +kernel
  obtain ⟨-, -, haccepts⟩ := accepts_recognised_or_arrays "Nullable(Array(UUID))"
  cases hresult : (check arraySink arrayTable).result with
  | error e =>
    rw [hresult] at hsucceeds
    cases hsucceeds
  | ok r =>
    rw [hresult] at hsucceeds
    obtain ⟨-, hfields⟩ := (haccepts _ _ _ _ r hnames hdescribes hresult).mp hsucceeds
    obtain ⟨t, htype, hparts⟩ := hfields "b" (by decide)
    rw [htype, Option.any_some, List.any_eq_true] at hunknown
    obtain ⟨u, hu, hkind⟩ := hunknown
    have hnot : ¬ t.Recognised := fun h => by
      rw [h u hu] at hkind
      cases hkind
    exact ⟨r, rfl, hsucceeds, t, htype, hnot, hparts.resolve_left hnot⟩

/-- Not every type that can be loaded is recognised in all its parts: an array of items of unknown
kind is not. -/
theorem arrays_hide_unknown_types :
    ¬ ∀ raw : String, (ColumnType.parse raw).isSupported = true →
      ∀ t ∈ (ColumnType.parse raw).chain, t.isUnknown = false := by
  intro h
  have hsupported : (ColumnType.parse "Array(UUID)").isSupported = true := by decide +kernel
  have hunknown : (ColumnType.parse "Array(UUID)").chain.any (·.isUnknown) = true := by
    decide +kernel
  obtain ⟨t, ht, hkind⟩ := List.any_eq_true.mp hunknown
  rw [h _ hsupported t ht] at hkind
  cases hkind

end Sink
end TableLoader
