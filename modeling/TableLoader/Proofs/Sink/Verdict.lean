/-
# The verdict on configured fields

What a check finds once the table has been described, said of the columns as the
database lists them (`Verdict`): names that are no columns go first, then types that
are of unknown kind inside all `Nullable` and `LowCardinality`. If the database
lists a name twice the last type counts. The check decides by the schema that it
makes of the columns, and comes to that verdict (`acceptFields_verdict`); on its way
it calls the client three times (`check_described`).

Key definitions: `isUnknown`, `typeIn?`, `strangers`, `unknownTypes`, `Verdict`.
Key theorems: `isSupported_iff`, `acceptFields_verdict`, `check_described`.
-/
import TableLoader.Proofs.Sink.Steps

namespace TableLoader

namespace ColumnType

/-- The type is a plain one of unknown kind. -/
def isUnknown : ColumnType → Bool
  | plain .unknown _ => true
  | _ => false

/-- A type can be loaded if it is not of unknown kind inside all `Nullable` and
`LowCardinality`. -/
theorem isSupported_iff (t : ColumnType) : t.isSupported = true ↔ t.core.isUnknown = false := by
  have hcore := t.core_not_transparent
  rw [← t.isSupported_core]
  cases htype : t.core with
  | plain type raw => cases type <;> simp [isSupported, isUnknown]
  | wrapped wrapper raw inner =>
    rw [htype] at hcore
    have hopaque : wrapper.isTransparent = false := hcore
    simp [isSupported, isUnknown, hopaque]

end ColumnType

namespace Sink

/-! ### Columns as they are listed -/

/-- The type of a name among columns: the last one that is listed for it. -/
def typeIn? (columns : List (String × String)) (name : String) : Option ColumnType :=
  (columns.reverse.lookup name).map ColumnType.parse

theorem get?_schemaOf (columns : List (String × String)) (name : String) :
    (schemaOf columns).get? name = typeIn? columns name := by
  unfold schemaOf typeIn?
  rw [OrderedMap.get?_ofList, ← List.map_reverse]
  exact OrderedMap.lookup_map_snd ColumnType.parse name columns.reverse

/-- A name has a type if it is the name of a column. -/
theorem typeIn?_isSome_iff {columns : List (String × String)} {name : String} :
    (typeIn? columns name).isSome = true ↔ name ∈ columns.map Prod.fst := by
  unfold typeIn?
  rw [Option.isSome_map, OrderedMap.lookup_isSome_iff, List.map_reverse, List.mem_reverse]

/-! ### The verdict -/

/-- The names that are no columns. -/
def strangers (columns : List (String × String)) (names : List String) : List String :=
  names.filter (· ∉ columns.map Prod.fst)

/-- The texts of the types of names that are of unknown kind. -/
def unknownTypes (columns : List (String × String)) (names : List String) : List String :=
  ((names.filterMap (typeIn? columns)).filter (·.core.isUnknown)).map ColumnType.raw

/-- What is to be found of configured names, if any, when the database lists these columns. -/
inductive Verdict (columns : List (String × String)) (table : String) :
    Option (List String) → CheckResult → Prop where
  | whole : Verdict columns table none .passed
  | strange {names} : strangers columns names ≠ [] →
      Verdict columns table (some names) (.failed (.unknownFields (strangers columns names) table))
  | unsupported {names} : strangers columns names = [] → unknownTypes columns names ≠ [] →
      Verdict columns table (some names) (.failed (.unsupportedTypes (unknownTypes columns names)))
  | accepted {names} : strangers columns names = [] → unknownTypes columns names = [] →
      Verdict columns table (some names) .passed

theorem unknownFields_schemaOf (columns : List (String × String)) (names : List String) :
    unknownFields (schemaOf columns) names = strangers columns names := by
  unfold unknownFields strangers
  refine List.filter_congr fun name _ => ?_
  rw [OrderedMap.contains_eq_isSome, get?_schemaOf, Bool.eq_iff_iff, Bool.not_eq_true',
    decide_eq_true_iff, ← typeIn?_isSome_iff, Bool.not_eq_true]

theorem unsupportedTypes_schemaOf (columns : List (String × String)) (names : List String) :
    unsupportedTypes (schemaOf columns) names = unknownTypes columns names := by
  unfold unsupportedTypes unknownTypes
  rw [List.filter_filterMap, List.map_filterMap]
  refine List.filterMap_congr fun name _ => ?_
  rw [get?_schemaOf]
  cases typeIn? columns name with
  | none => rfl
  | some t =>
    rw [Option.bind_some, Option.filter_some]
    cases hunknown : t.core.isUnknown with
    | false => simp [t.isSupported_iff.mpr hunknown]
    | true =>
      have hno : t.isSupported ≠ true := by
        rw [ne_eq, t.isSupported_iff, hunknown]
        exact Bool.noConfusion
      simp [hno]

/-- The check of fields against the schema that is made of columns comes to the verdict on the
fields. -/
theorem acceptFields_verdict (columns : List (String × String)) (table : String)
    (names : List String) :
    Verdict columns table (some names) (acceptFields (schemaOf columns) table names) := by
  unfold acceptFields
  dsimp only
  rw [unknownFields_schemaOf, unsupportedTypes_schemaOf]
  by_cases hstrangers : strangers columns names = []
  · rw [if_neg (not_not.mpr hstrangers)]
    by_cases hunknown : unknownTypes columns names = []
    · rw [if_neg (not_not.mpr hunknown)]
      exact .accepted hstrangers hunknown
    · rw [if_pos hunknown]
      exact .unsupported hstrangers hunknown
  · rw [if_pos hstrangers]
    exact .strange hstrangers

/-- A check that has found the schema of these columns comes to the verdict on the configured
fields, and keeps them. -/
theorem Checks.verdict {config : Config} {x : Except Error CheckResult}
    {settings : ConnectionSettings} {table : String} {columns : List (String × String)}
    {fields names : Option (List String)}
    (h : Checks config x ⟨some settings, some table, some (schemaOf columns), fields⟩)
    (hnames : config.texts? "fields" = .ok names) :
    fields = names ∧ ∃ r, x = .ok r ∧ Verdict columns table names r := by
  cases h with
  | unlisted _ hfields => cases hnames.symm.trans hfields
  | whole _ hfields =>
    obtain rfl := Except.ok.inj (hfields.symm.trans hnames)
    exact ⟨rfl, _, rfl, .whole⟩
  | listed _ hfields =>
    obtain rfl := Except.ok.inj (hfields.symm.trans hnames)
    exact ⟨rfl, _, rfl, acceptFields_verdict columns table _⟩

/-- A check that gets as far as the connection asks for the columns and closes the connection. If
they are described, it comes to the verdict on the configured fields, and keeps what it found. -/
theorem check_described {s : Sink} {settings : ConnectionSettings} {table url : String}
    {names : Option (List String)} (h : Targets s.config settings table)
    (haddr : settings.address = .ok url) (hnames : s.config.texts? "fields" = .ok names)
    (w : World) :
    clientCalls (check s w).events = checkCalls url table w ∧
      ∀ columns, Describes w columns → ∃ r, (check s w).result = .ok r ∧
        Verdict columns table names r ∧
        (check s w).state = Found.into ⟨settings, table, schemaOf columns, names⟩ s := by
  obtain ⟨x, next, es, hkeep, hdescribed⟩ := keepSchema_run settings table w
  obtain ⟨hcalls, hschema⟩ := hdescribed url haddr
  cases x with
  | error e =>
    rw [check_targets h rfl, Act.bind_error (hkeep _ w (.refl w))]
    exact ⟨hcalls, fun columns hdescribes => nomatch hschema columns hdescribes⟩
  | ok schema =>
    obtain ⟨x, fields, fs, hchecks, hfs, hfields⟩ := checkFields_run h schema
    have hrun : check s w =
        ⟨x, Found.into ⟨settings, table, schema, fields⟩ s, next w, es ++ fs⟩ := by
      have hlast := hfields (Found.into ⟨settings, table, schema, none⟩ s) (next w) (.refl _) rfl rfl
      rw [check_targets h rfl, Act.bind_ok (hkeep _ w (.refl w))]
      exact congrArg (Ran.after es) hlast
    rw [hrun]
    refine ⟨by rw [clientCalls_append, hcalls, hfs, List.append_nil], fun columns hdescribes => ?_⟩
    obtain rfl := Except.ok.inj (hschema columns hdescribes)
    obtain ⟨rfl, r, rfl, hverdict⟩ := hchecks.verdict hnames
    exact ⟨r, rfl, hverdict, rfl⟩

end Sink
end TableLoader
