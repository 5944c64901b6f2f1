/-
# Lists in three spellings

A list option is given as a list, as a text with commas, or through a variable of the
environment that holds such a text (`Spelled`). All three mean the same: the names that
are read are those of the list (`texts?_of_spelled`), and a retry policy has the codes of
the list (`ofConfig_of_spelled`). The text in a variable goes through two splitters, that
of the environment and, as a list of texts, that of the configuration; what the first one
leaves is not changed by the second.

A list that is written into its variable changes no other option (`ofEnvironment_insert`):
no two options have the same variable, and none of the lists is one of the connection.

Key definitions: `Spelled`.
Key theorems: `mem_codeSet`, `texts?_of_spelled`, `ofConfig_of_spelled`,
`exists_ofEnvironment_iff`, `ofEnvironment_insert`, `spelled_alike`.
-/
import TableLoader.Proofs.Load.DeclaredOptions
import TableLoader.Proofs.Sink.Options
import TableLoader.Proofs.Text.Integer
import TableLoader.Proofs.Text.Items

namespace TableLoader

/-! ### Sets of codes -/

theorem mem_insertCode {n code : Int} : ∀ {codes : List Int},
    n ∈ insertCode code codes ↔ n = code ∨ n ∈ codes
  | [] => by simp [insertCode]
  | c :: cs => by
    unfold insertCode
    split_ifs with hlt heq
    · exact List.mem_cons
    · simp [heq]
    · rw [List.mem_cons, mem_insertCode, List.mem_cons, or_left_comm]

/-- The codes of a set are those that are put into it. -/
theorem mem_codeSet {n : Int} : ∀ {codes : List Int}, n ∈ codeSet codes ↔ n ∈ codes
  | [] => Iff.rfl
  | c :: cs => by
    rw [codeSet, List.foldr_cons, mem_insertCode, List.mem_cons]
    exact or_congr_right mem_codeSet

namespace SinkOptions

variable {key s : String} {cells : List Cell} {names : List String} {config : Config}
  {env : Environment}

/-! ### Spellings -/

/-- The list option has the cells: as a list, or by their names in a text or in a variable. -/
inductive Spelled (key : String) (cells : List Cell) (names : List String) (config : Config) :
    Prop where
  | list : config.get? key = some (.list cells) → Spelled key cells names config
  | text {s : String} : config.get? key = some (.text s) → Text.Lists s.toList names →
      Spelled key cells names config
  | environment {env : Environment} {s : String} : ofEnvironment env = .ok config →
      env.get? (variableOf key) = some s → Text.Lists s.toList names →
      Spelled key cells names config

/-- An option that a variable lists is the list of the names without the blanks around them. -/
theorem get?_of_variable (hkey : key ∈ listKeys) (hload : ofEnvironment env = .ok config)
    (hget : env.get? (variableOf key) = some s) (hitems : Text.items s ≠ []) :
    config.get? key = some (Cell.texts (Text.items s)) := by
  have hstart : ∀ k ∈ listKeys, Text.startsWith ConnectionSettings.optionStart k = false := by
    decide
  -- A variable of blanks lists nothing, so this one holds more.
  have hgives : Gives env (variableOf key) (Text.strip s) := by
    refine ⟨s, hget, rfl, fun hblank => hitems ?_⟩
    rw [← Text.items_strip, hblank]
    rfl
  rw [(declared hload).plain key (hstart key hkey), ← Text.items_strip]
  exact .list hkey hgives (by rwa [Text.items_strip])

/-- In all spellings the same names are read. -/
theorem texts?_of_spelled (hkey : key ∈ listKeys)
    (hcells : Config.strippedTexts cells = .ok (names.map Text.strip)) (hne : names ≠ [])
    (hnames : ∀ name ∈ names, Text.strip name ≠ "" ∧ ',' ∉ name.toList)
    (h : Spelled key cells names config) :
    config.texts? key = .ok (some (names.map Text.strip)) := by
  have hitems : ∀ {s : String}, Text.Lists s.toList names →
      Text.items s = names.map Text.strip := by
    intro s hlists
    rw [← Text.items_of_lists hlists hnames, String.ofList_toList]
  cases h with
  | list hget =>
    unfold Config.texts?
    rw [hget]
    dsimp only
    rw [hcells]
    rfl
  | text hget hlists =>
    rw [← hitems hlists]
    exact texts?_of_fieldNames (hget ▸ .text _)
  | environment hload hvariable hlists =>
    have hget := get?_of_variable hkey hload hvariable (by simpa [hitems hlists] using hne)
    have hread := texts?_of_fieldNames (hget ▸ FieldNames.list _)
    have hagain : (names.map Text.strip).map Text.strip = names.map Text.strip := by
      rw [List.map_map]
      exact List.map_congr_left fun name _ => Text.strip_strip name
    rwa [hitems hlists, hagain] at hread

/-! ### Codes -/

/-- The text of an integer has no blanks around it and no comma in it. -/
theorem tight_toString {n : Int} (h : Number.isWritable n = true) :
    Text.Tight (toString n) ∧ ',' ∉ (toString n).toList := by
  have hchars : ∀ c ∈ (toString n).toList, Text.isBlank c = false ∧ c ≠ ',' := by
    intro c hc
    rcases Number.mem_toString hc with hdigit | rfl
    · have hrange : 48 ≤ c.toNat ∧ c.toNat ≤ 57 := Char.isDigit_iff_toNat.mp hdigit
      refine ⟨?_, ?_⟩
      · simp [Text.isBlank]
        omega
      · rintro rfl
        cases hdigit
    · decide
  have hne : toString n ≠ "" := by
    intro hempty
    have hread := Number.readInteger_toString h
    rw [hempty] at hread
    cases hread
  exact ⟨⟨hne, fun c hc => (hchars c (List.mem_of_head? hc)).1,
    fun c hc => (hchars c (List.mem_of_getLast? hc)).1⟩, fun hc => (hchars _ hc).2 rfl⟩

section Codes

variable {ns : List Int}

theorem strip_toStrings (h : ∀ n ∈ ns, Number.isWritable n = true) :
    (ns.map toString).map Text.strip = ns.map toString := by
  rw [List.map_map]
  exact List.map_congr_left fun n hn => (Text.tight_iff.mp (tight_toString (h n hn)).1).1

theorem strippedTexts_integers (h : ∀ n ∈ ns, Number.isWritable n = true) :
    Config.strippedTexts (ns.map .int) = .ok ((ns.map toString).map Text.strip) := by
  rw [List.map_map]
  refine strippedTexts_map fun n hn => ?_
  have hwritable : (Cell.int n).isWritable = true := h n hn
  rw [Cell.toText, if_pos hwritable]
  rfl

theorem mapM_readInteger : ∀ {ns : List Int}, (∀ n ∈ ns, Number.isWritable n = true) →
    (ns.map toString).mapM Number.readInteger = some ns
  | [], _ => rfl
  | n :: ns, h => by
    obtain ⟨hn, hns⟩ := List.forall_mem_cons.mp h
    rw [List.map_cons, List.mapM_cons, Number.readInteger_toString hn, mapM_readInteger hns]
    rfl

/-- In all spellings the same integers are read. -/
theorem integers_of_spelled (hne : ns ≠ []) (hwritable : ∀ n ∈ ns, Number.isWritable n = true)
    (hkey : key ∈ listKeys) (h : Spelled key (ns.map .int) (ns.map toString) config) :
    config.integers key = .ok ns := by
  have hnames : ∀ name ∈ ns.map toString, Text.strip name ≠ "" ∧ ',' ∉ name.toList := by
    intro name hname
    obtain ⟨n, hn, rfl⟩ := List.mem_map.mp hname
    obtain ⟨htight, hcomma⟩ := tight_toString (hwritable n hn)
    rw [(Text.tight_iff.mp htight).1]
    exact ⟨htight.nonempty, hcomma⟩
  have htexts := texts?_of_spelled hkey (strippedTexts_integers hwritable)
    (by simpa using hne) hnames h
  unfold Config.integers
  rw [htexts, strip_toStrings hwritable]
  simp only [bind, Except.bind, Option.getD_some, mapM_readInteger hwritable]

/-- In all spellings a policy has the codes of the list. -/
theorem ofConfig_of_spelled (hne : ns ≠ []) (hwritable : ∀ n ∈ ns, Number.isWritable n = true)
    (h : Spelled "retry_codes" (ns.map .int) (ns.map toString) config) :
    RetryPolicy.ofConfig config = (config.integer? "retry").map fun retry =>
      ⟨codeSet ns, max (retry.getD RetryPolicy.defaultRetries) 0⟩ := by
  unfold RetryPolicy.ofConfig
  rw [integers_of_spelled hne hwritable (by decide) h]
  cases config.integer? "retry" <;> rfl

end Codes

/-! ### Other options -/

theorem exists_integerOption_iff : (∃ l, integerOption env key = .ok l) ↔
    ∃ n, env.integer? (variableOf key) = .ok n := by
  unfold integerOption
  constructor
  · rintro ⟨l, hl⟩
    cases hn : env.integer? (variableOf key) with
    | error e =>
      rw [hn] at hl
      cases hl
    | ok n => exact ⟨n, rfl⟩
  · rintro ⟨n, hn⟩
    rw [hn]
    cases n with
    | none => exact ⟨_, rfl⟩
    | some n => exact ⟨_, rfl⟩

/-- An environment can be read if its integers can. -/
theorem exists_ofEnvironment_iff : (∃ config, ofEnvironment env = .ok config) ↔
    ∀ key ∈ integerKeys, ∃ n, env.integer? (variableOf key) = .ok n := by
  simp only [integerKeys, List.forall_mem_cons, List.not_mem_nil, false_implies, implies_true,
    and_true, ← exists_integerOption_iff]
  unfold ofEnvironment
  constructor
  · rintro ⟨config, hload⟩
    dsimp only at hload
    cases hsize : integerOption env "bulk_size" with
    | error e =>
      rw [hsize] at hload
      cases hload
    | ok size =>
      cases hretry : integerOption env "retry" with
      | error e =>
        rw [hsize, hretry] at hload
        cases hload
      | ok retry => exact ⟨⟨size, rfl⟩, ⟨retry, rfl⟩⟩
  · rintro ⟨⟨size, hsize⟩, ⟨retry, hretry⟩⟩
    rw [hsize, hretry]
    exact ⟨_, rfl⟩

/-- The variable of a list is that of no other option. -/
theorem variableOf_ne (hkey : key ∈ listKeys) {other : String}
    (hother : other ∈ textKeys ++ listKeys ++ integerKeys) (hne : other ≠ key) :
    variableOf other ≠ variableOf key := by
  have hall : ∀ k ∈ listKeys, ∀ k' ∈ textKeys ++ listKeys ++ integerKeys, k' ≠ k →
      variableOf k' ≠ variableOf k := by decide +kernel
  exact hall key hkey other hother hne

/-- The variable of a list declares no connection option. -/
theorem startsWith_variableOf (hkey : key ∈ listKeys) :
    Text.startsWith connectionVariableStart (variableOf key) = false := by
  have hall : ∀ k ∈ listKeys, Text.startsWith connectionVariableStart (variableOf k) = false := by
    decide +kernel
  exact hall key hkey

/-- An option is set alike by variables that hold the same. -/
theorem Sets.imp {env' : Environment} {c : Cell}
    (h : ∀ text, Gives env (variableOf key) text → Gives env' (variableOf key) text)
    (hsets : Sets env key c) : Sets env' key c := by
  cases hsets with
  | text hmem hgives => exact .text hmem (h _ hgives)
  | list hmem hgives hitems => exact .list hmem (h _ hgives) hitems
  | integer hmem hgives hread => exact .integer hmem (h _ hgives) hread

/-- A connection option is the text of the greatest of its variables. -/
theorem Declared.get?_connection_iff (h : Declared env config)
    (hstart : Text.startsWith ConnectionSettings.optionStart key = true) {c : Cell} :
    config.get? key = some c ↔ ∃ name text, IsGreatest (variablesFor env key) name ∧
      Declares env key name text ∧ c = .text text := by
  constructor
  · intro hget
    obtain ⟨name, text, hgreatest, hdeclares, htext⟩ :=
      h.values key (OrderedMap.mem_keys_iff.mpr ⟨c, hget⟩) hstart
    exact ⟨name, text, hgreatest, hdeclares, Option.some.inj (hget.symm.trans htext)⟩
  · rintro ⟨name, text, hgreatest, hdeclares, rfl⟩
    obtain ⟨name', text', hgreatest', hdeclares', htext⟩ :=
      h.values key ((h.connection key hstart).mpr ⟨name, text, hdeclares⟩) hstart
    obtain rfl := hgreatest.unique hgreatest'
    obtain ⟨-, -, -, hgives⟩ := hdeclares
    obtain ⟨-, -, -, hgives'⟩ := hdeclares'
    rw [htext, hgives.unique hgives']

section Inserted

variable {other name text : String} (hkey : key ∈ listKeys) (s : String)

theorem gives_insert_iff (h : name ≠ variableOf key) :
    Gives (env.insert (variableOf key) s) name text ↔ Gives env name text := by
  unfold Gives
  rw [OrderedMap.get?_insert_of_ne env s h]

include hkey in
theorem declares_insert_iff :
    Declares (env.insert (variableOf key) s) other name text ↔ Declares env other name text := by
  unfold Declares
  refine exists_congr fun rest => and_congr_right fun hname => and_congr_right fun _ => ?_
  refine gives_insert_iff s fun heq => ?_
  have hno := startsWith_variableOf hkey
  rw [← heq, hname, Text.startsWith_append] at hno
  cases hno

include hkey in
theorem sets_insert_iff (hne : other ≠ key) {c : Cell} :
    Sets (env.insert (variableOf key) s) other c ↔ Sets env other c := by
  have hgives : ∀ text, other ∈ textKeys ++ listKeys ++ integerKeys →
      (Gives (env.insert (variableOf key) s) (variableOf other) text ↔
        Gives env (variableOf other) text) :=
    fun text hother => gives_insert_iff s (variableOf_ne hkey hother hne)
  exact ⟨fun h => h.imp fun text => (hgives text h.mem).mp,
    fun h => h.imp fun text => (hgives text h.mem).mpr⟩

include hkey in
/-- A list in its variable changes no other option, and can be read if the rest can. -/
theorem ofEnvironment_insert (hload : ofEnvironment env = .ok config) :
    ∃ config', ofEnvironment (env.insert (variableOf key) s) = .ok config' ∧
      ∀ other, other ≠ key → config'.get? other = config.get? other := by
  have hintegers := exists_ofEnvironment_iff.mp ⟨config, hload⟩
  have hread : ∃ config', ofEnvironment (env.insert (variableOf key) s) = .ok config' := by
    refine exists_ofEnvironment_iff.mpr fun k hk => ?_
    have hdisjoint : ∀ k ∈ integerKeys, k ∉ listKeys := by decide
    have hne : k ≠ key := fun heq => hdisjoint k hk (heq ▸ hkey)
    have hvariable := variableOf_ne hkey (List.mem_append_right _ hk) hne
    rw [Environment.integer?, Environment.text?, OrderedMap.get?_insert_of_ne env s hvariable]
    exact hintegers k hk
  obtain ⟨config', hload'⟩ := hread
  refine ⟨config', hload', fun other hne => Option.ext fun c => ?_⟩
  cases hstart : Text.startsWith ConnectionSettings.optionStart other with
  | true =>
    rw [(declared hload').get?_connection_iff hstart, (declared hload).get?_connection_iff hstart]
    simp only [variablesFor, declares_insert_iff hkey s]
  | false =>
    rw [(declared hload').plain other hstart, (declared hload).plain other hstart,
      sets_insert_iff hkey s hne]

end Inserted

/-! ### All spellings together -/

/-- **A list option means the same in all spellings.** With a list of integers that can be written,
a retry policy has exactly these codes, and the number of its attempts is that of the option `retry`.
Of a list of names that are neither blank nor have commas in them, the names are read in their order
and as often as they stand there, without the blanks around them. Written into its variable, a list
leaves all other options as they are. -/
theorem spelled_alike :
    (∀ ns : List Int, ns ≠ [] → (∀ n ∈ ns, Number.isWritable n = true) →
      (∀ n, n ∈ codeSet ns ↔ n ∈ ns) ∧
      ∀ config, Spelled "retry_codes" (ns.map .int) (ns.map toString) config →
        RetryPolicy.ofConfig config = (config.integer? "retry").map fun retry =>
          ⟨codeSet ns, max (retry.getD RetryPolicy.defaultRetries) 0⟩) ∧
    (∀ names : List String, names ≠ [] →
      (∀ name ∈ names, Text.strip name ≠ "" ∧ ',' ∉ name.toList) →
      ∀ config, Spelled "fields" (names.map .text) names config →
        config.texts? "fields" = .ok (some (names.map Text.strip))) ∧
    ∀ (env : Environment) (config : Config), ofEnvironment env = .ok config →
      ∀ key ∈ listKeys, ∀ s, ∃ config',
        ofEnvironment (env.insert (variableOf key) s) = .ok config' ∧
        ∀ other, other ≠ key → config'.get? other = config.get? other := by
  refine ⟨fun ns hne hwritable => ⟨fun n => mem_codeSet, fun config => ?_⟩,
    fun names hne hnames config => ?_, fun env config hload key hkey s => ?_⟩
  · exact ofConfig_of_spelled hne hwritable
  · exact texts?_of_spelled (by decide) (strippedTexts_texts names) hne hnames
  · exact ofEnvironment_insert hkey s hload

/-- A list of codes with blanks around its items, and with empty items. -/
def paddedCodes : String := " 1002 ,, -7,\t1002,"

/-- A list of names with blanks around its items, and with empty items. -/
def paddedNames : String := ", a,b b , ,a"

/-- Options that are given as lists. -/
def plainLists : Config :=
  .ofList [("retry", .int 2), ("retry_codes", .list [.int 1002, .int (-7), .int 1002]),
    ("fields", .list [.text "a", .text "b b", .text "a"])]

/-- The same options with texts for lists. -/
def paddedTexts : Config :=
  .ofList [("retry", .int 2), ("retry_codes", .text paddedCodes), ("fields", .text paddedNames)]

/-- The same options in an environment. -/
def paddedVariables : Environment :=
  .ofList [("SPARK_CLICKHOUSE_SINK_RETRY", "2"),
    ("SPARK_CLICKHOUSE_SINK_RETRY_CODES", paddedCodes),
    ("SPARK_CLICKHOUSE_SINK_FIELDS", paddedNames)]

/-- From the lists, from the texts and from the variables, the same policy is made and the same
fields are read. With other fields in their variable the codes stay. -/
theorem paddedVariables_alike : ∃ loaded, ofEnvironment paddedVariables = .ok loaded ∧
    (∀ config ∈ [plainLists, paddedTexts, loaded],
      RetryPolicy.ofConfig config = .ok ⟨[-7, 1002], 2⟩ ∧
      config.texts? "fields" = .ok (some ["a", "b b", "a"])) ∧
    ∃ other, ofEnvironment (paddedVariables.insert (variableOf "fields") "c") = .ok other ∧
      other.get? "retry_codes" = loaded.get? "retry_codes" := by
  obtain ⟨hpolicies, hfields, hinsert⟩ := spelled_alike
  have halike : ∀ config : Config, config.get? "retry" = some (.int 2) →
      Spelled "retry_codes" ([1002, -7, 1002].map .int) ([1002, -7, 1002].map toString) config →
      Spelled "fields" (["a", "b b", "a"].map .text) ["a", "b b", "a"] config →
      RetryPolicy.ofConfig config = .ok ⟨[-7, 1002], 2⟩ ∧
        config.texts? "fields" = .ok (some ["a", "b b", "a"]) := by
    intro config hretry hcodes hnames
    have hinteger : config.integer? "retry" = .ok (some 2) := by
      unfold Config.integer?
      rw [hretry]
      rfl
    have hwritable : ∀ n ∈ [1002, -7, 1002], Number.isWritable n = true := by decide +kernel
    obtain ⟨-, hpolicy⟩ := hpolicies _ (by decide) hwritable
    have hpolicy' := hpolicy config hcodes
    rw [hinteger] at hpolicy'
    have hnames' := hfields _ (by decide) (by decide +kernel) config hnames
    have hstrip : ["a", "b b", "a"].map Text.strip = ["a", "b b", "a"] := by decide +kernel
    rw [hstrip] at hnames'
    exact ⟨hpolicy', hnames'⟩
  have hlistsCodes : Text.Lists paddedCodes.toList ([1002, -7, 1002].map toString) := by
    have hitems : Text.items paddedCodes = [1002, -7, 1002].map toString := by decide +kernel
    have hlists := Text.lists_items paddedCodes.toList
    rwa [String.ofList_toList, hitems] at hlists
  have hlistsNames : Text.Lists paddedNames.toList ["a", "b b", "a"] := by
    have hitems : Text.items paddedNames = ["a", "b b", "a"] := by decide +kernel
    have hlists := Text.lists_items paddedNames.toList
    rwa [String.ofList_toList, hitems] at hlists
  have hsize : paddedVariables.text? (variableOf "bulk_size") = none := by decide +kernel
  have hretry : paddedVariables.text? (variableOf "retry") = some "2" := by decide +kernel
  have htwo : Number.readInteger "2" = some 2 := by decide +kernel
  obtain ⟨loaded, hload⟩ : ∃ loaded, ofEnvironment paddedVariables = .ok loaded := by
    refine exists_ofEnvironment_iff.mpr
      (List.forall_mem_cons.mpr ⟨⟨none, ?_⟩, List.forall_mem_singleton.mpr ⟨some 2, ?_⟩⟩)
    · rw [Environment.integer?, hsize]
    · rw [Environment.integer?, hretry]
      dsimp only
      rw [htwo]
  obtain ⟨other, hother, hothers⟩ := hinsert _ _ hload "fields" (by decide) "c"
  refine ⟨loaded, hload, ?_, other, hother, hothers _ (by decide)⟩
  simp only [List.forall_mem_cons, List.not_mem_nil, false_implies, implies_true, and_true]
  refine ⟨halike _ rfl (.list rfl) (.list rfl),
    halike _ rfl (.text rfl hlistsCodes) (.text rfl hlistsNames),
    halike _ ?_ (.environment hload ?_ hlistsCodes) (.environment hload ?_ hlistsNames)⟩
  · rw [(declared hload).plain "retry" rfl]
    exact .integer (by decide) (text?_eq_some_iff.mp hretry) htwo
  · decide +kernel
  · decide +kernel

end SinkOptions
end TableLoader
