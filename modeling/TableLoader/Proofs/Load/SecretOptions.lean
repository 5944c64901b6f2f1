/-
# Options that are secret

Two environments may differ in the values of variables that hold secrets: the
password, and the connection options whose names say so (`DifferInSecrets`). The
options that are read from them then have the same names in the same order and the
same values, except for those of secret options, which are texts that are not blank in
both (`ofEnvironment_alike`). Such values make no difference to what is shown of the
options (`EntriesAlike.masked`), to a check that they are given (`Config.Alike.isBlank`),
or to whether the settings of a connection can be read and have an address
(`ofConfig_alike`).

Key definitions: `isSecretVariable`, `DifferInSecrets`, `CellsAlike`, `Config.Alike`.
Key theorems: `text?_alike`, `ofEnvironment_alike`, `ofConfig_alike`.
-/
import Mathlib
import TableLoader.Proofs.OrderedMap
import TableLoader.Proofs.Text.Cut
import TableLoader.Proofs.TwoRuns

namespace TableLoader

open SinkOptions

/-! ### Environments -/

namespace SinkOptions

/-- The variable holds a secret: the password, or a connection option with a name that is secret. -/
def isSecretVariable (name : String) : Bool :=
  name = variableOf "password" || (Text.dropStart? connectionVariableStart name).any fun rest =>
    isSecret (ConnectionSettings.optionStart ++ Text.lower rest)

/-- The environments have the same variables, with the same values where these are no secrets, and
no secret is blank. -/
structure DifferInSecrets (env env' : Environment) : Prop where
  names : ∀ name, env.contains name = env'.contains name
  shown : ∀ name, isSecretVariable name = false → env.get? name = env'.get? name
  given : ∀ name value, isSecretVariable name = true → env.get? name = some value →
    Text.strip value ≠ ""
  given' : ∀ name value, isSecretVariable name = true → env'.get? name = some value →
    Text.strip value ≠ ""

/-- The texts are the same, or they are the values of a secret and none of them is blank. -/
inductive TextsAlike (secret : Bool) : String → String → Prop
  | same (s : String) : TextsAlike secret s s
  | hidden {s s' : String} : secret = true → Text.strip s ≠ "" → Text.strip s' ≠ "" →
      TextsAlike secret s s'

variable {env env' : Environment}

theorem text?_of_given {name value : String} (hget : env.get? name = some value)
    (hgiven : Text.strip value ≠ "") : env.text? name = some (Text.strip value) := by
  unfold Environment.text? Text.nonEmpty?
  rw [hget]
  simp [hgiven]

/-- A variable has a value in both environments or in neither, and the same one unless it is
secret. -/
theorem text?_alike (h : DifferInSecrets env env') (name : String) :
    Option.Rel (TextsAlike (isSecretVariable name)) (env.text? name) (env'.text? name) := by
  cases hsecret : isSecretVariable name with
  | false =>
    have hsame : env.text? name = env'.text? name := by
      unfold Environment.text?
      rw [h.shown name hsecret]
    rw [hsame]
    cases env'.text? name with
    | none => exact .none
    | some value => exact .some (.same value)
  | true =>
    have hnames := h.names name
    rw [OrderedMap.contains_eq_isSome, OrderedMap.contains_eq_isSome] at hnames
    cases hget : env.get? name with
    | none =>
      have hget' : env'.get? name = none := by
        rw [hget] at hnames
        exact Option.not_isSome_iff_eq_none.mp fun hsome => by simp [hsome] at hnames
      have hnone : ∀ env : Environment, env.get? name = none → env.text? name = none := by
        intro env hget
        unfold Environment.text?
        rw [hget]
        rfl
      rw [hnone env hget, hnone env' hget']
      exact .none
    | some value =>
      rw [hget] at hnames
      obtain ⟨value', hget'⟩ := Option.isSome_iff_exists.mp hnames.symm
      have hgiven := h.given name value hsecret hget
      have hgiven' := h.given' name value' hsecret hget'
      rw [text?_of_given hget hgiven, text?_of_given hget' hgiven']
      exact .some (.hidden rfl (by rwa [Text.strip_strip]) (by rwa [Text.strip_strip]))

/-- A variable that is no secret has the same value in both environments. -/
theorem text?_eq (h : DifferInSecrets env env') (name : String)
    (hname : isSecretVariable name = false) : env.text? name = env'.text? name := by
  unfold Environment.text?
  rw [h.shown name hname]

theorem integer?_eq (h : DifferInSecrets env env') (name : String)
    (hname : isSecretVariable name = false) : env.integer? name = env'.integer? name := by
  unfold Environment.integer?
  rw [text?_eq h name hname]

theorem items_eq (h : DifferInSecrets env env') (name : String)
    (hname : isSecretVariable name = false) : env.items name = env'.items name := by
  unfold Environment.items
  rw [text?_eq h name hname]

theorem switch?_eq (h : DifferInSecrets env env') (name : String)
    (hname : isSecretVariable name = false) : env.switch? name = env'.switch? name := by
  unfold Environment.switch?
  rw [text?_eq h name hname]

end SinkOptions

/-! ### Configurations -/

/-- The values of an option are the same, or the option is secret and both are texts that are not
blank. -/
inductive CellsAlike (key : String) : Cell → Cell → Prop
  | same (c : Cell) : CellsAlike key c c
  | hidden {v v' : String} : isSecret key = true → Text.strip v ≠ "" → Text.strip v' ≠ "" →
      CellsAlike key (.text v) (.text v')

/-- The entries are of one option, with values that are alike. -/
def EntriesAlike (e e' : String × Cell) : Prop := e.1 = e'.1 ∧ CellsAlike e.1 e.2 e'.2

/-- The configurations have the same options in the same order, with values that are alike. -/
def Config.Alike (config config' : Config) : Prop :=
  List.Forall₂ EntriesAlike config.entries config'.entries

theorem EntriesAlike.refl (e : String × Cell) : EntriesAlike e e := ⟨rfl, .same e.2⟩

/-- A secret value is not shown. -/
theorem EntriesAlike.masked {e e' : String × Cell} (h : EntriesAlike e e') :
    (e.1, SinkOptions.masked e.1 e.2) = (e'.1, SinkOptions.masked e'.1 e'.2) := by
  obtain ⟨key, c⟩ := e
  obtain ⟨key', c'⟩ := e'
  obtain ⟨hkey, hcell⟩ := h
  obtain rfl : key = key' := hkey
  cases hcell with
  | same => rfl
  | hidden hsecret =>
    have hmasked : ∀ c, SinkOptions.masked key c = .text "***" := fun c => if_pos hsecret
    show (key, _) = (key, _)
    rw [hmasked, hmasked]

/-- Values that are alike can be written both or neither. -/
theorem CellsAlike.isWritable {key : String} {c c' : Cell} (h : CellsAlike key c c') :
    c.isWritable = c'.isWritable := by
  cases h with
  | same => rfl
  | hidden => rfl

theorem CellsAlike.eq {key : String} {c c' : Cell} (h : CellsAlike key c c')
    (hkey : isSecret key = false) : c = c' := by
  cases h with
  | same => rfl
  | hidden hsecret =>
    rw [hkey] at hsecret
    cases hsecret

theorem keys_alike : ∀ {l l' : List (String × Cell)}, List.Forall₂ EntriesAlike l l' →
    l.map Prod.fst = l'.map Prod.fst
  | _, _, .nil => rfl
  | _, _, .cons h hrest => congrArg₂ List.cons h.1 (keys_alike hrest)

theorem lookup_alike (key : String) : ∀ {l l' : List (String × Cell)},
    List.Forall₂ EntriesAlike l l' → Option.Rel (CellsAlike key) (l.lookup key) (l'.lookup key)
  | _, _, .nil => .none
  | (x, c) :: l, (x', c') :: l', .cons h hrest => by
    obtain ⟨hkey, hcell⟩ := h
    obtain rfl : x = x' := hkey
    rw [List.lookup_cons, List.lookup_cons]
    by_cases heq : key = x
    · subst heq
      simp only [beq_self_eq_true]
      exact .some hcell
    · have hbeq : (key == x) = false := by simpa using heq
      rw [hbeq]
      exact lookup_alike key hrest

namespace Config.Alike

variable {config config' : Config}

theorem get? (h : config.Alike config') (key : String) :
    Option.Rel (CellsAlike key) (config.get? key) (config'.get? key) :=
  lookup_alike key h

/-- An option that is not secret has the same value in both. -/
theorem get?_eq (h : config.Alike config') (key : String) (hkey : isSecret key = false) :
    config.get? key = config'.get? key := by
  rcases optionRel_cases (h.get? key) with ⟨hnone, hnone'⟩ | ⟨c, c', hcell, hc, hc'⟩
  · rw [hnone, hnone']
  · rw [hc, hc', hcell.eq hkey]

/-- An option is given in both or in neither. -/
theorem isBlank (h : config.Alike config') (key : String) :
    Config.isBlank (config.get? key) = Config.isBlank (config'.get? key) := by
  rcases optionRel_cases (h.get? key) with ⟨hnone, hnone'⟩ | ⟨c, c', hcell, hc, hc'⟩
  · rw [hnone, hnone']
  · rw [hc, hc']
    cases hcell with
    | same => rfl
    | hidden _ hv hv' => simp [Config.isBlank, hv, hv']

theorem checkRequired (h : config.Alike config') (keys : List String) :
    config.checkRequired keys = config'.checkRequired keys := by
  have hblank : config.blankKeys keys = config'.blankKeys keys := by
    unfold Config.blankKeys
    exact List.filter_congr fun key _ => h.isBlank key
  unfold Config.checkRequired
  rw [hblank]

theorem texts? (h : config.Alike config') (key : String) (hkey : isSecret key = false) :
    config.texts? key = config'.texts? key := by
  unfold Config.texts?
  rw [h.get?_eq key hkey]

theorem integer? (h : config.Alike config') (key : String) (hkey : isSecret key = false) :
    config.integer? key = config'.integer? key := by
  unfold Config.integer?
  rw [h.get?_eq key hkey]

theorem integers (h : config.Alike config') (key : String) (hkey : isSecret key = false) :
    config.integers key = config'.integers key := by
  unfold Config.integers
  rw [h.texts? key hkey]

/-- A further value of an option that is alike in both. -/
theorem insert (h : config.Alike config') {e e' : String × Cell} (he : EntriesAlike e e') :
    Config.Alike (config.insert e.1 e.2) (config'.insert e'.1 e'.2) := by
  obtain ⟨key, c⟩ := e
  obtain ⟨key', c'⟩ := e'
  obtain ⟨hkey, hcell⟩ := he
  obtain rfl : key = key' := hkey
  have hkeys : config.keys = config'.keys := keys_alike h
  unfold Config.Alike OrderedMap.insert
  by_cases hmem : key ∈ config.keys
  · have hmem' : key ∈ config'.keys := hkeys ▸ hmem
    rw [dif_pos hmem, dif_pos hmem']
    refine List.forall₂_map_left_iff.mpr (List.forall₂_map_right_iff.mpr (h.imp fun x x' hx => ?_))
    show EntriesAlike (if x.1 = key then (key, c) else x) (if x'.1 = key then (key, c') else x')
    rw [← hx.1]
    by_cases heq : x.1 = key
    · rw [if_pos heq, if_pos heq]
      exact ⟨rfl, hcell⟩
    · rw [if_neg heq, if_neg heq]
      exact hx
  · have hmem' : key ∉ config'.keys := hkeys ▸ hmem
    rw [dif_neg hmem, dif_neg hmem']
    exact List.rel_append h (.cons ⟨rfl, hcell⟩ .nil)

theorem foldl_insert {l l' : List (String × Cell)} (hl : List.Forall₂ EntriesAlike l l') :
    ∀ {config config' : Config}, config.Alike config' → Config.Alike
      (l.foldl (fun m e => m.insert e.1 e.2) config)
      (l'.foldl (fun m e => m.insert e.1 e.2) config') := by
  induction hl with
  | nil => exact fun h => h
  | cons he _ ih => exact fun h => ih (h.insert he)

theorem ofList {l l' : List (String × Cell)} (hl : List.Forall₂ EntriesAlike l l') :
    Config.Alike (OrderedMap.ofList l) (OrderedMap.ofList l') := by
  have hempty : Config.Alike .empty .empty := .nil
  exact foldl_insert hl hempty

theorem refl (config : Config) : config.Alike config :=
  List.forall₂_same.mpr fun e _ => .refl e

theorem withDefaults (h : config.Alike config') (defaults : Config) :
    Config.Alike (config.withDefaults defaults) (config'.withDefaults defaults) :=
  foldl_insert h (refl defaults)

end Config.Alike

/-! ### Options from the environment -/

namespace SinkOptions

variable {env env' : Environment}

theorem textOption_alike (h : DifferInSecrets env env') {key : String}
    (hkey : isSecretVariable (variableOf key) = true → isSecret key = true) :
    List.Forall₂ EntriesAlike (textOption env key) (textOption env' key) := by
  unfold textOption
  rcases optionRel_cases (text?_alike h (variableOf key)) with
    ⟨hnone, hnone'⟩ | ⟨value, value', htext, hvalue, hvalue'⟩
  · rw [hnone, hnone']
    exact .nil
  · rw [hvalue, hvalue']
    cases htext with
    | same => exact .cons (.refl _) .nil
    | hidden hsecret hv hv' => exact .cons ⟨rfl, .hidden (hkey hsecret) hv hv'⟩ .nil

/-- A variable of a connection option is secret only if the option is. -/
theorem isSecret_of_isSecretVariable {name rest : String}
    (hrest : Text.dropStart? connectionVariableStart name = some rest)
    (hname : isSecretVariable name = true) :
    isSecret (ConnectionSettings.optionStart ++ Text.lower rest) = true := by
  unfold isSecretVariable at hname
  rw [hrest, Option.any_some, Bool.or_eq_true, decide_eq_true_eq] at hname
  rcases hname with rfl | hsecret
  · have hnone : Text.dropStart? connectionVariableStart (variableOf "password") = none := by
      decide
    rw [hnone] at hrest
    cases hrest
  · exact hsecret

theorem connectionOptions_alike (h : DifferInSecrets env env') :
    List.Forall₂ EntriesAlike (connectionOptions env) (connectionOptions env') := by
  unfold connectionOptions
  rw [OrderedMap.sorted_keys_eq h.names]
  refine List.rel_filterMap (R := Eq) ?_ (List.forall₂_eq_eq_eq ▸ rfl)
  rintro key _ rfl
  dsimp only
  cases hrest : Text.dropStart? connectionVariableStart key with
  | none => exact .none
  | some rest =>
    simp only [Option.bind_eq_bind, Option.bind_some]
    rcases optionRel_cases (text?_alike h key) with
      ⟨hnone, hnone'⟩ | ⟨value, value', htext, hvalue, hvalue'⟩
    · rw [hnone, hnone']
      exact .none
    · rw [hvalue, hvalue']
      cases htext with
      | same => exact .some (EntriesAlike.refl _)
      | hidden hsecret hv hv' =>
        exact .some ⟨rfl, .hidden (isSecret_of_isSecretVariable hrest hsecret) hv hv'⟩

theorem integerOption_eq (h : DifferInSecrets env env') (key : String)
    (hkey : isSecretVariable (variableOf key) = false) :
    integerOption env key = integerOption env' key := by
  unfold integerOption
  rw [integer?_eq h _ hkey]

theorem listOption_eq (h : DifferInSecrets env env') (key : String)
    (hkey : isSecretVariable (variableOf key) = false) :
    listOption env key = listOption env' key := by
  unfold listOption
  rw [items_eq h _ hkey]

theorem textOptions_alike (h : DifferInSecrets env env') : ∀ {keys : List String},
    (∀ key ∈ keys, isSecretVariable (variableOf key) = true → isSecret key = true) →
    List.Forall₂ EntriesAlike (keys.flatMap (textOption env)) (keys.flatMap (textOption env'))
  | [], _ => .nil
  | key :: _, hkeys => List.rel_append
      (textOption_alike h (hkeys key List.mem_cons_self))
      (textOptions_alike h fun key hkey => hkeys key (List.mem_cons_of_mem _ hkey))

/-- The options that are read from the environments are alike, or neither can be read. -/
theorem ofEnvironment_alike (h : DifferInSecrets env env') :
    ResultsAlike Config.Alike (ofEnvironment env) (ofEnvironment env') := by
  have htexts : List.Forall₂ EntriesAlike
      (["host", "database", "table", "username", "password"].flatMap (textOption env))
      (["host", "database", "table", "username", "password"].flatMap (textOption env')) := by
    have hall : ["host", "database", "table", "username", "password"].all (fun key =>
        !isSecretVariable (variableOf key) || isSecret key) = true := by decide
    refine textOptions_alike h fun key hkey hsecret => ?_
    simpa [hsecret] using List.all_eq_true.mp hall key hkey
  unfold ofEnvironment
  rw [integerOption_eq h "bulk_size" (by decide), integerOption_eq h "retry" (by decide),
    listOption_eq h "fields" (by decide), listOption_eq h "retry_codes" (by decide)]
  dsimp only
  cases integerOption env' "bulk_size" with
  | error e => exact .error e
  | ok bulkSize =>
    cases integerOption env' "retry" with
    | error e => exact .error e
    | ok retry =>
      have hsame : ∀ l : List (String × Cell), List.Forall₂ EntriesAlike l l := fun l =>
        List.forall₂_same.mpr fun e _ => .refl e
      exact .ok (Config.Alike.ofList (List.rel_append (List.rel_append (List.rel_append
        (List.rel_append (List.rel_append htexts (hsame _)) (hsame _)) (hsame _)) (hsame _))
        (connectionOptions_alike h)))

end SinkOptions

/-! ### Settings of a connection -/

namespace ConnectionSettings

variable {s s' : ConnectionSettings}

/-- A password that is not blank is written in front of the host, whatever it is. -/
theorem credentials_alike (huser : s.user = s'.user)
    (hpassword : CellsAlike "password" s.password s'.password) :
    ResultsAlike (fun _ _ => True) s.credentials s'.credentials := by
  have htrue : ∀ x : Except Error String, ResultsAlike (fun _ _ => True) x x := fun x =>
    (ResultsAlike.refl x).imp fun _ _ _ => trivial
  have htruthy : ∀ {v : String}, Text.strip v ≠ "" → (Cell.text v).isTruthy = true := by
    intro v hv
    have hne : v ≠ "" := by
      rintro rfl
      exact hv (by decide)
    simp [Cell.isTruthy, hne]
  unfold credentials
  rw [← huser]
  revert hpassword
  generalize s.password = password
  generalize s'.password = password'
  intro hpassword
  cases hpassword with
  | same => exact htrue _
  | hidden _ hv hv' =>
    rw [htruthy hv, htruthy hv']
    cases s.user.isTruthy with
    | false => exact .ok trivial
    | true =>
      refine (ResultsAlike.refl _).bind fun user _ _ => ?_
      exact .ok trivial

/-- Settings with the same hosts, the same user and passwords that are alike have an address both,
or fail alike. -/
theorem address_alike (hhosts : s.hosts = s'.hosts) (huser : s.user = s'.user)
    (hpassword : CellsAlike "password" s.password s'.password) : s.Alike s' := by
  have hfirst : s.firstHost = s'.firstHost := by
    unfold firstHost
    simp only [hhosts]
  have hquery : ResultsAlike (fun _ _ => True) s.query s'.query := by
    have hothers : s.otherHosts = s'.otherHosts := by
      unfold otherHosts
      rw [hhosts]
    unfold query
    rw [hothers]
    exact (ResultsAlike.refl _).bind fun _ _ _ => .ok trivial
  unfold ConnectionSettings.Alike address
  rw [hfirst]
  exact (ResultsAlike.refl _).bind fun _ _ _ =>
    (credentials_alike huser hpassword).bind fun _ _ _ => hquery.bind fun _ _ _ => .ok trivial

end ConnectionSettings

theorem Config.Alike.required {config config' : Config} (h : config.Alike config') (key : String)
    (hkey : isSecret key = false) :
    ConnectionSettings.required config key = ConnectionSettings.required config' key := by
  unfold ConnectionSettings.required
  rw [h.get?_eq key hkey]

theorem Config.Alike.partIsWritable {config config' : Config} (h : config.Alike config')
    (start : String) : config.partIsWritable start = config'.partIsWritable start := by
  unfold Config.partIsWritable
  unfold Config.Alike at h
  generalize config.entries = l at h ⊢
  generalize config'.entries = l' at h ⊢
  induction h with
  | nil => rfl
  | cons he _ ih =>
    rw [List.all_cons, List.all_cons, ih, he.1, (he.2).isWritable]

/-- The settings in configurations that are alike have an address both, or fail alike. -/
theorem ofConfig_alike {config config' : Config} (h : config.Alike config') :
    ResultsAlike ConnectionSettings.Alike (ConnectionSettings.ofConfig config)
      (ConnectionSettings.ofConfig config') := by
  unfold ConnectionSettings.ofConfig Config.writtenPart
  rw [h.required "host" (by decide), h.required "database" (by decide), h.partIsWritable,
    h.get?_eq "username" (by decide)]
  refine (ResultsAlike.refl _).bind ?_
  rintro hosts _ rfl
  dsimp only
  by_cases hnil : Text.items hosts = []
  · rw [dif_pos hnil, dif_pos hnil]
    exact .error _
  · rw [dif_neg hnil, dif_neg hnil]
    cases config'.partIsWritable ConnectionSettings.optionStart with
    | false => exact .error _
    | true =>
      refine ResultsAlike.bind (R := fun _ _ => True) (.ok trivial) fun _ _ _ => ?_
      refine (ResultsAlike.refl _).bind ?_
      rintro database _ rfl
      refine .ok (ConnectionSettings.address_alike rfl rfl ?_)
      show CellsAlike "password" ((config.get? "password").getD .null)
        ((config'.get? "password").getD .null)
      rcases optionRel_cases (h.get? "password") with ⟨hnone, hnone'⟩ | ⟨c, c', hcell, hc, hc'⟩
      · rw [hnone, hnone']
        exact .same _
      · rw [hc, hc']
        exact hcell

end TableLoader
