/-
# Options that the environment declares

An environment is read as a map: the order of its variables does not matter, neither
for the options nor for the address that is made of them. What is read are exactly the
options that the environment declares (`Declared`). A connection option belongs to all
variables whose names have the same lower-case form; of these the greatest one gives
the value, and the least one the place among the connection options. The other options
have a variable each, and are there if that holds more than blanks. No text that is
read has blanks around it.

Variables are read in increasing order, so the first declaration of an option is the
one of its least variable and the last one that of its greatest (`least_first`,
`greatest_last`).

Key definitions: `Gives`, `Declares`, `Sets`, `Clean`, `Declared`, `addressIn`.
Key theorems: `least_first`, `greatest_last`, `declared`, `ofEnvironment_declares`.
-/
import Mathlib
import TableLoader.Proofs.OrderedMap
import TableLoader.Proofs.Text.Cut
import TableLoader.Connection.Address
import TableLoader.SinkOptions

namespace TableLoader

/-! ### Declarations in increasing order -/

section Declarations

variable {ν κ α : Type} [LinearOrder ν] [DecidableEq κ]

/-- Of the declarations of a key the last one is that of the greatest variable. -/
theorem greatest_last {k : κ} {v : α} : ∀ {l : List (ν × κ × α)},
    l.Pairwise (fun d d' => d.1 < d'.1) → ((l.map Prod.snd).reverse).lookup k = some v →
    ∃ n, (n, k, v) ∈ l ∧ ∀ d ∈ l, d.2.1 = k → d.1 ≤ n := by
  intro l hsorted hlookup
  -- Behind the declarations so far there is always a greater one, so the induction is from the end.
  induction l using List.reverseRecOn with
  | nil => cases hlookup
  | append_singleton l d ih =>
    obtain ⟨n, x, a⟩ := d
    obtain ⟨hbefore, -, hlast⟩ := List.pairwise_append.mp hsorted
    rw [List.map_append, List.reverse_append] at hlookup
    change List.lookup k ((x, a) :: (l.map Prod.snd).reverse) = some v at hlookup
    by_cases hk : k = x
    · subst hk
      rw [List.lookup_cons_self] at hlookup
      obtain rfl := Option.some.inj hlookup
      refine ⟨n, List.mem_append_right l (List.mem_singleton_self _), fun d hd _ => ?_⟩
      rcases List.mem_append.mp hd with hd | hd
      · exact (hlast d hd _ (List.mem_singleton_self _)).le
      · rw [List.mem_singleton.mp hd]
    · have hbeq : (k == x) = false := by simpa using hk
      rw [List.lookup_cons, hbeq] at hlookup
      obtain ⟨m, hm, hgreatest⟩ := ih hbefore hlookup
      refine ⟨m, List.mem_append_left _ hm, fun d hd hdk => ?_⟩
      rcases List.mem_append.mp hd with hd | hd
      · exact hgreatest d hd hdk
      · rw [List.mem_singleton.mp hd] at hdk
        exact absurd hdk.symm hk

/-- Of the declarations of a key the first one is that of the least variable. -/
theorem least_first {k : κ} : ∀ {l : List (ν × κ × α)}, l.Pairwise (fun d d' => d.1 < d'.1) →
    k ∈ l.map (·.2.1) → ∃ d, l[(l.map (·.2.1)).idxOf k]? = some d ∧ d.2.1 = k ∧
      ∀ d' ∈ l, d'.2.1 = k → d.1 ≤ d'.1
  | [], _, hk => by cases hk
  | d :: l, hsorted, hk => by
    obtain ⟨hfirst, hrest⟩ := List.pairwise_cons.mp hsorted
    rw [List.map_cons]
    by_cases heq : d.2.1 = k
    · refine ⟨d, ?_, heq, fun d' hd' _ => ?_⟩
      · rw [heq, List.idxOf_cons_self]
        rfl
      · rcases List.mem_cons.mp hd' with rfl | hd'
        · exact le_rfl
        · exact (hfirst d' hd').le
    · have hk' : k ∈ l.map (·.2.1) := (List.mem_cons.mp hk).resolve_left (Ne.symm heq)
      obtain ⟨d₀, hat, hkey, hleast⟩ := least_first hrest hk'
      refine ⟨d₀, ?_, hkey, fun d' hd' hkey' => ?_⟩
      · rw [List.idxOf_cons_ne _ heq]
        exact hat
      · rcases List.mem_cons.mp hd' with rfl | hd'
        · exact absurd hkey' heq
        · exact hleast d' hd' hkey'

/-- The variables of keys that come first in this order are in this order. -/
theorem least_lt {k k' : κ} {l : List (ν × κ × α)} (hsorted : l.Pairwise fun d d' => d.1 < d'.1)
    (hk : k ∈ l.map (·.2.1)) (hk' : k' ∈ l.map (·.2.1))
    (hlt : (l.map (·.2.1)).idxOf k < (l.map (·.2.1)).idxOf k') :
    ∃ d ∈ l, ∃ d' ∈ l, (d.2.1 = k ∧ ∀ e ∈ l, e.2.1 = k → d.1 ≤ e.1) ∧
      (d'.2.1 = k' ∧ ∀ e ∈ l, e.2.1 = k' → d'.1 ≤ e.1) ∧ d.1 < d'.1 := by
  obtain ⟨d, hat, hkey, hleast⟩ := least_first hsorted hk
  obtain ⟨d', hat', hkey', hleast'⟩ := least_first hsorted hk'
  refine ⟨d, List.mem_of_getElem? hat, d', List.mem_of_getElem? hat', ⟨hkey, hleast⟩,
    ⟨hkey', hleast'⟩, ?_⟩
  obtain ⟨hlength, rfl⟩ := List.getElem?_eq_some_iff.mp hat
  obtain ⟨hlength', rfl⟩ := List.getElem?_eq_some_iff.mp hat'
  exact List.pairwise_iff_getElem.mp hsorted _ _ hlength hlength' hlt

end Declarations

namespace SinkOptions

variable {env env' : Environment} {key name text : String}

/-! ### What variables hold -/

/-- The variable holds the text, perhaps with blanks around it, and more than blanks. -/
def Gives (env : Environment) (name text : String) : Prop :=
  ∃ value, env.get? name = some value ∧ Text.strip value = text ∧ text ≠ ""

theorem text?_eq_some_iff : env.text? name = some text ↔ Gives env name text := by
  unfold Environment.text? Text.nonEmpty? Gives
  rw [Option.filter_eq_some_iff, Option.map_eq_some_iff, decide_eq_true_eq]
  constructor
  · rintro ⟨⟨value, hvalue, hstrip⟩, hne⟩
    exact ⟨value, hvalue, hstrip, hne⟩
  · rintro ⟨value, hvalue, hstrip, hne⟩
    exact ⟨⟨value, hvalue, hstrip⟩, hne⟩

theorem Gives.unique {text' : String} (h : Gives env name text) (h' : Gives env name text') :
    text = text' :=
  Option.some.inj ((text?_eq_some_iff.mpr h).symm.trans (text?_eq_some_iff.mpr h'))

theorem Gives.tight (h : Gives env name text) : Text.Tight text := by
  obtain ⟨value, -, rfl, hne⟩ := h
  exact Text.tight_iff.mpr ⟨Text.strip_strip value, hne⟩

theorem Gives.mem_keys (h : Gives env name text) : name ∈ env.keys := by
  obtain ⟨value, hvalue, -⟩ := h
  exact OrderedMap.mem_keys_iff.mpr ⟨value, hvalue⟩

/-! ### Connection options -/

/-- The variable declares the connection option, and holds the text. -/
def Declares (env : Environment) (key name text : String) : Prop :=
  ∃ rest, name = connectionVariableStart ++ rest ∧
    key = ConnectionSettings.optionStart ++ Text.lower rest ∧ Gives env name text

/-- The variables that declare a connection option. -/
def variablesFor (env : Environment) (key : String) : Set String :=
  { name | ∃ text, Declares env key name text }

/-- The connection option that a variable declares. -/
def declaration? (env : Environment) (name : String) : Option (String × Cell) := do
  let rest ← Text.dropStart? connectionVariableStart name
  let value ← env.text? name
  some (ConnectionSettings.optionStart ++ Text.lower rest, .text value)

theorem declaration?_eq_some_iff {c : Cell} :
    declaration? env name = some (key, c) ↔ ∃ text, Declares env key name text ∧ c = .text text := by
  unfold declaration? Declares
  simp only [Option.bind_eq_bind, Option.bind_eq_some_iff, Text.dropStart?_eq_some_iff,
    text?_eq_some_iff, Option.some.injEq, Prod.mk.injEq]
  constructor
  · rintro ⟨rest, hname, text, hgives, hkey, hcell⟩
    exact ⟨text, ⟨rest, hname, hkey.symm, hgives⟩, hcell.symm⟩
  · rintro ⟨text, ⟨rest, hname, hkey, hgives⟩, hcell⟩
    exact ⟨rest, hname, text, hgives, hkey.symm, hcell.symm⟩

/-- The variables that declare connection options, in increasing order, with their options. -/
def declarations (env : Environment) : List (String × String × Cell) :=
  (env.keys.mergeSort fun a b => a ≤ b).filterMap fun name => (declaration? env name).map (name, ·)

theorem mem_declarations_iff {c : Cell} :
    (name, key, c) ∈ declarations env ↔ ∃ text, Declares env key name text ∧ c = .text text := by
  rw [← declaration?_eq_some_iff, declarations, List.mem_filterMap]
  constructor
  · rintro ⟨name', -, hd⟩
    obtain ⟨d, hd, heq⟩ := Option.map_eq_some_iff.mp hd
    obtain ⟨rfl, rfl⟩ := Prod.mk.inj heq
    exact hd
  · intro hd
    obtain ⟨text, ⟨-, -, -, hgives⟩, -⟩ := declaration?_eq_some_iff.mp hd
    refine ⟨name, (List.mergeSort_perm _ _).mem_iff.mpr hgives.mem_keys, ?_⟩
    rw [hd, Option.map_some]

theorem declarations_lt (env : Environment) :
    (declarations env).Pairwise fun d d' => d.1 < d'.1 := by
  refine List.Pairwise.filterMap _ (fun name name' hlt d hd d' hd' => ?_) env.sorted_keys_lt
  obtain ⟨-, -, rfl⟩ := Option.map_eq_some_iff.mp hd
  obtain ⟨-, -, rfl⟩ := Option.map_eq_some_iff.mp hd'
  exact hlt

theorem map_declarations (env : Environment) :
    (declarations env).map Prod.snd = connectionOptions env := by
  unfold declarations connectionOptions declaration?
  rw [List.map_filterMap]
  refine List.filterMap_congr fun name _ => ?_
  rw [Option.map_map]
  exact Option.map_id'

/-! ### The other options -/

/-- The options that are texts. -/
def textKeys : List String := ["host", "database", "table", "username", "password"]

/-- The options that are lists. -/
def listKeys : List String := ["fields", "retry_codes"]

/-- The options that are integers. -/
def integerKeys : List String := ["bulk_size", "retry"]

/-- The variable of an option that is not one of the connection sets it to a cell. -/
inductive Sets (env : Environment) : String → Cell → Prop where
  | text {key text : String} : key ∈ textKeys → Gives env (variableOf key) text →
      Sets env key (.text text)
  | list {key text : String} : key ∈ listKeys → Gives env (variableOf key) text →
      Text.items text ≠ [] → Sets env key (Cell.texts (Text.items text))
  | integer {key text : String} {n : Int} : key ∈ integerKeys → Gives env (variableOf key) text →
      Number.readInteger text = some n → Sets env key (.int n)

theorem Sets.mem {c : Cell} (h : Sets env key c) : key ∈ textKeys ++ listKeys ++ integerKeys := by
  cases h with
  | text hkey => exact List.mem_append_left _ (List.mem_append_left _ hkey)
  | list hkey => exact List.mem_append_left _ (List.mem_append_right _ hkey)
  | integer hkey => exact List.mem_append_right _ hkey

/-- An option is set to one cell. -/
theorem Sets.unique {c c' : Cell} (h : Sets env key c) (h' : Sets env key c') : c = c' := by
  have hlist : ∀ k ∈ listKeys, k ∉ textKeys := by decide
  have hinteger : ∀ k ∈ integerKeys, k ∉ textKeys ∧ k ∉ listKeys := by decide
  cases h with
  | text hkey hgives =>
    cases h' with
    | text _ hgives' => rw [hgives.unique hgives']
    | list hkey' => exact absurd hkey (hlist _ hkey')
    | integer hkey' => exact absurd hkey (hinteger _ hkey').1
  | list hkey hgives =>
    cases h' with
    | text hkey' => exact absurd hkey' (hlist _ hkey)
    | list _ hgives' => rw [hgives.unique hgives']
    | integer hkey' => exact absurd hkey (hinteger _ hkey').2
  | integer hkey hgives hread =>
    cases h' with
    | text hkey' => exact absurd hkey' (hinteger _ hkey).1
    | list hkey' => exact absurd hkey' (hinteger _ hkey).2
    | integer _ hgives' hread' =>
      obtain rfl := hgives.unique hgives'
      rw [Option.some.inj (hread.symm.trans hread')]

/-- A text or an integer is set if its variable holds more than blanks. -/
theorem exists_sets_iff_gives (hintegers : ∀ k ∈ integerKeys, ∀ text,
      Gives env (variableOf k) text → ∃ n, Number.readInteger text = some n)
    (hkey : key ∈ textKeys ++ integerKeys) :
    (∃ c, Sets env key c) ↔ ∃ text, Gives env (variableOf key) text := by
  constructor
  · rintro ⟨c, ⟨-, hgives⟩ | ⟨-, hgives⟩ | ⟨-, hgives⟩⟩ <;> exact ⟨_, hgives⟩
  · rintro ⟨text, hgives⟩
    rcases List.mem_append.mp hkey with htext | hinteger
    · exact ⟨_, .text htext hgives⟩
    · obtain ⟨n, hread⟩ := hintegers key hinteger text hgives
      exact ⟨_, .integer hinteger hgives hread⟩

/-- A list is set if its variable has an item that is more than blanks. -/
theorem exists_sets_iff_items (hkey : key ∈ listKeys) : (∃ c, Sets env key c) ↔
    ∃ text, Gives env (variableOf key) text ∧
      ∃ piece ∈ Text.splitAt ',' text, Text.strip piece ≠ "" := by
  have hno : ∀ k ∈ listKeys, k ∉ textKeys ∧ k ∉ integerKeys := by decide
  have hitems : ∀ text, Text.items text ≠ [] ↔
      ∃ piece ∈ Text.splitAt ',' text, Text.strip piece ≠ "" := by
    intro text
    simp [Text.items]
  simp only [← hitems]
  constructor
  · rintro ⟨c, ⟨hkey', -⟩ | ⟨-, hgives, hsome⟩ | ⟨hkey', -⟩⟩
    · exact absurd hkey' (hno key hkey).1
    · exact ⟨_, hgives, hsome⟩
    · exact absurd hkey' (hno key hkey).2
  · rintro ⟨text, hgives, hsome⟩
    exact ⟨_, .list hkey hgives hsome⟩

theorem mem_textOption {e : String × Cell} : e ∈ textOption env key ↔
    ∃ text, Gives env (variableOf key) text ∧ e = (key, .text text) := by
  unfold textOption
  simp only [← text?_eq_some_iff]
  cases env.text? (variableOf key) <;> simp

theorem mem_listOption {e : String × Cell} : e ∈ listOption env key ↔
    ∃ text, Gives env (variableOf key) text ∧ Text.items text ≠ [] ∧
      e = (key, Cell.texts (Text.items text)) := by
  unfold listOption Environment.items
  simp only [← text?_eq_some_iff]
  cases env.text? (variableOf key) with
  | none => simp
  | some text => cases hitems : Text.items text <;> simp [hitems]

/-- An integer option that can be read is there if its variable holds more than blanks. -/
theorem integerOption_eq_ok {l : List (String × Cell)} (h : integerOption env key = .ok l) :
    (∀ text, Gives env (variableOf key) text → ∃ n, Number.readInteger text = some n) ∧
    ∀ e, e ∈ l ↔ ∃ text n, Gives env (variableOf key) text ∧ Number.readInteger text = some n ∧
      e = (key, .int n) := by
  unfold integerOption Environment.integer? at h
  simp only [← text?_eq_some_iff]
  cases htext : env.text? (variableOf key) with
  | none =>
    rw [htext] at h
    obtain rfl := Except.ok.inj h
    simp
  | some text =>
    rw [htext] at h
    dsimp only at h
    cases hread : Number.readInteger text with
    | none =>
      rw [hread] at h
      cases h
    | some n =>
      rw [hread] at h
      obtain rfl := Except.ok.inj h
      simp [hread]

/-- What is read is what is set, and behind it the connection options. -/
theorem ofEnvironment_eq_ok {config : Config} (h : ofEnvironment env = .ok config) :
    ∃ plain, config = .ofList (plain ++ connectionOptions env) ∧
      (∀ key c, (key, c) ∈ plain ↔ Sets env key c) ∧
      ∀ key ∈ integerKeys, ∀ text, Gives env (variableOf key) text →
        ∃ n, Number.readInteger text = some n := by
  unfold ofEnvironment at h
  dsimp only at h
  cases hsize : integerOption env "bulk_size" with
  | error e =>
    rw [hsize] at h
    cases h
  | ok size =>
    cases hretry : integerOption env "retry" with
    | error e =>
      rw [hsize, hretry] at h
      cases h
    | ok retry =>
      rw [hsize, hretry] at h
      obtain rfl := Except.ok.inj h
      obtain ⟨hsizeReads, hsizeMem⟩ := integerOption_eq_ok hsize
      obtain ⟨hretryReads, hretryMem⟩ := integerOption_eq_ok hretry
      refine ⟨_, rfl, fun key c => ?_, fun key hkey => ?_⟩
      · simp only [List.mem_append, List.mem_flatMap, mem_textOption, mem_listOption, hsizeMem,
          hretryMem]
        constructor
        · rintro ((((⟨k, hk, text, hgives, heq⟩ | ⟨text, hgives, hitems, heq⟩) |
            ⟨text, n, hgives, hread, heq⟩) | ⟨text, n, hgives, hread, heq⟩) |
            ⟨text, hgives, hitems, heq⟩)
          · cases heq
            exact .text hk hgives
          · cases heq
            exact .list (by decide) hgives hitems
          · cases heq
            exact .integer (by decide) hgives hread
          · cases heq
            exact .integer (by decide) hgives hread
          · cases heq
            exact .list (by decide) hgives hitems
        · rintro (⟨hk, hgives⟩ | ⟨hk, hgives, hitems⟩ | ⟨hk, hgives, hread⟩)
          · exact .inl (.inl (.inl (.inl ⟨_, hk, _, hgives, rfl⟩)))
          · rcases List.mem_cons.mp hk with rfl | hk
            · exact .inl (.inl (.inl (.inr ⟨_, hgives, hitems, rfl⟩)))
            · obtain rfl := List.mem_singleton.mp hk
              exact .inr ⟨_, hgives, hitems, rfl⟩
          · rcases List.mem_cons.mp hk with rfl | hk
            · exact .inl (.inl (.inr ⟨_, _, hgives, hread, rfl⟩))
            · obtain rfl := List.mem_singleton.mp hk
              exact .inl (.inr ⟨_, _, hgives, hread, rfl⟩)
      · rcases List.mem_cons.mp hkey with rfl | hkey
        · exact hsizeReads
        · rw [List.mem_singleton.mp hkey]
          exact hretryReads

/-! ### What is read -/

/-- All texts in the cell are tight: they have no blanks around them, and they are not empty. -/
inductive Clean : Cell → Prop where
  | text {s : String} : Text.Tight s → Clean (.text s)
  | list {items : List String} : (∀ s ∈ items, Text.Tight s) → Clean (Cell.texts items)
  | integer (n : Int) : Clean (.int n)

theorem Sets.clean {c : Cell} (h : Sets env key c) : Clean c := by
  cases h with
  | text _ hgives => exact .text hgives.tight
  | list =>
    refine .list fun s hs => Text.tight_iff.mpr ⟨Text.strip_of_mem_items hs, ?_⟩
    exact of_decide_eq_true (List.mem_filter.mp hs).2
  | integer => exact .integer _

/-- The configuration has exactly the options that the environment declares. -/
structure Declared (env : Environment) (config : Config) : Prop where
  /-- the connection options are those that have a variable -/
  connection : ∀ key, Text.startsWith ConnectionSettings.optionStart key = true →
    (key ∈ config.keys ↔ (variablesFor env key).Nonempty)
  /-- each has the text of the greatest of its variables -/
  values : ∀ key ∈ config.keys, Text.startsWith ConnectionSettings.optionStart key = true →
    ∃ name text, IsGreatest (variablesFor env key) name ∧ Declares env key name text ∧
      config.get? key = some (.text text)
  /-- they stand in the order of the least of their variables -/
  order : (config.keys.filter (Text.startsWith ConnectionSettings.optionStart)).Pairwise
    fun key key' => ∃ name name', IsLeast (variablesFor env key) name ∧
      IsLeast (variablesFor env key') name' ∧ name < name'
  /-- every other option is set by its variable -/
  plain : ∀ key, Text.startsWith ConnectionSettings.optionStart key = false → ∀ c,
    config.get? key = some c ↔ Sets env key c
  /-- these are no others than the known ones -/
  known : ∀ key ∈ config.keys, Text.startsWith ConnectionSettings.optionStart key = false →
    key ∈ textKeys ++ listKeys ++ integerKeys
  /-- texts and integers are there if their variables hold more than blanks -/
  given : ∀ key ∈ textKeys ++ integerKeys,
    (key ∈ config.keys ↔ ∃ text, Gives env (variableOf key) text)
  /-- lists are there if their variables have an item that is more than blanks -/
  listed : ∀ key ∈ listKeys, (key ∈ config.keys ↔ ∃ text, Gives env (variableOf key) text ∧
    ∃ piece ∈ Text.splitAt ',' text, Text.strip piece ≠ "")
  /-- no text is blank or has blanks around it -/
  clean : ∀ key c, config.get? key = some c → Clean c

section Read

variable {plain : List (String × Cell)} (hplain : ∀ key c, (key, c) ∈ plain ↔ Sets env key c)

theorem isLeast_of_declarations {d : String × String × Cell} (hd : d ∈ declarations env)
    (hkey : d.2.1 = key) (h : ∀ d' ∈ declarations env, d'.2.1 = key → d.1 ≤ d'.1) :
    IsLeast (variablesFor env key) d.1 := by
  obtain ⟨name, key', c⟩ := d
  obtain rfl : key' = key := hkey
  obtain ⟨text, hdeclares, -⟩ := mem_declarations_iff.mp hd
  refine ⟨⟨text, hdeclares⟩, ?_⟩
  rintro name' ⟨text', hdeclares'⟩
  exact h (name', key', .text text') (mem_declarations_iff.mpr ⟨text', hdeclares', rfl⟩) rfl

theorem connectionOptions_keys (env : Environment) :
    (connectionOptions env).map Prod.fst = (declarations env).map (·.2.1) := by
  rw [← map_declarations, List.map_map]
  rfl

theorem mem_connectionOptions_keys :
    key ∈ (connectionOptions env).map Prod.fst ↔ (variablesFor env key).Nonempty := by
  rw [connectionOptions_keys, List.mem_map]
  constructor
  · rintro ⟨⟨name, key', c⟩, hd, rfl⟩
    obtain ⟨text, hdeclares, -⟩ := mem_declarations_iff.mp hd
    exact ⟨name, text, hdeclares⟩
  · rintro ⟨name, text, hdeclares⟩
    exact ⟨(name, key, .text text), mem_declarations_iff.mpr ⟨text, hdeclares, rfl⟩, rfl⟩

theorem startsWith_of_variablesFor (h : (variablesFor env key).Nonempty) :
    Text.startsWith ConnectionSettings.optionStart key = true := by
  obtain ⟨name, text, rest, -, rfl, -⟩ := h
  exact Text.startsWith_append _ _

theorem Sets.not_startsWith {c : Cell} (h : Sets env key c) :
    Text.startsWith ConnectionSettings.optionStart key = false := by
  have hno : ∀ k ∈ textKeys ++ listKeys ++ integerKeys,
      Text.startsWith ConnectionSettings.optionStart k = false := by decide
  exact hno key h.mem

include hplain in
theorem not_mem_plain (h : Text.startsWith ConnectionSettings.optionStart key = true) :
    key ∉ plain.map Prod.fst := by
  intro hmem
  obtain ⟨⟨key', c⟩, he, rfl⟩ := List.mem_map.mp hmem
  rw [((hplain key' c).mp he).not_startsWith] at h
  cases h

theorem get?_append_connection (plain : List (String × Cell)) (key : String) :
    OrderedMap.get? (.ofList (plain ++ connectionOptions env)) key =
      ((connectionOptions env).reverse.lookup key).or (plain.reverse.lookup key) := by
  rw [OrderedMap.get?_ofList, List.reverse_append, List.lookup_append]

theorem lookup_reverse_eq_none {l : List (String × Cell)} (h : key ∉ l.map Prod.fst) :
    l.reverse.lookup key = none := by
  rw [← Option.not_isSome_iff_eq_none, OrderedMap.lookup_isSome_iff, List.map_reverse,
    List.mem_reverse]
  exact h

/-- A connection option has the text of the greatest of its variables. -/
theorem get?_connection (plain : List (String × Cell)) (h : (variablesFor env key).Nonempty) :
    ∃ name text, IsGreatest (variablesFor env key) name ∧ Declares env key name text ∧
      OrderedMap.get? (.ofList (plain ++ connectionOptions env)) key = some (.text text) := by
  obtain ⟨c, hc⟩ : ∃ c, (connectionOptions env).reverse.lookup key = some c := by
    rw [← Option.isSome_iff_exists, OrderedMap.lookup_isSome_iff, List.map_reverse,
      List.mem_reverse]
    exact mem_connectionOptions_keys.mpr h
  rw [get?_append_connection, hc, Option.some_or]
  rw [← map_declarations] at hc
  obtain ⟨name, hd, hgreatest⟩ := greatest_last (declarations_lt env) hc
  obtain ⟨text, hdeclares, rfl⟩ := mem_declarations_iff.mp hd
  refine ⟨name, text, ⟨⟨text, hdeclares⟩, ?_⟩, hdeclares, rfl⟩
  rintro name' ⟨text', hdeclares'⟩
  exact hgreatest (name', key, .text text') (mem_declarations_iff.mpr ⟨text', hdeclares', rfl⟩) rfl

include hplain in
/-- Every other option has the cell to which its variable sets it. -/
theorem get?_plain (h : Text.startsWith ConnectionSettings.optionStart key = false) (c : Cell) :
    OrderedMap.get? (.ofList (plain ++ connectionOptions env)) key = some c ↔ Sets env key c := by
  have hconnection : key ∉ (connectionOptions env).map Prod.fst := fun hmem => by
    rw [startsWith_of_variablesFor (mem_connectionOptions_keys.mp hmem)] at h
    cases h
  rw [get?_append_connection, lookup_reverse_eq_none hconnection, Option.none_or,
    OrderedMap.lookup_eq_some_iff (fun c c' hc hc' => ?_), List.mem_reverse, hplain]
  rw [List.mem_reverse, hplain] at hc hc'
  exact hc.unique hc'

include hplain in
theorem mem_keys_connection (h : Text.startsWith ConnectionSettings.optionStart key = true) :
    key ∈ (OrderedMap.ofList (plain ++ connectionOptions env)).keys ↔
      (variablesFor env key).Nonempty := by
  rw [OrderedMap.mem_keys_ofList, List.map_append, List.mem_append,
    or_iff_right (not_mem_plain hplain h), mem_connectionOptions_keys]

include hplain in
theorem mem_keys_plain (h : Text.startsWith ConnectionSettings.optionStart key = false) :
    key ∈ (OrderedMap.ofList (plain ++ connectionOptions env)).keys ↔ ∃ c, Sets env key c := by
  rw [OrderedMap.mem_keys_iff]
  exact exists_congr (get?_plain hplain h)

include hplain in
/-- The connection options stand in the order of the least of their variables. -/
theorem keys_connection :
    ((OrderedMap.ofList (plain ++ connectionOptions env)).keys.filter
      (Text.startsWith ConnectionSettings.optionStart)).Pairwise
      fun key key' => ∃ name name', IsLeast (variablesFor env key) name ∧
        IsLeast (variablesFor env key') name' ∧ name < name' := by
  -- Keys of a map stand where they come first in the list, and there all connection options are
  -- behind the others.
  have hdeclared : ∀ {k}, k ∈ (OrderedMap.ofList (plain ++ connectionOptions env)).keys.filter
      (Text.startsWith ConnectionSettings.optionStart) → k ∈ (declarations env).map (·.2.1) ∧
      ((plain ++ connectionOptions env).map Prod.fst).idxOf k =
        (plain.map Prod.fst).length + ((declarations env).map (·.2.1)).idxOf k := fun hk => by
    obtain ⟨hmem, hstart⟩ := List.mem_filter.mp hk
    have hnot := not_mem_plain hplain hstart
    rw [OrderedMap.mem_keys_ofList, List.map_append, List.mem_append, or_iff_right hnot] at hmem
    rw [List.map_append, List.idxOf_append_of_notMem hnot, ← connectionOptions_keys]
    exact ⟨hmem, rfl⟩
  refine ((OrderedMap.keys_ofList_pairwise _).filter _).imp_of_mem fun hk hk' hlt => ?_
  obtain ⟨hmem, hindex⟩ := hdeclared hk
  obtain ⟨hmem', hindex'⟩ := hdeclared hk'
  rw [hindex, hindex'] at hlt
  obtain ⟨d, hd, d', hd', ⟨hkey, hleast⟩, ⟨hkey', hleast'⟩, hname⟩ :=
    least_lt (declarations_lt env) hmem hmem' (Nat.lt_of_add_lt_add_left hlt)
  exact ⟨d.1, d'.1, isLeast_of_declarations hd hkey hleast,
    isLeast_of_declarations hd' hkey' hleast', hname⟩

end Read

/-- What is read from an environment is what it declares. -/
theorem declared {config : Config} (h : ofEnvironment env = .ok config) : Declared env config := by
  obtain ⟨plain, rfl, hplain, hintegers⟩ := ofEnvironment_eq_ok h
  have hothers : ∀ k ∈ textKeys ++ listKeys ++ integerKeys,
      Text.startsWith ConnectionSettings.optionStart k = false := by decide
  refine
    { connection := fun key => mem_keys_connection hplain
      values := fun key hkey hstart =>
        get?_connection plain ((mem_keys_connection hplain hstart).mp hkey)
      order := keys_connection hplain
      plain := fun key hstart => get?_plain hplain hstart
      known := fun key hkey hstart => ?_
      given := fun key hkey => ?_
      listed := fun key hkey => ?_
      clean := fun key c hc => ?_ }
  · obtain ⟨c, hsets⟩ := (mem_keys_plain hplain hstart).mp hkey
    exact hsets.mem
  · have hall : key ∈ textKeys ++ listKeys ++ integerKeys := by
      simp only [List.mem_append] at hkey ⊢
      tauto
    rw [mem_keys_plain hplain (hothers key hall), exists_sets_iff_gives hintegers hkey]
  · have hall : key ∈ textKeys ++ listKeys ++ integerKeys :=
      List.mem_append_left _ (List.mem_append_right _ hkey)
    rw [mem_keys_plain hplain (hothers key hall), exists_sets_iff_items hkey]
  · cases hstart : Text.startsWith ConnectionSettings.optionStart key with
    | true =>
      have hkey := OrderedMap.mem_keys_iff.mpr ⟨c, hc⟩
      obtain ⟨name, text, -, ⟨rest, -, -, hgives⟩, htext⟩ :=
        get?_connection plain ((mem_keys_connection hplain hstart).mp hkey)
      obtain rfl := Option.some.inj (htext.symm.trans hc)
      exact .text hgives.tight
    | false => exact ((get?_plain hplain hstart c).mp hc).clean

/-! ### The order of variables -/

/-- The address of the client that is made of the options. -/
def addressIn (env : Environment) : Except Error String := do
  let config ← ofEnvironment env
  let settings ← ConnectionSettings.ofConfig config
  settings.address

/-- Environments with the same values are read alike. -/
theorem ofEnvironment_congr (h : ∀ name, env.get? name = env'.get? name) :
    ofEnvironment env = ofEnvironment env' := by
  have htext : env.text? = env'.text? := by
    funext name
    rw [Environment.text?, Environment.text?, h name]
  have hlist : listOption env = listOption env' := by
    funext key
    rw [listOption, listOption, Environment.items, Environment.items, htext]
  have hinteger : integerOption env = integerOption env' := by
    funext key
    rw [integerOption, integerOption, Environment.integer?, Environment.integer?, htext]
  have htexts : textOption env = textOption env' := by
    funext key
    rw [textOption, textOption, htext]
  have hconnection : connectionOptions env = connectionOptions env' := by
    have hnames : ∀ name, env.contains name = env'.contains name := fun name => by
      rw [OrderedMap.contains_eq_isSome, OrderedMap.contains_eq_isSome, h name]
    rw [connectionOptions, connectionOptions, OrderedMap.sorted_keys_eq hnames, htext]
  rw [ofEnvironment, ofEnvironment, htexts, hlist, hinteger, hconnection]

/-- **The environment is read as a map.** In any other order an environment that is not empty gives
the same options in the same order, or the same error, and with that the same address; and the
options are exactly those that it declares. -/
theorem ofEnvironment_declares (hsize : env.size ≠ 0) (process : Environment) :
    (∀ env' : Environment, env'.entries.Perm env.entries →
      ofEnvironment (.orProcess (some env') process) =
        ofEnvironment (.orProcess (some env) process) ∧
      addressIn (.orProcess (some env') process) = addressIn (.orProcess (some env) process)) ∧
    ∀ config, ofEnvironment (.orProcess (some env) process) = .ok config → Declared env config := by
  have hgiven : ∀ env : Environment, env.size ≠ 0 →
      Environment.orProcess (some env) process = env := fun env hsize => if_neg hsize
  rw [hgiven env hsize]
  refine ⟨fun env' hperm => ?_, fun config => declared⟩
  have hsize' : env'.size ≠ 0 := by
    rw [OrderedMap.size, hperm.length_eq]
    exact hsize
  have hsame := ofEnvironment_congr fun name => OrderedMap.get?_of_perm hperm name
  rw [hgiven env' hsize', addressIn, addressIn, hsame]
  exact ⟨rfl, rfl⟩

/-- Variables of which two declare the same connection option. -/
def crowdedVariables : List (String × String) :=
  [("SPARK_CLICKHOUSE_SINK_OPT_threads", " 4 "), ("SPARK_CLICKHOUSE_SINK_FIELDS", "a, ,b "),
    ("SPARK_CLICKHOUSE_SINK_OPT_block", "9"), ("SPARK_CLICKHOUSE_SINK_OPT_THREADS", "2"),
    ("SPARK_CLICKHOUSE_SINK_HOST", " h"), ("SPARK_CLICKHOUSE_SINK_RETRY", "3"),
    ("SPARK_CLICKHOUSE_SINK_TABLE", " ")]

/-- The option with two variables has the value of the greater one and the place of the lesser one;
in the opposite order the variables give the same. -/
theorem crowdedVariables_declare : ∃ config : Config,
    ofEnvironment (.orProcess (some (.ofList crowdedVariables)) .empty) = .ok config ∧
    (config.entries.map fun e => (e.1, e.2.display)) =
      [("host", "h"), ("fields", "['a', 'b']"), ("retry", "3"), ("clickhouse.threads", "4"),
        ("clickhouse.block", "9")] ∧
    ofEnvironment (.orProcess (some (.ofList crowdedVariables.reverse)) .empty) = .ok config ∧
    Declared (.ofList crowdedVariables) config := by
  have hentries : (OrderedMap.ofList crowdedVariables.reverse).entries.Perm
      (OrderedMap.ofList crowdedVariables).entries := by
    rw [OrderedMap.entries_ofList (by decide), OrderedMap.entries_ofList (by decide)]
    exact List.reverse_perm _
  have hsize : (OrderedMap.ofList crowdedVariables).size ≠ 0 := by decide
  obtain ⟨horder, hdeclared⟩ := ofEnvironment_declares hsize .empty
  have hsorted : ((OrderedMap.ofList crowdedVariables).keys.mergeSort fun a b => a ≤ b) =
      ["SPARK_CLICKHOUSE_SINK_FIELDS", "SPARK_CLICKHOUSE_SINK_HOST",
        "SPARK_CLICKHOUSE_SINK_OPT_THREADS", "SPARK_CLICKHOUSE_SINK_OPT_block",
        "SPARK_CLICKHOUSE_SINK_OPT_threads", "SPARK_CLICKHOUSE_SINK_RETRY",
        "SPARK_CLICKHOUSE_SINK_TABLE"] :=
    OrderedMap.sorted_keys_eq_of_perm (by decide +kernel) (by decide +kernel)
  have hread : ((ofEnvironment (.ofList crowdedVariables)).toOption.map fun config =>
      config.entries.map fun e => (e.1, e.2.display)) =
      some [("host", "h"), ("fields", "['a', 'b']"), ("retry", "3"), ("clickhouse.threads", "4"),
        ("clickhouse.block", "9")] := by
    rw [ofEnvironment, connectionOptions, hsorted]
    decide +kernel
  cases hconfig : ofEnvironment (.ofList crowdedVariables) with
  | error e =>
    rw [hconfig] at hread
    cases hread
  | ok config =>
    rw [hconfig] at hread
    exact ⟨config, hconfig, Option.some.inj hread, (horder _ hentries).1.trans hconfig,
      hdeclared config hconfig⟩

end SinkOptions

end TableLoader
