/-
# Nested types

A type is written as layers around a text: the name of a wrapper and, between round
brackets, what is inside, with blanks at the brackets as one likes (`Layer`). It is
read as it is written, at any depth: the wrappers in their order, and inside them
what the innermost text stands for (`chain_printed`). Blanks around the whole do not
count (`parse_surround`).

A text that begins with a wrapper's name and an opening bracket, and ends with a
closing one, is that wrapper around all that stands between the two, brackets
included. Every other text is a plain type, and its form tells the kind
(`plainType_eq_iff`). The text that a type keeps is read as this type again
(`parse_raw`).

Key definitions: `Layer`, `printed`, `HasForm`.
Key theorems: `wrapper?_eq_some_iff`, `ofChars_around`, `chain_printed`,
`plainType_eq_iff`, `parse_raw`, `parse_reads`.
-/
import Mathlib.Data.List.Infix
import TableLoader.ColumnType.Parser
import TableLoader.Proofs.Text.Cut

namespace TableLoader
namespace ColumnType

/-! ### Wrappers and what they enclose -/

theorem enclosed?_eq_some_iff {front s body : List Char} :
    enclosed? front s = some body ↔ s = front ++ body ++ [')'] := by
  unfold enclosed?
  constructor
  · intro h
    split at h
    · next hbegins =>
      obtain ⟨rest, rfl⟩ := List.isPrefixOf_iff_prefix.mp hbegins
      simp only [List.drop_left, Option.ite_none_right_eq_some, Option.some.injEq] at h
      obtain ⟨hlast, rfl⟩ := h
      rw [List.append_assoc, List.dropLast_append_getLast? _ hlast]
    · cases h
  · rintro rfl
    have hbegins : front.isPrefixOf (front ++ body ++ [')']) = true := by
      rw [List.append_assoc]
      exact List.isPrefixOf_iff_prefix.mpr (List.prefix_append _ _)
    have hrest : (front ++ body ++ [')']).drop front.length = body ++ [')'] := by
      rw [List.append_assoc, List.drop_left]
    simp only [hbegins, hrest, List.getLast?_append, List.getLast?_singleton, Option.some_or,
      List.dropLast_concat, ↓reduceIte]

/-- A wrapper's name is known by its first letter. -/
theorem eq_of_opening_append {v w : Wrapper} {a b : List Char}
    (h : opening v.name ++ a = opening w.name ++ b) : v = w := by
  cases v <;> cases w <;> first | rfl | simp [opening, Wrapper.name] at h

/-- The text of a wrapper: what it encloses reaches to the last bracket. -/
theorem wrapper?_eq_some_iff {s body : List Char} {w : Wrapper} :
    wrapper? s = some (w, body) ↔ s = opening w.name ++ body ++ [')'] := by
  have hfound : ∀ {v b}, wrapper? s = some (v, b) → s = opening v.name ++ b ++ [')'] := by
    intro v b h
    obtain ⟨u, -, hu⟩ := List.exists_of_findSome?_eq_some h
    obtain ⟨c, hc, hpair⟩ := Option.map_eq_some_iff.mp hu
    cases hpair
    exact enclosed?_eq_some_iff.mp hc
  refine ⟨hfound, fun h => ?_⟩
  cases hother : wrapper? s with
  | none =>
    have hmem : w ∈ [Wrapper.nullable, .lowCardinality, .array] := by cases w <;> simp
    have hnone := List.findSome?_eq_none_iff.mp hother w hmem
    rw [enclosed?_eq_some_iff.mpr h] at hnone
    cases hnone
  | some found =>
    obtain ⟨v, b⟩ := found
    have hsame : opening v.name ++ b ++ [')'] = opening w.name ++ body ++ [')'] :=
      (hfound hother).symm.trans h
    obtain rfl : v = w := by
      rw [List.append_assoc, List.append_assoc] at hsame
      exact eq_of_opening_append hsame
    have hbody : b = body := by simpa using hsame
    rw [hbody]

/-- The text begins with a wrapper's name and an opening bracket, and ends with a closing one. -/
def IsWrapped (s : List Char) : Prop := ∃ (w : Wrapper) (body : List Char),
  s = opening w.name ++ body ++ [')']

theorem ofChars_of_wrapped {s body : List Char} {w : Wrapper}
    (h : Text.trim s = opening w.name ++ body ++ [')']) :
    ofChars s = .wrapped w (String.ofList (Text.trim s)) (ofChars body) := by
  rw [ofChars]
  split
  · next w' body' hw' =>
    have hw := wrapper?_eq_some_iff.mpr h
    rw [hw] at hw'
    cases hw'
    rfl
  · next hnone =>
    rw [wrapper?_eq_some_iff.mpr h] at hnone
    cases hnone

theorem ofChars_of_plain {s : List Char} (h : ¬ IsWrapped (Text.trim s)) :
    ofChars s = .plain (plainType (Text.trim s)) (String.ofList (Text.trim s)) := by
  rw [ofChars]
  split
  · next w body hw => exact absurd ⟨w, body, wrapper?_eq_some_iff.mp hw⟩ h
  · rfl

/-- A type is plain unless its text has the form of a wrapper. -/
theorem ofChars_plain_iff {s : List Char} :
    (∃ type raw, ofChars s = .plain type raw) ↔ ¬ IsWrapped (Text.trim s) := by
  constructor
  · rintro ⟨type, raw, hplain⟩ ⟨w, body, h⟩
    rw [ofChars_of_wrapped h] at hplain
    cases hplain
  · intro h
    exact ⟨_, _, ofChars_of_plain h⟩

/-- Blanks around a text do not count. -/
theorem ofChars_congr {s s' : List Char} (h : Text.trim s = Text.trim s') :
    ofChars s = ofChars s' := by
  by_cases hwrapped : IsWrapped (Text.trim s)
  · obtain ⟨w, body, hbody⟩ := hwrapped
    have hbody' : Text.trim s' = opening w.name ++ body ++ [')'] := h ▸ hbody
    rw [ofChars_of_wrapped hbody, ofChars_of_wrapped hbody', h]
  · have hwrapped' : ¬ IsWrapped (Text.trim s') := h ▸ hwrapped
    rw [ofChars_of_plain hwrapped, ofChars_of_plain hwrapped', h]

theorem raw_ofChars (s : List Char) : (ofChars s).raw = String.ofList (Text.trim s) := by
  by_cases hwrapped : IsWrapped (Text.trim s)
  · obtain ⟨w, body, hbody⟩ := hwrapped
    rw [ofChars_of_wrapped hbody]
    rfl
  · rw [ofChars_of_plain hwrapped]
    rfl

/-! ### Layers -/

/-- A wrapper, with the blanks that stand directly inside its brackets. -/
structure Layer where
  wrapper : Wrapper
  before : List Char
  after : List Char
  before_blank : ∀ c ∈ before, Text.isBlank c = true
  after_blank : ∀ c ∈ after, Text.isBlank c = true

/-- A wrapper without blanks inside. -/
def Layer.bare (w : Wrapper) : Layer := ⟨w, [], [], List.forall_mem_nil _, List.forall_mem_nil _⟩

/-- A text with a layer around it. -/
def Layer.around (l : Layer) (s : List Char) : List Char :=
  opening l.wrapper.name ++ (l.before ++ s ++ l.after) ++ [')']

/-- A text with layers around it, the first of them outermost. -/
def printed (layers : List Layer) (s : List Char) : List Char := layers.foldr Layer.around s

@[simp] theorem printed_nil (s : List Char) : printed [] s = s := rfl

@[simp] theorem printed_cons (l : Layer) (layers : List Layer) (s : List Char) :
    printed (l :: layers) s = l.around (printed layers s) := rfl

/-- No blanks stand around a layer. -/
theorem trim_around (l : Layer) (s : List Char) : Text.trim (l.around s) = l.around s := by
  obtain ⟨first, rest, hfirst, hopening⟩ : ∃ first rest, Text.isBlank first = false ∧
      opening l.wrapper.name = first :: rest := by
    cases l.wrapper
    · exact ⟨'N', "ullable(".toList, by decide, rfl⟩
    · exact ⟨'L', "owCardinality(".toList, by decide, rfl⟩
    · exact ⟨'A', "rray(".toList, by decide, rfl⟩
  rw [Layer.around, hopening, List.cons_append, List.cons_append]
  exact Text.trimWhere_eq_self hfirst (by decide)

theorem ofChars_around (l : Layer) (s : List Char) :
    ofChars (l.around s) = .wrapped l.wrapper (String.ofList (l.around s)) (ofChars s) := by
  have htext : Text.trim (l.around s) =
      opening l.wrapper.name ++ (l.before ++ s ++ l.after) ++ [')'] := trim_around l s
  rw [ofChars_of_wrapped htext, trim_around]
  congr 1
  exact ofChars_congr (Text.trimWhere_surround l.before_blank l.after_blank s)

/-- The types from the outermost to the innermost: first the layers, then what the text inside
stands for. -/
theorem chain_printed (layers : List Layer) (s : List Char) :
    ∃ nodes, (ofChars (printed layers s)).chain = nodes ++ (ofChars s).chain ∧
      nodes.map kindName = layers.map (·.wrapper.name) := by
  induction layers with
  | nil => exact ⟨[], rfl, rfl⟩
  | cons l layers ih =>
    obtain ⟨nodes, hchain, hkinds⟩ := ih
    refine ⟨ofChars (printed (l :: layers) s) :: nodes, ?_, ?_⟩
    · rw [printed_cons, ofChars_around, chain, hchain, List.cons_append]
    · rw [List.map_cons, List.map_cons, hkinds, printed_cons, ofChars_around]
      rfl

/-- Each type keeps its own text. -/
theorem raw_chain_printed {layers : List Layer} {s : List Char}
    (hleaf : (ofChars s).chain = [ofChars s]) :
    (ofChars (printed layers s)).chain.map raw =
      layers.tails.map fun ls => Text.strip (String.ofList (printed ls s)) := by
  have hraw : ∀ t, (ofChars t).raw = Text.strip (String.ofList t) := fun t => by
    rw [raw_ofChars, Text.strip, String.toList_ofList]
  induction layers with
  | nil => simp [hleaf, hraw]
  | cons l layers ih =>
    rw [List.tails_cons, List.map_cons, ← ih, ← hraw, printed_cons, ofChars_around, chain]
    rfl

/-- Blanks around the whole do not count. -/
theorem parse_surround {before after : List Char} (hbefore : ∀ c ∈ before, Text.isBlank c = true)
    (hafter : ∀ c ∈ after, Text.isBlank c = true) (s : List Char) :
    parse (String.ofList (before ++ s ++ after)) = ofChars s := by
  rw [parse, String.toList_ofList]
  exact ofChars_congr (Text.trimWhere_surround hbefore hafter s)

/-! ### The text of a type -/

/-- Every type inside a type stands for some text. -/
theorem exists_of_mem_chain {s : List Char} :
    ∀ {t}, t ∈ (ofChars s).chain → ∃ s', t = ofChars s' := by
  induction hlength : s.length using Nat.strongRecOn generalizing s with
  | ind n ih =>
    intro t ht
    by_cases hwrapped : IsWrapped (Text.trim s)
    · obtain ⟨w, body, hbody⟩ := hwrapped
      have hshorter : body.length < n := by
        have htrim := length_trim_le s
        rw [hbody, List.length_append, List.length_append, List.length_singleton] at htrim
        omega
      have hself := ofChars_of_wrapped hbody
      rw [hself, chain, List.mem_cons] at ht
      rcases ht with rfl | ht
      · exact ⟨s, hself.symm⟩
      · exact ih _ hshorter rfl ht
    · have hself := ofChars_of_plain hwrapped
      rw [hself, chain, List.mem_singleton] at ht
      exact ⟨s, ht.trans hself.symm⟩

/-- The text that a type keeps is read as the same type. -/
theorem parse_raw {s : String} {t : ColumnType} (h : t ∈ (parse s).chain) : parse t.raw = t := by
  obtain ⟨s', rfl⟩ := exists_of_mem_chain h
  rw [parse, raw_ofChars, String.toList_ofList]
  exact ofChars_congr (Text.trimWhere_trimWhere s')

/-! ### The forms of plain types -/

/-- The names of decimal types. -/
def decimalNames : List String := ["Decimal", "Decimal32", "Decimal64", "Decimal128", "Decimal256"]

/-- The texts of the kinds of plain types that are known. -/
inductive HasForm : PlainType → List Char → Prop where
  | named {type} : type ∈ PlainType.named → HasForm type type.name.toList
  | decimal {name body} : name ∈ decimalNames → '\n' ∉ body →
      HasForm .decimal (opening name ++ body ++ [')'])
  | zoned {zone} : '\'' ∉ zone → HasForm .dateTime ("DateTime('".toList ++ zone ++ "')".toList)

theorem isDecimal_iff {s : List Char} : isDecimal s = true ↔
    ∃ name ∈ decimalNames, ∃ body, '\n' ∉ body ∧ s = opening name ++ body ++ [')'] := by
  unfold isDecimal
  rw [List.any_eq_true]
  refine exists_congr fun name => and_congr_right fun _ => ?_
  constructor
  · intro h
    cases hbody : enclosed? (opening name) s with
    | none => simp [hbody] at h
    | some body => exact ⟨body, by simpa [hbody] using h, enclosed?_eq_some_iff.mp hbody⟩
  · rintro ⟨body, hline, hs⟩
    simpa [enclosed?_eq_some_iff.mpr hs] using hline

theorem isZonedTime_iff {s : List Char} : isZonedTime s = true ↔
    ∃ zone, '\'' ∉ zone ∧ s = "DateTime('".toList ++ zone ++ "')".toList := by
  unfold isZonedTime
  constructor
  · intro h
    cases hbody : enclosed? "DateTime('".toList s with
    | none =>
      rw [hbody] at h
      cases h
    | some body =>
      simp only [hbody, Option.map_some, Option.getD_some, Bool.and_eq_true, beq_iff_eq] at h
      obtain ⟨hlast, hzone⟩ := h
      refine ⟨body.dropLast, by simpa using hzone, ?_⟩
      rw [enclosed?_eq_some_iff.mp hbody]
      nth_rewrite 1 [← List.dropLast_append_getLast? _ hlast]
      simp
  · rintro ⟨zone, hzone, hs⟩
    have hbody : enclosed? "DateTime('".toList s = some (zone ++ ['\'']) := by
      rw [enclosed?_eq_some_iff, hs]
      simp
    rw [hbody]
    simpa using hzone

/-- The names of plain types have no brackets. -/
theorem find?_named_eq_none {s : List Char} (h : '(' ∈ s) :
    PlainType.named.find? (·.name.toList = s) = none := by
  have hnames : ∀ type ∈ PlainType.named, '(' ∉ type.name.toList := by decide
  rw [List.find?_eq_none]
  intro type htype heq
  have hname : type.name.toList = s := by simpa using heq
  exact hnames type htype (hname ▸ h)

/-- A time with a zone is no decimal type: their second letters differ. -/
theorem isDecimal_zoned (zone : List Char) :
    isDecimal ("DateTime('".toList ++ zone ++ "')".toList) = false := by
  have hnames : ∀ name ∈ decimalNames, (opening name).take 2 = ['D', 'e'] ∧
      2 ≤ (opening name).length := by decide
  rw [← Bool.not_eq_true, isDecimal_iff]
  rintro ⟨name, hname, body, -, htext⟩
  obtain ⟨hletters, hlength⟩ := hnames name hname
  have htake := congrArg (List.take 2) htext
  rw [List.append_assoc (opening name), List.take_append_of_le_length hlength, hletters] at htake
  simp at htake

/-- The kind of a text of a known form. -/
theorem HasForm.plainType_eq {type : PlainType} {s : List Char} (h : HasForm type s) :
    plainType s = type := by
  cases h with
  | named htype =>
    have hself : ∀ type ∈ PlainType.named, plainType type.name.toList = type := by decide
    exact hself type htype
  | @decimal name body hname hline =>
    have hbracket : '(' ∈ opening name ++ body ++ [')'] := by simp [opening]
    have hdecimal : isDecimal (opening name ++ body ++ [')']) = true :=
      isDecimal_iff.mpr ⟨name, hname, body, hline, rfl⟩
    rw [plainType, find?_named_eq_none hbracket]
    exact if_pos hdecimal
  | @zoned zone hzone =>
    have hbracket : '(' ∈ "DateTime('".toList ++ zone ++ "')".toList := by simp
    have hzoned : isZonedTime ("DateTime('".toList ++ zone ++ "')".toList) = true :=
      isZonedTime_iff.mpr ⟨zone, hzone, rfl⟩
    rw [plainType, find?_named_eq_none hbracket]
    dsimp only
    rw [isDecimal_zoned, if_neg Bool.false_ne_true, if_pos hzoned]

/-- A text of a known kind has a form of the kind. -/
theorem hasForm_plainType {s : List Char} (hknown : plainType s ≠ .unknown) :
    HasForm (plainType s) s := by
  unfold plainType at hknown ⊢
  split
  · next type hfound =>
    obtain rfl : type.name.toList = s := by simpa using List.find?_some hfound
    exact .named (List.mem_of_find?_eq_some hfound)
  · next hnone =>
    simp only [hnone] at hknown
    split
    · next hdecimal =>
      obtain ⟨name, hname, body, hline, rfl⟩ := isDecimal_iff.mp hdecimal
      exact .decimal hname hline
    · next hdecimal =>
      split
      · next hzoned =>
        obtain ⟨zone, hzone, rfl⟩ := isZonedTime_iff.mp hzoned
        exact .zoned hzone
      · next hzoned => exact absurd (by rw [if_neg hdecimal, if_neg hzoned]) hknown

theorem HasForm.known {type : PlainType} {s : List Char} (h : HasForm type s) :
    type ≠ .unknown := by
  cases h with
  | named htype =>
    rintro rfl
    exact absurd htype (by decide)
  | decimal | zoned => simp

/-- A known kind is the kind of exactly the texts that have one of its forms. -/
theorem plainType_eq_iff {s : List Char} {type : PlainType} (hknown : type ≠ .unknown) :
    plainType s = type ↔ HasForm type s := by
  constructor
  · rintro rfl
    exact hasForm_plainType hknown
  · exact HasForm.plainType_eq

/-- All other texts are of unknown kind. -/
theorem plainType_eq_unknown_iff {s : List Char} :
    plainType s = .unknown ↔ ∀ type, ¬ HasForm type s := by
  constructor
  · intro hunknown type hform
    exact hform.known (hform.plainType_eq.symm.trans hunknown)
  · intro hnone
    by_contra hknown
    exact hnone _ (hasForm_plainType hknown)

/-! ### Types and their texts -/

/-- No plain type has the name of a wrapper. -/
theorem name_ne_wrapper (type : PlainType) (w : Wrapper) : type.name ≠ w.name := by
  cases type <;> cases w <;> decide

/-- A type with the name of a wrapper is this wrapper around a type. -/
theorem inner_of_mem_chain {t u : ColumnType} (h : u ∈ t.chain) {w : Wrapper}
    (hkind : u.kindName = w.name) : ∃ inner ∈ t.chain, u = .wrapped w u.raw inner := by
  have hwrapper : ∀ v w : Wrapper, v.name = w.name → v = w := by
    intro v w
    cases v <;> cases w <;> decide
  induction t with
  | plain type kept =>
    obtain rfl : u = .plain type kept := by simpa [chain] using h
    exact absurd hkind (name_ne_wrapper type w)
  | wrapped v kept inner ih =>
    rw [chain, List.mem_cons] at h
    rcases h with rfl | h
    · obtain rfl := hwrapper v w hkind
      have hself : inner ∈ inner.chain := by cases inner <;> simp [chain]
      exact ⟨inner, List.mem_cons_of_mem _ hself, rfl⟩
    · obtain ⟨inside, hinside, hu⟩ := ih h
      exact ⟨inside, List.mem_cons_of_mem _ hinside, hu⟩

/-- Types are read as they are written, at any depth and with blanks as one likes; the form of a
text without wrappers tells the kind; and the text of every type inside a type is read as this
type again. -/
theorem parse_reads :
    (∀ (layers : List Layer) (before after : List Char) (s : String) (type : PlainType)
      (kept : String), (∀ c ∈ before, Text.isBlank c = true) →
      (∀ c ∈ after, Text.isBlank c = true) → parse s = .plain type kept →
      (∃ nodes, (parse (String.ofList (before ++ printed layers s.toList ++ after))).chain =
          nodes ++ [parse s] ∧ nodes.map kindName = layers.map (·.wrapper.name)) ∧
        (parse (String.ofList (before ++ printed layers s.toList ++ after))).chain.map raw =
          layers.tails.map fun ls => Text.strip (String.ofList (printed ls s.toList))) ∧
    (∀ s : String, (∃ type kept, parse s = .plain type kept) ↔ ¬ IsWrapped (Text.strip s).toList) ∧
    (∀ (s : String) (type : PlainType) (kept : String), parse s = .plain type kept →
      kept = Text.strip s ∧
      (∀ known, known ≠ .unknown → (type = known ↔ HasForm known (Text.strip s).toList)) ∧
      (type = .unknown ↔ ∀ known, ¬ HasForm known (Text.strip s).toList)) ∧
    (∀ s : String, ∀ t ∈ (parse s).chain, parse t.raw = t ∧
      ∀ w : Wrapper, t.kindName = w.name →
        ∃ inner ∈ (parse s).chain, t = .wrapped w t.raw inner) := by
  have hstrip : ∀ s : String, (Text.strip s).toList = Text.trim s.toList := fun s => by
    rw [Text.strip, String.toList_ofList]
  refine ⟨?_, ?_, ?_, ?_⟩
  · intro layers before after s type kept hbefore hafter hplain
    have hleaf : (ofChars s.toList).chain = [ofChars s.toList] := by
      rw [parse] at hplain
      rw [hplain, chain]
    obtain ⟨nodes, hchain, hkinds⟩ := chain_printed layers s.toList
    rw [parse_surround hbefore hafter]
    exact ⟨⟨nodes, hchain.trans (congrArg (nodes ++ ·) hleaf), hkinds⟩, raw_chain_printed hleaf⟩
  · intro s
    rw [hstrip]
    exact ofChars_plain_iff
  · intro s type kept hplain
    have hself := ofChars_of_plain (ofChars_plain_iff.mp ⟨type, kept, hplain⟩)
    obtain ⟨rfl, rfl⟩ := ColumnType.plain.inj (hplain.symm.trans hself)
    rw [hstrip]
    exact ⟨rfl, fun known hknown => plainType_eq_iff hknown, plainType_eq_unknown_iff⟩
  · intro s t ht
    exact ⟨parse_raw ht, fun w hkind => inner_of_mem_chain ht hkind⟩

/-- A nullable text in a dictionary, with blanks and a line break. -/
def paddedLayers : List Layer :=
  [⟨.lowCardinality, [' '], [' '], List.forall_mem_singleton.mpr rfl,
      List.forall_mem_singleton.mpr rfl⟩,
    ⟨.nullable, [], ['\n'], List.forall_mem_nil _, List.forall_mem_singleton.mpr rfl⟩]

theorem paddedLayers_read : parse "String" = .plain .string "String" ∧
    (parse " LowCardinality( Nullable(String\n) )").chain.map raw =
      ["LowCardinality( Nullable(String\n) )", "Nullable(String\n)", "String"] := by
  have hleaf : parse "String" = .plain .string "String" := by decide +kernel
  have htext : String.ofList ([' '] ++ printed paddedLayers "String".toList ++ []) =
      " LowCardinality( Nullable(String\n) )" := by decide +kernel
  obtain ⟨-, hraws⟩ :=
    parse_reads.1 paddedLayers [' '] [] "String" _ _ (List.forall_mem_singleton.mpr rfl)
      (List.forall_mem_nil _) hleaf
  rw [htext] at hraws
  exact ⟨hleaf, hraws.trans (by decide +kernel)⟩

end ColumnType
end TableLoader
