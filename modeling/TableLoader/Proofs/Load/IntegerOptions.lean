/-
# Integers as options

An option that is an integer may be given as any cell. There is no integer exactly if the
option is not given. Otherwise the cell is converted, and the answer should be exact: the
integer that the cell denotes, or an error that names the option (`Exact`). It is, unless
the cell strays (`integer_exact_iff`):

- Of a number that is not whole the whole part is taken.
- For an infinite number, and for one whose integer part does not fit into memory, there is
  an error of another kind, which does not name the option (`TooLarge`).
- A cell that is refused is shown, and one that cannot be shown gives way to another error.

Key definitions: `Denotes`, `Exact`, `TooLarge`, `Strays`, `Answers`, `converted`.
Key theorems: `Denotes.unique`, `answers_converted`, `Answers.exact_iff`,
`integer_exact_iff`.
-/
import TableLoader.Proofs.Number.WholePart
import TableLoader.Proofs.Sink.Options
import TableLoader.Proofs.Text.Numerals

namespace TableLoader

open Number

/-! ### What cells denote -/

/-- The cell denotes the number. -/
inductive Denotes : Cell → ℚ → Prop where
  | int (n : Int) : Denotes (.int n) n
  | float (negative : Bool) (m : Nat) (e : Int) :
      Denotes (.float (.finite negative m e)) (signFactor negative * (m * 2 ^ e))
  | decimal (negative : Bool) (c : Nat) (e : Int) :
      Denotes (.decimal (.finite negative c e)) (signFactor negative * (c * 10 ^ e))
  | text {s : String} {ds : List Nat} {n : Int} : Written s.toList ds n → Denotes (.text s) n
  | bytes {bs : List UInt8} {ds : List Nat} {n : Int} : (∀ b ∈ bs, b < 0x80) →
      Written (bs.map fun b => Char.ofNat b.toNat) ds n → Denotes (.bytes bs) n

/-- A cell denotes one number. -/
theorem Denotes.unique {c : Cell} {x y : ℚ} (h : Denotes c x) (h' : Denotes c y) : x = y := by
  cases h with
  | int | float | decimal => cases h'; rfl
  | text hs =>
    cases h' with
    | text hs' => rw [hs.unique hs']
  | bytes _ hs =>
    cases h' with
    | bytes _ hs' => rw [hs.unique hs']

/-! ### Conversion -/

/-- The integer of an option that is given. -/
def converted (key : String) (c : Cell) : Except Error (Option Int) :=
  let refused := Error.showing c (.notInteger key c.display)
  match c with
  | .flag _ => .error refused
  | _ =>
    match c.toInteger with
    | .ok n => .ok (some n)
    | .error (.fault .badValue) => .error refused
    | .error (.fault .badType) => .error refused
    | .error e => .error e

theorem integer?_eq_converted {config : Config} {key : String} {c : Cell}
    (hget : config.get? key = some c) (hgiven : ¬ NotGiven config key) :
    config.integer? key = converted key c := by
  have hblank : Config.isBlank (config.get? key) = false := by
    rw [← Bool.not_eq_true, isBlank_iff]
    exact hgiven
  rw [hget] at hblank
  unfold Config.integer?
  rw [hget]
  dsimp only
  rw [hblank]
  rfl

/-- The answer is exact: the integer that the cell denotes, or an error that names the option. -/
inductive Exact (key : String) (c : Cell) : Except Error (Option Int) → Prop where
  | number {n : Int} : Denotes c n → Exact key c (.ok (some n))
  | refused {e : Error} : e.name = "ValueError" →
      Text.startsWith (key ++ " must be an integer") e.message = true → Exact key c (.error e)

/-- Infinite numbers, and those whose integer part does not fit into memory. -/
inductive TooLarge : Cell → Prop where
  | float (negative : Bool) : TooLarge (.float (.infinity negative))
  | decimal (negative : Bool) : TooLarge (.decimal (.infinity negative))
  | vast {negative : Bool} {c : Nat} {e : Int} : Decimal.isVast c e = true →
      TooLarge (.decimal (.finite negative c e))

/-- The cells that are not answered exactly: numbers that are not whole or too large, and cells that
cannot be shown. -/
inductive Strays (c : Cell) : Prop where
  | fraction {x : ℚ} : Denotes c x → (∀ n : ℤ, x ≠ n) → Strays c
  | tooLarge : TooLarge c → Strays c
  | unwritable : c.isWritable = false → (∀ n, c ≠ .int n) → Strays c

section Exactness

variable {key : String} {c : Cell}

theorem exact_ok_iff {n : Int} : Exact key c (.ok (some n)) ↔ Denotes c n :=
  ⟨fun h => by cases h; assumption, .number⟩

/-- The whole part of a number is exact if the number is whole. -/
theorem exact_wholePart_iff {x : ℚ} (h : Denotes c x) :
    Exact key c (.ok (some (wholePart x))) ↔ ∃ n : ℤ, x = n := by
  rw [exact_ok_iff]
  constructor
  · intro hwhole
    exact ⟨wholePart x, h.unique hwhole⟩
  · rintro ⟨n, rfl⟩
    rwa [wholePart_intCast]

/-- An error without a text does not name the option. -/
theorem not_exact_fault (f : Fault) : ¬ Exact key c (.error (.fault f)) := by
  rintro (_ | ⟨-, hnames⟩)
  unfold Text.startsWith at hnames
  simp [Error.message, Error.message?] at hnames

theorem not_exact_tooManyDigits : ¬ Exact key c (.error .tooManyDigits) := by
  rintro (_ | ⟨-, hnames⟩)
  -- The option may have any name, but no `b` stands in the text of this error.
  have hno : 'b' ∉ Error.tooManyDigits.message.toList := by decide +kernel
  have hbegins := List.isPrefixOf_iff_prefix.mp hnames
  refine hno (hbegins.subset ?_)
  rw [String.toList_append]
  exact List.mem_append_right _ (by decide)

/-- A cell is refused exactly if it can be shown. -/
theorem exact_refused_iff :
    Exact key c (.error (.showing c (.notInteger key c.display))) ↔ c.isWritable = true := by
  constructor
  · intro h
    by_contra hwritable
    unfold Error.showing at h
    rw [if_neg hwritable] at h
    split at h
    · exact not_exact_fault _ h
    · exact not_exact_tooManyDigits h
  · intro hwritable
    have hmessage : (Error.notInteger key c.display).message =
        (key ++ " must be an integer") ++ (" (got: " ++ c.display ++ ")") := by
      have hmiddle : " must be an integer (got: " = " must be an integer" ++ " (got: " := by
        decide
      show key ++ " must be an integer (got: " ++ c.display ++ ")" = _
      rw [hmiddle]
      simp only [String.append_assoc]
    rw [Error.showing, if_pos hwritable]
    refine .refused rfl ?_
    rw [hmessage]
    exact Text.startsWith_append _ _

end Exactness

theorem Denotes.eq_int_of_unwritable {c : Cell} {x : ℚ} (h : Denotes c x)
    (hwritable : c.isWritable = false) : ∃ n, c = .int n := by
  cases h with
  | int n => exact ⟨n, rfl⟩
  | float | decimal | text | bytes => cases hwritable

/-- The ways in which a cell is converted. -/
inductive Answers (key : String) (c : Cell) : Except Error (Option Int) → Prop where
  | whole {x : ℚ} : Denotes c x → ¬ TooLarge c → Answers key c (.ok (some (wholePart x)))
  | tooLarge {f : Fault} : TooLarge c → f.name ∈ ["OverflowError", "MemoryError"] →
      Answers key c (.error (.fault f))
  | refused : (∀ x, Denotes c x → ∃ n : ℤ, x = n) → ¬ TooLarge c → (∀ n, c ≠ .int n) →
      Answers key c (.error (.showing c (.notInteger key c.display)))

section Converted

variable {key : String} {c : Cell}

theorem converted_of_ok {n : Int} (h : c.toInteger = .ok n) (hflag : ∀ b, c ≠ .flag b) :
    converted key c = .ok (some n) := by
  unfold converted
  split
  · exact absurd rfl (hflag _)
  · rw [h]

theorem converted_of_badValue (h : c.toInteger = .error (.fault .badValue)) :
    converted key c = .error (.showing c (.notInteger key c.display)) := by
  unfold converted
  split
  · rfl
  · rw [h]

/-- A text or bytes are read or refused. -/
theorem answers_of_read {read : Option Int} (hread : c.toInteger = orFault .badValue read)
    (hflag : ∀ b, c ≠ .flag b) (hlarge : ¬ TooLarge c) (hint : ∀ n, c ≠ .int n)
    (hwhole : ∀ x, Denotes c x → ∃ n : ℤ, x = n) (hdenotes : ∀ n ∈ read, Denotes c (n : ℤ)) :
    Answers key c (converted key c) := by
  cases read with
  | none =>
    rw [converted_of_badValue hread]
    exact .refused hwhole hlarge hint
  | some n =>
    have hread' : Answers key c (.ok (some (wholePart n))) := .whole (hdenotes n rfl) hlarge
    rwa [wholePart_intCast, ← converted_of_ok hread hflag] at hread'

/-- What is converted, cell by cell. -/
theorem answers_converted (hnull : c ≠ .null) : Answers key c (converted key c) := by
  cases c with
  | null => exact absurd rfl hnull
  | int n =>
    have hwhole : Answers key (.int n) (.ok (some (wholePart n))) := .whole (.int n) nofun
    rwa [wholePart_intCast] at hwhole
  | float x =>
    cases x with
    | nan => exact .refused nofun nofun nofun
    | infinity negative => exact .tooLarge (.float negative) (by decide)
    | finite negative m e =>
      have hinteger : (Cell.float (.finite negative m e)).toInteger =
          .ok (Binary64.truncate negative m e) := rfl
      rw [converted_of_ok hinteger nofun, Binary64.truncate_eq]
      exact .whole (.float negative m e) nofun
  | decimal d =>
    cases d with
    | nan negative signaling payload => exact .refused nofun nofun nofun
    | infinity negative => exact .tooLarge (.decimal negative) (by decide)
    | finite negative c e =>
      by_cases hvast : Decimal.isVast c e = true
      · have hmemory : (Cell.decimal (.finite negative c e)).toInteger =
            .error (.fault .noMemory) := if_pos hvast
        have hconverted : converted key (.decimal (.finite negative c e)) =
            .error (.fault .noMemory) := by
          rw [converted, hmemory]
          nofun
        rw [hconverted]
        exact .tooLarge (.vast hvast) (by decide)
      · have hinteger : (Cell.decimal (.finite negative c e)).toInteger =
            .ok (Decimal.truncate negative c e) := if_neg hvast
        rw [converted_of_ok hinteger nofun, Decimal.truncate_eq]
        exact .whole (.decimal negative c e) fun | .vast h => hvast h
  | text s =>
    refine answers_of_read (c := .text s) rfl nofun nofun nofun (fun _ h => ?_) fun n hn => ?_
    · cases h
      exact ⟨_, rfl⟩
    · obtain ⟨ds, hs, -⟩ := readInteger_eq_some_iff.mp hn
      exact .text hs
  | bytes bs =>
    refine answers_of_read (c := .bytes bs) rfl nofun nofun nofun (fun _ h => ?_) fun n hn => ?_
    · cases h
      exact ⟨_, rfl⟩
    · obtain ⟨hascii, ds, hs, -⟩ := readIntegerBytes_eq_some_iff.mp hn
      exact .bytes hascii hs
  | flag b => exact .refused nofun nofun nofun
  | date d => exact .refused nofun nofun nofun
  | dateTime d => exact .refused nofun nofun nofun
  | list items => exact .refused nofun nofun nofun
  | tuple items => exact .refused nofun nofun nofun
  | dict entries => exact .refused nofun nofun nofun
  | row fields => exact .refused nofun nofun nofun

/-- A conversion is exact if the cell does not stray. -/
theorem Answers.exact_iff {r : Except Error (Option Int)} (h : Answers key c r) :
    Exact key c r ↔ ¬ Strays c := by
  cases h with
  | whole hx hlarge =>
    rw [exact_wholePart_iff hx]
    constructor
    · rintro ⟨n, rfl⟩ (⟨hy, hfraction⟩ | h | ⟨hwritable, hint⟩)
      · exact hfraction n (hy.unique hx)
      · exact hlarge h
      · obtain ⟨n, hn⟩ := hx.eq_int_of_unwritable hwritable
        exact hint n hn
    · intro hno
      by_contra hfraction
      exact hno (.fraction hx fun n hn => hfraction ⟨n, hn⟩)
  | tooLarge hlarge => exact iff_of_false (not_exact_fault _) (not_not_intro (.tooLarge hlarge))
  | refused hwhole hlarge hint =>
    rw [exact_refused_iff]
    constructor
    · rintro hwritable (⟨hx, hfraction⟩ | h | ⟨hno, -⟩)
      · obtain ⟨n, hn⟩ := hwhole _ hx
        exact hfraction n hn
      · exact hlarge h
      · rw [hwritable] at hno
        cases hno
    · intro hno
      by_contra hwritable
      exact hno (.unwritable (Bool.not_eq_true _ ▸ hwritable) hint)

end Converted

/-! ### Options -/

/-- **Integer options are exact but for stray cells.** There is no integer exactly if the option is
not given. Otherwise the answer is the integer that the cell denotes or an error that names the
option, unless the cell strays. In any case an integer is the whole part of what the cell denotes,
and all errors but that of a refusal come from numbers that are too large. -/
theorem integer_exact_iff (config : Config) (key : String) :
    (config.integer? key = .ok none ↔ NotGiven config key) ∧
    ∀ c, config.get? key = some c → ¬ NotGiven config key →
      (Exact key c (config.integer? key) ↔ ¬ Strays c) ∧ Answers key c (config.integer? key) := by
  have hanswers : ∀ c, config.get? key = some c → ¬ NotGiven config key →
      Answers key c (config.integer? key) := by
    intro c hget hgiven
    rw [integer?_eq_converted hget hgiven]
    refine answers_converted ?_
    rintro rfl
    exact hgiven (.missing hget)
  refine ⟨⟨fun hnone => ?_, fun hblank => ?_⟩, fun c hget hgiven => ?_⟩
  · by_contra hgiven
    cases hget : config.get? key with
    | none => exact hgiven (.absent hget)
    | some c =>
      have h := hanswers c hget hgiven
      rw [hnone] at h
      cases h
  · unfold Config.integer?
    dsimp only
    rw [isBlank_iff.mpr hblank]
    rfl
  · have h := hanswers c hget hgiven
    exact ⟨h.exact_iff, h⟩

/-- The floating-point number 1.5. -/
def oneAndHalf : Binary64 := .finite false 6755399441055744 (-52)

/-- A number of retries as a text, and a fraction as the size of a batch. -/
def fractionalSize : Config :=
  .ofList [("retry", .text " 1_000 "), ("bulk_size", .float oneAndHalf)]

theorem oneAndHalf_not_whole (n : ℤ) :
    signFactor false * ((6755399441055744 : ℕ) * 2 ^ (-52 : ℤ)) ≠ (n : ℚ) := by
  have hvalue : signFactor false * ((6755399441055744 : ℕ) * 2 ^ (-52 : ℤ)) = 3 / 2 := by
    norm_num [signFactor]
  rw [hvalue, Ne, div_eq_iff (by norm_num)]
  intro h
  have hodd : (3 : ℤ) = n * 2 := by exact_mod_cast h
  omega

/-- The text is read exactly, and the fraction is not. -/
theorem fractionalSize_read :
    Exact "retry" (.text " 1_000 ") (fractionalSize.integer? "retry") ∧
    ¬ Exact "bulk_size" (.float oneAndHalf) (fractionalSize.integer? "bulk_size") := by
  obtain ⟨-, hretry⟩ := integer_exact_iff fractionalSize "retry"
  obtain ⟨-, hsize⟩ := integer_exact_iff fractionalSize "bulk_size"
  have hgiven : ∀ key ∈ ["retry", "bulk_size"], ¬ NotGiven fractionalSize key := by
    simp only [← isBlank_iff]
    decide +kernel
  constructor
  · rw [(hretry _ rfl (hgiven "retry" (by decide))).1]
    rintro (⟨hx, hfraction⟩ | h | ⟨h, -⟩)
    · cases hx
      exact hfraction _ rfl
    · cases h
    · cases h
  · rw [(hsize _ rfl (hgiven "bulk_size" (by decide))).1, not_not]
    exact .fraction (.float false 6755399441055744 (-52)) oneAndHalf_not_whole

/-- Infinity and fractions are no integers, and yet they are not refused: the one gives an error
that does not name the option, and of the other the whole part is taken. -/
theorem sizes_not_exact :
    ¬ Exact "bulk_size" (.float (.infinity false))
      (Config.integer? (.ofList [("bulk_size", .float (.infinity false))]) "bulk_size") ∧
    ¬ Exact "bulk_size" (.float oneAndHalf)
      (Config.integer? (.ofList [("bulk_size", .float oneAndHalf)]) "bulk_size") := by
  constructor
  · exact not_exact_fault _
  · have hone : Config.integer? (.ofList [("bulk_size", .float oneAndHalf)]) "bulk_size" =
        .ok (some 1) := rfl
    rw [hone, exact_ok_iff]
    intro h
    exact oneAndHalf_not_whole 1 (Denotes.unique (.float false 6755399441055744 (-52)) h)

end TableLoader
