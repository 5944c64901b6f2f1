/-
# How integers are written

An integer is written as digits of any script, with a sign in front of them or none, and
with blanks around it (`Written`). Single underscores may stand between the digits. An
integer is read from a text exactly if the text is such a way to write it and has no more
than `digitLimit` digits (`readInteger_eq_some_iff`); the same holds for the characters of
ASCII bytes (`readIntegerBytes_eq_some_iff`). A text writes no more than one integer
(`Written.unique`), and an integer that has a text is read from it (`readInteger_toString`).

Key definitions: `Digits`, `Signed`, `Written`.
Key theorems: `readDigits_eq_some_iff`, `readInteger_eq_some_iff`,
`readIntegerBytes_eq_some_iff`, `Written.unique`, `readInteger_toString`.
-/
import TableLoader.Number.Integer
import TableLoader.Proofs.Text.Cut

namespace TableLoader.Number

open Text

/-- Digits with their values. Single underscores may stand between them. -/
inductive Digits : List Char → List Nat → Prop where
  | last {c : Char} {d : Nat} : digitValue? c = some d → Digits [c] [d]
  | next {c : Char} {d : Nat} {s : List Char} {ds : List Nat} :
      digitValue? c = some d → Digits s ds → Digits (c :: s) (d :: ds)
  | underscore {c : Char} {d : Nat} {s : List Char} {ds : List Nat} :
      digitValue? c = some d → Digits s ds → Digits (c :: '_' :: s) (d :: ds)

/-- Digits with a sign in front of them or none, and the integer that is written so. -/
inductive Signed : List Char → List Nat → Int → Prop where
  | plain {s : List Char} {ds : List Nat} : Digits s ds → Signed s ds (natOfDigits ds)
  | plus {s : List Char} {ds : List Nat} : Digits s ds → Signed ('+' :: s) ds (natOfDigits ds)
  | minus {s : List Char} {ds : List Nat} : Digits s ds → Signed ('-' :: s) ds (-natOfDigits ds)

/-- The characters write the integer with these digits. -/
inductive Written : List Char → List Nat → Int → Prop where
  | surround {before s after : List Char} {ds : List Nat} {n : Int} :
      (∀ c ∈ before, isNumberBlank c = true) → Signed s ds n →
      (∀ c ∈ after, isNumberBlank c = true) → Written (before ++ s ++ after) ds n

/-! ### Digits -/

/-- Digits begin with a digit, so with no underscore and no sign. -/
theorem Digits.not_mem_marks {c : Char} {s : List Char} {ds : List Nat} (h : Digits (c :: s) ds) :
    c ∉ ['_', '+', '-'] := by
  have hmarks : (['_', '+', '-'].all fun mark => (digitValue? mark).isNone) = true := by
    decide +kernel
  obtain ⟨d, hvalue⟩ : ∃ d, digitValue? c = some d := by
    cases h with
    | last hvalue | next hvalue | underscore hvalue => exact ⟨_, hvalue⟩
  intro hmem
  have hnone := List.all_eq_true.mp hmarks c hmem
  rw [hvalue] at hnone
  cases hnone

/-- Where digits stand, there are digits and underscores. -/
theorem Digits.mem {s : List Char} {ds : List Nat} (h : Digits s ds) :
    ∀ c ∈ s, (digitValue? c).isSome = true ∨ c = '_' := by
  induction h with
  | last hvalue => exact List.forall_mem_singleton.mpr (.inl (Option.isSome_of_eq_some hvalue))
  | next hvalue _ ih =>
    exact List.forall_mem_cons.mpr ⟨.inl (Option.isSome_of_eq_some hvalue), ih⟩
  | underscore hvalue _ ih =>
    exact List.forall_mem_cons.mpr ⟨.inl (Option.isSome_of_eq_some hvalue),
      List.forall_mem_cons.mpr ⟨.inr rfl, ih⟩⟩

theorem Digits.lt_ten {s : List Char} {ds : List Nat} (h : Digits s ds) : ∀ d ∈ ds, d < 10 := by
  induction h with
  | last hvalue => exact List.forall_mem_singleton.mpr (digitValue?_lt hvalue)
  | next hvalue _ ih => exact List.forall_mem_cons.mpr ⟨digitValue?_lt hvalue, ih⟩
  | underscore hvalue _ ih => exact List.forall_mem_cons.mpr ⟨digitValue?_lt hvalue, ih⟩

theorem readDigits_cons {c : Char} {d : Nat} {s : List Char} {ds : List Nat}
    (hvalue : digitValue? c = some d) (hs : Digits s ds) :
    readDigits (c :: s) = (readDigits s).map (d :: ·) := by
  cases s with
  | nil => cases hs
  | cons x more =>
    have hx : x ≠ '_' := fun heq => hs.not_mem_marks (by simp [heq])
    rw [readDigits.eq_def]
    simp [hvalue]

/-- A digit is followed by nothing, by an underscore and more digits, or by more digits. -/
theorem readDigits_eq_some_iff {s : List Char} {ds : List Nat} :
    readDigits s = some ds ↔ Digits s ds := by
  constructor
  · intro h
    fun_induction readDigits s generalizing ds with
    | case1 => cases h
    | case2 c rest hvalue => cases h
    | case3 c d hvalue =>
      obtain rfl := Option.some.inj h
      exact .last hvalue
    | case4 c d more hvalue ih =>
      obtain ⟨ds', hds', rfl⟩ := Option.map_eq_some_iff.mp h
      exact .underscore hvalue (ih hds')
    | case5 c d next more hnext hvalue ih =>
      obtain ⟨ds', hds', rfl⟩ := Option.map_eq_some_iff.mp h
      exact .next hvalue (ih hds')
  · intro h
    induction h with
    | last hvalue => simp [readDigits, hvalue]
    | underscore hvalue hs ih => simp [readDigits, hvalue, ih]
    | next hvalue hs ih => rw [readDigits_cons hvalue hs, ih, Option.map_some]

theorem readNatural_eq_some_iff {s : List Char} {n : Nat} : readNatural s = some n ↔
    ∃ ds, Digits s ds ∧ ds.length ≤ digitLimit ∧ natOfDigits ds = n := by
  unfold readNatural
  simp only [Option.bind_eq_some_iff, readDigits_eq_some_iff, Option.ite_none_right_eq_some,
    Option.some.injEq]

theorem not_blank_of_digit {c : Char} (h : (digitValue? c).isSome = true) :
    isNumberBlank c = false := by
  have hdigits : ∀ z ∈ zeros, ∀ k < 10, isNumberBlank (Char.ofNat (z + k)) = false := by
    decide +kernel
  obtain ⟨d, hd⟩ := Option.isSome_iff_exists.mp h
  obtain ⟨z, hz, rfl⟩ := Option.map_eq_some_iff.mp hd
  have hle := List.find?_some hz
  simp only [Bool.and_eq_true, decide_eq_true_eq] at hle
  have hblank := hdigits z (List.mem_of_find?_eq_some hz) (c.toNat - z) (by omega)
  rwa [Nat.add_sub_cancel' hle.1, Char.ofNat_toNat] at hblank

/-! ### Signs and blanks -/

theorem readSigned_eq_some_iff {s : List Char} {n : Int} :
    readSigned s = some n ↔ ∃ ds, Signed s ds n ∧ ds.length ≤ digitLimit := by
  constructor
  · intro h
    unfold readSigned at h
    split at h
    · next rest =>
      cases hrest : readNatural rest with
      | none =>
        rw [hrest] at h
        cases h
      | some m =>
        rw [hrest] at h
        obtain ⟨ds, hds, hlength, rfl⟩ := readNatural_eq_some_iff.mp hrest
        exact ⟨ds, Option.some.inj h ▸ .minus hds, hlength⟩
    · obtain ⟨m, hm, rfl⟩ := Option.map_eq_some_iff.mp h
      obtain ⟨ds, hds, hlength, rfl⟩ := readNatural_eq_some_iff.mp hm
      exact ⟨ds, .plus hds, hlength⟩
    · obtain ⟨m, hm, rfl⟩ := Option.map_eq_some_iff.mp h
      obtain ⟨ds, hds, hlength, rfl⟩ := readNatural_eq_some_iff.mp hm
      exact ⟨ds, .plain hds, hlength⟩
  · rintro ⟨ds, hsigned, hlength⟩
    have hread : ∀ {s}, Digits s ds → readNatural s = some (natOfDigits ds) :=
      fun hs => readNatural_eq_some_iff.mpr ⟨ds, hs, hlength, rfl⟩
    cases hsigned with
    | minus hs =>
      rw [readSigned, hread hs]
      rfl
    | plus hs =>
      rw [readSigned, hread hs]
      rfl
    | plain hs =>
      unfold readSigned
      split
      · exact absurd (by decide) hs.not_mem_marks
      · exact absurd (by decide) hs.not_mem_marks
      · rw [hread hs]
        rfl

/-- A signed number has digits, underscores and signs in it. -/
theorem Signed.mem {s : List Char} {ds : List Nat} {n : Int} (h : Signed s ds n) :
    ∀ c ∈ s, (digitValue? c).isSome = true ∨ c ∈ ['_', '+', '-'] := by
  have hdigits : ∀ {s ds}, Digits s ds →
      ∀ c ∈ s, (digitValue? c).isSome = true ∨ c ∈ ['_', '+', '-'] := fun hs c hc =>
    (hs.mem c hc).imp_right (by rintro rfl; exact List.mem_cons_self)
  cases h with
  | plain hs => exact hdigits hs
  | plus hs => exact List.forall_mem_cons.mpr ⟨.inr (by decide), hdigits hs⟩
  | minus hs => exact List.forall_mem_cons.mpr ⟨.inr (by decide), hdigits hs⟩

theorem Signed.not_blank {s : List Char} {ds : List Nat} {n : Int} (h : Signed s ds n) :
    ∀ c ∈ s, isNumberBlank c = false := by
  have hmarks : (['_', '+', '-'].all fun mark => !isNumberBlank mark) = true := by decide
  exact fun c hc => (h.mem c hc).elim not_blank_of_digit fun hmark =>
    (Bool.not_eq_true' _).mp (List.all_eq_true.mp hmarks c hmark)

/-- The size of a number is that of its digits. -/
theorem Signed.natAbs_eq {s : List Char} {ds : List Nat} {n : Int} (h : Signed s ds n) :
    n.natAbs = natOfDigits ds ∧ ∀ d ∈ ds, d < 10 := by
  cases h with
  | plain hs => exact ⟨Int.natAbs_natCast _, hs.lt_ten⟩
  | plus hs => exact ⟨Int.natAbs_natCast _, hs.lt_ten⟩
  | minus hs => exact ⟨by rw [Int.natAbs_neg, Int.natAbs_natCast], hs.lt_ten⟩

/-- What is written is what stands between the blanks. -/
theorem written_iff {s : List Char} {ds : List Nat} {n : Int} :
    Written s ds n ↔ Signed (trimWhere isNumberBlank s) ds n := by
  constructor
  · rintro ⟨hbefore, hsigned, hafter⟩
    have hself := trimWhere_eq_self_iff.mpr
      ⟨fun c hc => hsigned.not_blank c (List.mem_of_head? hc),
        fun c hc => hsigned.not_blank c (List.mem_of_getLast? hc)⟩
    rwa [trimWhere_surround hbefore hafter, hself]
  · intro hsigned
    obtain ⟨before, after, hbefore, hafter, hs⟩ := exists_trimWhere isNumberBlank s
    rw [hs]
    exact .surround hbefore hsigned hafter

/-- Characters write one integer. -/
theorem Written.unique {s : List Char} {ds ds' : List Nat} {n n' : Int} (h : Written s ds n)
    (h' : Written s ds' n') : n = n' := by
  have hdigits : ∀ {s ds ds'}, Digits s ds → Digits s ds' → ds = ds' := fun hs hs' =>
    Option.some.inj ((readDigits_eq_some_iff.mpr hs).symm.trans (readDigits_eq_some_iff.mpr hs'))
  -- The first character tells the sign, since no digit is one.
  rw [written_iff] at h h'
  generalize trimWhere isNumberBlank s = t at h h'
  cases h with
  | plain hs =>
    cases h' with
    | plain hs' => rw [hdigits hs hs']
    | plus => exact absurd (by decide) hs.not_mem_marks
    | minus => exact absurd (by decide) hs.not_mem_marks
  | plus hs =>
    cases h' with
    | plain hs' => exact absurd (by decide) hs'.not_mem_marks
    | plus hs' => rw [hdigits hs hs']
  | minus hs =>
    cases h' with
    | plain hs' => exact absurd (by decide) hs'.not_mem_marks
    | minus hs' => rw [hdigits hs hs']

/-- **A text is read as the integer that it writes**, if it has not too many digits. -/
theorem readInteger_eq_some_iff {s : String} {n : Int} :
    readInteger s = some n ↔ ∃ ds, Written s.toList ds n ∧ ds.length ≤ digitLimit := by
  simp only [written_iff]
  exact readSigned_eq_some_iff

/-- Bytes are read as the characters of ASCII that they are. -/
theorem readIntegerBytes_eq_some_iff {bs : List UInt8} {n : Int} :
    readIntegerBytes bs = some n ↔ (∀ b ∈ bs, b < 0x80) ∧
      ∃ ds, Written (bs.map fun b => Char.ofNat b.toNat) ds n ∧ ds.length ≤ digitLimit := by
  unfold readIntegerBytes
  rw [Option.ite_none_right_eq_some, readSigned_eq_some_iff, List.all_eq_true]
  simp only [decide_eq_true_eq, written_iff]

/-! ### The texts of integers -/

theorem digitValue?_of_isDigit {c : Char} (h : c.isDigit = true) :
    digitValue? c = some (c.toNat - 0x30) := by
  have hrange : 0x30 ≤ c.toNat ∧ c.toNat ≤ 0x30 + 9 := Char.isDigit_iff_toNat.mp h
  have hzeros : zeros = 0x30 :: zeros.tail := rfl
  rw [digitValue?, hzeros, List.find?_cons_of_pos (by simpa using hrange), Option.map_some]

/-- Digits of ASCII stand for the number that they write in decimal. -/
theorem natOfDigits_map (s : List Char) :
    natOfDigits (s.map fun c => c.toNat - 0x30) = Nat.ofDigitChars 10 s 0 := by
  rw [natOfDigits, List.foldl_map]
  rfl

theorem digits_of_isDigit : ∀ {s : List Char}, s ≠ [] → (∀ c ∈ s, c.isDigit = true) →
    Digits s (s.map fun c => c.toNat - 0x30)
  | [], hne, _ => absurd rfl hne
  | [c], _, h => .last (digitValue?_of_isDigit (h c (List.mem_singleton_self c)))
  | c :: x :: s, _, h => by
    obtain ⟨hc, hs⟩ := List.forall_mem_cons.mp h
    exact .next (digitValue?_of_isDigit hc) (digits_of_isDigit (List.cons_ne_nil x s) hs)

theorem toList_toString (n : Nat) : (toString n).toList = Nat.toDigits 10 n := by
  rw [Nat.toString_eq_ofList_toDigits, String.toList_ofList]

/-- A natural number is written as its digits. -/
theorem exists_digits_toString (n : Nat) :
    ∃ ds, Digits (toString n).toList ds ∧ ds.length = (Nat.toDigits 10 n).length ∧
      natOfDigits ds = n := by
  refine ⟨(Nat.toDigits 10 n).map fun c => c.toNat - 0x30, ?_, List.length_map .., ?_⟩
  · rw [toList_toString]
    exact digits_of_isDigit (Nat.toDigits_ne_nil) fun c hc =>
      Nat.isDigit_of_mem_toDigits (by decide) (by decide) hc
  · rw [natOfDigits_map, Nat.ofDigitChars_ten_toDigits]

theorem length_le_of_isWritable {n : Int} (h : isWritable n = true) :
    (Nat.toDigits 10 n.natAbs).length ≤ digitLimit := by
  unfold isWritable writtenBelow at h
  -- For any limit, so that the power of the actual one is not computed.
  have hle : ∀ k, 0 < k → n.natAbs < Nat.pow 10 k → (Nat.toDigits 10 n.natAbs).length ≤ k :=
    fun k hk hlt => (Nat.length_toDigits_le_iff (by decide) hk).mpr hlt
  exact hle digitLimit (by decide) (of_decide_eq_true h)

/-- An integer that has a text is read from it. -/
theorem readInteger_toString {n : Int} (h : isWritable n = true) :
    readInteger (toString n) = some n := by
  obtain ⟨ds, hdigits, hlength, hvalue⟩ := exists_digits_toString n.natAbs
  have hsigned : Signed (toString n).toList ds n := by
    rw [Nat.toString_eq_repr] at hdigits
    rw [Int.toString_eq_repr, Int.repr_eq_if]
    by_cases hsign : 0 ≤ n
    · have hn : n.toNat = n.natAbs ∧ n = (n.natAbs : Int) := by omega
      rw [if_pos hsign, hn.1]
      have hplain := Signed.plain hdigits
      rwa [hvalue, ← hn.2] at hplain
    · have hn : (-n).toNat = n.natAbs ∧ n = -(n.natAbs : Int) := by omega
      rw [if_neg hsign, hn.1, String.toList_append]
      have hminus := Signed.minus hdigits
      rwa [hvalue, ← hn.2] at hminus
  have hwritten : Written (toString n).toList ds n := by
    have hbare : Written ([] ++ (toString n).toList ++ []) ds n := .surround nofun hsigned nofun
    rwa [List.nil_append, List.append_nil] at hbare
  exact readInteger_eq_some_iff.mpr ⟨ds, hwritten, hlength ▸ length_le_of_isWritable h⟩

end TableLoader.Number
