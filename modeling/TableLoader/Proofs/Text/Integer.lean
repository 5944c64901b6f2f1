/-
# Texts of integers

What stands in the text of an integer, and how large the integer can be. A text that
is read as an integer has digits, underscores, signs and blanks in it and nothing
else, so no character at which lists and addresses are cut (`mem_of_readInteger`). It
has at most `digitLimit` digits, so the integer has a text itself
(`isWritable_of_readInteger`), which has digits and a minus sign in it
(`mem_toString`).

Key theorems: `mem_of_readInteger`, `isWritable_of_readInteger`, `mem_toString`.
-/
import Mathlib.Tactic.Ring
import TableLoader.Proofs.Text.Numerals

namespace TableLoader.Number

open Text

/-! ### Characters -/

/-- In the text of an integer there are digits, underscores, signs and blanks. -/
theorem mem_of_readInteger {s : String} {n : Int} (h : readInteger s = some n) :
    ∀ c ∈ s.toList, (digitValue? c).isSome = true ∨ c ∈ ['_', '+', '-'] ∨
      isNumberBlank c = true := by
  obtain ⟨ds, hwritten, -⟩ := readInteger_eq_some_iff.mp h
  intro c hc
  cases hblank : isNumberBlank c with
  | true => exact .inr (.inr rfl)
  | false =>
    have hleft : c ∈ trimWhere isNumberBlank s.toList := mem_trimWhere hc hblank
    exact ((written_iff.mp hwritten).mem c hleft).imp_right .inl

/-- The characters of a natural number as it is written are digits. -/
theorem isDigit_of_mem_toString {n : Nat} {c : Char} (h : c ∈ (toString n).toList) :
    c.isDigit = true := by
  rw [toList_toString] at h
  exact Nat.isDigit_of_mem_toDigits (by decide) (by decide) h

/-- The characters of an integer as it is written are digits and a minus sign. -/
theorem mem_toString {n : Int} {c : Char} (h : c ∈ (toString n).toList) :
    c.isDigit = true ∨ c = '-' := by
  rw [Int.toString_eq_repr, Int.repr_eq_if] at h
  by_cases hsign : 0 ≤ n
  · rw [if_pos hsign] at h
    exact .inl (isDigit_of_mem_toString h)
  · rw [if_neg hsign, String.toList_append, List.mem_append] at h
    rcases h with hminus | hdigits
    · exact .inr (List.mem_singleton.mp hminus)
    · exact .inl (isDigit_of_mem_toString hdigits)

/-! ### Size -/

/-- Each further digit leaves the number below one more power of ten. -/
theorem foldl_digits_lt : ∀ (ds : List Nat) (n : Nat), (∀ d ∈ ds, d < 10) →
    ds.foldl (fun n d => 10 * n + d) n < (n + 1) * 10 ^ ds.length
  | [], n, _ => by simp
  | d :: ds, n, h => by
    have hd : d < 10 := h d List.mem_cons_self
    have hrest := foldl_digits_lt ds (10 * n + d) fun x hx => h x (List.mem_cons_of_mem d hx)
    calc (d :: ds).foldl (fun n d => 10 * n + d) n
        < (10 * n + d + 1) * 10 ^ ds.length := hrest
      _ ≤ ((n + 1) * 10) * 10 ^ ds.length := Nat.mul_le_mul_right _ (by omega)
      _ = (n + 1) * 10 ^ (d :: ds).length := by rw [List.length_cons]; ring

/-- An integer that was read from a text has a text. -/
theorem isWritable_of_readInteger {s : String} {n : Int} (h : readInteger s = some n) :
    isWritable n = true := by
  obtain ⟨ds, hwritten, hlength⟩ := readInteger_eq_some_iff.mp h
  obtain ⟨habs, hten⟩ := (written_iff.mp hwritten).natAbs_eq
  have hpow : ∀ k, ds.length ≤ k → 10 ^ ds.length ≤ Nat.pow 10 k :=
    fun k hk => Nat.pow_le_pow_right (by decide) hk
  have hbound := foldl_digits_lt ds 0 hten
  rw [Nat.zero_add, Nat.one_mul] at hbound
  unfold isWritable writtenBelow
  rw [decide_eq_true_eq, habs]
  exact Nat.lt_of_lt_of_le hbound (hpow digitLimit hlength)

end TableLoader.Number
