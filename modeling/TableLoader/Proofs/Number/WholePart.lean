/-
# Whole parts

A floating-point number stands for `± m * 2 ^ e` and a decimal number for `± c * 10 ^ e`.
Where one becomes an integer its fraction is cut off, so it is rounded toward zero
(`Binary64.truncate_eq`, `Decimal.truncate_eq`). Of a decimal number with fewer digits than
places behind the point nothing is left, and so the power of ten, which may be vast, is not
needed for it.

Key definitions: `wholePart`, `signFactor`.
Key theorems: `floor_scaled`, `Binary64.truncate_eq`, `Decimal.truncate_eq`.
-/
import Mathlib
import TableLoader.Number.Decimal

namespace TableLoader.Number

/-- The number rounded toward zero. -/
def wholePart (x : ℚ) : ℤ := if x < 0 then ⌈x⌉ else ⌊x⌋

/-- The factor `1` or `-1`. -/
def signFactor (negative : Bool) : ℚ := if negative then -1 else 1

@[simp] theorem wholePart_intCast (n : ℤ) : wholePart n = n := by simp [wholePart]

theorem wholePart_sign (negative : Bool) {x : ℚ} (h : 0 ≤ x) :
    wholePart (signFactor negative * x) = if negative then -⌊x⌋ else ⌊x⌋ := by
  unfold wholePart signFactor
  cases negative with
  | false => simp [not_lt.mpr h]
  | true =>
    rcases h.eq_or_lt with rfl | hpos
    · simp
    · simp [hpos, Int.ceil_neg]

/-- Scaled up a number stays whole, and scaled down it is divided. -/
theorem floor_scaled (m b : ℕ) (e : ℤ) : ⌊(m : ℚ) * (b : ℚ) ^ e⌋ =
    ((if 0 ≤ e then m * b ^ e.toNat else m / b ^ (-e).toNat : ℕ) : ℤ) := by
  by_cases he : 0 ≤ e
  · have hpower : (b : ℚ) ^ e = ((b ^ e.toNat : ℕ) : ℚ) := by
      rw [Nat.cast_pow, ← zpow_natCast, Int.toNat_of_nonneg he]
    rw [if_pos he, hpower, ← Nat.cast_mul, Int.floor_natCast]
  · have hpower : (b : ℚ) ^ e = ((b ^ (-e).toNat : ℕ) : ℚ)⁻¹ := by
      rw [Nat.cast_pow, ← zpow_natCast, Int.toNat_of_nonneg (by omega), zpow_neg, inv_inv]
    rw [if_neg he, hpower, ← div_eq_mul_inv, Rat.floor_natCast_div_natCast, Int.natCast_div]

theorem Binary64.truncate_eq (negative : Bool) (m : Nat) (e : Int) :
    Binary64.truncate negative m e = wholePart (signFactor negative * (m * 2 ^ e)) := by
  have hfloor := floor_scaled m 2 e
  rw [Nat.cast_ofNat] at hfloor
  rw [wholePart_sign negative (by positivity), hfloor]
  unfold Binary64.truncate Binary64.ratio
  by_cases he : 0 ≤ e
  · simp [he]
  · simp [he]

theorem lt_pow_of_digitCount {c k : Nat} (hk : 0 < k) (h : digitCount c ≤ k) : c < 10 ^ k :=
  (Nat.length_toDigits_le_iff (by decide) hk).mp h

theorem Decimal.truncate_eq (negative : Bool) (c : Nat) (e : Int) :
    Decimal.truncate negative c e = wholePart (signFactor negative * (c * 10 ^ e)) := by
  have hfloor := floor_scaled c 10 e
  rw [Nat.cast_ofNat] at hfloor
  rw [wholePart_sign negative (by positivity), hfloor]
  -- The shortcuts for zero and for numbers below one do not change the quotient.
  have hshort : (if c = 0 then 0
      else if 0 ≤ e then c * Nat.pow 10 e.toNat
      else if digitCount c ≤ (-e).toNat then 0
      else c / Nat.pow 10 (-e).toNat) =
      if 0 ≤ e then c * 10 ^ e.toNat else c / 10 ^ (-e).toNat := by
    split_ifs with hzero he he hsmall
    · simp [hzero]
    · simp [hzero]
    · rfl
    · exact (Nat.div_eq_of_lt (lt_pow_of_digitCount (by omega) hsmall)).symm
    · rfl
  unfold Decimal.truncate
  rw [hshort]

end TableLoader.Number
