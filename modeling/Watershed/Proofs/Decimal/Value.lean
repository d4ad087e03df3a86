import Watershed.Decimal.Basic
import Mathlib.Algebra.Order.Field.Rat
import Mathlib.Tactic.Positivity

namespace Watershed.Decimal

def value (d : Decimal) : ℚ := d.signed / 10 ^ d.scale

@[simp] theorem value_one : value 1 = 1 := by
  show ((1 : Int) : ℚ) / 10 ^ 0 = 1
  simp

theorem signed_nonneg_iff {d : Decimal} : 0 ≤ d.signed ↔ d.negative = false ∨ d.mantissa = 0 := by
  unfold signed
  cases d.negative with
  | false => simp
  | true => simp

theorem value_nonneg_iff {d : Decimal} : 0 ≤ d.value ↔ d.negative = false ∨ d.mantissa = 0 := by
  have hpos : (0 : ℚ) < 10 ^ d.scale := by positivity
  rw [value, le_div_iff₀ hpos, zero_mul, Int.cast_nonneg_iff, signed_nonneg_iff]

theorem value_of_nonneg {d : Decimal} (h : 0 ≤ d.value) :
    d.value = d.mantissa / ((10 ^ d.scale : Nat) : ℚ) := by
  have hm : d.signed = d.mantissa := by
    unfold signed
    rcases value_nonneg_iff.mp h with h | h
    · rw [h]
      rfl
    · rw [h]
      exact ite_self _
  rw [value, hm, Int.cast_natCast, Nat.cast_pow, Nat.cast_ofNat]

end Watershed.Decimal
