import Checkout.Money.Cents
import Mathlib.Algebra.Order.Field.Power
import Mathlib.Data.Rat.Cast.Order
import Mathlib.Tactic

/-! The values of amounts. Rounding an amount to a number of places moves it by at most half a unit of
the last place, so an amount that needs no more places than that is not moved at all. -/
namespace Checkout

namespace Number

lemma roundDiv_close (tie : Tie) (num : ℤ) {den : ℕ} (h : 0 < den) :
    2 * num ≤ 2 * (roundDiv tie num den * den) + den ∧
      2 * (roundDiv tie num den * den) ≤ 2 * num + den := by
  obtain ⟨hlow,hhigh⟩ := roundNat_close tie num.natAbs h
  have hcast : ((roundNat tie num.natAbs den * den : ℕ) : ℤ) =
      (roundNat tie num.natAbs den : ℤ) * den := Nat.cast_mul _ _
  unfold roundDiv
  split
  · rw [neg_mul, ← hcast]
    omega
  · rw [← hcast]
    omega

end Number

namespace Money

open Checkout.Number (Tie roundDiv roundDiv_close)

namespace Decimal

/-- The number that an amount stands for. -/
def value (a : Decimal) : ℚ := a.mantissa * 10 ^ (-a.scale)

/-- A power of ten with a whole exponent as a quotient of two with natural ones. -/
lemma ten_zpow_sub (m n : ℤ) :
    (10 : ℚ) ^ (m - n) = (10 ^ (m - n).toNat : ℕ) / (10 ^ (n - m).toNat : ℕ) := by
  rcases le_total n m with h | h
  · rw [Int.toNat_of_nonpos (by omega : n - m ≤ 0), pow_zero, Nat.cast_one, div_one, Nat.cast_pow,
      ← zpow_natCast, Int.toNat_of_nonneg (by omega)]
    norm_num
  · rw [Int.toNat_of_nonpos (by omega : m - n ≤ 0), pow_zero, Nat.cast_one, Nat.cast_pow,
      ← zpow_natCast, Int.toNat_of_nonneg (by omega), one_div, ← zpow_neg]
    norm_num

/-- An amount in units of some place is the quotient that is rounded. -/
lemma ten_pow_mul_value (places : ℕ) (a : Decimal) : (10 : ℚ) ^ places * a.value =
    (a.mantissa * (10 ^ (places - a.scale).toNat : ℕ)) / (10 ^ (a.scale - places).toNat : ℕ) := by
  rw [mul_div_assoc, ← ten_zpow_sub, value, sub_eq_add_neg, zpow_add₀ (by norm_num), zpow_natCast]
  ring

/-- The number of units that rounding to some places leaves is at most one half off. -/
theorem abs_shiftRound_sub_le (tie : Tie) (places : ℕ) (a : Decimal) :
    |(a.shiftRound tie places : ℚ) - 10 ^ places * a.value| ≤ 1 / 2 := by
  have hden : 0 < 10 ^ (a.scale - places).toNat := by positivity
  obtain ⟨hlow,hhigh⟩ := roundDiv_close tie (a.mantissa * (10 ^ (places - a.scale).toNat : ℕ)) hden
  rw [ten_pow_mul_value, shiftRound_eq]
  simp only [Nat.pow_eq]
  generalize roundDiv tie (a.mantissa * (10 ^ (places - a.scale).toNat : ℕ))
    (10 ^ (a.scale - places).toNat) = r at hlow hhigh ⊢
  generalize 10 ^ (a.scale - places).toNat = den at hden hlow hhigh ⊢
  have hden : (0 : ℚ) < den := Nat.cast_pos.mpr hden
  have hlow : (2 : ℚ) * (a.mantissa * (10 ^ (places - a.scale).toNat : ℕ)) ≤ 2 * (r * den) + den := by
    exact_mod_cast hlow
  have hhigh : (2 : ℚ) * (r * den) ≤ 2 * (a.mantissa * (10 ^ (places - a.scale).toNat : ℕ)) + den := by
    exact_mod_cast hhigh
  rw [abs_le]
  constructor
  · rw [neg_le_sub_iff_le_add, div_le_iff₀ hden]
    linarith
  · rw [sub_le_comm, le_div_iff₀ hden]
    linarith

/-- An amount that needs no more places than it is rounded to is not moved. -/
theorem shiftRound_eq_of_value (tie : Tie) (places : ℕ) {a : Decimal} {k : ℤ}
    (hk : 10 ^ places * a.value = k) : a.shiftRound tie places = k := by
  have hclose := abs_shiftRound_sub_le tie places a
  rw [hk, ← Int.cast_sub, ← Int.cast_abs] at hclose
  have hlt : |a.shiftRound tie places - k| < 1 := by
    have : ((|a.shiftRound tie places - k| : ℤ) : ℚ) < 1 := lt_of_le_of_lt hclose (by norm_num)
    exact_mod_cast this
  have := abs_lt.mp hlt
  omega

lemma toCents_eq_ok_iff {a : Decimal} {m : Cents} :
    a.toCents = .ok m ↔ m.count = a.shiftRound .toEven 2 := by
  rw [← Cents.ofInt?_eq_some_iff, toCents]
  split
  · next c hc => simp [hc]
  · next hc => simp [hc]

end Decimal

lemma Cents.value_toDecimal (m : Cents) : m.toDecimal.value = m.count / 100 := by
  rw [Decimal.value, Cents.toDecimal]
  norm_num
  ring

/-- Cents that were turned into an amount are the cents of that amount. -/
theorem Cents.toCents_toDecimal (m : Cents) : m.toDecimal.toCents = .ok m := by
  have hwhole : (10 : ℚ) ^ 2 * m.toDecimal.value = m.count := by
    rw [m.value_toDecimal]
    ring
  exact Decimal.toCents_eq_ok_iff.mpr (Decimal.shiftRound_eq_of_value .toEven 2 hwhole).symm

/-- An amount is charged within half a cent. -/
theorem Decimal.abs_value_sub_le {a : Decimal} {m : Cents} (h : a.toCents = .ok m) :
    |m.toDecimal.value - a.value| ≤ 1 / 200 := by
  have hclose := abs_shiftRound_sub_le .toEven 2 a
  rw [← toCents_eq_ok_iff.mp h] at hclose
  rw [m.value_toDecimal]
  rw [abs_le] at hclose ⊢
  constructor
  · linarith [hclose.1]
  · linarith [hclose.2]

/-- An amount of whole cents is charged exactly. -/
theorem Decimal.value_toDecimal_eq {a : Decimal} {m : Cents} (h : a.toCents = .ok m) {k : ℤ}
    (hk : 100 * a.value = k) : m.toDecimal.value = a.value := by
  have hwhole : (10 : ℚ) ^ 2 * a.value = k := by
    rw [← hk]
    norm_num
  have hcount := (toCents_eq_ok_iff.mp h).trans (shiftRound_eq_of_value .toEven 2 hwhole)
  rw [m.value_toDecimal, hcount, ← hk]
  ring

/-- An amount with at most two places is one of whole cents. -/
lemma Decimal.exists_hundredfold_eq {a : Decimal} (h : a.scale ≤ 2) : ∃ k : ℤ, 100 * a.value = k := by
  refine ⟨a.mantissa * 10 ^ (2 - a.scale).toNat,?_⟩
  have hpow : (10 : ℚ) ^ (2 - a.scale).toNat = 10 ^ (2 - a.scale) := by
    rw [← zpow_natCast, Int.toNat_of_nonneg (by omega)]
  push_cast
  rw [hpow, sub_eq_add_neg, zpow_add₀ (by norm_num), value]
  norm_num
  ring

end Money
end Checkout
