import Checkout.Proofs.Money.Nearest
import Checkout.Proofs.Money.Division

/-! The amount that is shown: exactly two places, the nearest amount of that form, and of two that are
equally near the one farther from zero. It is reached by cutting off what is behind the second place
and looking at the first digit that was cut off. -/
namespace Checkout

namespace Number

/-- A whole number such that no other is nearer; of two that are equally near it is the one farther
from zero. -/
structure IsNearestOut (x : ℚ) (n : ℤ) : Prop where
  nearest : ∀ m : ℤ, |x - n| ≤ |x - m|
  outside : ∀ m : ℤ, m ≠ n → |x - m| = |x - n| → |m| < |n|

section Nearest
variable {x : ℚ} {m n : ℤ}

/-- There is only one nearest whole number farther from zero. -/
theorem IsNearestOut.unique (hm : IsNearestOut x m) (hn : IsNearestOut x n) : m = n := by
  by_contra hne
  have hsame : |x - m| = |x - n| := le_antisymm (hm.nearest n) (hn.nearest m)
  have hlt := hn.outside m hne hsame
  have hgt := hm.outside n (Ne.symm hne) hsame.symm
  exact absurd hlt (not_lt.mpr hgt.le)

/-- A number is halfway between two whole numbers that are equally near. -/
lemma add_eq_two_mul_of_abs_eq (hne : m ≠ n) (h : |x - m| = |x - n|) : (m + n : ℚ) = 2 * x := by
  rcases abs_eq_abs.mp h with h | h
  · have hmn : (m : ℚ) = n := by linarith
    exact absurd (by exact_mod_cast hmn) hne
  · linarith

/-- The nearest whole number is at most one half away, and farther from zero if it is one half away.
-/
theorem isNearestOut_iff :
    IsNearestOut x n ↔ |x - n| ≤ 1 / 2 ∧ (|x - n| = 1 / 2 → |x| < |(n : ℚ)|) := by
  constructor
  · intro h
    refine ⟨forall_abs_sub_le_iff.mp h.nearest,fun htie => ?_⟩
    obtain ⟨m,hm,hdistance⟩ := exists_neighbour x n
    have hsame : |x - m| = |x - n| := by
      rw [hdistance, htie]
      norm_num
    have hlt : |(m : ℚ)| < |(n : ℚ)| := by exact_mod_cast h.outside m hm hsame
    have hle : |2 * x| ≤ |(m : ℚ)| + |(n : ℚ)| := add_eq_two_mul_of_abs_eq hm hsame ▸ abs_add_le _ _
    rw [abs_mul, abs_two] at hle
    linarith
  · rintro ⟨hclose,htie⟩
    refine ⟨forall_abs_sub_le_iff.mpr hclose,fun m hm hsame => ?_⟩
    have hhalf : |x - n| = 1 / 2 := by linarith [one_le_abs_add_abs x hm]
    have hsum := add_eq_two_mul_of_abs_eq hm hsame
    have hlt : |m + n| < 2 * |n| := by
      have hcast : |(m + n : ℚ)| < 2 * |(n : ℚ)| := by
        rw [hsum, abs_mul, abs_two]
        linarith [htie hhalf]
      exact_mod_cast hcast
    have hstep : |m - n| = 1 := by
      have hcast : |(m - n : ℚ)| = 1 := by
        have hdouble : (m - n : ℚ) = 2 * (x - n) := by linarith
        rw [hdouble, abs_mul, abs_two, hhalf]
        norm_num
      exact_mod_cast hcast
    simp only [Int.abs_eq_natAbs] at hlt hstep ⊢
    omega

end Nearest

/-- Division that settles ties away from zero goes up wherever the rest is not below one half. -/
lemma roundNat_awayFromZero (num den : ℕ) : roundNat .awayFromZero num den =
    if 2 * (num % den) < den then num / den else num / den + 1 := by
  simp only [roundNat, Tie.up, if_true, ite_self]

lemma roundDiv_one (tie : Tie) (n : ℤ) : roundDiv tie n 1 = n := by
  rw [roundDiv, roundNat_one]
  split_ifs <;> omega

lemma two_mul_lt_roundNat (num : ℕ) {den : ℕ} (h : 0 < den) :
    2 * num < 2 * (roundNat .awayFromZero num den * den) + den := by
  have hdivmod := Nat.div_add_mod' num den
  have hlt := Nat.mod_lt num h
  have hup : (num / den + 1) * den = num / den * den + den := Nat.succ_mul _ _
  rw [roundNat_awayFromZero]
  split_ifs <;> omega

lemma abs_lt_roundDiv {num : ℤ} {den : ℕ} (h : 0 < den)
    (htie : 2 * num = 2 * (roundDiv .awayFromZero num den * den) + den ∨
      2 * num + den = 2 * (roundDiv .awayFromZero num den * den)) :
    |num| < |roundDiv .awayFromZero num den| * den := by
  have hlt := two_mul_lt_roundNat num.natAbs h
  have hcast : ((roundNat .awayFromZero num.natAbs den * den : ℕ) : ℤ) =
      (roundNat .awayFromZero num.natAbs den : ℤ) * den := Nat.cast_mul _ _
  unfold roundDiv at htie ⊢
  split_ifs at htie ⊢ with hneg
  · rw [neg_mul, ← hcast] at htie
    rw [abs_neg, Nat.abs_cast, Int.abs_eq_natAbs, ← hcast]
    omega
  · rw [← hcast] at htie
    rw [Nat.abs_cast, Int.abs_eq_natAbs, ← hcast]
    omega

end Number

namespace Money.Decimal

open Checkout.Number (IsNearestOut isNearestOut_iff abs_lt_roundDiv roundDiv
  roundDiv_one roundNat_awayFromZero tie_of_abs_div_sub_eq)

/-- Rounding away from zero gives the nearest number of units, or of two the outer one. -/
theorem isNearestOut_shiftRound (places : ℕ) (a : Decimal) :
    IsNearestOut (10 ^ places * a.value) (a.shiftRound .awayFromZero places) := by
  have hden : 0 < 10 ^ (a.scale - places).toNat := by positivity
  have hclose := abs_shiftRound_sub_le .awayFromZero places a
  rw [abs_sub_comm] at hclose
  refine isNearestOut_iff.mpr ⟨hclose,fun htie => ?_⟩
  rw [ten_pow_mul_value, shiftRound_eq] at htie ⊢
  simp only [Nat.pow_eq] at htie ⊢
  have hlt := abs_lt_roundDiv hden (tie_of_abs_div_sub_eq hden (by exact_mod_cast htie))
  have hpos : (0 : ℚ) < (10 ^ (a.scale - places).toNat : ℕ) := Nat.cast_pos.mpr hden
  rw [abs_div, abs_of_pos hpos, div_lt_iff₀ hpos]
  exact_mod_cast hlt

/-- A number without some of its last digits, which are dropped one after the other. -/
def dropDigits : ℕ → ℕ → ℕ
  | 0, n => n
  | k + 1, n => dropDigits k (n / 10)

/-- An amount rounded to some places by looking at the first digit behind them. What is behind the
places is cut off, and from a five on one unit of the last place is added on the side of the sign. -/
def roundByDigit (places : ℕ) (a : Decimal) : Decimal :=
  if a.scale ≤ places then a
  else
    let cut := a.rescale places
    let digit := dropDigits (a.scale - places - 1).toNat a.mantissa.natAbs % 10
    if digit ≤ 4 then cut
    else if a.mantissa < 0 then { cut with mantissa := cut.mantissa - 1 }
    else { cut with mantissa := cut.mantissa + 1 }

lemma dropDigits_eq (k n : ℕ) : dropDigits k n = n / 10 ^ k := by
  induction k generalizing n with
  | zero => rw [dropDigits, pow_zero, Nat.div_one]
  | succ k ih => rw [dropDigits, ih, Nat.div_div_eq_div_mul, pow_succ']

/-- The first digit that is cut off tells on which side of the half the rest is. -/
lemma two_mul_mod_lt_iff (k n : ℕ) : 2 * (n % 10 ^ (k + 1)) < 10 ^ (k + 1) ↔ n / 10 ^ k % 10 ≤ 4 := by
  have hrest : n % 10 ^ k < 10 ^ k := Nat.mod_lt n (by positivity)
  rw [pow_succ, Nat.mod_mul]
  constructor
  · intro h
    by_contra hdigit
    have hle : 10 ^ k * 5 ≤ 10 ^ k * (n / 10 ^ k % 10) := Nat.mul_le_mul_left _ (by omega)
    omega
  · intro h
    have hle : 10 ^ k * (n / 10 ^ k % 10) ≤ 10 ^ k * 4 := Nat.mul_le_mul_left _ h
    omega

lemma rescale_of_scale_eq {places : ℕ} {a : Decimal} (h : a.scale = places) : a.rescale places = a := by
  cases a
  simp_all [rescale]

/-- What is behind the places is cut off toward zero. -/
lemma rescale_of_lt {places k : ℕ} {a : Decimal} (h : a.scale = places + k) :
    a.rescale places = ⟨a.mantissa.tdiv (10 ^ k : ℕ),places⟩ := by
  have hzero : (places - a.scale).toNat = 0 := by omega
  have hexcess : (a.scale - places).toNat = k := by omega
  rw [rescale, hzero, hexcess, pow_zero, Nat.cast_one, mul_one]

lemma tdiv_natCast (num : ℤ) (den : ℕ) : num.tdiv den =
    if num < 0 then -((num.natAbs / den : ℕ) : ℤ) else (num.natAbs / den : ℕ) := by
  rw [Int.ofNat_tdiv]
  split_ifs with hneg
  · have hnum : -(num.natAbs : ℤ) = num := by omega
    rw [← Int.neg_tdiv, hnum]
  · have hnum : (num.natAbs : ℤ) = num := by omega
    rw [hnum]

/-- Division away from zero is decided by the first digit that is cut off. -/
lemma roundDiv_awayFromZero_eq (num : ℤ) (k : ℕ) :
    roundDiv .awayFromZero num (10 ^ (k + 1)) =
      let cut := num.tdiv (10 ^ (k + 1) : ℕ)
      if num.natAbs / 10 ^ k % 10 ≤ 4 then cut else if num < 0 then cut - 1 else cut + 1 := by
  simp only [roundDiv, roundNat_awayFromZero, ← two_mul_mod_lt_iff, tdiv_natCast]
  split_ifs <;> omega

/-- Looking at one digit rounds away from zero. -/
theorem rescale_roundByDigit (places : ℕ) (a : Decimal) :
    (a.roundByDigit places).rescale places = ⟨a.shiftRound .awayFromZero places,places⟩ := by
  rw [shiftRound_eq]
  rcases le_or_gt a.scale places with hscale | hscale
  · have hnone : (a.scale - places).toNat = 0 := by omega
    rw [roundByDigit, if_pos hscale, rescale, hnone]
    simp [roundDiv_one]
  · obtain ⟨k,hk⟩ : ∃ k : ℕ, a.scale = places + (k + 1 : ℕ) := ⟨(a.scale - places - 1).toNat,by omega⟩
    have hzero : (places - a.scale).toNat = 0 := by omega
    have hexcess : (a.scale - places).toNat = k + 1 := by omega
    have hdigit : (a.scale - places - 1).toNat = k := by omega
    rw [hzero, hexcess, roundByDigit, if_neg (not_le.mpr hscale), rescale_of_lt hk, hdigit,
      dropDigits_eq, Nat.pow_eq, Nat.pow_eq, pow_zero, Nat.cast_one, mul_one,
      roundDiv_awayFromZero_eq]
    dsimp only
    split_ifs <;> exact rescale_of_scale_eq rfl

/-- The hundredth parts that are shown are the nearest number of them, or of two the outer one. -/
theorem isNearestOut_hundredths (a : Decimal) :
    IsNearestOut (100 * a.value) (a.shiftRound .awayFromZero 2) := by
  have h := a.isNearestOut_shiftRound 2
  norm_num at h
  exact h

/-- The hundredfold of what is shown is a whole number. -/
lemma hundred_mul_toTwoPlaces (a : Decimal) :
    10 ^ 2 * a.toTwoPlaces.value = (a.shiftRound .awayFromZero 2 : ℤ) := by
  rw [value, toTwoPlaces]
  norm_num
  ring

/-- An amount is shown with exactly two places, rounded to the nearest such amount with halves away
from zero, as the first digit behind them decides it. Nothing is left of the sign of what is rounded to
zero, and an amount that is shown already stays as it is. -/
theorem toTwoPlaces_rounds (a : Decimal) :
    a.toTwoPlaces = (a.roundByDigit 2).rescale 2 ∧ a.toTwoPlaces.scale = 2 ∧
    (∃ n : ℤ, a.toTwoPlaces.value = n / 100 ∧ ∀ m, IsNearestOut (100 * a.value) m ↔ m = n) ∧
    a.toTwoPlaces.toText ≠ "-0.00" ∧ a.toTwoPlaces.toTwoPlaces = a.toTwoPlaces := by
  have hwhole := a.hundred_mul_toTwoPlaces
  have hvalue : a.toTwoPlaces.value = a.shiftRound .awayFromZero 2 / 100 := by linarith
  refine ⟨(a.rescale_roundByDigit 2).symm,rfl,⟨_,hvalue,fun m => ?_⟩,fun htext => ?_,?_⟩
  · exact ⟨fun h => h.unique a.isNearestOut_hundredths,fun h => h ▸ a.isNearestOut_hundredths⟩
  · -- The text is read as zero, but zero has no sign in its text.
    have hread := ofText_toText (a := a.toTwoPlaces) (Int.natCast_nonneg 2)
    have hzero : ofText "-0.00" = .ok ⟨0,2⟩ := rfl
    rw [htext, hzero] at hread
    rw [← Except.ok.inj hread] at htext
    revert htext
    decide +kernel
  · exact congrArg (Decimal.mk · 2) (shiftRound_eq_of_value .awayFromZero 2 hwhole)

example : (roundByDigit 2 ⟨-99995,4⟩).toText = "-10.00" := by decide +kernel

end Money.Decimal
end Checkout
