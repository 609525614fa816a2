import Checkout.Proofs.Money.Value

/-! The cents that are charged for an amount are the whole number nearest to its hundredfold, where
an exact half goes to the even one, and an amount is refused exactly if that number does not fit.
The number can be reached in steps: what is behind the point is cut off, and one step away from zero
follows if more than a half was cut off, or a half behind an odd number. -/
namespace Checkout

namespace Number

/-- A whole number such that no other is nearer; of two that are equally near it is the even one. -/
structure IsNearest (x : ℚ) (n : ℤ) : Prop where
  nearest : ∀ m : ℤ, |x - n| ≤ |x - m|
  even_of_tie : ∀ m : ℤ, m ≠ n → |x - m| = |x - n| → Even n

section Nearest
variable {x : ℚ} {m n : ℤ}

lemma one_le_abs_add_abs (x : ℚ) (h : m ≠ n) : 1 ≤ |x - m| + |x - n| := by
  have hint : 1 ≤ |n - m| := Int.one_le_abs (sub_ne_zero.mpr h.symm)
  have hcast : (1 : ℚ) ≤ |(n : ℚ) - m| := by exact_mod_cast hint
  have htriangle := abs_sub_le (n : ℚ) x m
  rw [abs_sub_comm (n : ℚ) x] at htriangle
  linarith

/-- On the side of the number there is another whole number, one step from the first. -/
lemma exists_neighbour (x : ℚ) (n : ℤ) : ∃ m : ℤ, m ≠ n ∧ |x - m| = |1 - (|x - n|)| := by
  rcases le_total (n : ℚ) x with h | h
  · refine ⟨n + 1,by omega,?_⟩
    rw [abs_of_nonneg (sub_nonneg.mpr h), abs_sub_comm 1]
    push_cast
    ring_nf
  · refine ⟨n - 1,by omega,?_⟩
    rw [abs_of_nonpos (sub_nonpos.mpr h)]
    push_cast
    ring_nf

/-- No whole number is nearer than one that is at most one half away. -/
lemma forall_abs_sub_le_iff : (∀ m : ℤ, |x - n| ≤ |x - m|) ↔ |x - n| ≤ 1 / 2 := by
  constructor
  · intro h
    obtain ⟨m,-,hdistance⟩ := exists_neighbour x n
    have hle := h m
    rw [hdistance] at hle
    by_contra hfar
    have hlt : |1 - (|x - n|)| < |x - n| := abs_lt.mpr ⟨by linarith,by linarith⟩
    exact absurd hle (not_le.mpr hlt)
  · intro hclose m
    rcases eq_or_ne m n with rfl | hm
    · rfl
    · linarith [one_le_abs_add_abs x hm]

/-- The nearest whole number is at most one half away, and it is even if it is one half away. -/
theorem isNearest_iff : IsNearest x n ↔ |x - n| ≤ 1 / 2 ∧ (|x - n| = 1 / 2 → Even n) := by
  constructor
  · intro h
    refine ⟨forall_abs_sub_le_iff.mp h.nearest,fun htie => ?_⟩
    obtain ⟨m,hm,hdistance⟩ := exists_neighbour x n
    refine h.even_of_tie m hm ?_
    rw [hdistance, htie]
    norm_num
  · rintro ⟨hclose,htie⟩
    refine ⟨forall_abs_sub_le_iff.mpr hclose,fun m hm heq => htie ?_⟩
    linarith [one_le_abs_add_abs x hm]

/-- There is only one nearest whole number. -/
theorem IsNearest.unique (hm : IsNearest x m) (hn : IsNearest x n) : m = n := by
  by_contra hne
  obtain ⟨hclose,heven⟩ := isNearest_iff.mp hm
  obtain ⟨hclose',heven'⟩ := isNearest_iff.mp hn
  have hapart := one_le_abs_add_abs x hne
  obtain ⟨i,rfl⟩ := heven (by linarith)
  obtain ⟨j,rfl⟩ := heven' (by linarith)
  have htriangle := abs_sub_le ((i + i : ℤ) : ℚ) x (j + j : ℤ)
  rw [abs_sub_comm _ x, ← Int.cast_sub, ← Int.cast_abs] at htriangle
  have hstep : |i + i - (j + j)| ≤ 1 := by
    exact_mod_cast htriangle.trans (by linarith : _ ≤ (1 : ℚ))
  have := abs_le.mp hstep
  omega

end Nearest

/-- A quotient halfway between two whole numbers, without the division. -/
lemma tie_of_abs_div_sub_eq {num r : ℤ} {den : ℕ} (hden : 0 < den)
    (h : |(num : ℚ) / den - r| = 1 / 2) :
    2 * num = 2 * (r * den) + den ∨ 2 * num + den = 2 * (r * den) := by
  have hpos : (0 : ℚ) < den := Nat.cast_pos.mpr hden
  have hvalue : (num : ℚ) / den * den = num := div_mul_cancel₀ _ hpos.ne'
  rcases eq_or_eq_neg_of_abs_eq h with he | he
  · left
    have hcast : (2 : ℚ) * num = 2 * (r * den) + den := by
      linear_combination 2 * den * he - 2 * hvalue
    exact_mod_cast hcast
  · right
    have hcast : (2 : ℚ) * num + den = 2 * (r * den) := by
      linear_combination 2 * den * he - 2 * hvalue
    exact_mod_cast hcast

/-- Division that settles ties by the even number is even where there is a tie. -/
lemma even_roundNat {num den : ℕ} (h : 0 < den)
    (htie : 2 * num = 2 * (roundNat .toEven num den * den) + den ∨
      2 * num + den = 2 * (roundNat .toEven num den * den)) : Even (roundNat .toEven num den) := by
  have hdivmod := Nat.div_add_mod' num den
  have hlt := Nat.mod_lt num h
  have hup : (num / den + 1) * den = num / den * den + den := Nat.succ_mul _ _
  simp only [roundNat] at htie ⊢
  split_ifs at htie ⊢ with hlow hhigh hodd
  · omega
  · omega
  · rw [Nat.even_add_one, Nat.not_even_iff]
    exact beq_iff_eq.mp hodd
  · rw [Nat.even_iff]
    have hne : ¬ num / den % 2 = 1 := fun hodd' => hodd (beq_iff_eq.mpr hodd')
    omega

lemma even_roundDiv {num : ℤ} {den : ℕ} (h : 0 < den)
    (htie : 2 * num = 2 * (roundDiv .toEven num den * den) + den ∨
      2 * num + den = 2 * (roundDiv .toEven num den * den)) : Even (roundDiv .toEven num den) := by
  have hcast : ((roundNat .toEven num.natAbs den * den : ℕ) : ℤ) =
      (roundNat .toEven num.natAbs den : ℤ) * den := Nat.cast_mul _ _
  unfold roundDiv at htie ⊢
  split_ifs at htie ⊢ with hneg
  · rw [neg_mul, ← hcast] at htie
    rw [even_neg, Int.even_coe_nat]
    exact even_roundNat h (by omega)
  · rw [← hcast] at htie
    rw [Int.even_coe_nat]
    exact even_roundNat h (by omega)

section Steps
variable {x : ℚ}

/-- The part of a number in front of its point. -/
def wholePart (x : ℚ) : ℤ := if x < 0 then ⌈x⌉ else ⌊x⌋

/-- One step away from zero, on the side of a number. -/
def stepOut (x : ℚ) : ℤ := if x < 0 then -1 else 1

/-- A number cut off at its point, then moved one step away from zero if more than a half was cut
off, or a half behind an odd number. -/
def roundInSteps (x : ℚ) : ℤ :=
  let cut := |x - wholePart x|
  if 1 / 2 < cut ∨ cut = 1 / 2 ∧ wholePart x % 2 ≠ 0 then wholePart x + stepOut x else wholePart x

/-- One step away from zero leads past the number, to the other end of the unit around it. -/
lemma abs_sub_add_stepOut (x : ℚ) :
    |x - (wholePart x + stepOut x : ℤ)| = 1 - (|x - wholePart x|) := by
  unfold wholePart stepOut
  split_ifs with h
  · have hle := Int.le_ceil x
    have hlt := Int.ceil_lt_add_one x
    rw [abs_of_nonpos (by linarith : x - ⌈x⌉ ≤ 0)]
    push_cast
    rw [abs_of_nonneg (by linarith)]
    ring
  · have hle := Int.floor_le x
    have hlt := Int.lt_floor_add_one x
    rw [abs_of_nonneg (by linarith : 0 ≤ x - ⌊x⌋)]
    push_cast
    rw [abs_of_nonpos (by linarith)]
    ring

/-- The number that is reached in steps is the nearest one. -/
theorem isNearest_roundInSteps (x : ℚ) : IsNearest x (roundInSteps x) := by
  rw [isNearest_iff]
  have hother := abs_sub_add_stepOut x
  have hodd : (wholePart x + stepOut x) % 2 ≠ wholePart x % 2 := by
    unfold stepOut
    split_ifs <;> omega
  simp only [roundInSteps]
  split_ifs with h
  · rw [hother, Int.even_iff]
    rcases h with h | ⟨h,hne⟩
    · exact ⟨by linarith,fun htie => by linarith⟩
    · exact ⟨by linarith,fun _ => by omega⟩
  · obtain ⟨hle,htie⟩ := not_or.mp h
    refine ⟨not_lt.mp hle,fun heq => ?_⟩
    rw [Int.even_iff]
    by_contra hne
    exact htie ⟨heq,hne⟩

/-- What is cut off at the point lies between zero and the number that is reached. -/
lemma wholePart_between (x : ℚ) :
    roundInSteps x ≤ wholePart x ∧ wholePart x ≤ 0 ∨
      0 ≤ wholePart x ∧ wholePart x ≤ roundInSteps x := by
  rcases lt_or_ge x 0 with h | h
  · have hwhole : wholePart x ≤ 0 := by
      rw [wholePart, if_pos h]
      exact Int.ceil_le.mpr (by exact_mod_cast h.le)
    have hstep : stepOut x = -1 := if_pos h
    left
    simp only [roundInSteps, hstep]
    split_ifs <;> omega
  · have hwhole : 0 ≤ wholePart x := by
      rw [wholePart, if_neg (not_lt.mpr h)]
      exact Int.floor_nonneg.mpr h
    have hstep : stepOut x = 1 := if_neg (not_lt.mpr h)
    right
    simp only [roundInSteps, hstep]
    split_ifs <;> omega

end Steps
end Number

namespace Money

open Checkout.Number (IsNearest roundInSteps wholePart stepOut even_roundDiv isNearest_iff
  isNearest_roundInSteps tie_of_abs_div_sub_eq wholePart_between)

namespace Decimal

/-- Rounding to the even unit gives the nearest number of units. -/
theorem isNearest_shiftRound (places : ℕ) (a : Decimal) :
    IsNearest (10 ^ places * a.value) (a.shiftRound .toEven places) := by
  have hden : 0 < 10 ^ (a.scale - places).toNat := by positivity
  have hclose := abs_shiftRound_sub_le .toEven places a
  rw [abs_sub_comm] at hclose
  refine isNearest_iff.mpr ⟨hclose,fun htie => ?_⟩
  rw [ten_pow_mul_value, shiftRound_eq] at htie
  rw [shiftRound_eq]
  exact even_roundDiv hden (tie_of_abs_div_sub_eq hden (by exact_mod_cast htie))

/-- A number of cents for an amount, which is refused if the number does not fit. -/
def fit (a : Decimal) (n : ℤ) : Except OutOfRange Cents :=
  match Cents.ofInt? n with
  | some c => .ok c
  | none => .error ⟨a⟩

/-- The cents of an amount in steps, each of which has to fit: the hundredfold is cut off at its
point, and if needed one step away from zero follows. -/
def toCentsInSteps (a : Decimal) : Except OutOfRange Cents := do
  let scaled := 100 * a.value
  let whole ← a.fit (wholePart scaled)
  let cut := |scaled - whole.count|
  if 1 / 2 < cut ∨ cut = 1 / 2 ∧ whole.count % 2 ≠ 0 then a.fit (whole.count + stepOut scaled)
  else return whole

lemma fit_eq_ok_iff {a : Decimal} {n : ℤ} {c : Cents} : a.fit n = .ok c ↔ c.count = n := by
  rw [← Cents.ofInt?_eq_some_iff, fit]
  split <;> simp_all

lemma fit_eq_error_iff {a : Decimal} {n : ℤ} {e : OutOfRange} : a.fit n = .error e ↔
    e = ⟨a⟩ ∧ ¬ (-9223372036854775808 ≤ n ∧ n < 9223372036854775808) := by
  unfold fit Cents.ofInt?
  split_ifs with h
  · simp [h]
  · simp [h, eq_comm]

/-- What is cut off at the point fits if the number that is reached does. -/
theorem toCentsInSteps_eq (a : Decimal) :
    a.toCentsInSteps = a.fit (roundInSteps (100 * a.value)) := by
  have hbetween := wholePart_between (100 * a.value)
  cases hwhole : a.fit (wholePart (100 * a.value)) with
  | error e =>
    obtain ⟨rfl,hout⟩ := fit_eq_error_iff.mp hwhole
    have hsteps : a.toCentsInSteps = .error ⟨a⟩ := by
      simp only [toCentsInSteps, hwhole]
      rfl
    rw [hsteps, fit_eq_error_iff.mpr ⟨rfl,by omega⟩]
  | ok whole =>
    have hsteps : a.toCentsInSteps = if 1 / 2 < |100 * a.value - whole.count| ∨
        |100 * a.value - whole.count| = 1 / 2 ∧ whole.count % 2 ≠ 0 then
          a.fit (whole.count + stepOut (100 * a.value)) else .ok whole := by
      simp only [toCentsInSteps, hwhole]
      rfl
    rw [hsteps, roundInSteps, ← fit_eq_ok_iff.mp hwhole]
    split_ifs with hstep
    · rfl
    · exact (fit_eq_ok_iff.mpr rfl).symm

/-- The cents of an amount are the whole number nearest to its hundredfold, ties to the even one,
whenever this fits, and otherwise the amount is refused with its own text. -/
theorem toCents_decides (a : Decimal) :
    (∃! n, IsNearest (100 * a.value) n) ∧
    (∀ c, a.toCents = .ok c ↔ IsNearest (100 * a.value) c.count) ∧
    (∀ e, a.toCents = .error e ↔ e = ⟨a⟩ ∧ ∀ n, IsNearest (100 * a.value) n →
      ¬ (-9223372036854775808 ≤ n ∧ n < 9223372036854775808)) ∧
    OutOfRange.message ⟨a⟩ = "amount " ++ a.toText ++ " does not fit in minor units" ∧
    a.toCentsInSteps = a.toCents := by
  have hnearest : IsNearest (100 * a.value) (a.shiftRound .toEven 2) := by
    have h := a.isNearest_shiftRound 2
    norm_num at h
    exact h
  have hall (n : ℤ) : IsNearest (100 * a.value) n ↔ n = a.shiftRound .toEven 2 :=
    ⟨fun h => h.unique hnearest,fun h => h ▸ hnearest⟩
  have hfit : a.toCents = a.fit (a.shiftRound .toEven 2) := rfl
  refine ⟨⟨_,hnearest,fun n hn => (hall n).mp hn⟩,fun c => ?_,fun e => ?_,rfl,?_⟩
  · rw [hall, hfit, fit_eq_ok_iff]
  · rw [hfit, fit_eq_error_iff]
    simp only [hall, forall_eq]
  · rw [toCentsInSteps_eq, hfit, (hall _).mp (isNearest_roundInSteps (100 * a.value))]

end Decimal
end Money
end Checkout
