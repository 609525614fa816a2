import Checkout.Proofs.Money.Value
import Checkout.Proofs.Money.Text

/-! Cents and amounts are turned into each other without loss. Cents become an amount through a
division by one hundred, which is exact because the quotient has few digits. Long division that
stops at a hundred digits is such a division. -/
namespace Checkout.Money

open Checkout.Text.Integer (IsDigits exists_toDigits_eq isDigits_toDigits)

namespace Decimal

/-- Division that is exact wherever the quotient has at most a hundred digits. -/
def DividesExactly (divide : Decimal → Decimal → Decimal) : Prop :=
  ∀ a b q : Decimal, b.mantissa ≠ 0 → q.mantissa.natAbs < 10 ^ 100 → b.value * q.value = a.value →
    (divide a b).value = q.value

/-- The amount with some number of places. Zeros are appended, or digits are cut off. -/
def rescale (places : ℕ) (a : Decimal) : Decimal where
  mantissa := (a.mantissa * (10 ^ (places - a.scale).toNat : ℕ)).tdiv
    (10 ^ (a.scale - places).toNat : ℕ)
  scale := places

/-- Nothing but zeros is cut off from an amount that needs no more places. -/
lemma rescale_eq_of_value {places : ℕ} {a : Decimal} {k : ℤ} (hk : 10 ^ places * a.value = k) :
    a.rescale places = ⟨k,places⟩ := by
  have hden : ((10 ^ (a.scale - places).toNat : ℕ) : ℚ) ≠ 0 := by positivity
  rw [ten_pow_mul_value, div_eq_iff hden] at hk
  have hwhole : a.mantissa * (10 ^ (places - a.scale).toNat : ℕ) =
      k * (10 ^ (a.scale - places).toNat : ℕ) := by exact_mod_cast hk
  rw [rescale, hwhole, Int.mul_tdiv_cancel _ (by positivity)]

end Decimal

/-- A quotient while it is written: its digits so far, what is left of the dividend, and how many of
the digits stand behind the point. -/
structure LongDivision where
  digits : ℕ
  rest : ℕ
  places : ℕ

namespace LongDivision

/-- The whole part of a quotient, without a digit behind the point. -/
def start (num den : ℕ) : LongDivision := ⟨num / den,num % den,0⟩

/-- One more digit, which is the first one that is not zero or stands behind another. -/
def next (den : ℕ) (s : LongDivision) : LongDivision :=
  ⟨10 * s.digits + 10 * s.rest / den,10 * s.rest % den,s.places + 1⟩

/-- Digits are written as long as something is left, until there are a hundred. -/
def run (den : ℕ) : ℕ → LongDivision → LongDivision
  | 0, s => s
  | steps + 1, s => if s.rest = 0 ∨ 10 ^ 99 ≤ s.digits then s else run den steps (s.next den)

/-- The dividend, shifted to the last place, is made up of the digits and of what is left. -/
structure Divides (num den : ℕ) (s : LongDivision) : Prop where
  equation : num * 10 ^ s.places = s.digits * den + s.rest
  rest_lt : s.rest < den

lemma divides_start (num : ℕ) {den : ℕ} (h : 0 < den) : Divides num den (start num den) where
  equation := by
    rw [start, pow_zero, mul_one]
    exact (Nat.div_add_mod' num den).symm
  rest_lt := Nat.mod_lt num h

variable {num den : ℕ} {s : LongDivision}

lemma Divides.next (h : Divides num den s) : Divides num den (s.next den) where
  equation := by
    have hdigit := Nat.div_add_mod' (10 * s.rest) den
    calc num * 10 ^ (s.places + 1) = 10 * (num * 10 ^ s.places) := by ring
      _ = 10 * (s.digits * den + s.rest) := by rw [h.equation]
      _ = 10 * s.digits * den + 10 * s.rest := by ring
      _ = 10 * s.digits * den + (10 * s.rest / den * den + 10 * s.rest % den) := by rw [hdigit]
      _ = (10 * s.digits + 10 * s.rest / den) * den + 10 * s.rest % den := by ring
  rest_lt := Nat.mod_lt _ (by have := h.rest_lt; omega)

/-- Where the whole quotient needs no more places than are written, nothing is left. -/
lemma Divides.rest_eq_zero (h : Divides num den s) {m j : ℕ} (hm : num * 10 ^ j = m * den)
    (hj : j ≤ s.places) : s.rest = 0 := by
  have hdvd : den ∣ num * 10 ^ s.places := by
    obtain ⟨i,hi⟩ := Nat.exists_eq_add_of_le hj
    rw [hi, pow_add, ← mul_assoc, hm]
    exact ⟨m * 10 ^ i,by ring⟩
  rw [h.equation] at hdvd
  exact Nat.eq_zero_of_dvd_of_lt ((Nat.dvd_add_right (Dvd.intro_left _ rfl)).mp hdvd) h.rest_lt

/-- Digits that are written before the last place of the quotient are fewer than all of them. -/
lemma Divides.ten_mul_digits_le (h : Divides num den s) {m j : ℕ} (hm : num * 10 ^ j = m * den)
    (hj : s.places < j) : 10 * s.digits ≤ m := by
  have hpos : 0 < den := by have := h.rest_lt; omega
  obtain ⟨i,hi⟩ := Nat.exists_eq_add_of_lt hj
  refine Nat.le_of_mul_le_mul_right ?_ hpos
  calc 10 * s.digits * den ≤ 10 * (num * 10 ^ s.places) := by rw [h.equation]; nlinarith
    _ ≤ 10 * (num * 10 ^ s.places) * 10 ^ i := Nat.le_mul_of_pos_right _ (by positivity)
    _ = m * den := by rw [← hm, hi]; ring

/-- The quotient is written to its end. What keeps the limit of a hundred digits from being reached
is that digits in front of the last place are fewer than all of them. -/
theorem run_exact (steps : ℕ) {m j : ℕ} (h : Divides num den s) (hm : num * 10 ^ j = m * den)
    (hfew : 0 < j → m < 10 ^ 100) (hsteps : j ≤ s.places + steps) :
    Divides num den (run den steps s) ∧ (run den steps s).rest = 0 := by
  induction steps generalizing s with
  | zero => exact ⟨h,h.rest_eq_zero hm hsteps⟩
  | succ steps ih =>
    rw [run]
    by_cases hrest : s.rest = 0
    · rw [if_pos (.inl hrest)]
      exact ⟨h,hrest⟩
    · have hj : s.places < j := by
        by_contra hle
        exact hrest (h.rest_eq_zero hm (not_lt.mp hle))
      have hdigits := h.ten_mul_digits_le hm hj
      have hlimit := hfew (by omega)
      have hplaces : (s.next den).places = s.places + 1 := rfl
      rw [if_neg (by omega)]
      exact ih h.next (by omega)

/-- A quotient with at most a hundred digits has no more places than the divisor and a hundred. -/
lemma places_le {m j : ℕ} (hm : num * 10 ^ j = m * den) (hnum : 0 < num)
    (hfew : 0 < j → m < 10 ^ 100) : j ≤ den + 100 := by
  rcases Nat.eq_zero_or_pos j with rfl | hj
  · exact Nat.zero_le _
  · have hm' : 0 < m * den := by rw [← hm]; positivity
    have hden : 0 < den := Nat.pos_of_mul_pos_left hm'
    have hpow : 10 ^ j < 10 ^ (den + 100) := by
      calc 10 ^ j ≤ num * 10 ^ j := Nat.le_mul_of_pos_left _ hnum
        _ = m * den := hm
        _ < 10 ^ 100 * den := Nat.mul_lt_mul_of_pos_right (hfew hj) hden
        _ ≤ 10 ^ 100 * 10 ^ den := Nat.mul_le_mul_left _ (Nat.lt_pow_self (by decide)).le
        _ = 10 ^ (den + 100) := by ring
    exact ((Nat.pow_lt_pow_iff_right (by decide)).mp hpow).le

/-- A quotient with at most a hundred digits is written to its end. -/
theorem run_start_exact {num den m j : ℕ} (hden : 0 < den) (hm : num * 10 ^ j = m * den)
    (hfew : 0 < j → m < 10 ^ 100) : ∃ digits places,
      run den (den + 100) (start num den) = ⟨digits,0,places⟩ ∧
        num * 10 ^ places = digits * den := by
  have hrun : Divides num den (run den (den + 100) (start num den)) ∧
      (run den (den + 100) (start num den)).rest = 0 := by
    rcases Nat.eq_zero_or_pos num with rfl | hnum
    · have hzero : 0 * 10 ^ 0 = 0 * den := by rw [zero_mul, zero_mul]
      exact run_exact _ (divides_start 0 hden) hzero (fun h => absurd h (lt_irrefl 0))
        (Nat.zero_le _)
    · exact run_exact _ (divides_start num hden) hm hfew
        ((places_le hm hnum hfew).trans (Nat.le_add_left _ _))
  obtain ⟨h,hrest⟩ := hrun
  generalize run den (den + 100) (start num den) = s at h hrest ⊢
  refine ⟨s.digits,s.places,?_,?_⟩
  · rw [← hrest]
  · rw [h.equation, hrest, add_zero]

end LongDivision

namespace Decimal

open LongDivision (run start run_start_exact)

/-- Long division of the mantissas. The last digit is rounded if something is left behind it. -/
def divide (a b : Decimal) : Decimal :=
  let den := b.mantissa.natAbs
  let s := run den (den + 100) (start a.mantissa.natAbs den)
  let digits := if den ≤ 2 * s.rest then s.digits + 1 else s.digits
  ⟨a.mantissa.sign * b.mantissa.sign * digits,a.scale - b.scale + s.places⟩

/-- A quotient of two amounts as one of their mantissas, shifted to its last place. -/
lemma exists_shifted_eq {a b q : Decimal} (hvalue : b.value * q.value = a.value)
    (hq : q.mantissa.natAbs < 10 ^ 100) : ∃ m j : ℕ,
      a.mantissa.natAbs * 10 ^ j = m * b.mantissa.natAbs ∧ (0 < j → m < 10 ^ 100) := by
  have hten : (10 : ℚ) ≠ 0 := by norm_num
  set j := (q.scale - (a.scale - b.scale)).toNat with hj
  set i := (a.scale - b.scale - q.scale).toNat with hi
  have hshift : (a.mantissa : ℚ) * 10 ^ (q.scale - (a.scale - b.scale)) =
      b.mantissa * q.mantissa := by
    rw [value, value, value] at hvalue
    calc (a.mantissa : ℚ) * 10 ^ (q.scale - (a.scale - b.scale))
        = a.mantissa * 10 ^ (-a.scale) * (10 ^ b.scale * 10 ^ q.scale) := by
          rw [← zpow_add₀ hten, mul_assoc, ← zpow_add₀ hten]
          congr 2
          ring
      _ = b.mantissa * q.mantissa * (10 ^ (-b.scale) * 10 ^ b.scale) *
            (10 ^ (-q.scale) * 10 ^ q.scale) := by
          rw [← hvalue]
          ring
      _ = b.mantissa * q.mantissa := by
          rw [← zpow_add₀ hten, ← zpow_add₀ hten]
          simp
  have hwhole : a.mantissa * 10 ^ j = b.mantissa * q.mantissa * 10 ^ i := by
    rw [ten_zpow_sub, ← hj, ← hi, mul_div_assoc', div_eq_iff (by positivity)] at hshift
    exact_mod_cast hshift
  refine ⟨q.mantissa.natAbs * 10 ^ i,j,?_,fun hpos => ?_⟩
  · have habs := congrArg Int.natAbs hwhole
    rw [Int.natAbs_mul, Int.natAbs_mul, Int.natAbs_mul, Int.natAbs_pow, Int.natAbs_pow] at habs
    change _ * 10 ^ j = _ * 10 ^ i at habs
    rw [habs]
    ring
  · have hnone : i = 0 := by omega
    rwa [hnone, pow_zero, mul_one]

/-- Long division is exact wherever the quotient has at most a hundred digits. -/
theorem dividesExactly_divide : DividesExactly divide := by
  intro a b q hb hq hvalue
  have hten : (10 : ℚ) ≠ 0 := by norm_num
  have hbvalue : b.value ≠ 0 := mul_ne_zero (Int.cast_ne_zero.mpr hb) (zpow_ne_zero _ hten)
  have hden : 0 < b.mantissa.natAbs := Int.natAbs_pos.mpr hb
  obtain ⟨m,j,hm,hfew⟩ := exists_shifted_eq hvalue hq
  obtain ⟨digits,places,hrun,hexact⟩ := run_start_exact hden hm hfew
  have hdivide : divide a b =
      ⟨a.mantissa.sign * b.mantissa.sign * digits,a.scale - b.scale + places⟩ := by
    simp only [divide, hrun]
    rw [if_neg (by omega)]
  have hmantissas : b.mantissa * (a.mantissa.sign * b.mantissa.sign * digits) =
      a.mantissa * 10 ^ places := by
    have hcast : (a.mantissa.natAbs : ℤ) * 10 ^ places = digits * b.mantissa.natAbs := by
      exact_mod_cast hexact
    calc b.mantissa * (a.mantissa.sign * b.mantissa.sign * digits)
        = a.mantissa.sign * (digits * (b.mantissa.sign * b.mantissa)) := by ring
      _ = a.mantissa.sign * (a.mantissa.natAbs * 10 ^ places) := by
          rw [Int.sign_mul_self_eq_natAbs, hcast]
      _ = a.mantissa * 10 ^ places := by rw [← mul_assoc, Int.sign_mul_natAbs]
  refine mul_left_cancel₀ hbvalue (Eq.trans ?_ hvalue.symm)
  rw [hdivide, value, value, value]
  have hcast : (b.mantissa : ℚ) * ((a.mantissa.sign * b.mantissa.sign * digits : ℤ) : ℚ) =
      a.mantissa * 10 ^ places := by exact_mod_cast hmantissas
  have hplaces : (10 : ℚ) ^ (-b.scale) * 10 ^ (-(a.scale - b.scale + places)) * 10 ^ places =
      10 ^ (-a.scale) := by
    rw [← zpow_natCast, ← zpow_add₀ hten, ← zpow_add₀ hten]
    congr 1
    ring
  rw [← hplaces]
  linear_combination 10 ^ (-b.scale) * 10 ^ (-(a.scale - b.scale + places)) * hcast

end Decimal

/-- Cents as an amount through a division by one hundred. -/
def Cents.divided (divide : Decimal → Decimal → Decimal) (m : Cents) : Decimal :=
  (divide ⟨m.count,0⟩ ⟨100,0⟩).rescale 2

/-- The quotient of a number of sixty-four bits has few digits, so nothing of it is lost. -/
lemma Cents.divided_eq {divide : Decimal → Decimal → Decimal} (h : Decimal.DividesExactly divide)
    (m : Cents) : m.divided divide = m.toDecimal := by
  have hfits := m.fits
  have hfew : m.count.natAbs < 10 ^ 100 := by omega
  have hquotient : (Decimal.mk 100 0).value * m.toDecimal.value = (Decimal.mk m.count 0).value := by
    rw [m.value_toDecimal, Decimal.value, Decimal.value]
    norm_num
    ring
  have hvalue := h ⟨m.count,0⟩ ⟨100,0⟩ m.toDecimal (by decide) hfew hquotient
  rw [divided]
  refine Decimal.rescale_eq_of_value ?_
  rw [hvalue, m.value_toDecimal]
  ring

/-- The texts of amounts with two places: an optional sign, digits that start with no superfluous
zero, a point and two digits. -/
def IsTwoPlaceText (text : String) : Prop :=
  ∃ sign units : List Char, ∃ tens ones : Char,
    text.toList = sign ++ units ++ ['.',tens,ones] ∧ (sign = [] ∨ sign = ['-']) ∧
    IsDigits units ∧ (units.head? = some '0' → units = ['0']) ∧
    tens.isDigit = true ∧ ones.isDigit = true

/-- A number starts with a zero only if it is zero. -/
lemma toDigits_of_head_zero {n : ℕ} (h : (Nat.toDigits 10 n).head? = some '0') :
    Nat.toDigits 10 n = ['0'] := by
  rcases eq_or_ne n 0 with rfl | hn
  · exact Nat.toDigits_zero 10
  · obtain ⟨c,cs,hcs,-,hne⟩ := exists_toDigits_eq hn
    rw [hcs, List.head?_cons, Option.some_inj] at h
    rw [h] at hne
    exact absurd rfl hne

lemma Cents.isTwoPlaceText_inUnits (m : Cents) : IsTwoPlaceText m.inUnits := by
  have hdigit : ∀ k < 10, (Nat.digitChar k).isDigit = true := by decide
  refine ⟨if m.count < 0 then ['-'] else [],Nat.toDigits 10 (m.count.natAbs / 100),_,_,
    String.toList_ofList,?_,isDigits_toDigits _,toDigits_of_head_zero,hdigit _ (by omega),
    hdigit _ (by omega)⟩
  split_ifs
  · exact .inr rfl
  · exact .inl rfl

/-- Cents become the amount of one hundredth of their number, written in units with two places, and
its text is read as an amount of the same cents. An amount of whole cents that fit is unchanged when
it becomes cents and an amount again. -/
theorem cents_and_amounts_invert {divide : Decimal → Decimal → Decimal}
    (h : Decimal.DividesExactly divide) :
    (∀ m : Cents, m.toDecimal = m.divided divide ∧
      (m.divided divide).value = m.count / 100 ∧
      (m.divided divide).toText = m.inUnits ∧ IsTwoPlaceText m.inUnits ∧
      ∃ a, Decimal.ofText (m.divided divide).toText = .ok a ∧ a.toCents = .ok m) ∧
    ∀ (a : Decimal) (k : Int), 100 * a.value = k →
      -9223372036854775808 ≤ k ∧ k < 9223372036854775808 →
      ∃ m, a.toCents = .ok m ∧ (m.divided divide).value = a.value := by
  constructor
  · intro m
    rw [m.divided_eq h]
    exact ⟨rfl,m.value_toDecimal,m.toText_toDecimal,m.isTwoPlaceText_inUnits,m.toDecimal,
      Decimal.ofText_toText (Int.natCast_nonneg 2),m.toCents_toDecimal⟩
  · intro a k hk hfits
    have hwhole : (10 : ℚ) ^ 2 * a.value = k := by
      rw [← hk]
      norm_num
    have hcents : a.toCents = .ok ⟨k,hfits⟩ :=
      Decimal.toCents_eq_ok_iff.mpr (Decimal.shiftRound_eq_of_value .toEven 2 hwhole).symm
    refine ⟨⟨k,hfits⟩,hcents,?_⟩
    rw [Cents.divided_eq h]
    exact Decimal.value_toDecimal_eq hcents hk

/-- The least cents are written out, and an amount with one place is unchanged. -/
theorem cents_and_amounts_invert_least :
    let least : Cents := ⟨-9223372036854775808,by decide⟩
    Decimal.DividesExactly Decimal.divide ∧
    (least.divided Decimal.divide).toText = "-92233720368547758.08" ∧
    (∃ a, Decimal.ofText (least.divided Decimal.divide).toText = .ok a ∧ a.toCents = .ok least) ∧
    100 * (Decimal.mk (-12) 1).value = (-120 : Int) ∧
    ∃ m, (Decimal.mk (-12) 1).toCents = .ok m ∧
      (m.divided Decimal.divide).value = (Decimal.mk (-12) 1).value := by
  have hhundredfold : 100 * (Decimal.mk (-12) 1).value = (-120 : Int) := by
    rw [Decimal.value]
    norm_num
  obtain ⟨hcents,hamounts⟩ := cents_and_amounts_invert Decimal.dividesExactly_divide
  obtain ⟨-,-,htext,-,hread⟩ := hcents ⟨-9223372036854775808,by decide⟩
  exact ⟨Decimal.dividesExactly_divide,htext.trans (by decide +kernel),hread,hhundredfold,
    hamounts _ _ hhundredfold (by decide)⟩

end Checkout.Money
