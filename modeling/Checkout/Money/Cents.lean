import Checkout.Money.Decimal
import Checkout.Number.Rounding

/-! Amounts in the smallest unit of the currency, one hundredth of the major unit. Charging rounds
to the nearest cent with ties to the even one; showing an amount rounds ties away from zero. -/
namespace Checkout.Money

open Checkout.Number

/-- A count of hundredths that fits in sixty-four bits with a sign, from -2^63 up to 2^63 - 1. -/
@[ext]
structure Cents where
  count : Int
  fits : -9223372036854775808 ≤ count ∧ count < 9223372036854775808
  deriving DecidableEq, Repr

instance : Inhabited Cents := ⟨0, by decide⟩

/-- The count as cents, if it fits. -/
def Cents.ofInt? (n : Int) : Option Cents :=
  if h : -9223372036854775808 ≤ n ∧ n < 9223372036854775808 then some ⟨n, h⟩ else none

@[simp] theorem Cents.ofInt?_count (c : Cents) : Cents.ofInt? c.count = some c :=
  dif_pos c.fits

theorem Cents.ofInt?_eq_some_iff {n : Int} {c : Cents} : Cents.ofInt? n = some c ↔ c.count = n := by
  constructor
  · intro h
    unfold Cents.ofInt? at h
    split at h
    · cases h; rfl
    · cases h
  · rintro rfl
    simp

/-- An amount whose cents do not fit. -/
structure OutOfRange where
  amount : Decimal
  deriving DecidableEq, Repr

/-- The wording of an amount that does not fit. -/
def OutOfRange.message (e : OutOfRange) : String :=
  "amount " ++ e.amount.toText ++ " does not fit in minor units"

namespace Decimal

/-- The amount times `10 ^ places`, rounded to a whole number. Zero stays zero whatever its scale,
without any power of ten being taken. -/
def shiftRound (tie : Tie) (places : Nat) (a : Decimal) : Int :=
  if a.mantissa = 0 then 0
  else
    roundDiv tie (a.mantissa * (Nat.pow 10 (places - a.scale).toNat : Nat))
      (Nat.pow 10 (a.scale - places).toNat)

theorem shiftRound_eq (tie : Tie) (places : Nat) (a : Decimal) :
    a.shiftRound tie places =
      roundDiv tie (a.mantissa * (Nat.pow 10 (places - a.scale).toNat : Nat))
        (Nat.pow 10 (a.scale - places).toNat) := by
  unfold shiftRound
  split
  · next h =>
    have hpos : 0 < Nat.pow 10 (a.scale - places).toNat := Nat.pow_pos (by decide)
    rw [h, Int.zero_mul, roundDiv_zero tie hpos]
  · rfl

/-- The cents nearest to an amount, ties to the even count. -/
def toCents (a : Decimal) : Except OutOfRange Cents :=
  match Cents.ofInt? (a.shiftRound .toEven 2) with
  | some c => .ok c
  | none => .error ⟨a⟩

/-- The amount with exactly two places, ties away from zero. -/
def toTwoPlaces (a : Decimal) : Decimal := ⟨a.shiftRound .awayFromZero 2, 2⟩

end Decimal

/-- Cents as an amount with two places. -/
def Cents.toDecimal (c : Cents) : Decimal := ⟨c.count, 2⟩

example : (Decimal.mk 24245 3).toCents.toOption.map Cents.count = some 2424 := by decide
example : (Decimal.mk (-15) 3).toCents.toOption.map Cents.count = some (-2) := by decide
example : (Decimal.mk (-1) 3).toTwoPlaces.toText = "0.00" := by decide +kernel
example : (Decimal.mk 5 3).toTwoPlaces.toText = "0.01" := by decide +kernel

end Checkout.Money
