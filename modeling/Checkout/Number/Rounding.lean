/-! Division rounded to the nearest whole number. Two uses in one program settle an exact half
differently, so the way a tie goes is an argument of the one rounding function. -/
namespace Checkout.Number

/-- Where a quotient exactly between two whole numbers goes. -/
inductive Tie where
  | toEven
  | awayFromZero
  deriving DecidableEq, Repr

/-- Whether a tie between `q` and `q + 1` goes up. -/
def Tie.up (tie : Tie) (q : Nat) : Bool :=
  match tie with
  | .toEven => q % 2 == 1
  | .awayFromZero => true

/-- The whole number nearest to `num / den`. -/
def roundNat (tie : Tie) (num den : Nat) : Nat :=
  let q := num / den
  let r := num % den
  if 2 * r < den then q
  else if den < 2 * r then q + 1
  else if tie.up q then q + 1 else q

/-- The whole number nearest to `num / den`, alike on both sides of zero. -/
def roundDiv (tie : Tie) (num : Int) (den : Nat) : Int :=
  if num < 0 then -(roundNat tie num.natAbs den : Int) else roundNat tie num.natAbs den

@[simp] theorem roundNat_one (tie : Tie) (n : Nat) : roundNat tie n 1 = n := by
  simp [roundNat, Nat.mod_one]

@[simp] theorem roundDiv_zero (tie : Tie) {den : Nat} (h : 0 < den) : roundDiv tie 0 den = 0 := by
  simp [roundDiv, roundNat, h]

/-- Rounding moves a quotient by at most one half. -/
theorem roundNat_close (tie : Tie) (num : Nat) {den : Nat} (h : 0 < den) :
    2 * num ≤ 2 * (roundNat tie num den * den) + den ∧
      2 * (roundNat tie num den * den) ≤ 2 * num + den := by
  have key := Nat.div_add_mod num den
  have lt := Nat.mod_lt num h
  have comm : den * (num / den) = num / den * den := Nat.mul_comm _ _
  have up : (num / den + 1) * den = num / den * den + den := by
    rw [Nat.add_mul, Nat.one_mul]
  simp only [roundNat]
  split
  · omega
  · split
    · rw [up]; omega
    · split
      · rw [up]; omega
      · omega

example : roundDiv .toEven 125 10 = 12 ∧ roundDiv .toEven 135 10 = 14 := by decide
example : roundDiv .awayFromZero (-125) 10 = -13 := by decide

end Checkout.Number
