import Checkout.Number.Rounding

/-! Finite binary floating-point numbers of sixty-four bits, kept as a sign, a mantissa and an
exponent so that every operation is exact arithmetic on natural numbers followed by one rounding.
There is no infinity and no value that is not a number: an operation that overflows has no result.
-/
namespace Checkout.Number

/-- The number `± mantissa * 2 ^ exponent`, with the exponent as small as the format allows. -/
structure Binary64 where
  negative : Bool
  mantissa : Nat
  exponent : Int
  canonical :
    (Nat.pow 2 52 ≤ mantissa ∧ mantissa < Nat.pow 2 53 ∧ -1074 ≤ exponent ∧ exponent ≤ 971) ∨
    (mantissa < Nat.pow 2 52 ∧ exponent = -1074)
  deriving DecidableEq, Repr

namespace Binary64

/-- Zero with a sign. -/
def zero (negative : Bool) : Binary64 := ⟨negative, 0, -1074, by decide⟩

instance : Inhabited Binary64 := ⟨zero false⟩

/-- The number with these parts, if they are canonical. -/
def ofParts? (negative : Bool) (mantissa : Nat) (exponent : Int) : Option Binary64 :=
  if h :
      (Nat.pow 2 52 ≤ mantissa ∧ mantissa < Nat.pow 2 53 ∧ -1074 ≤ exponent ∧ exponent ≤ 971) ∨
      (mantissa < Nat.pow 2 52 ∧ exponent = -1074)
  then some ⟨negative, mantissa, exponent, h⟩ else none

/-- The exponent at which a positive ratio has a mantissa of fifty-three bits, or the least one. -/
def exponentFor (num den : Nat) : Int :=
  let guess : Int := (num.log2 : Int) - den.log2 - 52
  let e :=
    if num * Nat.pow 2 (-guess).toNat < den * Nat.pow 2 guess.toNat * Nat.pow 2 52 then guess - 1
    else guess
  max e (-1074)

/-- The number nearest to a ratio, ties to the even mantissa; none if it is too large. -/
def ofRatio (negative : Bool) (num den : Nat) : Option Binary64 :=
  if num = 0 then some (zero negative) else
    let e := exponentFor num den
    let m := roundNat .toEven (num * Nat.pow 2 (-e).toNat) (den * Nat.pow 2 e.toNat)
    if m = Nat.pow 2 53 then ofParts? negative (Nat.pow 2 52) (e + 1) else ofParts? negative m e

/-- The number nearest to a natural number. -/
def ofNat (n : Nat) : Option Binary64 := ofRatio false n 1

/-- The numerator of the magnitude in lowest powers of two. -/
def num (x : Binary64) : Nat := x.mantissa * Nat.pow 2 x.exponent.toNat

/-- The denominator of the magnitude. -/
def den (x : Binary64) : Nat := Nat.pow 2 (-x.exponent).toNat

/-- The same magnitude with another sign. -/
def withSign (negative : Bool) (x : Binary64) : Binary64 := { x with negative }

/-- The product of two magnitudes. -/
def mul (x y : Binary64) : Option Binary64 := ofRatio false (x.num * y.num) (x.den * y.den)

/-- The quotient of two magnitudes, the second not zero. -/
def div (x y : Binary64) : Option Binary64 := ofRatio false (x.num * y.den) (x.den * y.num)

@[simp] theorem withSign_negative (b : Bool) (x : Binary64) : (x.withSign b).negative = b := rfl

example : (ofRatio false 1 10).map (fun x => (x.mantissa, x.exponent)) =
    some (7205759403792794, -56) := by decide +kernel
example : ofNat (2 ^ 1024) = none := by decide +kernel

end Binary64
end Checkout.Number
