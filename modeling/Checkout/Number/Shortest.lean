import Checkout.Number.Binary64

/-! The fewest decimal digits that read back as a given floating-point number. The reals that round
to the number form an interval whose ends belong to it exactly when the mantissa is even; for one
digit, two digits and so on, the two neighbours of the number on that decimal grid are tried, and
the first grid that has a point in the interval gives the digits. -/
namespace Checkout.Number

/-- A decimal number `digits * 10 ^ power`. -/
structure Scientific where
  digits : Nat
  power : Int
  deriving DecidableEq, Repr

namespace Binary64

/-- The interval of reals that round to a number, over a common denominator. -/
structure Interval where
  low : Nat
  value : Nat
  high : Nat
  den : Nat
  closed : Bool

/-- The rounding interval of a magnitude. The gap below a power of two is half as wide. -/
def interval (x : Binary64) : Interval :=
  let unit := Nat.pow 2 (x.exponent - 2).toNat
  let below := if x.mantissa = Nat.pow 2 52 ∧ -1074 < x.exponent then 1 else 2
  ⟨(4 * x.mantissa - below) * unit, 4 * x.mantissa * unit, (4 * x.mantissa + 2) * unit,
    Nat.pow 2 (2 - x.exponent).toNat, x.mantissa % 2 == 0⟩

/-- Whether a ratio lies in the interval. -/
def Interval.has (i : Interval) (num den : Nat) : Bool :=
  let a := num * i.den
  if i.closed then i.low * den ≤ a && a ≤ i.high * den else i.low * den < a && a < i.high * den

/-- The power of ten of the first digit of a positive ratio. -/
def leadingPower (num den : Nat) : Int :=
  if den ≤ num then ((Nat.toDigits 10 (num / den)).length : Int) - 1
  else
    let places := (Nat.toDigits 10 (den / num)).length
    if den ≤ num * Nat.pow 10 (places - 1) then 1 - (places : Int) else -(places : Int)

/-- The best point of the grid `10 ^ power` that reads back, if there is one. -/
def Interval.nearest? (i : Interval) (power : Int) : Option Nat :=
  let up := Nat.pow 10 (-power).toNat
  let down := Nat.pow 10 power.toNat
  let c := i.value * up / (i.den * down)
  let rest := i.value * up % (i.den * down)
  let lower := i.has (c * down) up
  let upper := i.has ((c + 1) * down) up
  match lower, upper with
  | true, true =>
    if 2 * rest < i.den * down then some c
    else if i.den * down < 2 * rest then some (c + 1)
    else if c % 2 = 0 then some c else some (c + 1)
  | true, false => some c
  | false, true => some (c + 1)
  | false, false => none

/-- Tries grids from coarse to fine. -/
def Interval.search (i : Interval) : Nat → Int → Scientific
  | 0, power => ⟨i.value * Nat.pow 10 (-power).toNat / (i.den * Nat.pow 10 power.toNat), power⟩
  | fuel + 1, power =>
    match i.nearest? power with
    | some c => ⟨c, power⟩
    | none => i.search fuel (power - 1)

/-- Moves trailing zeros of the digits into the power. -/
def stripZeros : Nat → Scientific → Scientific
  | 0, s => s
  | fuel + 1, s => if s.digits % 10 = 0 then stripZeros fuel ⟨s.digits / 10, s.power + 1⟩ else s

/-- The fewest digits that read back as a magnitude other than zero; seventeen always suffice. -/
def shortest (x : Binary64) : Scientific :=
  let i := x.interval
  stripZeros 20 (i.search 17 (leadingPower i.value i.den))

/-- Where the decimal point of a number may stand, counted from the front of its digits, for the
number to be written without an exponent. -/
structure Layout where
  leastPoint : Int
  greatestPoint : Int

/-- Positional from 1e-5 up to but not including 1e16. -/
def Layout.standard : Layout := ⟨-4, 16⟩

/-- The text of a magnitude from its digits; whole numbers are written with `.0`. -/
def Layout.magnitude (layout : Layout) (s : Scientific) : List Char :=
  let ds := Nat.toDigits 10 s.digits
  let point : Int := ds.length + s.power
  if layout.leastPoint ≤ point ∧ point ≤ layout.greatestPoint then
    if 0 ≤ s.power then ds ++ List.replicate s.power.toNat '0' ++ ['.', '0']
    else if 0 < point then ds.take point.toNat ++ '.' :: ds.drop point.toNat
    else '0' :: '.' :: (List.replicate (-point).toNat '0' ++ ds)
  else
    let e := point - 1
    let tail := match ds.drop 1 with
      | [] => []
      | more => '.' :: more
    ds.take 1 ++ tail ++ 'e' :: (if e < 0 then '-' else '+') :: Nat.toDigits 10 e.natAbs

/-- The text of a floating-point number. -/
def toChars (x : Binary64) : List Char :=
  (if x.negative then ['-'] else []) ++
    if x.mantissa = 0 then ['0', '.', '0'] else Layout.standard.magnitude x.shortest

/-- The text of a floating-point number. -/
def toText (x : Binary64) : String := String.ofList x.toChars

example : (ofRatio false 1 10).map toText = some "0.1" := by decide +kernel
example : (ofRatio true 15 100000000).map toText = some "-1.5e-7" := by decide +kernel
example : (ofNat (10 ^ 16)).map toText = some "1e+16" := by decide +kernel
example : (ofRatio false 1 (2 ^ 1074)).map toText = some "5e-324" := by decide +kernel
example : (ofRatio false 1 100000).map toText = some "0.00001" := by decide +kernel

end Binary64
end Checkout.Number
