import Checkout.Text.Integer
import Checkout.Text.Split

/-! Addresses of machines. The text of an address is strict: four decimal numbers without leading
zeros, or up to eight hexadecimal groups of which one run may be left out, the last two of them
possibly written as four decimal numbers. -/
namespace Checkout.Net

open Checkout.Text (digit? splitWhere)

/-- An address of a machine. -/
inductive Address where
  | v4 (a b c d : UInt8)
  | v6 (groups : List UInt16)
  deriving DecidableEq, Repr

/-- The value of a hexadecimal digit. -/
def hexDigit? (c : Char) : Option Nat :=
  if 'a' ≤ c ∧ c ≤ 'f' then some (c.toNat - 'a'.toNat + 10)
  else if 'A' ≤ c ∧ c ≤ 'F' then some (c.toNat - 'A'.toNat + 10)
  else digit? c

/-- A number in some base, with at least one digit. -/
def number? (base : Nat) (digit : Char → Option Nat) : List Char → Option Nat
  | [] => none
  | cs => cs.foldlM (fun n c => (digit c).map (base * n + ·)) 0

/-- A part of an address of four numbers. -/
def octet? (cs : List Char) : Option UInt8 :=
  if 3 < cs.length ∨ (1 < cs.length ∧ cs.head? = some '0') then none
  else
    match number? 10 digit? cs with
    | some n => if n < 256 then some (UInt8.ofNat n) else none
    | none => none

/-- An address of four numbers. -/
def v4? (cs : List Char) : Option (UInt8 × UInt8 × UInt8 × UInt8) :=
  match splitWhere (· == '.') cs with
  | [a, b, c, d] => do return (← octet? a, ← octet? b, ← octet? c, ← octet? d)
  | _ => none

/-- A hexadecimal group. -/
def group? (cs : List Char) : Option UInt16 :=
  if 4 < cs.length then none else (number? 16 hexDigit? cs).map UInt16.ofNat

/-- The groups of some pieces; four numbers may stand in the last piece if `mixed`. -/
def groups? (mixed : Bool) : List (List Char) → Option (List UInt16)
  | [] => some []
  | [last] =>
    match group? last with
    | some g => some [g]
    | none =>
      if mixed then
        (v4? last).map fun (a, b, c, d) =>
          [UInt16.ofNat (a.toNat * 256 + b.toNat), UInt16.ofNat (c.toNat * 256 + d.toNat)]
      else none
  | piece :: rest => do return (← group? piece) :: (← groups? mixed rest)

/-- The groups of a text without a gap. -/
def groupsOf? (mixed : Bool) (cs : List Char) : Option (List UInt16) :=
  if cs = [] then some [] else groups? mixed (splitWhere (· == ':') cs)

/-- The parts in front of and behind the first gap of a text. -/
def splitGap : List Char → Option (List Char × List Char)
  | ':' :: ':' :: rest => some ([], rest)
  | c :: rest => (splitGap rest).map fun (front, back) => (c :: front, back)
  | [] => none

/-- An address of eight groups. -/
def v6? (cs : List Char) : Option (List UInt16) :=
  match splitGap cs with
  | none => (groupsOf? true cs).filter (·.length == 8)
  | some (front, back) => do
    let front ← groupsOf? false front
    let back ← groupsOf? true back
    if front.length + back.length < 8 then
      some (front ++ List.replicate (8 - front.length - back.length) 0 ++ back)
    else none

/-- The address that a text stands for. -/
def Address.ofText? (s : String) : Option Address :=
  let cs := s.toList
  match v4? cs with
  | some (a, b, c, d) => some (.v4 a b c d)
  | none => (v6? cs).map .v6

/-- The longest run of zero groups at the front. -/
def zeroRun (groups : List UInt16) : Nat := (groups.takeWhile (· == 0)).length

/-- The start and the length of the first longest run of zeros, groups in front of it counted. -/
def longestRun (index : Nat) : List UInt16 → Nat × Nat
  | [] => (0, 0)
  | g :: rest =>
    let here := zeroRun (g :: rest)
    let (start, length) := longestRun (index + 1) rest
    if length ≤ here ∧ 0 < here then (index, here) else (start, length)

/-- The text of eight groups, the longest run of at least two zeros left out. -/
def groupsText (groups : List UInt16) : String :=
  let text (gs : List UInt16) :=
    ":".intercalate (gs.map fun g => String.ofList (Nat.toDigits 16 g.toNat))
  let (start, length) := longestRun 0 groups
  if length < 2 then text groups
  else text (groups.take start) ++ "::" ++ text (groups.drop (start + length))

/-- The text of an address. -/
def Address.toText : Address → String
  | .v4 a b c d => ".".intercalate ([a, b, c, d].map fun n => toString n.toNat)
  | .v6 groups => groupsText groups

example : (Address.ofText? "::ffff:1.2.3.4").map Address.toText = some "::ffff:102:304" := by
  decide +kernel
example : Address.ofText? "256.0.0.1" = none ∧ Address.ofText? ":::" = none := by decide +kernel
example : (Address.ofText? "1:0:0:2::").map Address.toText = some "1:0:0:2::" := by decide +kernel

end Checkout.Net
