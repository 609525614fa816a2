import Checkout.Text.Integer

/-! Decimal amounts: a whole mantissa and the number of places that it is shifted right. The scale
is part of an amount's text, so `1.2` and `1.20` are written differently although they have the
same value, and a negative scale is written as trailing zeros. -/
namespace Checkout.Money

open Checkout.Text (digit?)

/-- The number `mantissa * 10 ^ (-scale)`. -/
structure Decimal where
  mantissa : Int
  scale : Int
  deriving DecidableEq, Repr, Inhabited

namespace Decimal

/-- Why a text is no decimal amount. -/
inductive Fault where
  | empty
  | exponent (fault : Text.Integer.Fault)
  | noDigits
  | invalidDigit
  deriving DecidableEq, Repr

/-- The wording of a fault. -/
def Fault.message : Fault → String
  | .empty => "Failed to parse empty string"
  | .exponent fault => fault.message
  | .noDigits => "cannot parse integer from empty string"
  | .invalidDigit => "invalid digit found in string"

/-- Digits of any count, with `_` allowed between them. -/
def natural : Nat → List Char → Except Fault Nat
  | n, [] => .ok n
  | n, '_' :: cs => natural n cs
  | n, c :: cs =>
    match digit? c with
    | none => .error .invalidDigit
    | some d => natural (10 * n + d) cs

/-- A digit group has to start with a digit. -/
def unsigned : List Char → Except Fault Nat
  | [] => .error .noDigits
  | '_' :: _ => .error .invalidDigit
  | cs => natural 0 cs

/-- At most one sign in front of a digit group. -/
def signed : List Char → Except Fault Int
  | '-' :: cs => (unsigned cs).map fun n => -(n : Int)
  | '+' :: cs => (unsigned cs).map fun n => (n : Int)
  | cs => (unsigned cs).map fun n => (n : Int)

/-- The exponent behind `e`: one leading `+` more than a whole number allows. -/
def exponent (cs : List Char) : Except Fault Int :=
  let digits := match cs with
    | '+' :: rest => rest
    | rest => rest
  (Text.Integer.readChars .signed64 digits).mapError .exponent

/-- Whether a character starts the exponent. -/
def isExponentMark (c : Char) : Bool := c == 'e' || c == 'E'

/-- Reads an amount. The text is cut at its first exponent mark; the first point is dropped and the
bytes behind it are the scale, so an underscore there counts as a place. A fault of the exponent is
reported before any fault of the part in front of it. -/
def ofChars (cs : List Char) : Except Fault Decimal := do
  let base := cs.takeWhile (!isExponentMark ·)
  let power ← match cs.dropWhile (!isExponentMark ·) with
    | [] => .ok 0
    | _ :: rest => exponent rest
  if base = [] then throw .empty
  let whole := base.takeWhile (· != '.')
  let places := (base.dropWhile (· != '.')).drop 1
  let mantissa ← signed (whole ++ places)
  let bytes : Nat := places.foldr (fun c n => c.utf8Size + n) 0
  return ⟨mantissa, bytes - power⟩

/-- Reads an amount from a text. -/
def ofText (s : String) : Except Fault Decimal := ofChars s.toList

/-- The decimal digits of a natural number. -/
def digits (n : Nat) : List Char := Nat.toDigits 10 n

/-- The text of an amount without its sign. -/
def magnitudeChars (n : Nat) : Int → List Char
  | .negSucc k => digits n ++ List.replicate (k + 1) '0'
  | .ofNat 0 => digits n
  | .ofNat places =>
    let padded := List.replicate (places + 1 - (digits n).length) '0' ++ digits n
    padded.take (padded.length - places) ++ '.' :: padded.drop (padded.length - places)

/-- The text of an amount: always positional, with as many places as the scale says. -/
def toChars (a : Decimal) : List Char :=
  (if a.mantissa < 0 then ['-'] else []) ++ magnitudeChars a.mantissa.natAbs a.scale

/-- The text of an amount. -/
def toText (a : Decimal) : String := String.ofList a.toChars

example : (ofText "1_0.2_5e1").map toText = .ok "10.25" := by rfl
example : (ofText "-.5E+1").map toText = .ok "-5" := by rfl
example : ofText "e" = .error (.exponent .empty) := by rfl
example : toText ⟨12, -3⟩ = "12000" ∧ toText ⟨-5, 3⟩ = "-0.005" := by decide +kernel

end Decimal
end Checkout.Money
