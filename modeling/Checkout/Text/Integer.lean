/-! Whole numbers written in decimal: one optional sign and at least one ASCII digit, read from
left to right. The first character that is no digit and the first digit that leaves the range
are different faults, and whichever comes first is the one reported. -/
namespace Checkout.Text

/-- The value of an ASCII digit. -/
def digit? (c : Char) : Option Nat :=
  if '0' ≤ c ∧ c ≤ '9' then some (c.toNat - '0'.toNat) else none

namespace Integer

/-- Why a text is no whole number of the wanted range. -/
inductive Fault where
  | empty
  | invalidDigit
  | tooLarge
  | tooSmall
  deriving DecidableEq, Repr

/-- The wording of a fault. -/
def Fault.message : Fault → String
  | .empty => "cannot parse integer from empty string"
  | .invalidDigit => "invalid digit found in string"
  | .tooLarge => "number too large to fit in target type"
  | .tooSmall => "number too small to fit in target type"

/-- The numbers that a reader accepts, both ends included. -/
structure Range where
  least : Int
  greatest : Int

/-- Sixty-four bits with a sign. -/
def Range.signed64 : Range := ⟨-9223372036854775808, 9223372036854775807⟩

/-- Sixteen bits without a sign. -/
def Range.unsigned16 : Range := ⟨0, 65535⟩

/-- Digits appended to a number that grows and may not pass `greatest`. -/
def ascend (greatest : Int) : Int → List Char → Except Fault Int
  | n, [] => .ok n
  | n, c :: cs =>
    match digit? c with
    | none => .error .invalidDigit
    | some d => if 10 * n + d ≤ greatest then ascend greatest (10 * n + d) cs else .error .tooLarge

/-- Digits appended to a number that falls and may not pass `least`. -/
def descend (least : Int) : Int → List Char → Except Fault Int
  | n, [] => .ok n
  | n, c :: cs =>
    match digit? c with
    | none => .error .invalidDigit
    | some d => if least ≤ 10 * n - d then descend least (10 * n - d) cs else .error .tooSmall

/-- Reads a whole number of a range. A range without negative numbers takes `-` for a character
that is no digit, and a sign alone is never a number. -/
def readChars (range : Range) : List Char → Except Fault Int
  | [] => .error .empty
  | ['+'] => .error .invalidDigit
  | ['-'] => .error .invalidDigit
  | '+' :: cs => ascend range.greatest 0 cs
  | '-' :: cs => if range.least < 0 then descend range.least 0 cs else .error .invalidDigit
  | cs => ascend range.greatest 0 cs

/-- Reads a whole number of a range from a text. -/
def read (range : Range) (s : String) : Except Fault Int := readChars range s.toList

example : read .signed64 "-9223372036854775808" = .ok (-9223372036854775808) := by rfl
example : read .signed64 "9223372036854775808x" = .error .tooLarge := by rfl
example : read .unsigned16 "+0065535" = .ok 65535 := by rfl

end Integer
end Checkout.Text
