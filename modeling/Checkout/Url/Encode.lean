import Checkout.Text.Utf8

/-! Percent encoding. Each part of an address has a set of characters that are written as the
bytes of their UTF-8 in hexadecimal; a percent sign that is already there is left as it is. -/
namespace Checkout.Url

/-- A byte behind a percent sign. -/
def percent (b : UInt8) : List Char :=
  let digit (n : Nat) : Char := ((Nat.toDigits 16 n).headD '0').toUpper
  ['%', digit (b.toNat / 16), digit (b.toNat % 16)]

/-- The bytes of a character behind percent signs. -/
def percentChar (c : Char) : List Char := (Text.Utf8.encode (String.singleton c)).flatMap percent

/-- A control character, or one outside ASCII. -/
def isControl (c : Char) : Bool := c.toNat < 0x20 || 0x7E < c.toNat

/-- What is encoded in a fragment. -/
def inFragment (c : Char) : Bool :=
  isControl c || c == ' ' || c == '"' || c == '<' || c == '>' || c == '`'

/-- What is encoded in a query. -/
def inQuery (c : Char) : Bool :=
  isControl c || c == ' ' || c == '"' || c == '#' || c == '<' || c == '>'

/-- What is encoded in the query of an address with a well-known scheme. -/
def inSpecialQuery (c : Char) : Bool := inQuery c || c == '\''

/-- What is encoded in a path. -/
def inPath (c : Char) : Bool :=
  inFragment c || c == '#' || c == '?' || c == '\x7b' || c == '\x7d'

/-- A text with the characters of a set encoded. -/
def encode (set : Char → Bool) (cs : List Char) : List Char :=
  cs.flatMap fun c => if set c then percentChar c else [c]

@[simp] theorem encode_nil (set : Char → Bool) : encode set [] = [] := rfl

theorem encode_append (set : Char → Bool) (a b : List Char) :
    encode set (a ++ b) = encode set a ++ encode set b := by
  simp [encode]

example : encode inPath "é \x7b%".toList = "%C3%A9%20%7B%".toList := by decide +kernel

end Checkout.Url
