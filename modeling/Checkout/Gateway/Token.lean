/-! Tokens that a storefront is given for its session: sixteen random bytes as thirty-two
hexadecimal digits in five groups, with the four bits of the version and the two bits of the
variant fixed. -/
namespace Checkout.Gateway

/-- The digits of a byte. -/
def byteDigits (b : UInt8) : List Char :=
  let digit (n : Nat) : Char := (Nat.toDigits 16 n).headD '0'
  [digit (b.toNat / 16), digit (b.toNat % 16)]

/-- Sixteen bytes, filled up with zeros, with version and variant put in. -/
def tokenBytes (random : List UInt8) : List UInt8 :=
  ((random ++ List.replicate 16 0).take 16).zipIdx.map fun (b, i) =>
    if i = 6 then b &&& 0x0F ||| 0x40 else if i = 8 then b &&& 0x3F ||| 0x80 else b

/-- The token of some random bytes. -/
def clientToken (random : List UInt8) : String :=
  String.ofList <| (tokenBytes random).zipIdx.flatMap fun (b, i) =>
    (if i ∈ [4, 6, 8, 10] then ['-'] else []) ++ byteDigits b

example : clientToken (List.replicate 16 0xFF) = "ffffffff-ffff-4fff-bfff-ffffffffffff" := by
  decide +kernel

end Checkout.Gateway
