import Checkout.Net.Address
import Checkout.Url.Encode

/-! Hosts of addresses. A name is put into lower case and may hold no character that has a meaning
of its own in an address. A name whose last part is a number is an address of four numbers, each
of which may be written in base eight, ten or sixteen. Names outside ASCII, which would have to be
mapped into ASCII by tables of their own, are not taken. -/
namespace Checkout.Url

open Checkout.Net (number? hexDigit?)
open Checkout.Text (digit? splitWhere)

/-- Percent signs with two hexadecimal digits turned into bytes, everything else into its bytes. -/
def decodeBytes : List Char → List UInt8
  | '%' :: a :: b :: rest =>
    match hexDigit? a, hexDigit? b with
    | some x, some y => UInt8.ofNat (16 * x + y) :: decodeBytes rest
    | _, _ => 0x25 :: decodeBytes (a :: b :: rest)
  | c :: rest => Text.Utf8.encode (String.singleton c) ++ decodeBytes rest
  | [] => []

/-- A character that a name may not hold. -/
def isForbidden (c : Char) : Bool :=
  c.toNat ≤ 0x20 || 0x7F ≤ c.toNat || "#/:<>?@[\\]^|%".toList.contains c

/-- The value of a digit of base eight. -/
def octalDigit? (c : Char) : Option Nat := (digit? c).filter (· < 8)

/-- A number in base sixteen, eight or ten, as its start says. -/
def anyNumber? : List Char → Option Nat
  | '0' :: 'x' :: rest => if rest = [] then some 0 else number? 16 hexDigit? rest
  | '0' :: rest => if rest = [] then some 0 else number? 8 octalDigit? rest
  | cs => number? 10 digit? cs

/-- The parts of a name, without the empty one behind a final point. -/
def labels (cs : List Char) : List (List Char) :=
  let parts := splitWhere (· == '.') cs
  if 1 < parts.length ∧ parts.getLast? = some [] then parts.dropLast else parts

/-- Whether the last part of a name is a number. -/
def endsInNumber (cs : List Char) : Bool :=
  match (labels cs).getLast? with
  | none => false
  | some last => (last != [] && last.all Char.isDigit) || (anyNumber? last).isSome

/-- An address of four numbers from its parts. -/
def v4Text? (cs : List Char) : Option String := do
  let parts ← (labels cs).mapM anyNumber?
  if 4 < parts.length then none
  else
    let last ← parts.getLast?
    if Nat.pow 256 (5 - parts.length) ≤ last ∨ parts.dropLast.any (256 ≤ ·) then none
    else
      let front := (parts.dropLast.zipIdx).foldl (fun n (p, i) => n + p * Nat.pow 256 (3 - i)) 0
      let n := front + last
      return ".".intercalate
        ([n / 16777216, n / 65536 % 256, n / 256 % 256, n % 256].map toString)

/-- The host that a text stands for. A name outside ASCII has none here, so what is stated of
addresses that can be read says nothing of addresses with such names. -/
def host? (cs : List Char) : Option String :=
  match cs with
  | '[' :: rest =>
    if rest.getLast? = some ']' then
      (Net.v6? rest.dropLast).map fun groups => "[" ++ Net.groupsText groups ++ "]"
    else none
  | cs =>
    let name := (Text.Utf8.lossy (decodeBytes cs)).toList.map Char.toLower
    if name = [] ∨ name.any isForbidden then none
    else if endsInNumber name then v4Text? name
    else some (String.ofList name)

example : host? "EXAMPLE.com".toList = some "example.com" := by decide +kernel
example : host? "0x7f.1".toList = some "127.0.0.1" := by decide +kernel
example : host? "[::1]".toList = some "[::1]" := by decide +kernel
example : host? "a b".toList = none := by decide +kernel

end Checkout.Url
