/-! UTF-8 read from bytes that need not be valid. The strict reading keeps every byte that belongs
to no character as a gap of its own; the lenient reading puts one U+FFFD for each longest start of
a character that breaks off. -/
namespace Checkout.Text.Utf8

/-- What the first byte of a character promises: how many more bytes follow, the range of the next
one, and the bits that the first byte contributes. -/
structure Lead where
  more : Nat
  low : Nat
  high : Nat
  bits : Nat

/-- The promise of a first byte, none for a byte that starts no character. -/
def lead? (b : Nat) : Option Lead :=
  if b < 0x80 then some ⟨0, 0, 0, b⟩
  else if b < 0xC2 then none
  else if b < 0xE0 then some ⟨1, 0x80, 0xBF, b - 0xC0⟩
  else if b = 0xE0 then some ⟨2, 0xA0, 0xBF, 0⟩
  else if b = 0xED then some ⟨2, 0x80, 0x9F, 0xD⟩
  else if b < 0xF0 then some ⟨2, 0x80, 0xBF, b - 0xE0⟩
  else if b = 0xF0 then some ⟨3, 0x90, 0xBF, 0⟩
  else if b < 0xF4 then some ⟨3, 0x80, 0xBF, b - 0xF0⟩
  else if b = 0xF4 then some ⟨3, 0x80, 0x8F, 4⟩
  else none

/-- Reads the bytes that a first byte promised: the code point and its length, or the length of the
part in front of the first byte that does not fit. -/
def continuation : Nat → Nat → Nat → Nat → Nat → List UInt8 → Option Nat × Nat
  | 0, _, _, bits, used, _ => (some bits, used)
  | _ + 1, _, _, _, used, [] => (none, used)
  | more + 1, low, high, bits, used, b :: rest =>
    if low ≤ b.toNat ∧ b.toNat ≤ high then
      continuation more 0x80 0xBF (bits * 64 + (b.toNat - 0x80)) (used + 1) rest
    else (none, used)

/-- The character at the start of some bytes with its length, or the length of its broken start. -/
def first (b : UInt8) (rest : List UInt8) : Option Char × Nat :=
  match lead? b.toNat with
  | none => (none, 1)
  | some l =>
    let (code, used) := continuation l.more l.low l.high l.bits 1 rest
    (code.map Char.ofNat, used)

/-- The strict reading, `skip` bytes of the last character still to pass over. -/
def symbolsFrom : Nat → List UInt8 → List (Option Char) → List (Option Char)
  | _, [], acc => acc.reverse
  | skip + 1, _ :: rest, acc => symbolsFrom skip rest acc
  | 0, b :: rest, acc =>
    match first b rest with
    | (some c, used) => symbolsFrom (used - 1) rest (some c :: acc)
    | (none, _) => symbolsFrom 0 rest (none :: acc)

/-- The characters of some bytes, with `none` for each byte that belongs to no character. -/
def symbols (bytes : List UInt8) : List (Option Char) := symbolsFrom 0 bytes []

/-- The lenient reading, `skip` bytes of the last character still to pass over. -/
def lossyFrom : Nat → List UInt8 → String → String
  | _, [], acc => acc
  | skip + 1, _ :: rest, acc => lossyFrom skip rest acc
  | 0, b :: rest, acc =>
    let (c, used) := first b rest
    lossyFrom (used - 1) rest (acc.push (c.getD '\ufffd'))

/-- The text of some bytes, with U+FFFD where no character can be read. -/
def lossy (bytes : List UInt8) : String := lossyFrom 0 bytes ""

/-- The text of some bytes that are valid throughout. -/
def strict? (bytes : List UInt8) : Option String :=
  ((symbols bytes).mapM id).map String.ofList

/-- The bytes of a text. -/
def encode (s : String) : List UInt8 := s.toUTF8.data.toList

example : symbols [0x61, 0xFF, 0xC3, 0xA9] = [some 'a', none, some 'é'] := by decide
example : lossy [0xF0, 0x9F, 0x98, 0x22] = "\ufffd\"" := by decide +kernel
example : lossy [0xED, 0xA0, 0x80] = "\ufffd\ufffd\ufffd" := by decide +kernel

end Checkout.Text.Utf8
