import Checkout.Text.MediaType
import Checkout.Text.Utf8

/-! The text of bytes whose encoding is named by a label. A byte order mark at the start decides the
encoding whatever the label says and is not part of the text; what is malformed becomes U+FFFD.
Encodings that need tables of their own, such as Shift_JIS, are not spelled out: their labels and
what they make of bytes are passed in. -/
namespace Checkout.Text

/-- Encodings by their labels in lower case: how bytes are read under a label, if it names one. -/
abbrev Encodings := String → Option (List UInt8 → String)

/-- An encoding of text. -/
inductive Charset where
  | utf8
  | utf16le
  | utf16be
  | windows1252
  | other (read : List UInt8 → String)

namespace Charset

/-- The encoding of a label; letter case and blanks around it do not matter. A label that names no
encoding, neither here nor among the others, stands for UTF-8. -/
def ofLabel (others : Encodings) (label : List Char) : Charset :=
  let isSpace (c : Char) : Bool := c == ' ' || c == '\t' || c == '\n' || c == '\r' || c == '\x0c'
  let word := (((label.dropWhile isSpace).reverse.dropWhile isSpace).reverse).map Char.toLower
  let name := String.ofList word
  if name ∈ ["utf-8", "utf8", "unicode-1-1-utf-8", "unicode11utf8", "unicode20utf8",
      "x-unicode20utf8"] then .utf8
  else if name ∈ ["utf-16", "utf-16le", "ucs-2", "unicode", "csunicode", "iso-10646-ucs-2",
      "unicodefeff"] then .utf16le
  else if name ∈ ["utf-16be", "unicodefffe"] then .utf16be
  else if name ∈ ["windows-1252", "iso-8859-1", "iso8859-1", "iso88591", "iso_8859-1",
      "iso_8859-1:1987", "latin1", "l1", "ascii", "us-ascii", "ansi_x3.4-1968", "cp1252", "x-cp1252",
      "cp819", "ibm819", "iso-ir-100", "csisolatin1"] then .windows1252
  else ((others name).map .other).getD .utf8

/-- The characters of the bytes from 0x80 to 0x9F. -/
def windowsBlock : List Nat :=
  [0x20AC, 0x81, 0x201A, 0x192, 0x201E, 0x2026, 0x2020, 0x2021, 0x2C6, 0x2030, 0x160, 0x2039, 0x152,
    0x8D, 0x17D, 0x8F, 0x90, 0x2018, 0x2019, 0x201C, 0x201D, 0x2022, 0x2013, 0x2014, 0x2DC, 0x2122,
    0x161, 0x203A, 0x153, 0x9D, 0x17E, 0x178]

/-- The character of a byte. -/
def windowsChar (b : UInt8) : Char :=
  if 0x80 ≤ b.toNat ∧ b.toNat < 0xA0 then Char.ofNat (windowsBlock.getD (b.toNat - 0x80) 0xFFFD)
  else Char.ofNat b.toNat

/-- The words of sixteen bits in some bytes; a byte that is left over is no word. -/
def words (bigEndian : Bool) : List UInt8 → List (Option Nat) → List (Option Nat)
  | [], done => done.reverse
  | [_], done => (none :: done).reverse
  | a :: b :: rest, done =>
    words bigEndian rest
      (some (if bigEndian then a.toNat * 256 + b.toNat else b.toNat * 256 + a.toNat) :: done)

/-- The text of words; `lead` is a first half that waits for its second half. -/
def ofWords (lead : Option Nat) (out : String) : List (Option Nat) → String
  | [] => if lead.isSome then out.push '\ufffd' else out
  | none :: rest => ofWords none (out.push '\ufffd') rest
  | some n :: rest =>
    if 0xDC00 ≤ n ∧ n ≤ 0xDFFF then
      match lead with
      | some m =>
        ofWords none (out.push (Char.ofNat ((m - 0xD800) * 1024 + (n - 0xDC00) + 0x10000))) rest
      | none => ofWords none (out.push '\ufffd') rest
    else
      let out := if lead.isSome then out.push '\ufffd' else out
      if 0xD800 ≤ n ∧ n ≤ 0xDBFF then ofWords (some n) out rest
      else ofWords none (out.push (Char.ofNat n)) rest

/-- The text of bytes without a byte order mark. -/
def decodeBody : Charset → List UInt8 → String
  | .utf8, bytes => Utf8.lossy bytes
  | .utf16le, bytes => ofWords none "" (words false bytes [])
  | .utf16be, bytes => ofWords none "" (words true bytes [])
  | .windows1252, bytes => String.ofList (bytes.map windowsChar)
  | .other read, bytes => read bytes

/-- The text of bytes. -/
def decode (charset : Charset) : List UInt8 → String
  | 0xEF :: 0xBB :: 0xBF :: rest => decodeBody .utf8 rest
  | 0xFF :: 0xFE :: rest => decodeBody .utf16le rest
  | 0xFE :: 0xFF :: rest => decodeBody .utf16be rest
  | bytes => decodeBody charset bytes

/-- The encoding that a content type names, UTF-8 if it names none. -/
def ofContentType (others : Encodings) (contentType : Option String) : Charset :=
  ((contentType.bind (MediaType.parameter? "charset")).map (ofLabel others)).getD .utf8

example : decode .windows1252 [0x80, 0xE9] = "€é" := by decide +kernel
example : decode .utf8 [0xFF, 0xFE, 0x3D, 0xD8, 0x00, 0xDE] = "😀" := by decide +kernel
example : (ofContentType (fun _ => none) (some "text/html; Charset=\"Latin1\"")).decode [0xE9] =
    "é" := by
  decide +kernel
example : (ofContentType (fun label => if label = "shift_jis" then some fun _ => "あ" else none)
    (some "text/plain; charset=Shift_JIS")).decode [0x82, 0xA0] = "あ" := by
  decide +kernel

end Charset
end Checkout.Text
