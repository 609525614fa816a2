import Checkout.Text.Utf8

/-! The text that a JSON reader works on: characters, with a gap for each byte that belongs to no
character. Places are counted in bytes, and a place is reported as the number of its line and the
count of bytes in front of it on that line. -/
namespace Checkout.Json

/-- A character of the text, or a byte that belongs to none. -/
abbrev Symbol := Option Char

/-- How many bytes a symbol takes. -/
def Symbol.width : Symbol → Nat
  | some c => c.utf8Size
  | none => 1

/-- The symbols of a text. -/
def Symbol.ofText (s : String) : List Symbol := s.toList.map some

/-- The symbols of some bytes. -/
def Symbol.ofBytes (bytes : List UInt8) : List Symbol := Text.Utf8.symbols bytes

/-- How many bytes some symbols take. -/
def Symbol.totalWidth (symbols : List Symbol) : Nat :=
  symbols.foldl (fun n s => n + Symbol.width s) 0

/-- A place in a text, for people. -/
structure Position where
  line : Nat
  column : Nat
  deriving DecidableEq, Repr

/-- Walks `ahead` bytes from a position. -/
def Position.walk (p : Position) : Nat → List Symbol → Position
  | ahead, [] => ⟨p.line, p.column + ahead⟩
  | ahead, s :: rest =>
    if ahead < Symbol.width s then ⟨p.line, p.column + ahead⟩
    else if s = some '\n' then Position.walk ⟨p.line + 1, 0⟩ (ahead - 1) rest
    else Position.walk ⟨p.line, p.column + Symbol.width s⟩ (ahead - Symbol.width s) rest

/-- The position of a byte index. -/
def Position.ofIndex (symbols : List Symbol) (index : Nat) : Position :=
  Position.walk ⟨1, 0⟩ index symbols

/-- The wording of a position. -/
def Position.message (p : Position) : String :=
  " at line " ++ toString p.line ++ " column " ++ toString p.column

example : Position.ofIndex (Symbol.ofText "é\nab") 4 = ⟨2, 1⟩ := by decide +kernel

end Checkout.Json
