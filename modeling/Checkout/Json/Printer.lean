import Checkout.Json.Basic

/-! The compact text of a JSON value: no blanks, members in their order, strings with the short
escapes where one exists and `\u00xx` for the other controls below U+0020. Everything else in a
string stands for itself. -/
namespace Checkout

open Checkout.Number (Binary64)

/-- The text of a number. -/
def JsonNumber.toText : JsonNumber → String
  | .whole n => toString n.val
  | .float x => x.toText

namespace Json

/-- A hexadecimal digit in lower case. -/
def hexDigit (n : Nat) : Char := (Nat.toDigits 16 (n % 16)).headD '0'

/-- How a character is written inside a string. -/
def escape (c : Char) : List Char :=
  if c = '"' then ['\\', '"']
  else if c = '\\' then ['\\', '\\']
  else if c = '\x08' then ['\\', 'b']
  else if c = '\x0c' then ['\\', 'f']
  else if c = '\n' then ['\\', 'n']
  else if c = '\r' then ['\\', 'r']
  else if c = '\t' then ['\\', 't']
  else if c.toNat < 0x20 then ['\\', 'u', '0', '0', hexDigit (c.toNat / 16), hexDigit c.toNat]
  else [c]

/-- Appends characters to a text. -/
def pushAll (out : String) (cs : List Char) : String := cs.foldl String.push out

/-- Appends a string in its quotes. -/
def quoteTo (out : String) (s : String) : String :=
  (s.toList.foldl (fun o c => pushAll o (escape c)) (out.push '"')).push '"'

/-- A string in its quotes. -/
def quoted (s : String) : String := quoteTo "" s

mutual

/-- Appends the compact text of a value. -/
def renderTo (out : String) : Json → String
  | .null => out ++ "null"
  | .bool true => out ++ "true"
  | .bool false => out ++ "false"
  | .number n => out ++ n.toText
  | .string s => quoteTo out s
  | .array items => (renderItems (out.push '[') true items).push ']'
  | .object members => (renderMembers (out.push '\x7b') true members).push '\x7d'

/-- Appends items, the first without a comma in front. -/
def renderItems (out : String) (first : Bool) : List Json → String
  | [] => out
  | item :: rest =>
    renderItems (renderTo (if first then out else out.push ',') item) false rest

/-- Appends members, the first without a comma in front. -/
def renderMembers (out : String) (first : Bool) : List (String × Json) → String
  | [] => out
  | (name, value) :: rest =>
    let start := if first then out else out.push ','
    renderMembers (renderTo ((quoteTo start name).push ':') value) false rest

end

/-- The compact text of a value. -/
def render (j : Json) : String := renderTo "" j

@[simp] theorem toList_pushAll (out : String) (cs : List Char) :
    (pushAll out cs).toList = out.toList ++ cs := by
  induction cs generalizing out with
  | nil => simp [pushAll]
  | cons c cs ih =>
    have : pushAll out (c :: cs) = pushAll (out.push c) cs := rfl
    simp [this, ih]

/-- A string is written as its characters' escapes between two quotes. -/
theorem toList_quoteTo (out s : String) :
    (quoteTo out s).toList = out.toList ++ '"' :: s.toList.flatMap escape ++ ['"'] := by
  have go : ∀ (cs : List Char) (o : String),
      (cs.foldl (fun o c => pushAll o (escape c)) o).toList = o.toList ++ cs.flatMap escape := by
    intro cs
    induction cs with
    | nil => simp
    | cons c cs ih => intro o; simp [ih]
  simp [quoteTo, go]

example : quoted "a\"\n\x01é" = "\"a\\\"\\n\\u0001é\"" := by decide +kernel
example : render (.array [.null, .object [("k", .bool true)]]) =
    "[null,\x7b\"k\":true\x7d]" := by rfl

end Json
end Checkout
