import Checkout.Text.Hidden

/-! The quoted form in which a diagnostic shows a text: backslash escapes for quotes, backslashes
and the common controls, `\u` with braces for what cannot be seen, every other character as it is.
-/
namespace Checkout.Text.Quoted

/-- Whether a character is shown as it is; the quote and the backslash never are. -/
def isShown (c : Char) : Bool :=
  if c.toNat < 0x80 then 0x20 ≤ c.toNat && c.toNat != 0x7F else !isHidden c

/-- How a diagnostic writes one character. -/
def escape (c : Char) : List Char :=
  if c = '\x00' then ['\\', '0']
  else if c = '\t' then ['\\', 't']
  else if c = '\r' then ['\\', 'r']
  else if c = '\n' then ['\\', 'n']
  else if c = '\\' then ['\\', '\\']
  else if c = '"' then ['\\', '"']
  else if isShown c then [c]
  else '\\' :: 'u' :: '\x7b' :: (Nat.toDigits 16 c.toNat ++ ['\x7d'])

/-- The quoted form of a text. -/
def debug (s : String) : String :=
  (s.toList.foldl (fun o c => (escape c).foldl String.push o) "\"").push '"'

example : debug "a\"b\x01" = "\"a\\\"b\\u\x7b1\x7d\"" := by decide +kernel

example : debug "é\u0301😀" = "\"é\\u\x7b301\x7d😀\"" := by decide +kernel

end Checkout.Text.Quoted
