/-! White space is the Unicode property `White_Space`, not the ASCII notion: U+0085, U+00A0 and
U+3000 belong to it, while U+200B, U+FEFF and U+001C do not. Trimming and the blankness test of
every text field rest on this one class. -/
namespace Checkout.Text

/-- The Unicode property `White_Space`. -/
def isBlank (c : Char) : Bool :=
  let n := c.toNat
  (9 ≤ n && n ≤ 13) || n == 0x20 || n == 0x85 || n == 0xA0 || n == 0x1680 ||
    (0x2000 ≤ n && n ≤ 0x200A) || n == 0x2028 || n == 0x2029 || n == 0x202F ||
    n == 0x205F || n == 0x3000

/-- The characters left once blanks at both ends are gone. -/
def trimChars (cs : List Char) : List Char :=
  ((cs.dropWhile isBlank).reverse.dropWhile isBlank).reverse

/-- The text without blanks at its two ends. -/
def trim (s : String) : String := String.ofList (trimChars s.toList)

/-- A text with nothing but blanks in it; the empty text is one. -/
def isBlankText (s : String) : Bool := s.toList.all isBlank

/-- Upper case for ASCII letters, every other character as it is. -/
def upperAscii (s : String) : String := String.ofList (s.toList.map Char.toUpper)

/-- Lower case for ASCII letters, every other character as it is. -/
def lowerAscii (s : String) : String := String.ofList (s.toList.map Char.toLower)

@[simp] theorem toList_trim (s : String) : (trim s).toList = trimChars s.toList := by
  simp [trim]

@[simp] theorem trimChars_nil : trimChars [] = [] := rfl

/-- Dropping a class from the front empties a text exactly when the class holds of all of it. -/
theorem dropWhile_eq_nil_iff_all {p : Char → Bool} {cs : List Char} :
    cs.dropWhile p = [] ↔ cs.all p = true := by
  induction cs with
  | nil => simp
  | cons c cs ih => cases h : p c <;> simp [h, ih]

/-- A text is blank exactly when trimming leaves nothing of it. -/
theorem isBlankText_iff_trimChars (s : String) :
    isBlankText s = true ↔ trimChars s.toList = [] := by
  rw [isBlankText, trimChars, List.reverse_eq_nil_iff, dropWhile_eq_nil_iff_all, List.all_reverse]
  induction s.toList with
  | nil => simp
  | cons c cs ih => cases h : isBlank c <;> simp [h, ih]

example : trim "\u00a0 a b\u3000" = "a b" := by decide +kernel
example : isBlank '\u200b' = false ∧ isBlank '\x1c' = false := by decide

end Checkout.Text
