import Checkout.Json.Printer

/-! Answers of the service: a status, the headers that matter to callers, and a body. -/
namespace Checkout.Http

/-- An answer of the service. -/
structure Response where
  status : Nat
  contentType : Option String
  errorCode : Option String
  allow : Option String
  body : String
  deriving DecidableEq, Repr

namespace Response

/-- The content type of JSON. -/
def jsonType : String := "application/json"

/-- The content type of plain text. -/
def plainType : String := "text/plain; charset=utf-8"

/-- An answer with a JSON body. -/
def json (status : Nat) (j : Json) : Response := ⟨status, some jsonType, none, none, j.render⟩

/-- An answer with a text. -/
def plain (status : Nat) (text : String) : Response := ⟨status, some plainType, none, none, text⟩

/-- An answer without a body. -/
def empty (status : Nat) : Response := ⟨status, none, none, none, ""⟩

/-- The same answer without its body. -/
def headOnly (r : Response) : Response := { r with body := "" }

end Response

/-- Whether a character may stand in the value of a header: a tab, or anything but a control of the
ASCII range. -/
def isHeaderChar (c : Char) : Bool := c == '\t' || (0x20 ≤ c.toNat && c.toNat != 0x7F)

/-- Whether a text may be the value of a header. -/
def isHeaderText (s : String) : Bool := s.toList.all isHeaderChar

example : isHeaderText "código" = true ∧ isHeaderText "a\nb" = false := by decide +kernel

end Checkout.Http
