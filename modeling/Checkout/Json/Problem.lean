import Checkout.Json.Basic
import Checkout.Text.Quoted
import Checkout.Text.Integer

/-! Everything that can be wrong with a JSON text or with a value where another shape was wanted.
Each problem is a cause with the data that its wording needs. -/
namespace Checkout.Json

open Checkout.Number (Binary64)

/-- A value that was met where another was wanted. -/
inductive Found where
  | null
  | bool (b : Bool)
  | whole (n : Int)
  | float (x : Binary64)
  | string (s : String)
  | sequence
  | map

/-- The wording of a value that was met. -/
def Found.message : Found → String
  | .null => "null"
  | .bool b => "boolean `" ++ (if b then "true" else "false") ++ "`"
  | .whole n => "integer `" ++ toString n ++ "`"
  | .float x => "floating point `" ++ x.toText ++ "`"
  | .string s => "string " ++ Text.Quoted.debug s
  | .sequence => "sequence"
  | .map => "map"

/-- How a value is named when another was wanted. -/
def found : Json → Found
  | .null => .null
  | .bool b => .bool b
  | .number (.whole n) => .whole n.val
  | .number (.float x) => .float x
  | .string s => .string s
  | .array _ => .sequence
  | .object _ => .map

/-- What is wrong. -/
inductive Problem where
  | eofValue
  | eofList
  | eofObject
  | eofString
  | expectedValue
  | expectedIdent
  | expectedColon
  | expectedListEnd
  | expectedObjectEnd
  | keyMustBeString
  | trailingComma
  | trailingCharacters
  | invalidNumber
  | numberOutOfRange
  | invalidEscape
  | loneSurrogate
  | unfinishedSurrogate
  | invalidCodePoint
  | controlCharacter
  | recursionLimit
  | invalidType (found : Found) (expected : String)
  | invalidValue (found : Found) (expected : String)
  | invalidLength (length : Nat) (expected : String)
  | unknownVariant (variant : String) (known : List String)
  | missingField (name : String)
  | duplicateField (name : String)
  | noVariant (type : String)
  | integer (fault : Text.Integer.Fault)

/-- A name between backticks. -/
def ticked (name : String) : String := "`" ++ name ++ "`"

/-- The wording of a choice between names. -/
def choice : List String → String
  | [] => "there are no variants"
  | [a] => "expected " ++ ticked a
  | [a, b] => "expected " ++ ticked a ++ " or " ++ ticked b
  | names => "expected one of " ++ ", ".intercalate (names.map ticked)

/-- The wording of a problem. -/
def Problem.message : Problem → String
  | .eofValue => "EOF while parsing a value"
  | .eofList => "EOF while parsing a list"
  | .eofObject => "EOF while parsing an object"
  | .eofString => "EOF while parsing a string"
  | .expectedValue => "expected value"
  | .expectedIdent => "expected ident"
  | .expectedColon => "expected `:`"
  | .expectedListEnd => "expected `,` or `]`"
  | .expectedObjectEnd => "expected `,` or `\x7d`"
  | .keyMustBeString => "key must be a string"
  | .trailingComma => "trailing comma"
  | .trailingCharacters => "trailing characters"
  | .invalidNumber => "invalid number"
  | .numberOutOfRange => "number out of range"
  | .invalidEscape => "invalid escape"
  | .loneSurrogate => "lone leading surrogate in hex escape"
  | .unfinishedSurrogate => "unexpected end of hex escape"
  | .invalidCodePoint => "invalid unicode code point"
  | .controlCharacter => "control character (\\u0000-\\u001F) found while parsing a string"
  | .recursionLimit => "recursion limit exceeded"
  | .invalidType found expected =>
    "invalid type: " ++ found.message ++ ", expected " ++ expected
  | .invalidValue found expected =>
    "invalid value: " ++ found.message ++ ", expected " ++ expected
  | .invalidLength length expected =>
    "invalid length " ++ toString length ++ ", expected " ++ expected
  | .unknownVariant variant known =>
    "unknown variant " ++ ticked variant ++ ", " ++ choice known
  | .missingField name => "missing field " ++ ticked name
  | .duplicateField name => "duplicate field " ++ ticked name
  | .noVariant type => "data did not match any variant of untagged enum " ++ type
  | .integer fault => fault.message

/-- A problem with the byte index at which it was noticed, if it belongs to a place in a text. -/
structure Fault where
  problem : Problem
  index : Option Nat

/-- A problem noticed at a byte index. -/
def Problem.at (problem : Problem) (index : Nat) : Fault := ⟨problem, some index⟩

/-- A problem without a place. -/
def Problem.placeless (problem : Problem) : Fault := ⟨problem, none⟩

/-- The fault at its own place, or at a given one if it has none. -/
def Fault.settle (index : Nat) (fault : Fault) : Fault :=
  ⟨fault.problem, some (fault.index.getD index)⟩

@[simp] theorem Fault.settle_problem (index : Nat) (fault : Fault) :
    (fault.settle index).problem = fault.problem := rfl

end Checkout.Json
