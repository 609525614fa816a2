import Checkout.Json.Tree

/-! Reading JSON text as a whole: one value with nothing but blanks around it, nested fewer than 128
levels deep. -/
namespace Checkout.Json

/-- A problem with the position at which it was noticed, if it belongs to a place in a text. -/
structure Error where
  problem : Problem
  position : Option Position

/-- The wording of an error. -/
def Error.message (e : Error) : String :=
  match e.position with
  | none => e.problem.message
  | some p => e.problem.message ++ p.message

/-- The error that a fault is in a text. -/
def Fault.toError (symbols : List Symbol) (fault : Fault) : Error :=
  ⟨fault.problem, fault.index.map (Position.ofIndex symbols)⟩

/-- How many levels a reader of text goes down, the last of them never entered. -/
def levels : Nat := 128

/-- What is wrong with a text that goes on behind its value. -/
def Document.finish (document : Document) (a : α) : Except Fault α :=
  match document.behind with
  | none => .ok a
  | some index => .error (Problem.trailingCharacters.at index)

/-- Reads a text through its tree. -/
def readWith (read : Nat → Node → Except Fault α) (symbols : List Symbol) : Except Error α :=
  let document := Document.ofSymbols symbols
  (read levels document.root >>= document.finish).mapError (Fault.toError symbols)

/-- The value of a text, members as they are written. -/
def parseWritten (symbols : List Symbol) : Except Error Json := readWith Node.read symbols

/-- The value that a text stands for. -/
def parseSymbols (symbols : List Symbol) : Except Error Json :=
  (parseWritten symbols).map normal

/-- The value that a text stands for. -/
def parse (s : String) : Except Error Json := parseSymbols (Symbol.ofText s)

/-- The value that the bytes of a text stand for. -/
def parseBytes (bytes : List UInt8) : Except Error Json := parseSymbols (Symbol.ofBytes bytes)

end Checkout.Json
