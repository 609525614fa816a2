import Checkout.Json.StringText

/-! The tokens of a JSON text with the bytes that they cover. A token that cannot be finished, and a
symbol that starts none, becomes a broken token; nothing is read behind it. -/
namespace Checkout.Json

/-- What a broken piece of text looked like at its start. -/
inductive Lead where
  | word
  | string
  | other
  deriving DecidableEq, Repr

/-- A piece of JSON text. -/
inductive Token where
  | openArray
  | closeArray
  | openObject
  | closeObject
  | colon
  | comma
  | null
  | bool (b : Bool)
  | number (value : Except Fault JsonNumber)
  | string (content : Except Fault String)
  | broken (lead : Lead) (breach : Breach)

/-- A token and the byte indices of its start and its end. -/
structure Placed where
  token : Token
  start : Nat
  stop : Nat

/-- The outcome of reading one token. -/
structure Lexed where
  placed : Placed
  rest : List Symbol

namespace Token

/-- Blanks between tokens. -/
def isSpace (s : Symbol) : Bool :=
  s == some ' ' || s == some '\n' || s == some '\t' || s == some '\r'

/-- The letters that are left of a word, read from `index`: what is behind it, or the fault. -/
def word (index : Nat) : List Char → List Symbol → Except Fault (List Symbol)
  | [], rest => .ok rest
  | _ :: _, [] => .error (Problem.eofValue.at index)
  | c :: cs, s :: rest =>
    if s = some c then word (index + 1) cs rest else .error (Problem.expectedIdent.at (index + 1))

/-- A word token. -/
def ofWord (token : Token) (start : Nat) (letters : List Char) (rest : List Symbol) : Lexed :=
  match word (start + 1) letters rest with
  | .ok rest => ⟨⟨token, start, start + 1 + letters.length⟩, rest⟩
  | .error fault => ⟨⟨.broken .word ⟨fault, fault⟩, start, start + 1⟩, []⟩

/-- A number token, from its first digit. -/
def ofNumber (negative : Bool) (start index : Nat) (symbols : List Symbol) : Lexed :=
  match NumberText.unsigned negative index symbols with
  | .done value stop rest => ⟨⟨.number value, start, stop⟩, rest⟩
  | .broken breach => ⟨⟨.broken .word breach, start, start + 1⟩, []⟩

/-- A string token, from behind its quote. -/
def ofString (start : Nat) (symbols : List Symbol) : Lexed :=
  match StringText.scan ⟨"", none, none⟩ (start + 1) symbols with
  | .done content stop rest => ⟨⟨.string content, start, stop⟩, rest⟩
  | .broken breach => ⟨⟨.broken .string breach, start, start + 1⟩, []⟩

/-- A token of one symbol. -/
def single (token : Token) (start : Nat) (rest : List Symbol) : Lexed :=
  ⟨⟨token, start, start + 1⟩, rest⟩

/-- The token that starts with a symbol other than a blank. -/
def lex (start : Nat) (s : Symbol) (rest : List Symbol) : Lexed :=
  match s with
  | some '[' => single .openArray start rest
  | some ']' => single .closeArray start rest
  | some '\x7b' => single .openObject start rest
  | some '\x7d' => single .closeObject start rest
  | some ':' => single .colon start rest
  | some ',' => single .comma start rest
  | some '"' => ofString start rest
  | some 'n' => ofWord .null start ['u', 'l', 'l'] rest
  | some 't' => ofWord (.bool true) start ['r', 'u', 'e'] rest
  | some 'f' => ofWord (.bool false) start ['a', 'l', 's', 'e'] rest
  | some '-' => ofNumber true start (start + 1) rest
  | s =>
    if (NumberText.digitOf s).isSome then ofNumber false start start (s :: rest)
    else single (.broken .other (.both .expectedValue (start + 1))) start []

/-- The tokens behind `done`, in at most `fuel` steps. -/
def listFrom : Nat → Nat → List Symbol → List Placed → List Placed
  | 0, _, _, done => done.reverse
  | _ + 1, _, [], done => done.reverse
  | fuel + 1, index, s :: rest, done =>
    if isSpace s then listFrom fuel (index + 1) rest done
    else
      let lexed := lex index s rest
      listFrom fuel lexed.placed.stop lexed.rest (lexed.placed :: done)

/-- The tokens of a text. Each step takes at least one symbol, so there are no more steps than
symbols. -/
def list (symbols : List Symbol) : List Placed := listFrom symbols.length 0 symbols []

end Token
end Checkout.Json
