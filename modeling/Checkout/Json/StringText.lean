import Checkout.Json.NumberText

/-! Strings as a JSON text writes them, read from behind the opening quote. A string may be whole to
someone who only passes over it and still have no content: a surrogate escape may lack its partner,
or a byte may belong to no character. Such flaws are kept beside the content and matter to readers
only. -/
namespace Checkout.Json.StringText

/-- The value of a hexadecimal digit. -/
def hexValue? (s : Symbol) : Option Nat :=
  match s with
  | none => none
  | some c =>
    if '0' ≤ c ∧ c ≤ '9' then some (c.toNat - '0'.toNat)
    else if 'a' ≤ c ∧ c ≤ 'f' then some (c.toNat - 'a'.toNat + 10)
    else if 'A' ≤ c ∧ c ≤ 'F' then some (c.toNat - 'A'.toNat + 10)
    else none

/-- The value of four hexadecimal digits. -/
def hexWord? (a b c d : Symbol) : Option Nat := do
  return ((← hexValue? a) * 16 + (← hexValue? b)) * 256 + ((← hexValue? c) * 16 + (← hexValue? d))

/-- The first half of a pair of surrogates. -/
def isLeading (n : Nat) : Bool := 0xD800 ≤ n && n ≤ 0xDBFF

/-- The second half of a pair of surrogates. -/
def isTrailing (n : Nat) : Bool := 0xDC00 ≤ n && n ≤ 0xDFFF

/-- The character that a pair of surrogates stands for. -/
def paired (lead trail : Nat) : Char :=
  Char.ofNat ((lead - 0xD800) * 1024 + (trail - 0xDC00) + 0x10000)

/-- The character behind a backslash, for the escapes of two characters. -/
def short? : Symbol → Option Char
  | some '"' => some '"'
  | some '\\' => some '\\'
  | some '/' => some '/'
  | some 'b' => some '\x08'
  | some 'f' => some '\x0c'
  | some 'n' => some '\n'
  | some 'r' => some '\r'
  | some 't' => some '\t'
  | _ => none

/-- What a reader has collected: the characters so far, the first flaw of an escape, and the index
of the first byte that belongs to no character. -/
structure Collected where
  content : String
  flaw : Option Fault
  stray : Option Nat

/-- One more character. -/
def Collected.push (c : Collected) (x : Char) : Collected := { c with content := c.content.push x }

/-- A flaw, unless there was one before. -/
def Collected.note (c : Collected) (problem : Problem) (index : Nat) : Collected :=
  { c with flaw := c.flaw <|> some (problem.at index) }

/-- A byte that belongs to no character. -/
def Collected.gap (c : Collected) (index : Nat) : Collected :=
  { c with stray := c.stray <|> some index }

/-- The content of a string that was closed. -/
def Collected.result (c : Collected) : Except Fault String :=
  match c.flaw, c.stray with
  | some fault, _ => .error fault
  | none, some index => .error (Problem.invalidCodePoint.at (index + 1))
  | none, none => .ok c.content

/-- A string that was passed over, or where it broke off. -/
inductive Scan where
  | done (content : Except Fault String) (stop : Nat) (rest : List Symbol)
  | broken (breach : Breach)

/-- A string that breaks off; a reader reports an earlier flaw first. -/
def breakOff (c : Collected) (reading skipping : Fault) : Scan :=
  .broken ⟨c.flaw.getD reading, skipping⟩

/-- A string that breaks off for readers and skippers at one place. -/
def breakAt (c : Collected) (problem : Problem) (index : Nat) : Scan :=
  breakOff c (problem.at index) (problem.at index)

/-- A `\u` whose four bytes, starting at `index`, are no hexadecimal digits or not there. -/
def badHex (c : Collected) (index : Nat) (rest : List Symbol) : Scan :=
  let available := Symbol.totalWidth (rest.take 4)
  if 4 ≤ available then breakAt c .invalidEscape (index + 4)
  else breakAt c .eofString (index + available)

/-- What a reader notes about a first half that has no second half behind it. -/
def unpaired (c : Collected) (index : Nat) : List Symbol → Collected
  | [] => c
  | some '\\' :: [] => c
  | some '\\' :: some 'u' :: _ => c
  | some '\\' :: _ => c.note .unfinishedSurrogate (index + 2)
  | _ => c.note .unfinishedSurrogate (index + 1)

/-- Reads a string from behind its opening quote. -/
def scan (c : Collected) (index : Nat) : List Symbol → Scan
  | [] => breakAt c .eofString index
  | some '"' :: rest => .done c.result (index + 1) rest
  | some '\\' :: some 'u' :: h₁ :: h₂ :: h₃ :: h₄ :: rest =>
    match hexWord? h₁ h₂ h₃ h₄ with
    | none => badHex c (index + 2) [h₁, h₂, h₃, h₄]
    | some n =>
      if isTrailing n then scan (c.note .loneSurrogate (index + 6)) (index + 6) rest
      else if isLeading n then
        match rest with
        | some '\\' :: some 'u' :: t₁ :: t₂ :: t₃ :: t₄ :: rest =>
          match hexWord? t₁ t₂ t₃ t₄ with
          | none => badHex c (index + 8) [t₁, t₂, t₃, t₄]
          | some m =>
            if isTrailing m then scan (c.push (paired n m)) (index + 12) rest
            else scan (c.note .loneSurrogate (index + 12)) (index + 12) rest
        | rest => scan (unpaired c (index + 6) rest) (index + 6) rest
      else scan (c.push (Char.ofNat n)) (index + 6) rest
  | some '\\' :: some 'u' :: rest => badHex c (index + 2) rest
  | some '\\' :: s :: rest =>
    match short? s with
    | some x => scan (c.push x) (index + 2) rest
    | none => breakAt c .invalidEscape (index + 2)
  | some '\\' :: [] => breakAt c .eofString (index + 1)
  | none :: rest => scan (c.gap index) (index + 1) rest
  | some x :: rest =>
    if x.toNat < 0x20 then
      breakOff c (Problem.controlCharacter.at (index + 1)) (Problem.controlCharacter.at index)
    else scan (c.push x) (index + x.utf8Size) rest
termination_by structural symbols => symbols

end Checkout.Json.StringText
