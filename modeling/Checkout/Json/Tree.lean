import Checkout.Json.Token

/-! A JSON text as a tree that keeps what error reports need: where each value stands, where a
reader is left after each part, and how the text breaks off if it does. The tree is built without
judging it; nothing that is only passed over has to be sound inside. -/
namespace Checkout.Json

/-- How an array or an object ends: closed, or broken off with the token that stood in the way. -/
inductive Ending where
  | closed (stop : Nat)
  | broken (breach : Breach) (met : Option Placed)

/-- The name of a member: its content, the index behind it, and the index where a reader is left
that stops there. -/
structure Key where
  name : Except Fault String
  stop : Nat
  settled : Nat

/-- A value in a text. Containers are known by the index of their bracket, a broken value by the
index that a look at its first byte reports. -/
inductive Node where
  | null (start stop : Nat)
  | bool (b : Bool) (start stop : Nat)
  | number (value : Except Fault JsonNumber) (start stop : Nat)
  | string (content : Except Fault String) (start stop : Nat)
  | array (start : Nat) (items : List (Node × Nat)) (ending : Ending)
  | object (start : Nat) (members : List (Key × Node × Nat)) (ending : Ending)
  | broken (ahead : Nat) (lead : Lead) (trailing : Bool) (breach : Breach)

/-- A container that is not closed yet, its parts in reverse. -/
inductive Frame where
  | array (start : Nat) (items : List (Node × Nat))
  | object (start : Nat) (members : List (Key × Node × Nat)) (key : Option Key)

/-- What the next token has to be. -/
inductive Want where
  | value
  | firstItem
  | nextItem
  | firstKey
  | nextKey (comma : Placed)
  | colon
  | more

/-- A whole text: its value, and what a look at anything behind it reports. -/
structure Document where
  root : Node
  behind : Option Nat

namespace Frame

/-- Puts a value into a container; `settled` is where a reader is left behind it. -/
def add (node : Node) (settled : Nat) : Frame → Frame
  | .array start items => .array start ((node, settled) :: items)
  | .object start members (some key) => .object start ((key, node, settled) :: members) none
  | .object start members none => .object start members none

/-- Puts a name into an object. -/
def name (key : Key) : Frame → Frame
  | .object start members _ => .object start members (some key)
  | frame => frame

/-- The container with its ending. -/
def toNode (ending : Ending) : Frame → Node
  | .array start items => .array start items.reverse ending
  | .object start members _ => .object start members.reverse ending

/-- Where a reader is left behind a part of the container: behind the closing bracket if that
follows, and in an array at what follows a comma. -/
def settle (size : Nat) (frame : Frame) (rest : List Placed) : Nat :=
  match rest with
  | [] => size
  | p :: rest =>
    match frame, p.token with
    | .array .., .closeArray => p.stop
    | .array .., .comma => (rest.head?.map Placed.start).getD size
    | .object .., .closeObject => p.stop
    | _, _ => p.start

/-- The report on a container that the text does not go on with. -/
def unfinished (size : Nat) : Frame → Breach
  | .array .. => .both .eofList size
  | .object .. => .both .eofObject size

/-- The report on a token that neither continues nor closes a container. -/
def unexpected (index : Nat) : Frame → Breach
  | .array .. => .both .expectedListEnd (index + 1)
  | .object .. => .both .expectedObjectEnd (index + 1)

end Frame

namespace Tree

/-- What to do next: stop with a tree, or go on with open containers. -/
inductive Step where
  | stop (document : Document)
  | go (stack : List Frame) (want : Want)

/-- Closes all open containers around a value that breaks off. -/
def unwind (breach : Breach) : List Frame → Node → Document
  | [], node => ⟨node, none⟩
  | frame :: stack, node =>
    unwind breach stack ((frame.add node 0).toNode (.broken breach none))

/-- Stops inside a container. -/
def breakOff (breach : Breach) (met : Option Placed) : List Frame → Document
  | [] => ⟨.broken 0 .other false breach, none⟩
  | frame :: stack => unwind breach stack (frame.toNode (.broken breach met))

/-- A value that is broken itself. -/
def broken (stack : List Frame) (ahead : Nat) (lead : Lead) (trailing : Bool) (breach : Breach) :
    Document :=
  unwind breach stack (.broken ahead lead trailing breach)

/-- A value that is complete. -/
def complete (size : Nat) (node : Node) (rest : List Placed) : List Frame → Step
  | [] => .stop ⟨node, rest.head?.map (·.start + 1)⟩
  | frame :: stack => .go (frame.add node (frame.settle size rest) :: stack) .more

/-- The step at a token where a value is wanted. -/
def value (size : Nat) (stack : List Frame) (trailing : Bool) (p : Placed) (rest : List Placed) :
    Step :=
  match p.token with
  | .null => complete size (.null p.start p.stop) rest stack
  | .bool b => complete size (.bool b p.start p.stop) rest stack
  | .number v => complete size (.number v p.start p.stop) rest stack
  | .string s => complete size (.string s p.start p.stop) rest stack
  | .openArray => .go (.array p.start [] :: stack) .firstItem
  | .openObject => .go (.object p.start [] none :: stack) .firstKey
  | .broken lead breach => .stop (broken stack (p.start + 1) lead false breach)
  | .closeArray =>
    if trailing then
      .stop (broken stack (p.start + 1) .other true
        ⟨Problem.trailingComma.at (p.start + 1), Problem.expectedValue.at (p.start + 1)⟩)
    else .stop (broken stack (p.start + 1) .other false (.both .expectedValue (p.start + 1)))
  | _ => .stop (broken stack (p.start + 1) .other false (.both .expectedValue (p.start + 1)))

/-- The step at a token where a name is wanted. -/
def key (size : Nat) (stack : List Frame) (met : Placed) (p : Placed) (rest : List Placed) : Step :=
  match p.token, stack with
  | .string s, frame :: stack =>
    .go (frame.name ⟨s, p.stop, frame.settle size rest⟩ :: stack) .colon
  | .broken .string breach, _ => .stop (breakOff breach (some met) stack)
  | _, _ => .stop (breakOff (.both .keyMustBeString (p.start + 1)) (some met) stack)

/-- The step at a token. -/
def step (size : Nat) (stack : List Frame) (want : Want) (p : Placed) (rest : List Placed) : Step :=
  match want, p.token, stack with
  | .value, _, _ => value size stack false p rest
  | .firstItem, .closeArray, frame :: stack =>
    complete size (frame.toNode (.closed p.stop)) rest stack
  | .firstItem, _, _ => value size stack false p rest
  | .nextItem, _, _ => value size stack true p rest
  | .firstKey, .closeObject, frame :: stack =>
    complete size (frame.toNode (.closed p.stop)) rest stack
  | .firstKey, _, _ => key size stack p p rest
  | .nextKey comma, .closeObject, _ =>
    .stop (breakOff
      ⟨Problem.trailingComma.at (p.start + 1), Problem.keyMustBeString.at (p.start + 1)⟩
      (some comma) stack)
  | .nextKey comma, _, _ => key size stack comma p rest
  | .colon, .colon, _ => .go stack .value
  | .colon, _, _ =>
    .stop (broken stack (p.start + 1) .other false (.both .expectedColon (p.start + 1)))
  | .more, .comma, .array .. :: _ => .go stack .nextItem
  | .more, .comma, .object .. :: _ => .go stack (.nextKey p)
  | .more, .closeArray, .array start items :: stack =>
    complete size (.array start items.reverse (.closed p.stop)) rest stack
  | .more, .closeObject, .object start members _ :: stack =>
    complete size (.object start members.reverse (.closed p.stop)) rest stack
  | .more, _, frame :: _ => .stop (breakOff (frame.unexpected p.start) (some p) stack)
  | .more, _, [] => .stop (breakOff (.both .trailingCharacters (p.start + 1)) (some p) [])

/-- The end of the text inside a value. -/
def atEnd (size : Nat) (stack : List Frame) (want : Want) : Document :=
  match want, stack with
  | .nextKey comma, _ =>
    breakOff ⟨Problem.eofValue.at size, Problem.eofObject.at size⟩ (some comma) stack
  | .colon, _ => broken stack size .other false (.both .eofObject size)
  | .firstItem, frame :: _ => breakOff (frame.unfinished size) none stack
  | .firstKey, frame :: _ => breakOff (frame.unfinished size) none stack
  | .more, frame :: _ => breakOff (frame.unfinished size) none stack
  | _, _ => broken stack size .other false (.both .eofValue size)

/-- Builds the tree of a text of `size` bytes from its tokens. -/
def build (size : Nat) (stack : List Frame) (want : Want) : List Placed → Document
  | [] => atEnd size stack want
  | p :: rest =>
    match step size stack want p rest with
    | .stop document => document
    | .go stack want => build size stack want rest

end Tree

/-- The tree of a text. -/
def Document.ofSymbols (symbols : List Symbol) : Document :=
  Tree.build (Symbol.totalWidth symbols) [] .value (Token.list symbols)

/-- What someone reports who passes over a value. -/
def Node.skipped : Node → Except Fault Unit
  | .array _ _ (.broken breach _) => .error breach.skipping
  | .object _ _ (.broken breach _) => .error breach.skipping
  | .broken _ _ _ breach => .error breach.skipping
  | _ => .ok ()

mutual

/-- Reads any value. Each container takes one of `depth` levels and the last level is never
entered. Repeated members are kept, each at its place. -/
def Node.read (depth : Nat) : Node → Except Fault Json
  | .null _ _ => .ok .null
  | .bool b _ _ => .ok (.bool b)
  | .number value _ _ => value.map .number
  | .string content _ _ => content.map .string
  | .array start items ending =>
    if depth ≤ 1 then .error (Problem.recursionLimit.at (start + 1))
    else Node.readItems (depth - 1) ending [] items
  | .object start members ending =>
    if depth ≤ 1 then .error (Problem.recursionLimit.at (start + 1))
    else Node.readMembers (depth - 1) ending [] members
  | .broken _ _ _ breach => .error breach.reading

/-- Reads the items of an array, those in front of them given in reverse. -/
def Node.readItems (depth : Nat) (ending : Ending) (done : List Json) :
    List (Node × Nat) → Except Fault Json
  | [] =>
    match ending with
    | .closed _ => .ok (.array done.reverse)
    | .broken breach _ => .error breach.reading
  | (item, _) :: rest =>
    match item.read depth with
    | .ok j => Node.readItems depth ending (j :: done) rest
    | .error fault => .error fault

/-- Reads the members of an object, those in front of them given in reverse. -/
def Node.readMembers (depth : Nat) (ending : Ending) (done : List (String × Json)) :
    List (Key × Node × Nat) → Except Fault Json
  | [] =>
    match ending with
    | .closed _ => .ok (.object done.reverse)
    | .broken breach _ => .error breach.reading
  | (key, value, _) :: rest =>
    match key.name with
    | .error fault => .error fault
    | .ok name =>
      match value.read depth with
      | .ok j => Node.readMembers depth ending ((name, j) :: done) rest
      | .error fault => .error fault

end

end Checkout.Json
