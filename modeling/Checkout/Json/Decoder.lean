import Checkout.Json.Parser
import Checkout.Json.Slots

/-! Readers of typed data. Every decoder reads both the tree of a text, where a fault is reported
with its place, and a value, where it is not. The combinators build the two readings side by side,
so a type is described once. -/
namespace Checkout.Json

/-- A reader of a type from text, given the levels that are left, and from a value. -/
structure Decoder (α : Type) where
  text : Nat → Node → Except Fault α
  value : Json → Except Problem α

/-- The fault of a value of another type than the expected one. A scalar is read before it is
refused, so its own faults come first. -/
def Node.mismatch (expected : String) : Node → Fault
  | .null _ stop => (Problem.invalidType .null expected).at stop
  | .bool b _ stop => (Problem.invalidType (.bool b) expected).at stop
  | .number (.ok n) _ stop => (Problem.invalidType (Json.number n).found expected).at stop
  | .number (.error fault) _ _ => fault
  | .string (.ok s) _ stop => (Problem.invalidType (.string s) expected).at stop
  | .string (.error fault) _ _ => fault
  | .array start _ _ => (Problem.invalidType .sequence expected).at start
  | .object start _ _ => (Problem.invalidType .map expected).at start
  | .broken _ _ _ breach => breach.reading

/-- The index that a look at the first byte of a value reports. -/
def Node.ahead : Node → Nat
  | .null start _ => start + 1
  | .bool _ start _ => start + 1
  | .number _ start _ => start + 1
  | .string _ start _ => start + 1
  | .array start _ _ => start + 1
  | .object start _ _ => start + 1
  | .broken ahead _ _ _ => ahead

/-- The problem of a value of another type than the expected one. -/
def mismatch (expected : String) (j : Json) : Problem := .invalidType j.found expected

/-- A value in a container of a text: the levels left for it and where the reader is left behind
it, which is the place of its faults that have none. -/
structure Cell where
  depth : Nat
  node : Node
  settled : Nat

namespace Decoder

variable {α β : Type}

/-- Reads a typed value from the symbols of a text. -/
def fromSymbols (d : Decoder α) (symbols : List Symbol) : Except Error α := readWith d.text symbols

/-- Reads a typed value from a text. -/
def fromText (d : Decoder α) (s : String) : Except Error α := d.fromSymbols (Symbol.ofText s)

/-- Reads a typed value from the bytes of a text. -/
def fromBytes (d : Decoder α) (bytes : List UInt8) : Except Error α :=
  d.fromSymbols (Symbol.ofBytes bytes)

/-- Reads a value inside a container of a text. -/
def cell (d : Decoder α) (c : Cell) : Except Fault α :=
  (d.text c.depth c.node).mapError (Fault.settle c.settled)

/-- Reads a value inside a container. -/
def member (d : Decoder α) (j : Json) : Except Fault α := (d.value j).mapError Problem.placeless

/-- Changes the result. -/
def map (f : α → β) (d : Decoder α) : Decoder β :=
  ⟨fun depth node => (d.text depth node).map f, fun j => (d.value j).map f⟩

/-- A text. -/
def string : Decoder String where
  text _ node :=
    match node with
    | .string content _ _ => content
    | node => .error (node.mismatch "a string")
  value j :=
    match j with
    | .string s => .ok s
    | j => .error (mismatch "a string" j)

/-- Any value. -/
def any : Decoder Json where
  text depth node := (node.read depth).map normal
  value j := .ok j

/-- A value that is read as written and judged afterwards, so its faults have no place. -/
def buffered (read : Json → Except Problem α) : Decoder α where
  text depth node := do
    let j ← node.read depth
    (read j).mapError Problem.placeless
  value := read

/-- A value or null. -/
def optional (d : Decoder α) : Decoder (Option α) where
  text depth node :=
    match node with
    | .null _ _ => .ok none
    | node => (d.text depth node).map some
  value j :=
    match j with
    | .null => .ok none
    | j => (d.value j).map some

/-- The items of an array in a text. -/
def cells (d : Decoder α) (depth : Nat) (ending : Ending) (done : List α) :
    List (Node × Nat) → Except Fault (List α)
  | [] =>
    match ending with
    | .closed _ => .ok done.reverse
    | .broken breach _ => .error breach.reading
  | (node, settled) :: rest =>
    match d.cell ⟨depth, node, settled⟩ with
    | .ok a => cells d depth ending (a :: done) rest
    | .error fault => .error fault

/-- An array of items of one type. -/
def list (d : Decoder α) : Decoder (List α) where
  text depth node :=
    match node with
    | .array start items ending =>
      if depth ≤ 1 then .error (Problem.recursionLimit.at (start + 1))
      else d.cells (depth - 1) ending [] items
    | node => .error (node.mismatch "a sequence")
  value j :=
    match j with
    | .array items => items.mapM d.value
    | j => .error (mismatch "a sequence" j)

/-- The choice that a name stands for. -/
def chosen (names : List (String × α)) (name : String) : Except Problem α :=
  match names.lookup name with
  | some a => .ok a
  | none => .error (.unknownVariant name (names.map Prod.fst))

/-- The fault of a token where the name of a choice should be. -/
def notAName (p : Placed) : Fault :=
  let refuse (found : Found) (index : Nat) :=
    (Problem.invalidType found "variant identifier").at index
  match p.token with
  | .null => refuse .null p.stop
  | .bool b => refuse (.bool b) p.stop
  | .number (.ok n) => refuse (Json.number n).found p.stop
  | .number (.error fault) => fault
  | .string (.ok s) => refuse (.string s) p.stop
  | .string (.error fault) => fault
  | .openArray => refuse .sequence p.start
  | .openObject => refuse .map p.start
  | .broken _ breach => breach.reading
  | _ => Problem.expectedValue.at (p.start + 1)

/-- What a text reports where a choice written as an object should have been closed. -/
def afterChoice (settled : Nat) (more : Bool) : Ending → Except Fault Unit
  | .closed _ => if more then .error (Problem.expectedValue.at settled) else .ok ()
  | .broken breach met =>
    if more ∨ met.isSome then .error (Problem.expectedValue.at settled)
    else .error breach.reading

/-- A choice of the object form in a text: one name with null behind it. -/
def choiceMember (names : List (String × α)) (ending : Ending) :
    List (Key × Node × Nat) → Except Fault α
  | [] =>
    match ending with
    | .closed stop => .error (Problem.expectedValue.at stop)
    | .broken _ (some p) => .error (notAName p)
    | .broken breach none => .error ⟨.eofValue, breach.reading.index⟩
  | (key, node, settled) :: rest => do
    let name ← key.name
    let a ← (chosen names name).mapError (Problem.at · key.stop)
    match node with
    | .null _ _ => afterChoice settled (!rest.isEmpty) ending
    | node => throw (node.mismatch "unit")
    return a

/-- One of several names, written as a text or as an object with the name and null. -/
def oneOf (names : List (String × α)) : Decoder α where
  text depth node :=
    match node with
    | .string (.ok s) _ stop => (chosen names s).mapError (Problem.at · stop)
    | .string (.error fault) _ _ => .error fault
    | .object start members ending =>
      if depth ≤ 1 then .error (Problem.recursionLimit.at (start + 1))
      else choiceMember names ending members
    | .broken ahead lead _ breach =>
      if lead = .word then .error (Problem.expectedValue.at ahead) else .error breach.reading
    | node => .error (Problem.expectedValue.at node.ahead)
  value j :=
    match j with
    | .string s => chosen names s
    | .object [(name, content)] => do
      let a ← chosen names name
      match content with
      | .null => return a
      | content => throw (mismatch "unit" content)
    | .object _ => .error (.invalidValue .map "map with a single key")
    | j => .error (mismatch "string or map" j)

end Decoder

/-- The fields of a record, from text and from a value. -/
structure Fields (α : Type) where
  text : Slots Cell α
  value : Slots Json α

namespace Fields

variable {α β : Type}

instance : Functor Fields :=
  ⟨fun f s => ⟨s.text.map f, s.value.map f⟩, fun a s => ⟨s.text.map fun _ => a, s.value.map fun _ => a⟩⟩

instance : Seq Fields := ⟨fun f s => ⟨f.text.seq (s ()).text, f.value.seq (s ()).value⟩⟩

/-- One field. -/
def field (name : String) (d : Decoder α) (absent : Absent α) : Fields α :=
  ⟨.field name d.cell absent, .field name d.member absent⟩

/-- A field that has to be there. -/
def required (name : String) (d : Decoder α) : Fields α := field name d .fault

/-- A field that may be null, and left out of an object. -/
def optional (name : String) (d : Decoder α) : Fields (Option α) :=
  field name d.optional (.inObject none)

/-- A field with a value of its own when it is left out. -/
def withDefault (name : String) (d : Decoder α) (a : α) : Fields α := field name d (.anywhere a)

end Fields

namespace Slots

variable {σ α : Type}

/-- The members of an object that name fields, checked in their order; a field may be named once. -/
def checkMembers (s : Slots σ α) (seen : List String) : List (String × σ) → Except Fault Unit
  | [] => .ok ()
  | (name, a) :: rest =>
    match s.checks.lookup name with
    | none => s.checkMembers seen rest
    | some check =>
      if seen.contains name then .error (Problem.duplicateField name).placeless
      else
        match check a with
        | .ok () => s.checkMembers (name :: seen) rest
        | .error fault => .error fault

/-- A record from the members of an object. -/
def ofMembers (s : Slots σ α) (members : List (String × σ)) : Except Fault α := do
  s.checkMembers [] members
  s.named fun name => members.lookup name

/-- A record from the items of an array; `excess` is reported if items are left over. -/
def ofItems (s : Slots σ α) (shortage : Shortage) (excess : List σ → Except Fault Unit)
    (items : List σ) : Except Fault α := do
  let (a, _, rest) ← s.listed shortage 0 items
  excess rest
  return a

/-- The members of an object in a text, checked in their order. Members that name no field are
passed over. -/
def checkText (s : Slots Cell α) (depth : Nat) (seen : List String) :
    List (Key × Node × Nat) → Except Fault Unit
  | [] => .ok ()
  | (key, node, settled) :: rest =>
    match key.name with
    | .error fault => .error fault
    | .ok name =>
      match s.checks.lookup name with
      | none =>
        match node.skipped with
        | .ok () => s.checkText depth seen rest
        | .error fault => .error fault
      | some check =>
        if seen.contains name then .error ((Problem.duplicateField name).at key.settled)
        else
          match check ⟨depth, node, settled⟩ with
          | .ok () => s.checkText depth (name :: seen) rest
          | .error fault => .error fault

/-- The value of a name in an object of a text. -/
def cellOf (depth : Nat) (name : String) : List (Key × Node × Nat) → Option Cell
  | [] => none
  | (key, node, settled) :: rest =>
    match key.name with
    | .ok n => if n = name then some ⟨depth, node, settled⟩ else cellOf depth name rest
    | .error _ => cellOf depth name rest

/-- What a text reports about the end of an array whose fields have all been read. -/
def afterItems (ending : Ending) : List Cell → Except Fault Unit
  | [] =>
    match ending with
    | .closed _ => .ok ()
    | .broken breach none => .error breach.reading
    | .broken _ (some p) => .error (Problem.trailingCharacters.at (p.start + 1))
  | cell :: _ =>
    match cell.node with
    | .broken _ _ true breach => .error breach.reading
    | node => .error (Problem.trailingCharacters.at node.ahead)

/-- How an array in a text runs out of items. -/
def shortageOf (expected : String) : Ending → Shortage
  | .closed stop => ⟨none, fun i => (Problem.invalidLength i expected).at stop⟩
  | .broken breach _ => ⟨some breach.reading, fun _ => breach.reading⟩

end Slots

namespace Decoder

variable {α : Type}

/-- A record, from an object with its fields as members or an array of its fields. -/
def record (name : String) (fields : Fields α) : Decoder α where
  text depth node :=
    let what := "struct " ++ name
    match node with
    | .array start items ending =>
      if depth ≤ 1 then .error (Problem.recursionLimit.at (start + 1))
      else
        fields.text.ofItems
          (Slots.shortageOf (withElements what fields.text.count) ending)
          (Slots.afterItems ending)
          (items.map fun (node, settled) => ⟨depth - 1, node, settled⟩)
    | .object start members ending =>
      if depth ≤ 1 then .error (Problem.recursionLimit.at (start + 1))
      else do
        fields.text.checkText (depth - 1) [] members
        match ending with
        | .broken breach _ => throw breach.reading
        | .closed stop =>
          (fields.text.named fun name => Slots.cellOf (depth - 1) name members).mapError
            (Fault.settle stop)
    | node => .error (node.mismatch what)
  value j :=
    let what := "struct " ++ name
    match j with
    | .array items =>
      let expected := withElements what fields.value.count
      (fields.value.ofItems ⟨none, fun i => (Problem.invalidLength i expected).placeless⟩
        (fun rest => if rest.isEmpty then .ok () else
          .error (Problem.invalidLength items.length "fewer elements in array").placeless)
        items).mapError Fault.problem
    | .object members => (fields.value.ofMembers members).mapError Fault.problem
    | j => .error (mismatch what j)

end Decoder
end Checkout.Json
