import Checkout.Json.Problem

/-! The fields of a record, for any kind of value they are read from. A record is written either
as an object, whose members may stand in any order, or as an array in the order of the fields.
Members are first checked in the order in which they stand, so the first fault of the text is the
one reported; only then are absent fields looked for in the order of declaration. -/
namespace Checkout.Json

/-- What holds when a field is not there. -/
inductive Absent (α : Type) where
  /-- The field has to be there. -/
  | fault
  /-- The field may be left out of an object. -/
  | inObject (a : α)
  /-- The field may be left out of an object and at the end of an array. -/
  | anywhere (a : α)

/-- How a list of items ends for a reader that wants more of them. -/
structure Shortage where
  /-- The fault with which the list breaks off. -/
  broken : Option Fault
  /-- The fault of a list that is complete and too short. -/
  short : Nat → Fault

/-- A reader of several fields from values of type `σ`. -/
structure Slots (σ : Type) (α : Type) where
  checks : List (String × (σ → Except Fault Unit))
  named : (String → Option σ) → Except Fault α
  listed : Shortage → Nat → List σ → Except Fault (α × Nat × List σ)

namespace Slots

variable {σ α β : Type}

/-- Reads no field. -/
def pure (a : α) : Slots σ α := ⟨[], fun _ => .ok a, fun _ i items => .ok (a, i, items)⟩

/-- Changes the result. -/
def map (f : α → β) (s : Slots σ α) : Slots σ β :=
  ⟨s.checks, fun get => (s.named get).map f,
    fun shortage i items => (s.listed shortage i items).map fun (a, rest) => (f a, rest)⟩

/-- Reads some fields and then others. -/
def seq (f : Slots σ (α → β)) (s : Slots σ α) : Slots σ β where
  checks := f.checks ++ s.checks
  named get := do
    let g ← f.named get
    let a ← s.named get
    return g a
  listed shortage i items := do
    let (g, i, items) ← f.listed shortage i items
    let (a, rest) ← s.listed shortage i items
    return (g a, rest)

instance : Functor (Slots σ) := ⟨Slots.map, fun a s => Slots.map (fun _ => a) s⟩

instance : Seq (Slots σ) := ⟨fun f s => Slots.seq f (s ())⟩

/-- What a field is when an object does not have it. -/
def whenAbsent (name : String) : Absent α → Except Fault α
  | .fault => .error (Problem.missingField name).placeless
  | .inObject a => .ok a
  | .anywhere a => .ok a

/-- What a field is when an array ends in front of it. -/
def whenExhausted (shortage : Shortage) (i : Nat) : Absent α → Except Fault α
  | absent =>
    match shortage.broken, absent with
    | some fault, _ => .error fault
    | none, .anywhere a => .ok a
    | none, _ => .error (shortage.short i)

/-- One field. -/
def field (name : String) (read : σ → Except Fault α) (absent : Absent α) : Slots σ α where
  checks := [(name, fun s => (read s).map fun _ => ())]
  named get :=
    match get name with
    | some s => read s
    | none => whenAbsent name absent
  listed shortage i items :=
    match items with
    | s :: rest => (read s).map fun a => (a, i + 1, rest)
    | [] => (whenExhausted shortage i absent).map fun a => (a, i + 1, [])

/-- How many fields there are. -/
def count (s : Slots σ α) : Nat := s.checks.length

@[simp] theorem count_pure (a : α) : (pure a : Slots σ α).count = 0 := rfl

@[simp] theorem count_map (f : α → β) (s : Slots σ α) : (s.map f).count = s.count := rfl

@[simp] theorem count_seq (f : Slots σ (α → β)) (s : Slots σ α) :
    (f.seq s).count = f.count + s.count := List.length_append

@[simp] theorem count_field (name : String) (read : σ → Except Fault α) (absent : Absent α) :
    (field name read absent).count = 1 := rfl

end Slots

/-- The count of elements as an error text names it. -/
def elements (n : Nat) : String := toString n ++ (if n = 1 then " element" else " elements")

/-- A record as an error text names it when its length is wrong. -/
def withElements (what : String) (n : Nat) : String := what ++ " with " ++ elements n

end Checkout.Json
