import Checkout.Number.Shortest
import Checkout.Money.Cents

/-! JSON values. Whole numbers from -2^63 up to 2^64 - 1 are kept as they are and every other number
is a floating-point number. An object is a list of members in the order in which they were written,
repetitions included; `Json.normal` gives the value that such a text stands for, where the last of
several members of one name counts and members are sorted by name. -/
namespace Checkout

open Checkout.Number (Binary64)

/-- A whole number that is not turned into a floating-point number. -/
structure WholeNumber where
  val : Int
  fits : -9223372036854775808 ≤ val ∧ val < 18446744073709551616
  deriving DecidableEq, Repr

namespace WholeNumber

/-- The number as it is, if it is in range. -/
def ofInt? (n : Int) : Option WholeNumber :=
  if h : -9223372036854775808 ≤ n ∧ n < 18446744073709551616 then some ⟨n, h⟩ else none

/-- A count of cents. -/
def ofCents (c : Money.Cents) : WholeNumber := ⟨c.count, c.fits.1, by have := c.fits.2; omega⟩

/-- A word of eight bits. -/
def ofUInt8 (n : UInt8) : WholeNumber := ⟨n.toNat, by have := n.toNat_lt; omega⟩

/-- A word of thirty-two bits. -/
def ofUInt32 (n : UInt32) : WholeNumber := ⟨n.toNat, by have := n.toNat_lt; omega⟩

@[simp] theorem ofInt?_val (n : WholeNumber) : ofInt? n.val = some n := dif_pos n.fits

end WholeNumber

/-- A JSON number. -/
inductive JsonNumber where
  | whole (n : WholeNumber)
  | float (x : Binary64)
  deriving DecidableEq, Repr

/-- A JSON value. -/
inductive Json where
  | null
  | bool (b : Bool)
  | number (n : JsonNumber)
  | string (s : String)
  | array (items : List Json)
  | object (members : List (String × Json))
  deriving Inhabited

namespace Json

/-- A whole number as a value. -/
def whole (n : WholeNumber) : Json := .number (.whole n)

/-- What is there, or null. -/
def optional (f : α → Json) : Option α → Json
  | none => .null
  | some a => f a

/-- A value that is there, or null. -/
def orNull (j : Option Json) : Json := j.getD .null

/-- Puts a member in front of sorted members, unless one of its name is there already. -/
def place (name : String) (value : Json) : List (String × Json) → List (String × Json)
  | [] => [(name, value)]
  | (k, v) :: rest =>
    if name < k then (name, value) :: (k, v) :: rest
    else if name = k then (k, v) :: rest
    else (k, v) :: place name value rest

/-- Members sorted by name, the last of each name kept. -/
def arrange (members : List (String × Json)) : List (String × Json) :=
  members.foldr (fun m sorted => place m.1 m.2 sorted) []

mutual

/-- The value that a written object stands for, at every depth. -/
def normal : Json → Json
  | .array items => .array (normalItems [] items)
  | .object members => .object (arrange (normalMembers [] members))
  | j => j

/-- Items in reverse behind their normal forms. -/
def normalItems (done : List Json) : List Json → List Json
  | [] => done.reverse
  | item :: rest => normalItems (item.normal :: done) rest

/-- Members in reverse behind their normal forms. -/
def normalMembers (done : List (String × Json)) : List (String × Json) → List (String × Json)
  | [] => done.reverse
  | (name, value) :: rest => normalMembers ((name, value.normal) :: done) rest

end

/-- The member of a name, if the value is an object that has one. -/
def get? (name : String) : Json → Option Json
  | .object members => members.lookup name
  | _ => none

/-- The value behind a chain of member names. -/
def path? : List String → Json → Option Json
  | [], j => some j
  | name :: rest, j => (j.get? name).bind (path? rest)

/-- The text of a string value. -/
def string? : Json → Option String
  | .string s => some s
  | _ => none

/-- Whether the value is null. -/
def isNull : Json → Bool
  | .null => true
  | _ => false

@[simp] theorem get?_object (name : String) (members : List (String × Json)) :
    (Json.object members).get? name = members.lookup name := rfl

theorem string?_eq_some_iff {j : Json} {s : String} : j.string? = some s ↔ j = .string s := by
  cases j <;> simp [string?]

@[simp] theorem path?_nil (j : Json) : j.path? [] = some j := rfl

@[simp] theorem path?_cons (name : String) (rest : List String) (j : Json) :
    j.path? (name :: rest) = (j.get? name).bind (path? rest) := rfl

theorem path?_singleton (name : String) (j : Json) : j.path? [name] = j.get? name := by
  rw [path?_cons]
  cases j.get? name <;> rfl

theorem path?_append (names rest : List String) (j : Json) :
    j.path? (names ++ rest) = (j.path? names).bind (path? rest) := by
  induction names generalizing j with
  | nil => rfl
  | cons name names ih =>
    rw [List.cons_append, path?_cons, path?_cons, Option.bind_assoc]
    congr 1
    funext value
    exact ih value

@[simp] theorem normalItems_eq (done items : List Json) :
    normalItems done items = done.reverse ++ items.map normal := by
  induction items generalizing done with
  | nil => simp [normalItems]
  | cons item rest ih => simp [normalItems, ih]

@[simp] theorem normalMembers_eq (done members : List (String × Json)) :
    normalMembers done members = done.reverse ++ members.map fun m => (m.1, m.2.normal) := by
  induction members generalizing done with
  | nil => simp [normalMembers]
  | cons m rest ih => simp [normalMembers, ih]

end Json
end Checkout
