import Checkout.Json.Decoder

/-! The kinds of payment that the gateway offers, with the names it knows them by, the entries
that a description of such a payment must have, and what can be done with a payment afterwards. -/
namespace Checkout

/-- A kind of payment. -/
inductive PaymentKind where
  | card
  | nequi
  | pse
  | bancolombiaTransfer
  | bancolombiaCollect
  deriving DecidableEq, Repr

namespace PaymentKind

/-- The gateway's name of a kind. -/
def name : PaymentKind → String
  | .card => "CARD"
  | .nequi => "NEQUI"
  | .pse => "PSE"
  | .bancolombiaTransfer => "BANCOLOMBIA_TRANSFER"
  | .bancolombiaCollect => "BANCOLOMBIA_COLLECT"

/-- The kinds on offer, in the order in which a storefront lists them. -/
def active : List PaymentKind := [.card, .bancolombiaTransfer, .nequi, .pse, .bancolombiaCollect]

/-- The kind of a name; letter case counts. -/
def ofName? (s : String) : Option PaymentKind := active.find? (·.name == s)

/-- The entries that a description has to have, `type` included. -/
def requiredFields : PaymentKind → List String
  | .card => ["type", "token"]
  | .nequi => ["type", "phone_number"]
  | .pse => ["type", "user_type", "user_legal_id_type", "user_legal_id",
      "financial_institution_code", "payment_description"]
  | .bancolombiaTransfer => ["type", "user_type", "payment_description"]
  | .bancolombiaCollect => ["type"]

/-- Whether a payment of this kind can be voided. -/
def supportsVoid : PaymentKind → Bool
  | .card => true
  | _ => false

/-- Whether a payment of this kind can be refunded; none can. -/
def supportsRefund : PaymentKind → Bool := fun _ => false

/-- Every kind with its name, in the order of the kinds. -/
def names : List (String × PaymentKind) :=
  [("CARD", .card), ("NEQUI", .nequi), ("PSE", .pse),
    ("BANCOLOMBIA_TRANSFER", .bancolombiaTransfer), ("BANCOLOMBIA_COLLECT", .bancolombiaCollect)]

/-- Reads a kind by its name. -/
def decoder : Json.Decoder PaymentKind := .oneOf names

/-- A kind as JSON. -/
def toJson (k : PaymentKind) : Json := .string k.name

@[simp] theorem ofName?_name (k : PaymentKind) : ofName? k.name = some k := by
  cases k <;> decide +kernel

/-- A text names a kind exactly if it is that kind's name. -/
theorem ofName?_eq_some_iff {s : String} {k : PaymentKind} : ofName? s = some k ↔ s = k.name := by
  constructor
  · intro h
    have := List.find?_some h
    simpa using (beq_iff_eq.1 this).symm
  · rintro rfl
    exact ofName?_name k

theorem names_lookup (s : String) : names.lookup s = ofName? s := by
  have beq_comm (a b : String) : (a == b) = (b == a) := by
    rw [Bool.eq_iff_iff, beq_iff_eq, beq_iff_eq, eq_comm]
  by_cases h : ∃ k : PaymentKind, s = k.name
  · obtain ⟨k, rfl⟩ := h
    cases k <;> decide +kernel
  · have none₁ : ofName? s = none := by
      cases e : ofName? s with
      | none => rfl
      | some k => exact absurd ⟨k, ofName?_eq_some_iff.1 e⟩ h
    have ne (k : PaymentKind) : (s == k.name) = false := by
      simpa using fun e => h ⟨k, e⟩
    rw [none₁]
    simp only [names, List.lookup_cons, List.lookup_nil]
    simp [show (s == "CARD") = false from ne .card, show (s == "NEQUI") = false from ne .nequi,
      show (s == "PSE") = false from ne .pse,
      show (s == "BANCOLOMBIA_TRANSFER") = false from ne .bancolombiaTransfer,
      show (s == "BANCOLOMBIA_COLLECT") = false from ne .bancolombiaCollect]

end PaymentKind
end Checkout
