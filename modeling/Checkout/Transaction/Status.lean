import Checkout.Json.Decoder

/-! The states of a transaction at the gateway and the kinds of step that a host records for it. -/
namespace Checkout

/-- The state of a transaction. -/
inductive TransactionStatus where
  | pending
  | approved
  | declined
  | voided
  | error
  deriving DecidableEq, Repr

namespace TransactionStatus

/-- The gateway's name of a state. -/
def name : TransactionStatus → String
  | .pending => "PENDING"
  | .approved => "APPROVED"
  | .declined => "DECLINED"
  | .voided => "VOIDED"
  | .error => "ERROR"

/-- Every state with its name. -/
def names : List (String × TransactionStatus) :=
  [.pending, .approved, .declined, .voided, .error].map fun s => (s.name, s)

/-- Reads a state by its name. -/
def decoder : Json.Decoder TransactionStatus := .oneOf names

/-- A state as JSON. -/
def toJson (s : TransactionStatus) : Json := .string s.name

@[simp] theorem names_lookup_name (s : TransactionStatus) : names.lookup s.name = some s := by
  cases s <;> decide +kernel

end TransactionStatus

/-- The step that a host records. -/
inductive TransactionKind where
  | auth
  | capture
  | refund
  | void
  deriving DecidableEq, Repr

namespace TransactionKind

/-- The host's name of a step. -/
def name : TransactionKind → String
  | .auth => "auth"
  | .capture => "capture"
  | .refund => "refund"
  | .void => "void"

/-- Every step with its name. -/
def names : List (String × TransactionKind) :=
  [.auth, .capture, .refund, .void].map fun k => (k.name, k)

/-- Reads a step by its name. -/
def decoder : Json.Decoder TransactionKind := .oneOf names

/-- A step as JSON. -/
def toJson (k : TransactionKind) : Json := .string k.name

@[simp] theorem names_lookup_name (k : TransactionKind) : names.lookup k.name = some k := by
  cases k <;> decide +kernel

end TransactionKind
end Checkout
