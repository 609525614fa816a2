import Checkout.Payment.Descriptor
import Checkout.Transaction.Address
import Checkout.Text.Blank

/-! Transactions before they are created: what the host has gathered, and the request that is sent
once everything required is there. -/
namespace Checkout

open Checkout.Money (Cents)

/-- What the host has gathered for a transaction. -/
structure Draft where
  acceptanceToken : Option String
  amount : Option Cents
  currency : Option String
  customerEmail : Option String
  reference : Option String
  paymentMethod : Option Json
  shippingAddress : Option ShippingAddress

/-- A transaction that can be created. -/
structure TransactionRequest where
  acceptanceToken : String
  amount : Cents
  currency : String
  customerEmail : String
  reference : String
  paymentMethod : PaymentMethod
  shippingAddress : Option ShippingAddress
  deriving DecidableEq, Repr

namespace TransactionRequest

/-- A request as JSON; the address is a member only if there is one. -/
def toJson (r : TransactionRequest) : Json :=
  .object ([("acceptance_token", .string r.acceptanceToken),
    ("amount_in_cents", .whole (.ofCents r.amount)), ("currency", .string r.currency),
    ("customer_email", .string r.customerEmail), ("reference", .string r.reference),
    ("payment_method", r.paymentMethod.toJson)] ++
    match r.shippingAddress with
    | none => []
    | some address => [("shipping_address", address.toJson)])

end TransactionRequest

namespace Draft

/-- A text that is there and not blank. -/
def nonBlank (s : Option String) : Option String := s.filter (!Text.isBlankText ·)

/-- A description of a payment other than null. -/
def nonNull (j : Option Json) : Option Json := j.filter (!Json.isNull ·)

/-- The required entries with whether they are there. -/
def presence (d : Draft) : List (String × Bool) :=
  [("acceptance_token", (nonBlank d.acceptanceToken).isSome), ("amount_in_cents", d.amount.isSome),
    ("currency", (nonBlank d.currency).isSome), ("customer_email", (nonBlank d.customerEmail).isSome),
    ("reference", (nonBlank d.reference).isSome), ("payment_method", (nonNull d.paymentMethod).isSome)]

/-- The required entries that are missing. -/
def missing (d : Draft) : List String := (d.presence.filter (!·.2)).map Prod.fst

/-- The request that a draft stands for. Missing entries are reported together and before the
description of the payment is looked at. -/
def build (d : Draft) : Except GatewayError TransactionRequest :=
  match nonBlank d.acceptanceToken, d.amount, nonBlank d.currency, nonBlank d.customerEmail,
      nonBlank d.reference, nonNull d.paymentMethod with
  | some acceptanceToken, some amount, some currency, some customerEmail, some reference,
      some descriptor =>
    match Descriptor.toMethod descriptor with
    | .error e => .error e
    | .ok paymentMethod =>
      .ok { acceptanceToken, amount, currency, customerEmail, reference, paymentMethod,
            shippingAddress := d.shippingAddress }
  | _, _, _, _, _, _ => .error (.missingFields "transaction" d.missing)

end Draft
end Checkout
