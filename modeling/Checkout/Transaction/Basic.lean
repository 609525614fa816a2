import Checkout.Transaction.Status
import Checkout.Text.Blank

/-! Transactions as the gateway reports them. They are only read and written again, never changed
here, and whatever has no fixed shape is carried along as JSON. -/
namespace Checkout

open Checkout.Json (Decoder Fields Problem)
open Checkout.Money (Cents)

/-- The currency of a transaction that names none, and of every transaction that is created. -/
def defaultCurrency : String := "COP"

/-- A transaction as reported by the gateway. -/
structure Transaction where
  id : String
  createdAt : Option String
  amount : Cents
  reference : Option String
  currency : String
  paymentMethodType : Option String
  paymentMethod : Option Json
  status : TransactionStatus
  statusMessage : Option String
  customerEmail : Option String
  shippingAddress : Option Json
  redirectUrl : Option String
  paymentSourceId : Option Json
  paymentLinkId : Option Json
  customerData : Option Json
  billId : Option Json

namespace Transaction

/-- Whether the payment is still in flight. -/
def isPending (t : Transaction) : Bool := t.status = .pending

/-- Whether the payment went through. -/
def isApproved (t : Transaction) : Bool := t.status = .approved

/-- An amount of cents: a whole number, or the text of one with blanks around it. -/
def centsOfJson (j : Json) : Except Problem Cents :=
  match j with
  | .number (.whole n) =>
    match Cents.ofInt? n.val with
    | some c => .ok c
    | none => .error (.noVariant "Raw")
  | .string s =>
    match Text.Integer.read .signed64 (Text.trim s) with
    | .error fault => .error (.integer fault)
    | .ok n =>
      match Cents.ofInt? n with
      | some c => .ok c
      | none => .error (.integer .tooLarge)
  | _ => .error (.noVariant "Raw")

/-- The fields of a transaction in the order of its array form. -/
def fields : Fields Transaction :=
  Transaction.mk <$> .required "id" .string
    <*> .optional "created_at" .string
    <*> .required "amount_in_cents" (.buffered centsOfJson)
    <*> .optional "reference" .string
    <*> .withDefault "currency" .string defaultCurrency
    <*> .optional "payment_method_type" .string
    <*> .optional "payment_method" .any
    <*> .required "status" TransactionStatus.decoder
    <*> .optional "status_message" .string
    <*> .optional "customer_email" .string
    <*> .optional "shipping_address" .any
    <*> .optional "redirect_url" .string
    <*> .optional "payment_source_id" .any
    <*> .optional "payment_link_id" .any
    <*> .optional "customer_data" .any
    <*> .optional "bill_id" .any

/-- Reads a transaction. -/
def decoder : Decoder Transaction := .record "Transaction" fields

/-- A transaction as JSON; what it does not have is null. -/
def toJson (t : Transaction) : Json :=
  let text := Json.optional Json.string
  let raw := Json.orNull
  .object [("id", .string t.id), ("created_at", text t.createdAt),
    ("amount_in_cents", .whole (.ofCents t.amount)), ("reference", text t.reference),
    ("currency", .string t.currency), ("payment_method_type", text t.paymentMethodType),
    ("payment_method", raw t.paymentMethod), ("status", t.status.toJson),
    ("status_message", text t.statusMessage), ("customer_email", text t.customerEmail),
    ("shipping_address", raw t.shippingAddress), ("redirect_url", text t.redirectUrl),
    ("payment_source_id", raw t.paymentSourceId), ("payment_link_id", raw t.paymentLinkId),
    ("customer_data", raw t.customerData), ("bill_id", raw t.billId)]

end Transaction
end Checkout
