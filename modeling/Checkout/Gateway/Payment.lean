import Checkout.Gateway.Client

/-! The operations that a host platform performs on a payment. None of them fails: what goes wrong
comes back as an unsuccessful answer that carries the wording of the error and the payment's own
data. -/
namespace Checkout.Gateway

open Checkout.Http (Network)
open Checkout.Log (Event Level)
open Checkout.Money (Cents Decimal)

/-- A payment as the host platform knows it. The token is the id of its transaction at the gateway,
once there is one. -/
structure Payment where
  token : Option String
  amount : Decimal
  currency : String
  customerEmail : String
  customerId : Option String
  reference : String
  shipping : Option HostAddress
  extra : PaymentExtra

namespace Payment

/-- The kind of a payment, if its description names one. -/
def kind? (p : Payment) : Option PaymentKind := p.extra.paymentMethod.bind Descriptor.kind?

/-- The draft of a payment whose amount in cents is known. -/
def draft (p : Payment) (amount : Cents) : Draft where
  acceptanceToken := p.extra.acceptanceToken
  amount := some amount
  currency := some defaultCurrency
  customerEmail := some p.customerEmail
  reference := some p.reference
  paymentMethod := p.extra.paymentMethod
  shippingAddress := p.shipping.map .ofHost

end Payment

/-- The answer to a host platform. -/
structure Outcome where
  isSuccess : Bool
  actionRequired : Bool
  transactionId : Option String
  amount : Decimal
  currency : String
  error : Option String
  kind : TransactionKind
  rawResponse : Json
  customerId : Option String

namespace Outcome

/-- The answer that shows a transaction of the gateway. -/
def ofTransaction (t : Transaction) (kind : TransactionKind) (success : Bool)
    (customerId : Option String) : Outcome where
  isSuccess := success
  actionRequired := t.isPending
  transactionId := some t.id
  amount := t.amount.toDecimal
  currency := t.currency
  error := none
  kind := kind
  rawResponse := t.toJson.normal
  customerId := customerId

/-- The answer that shows an error. -/
def ofError (p : Payment) (kind : TransactionKind) (e : GatewayError) : Outcome where
  isSuccess := false
  actionRequired := false
  transactionId := p.token
  amount := p.amount.toTwoPlaces
  currency := p.currency
  error := some e.message
  kind := kind
  rawResponse := .object []
  customerId := p.customerId

/-- An answer as JSON; the amount is a text. -/
def toJson (o : Outcome) : Json :=
  .object [("is_success", .bool o.isSuccess), ("action_required", .bool o.actionRequired),
    ("transaction_id", Json.optional .string o.transactionId),
    ("amount", .string o.amount.toText), ("currency", .string o.currency),
    ("error", Json.optional .string o.error), ("kind", o.kind.toJson),
    ("raw_response", o.rawResponse), ("customer_id", Json.optional .string o.customerId)]

end Outcome

/-- The gateway as a host platform uses it. -/
structure Service where
  client : Client
  config : Config
  deriving DecidableEq, Repr

namespace Service

/-- The gateway of a configuration. -/
def ofConfig (config : Config) : Except GatewayError Service :=
  (Client.ofConfig config).map fun client => ⟨client, config⟩

/-- The step that authorizing a payment is recorded as. -/
def authorizeKind (s : Service) : TransactionKind :=
  if s.config.autoCapture then .capture else .auth

/-- What is noted about the work on the gateway. -/
def event (level : Level) (message : String) (fields : List (String × String)) : Event :=
  ⟨level, .gateway, message, fields⟩

/-- Creates the transaction of a payment. -/
def createFor (s : Service) (net : Network) (p : Payment) : Attempt Transaction :=
  match p.amount.toCents with
  | .error e =>
    .unsent (.error (.amount e))
      [⟨.warn, .money, "amount out of range for minor units", [("amount", e.amount.toText)]⟩]
  | .ok cents =>
    match (p.draft cents).build with
    | .error e => .unsent (.error e) []
    | .ok request => s.client.create net request

/-- Starts a payment at the gateway. -/
def authorize (s : Service) (net : Network) (p : Payment) : Exchange Outcome :=
  let kind := s.authorizeKind
  let noted := (s.createFor net p).note fun
    | .ok t => [event .info "Wompi transaction authorized"
        [("transaction_id", t.id), ("status", t.status.name), ("reference", p.reference)]]
    | .error e => [event .warn "Wompi authorize failed"
        [("error", e.message), ("reference", p.reference)]]
  noted.map fun
    | .ok t => .ofTransaction t kind true p.customerId
    | .error e => .ofError p kind e

/-- Processing a payment is authorizing it. -/
def processPayment (s : Service) (net : Network) (p : Payment) : Exchange Outcome :=
  s.authorize net p

/-- Looks whether a payment was approved. -/
def capture (s : Service) (net : Network) (p : Payment) : Exchange Outcome :=
  match p.token with
  | none => .unsent (.ofError p .capture (.missingFields "capture" ["token"])) []
  | some id =>
    let noted := (s.client.retrieve net id).note fun
      | .ok _ => []
      | .error e => [event .warn "Wompi capture failed"
          [("error", e.message), ("transaction_id", id)]]
    noted.map fun
      | .ok t => .ofTransaction t .capture t.isApproved none
      | .error e => .ofError p .capture e

/-- Voids the transaction of a payment. The kind of the payment is looked for first, then the
token. -/
def voidFor (s : Service) (net : Network) (p : Payment) : Attempt Transaction :=
  match p.kind?, p.token with
  | none, _ => .unsent (.error (.unsupportedPaymentType "unknown")) []
  | some _, none => .unsent (.error (.missingFields "void" ["token"])) []
  | some kind, some id => s.client.void net id kind

/-- Voids a payment. -/
def void (s : Service) (net : Network) (p : Payment) : Exchange Outcome :=
  let noted := (s.voidFor net p).note fun
    | .ok t => [event .info "Wompi transaction voided"
        [("transaction_id", t.id), ("status", t.status.name)]]
    | .error e =>
      if e.isCapability then [event .info "Wompi void not available" [("error", e.message)]]
      else [event .warn "Wompi void failed" [("error", e.message)]]
  noted.map fun
    | .ok t => .ofTransaction t .void true none
    | .error e => .ofError p .void e

/-- Refuses to refund a payment; the gateway cannot do it. -/
def refund (_s : Service) (p : Payment) : Exchange Outcome :=
  .unsent (.ofError p .refund .refundUnsupported) <|
    match p.kind?.filter (!·.supportsRefund) with
    | none => []
    | some kind => [event .info "Wompi refund requested for non-refundable payment"
        [("payment_type", kind.name), ("transaction_id", p.token.getD "")]]

@[simp] theorem sent_refund (s : Service) (p : Payment) : (s.refund p).sent = [] := rfl

end Service
end Checkout.Gateway
