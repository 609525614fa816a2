import Checkout.Gateway.Endpoint
import Checkout.Transaction.Card
import Checkout.Transaction.Draft
import Checkout.Transaction.Merchant
import Checkout.Config
import Checkout.Log

/-! Talking to the payment gateway. An operation checks what it can check itself before it sends
its one request, and what comes back is either the wanted record or one of the errors that the
answer stands for. Along with its result an operation tells which requests it sent and what it
noted. -/
namespace Checkout.Gateway

open Checkout.Http (Network Request Reply TransportFailure)
open Checkout.Json (Decoder)
open Checkout.Log (Event)

/-- A merchant's access to the gateway. -/
structure Client where
  baseUrl : String
  publicKey : String
  privateKey : String
  deriving DecidableEq, Repr

/-- The result of an operation with the requests that it sent and the events that it noted. -/
structure Exchange (α : Type) where
  result : α
  sent : List Request
  events : List Event

namespace Exchange

variable {α β : Type}

/-- A result that needed no request. -/
def unsent (a : α) (events : List Event) : Exchange α := ⟨a, [], events⟩

/-- Changes the result. -/
def map (f : α → β) (e : Exchange α) : Exchange β := ⟨f e.result, e.sent, e.events⟩

/-- Notes more events, depending on the result. -/
def note (f : α → List Event) (e : Exchange α) : Exchange α :=
  ⟨e.result, e.sent, e.events ++ f e.result⟩

@[simp] theorem sent_unsent (a : α) (events : List Event) : (Exchange.unsent a events).sent = [] := rfl

@[simp] theorem result_unsent (a : α) (events : List Event) :
    (Exchange.unsent a events).result = a := rfl

@[simp] theorem sent_map (f : α → β) (e : Exchange α) : (e.map f).sent = e.sent := rfl

@[simp] theorem sent_note (f : α → List Event) (e : Exchange α) : (e.note f).sent = e.sent := rfl

@[simp] theorem result_map (f : α → β) (e : Exchange α) : (e.map f).result = f e.result := rfl

@[simp] theorem result_note (f : α → List Event) (e : Exchange α) :
    (e.note f).result = e.result := rfl

end Exchange

/-- An exchange that may fail. -/
abbrev Attempt (α : Type) := Exchange (Except GatewayError α)

namespace Client

/-- The text without slashes at its end. -/
def withoutSlashes (s : String) : String :=
  String.ofList ((s.toList.reverse.dropWhile (· == '/')).reverse)

/-- The access that a configuration gives; both active keys are needed. -/
def ofConfig (c : Config) : Except GatewayError Client :=
  let keys := c.activeKeys
  if keys.publicKey = "" then .error (.configuration "Invalid key for Wompi")
  else if keys.privateKey = "" then .error (.configuration "Invalid Secret for Wompi")
  else .ok ⟨withoutSlashes c.baseUrl, keys.publicKey, keys.privateKey⟩

/-- The address of an endpoint. -/
def urlFor (c : Client) (e : Endpoint) : String := c.baseUrl ++ "/" ++ e.path

/-- The authorization that goes with a key. -/
def authorization (c : Client) : KeyKind → String
  | .publicKey => "Bearer " ++ c.publicKey
  | .privateKey => "Bearer " ++ c.privateKey

/-- The request to an endpoint. -/
def request (c : Client) (e : Endpoint) (body : Option Json) : Except TransportFailure Request :=
  Request.build e.method (c.urlFor e) (c.authorization e.key) (body.map Json.render)

/-- The result that an answer stands for. -/
def conclude (net : Network) (e : Endpoint) (d : Decoder α) (reply : Reply) :
    Except GatewayError α :=
  if reply.isSuccess then
    match reply.bytes? with
    | none => .error (.transport .brokenBody)
    | some bytes =>
      ((envelope d).fromBytes bytes).mapError fun error =>
        .malformedReply (e.path ++ ": " ++ error.message)
  else .error (.ofStatus reply.status (reply.text net.encodings))

/-- What is noted about an answer: a status that refuses. -/
def refusal (e : Endpoint) (reply : Reply) : List Event :=
  if reply.isSuccess then []
  else [⟨.warn, .client, "Wompi request failed",
    [("status", toString reply.status), ("path", e.path)]⟩]

/-- Sends a request to an endpoint and reads the record in the answer's envelope. This is the only
request: a reply leads to no other one, since it does not redirect. -/
def send (c : Client) (net : Network) (e : Endpoint) (body : Option Json) (d : Decoder α) :
    Attempt α :=
  let start : Event := ⟨.debug, .client, "Wompi request",
    [("method", e.method.name), ("path", e.path), ("key", e.key.name)]⟩
  match c.request e body with
  | .error failure => ⟨.error (.transport failure), [], [start]⟩
  | .ok request =>
    match net.deliver request with
    | none => ⟨.error (.transport (.unanswered request.url.toText)), [request], [start]⟩
    | some reply => ⟨conclude net e d reply, [request], start :: refusal e reply⟩

/-- Turns a card into a token, if none of its details is blank. -/
def tokenizeCard (c : Client) (net : Network) (card : Card) : Attempt CardToken :=
  match card.validate with
  | .error e => .unsent (.error e) []
  | .ok _ => c.send net .tokenizeCard (some card.toJson) CardToken.decoder

/-- The institutions that a bank transfer can come from. -/
def institutions (c : Client) (net : Network) : Attempt (List Institution) :=
  c.send net .institutions none (.list Institution.decoder)

/-- The token by which a customer accepts the merchant's terms. -/
def acceptanceToken (c : Client) (net : Network) : Attempt AcceptanceToken :=
  c.send net (.merchant c.publicKey) none merchantData

/-- Creates a transaction. -/
def create (c : Client) (net : Network) (r : TransactionRequest) : Attempt Transaction :=
  (c.send net .create (some r.toJson) Transaction.decoder).note fun
    | .ok t => [⟨.debug, .client, "Wompi transaction created",
        [("transaction_id", t.id), ("status", t.status.name)]⟩]
    | .error _ => []

/-- Looks up a transaction. -/
def retrieve (c : Client) (net : Network) (id : String) : Attempt Transaction :=
  c.send net (.retrieve id) none Transaction.decoder

/-- Voids a transaction, if payments of its kind can be voided. -/
def void (c : Client) (net : Network) (id : String) (kind : PaymentKind) : Attempt Transaction :=
  if kind.supportsVoid then c.send net (.void id) none voidData
  else .unsent (.error (.operationUnsupported "void" kind)) []

end Client
end Checkout.Gateway
