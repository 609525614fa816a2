import Checkout.Service.Router
import Checkout.Gateway.Token

/-! Everything that can be asked of a running service, one step after the other. A step sees only
what the counters hold from the steps before it. -/
namespace Checkout.Service

open Checkout.Http (Response Network)
open Checkout.Gateway (Payment Endpoint KeyKind)

/-- The operations of a host platform. -/
inductive HostOperation where
  | authorize
  | processPayment
  | capture
  | void
  | refund
  deriving DecidableEq, Repr

/-- Something that is asked of a running service. -/
inductive Step where
  | http (request : Incoming)
  | processWebhook (body : List UInt8)
  | webhookCount (label : String)
  | recordWebhook (label : String)
  | recordAcceptance (ok : Bool)
  | host (operation : HostOperation) (payment : Payment)
  | supportedCurrencies
  | clientToken (random : List UInt8)
  | describe (id : String)
  | tokenizeCard (card : Card)
  | institutions
  | acceptanceToken
  | createTransaction (draft : Draft)
  | retrieveTransaction (id : String)
  | voidTransaction (id : String) (kindName : String)

/-- What the service knows about its access to the gateway. -/
structure Description where
  baseUrl : String
  publicHeader : String
  privateHeader : String
  endpoints : List Endpoint
  urls : List String

/-- The answer to a step. -/
inductive Answer where
  | response (r : Response)
  | webhook (o : Webhook.Outcome)
  | count (n : Nat)
  | done
  | payment (o : Gateway.Outcome)
  | currencies (codes : List String)
  | token (s : String)
  | description (d : Description)
  | reply (r : Except GatewayError Json)

namespace App

/-- What the service knows about its access to the gateway, shown for one transaction. -/
def description (app : App) (id : String) : Description :=
  let client := app.gateway.client
  let endpoints := [Endpoint.tokenizeCard, .retrieve id, .void id]
  ⟨client.baseUrl, client.authorization .publicKey, client.authorization .privateKey, endpoints,
    endpoints.map client.urlFor⟩

/-- A host operation on a payment. -/
def perform (app : App) (net : Network) (p : Payment) :
    HostOperation → Gateway.Exchange Gateway.Outcome
  | .authorize => app.gateway.authorize net p
  | .processPayment => app.gateway.processPayment net p
  | .capture => app.gateway.capture net p
  | .void => app.gateway.void net p
  | .refund => app.gateway.refund p

/-- The reply to an operation on the gateway, as JSON. -/
def replied (app : App) (e : Gateway.Attempt α) (encode : α → Json) : Effect Answer :=
  app.exchanged (e.map fun r => .reply (r.map encode))

/-- Creates a transaction from a draft, which is built first. -/
def createFrom (app : App) (net : Network) (d : Draft) : Gateway.Attempt Transaction :=
  match d.build with
  | .error e => .unsent (.error e) []
  | .ok r => app.gateway.client.create net r

/-- Voids a transaction whose kind of payment is given by name. -/
def voidNamed (app : App) (net : Network) (id kindName : String) : Gateway.Attempt Transaction :=
  match PaymentKind.ofName? kindName with
  | none => .unsent (.error (.unsupportedPaymentType kindName)) []
  | some kind => app.gateway.client.void net id kind

/-- The effect of an answer of another type. -/
def answered (f : α → Answer) (e : Effect α) : Effect Answer :=
  ⟨f e.answer, e.sent, e.applied, e.events, e.metrics⟩

/-- What a step does. -/
def step (app : App) (net : Network) : Step → Effect Answer
  | .http r => answered .response (app.handle net r)
  | .processWebhook body => answered .webhook (app.deliver body)
  | .webhookCount label =>
    let m := app.metrics.askWebhook label
    counting (.count (m.webhookCount label)) m
  | .recordWebhook label =>
    let m := app.metrics.recordWebhook label
    counting (.count (m.webhookCount label)) m
  | .recordAcceptance ok => counting .done (app.metrics.recordAcceptance ok)
  | .host operation p => app.exchanged ((app.perform net p operation).map .payment)
  | .supportedCurrencies => app.idle (.currencies app.config.supportedCurrencies)
  | .clientToken random => app.idle (.token (Gateway.clientToken random))
  | .describe id => app.idle (.description (app.description id))
  | .tokenizeCard card => app.replied (app.gateway.client.tokenizeCard net card) CardToken.toJson
  | .institutions =>
    app.replied (app.gateway.client.institutions net) fun list => .array (list.map Institution.toJson)
  | .acceptanceToken =>
    app.replied (app.gateway.client.acceptanceToken net) AcceptanceToken.toJson
  | .createTransaction d => app.replied (app.createFrom net d) Transaction.toJson
  | .retrieveTransaction id => app.replied (app.gateway.client.retrieve net id) Transaction.toJson
  | .voidTransaction id kindName => app.replied (app.voidNamed net id kindName) Transaction.toJson

/-- The service after a step. -/
def after (app : App) (net : Network) (s : Step) : App :=
  { app with metrics := (app.step net s).metrics }

/-- The effects of steps in their order, each with the network that it meets. -/
def run (app : App) : List (Network × Step) → List (Effect Answer)
  | [] => []
  | (net, s) :: rest => app.step net s :: (app.after net s).run rest

@[simp] theorem length_run (app : App) (steps : List (Network × Step)) :
    (app.run steps).length = steps.length := by
  induction steps generalizing app with
  | nil => rfl
  | cons s rest ih => simp [run, ih]

@[simp] theorem gateway_after (app : App) (net : Network) (s : Step) :
    (app.after net s).gateway = app.gateway := rfl

@[simp] theorem config_after (app : App) (net : Network) (s : Step) :
    (app.after net s).config = app.config := rfl

end App
end Checkout.Service
