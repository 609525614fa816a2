import Checkout.Service.ApiError
import Checkout.Service.Metrics
import Checkout.Gateway.Payment
import Checkout.Webhook.Delivery

/-! The running service: its configuration, the gateway, the host's orders and the counters. Only
the counters change while it runs. -/
namespace Checkout.Service

open Checkout.Webhook (OrderAction Orders Outcome)

/-- The running service. -/
structure App where
  config : Config
  gateway : Gateway.Service
  orders : Orders
  metrics : Metrics

/-- What the service did: its answer, the requests it sent, the updates that the host's orders took,
the events it noted, and its counters afterwards. -/
structure Effect (α : Type) where
  answer : α
  sent : List Http.Request
  applied : List (OrderAction × Transaction)
  events : List Log.Event
  metrics : Metrics

namespace App

/-- The service of a configuration, with no samples counted. -/
def start (config : Config) (orders : Orders) : Except GatewayError App :=
  (Gateway.Service.ofConfig config).map fun gateway => ⟨config, gateway, orders, .empty⟩

/-- An answer without any effect. -/
def idle (app : App) (a : α) : Effect α := ⟨a, [], [], [], app.metrics⟩

/-- An answer that only changes the counters. -/
def counting (a : α) (metrics : Metrics) : Effect α := ⟨a, [], [], [], metrics⟩

/-- The effect of an exchange with the gateway. -/
def exchanged (app : App) (e : Gateway.Exchange α) : Effect α :=
  ⟨e.result, e.sent, [], e.events, app.metrics⟩

/-- What becomes of the body of a webhook. -/
def deliver (app : App) (body : List UInt8) : Effect Outcome :=
  let d := Webhook.process app.config app.orders body
  ⟨d.outcome, [], d.applied, d.events, app.metrics⟩

@[simp] theorem metrics_idle (app : App) (a : α) : (app.idle a).metrics = app.metrics := rfl

@[simp] theorem metrics_exchanged (app : App) (e : Gateway.Exchange α) :
    (app.exchanged e).metrics = app.metrics := rfl

@[simp] theorem metrics_deliver (app : App) (body : List UInt8) :
    (app.deliver body).metrics = app.metrics := rfl

end App
end Checkout.Service
