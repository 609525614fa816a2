import Checkout.Webhook.Signature
import Checkout.Transaction.Merchant
import Checkout.Config
import Checkout.Log

/-! What becomes of a webhook. Its body is parsed, its checksum is compared under the secret of the
environment that it names, and only an update of a transaction is handed to the host's orders. -/
namespace Checkout.Webhook

open Checkout.Log (Event)

/-- What the host does with an order after an update. -/
inductive OrderAction where
  | acknowledge
  | captureAndAdvance
  | hold
  deriving DecidableEq, Repr

namespace OrderAction

/-- The name of an action. -/
def name : OrderAction → String
  | .acknowledge => "acknowledge"
  | .captureAndAdvance => "capture_and_advance"
  | .hold => "hold"

/-- The action that a state calls for. -/
def ofStatus : TransactionStatus → OrderAction
  | .pending => .acknowledge
  | .approved => .captureAndAdvance
  | .declined => .hold
  | .voided => .hold
  | .error => .hold

end OrderAction

/-- The host's orders: what they do with an update, the reason if they fail. -/
abbrev Orders := Transaction → OrderAction → Except String (List Event)

/-- Orders that only note what they are told. -/
def Orders.logging : Orders := fun t action =>
  .ok [⟨.info, .webhook, "Wompi transaction update",
    [("transaction_id", t.id), ("reference", t.reference.getD ""), ("status", t.status.name),
      ("amount_in_cents", toString t.amount.count), ("action", action.name)]⟩]

/-- Orders that refuse the transactions of some ids, of all ids if `*` is among them. -/
def Orders.refusing (ids : List String) : Orders := fun t _ =>
  if "*" ∈ ids ∨ t.id ∈ ids then .error "order store unavailable" else .ok []

/-- What became of a webhook. -/
inductive Outcome where
  | malformed
  | invalidChecksum
  | ignored
  | dispatched (action : OrderAction)
  | degraded
  deriving DecidableEq, Repr

namespace Outcome

/-- The name under which an outcome is counted. -/
def label : Outcome → String
  | .malformed => "malformed"
  | .invalidChecksum => "invalid_checksum"
  | .ignored => "ignored"
  | .dispatched _ => "dispatched"
  | .degraded => "degraded"

/-- The action that was taken. -/
def action? : Outcome → Option OrderAction
  | .dispatched action => some action
  | _ => none

/-- The status of the answer: only a wrong checksum is refused. -/
def status : Outcome → Nat
  | .invalidChecksum => 400
  | _ => 200

/-- The text of the answer. -/
def body : Outcome → String
  | .invalidChecksum => "Invalid Checksum."
  | _ => "[accepted]"

end Outcome

/-- The event that is acted on; every other one is ignored. -/
def transactionUpdated : String := "transaction.updated"

/-- What was done with a webhook: the outcome, the call on the host's orders if there was one, and
the events noted. -/
structure Delivery where
  outcome : Outcome
  call : Option (Transaction × OrderAction)
  events : List Event

/-- The update that the orders took, none if they were not called or failed. -/
def Delivery.applied (d : Delivery) : List (OrderAction × Transaction) :=
  match d.outcome, d.call with
  | .dispatched _, some (t, action) => [(action, t)]
  | _, _ => []

/-- An outcome without a call. -/
def Delivery.quiet (outcome : Outcome) (level : Log.Level) (message : String)
    (fields : List (String × String)) : Delivery :=
  ⟨outcome, none, [⟨level, .webhook, message, fields⟩]⟩

/-- The environment that an event names. -/
def environment (payload : Json) : Environment :=
  .ofWebhook ((payload.get? "environment").bind Json.string?)

/-- The name of an event, empty if it has none. -/
def eventName (payload : Json) : String := ((payload.get? "event").bind Json.string?).getD ""

/-- Hands an update to the host's orders. -/
def dispatch (orders : Orders) (t : Transaction) : Delivery :=
  let action := OrderAction.ofStatus t.status
  match orders t action with
  | .ok events => ⟨.dispatched action, some (t, action), events⟩
  | .error reason =>
    ⟨.degraded, some (t, action), [⟨.warn, .webhook, "Failed to apply Wompi transaction update",
      [("error", reason), ("transaction_id", t.id)]⟩]⟩

/-- What becomes of an event that carries a checksum under its secret. -/
def accept (orders : Orders) (payload : Json) : Delivery :=
  if eventName payload ≠ transactionUpdated then
    .quiet .ignored .info "Ignoring Wompi webhook event" [("event", eventName payload)]
  else
    match payload.get? "data" with
    | none => .quiet .degraded .warn "Wompi transaction update without data" []
    | some data =>
      match updateData.value data with
      | .ok t => dispatch orders t
      | .error problem =>
        .quiet .degraded .warn "Cannot decode Wompi transaction update" [("error", problem.message)]

/-- What becomes of an event. -/
def judge (keys : Environment → KeySet) (orders : Orders) (payload : Json) : Delivery :=
  if verifies payload (keys (environment payload)).eventKey then accept orders payload
  else
    .quiet .invalidChecksum .warn "Wompi webhook checksum mismatch"
      [("environment", (environment payload).name)]

/-- What becomes of the body of a webhook. -/
def process (config : Config) (orders : Orders) (body : List UInt8) : Delivery :=
  match Json.parseBytes body with
  | .ok payload => judge config.keys orders payload
  | .error e =>
    .quiet .malformed .warn "Cannot parse Wompi webhook body" [("error", e.message)]

@[simp] theorem status_eq_400_iff (o : Outcome) : o.status = 400 ↔ o = .invalidChecksum := by
  cases o <;> simp [Outcome.status]

end Checkout.Webhook
