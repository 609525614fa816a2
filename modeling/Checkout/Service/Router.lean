import Checkout.Service.App

/-! The places that the service answers at, the methods that each takes, and the answers. A path
has to match exactly; what follows a question mark does not belong to it. -/
namespace Checkout.Service

open Checkout.Http (Response Network)

/-- A request to the service. -/
structure Incoming where
  method : String
  path : String
  body : List UInt8
  deriving DecidableEq, Repr

/-- A place that the service answers at. -/
inductive Route where
  | health
  | webhooks
  | acceptanceToken
  | metrics
  deriving DecidableEq, Repr

namespace Route

/-- The path of a place. -/
def path : Route → String
  | .health => "/healthz"
  | .webhooks => "/webhooks"
  | .acceptanceToken => "/acceptance-token"
  | .metrics => "/metrics"

/-- All places. -/
def all : List Route := [.health, .webhooks, .acceptanceToken, .metrics]

/-- The place of a path. -/
def ofPath? (path : String) : Option Route := all.find? (·.path == path)

/-- The methods that a place takes. What can be got can also be asked for without its body. -/
def methods : Route → List String
  | .health => ["GET", "HEAD"]
  | .webhooks => ["POST"]
  | .acceptanceToken => ["GET", "HEAD", "POST"]
  | .metrics => ["GET", "HEAD"]

@[simp] theorem ofPath?_path (r : Route) : ofPath? r.path = some r := by
  cases r <;> decide +kernel

end Route

/-- The largest body of a webhook. -/
def largestBody : Nat := 2097152

/-- A path without what follows it in an address. -/
def barePath (path : String) : String :=
  String.ofList (path.toList.takeWhile fun c => c != '?' && c != '#')

/-- The answer to a method that a place does not take. -/
def methodNotAllowed (r : Route) : Response :=
  { Response.empty 405 with allow := some (",".intercalate r.methods) }

/-- The answer to a webhook that is too large. -/
def tooLarge : Response :=
  .plain 413 "Failed to buffer the request body: length limit exceeded"

namespace App

/-- Takes a webhook and counts its outcome. -/
def takeWebhook (app : App) (body : List UInt8) : Effect Response :=
  let e := app.deliver body
  { e with
    answer := .plain e.answer.status e.answer.body
    metrics := app.metrics.recordWebhook e.answer.label }

/-- Looks up the token of acceptance and counts the result. -/
def lookUpToken (app : App) (net : Network) : Effect Response :=
  let e := app.gateway.client.acceptanceToken net
  match e.result with
  | .ok token =>
    ⟨.json 200 token.toJson, e.sent, [], e.events, app.metrics.recordAcceptance true⟩
  | .error error =>
    let noted : Log.Event :=
      ⟨.warn, .handlers, "Acceptance token unavailable", [("error", error.message)]⟩
    ⟨(ApiError.badRequest "acceptance_token_unavailable" (some error.message)).toResponse,
      e.sent, [], e.events ++ [noted], app.metrics.recordAcceptance false⟩

/-- The answer of a place to a method that it takes. -/
def answer (app : App) (net : Network) (r : Route) (body : List UInt8) : Effect Response :=
  match r with
  | .health => app.idle (.plain 200 "ok")
  | .metrics => app.idle
      { Response.plain 200 app.metrics.render with contentType := some "text/plain; version=0.0.4" }
  | .acceptanceToken => app.lookUpToken net
  | .webhooks => if largestBody < body.length then app.idle tooLarge else app.takeWebhook body

/-- The answer to a request. -/
def handle (app : App) (net : Network) (r : Incoming) : Effect Response :=
  match Route.ofPath? (barePath r.path) with
  | none => app.idle (.empty 404)
  | some route =>
    if r.method ∈ route.methods then
      let e := app.answer net route r.body
      if r.method = "HEAD" then { e with answer := e.answer.headOnly } else e
    else app.idle (methodNotAllowed route)

end App
end Checkout.Service
