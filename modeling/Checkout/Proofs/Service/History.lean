import Checkout.Proofs.Service.Keys
import Checkout.Proofs.Webhook.Coverage

/-! What the steps before a step mean for it. A step leaves nothing behind but the counters, and only
a few steps show these. So every other step answers, sends and applies the same after any history,
and what becomes of such steps does not depend on their order. -/
namespace Checkout.Service

open Checkout.Http (Network)
open Checkout.Webhook (OrderAction)

/-- The place whose handler a request reaches: the path names it, the method is one that it takes, and
the body of a webhook is not too large. -/
def Incoming.reached? (r : Incoming) : Option Route :=
  (Route.ofPath? (barePath r.path)).filter fun route =>
    decide (r.method ∈ route.methods ∧ (route = .webhooks → r.body.length ≤ largestBody))

lemma Route.ofPath?_eq_some_iff {path : String} {place : Route} :
    ofPath? path = some place ↔ path = place.path := by
  constructor
  · intro h
    rw [ofPath?] at h
    have hfound := List.find?_some h
    exact (eq_of_beq hfound).symm
  · rintro rfl
    exact ofPath?_path place

lemma Incoming.reached?_eq_some_iff {r : Incoming} {place : Route} : r.reached? = some place ↔
    barePath r.path = place.path ∧ r.method ∈ place.methods ∧
      (place = .webhooks → r.body.length ≤ largestBody) := by
  rw [reached?, Option.filter_eq_some_iff, Route.ofPath?_eq_some_iff, decide_eq_true_iff]

/-- Why a request reaches no handler, and the answer to it. -/
inductive Incoming.Refusal (r : Incoming) : Http.Response → Prop
  | notFound (route : Route.ofPath? (barePath r.path) = none) : r.Refusal (.empty 404)
  | notAllowed {place : Route} (route : Route.ofPath? (barePath r.path) = some place)
    (method : r.method ∉ place.methods) : r.Refusal (methodNotAllowed place)
  | tooLarge (route : Route.ofPath? (barePath r.path) = some .webhooks) (method : r.method = "POST")
    (body : largestBody < r.body.length) : r.Refusal tooLarge

/-- Whether the answer to a step shows the counters. -/
def Step.showsCounters : Step → Bool
  | .http r => r.reached? = some .metrics
  | .webhookCount _ | .recordWebhook _ => true
  | _ => false

/-- What an effect shows beside the counters: the answer, the requests sent, the updates applied and
the events. -/
def Effect.shown {α : Type} (e : Effect α) :
    α × List Http.Request × List (OrderAction × Transaction) × List Log.Event :=
  (e.answer,e.sent,e.applied,e.events)

namespace App
variable {app : App} {net : Network} {s : Step}

/-- The same service with other counters. -/
def withMetrics (app : App) (m : Metrics) : App := { app with metrics := m }

/-- The service after some steps. -/
def follow (app : App) : List (Network × Step) → App
  | [] => app
  | (net, s) :: rest => (app.after net s).follow rest

/-- Steps change the counters and nothing else. -/
theorem follow_eq (app : App) (steps : List (Network × Step)) :
    app.follow steps = app.withMetrics (app.follow steps).metrics := by
  induction steps generalizing app with
  | nil => rfl
  | cons first rest ih => exact ih (app.after first.1 first.2)

/-- A request that reaches a handler gets its answer, without the body if that is not asked for. -/
lemma handle_of_reached (app : App) (net : Network) {r : Incoming} {route : Route}
    (h : r.reached? = some route) :
    app.handle net r =
      let e := app.answer net route r.body
      if r.method = "HEAD" then { e with answer := e.answer.headOnly } else e := by
  obtain ⟨hroute,htaken⟩ := Option.filter_eq_some_iff.mp h
  simp only [handle, hroute, if_pos (of_decide_eq_true htaken).1]

/-- A request that reaches no handler is refused, whatever the counters are. -/
lemma exists_handle_eq_idle {r : Incoming} (h : r.reached? = none) :
    ∃ refusal, r.Refusal refusal ∧ ∀ (app : App) (net : Network),
      app.handle net r = app.idle refusal := by
  cases hroute : Route.ofPath? (barePath r.path) with
  | none => exact ⟨_,.notFound hroute,fun app net => by rw [handle, hroute]⟩
  | some route =>
    by_cases hmethod : r.method ∈ route.methods
    · -- The method is taken, so the request is a webhook that is too large.
      have hlarge : route = .webhooks ∧ largestBody < r.body.length := by
        simpa [Incoming.reached?, hroute, hmethod] using h
      obtain ⟨rfl,hlength⟩ := hlarge
      have hpost : r.method = "POST" := by simpa [Route.methods] using hmethod
      refine ⟨_,.tooLarge hroute hpost hlength,fun app net => ?_⟩
      rw [handle, hroute]
      simp [hpost, Route.methods, answer, hlength]
    · exact ⟨_,.notAllowed hroute hmethod,fun app net => by rw [handle, hroute]; simp [hmethod]⟩

lemma shown_answer_withMetrics (app : App) (net : Network) {route : Route} (h : route ≠ .metrics)
    (body : List UInt8) (m : Metrics) :
    ((app.withMetrics m).answer net route body).shown = (app.answer net route body).shown := by
  cases route with
  | health => rfl
  | webhooks =>
    simp only [answer]
    split <;> rfl
  | acceptanceToken =>
    simp only [answer, lookUpToken, withMetrics]
    split <;> rfl
  | metrics => exact absurd rfl h

/-- A step that does not show the counters does the same whatever they are. -/
theorem shown_step_withMetrics (app : App) (net : Network) (h : s.showsCounters = false)
    (m : Metrics) : ((app.withMetrics m).step net s).shown = (app.step net s).shown := by
  cases s with
  | http r =>
    cases hreached : r.reached? with
    | none =>
      obtain ⟨refusal,-,hrefusal⟩ := exists_handle_eq_idle hreached
      simp only [step, hrefusal]
      rfl
    | some route =>
      have hroute : route ≠ .metrics := by simpa [Step.showsCounters, hreached] using h
      have hanswer := app.shown_answer_withMetrics net hroute r.body m
      simp only [Effect.shown, Prod.mk.injEq] at hanswer
      simp only [step, answered, Effect.shown, handle_of_reached _ _ hreached]
      split <;> simp [hanswer]
  | webhookCount | recordWebhook => cases h
  | host op p => cases op <;> rfl
  | processWebhook | recordAcceptance | supportedCurrencies | clientToken | describe | tokenizeCard
  | institutions | acceptanceToken | createTransaction | retrieveTransaction | voidTransaction => rfl

/-- The steps of a run that do not show the counters, each with what it shows. -/
def outcomes (app : App) (steps : List (Network × Step)) : List ((Network × Step) ×
    Answer × List Http.Request × List (OrderAction × Transaction) × List Log.Event) :=
  (steps.zip ((app.run steps).map Effect.shown)).filter fun p => !p.1.2.showsCounters

/-- In a run, a step that does not show the counters does what it would do at the start. -/
theorem outcomes_eq (app : App) (steps : List (Network × Step)) :
    app.outcomes steps = (steps.filter fun p => !p.2.showsCounters).map fun p =>
      (p,(app.step p.1 p.2).shown) := by
  -- The counters change on the way, so the induction is for a service with any counters.
  have hrun : ∀ m, (app.withMetrics m).outcomes steps =
      (steps.filter fun p => !p.2.showsCounters).map fun p => (p,(app.step p.1 p.2).shown) := by
    induction steps with
    | nil => intro m; rfl
    | cons first rest ih =>
      intro m
      have hrest : ((app.withMetrics m).after first.1 first.2).outcomes rest = _ :=
        ih ((app.withMetrics m).step first.1 first.2).metrics
      rw [outcomes] at hrest
      rw [outcomes, run, List.map_cons, List.zip_cons_cons, List.filter_cons, List.filter_cons, hrest]
      cases hshows : first.2.showsCounters with
      | true => rfl
      | false =>
        rw [app.shown_step_withMetrics first.1 hshows m]
        rfl
  exact hrun app.metrics

/-- Steps do not interfere. In every service, a step that does not show the counters answers, sends,
applies and notes the same after any two histories; and if steps arrive in another order, the same
becomes of each of them that does not show the counters. -/
theorem run_forgets (app : App) :
    (∀ net s, s.showsCounters = false → ∀ history history' : List (Network × Step),
      ((app.follow history).step net s).shown = ((app.follow history').step net s).shown) ∧
    ∀ steps steps' : List (Network × Step), steps.Perm steps' →
      (app.outcomes steps).Perm (app.outcomes steps') := by
  refine ⟨?_,?_⟩
  · intro net s hs history history'
    rw [follow_eq app history, follow_eq app history', shown_step_withMetrics app net hs,
      shown_step_withMetrics app net hs]
  · intro steps steps' hsteps
    rw [outcomes_eq, outcomes_eq]
    exact (hsteps.filter _).map _

theorem run_forgets_objectUpdate :
    let update : Step := .http ⟨"POST","/webhooks",Webhook.objectUpdate⟩
    let start : Step := .host .authorize cashPayment
    let history := [(declining,start),(.down,update),(.down,.recordWebhook "ignored")]
    ∃ app, App.start fullyConfigured .logging = .ok app ∧ update.showsCounters = false ∧
      ((app.step .down update).applied.map fun call => call.1) = [.captureAndAdvance] ∧
      ((app.follow history).step .down update).shown = (app.step .down update).shown ∧
      (app.outcomes history).Perm (app.outcomes history.reverse) := by
  intro update start history
  let app : App := ⟨fullyConfigured,⟨⟨"http://gateway","pub","prv"⟩,fullyConfigured⟩,.logging,.empty⟩
  have hupdate : update.showsCounters = false := by decide +kernel
  obtain ⟨hshown,houtcomes⟩ := run_forgets app
  exact ⟨app,rfl,hupdate,by decide +kernel,hshown .down update hupdate history [],
    houtcomes history history.reverse (List.reverse_perm history).symm⟩

end App
end Checkout.Service
