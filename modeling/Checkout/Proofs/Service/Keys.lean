import Checkout.Proofs.Gateway.Requests

/-! Which key a request carries. What moves money carries the private key of the environment in use
and everything else its public key, in every run of the service. So nothing that is only looked up,
and nothing that a caller can set off over HTTP, carries the private key. -/
namespace Checkout

open Checkout.Http (Network Request)
open Checkout.Gateway (Client Endpoint)

/-- A request carries a key. -/
def Http.Request.Carries (r : Request) (key : String) : Prop := r.authorization = "Bearer " ++ key

lemma Http.Request.Carries.unique {r : Request} {key key' : String} (h : r.Carries key)
    (h' : r.Carries key') : key = key' := by
  have he : "Bearer " ++ key = "Bearer " ++ key' := h.symm.trans h'
  exact String.toList_inj.mp (by simpa using congrArg String.toList he)

/-- The keys of the environment that is not in use. -/
def Config.idleKeys (c : Config) : KeySet := if c.useSandbox then c.production else c.sandbox

/-- The keys of an environment as a list. -/
def KeySet.toList (keys : KeySet) : List String := [keys.publicKey,keys.privateKey,keys.eventKey]

namespace Service

/-- Whether a host operation changes what happens to the money. -/
def HostOperation.movesMoney : HostOperation → Bool
  | .authorize | .processPayment | .void => true
  | .capture | .refund => false

/-- Whether an operation changes what happens to the money. -/
def Call.movesMoney {α : Type} : Call α → Bool
  | .create _ | .void .. => true
  | .host op _ => op.movesMoney
  | _ => false

/-- Whether a step changes what happens to the money. -/
def Step.movesMoney : Step → Bool
  | .createTransaction _ | .voidTransaction .. => true
  | .host op _ => op.movesMoney
  | _ => false

/-- The request of something that does or does not move money, with the key that it needs. -/
structure Keyed (publicKey privateKey : String) (movesMoney : Bool) (r : Request) : Prop where
  moving : movesMoney = true → r.method = .post ∧ r.Carries privateKey
  looking : movesMoney = false → r.Carries publicKey

namespace Call
variable {α : Type} {app : App} {net : Network} {call : Call α}

lemma Asks.key {e : Endpoint} (h : call.Asks app e) :
    (call.movesMoney = true → e.method = .post ∧ e.key = .privateKey) ∧
      (call.movesMoney = false → e.key = .publicKey) := by
  cases h with
  | host h =>
    cases h with
    | create starts hcents h => rcases starts with rfl | rfl <;> simp [movesMoney,
        HostOperation.movesMoney, Endpoint.create]
    | retrieve hid => simp [movesMoney, HostOperation.movesMoney, Endpoint.retrieve]
    | void hkind hid h => simp [movesMoney, HostOperation.movesMoney, Endpoint.void]
  | create request => simp [movesMoney, Endpoint.create]
  | void id kind => simp [movesMoney, Endpoint.void]
  | tokenizeCard card => simp [movesMoney, Endpoint.tokenizeCard]
  | institutions => simp [movesMoney, Endpoint.institutions]
  | acceptanceToken => simp [movesMoney, Endpoint.merchant]
  | retrieve id => simp [movesMoney, Endpoint.retrieve]

/-- The requests of an operation carry the key that it needs. -/
theorem keyed_of_mem_sent {r : Request} (hr : r ∈ (call.attempt app net).sent) :
    Keyed app.gateway.client.publicKey app.gateway.client.privateKey call.movesMoney r := by
  have hends := ends app net call
  generalize (call.attempt app net).result = result at hends
  generalize (call.attempt app net).sent = sent at hends hr
  cases hends with
  | stopped => cases hr
  | asked asks h =>
    obtain ⟨url,-,-,-,-,-,rfl⟩ := Request.build_eq_ok_iff.mp (h.request_eq hr)
    obtain ⟨hmoving,hlooking⟩ := asks.key
    refine ⟨fun hm => ⟨(hmoving hm).1,?_⟩,fun hm => ?_⟩
    · rw [Request.Carries, (hmoving hm).2]
      rfl
    · rw [Request.Carries, hlooking hm]
      rfl

end Call

namespace App

lemma sent_handle (app : App) (net : Network) (r : Incoming) :
    (app.handle net r).sent = [] ∨
      (app.handle net r).sent = (Call.acceptanceToken.attempt app net).sent := by
  have hanswer (route : Route) : (app.answer net route r.body).sent = [] ∨
      (app.answer net route r.body).sent = (Call.acceptanceToken.attempt app net).sent := by
    cases route with
    | health | metrics => exact .inl rfl
    | webhooks =>
      simp only [answer]
      split <;> exact .inl rfl
    | acceptanceToken =>
      simp only [answer, lookUpToken]
      split <;> exact .inr rfl
  unfold handle
  split
  · exact .inl rfl
  · next route _ =>
    split
    · split <;> exact hanswer route
    · exact .inl rfl

/-- A step is an operation on the gateway as far as its requests are concerned, or sends none. -/
theorem sent_step (app : App) (net : Network) (s : Step) :
    (app.step net s).sent = [] ∨ ∃ (α : Type) (call : Call α),
      call.movesMoney = s.movesMoney ∧ (app.step net s).sent = (call.attempt app net).sent := by
  cases s with
  | http r =>
    simp only [step, answered]
    rcases app.sent_handle net r with h | h
    · exact .inl h
    · exact .inr ⟨_,.acceptanceToken,rfl,h⟩
  | host op p =>
    simp only [step, exchanged, Gateway.Exchange.sent_map]
    exact .inr ⟨_,.host op p,rfl,rfl⟩
  | tokenizeCard card =>
    simp only [step, replied, exchanged, Gateway.Exchange.sent_map]
    exact .inr ⟨_,.tokenizeCard card,rfl,rfl⟩
  | institutions =>
    simp only [step, replied, exchanged, Gateway.Exchange.sent_map]
    exact .inr ⟨_,.institutions,rfl,rfl⟩
  | acceptanceToken =>
    simp only [step, replied, exchanged, Gateway.Exchange.sent_map]
    exact .inr ⟨_,.acceptanceToken,rfl,rfl⟩
  | retrieveTransaction id =>
    simp only [step, replied, exchanged, Gateway.Exchange.sent_map]
    exact .inr ⟨_,.retrieve id,rfl,rfl⟩
  | createTransaction d =>
    simp only [step, replied, exchanged, Gateway.Exchange.sent_map, createFrom]
    split
    · exact .inl rfl
    · next request _ => exact .inr ⟨_,.create request,rfl,rfl⟩
  | voidTransaction id kindName =>
    simp only [step, replied, exchanged, Gateway.Exchange.sent_map, voidNamed]
    split
    · exact .inl rfl
    · next kind _ => exact .inr ⟨_,.void id kind,rfl,rfl⟩
  | processWebhook | webhookCount | recordWebhook | recordAcceptance | supportedCurrencies
  | clientToken | describe => exact .inl rfl

/-- The requests of a step carry the key that it needs. -/
theorem keyed_of_mem_step {app : App} {net : Network} {s : Step} {r : Request}
    (hr : r ∈ (app.step net s).sent) :
    Keyed app.gateway.client.publicKey app.gateway.client.privateKey s.movesMoney r := by
  rcases app.sent_step net s with h | ⟨α,call,hmoves,h⟩
  · rw [h] at hr
    cases hr
  · rw [h] at hr
    rw [← hmoves]
    exact Call.keyed_of_mem_sent hr

/-- In a run of steps, one of them sends a request. -/
def Sends (app : App) (steps : List (Network × Step)) (s : Step) (r : Request) : Prop :=
  ∃ net effect, ((net,s),effect) ∈ steps.zip (app.run steps) ∧ r ∈ effect.sent

/-- The requests of a run carry the keys that their steps need: no step changes the access to the
gateway. -/
theorem keyed_of_sends {app : App} {steps : List (Network × Step)} {s : Step} {r : Request}
    (h : app.Sends steps s r) :
    Keyed app.gateway.client.publicKey app.gateway.client.privateKey s.movesMoney r := by
  obtain ⟨net,effect,hmem,hr⟩ := h
  induction steps generalizing app with
  | nil => cases hmem
  | cons first rest ih =>
    rw [run, List.zip_cons_cons] at hmem
    rcases List.mem_cons.mp hmem with he | hrest
    · cases he
      exact keyed_of_mem_step hr
    · simpa using ih hrest

/-- A service has the active keys of its configuration. -/
lemma client_of_start {config : Config} {orders : Webhook.Orders} {app : App}
    (h : App.start config orders = .ok app) :
    app.gateway.client.publicKey = config.activeKeys.publicKey ∧
      app.gateway.client.privateKey = config.activeKeys.privateKey := by
  obtain ⟨service,hservice,rfl⟩ := map_eq_ok_iff.mp h
  obtain ⟨client,hclient,rfl⟩ := map_eq_ok_iff.mp hservice
  unfold Client.ofConfig at hclient
  dsimp only at hclient
  split at hclient
  · cases hclient
  · split at hclient
    · cases hclient
    · cases hclient
      exact ⟨rfl,rfl⟩

end App

/-- Whether a step is a request that someone sends to the service over HTTP. -/
def Step.isHttp : Step → Bool
  | .http _ => true
  | _ => false

lemma Step.movesMoney_of_isHttp {s : Step} (h : s.isHttp = true) : s.movesMoney = false := by
  cases s <;> simp [isHttp] at h
  rfl

/-- In every run of a service, what moves money is a `POST` with the private key of the environment
in use, and everything else carries its public key. So if these two differ, no `GET` and nothing set
off over HTTP carries the private key; and a key of the other environment is never carried, unless it
is one of these two. Requests are those that the steps make; replies do not redirect. -/
theorem run_keys {config : Config} {orders : Webhook.Orders} {app : App}
    (h : App.start config orders = .ok app) (steps : List (Network × Step)) :
    let keys := config.activeKeys
    (∀ s r, app.Sends steps s r → Keyed keys.publicKey keys.privateKey s.movesMoney r) ∧
    (keys.publicKey ≠ keys.privateKey → ∀ s r, app.Sends steps s r →
      r.method = .get ∨ s.isHttp = true → ¬ r.Carries keys.privateKey) ∧
    (∀ key ∈ config.idleKeys.toList, key ≠ keys.publicKey → key ≠ keys.privateKey →
      ∀ s r, app.Sends steps s r → ¬ r.Carries key) := by
  intro keys
  obtain ⟨hpublic,hprivate⟩ := App.client_of_start h
  have hkeyed : ∀ s r, app.Sends steps s r →
      Keyed keys.publicKey keys.privateKey s.movesMoney r := by
    intro s r hsends
    rw [← hpublic, ← hprivate]
    exact App.keyed_of_sends hsends
  refine ⟨hkeyed,?_,?_⟩
  · intro hne s r hsends hlooks hcarries
    have hmoves : s.movesMoney = false := by
      rcases hlooks with hget | hhttp
      · rw [Bool.eq_false_iff]
        intro hm
        cases hget.symm.trans ((hkeyed s r hsends).moving hm).1
      · exact Step.movesMoney_of_isHttp hhttp
    exact hne (((hkeyed s r hsends).looking hmoves).unique hcarries)
  · intro key _ hpublic' hprivate' s r hsends hcarries
    cases hmoves : s.movesMoney with
    | true => exact hprivate' (hcarries.unique ((hkeyed s r hsends).moving hmoves).2)
    | false => exact hpublic' (hcarries.unique ((hkeyed s r hsends).looking hmoves))

/-- A configuration with the keys of both environments. -/
def fullyConfigured : Config :=
  ⟨true,⟨"pub","prv","k"⟩,⟨"pub_live","prv_live","k_live"⟩,["COP"],true,some "http://gateway/",
    "0.0.0.0",8087⟩

theorem run_keys_fullyConfigured : ∃ app, App.start fullyConfigured .logging = .ok app ∧
    let start : Step := .host .authorize cashPayment
    let ask : Step := .http ⟨"GET","/acceptance-token",[]⟩
    let steps := [(declining,start),(declining,ask)]
    (∃ r, app.Sends steps start r ∧ r.Carries "prv") ∧
    ∃ r, app.Sends steps ask r ∧ r.Carries "pub" ∧ ¬ r.Carries "prv" ∧ ¬ r.Carries "prv_live" := by
  let app : App := ⟨fullyConfigured,⟨⟨"http://gateway","pub","prv"⟩,fullyConfigured⟩,.logging,.empty⟩
  have happ : App.start fullyConfigured .logging = .ok app := rfl
  refine ⟨app,happ,?_⟩
  intro start ask steps
  obtain ⟨hkeyed,hlooking,hidle⟩ := run_keys happ steps
  obtain ⟨r,hr⟩ : ∃ r, (app.step declining start).sent = [r] :=
    List.length_eq_one_iff.mp (by decide +kernel)
  obtain ⟨r',hr'⟩ : ∃ r', ((app.after declining start).step declining ask).sent = [r'] :=
    List.length_eq_one_iff.mp (by decide +kernel)
  have hstart : app.Sends steps start r :=
    ⟨declining,app.step declining start,by simp [steps, App.run],by simp [hr]⟩
  have hask : app.Sends steps ask r' :=
    ⟨declining,(app.after declining start).step declining ask,by simp [steps, App.run],by simp [hr']⟩
  exact ⟨⟨r,hstart,((hkeyed start r hstart).moving rfl).2⟩,
    r',hask,(hkeyed ask r' hask).looking rfl,hlooking (by decide) ask r' hask (.inr rfl),
    hidle "prv_live" (by decide) (by decide) (by decide) ask r' hask⟩

end Service
end Checkout
