import Checkout.Proofs.Gateway.Concealed
import Checkout.Proofs.Service.Keys

/-! What the steps of a service show of the private key and of cards. A private key goes into the
authorization of what moves money and into the header that a description shows, and what a card holds
goes into the body of its tokenization; nothing else that can be seen of a run depends on them. -/
namespace Checkout

open Checkout.Http (Network Request isHeaderText)

namespace Config
variable {c c' : Config}

/-- A configuration without its private keys. -/
def withoutPrivateKeys (c : Config) : Config :=
  { c with
    sandbox := { c.sandbox with privateKey := "" }
    production := { c.production with privateKey := "" } }

lemma activeKeys_withoutPrivateKeys (c : Config) :
    c.withoutPrivateKeys.activeKeys = { c.activeKeys with privateKey := "" } := by
  cases h : c.useSandbox <;> simp [activeKeys, environment, withoutPrivateKeys, keys, h]

lemma publicKey_congr (h : c.withoutPrivateKeys = c'.withoutPrivateKeys) :
    c.activeKeys.publicKey = c'.activeKeys.publicKey := by
  have hkeys := congrArg (fun c => c.activeKeys.publicKey) h
  simpa only [activeKeys_withoutPrivateKeys] using hkeys

lemma baseUrl_congr (h : c.withoutPrivateKeys = c'.withoutPrivateKeys) : c.baseUrl = c'.baseUrl :=
  (congrArg baseUrl h :)

lemma eventKey_congr (h : c.withoutPrivateKeys = c'.withoutPrivateKeys) (e : Environment) :
    (c.keys e).eventKey = (c'.keys e).eventKey := by
  cases e with
  | sandbox => exact congrArg (fun c => c.sandbox.eventKey) h
  | production => exact congrArg (fun c => c.production.eventKey) h

end Config

/-- A webhook is judged by the keys for events alone. -/
lemma Webhook.process_congr {c c' : Config} (h : c.withoutPrivateKeys = c'.withoutPrivateKeys)
    (orders : Orders) (body : List UInt8) : process c orders body = process c' orders body := by
  simp only [process, judge, Config.eventKey_congr h]

namespace Service

open Checkout.Gateway (Client Endpoint Exchange)

/-- What the requests of a step look like without what they conceal: the private key of what moves
money, and what a card holds. -/
def Step.hide : Step → Request → Request
  | .tokenizeCard _ => Request.withoutContent
  | s => if s.movesMoney then Request.withoutAuthorization else id

/-- An answer without the header that shows the private key. -/
def Answer.conceal : Answer → Answer
  | .description d => .description { d with privateHeader := "" }
  | a => a

/-- An effect without what is concealed. -/
def Effect.conceal (hide : Request → Request) (e : Effect Answer) : Effect Answer :=
  { e with
    answer := e.answer.conceal
    sent := e.sent.map hide }

/-- Steps that are the same but for what a card without blank details holds. -/
inductive Step.Alike : Step → Step → Prop
  | same (s : Step) : Alike s s
  | cards {card card' : Card} (full : card.blankFields = []) (full' : card'.blankFields = []) :
      Alike (.tokenizeCard card) (.tokenizeCard card')

/-- Services that differ in their private keys only. -/
structure App.Alike (app app' : App) : Prop where
  gateway : app.gateway.Alike app'.gateway
  config : app.config.withoutPrivateKeys = app'.config.withoutPrivateKeys
  orders : app.orders = app'.orders
  metrics : app.metrics = app'.metrics

namespace App
variable {app app' : App} {net : Network} {hide : Request → Request}

lemma Alike.deliver_eq (h : app.Alike app') (body : List UInt8) :
    app.deliver body = app'.deliver body := by
  simp only [deliver, Webhook.process_congr h.config, h.orders, h.metrics]

/-- What is set off over HTTP does not depend on the private key. -/
theorem Alike.handle_eq (h : app.Alike app') (net : Network) (r : Incoming) :
    app.handle net r = app'.handle net r := by
  have hidle {α : Type} (a : α) : app.idle a = app'.idle a := by rw [idle, idle, h.metrics]
  have hanswer (route : Route) : app.answer net route r.body = app'.answer net route r.body := by
    cases route with
    | health => exact hidle _
    | webhooks => simp only [answer, takeWebhook, hidle, h.deliver_eq, h.metrics]
    | acceptanceToken =>
      simp only [answer, lookUpToken, h.gateway.client.acceptanceToken_eq, h.metrics]
    | metrics => simp only [answer, hidle, h.metrics]
  simp only [handle, hidle, hanswer]

lemma Alike.exchanged_conceal (h : app.Alike app') {e e' : Exchange Answer}
    (he : e.conceal hide = e'.conceal hide) :
    (app.exchanged e).conceal hide = (app'.exchanged e').conceal hide := by
  obtain ⟨hresult,hsent,hevents⟩ := Exchange.mk.inj he
  simp only [exchanged, Effect.conceal, hresult, hsent, hevents, h.metrics]

lemma Alike.replied_conceal {α : Type} (h : app.Alike app') {e e' : Gateway.Attempt α}
    (he : e.conceal hide = e'.conceal hide) (encode : α → Json) :
    (app.replied e encode).conceal hide = (app'.replied e' encode).conceal hide := by
  refine h.exchanged_conceal ?_
  rw [Exchange.conceal_map, Exchange.conceal_map, he]

/-- Steps that are alike show the same of services that are alike. -/
theorem Alike.step_conceal (h : app.Alike app') {s s' : Step} (hs : s.Alike s')
    (hnet : net.Blind s.hide) :
    (app.step net s).conceal s.hide = (app'.step net s').conceal s'.hide := by
  cases hs with
  | @cards card card' full full' =>
    -- Neither card has a blank detail, so the same becomes of both until the body is written.
    have hvalid : card.validate = card'.validate := by
      rw [Card.validate, Card.validate, full, full']
    exact h.replied_conceal (h.gateway.client.conceal_tokenizeCard hnet hvalid) _
  | same =>
    cases s with
    | http r => simp only [step, h.handle_eq]
    | processWebhook body => simp only [step, h.deliver_eq]
    | webhookCount | recordWebhook | recordAcceptance | clientToken =>
      simp only [step, idle, h.metrics]
    | supportedCurrencies =>
      have hcurrencies := congrArg Config.supportedCurrencies h.config
      change app.config.supportedCurrencies = app'.config.supportedCurrencies at hcurrencies
      simp only [step, idle, hcurrencies, h.metrics]
    | describe id =>
      have hurl : app.gateway.client.urlFor = app'.gateway.client.urlFor := by
        funext e
        rw [Client.urlFor, Client.urlFor, h.gateway.client.baseUrl]
      simp only [step, idle, Effect.conceal, Answer.conceal, description, h.metrics, hurl,
        h.gateway.client.baseUrl, Client.authorization, h.gateway.client.publicKey]
    | host operation p =>
      refine h.exchanged_conceal ?_
      rw [Exchange.conceal_map, Exchange.conceal_map]
      refine congrArg _ ?_
      cases operation with
      | authorize | processPayment => exact h.gateway.conceal_authorize hnet p
      | capture => exact congrArg _ (h.gateway.capture_eq p)
      | void => exact h.gateway.conceal_void hnet p
      | refund => rfl
    | tokenizeCard card =>
      exact h.replied_conceal (h.gateway.client.conceal_tokenizeCard hnet rfl) _
    | institutions =>
      exact h.replied_conceal (congrArg _ h.gateway.client.institutions_eq) _
    | acceptanceToken =>
      exact h.replied_conceal (congrArg _ h.gateway.client.acceptanceToken_eq) _
    | createTransaction d =>
      refine h.replied_conceal ?_ _
      unfold createFrom
      split
      · rfl
      · exact h.gateway.client.conceal_create hnet _
    | retrieveTransaction id =>
      exact h.replied_conceal (congrArg _ (h.gateway.client.retrieve_eq id)) _
    | voidTransaction id kindName =>
      refine h.replied_conceal ?_ _
      unfold voidNamed
      split
      · rfl
      · exact h.gateway.client.conceal_void hnet id _

lemma Alike.after (h : app.Alike app') {s s' : Step} (hs : s.Alike s') (hnet : net.Blind s.hide) :
    (app.after net s).Alike (app'.after net s') where
  gateway := h.gateway
  config := h.config
  orders := h.orders
  metrics := (congrArg Effect.metrics (h.step_conceal hs hnet) :)

/-- What the steps of a run show without what they conceal. -/
def seen (app : App) (steps : List (Network × Step)) : List (Effect Answer) :=
  List.zipWith (fun p e => e.conceal p.2.hide) steps (app.run steps)

/-- Steps that are alike in front of networks that give the same answers to what looks the same. -/
def StepsAlike (steps steps' : List (Network × Step)) : Prop :=
  List.Forall₂ (fun p p' => p.1 = p'.1 ∧ p.1.Blind p.2.hide ∧ p.2.Alike p'.2) steps steps'

/-- Runs of steps that are alike show the same of services that are alike. -/
theorem Alike.seen_eq (h : app.Alike app') {steps steps' : List (Network × Step)}
    (hsteps : StepsAlike steps steps') : app.seen steps = app'.seen steps' := by
  induction hsteps generalizing app app' with
  | nil => rfl
  | @cons p p' rest rest' hp _ ih =>
    obtain ⟨net,s⟩ := p
    obtain ⟨net',s'⟩ := p'
    obtain ⟨rfl,hnet,hs⟩ := hp
    have hrest := ih (h.after hs hnet)
    rw [seen, seen] at hrest ⊢
    rw [run, run, List.zipWith_cons_cons, List.zipWith_cons_cons, h.step_conceal hs hnet, hrest]

end App

/-- A session: a service is started and takes some steps, each in front of a network. -/
structure Session where
  config : Config
  orders : Webhook.Orders
  steps : List (Network × Step)

namespace Session
variable {s s' : Session}

/-- What a session shows without what its steps conceal: that it cannot start, or the effects of its
steps. -/
def seen (s : Session) : Except GatewayError (List (Effect Answer)) :=
  (App.start s.config s.orders).map fun app => app.seen s.steps

/-- Sessions that differ only in their private keys, of which those in use are not empty and may both
stand in a header or both not, and in what the cards without blank details hold. -/
structure Alike (s s' : Session) : Prop where
  config : s.config.withoutPrivateKeys = s'.config.withoutPrivateKeys
  orders : s.orders = s'.orders
  steps : App.StepsAlike s.steps s'.steps
  nonempty : s.config.activeKeys.privateKey ≠ "" ∧ s'.config.activeKeys.privateKey ≠ ""
  usable : isHeaderText s.config.activeKeys.privateKey =
    isHeaderText s'.config.activeKeys.privateKey

lemma start_eq_of_keys {config : Config} (orders : Webhook.Orders)
    (hpublic : config.activeKeys.publicKey ≠ "") (hprivate : config.activeKeys.privateKey ≠ "") :
    App.start config orders = .ok ⟨config,⟨⟨Client.withoutSlashes config.baseUrl,
      config.activeKeys.publicKey,config.activeKeys.privateKey⟩,config⟩,orders,.empty⟩ := by
  simp only [App.start, Gateway.Service.ofConfig, Client.ofConfig, if_neg hpublic, if_neg hprivate]
  rfl

lemma start_eq_of_publicKey_eq {config : Config} (orders : Webhook.Orders)
    (hpublic : config.activeKeys.publicKey = "") :
    App.start config orders = .error (.configuration "Invalid key for Wompi") := by
  simp only [App.start, Gateway.Service.ofConfig, Client.ofConfig, if_pos hpublic]
  rfl

/-- The private key and what a card holds influence nothing that can be seen but where they have to
be sent: sessions that differ in them show the same answers, requests, updates, events and counters,
but for the authorization of what moves money, the body of what turns a card into a token, and the
private header of a description. -/
theorem seen_eq_of_alike (h : s.Alike s') : s.seen = s'.seen := by
  obtain ⟨hprivate,hprivate'⟩ := h.nonempty
  have hkey := Config.publicKey_congr h.config
  by_cases hpublic : s.config.activeKeys.publicKey = ""
  · rw [seen, seen, start_eq_of_publicKey_eq _ hpublic, start_eq_of_publicKey_eq _ (hkey ▸ hpublic)]
    rfl
  · rw [seen, seen, start_eq_of_keys _ hpublic hprivate,
      start_eq_of_keys _ (hkey ▸ hpublic) hprivate']
    have happs : App.Alike
        ⟨s.config,⟨⟨Client.withoutSlashes s.config.baseUrl,s.config.activeKeys.publicKey,
          s.config.activeKeys.privateKey⟩,s.config⟩,s.orders,.empty⟩
        ⟨s'.config,⟨⟨Client.withoutSlashes s'.config.baseUrl,s'.config.activeKeys.publicKey,
          s'.config.activeKeys.privateKey⟩,s'.config⟩,s'.orders,.empty⟩ :=
      { gateway :=
          { client :=
              { baseUrl := congrArg Client.withoutSlashes (Config.baseUrl_congr h.config)
                publicKey := hkey
                usable := by
                  simpa only [Client.authorization, Http.isHeaderText_bearer] using h.usable }
            autoCapture := (congrArg Config.autoCapture h.config :) }
        config := h.config
        orders := h.orders
        metrics := rfl }
    exact congrArg Except.ok (happs.seen_eq h.steps)

/-- A session that turns a card into a token, starts a payment and describes its access. -/
def paying (privateKey number : String) : Session where
  config := { fullyConfigured with sandbox := ⟨"pub",privateKey,"k"⟩ }
  orders := .logging
  steps := [(declining,.tokenizeCard ⟨number,"123","12","30","A B"⟩),
    (declining,.host .authorize cashPayment),(.down,.describe "t1")]

theorem seen_paying : (paying "prv" "4111").seen = (paying "secret" "5500").seen ∧
    ((App.start (paying "prv" "4111").config .logging).map fun app =>
      (app.run (paying "prv" "4111").steps).map fun e => e.sent.length).toOption = some [1,1,0] := by
  refine ⟨seen_eq_of_alike ⟨rfl,rfl,?_,by decide,by decide +kernel⟩,by decide +kernel⟩
  refine .cons ⟨rfl,?_,.cards (by decide +kernel) (by decide +kernel)⟩
    (.cons ⟨rfl,?_,.same _⟩ (.cons ⟨rfl,Http.Network.blind_id _,.same _⟩ .nil))
  · exact Http.Network.blind_script _ _
  · exact Http.Network.blind_script _ _

end Session
end Service
end Checkout
