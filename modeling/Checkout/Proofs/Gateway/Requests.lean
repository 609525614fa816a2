import Checkout.Proofs.Gateway.Outcome
import Checkout.Proofs.Transaction.Building

/-! How many requests an operation sends. The result of an operation settles it: an error that was
found without the gateway costs no request, and a record, or an error that an answer of the gateway
stands for, costs exactly one. -/
namespace Checkout

namespace GatewayError

/-- Whether an error is found without the gateway. -/
def isLocal : GatewayError → Bool
  | .missingFields .. | .unsupportedPaymentType _ | .invalidPaymentData _ | .amount _
  | .operationUnsupported .. | .refundUnsupported => true
  | _ => false

/-- Whether an error stands for an answer of the gateway. -/
def isRemote : GatewayError → Bool
  | .unauthorized _ | .notFound _ | .rejected _ | .unexpectedStatus .. | .malformedReply _ => true
  | _ => false

/-- How many requests were sent before an error. One that could not be built was not sent. -/
def requests : GatewayError → ℕ
  | .missingFields .. | .unsupportedPaymentType _ | .invalidPaymentData _ | .amount _
  | .operationUnsupported .. | .refundUnsupported | .configuration _
  | .transport (.unbuildable _) => 0
  | _ => 1

lemma requests_le_one (e : GatewayError) : e.requests ≤ 1 := by
  unfold requests
  split <;> simp

lemma requests_of_isLocal {e : GatewayError} (h : e.isLocal = true) : e.requests = 0 := by
  cases e <;> simp [isLocal] at h <;> rfl

lemma requests_of_isRemote {e : GatewayError} (h : e.isRemote = true) : e.requests = 1 := by
  cases e <;> simp [isRemote] at h <;> rfl

lemma isRemote_ofStatus (status : ℕ) (body : String) : (ofStatus status body).isRemote = true := by
  unfold ofStatus
  split <;> rfl

end GatewayError

/-- An error of the checks that a description of a payment goes through. -/
def GatewayError.IsCheck (e : GatewayError) : Prop := e.isLocal = true ∧ e.isCapability = false

lemma Descriptor.isCheck_of_toMethod {d : Json} {e : GatewayError} (h : toMethod d = .error e) :
    e.IsCheck := by
  cases refusal_of_toMethod h <;> exact ⟨rfl,rfl⟩

lemma Draft.isCheck_of_build {d : Draft} {e : GatewayError} (h : d.build = .error e) :
    e.IsCheck := by
  have hbuilds := d.builds_build
  rw [h] at hbuilds
  cases hbuilds with
  | incomplete => exact ⟨rfl,rfl⟩
  | refused _ _ hread => exact Descriptor.isCheck_of_toMethod hread

lemma Card.isCheck_of_validate {c : Card} {e : GatewayError} (h : c.validate = .error e) :
    e.IsCheck := by
  unfold validate at h
  split at h
  · cases h
  · cases h
    exact ⟨rfl,rfl⟩

namespace Gateway

open Checkout.Http (Network Request)
open Checkout.Json (Decoder)

variable {α : Type}

/-- How many requests were sent for a result. -/
def requests : Except GatewayError α → ℕ
  | .ok _ => 1
  | .error e => e.requests

namespace Client
variable {c : Client} {net : Network} {e : Endpoint} {body : Option Json} {d : Decoder α}
  {sent : List Request} {r : Except GatewayError α}

lemma Concludes.length_sent (h : Concludes c net e body d sent r) : sent.length = requests r := by
  cases h with
  | unbuilt built =>
    obtain ⟨url,rfl⟩ := Http.Request.unbuildable_of_build built
    rfl
  | refused => exact (GatewayError.requests_of_isRemote (GatewayError.isRemote_ofStatus _ _)).symm
  | unanswered | brokenOff | undecodable | decoded => rfl

lemma Concludes.isCapability_eq_false {error : GatewayError}
    (h : Concludes c net e body d sent (.error error)) : error.isCapability = false := by
  cases h with
  | refused => exact GatewayError.isCapability_ofStatus _ _
  | unbuilt | unanswered | brokenOff | undecodable => rfl

end Client
end Gateway

namespace Service

open Checkout.Http (Network Request)
open Checkout.Json (Decoder)
open Checkout.Gateway (Attempt Endpoint Payment requests)

/-- An operation of the gateway's client or of a host platform, by what it gives. -/
inductive Call : Type → Type
  | tokenizeCard (card : Card) : Call CardToken
  | institutions : Call (List Institution)
  | acceptanceToken : Call AcceptanceToken
  | create (request : TransactionRequest) : Call Transaction
  | retrieve (id : String) : Call Transaction
  | void (id : String) (kind : PaymentKind) : Call Transaction
  | host (op : HostOperation) (p : Payment) : Call Transaction

namespace Call
variable {α : Type}

/-- What an operation sends and gives. A host operation gives what its answer is made of. -/
def attempt (app : App) (net : Network) : Call α → Attempt α
  | tokenizeCard card => app.gateway.client.tokenizeCard net card
  | institutions => app.gateway.client.institutions net
  | acceptanceToken => app.gateway.client.acceptanceToken net
  | create request => app.gateway.client.create net request
  | retrieve id => app.gateway.client.retrieve net id
  | void id kind => app.gateway.client.void net id kind
  | host op p =>
    let shown := app.perform net p op
    ⟨(app.attempt net p op).result,shown.sent,shown.events⟩

/-- What an operation reads in the envelope of an answer. -/
def answer : Call α → Decoder α
  | tokenizeCard _ => CardToken.decoder
  | institutions => .list Institution.decoder
  | acceptanceToken => merchantData
  | create _ => Transaction.decoder
  | retrieve _ => Transaction.decoder
  | void _ _ => voidData
  | host op _ => op.record

/-- The operations that the gateway cannot perform: a refund, and voiding what is no card. -/
inductive IsUnavailable : {α : Type} → Call α → Prop
  | refund (p : Payment) : IsUnavailable (host .refund p)
  | voidPayment {p : Payment} {kind : PaymentKind} (hkind : p.kind? = some kind)
      (h : kind ≠ .card) : IsUnavailable (host .void p)
  | void (id : String) {kind : PaymentKind} (h : kind ≠ .card) : IsUnavailable (void id kind)

/-- The place on the gateway's host that an operation asks at. -/
inductive Asks (app : App) : {α : Type} → Call α → Endpoint → Prop
  | tokenizeCard (card : Card) : Asks app (tokenizeCard card) .tokenizeCard
  | institutions : Asks app institutions .institutions
  | acceptanceToken : Asks app acceptanceToken (.merchant app.gateway.client.publicKey)
  | create (request : TransactionRequest) : Asks app (create request) .create
  | retrieve (id : String) : Asks app (retrieve id) (.retrieve id)
  | void (id : String) (kind : PaymentKind) : Asks app (void id kind) (.void id)
  | host {op : HostOperation} {p : Payment} {endpoint : Endpoint} {body : Option Json}
      (h : Service.Asks p op endpoint body) : Asks app (host op p) endpoint

/-- How an operation ends: stopped by its own checks, or with what its one request comes to. -/
inductive Ends (app : App) (net : Network) (call : Call α) :
    List Request → Except GatewayError α → Prop
  | stopped {e} (found : e.isLocal = true) (reason : e.isCapability = true → call.IsUnavailable) :
      Ends app net call [] (.error e)
  | asked {endpoint body sent r} (asks : call.Asks app endpoint)
      (h : app.gateway.client.Concludes net endpoint body call.answer sent r) :
      Ends app net call sent r

lemma ne_card_of_supportsVoid {kind : PaymentKind} (h : kind.supportsVoid = false) :
    kind ≠ .card := by
  rintro rfl
  cases h

lemma stopped_of_isCheck {app : App} {net : Network} {call : Call α} {e : GatewayError}
    (h : e.IsCheck) : Ends app net call [] (.error e) :=
  .stopped h.1 fun hcapability => by simp [h.2] at hcapability

lemma ends_of_hindered {app : App} {net : Network} {op : HostOperation} {p : Payment}
    {e : GatewayError} (h : Hindered p op e) : Ends app net (host op p) [] (.error e) := by
  cases h with
  | amount starts h => exact stopped_of_isCheck ⟨rfl,rfl⟩
  | draft starts hcents h => exact stopped_of_isCheck (Draft.isCheck_of_build h)
  | captureToken h => exact stopped_of_isCheck ⟨rfl,rfl⟩
  | voidKind h => exact stopped_of_isCheck ⟨rfl,rfl⟩
  | voidToken hkind h => exact stopped_of_isCheck ⟨rfl,rfl⟩
  | voidUnsupported hkind hid h =>
    exact .stopped rfl fun _ => .voidPayment hkind (ne_card_of_supportsVoid h)
  | refund => exact .stopped rfl fun _ => .refund p

/-- Every operation ends in one of the two ways. -/
theorem ends (app : App) (net : Network) (call : Call α) :
    Ends app net call (call.attempt app net).sent (call.attempt app net).result := by
  cases call with
  | tokenizeCard card =>
    simp only [attempt, Gateway.Client.tokenizeCard]
    split
    · next h => exact stopped_of_isCheck (Card.isCheck_of_validate h)
    · exact .asked (.tokenizeCard card) (Gateway.Client.concludes_send ..)
  | institutions =>
    rw [attempt, Gateway.Client.institutions]
    exact .asked .institutions (Gateway.Client.concludes_send ..)
  | acceptanceToken =>
    rw [attempt, Gateway.Client.acceptanceToken]
    exact .asked .acceptanceToken (Gateway.Client.concludes_send ..)
  | create request =>
    rw [attempt, Gateway.Client.create, Gateway.Exchange.sent_note, Gateway.Exchange.result_note]
    exact .asked (.create request) (Gateway.Client.concludes_send ..)
  | retrieve id =>
    rw [attempt, Gateway.Client.retrieve]
    exact .asked (.retrieve id) (Gateway.Client.concludes_send ..)
  | void id kind =>
    simp only [attempt, Gateway.Client.void]
    split
    · exact .asked (.void id kind) (Gateway.Client.concludes_send ..)
    · next h =>
      exact .stopped rfl fun _ => .void id (ne_card_of_supportsVoid (Bool.eq_false_iff.mpr h))
  | host op p =>
    simp only [attempt, (app.perform_eq net p op).1]
    rcases hindered_or_asks p op with ⟨e,h⟩ | ⟨endpoint,body,asks⟩
    · obtain ⟨hsent,hresult⟩ := App.attempt_of_hindered app net h
      rw [hsent, hresult]
      exact ends_of_hindered h
    · exact .asked (.host asks) (App.concludes_attempt app net asks)

section Ends
variable {app : App} {net : Network} {call : Call α} {sent : List Request}
  {r : Except GatewayError α}

/-- The result tells how many requests were sent. -/
theorem Ends.length_sent (h : Ends app net call sent r) : sent.length = requests r := by
  cases h with
  | stopped found reason => exact (GatewayError.requests_of_isLocal found).symm
  | asked asks h => exact h.length_sent

lemma Ends.isUnavailable {e : GatewayError} (h : Ends app net call sent (.error e))
    (hcapability : e.isCapability = true) : call.IsUnavailable := by
  cases h with
  | stopped found reason => exact reason hcapability
  | asked asks h => simp [h.isCapability_eq_false] at hcapability

end Ends

/-- An operation sends at most one request, since replies do not redirect: none if it fails by its own
checks, one if it succeeds or fails by what the gateway answers. That the gateway cannot perform an operation is reported of a
refund and of voiding what is no card only. The answer of a host operation is made of the result. -/
theorem attempt_costs (app : App) (net : Network) :
    (∀ {α : Type} (call : Call α), let a := call.attempt app net
      a.sent.length ≤ 1 ∧
      (∀ e, a.result = .error e → e.isLocal = true → a.sent = []) ∧
      (∀ e, a.result = .error e → e.isRemote = true → a.sent.length = 1) ∧
      (∀ r, a.result = .ok r → a.sent.length = 1) ∧
      (∀ e, a.result = .error e → e.isCapability = true → call.IsUnavailable)) ∧
    ∀ op p, (app.perform net p op).result =
      app.outcomeOf p op ((host op p).attempt app net).result := by
  refine ⟨?_,fun op p => (app.perform_eq net p op).2⟩
  intro α call a
  have hends : Ends app net call a.sent a.result := ends app net call
  have hlength := hends.length_sent
  refine ⟨?_,?_,?_,?_,?_⟩
  · rw [hlength]
    cases a.result with
    | ok r => exact le_rfl
    | error e => exact GatewayError.requests_le_one e
  · intro e he hlocal
    rw [he] at hlength
    exact List.length_eq_zero_iff.mp (hlength.trans (GatewayError.requests_of_isLocal hlocal))
  · intro e he hremote
    rw [he] at hlength
    exact hlength.trans (GatewayError.requests_of_isRemote hremote)
  · intro r hr
    rw [hr] at hlength
    exact hlength
  · intro e he hcapability
    rw [he] at hends
    exact hends.isUnavailable hcapability

/-- A payment without a transaction can be started, but not be looked up or refunded. -/
theorem attempt_costs_cashPayment :
    ((host .authorize cashPayment).attempt capturing declining).sent.length = 1 ∧
    ((host .capture cashPayment).attempt capturing declining).sent = [] ∧
    (host .refund cashPayment).IsUnavailable := by
  have hcosts := attempt_costs capturing declining
  have hanswer : ((host .authorize cashPayment).attempt capturing declining).result.toOption.isSome := by
    decide +kernel
  obtain ⟨t,ht⟩ := Option.isSome_iff_exists.mp hanswer
  obtain ⟨-,-,-,hstarted,-⟩ := hcosts.1 (host .authorize cashPayment)
  obtain ⟨-,hunasked,-,-,-⟩ := hcosts.1 (host .capture cashPayment)
  obtain ⟨-,-,-,-,hrefund⟩ := hcosts.1 (host .refund cashPayment)
  exact ⟨hstarted t (toOption_eq_some_iff.mp ht),
    hunasked (.missingFields "capture" ["token"]) rfl rfl,hrefund .refundUnsupported rfl rfl⟩

end Call
end Service
end Checkout
