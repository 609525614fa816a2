import Checkout.Service.Session
import Checkout.Proofs.Gateway.Conclusion

/-! The operations of a host platform on a payment. Each either is hindered by the payment itself and
sends nothing, or asks the gateway once. So it is either answered by a transaction or fails with an
error, and what the gateway sends back decides which. -/
namespace Checkout.Service

open Checkout.Http (Network Request)
open Checkout.Json (Decoder)
open Checkout.Gateway (Attempt Answers Client Endpoint Payment)

namespace HostOperation

/-- What an operation reads in the envelope of an answer. -/
def record : HostOperation → Decoder Transaction
  | .void => voidData
  | _ => Transaction.decoder

/-- The step that an operation is recorded as. -/
def kind (autoCapture : Bool) : HostOperation → TransactionKind
  | .authorize => if autoCapture then .capture else .auth
  | .processPayment => if autoCapture then .capture else .auth
  | .capture => .capture
  | .void => .void
  | .refund => .refund

/-- The operations that start a payment. -/
def Starts (op : HostOperation) : Prop := op = .authorize ∨ op = .processPayment

instance (op : HostOperation) : Decidable op.Starts := inferInstanceAs (Decidable (_ ∨ _))

lemma kind_eq_capture_iff {autoCapture : Bool} {op : HostOperation} :
    op.kind autoCapture = .capture ↔ op = .capture ∨ op.Starts ∧ autoCapture = true := by
  cases op <;> cases autoCapture <;> simp [kind, Starts]

end HostOperation

/-- What keeps an operation from asking the gateway. -/
inductive Hindered (p : Payment) : HostOperation → GatewayError → Prop
  | amount {op e} (starts : op.Starts) (h : p.amount.toCents = .error e) : Hindered p op (.amount e)
  | draft {op cents e} (starts : op.Starts) (hcents : p.amount.toCents = .ok cents)
      (h : (p.draft cents).build = .error e) : Hindered p op e
  | captureToken (h : p.token = none) : Hindered p .capture (.missingFields "capture" ["token"])
  | voidKind (h : p.kind? = none) : Hindered p .void (.unsupportedPaymentType "unknown")
  | voidToken {kind} (hkind : p.kind? = some kind) (h : p.token = none) :
      Hindered p .void (.missingFields "void" ["token"])
  | voidUnsupported {kind id} (hkind : p.kind? = some kind) (hid : p.token = some id)
      (h : kind.supportsVoid = false) : Hindered p .void (.operationUnsupported "void" kind)
  | refund : Hindered p .refund .refundUnsupported

/-- What an operation asks the gateway. -/
inductive Asks (p : Payment) : HostOperation → Endpoint → Option Json → Prop
  | create {op cents r} (starts : op.Starts) (hcents : p.amount.toCents = .ok cents)
      (h : (p.draft cents).build = .ok r) : Asks p op .create (some r.toJson)
  | retrieve {id} (hid : p.token = some id) : Asks p .capture (.retrieve id) none
  | void {kind id} (hkind : p.kind? = some kind) (hid : p.token = some id)
      (h : kind.supportsVoid = true) : Asks p .void (.void id) none

/-- An operation is hindered or asks the gateway. -/
theorem hindered_or_asks (p : Payment) (op : HostOperation) :
    (∃ e, Hindered p op e) ∨ ∃ endpoint body, Asks p op endpoint body := by
  have hstarts (starts : op.Starts) :
      (∃ e, Hindered p op e) ∨ ∃ endpoint body, Asks p op endpoint body := by
    cases hcents : p.amount.toCents with
    | error e => exact .inl ⟨_,.amount starts hcents⟩
    | ok cents =>
      cases hbuild : (p.draft cents).build with
      | error e => exact .inl ⟨_,.draft starts hcents hbuild⟩
      | ok r => exact .inr ⟨_,_,.create starts hcents hbuild⟩
  cases op with
  | authorize => exact hstarts (.inl rfl)
  | processPayment => exact hstarts (.inr rfl)
  | capture =>
    cases hid : p.token with
    | none => exact .inl ⟨_,.captureToken hid⟩
    | some id => exact .inr ⟨_,_,.retrieve hid⟩
  | void =>
    cases hkind : p.kind? with
    | none => exact .inl ⟨_,.voidKind hkind⟩
    | some kind =>
      cases hid : p.token with
      | none => exact .inl ⟨_,.voidToken hkind hid⟩
      | some id =>
        cases hvoid : kind.supportsVoid with
        | false => exact .inl ⟨_,.voidUnsupported hkind hid hvoid⟩
        | true => exact .inr ⟨_,_,.void hkind hid hvoid⟩
  | refund => exact .inl ⟨_,.refund⟩

/-- Why an operation gives no transaction. -/
inductive Fails (app : App) (net : Network) (p : Payment) (op : HostOperation) :
    GatewayError → Prop
  | hindered {e} (h : Hindered p op e) : Fails app net p op e
  | asked {endpoint body sent e} (asks : Asks p op endpoint body)
      (h : app.gateway.client.Concludes net endpoint body op.record sent (.error e)) :
      Fails app net p op e

/-- The request of an operation is answered by a transaction. -/
def Answered (app : App) (net : Network) (p : Payment) (op : HostOperation) (t : Transaction) :
    Prop :=
  ∃ request, (app.perform net p op).sent = [request] ∧ Answers net request op.record t

namespace App
variable {app : App} {net : Network} {p : Payment} {op : HostOperation}

/-- The exchange behind an operation. -/
def attempt (app : App) (net : Network) (p : Payment) : HostOperation → Attempt Transaction
  | .authorize => app.gateway.createFor net p
  | .processPayment => app.gateway.createFor net p
  | .capture =>
    match p.token with
    | none => .unsent (.error (.missingFields "capture" ["token"])) []
    | some id => app.gateway.client.retrieve net id
  | .void => app.gateway.voidFor net p
  | .refund => .unsent (.error .refundUnsupported) []

/-- The answer that an operation makes of what its exchange gives. -/
def outcomeOf (app : App) (p : Payment) (op : HostOperation) :
    Except GatewayError Transaction → Gateway.Outcome
  | .ok t => .ofTransaction t (op.kind app.gateway.config.autoCapture)
      (op != .capture || t.isApproved) (if op.Starts then p.customerId else none)
  | .error e => .ofError p (op.kind app.gateway.config.autoCapture) e

/-- An operation sends what its exchange sends and makes its answer of the result. -/
theorem perform_eq (app : App) (net : Network) (p : Payment) (op : HostOperation) :
    (app.perform net p op).sent = (app.attempt net p op).sent ∧
    (app.perform net p op).result = app.outcomeOf p op (app.attempt net p op).result := by
  have hauthorize : (app.gateway.authorize net p).result =
      app.outcomeOf p .authorize (app.gateway.createFor net p).result := by
    rw [Gateway.Service.authorize, Gateway.Exchange.result_map, Gateway.Exchange.result_note]
    cases (app.gateway.createFor net p).result <;> rfl
  cases op with
  | authorize => exact ⟨rfl,hauthorize⟩
  | processPayment => exact ⟨rfl,hauthorize⟩
  | capture =>
    cases hid : p.token with
    | none => simp [perform, Gateway.Service.capture, attempt, hid, outcomeOf, HostOperation.kind]
    | some id =>
      refine ⟨by simp [perform, Gateway.Service.capture, attempt, hid],?_⟩
      simp only [perform, Gateway.Service.capture, attempt, hid, Gateway.Exchange.result_map,
        Gateway.Exchange.result_note]
      cases (app.gateway.client.retrieve net id).result <;> rfl
  | void =>
    refine ⟨rfl,?_⟩
    rw [perform, Gateway.Service.void, Gateway.Exchange.result_map, Gateway.Exchange.result_note]
    simp only [attempt]
    cases (app.gateway.voidFor net p).result <;> rfl
  | refund => exact ⟨rfl,rfl⟩

lemma attempt_of_hindered (app : App) (net : Network) {e : GatewayError} (h : Hindered p op e) :
    (app.attempt net p op).sent = [] ∧ (app.attempt net p op).result = .error e := by
  cases h with
  | amount starts h =>
    rcases starts with rfl | rfl <;> simp [attempt, Gateway.Service.createFor, h]
  | draft starts hcents h =>
    rcases starts with rfl | rfl <;> simp [attempt, Gateway.Service.createFor, hcents, h]
  | captureToken h => simp [attempt, h]
  | voidKind h => simp [attempt, Gateway.Service.voidFor, h]
  | voidToken hkind h => simp [attempt, Gateway.Service.voidFor, hkind, h]
  | voidUnsupported hkind hid h =>
    simp [attempt, Gateway.Service.voidFor, hkind, hid, Client.void, h]
  | refund => exact ⟨rfl,rfl⟩

/-- An operation that asks the gateway does what its request comes to. -/
theorem concludes_attempt (app : App) (net : Network) {endpoint : Endpoint} {body : Option Json}
    (h : Asks p op endpoint body) :
    app.gateway.client.Concludes net endpoint body op.record (app.attempt net p op).sent
      (app.attempt net p op).result := by
  have hsend := app.gateway.client.concludes_send net endpoint body op.record
  cases h with
  | create starts hcents h =>
    rcases starts with rfl | rfl <;>
      simpa [attempt, Gateway.Service.createFor, hcents, h, Client.create, HostOperation.record]
        using hsend
  | retrieve hid => simpa [attempt, hid, Client.retrieve, HostOperation.record] using hsend
  | void hkind hid h =>
    simpa [attempt, Gateway.Service.voidFor, hkind, hid, Client.void, h, HostOperation.record]
      using hsend

theorem fails_iff {e : GatewayError} :
    Fails app net p op e ↔ (app.attempt net p op).result = .error e := by
  constructor
  · rintro (h | ⟨asks,h⟩)
    · exact (attempt_of_hindered app net h).2
    · exact (concludes_attempt app net asks).send_eq.2.symm.trans h.send_eq.2
  · intro he
    rcases hindered_or_asks p op with ⟨e',h⟩ | ⟨endpoint,body,asks⟩
    · cases (attempt_of_hindered app net h).2.symm.trans he
      exact .hindered h
    · have h := concludes_attempt app net asks
      rw [he] at h
      exact .asked asks h

theorem answered_iff {t : Transaction} :
    Answered app net p op t ↔ (app.attempt net p op).result = .ok t := by
  rw [Answered, (app.perform_eq net p op).1]
  rcases hindered_or_asks p op with ⟨e,h⟩ | ⟨endpoint,body,asks⟩
  · -- Nothing was sent that could be answered.
    obtain ⟨hsent,hresult⟩ := attempt_of_hindered app net h
    simp [hsent, hresult]
  · exact (concludes_attempt app net asks).eq_ok_iff.symm

end App
end Checkout.Service
