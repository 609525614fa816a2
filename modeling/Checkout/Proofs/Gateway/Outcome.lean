import Checkout.Proofs.Gateway.Operation
import Checkout.Proofs.Transaction.RoundTrip

/-! What a host platform learns from an operation. The answer shows the transaction that came back or
reports the error, and nothing in between; whether it stands for money that was captured depends on
the operation and on the status of the transaction. -/
namespace Checkout.Service

open Checkout.Http (Network)
open Checkout.Gateway (Answers Outcome Payment)

/-- An answer that shows a transaction. -/
structure Shows (autoCapture : Bool) (p : Payment) (op : HostOperation) (t : Transaction)
    (o : Outcome) : Prop where
  isSuccess : o.isSuccess = true ↔ (op = .capture → t.status = .approved)
  actionRequired : o.actionRequired = true ↔ t.status = .pending
  transactionId : o.transactionId = some t.id
  amount : o.amount = t.amount.toDecimal
  currency : o.currency = t.currency
  error : o.error = none
  kind : o.kind = op.kind autoCapture
  rawResponse : o.rawResponse = t.toJson.normal
  rawResponse_ne_null : o.rawResponse ≠ .null
  decodes : Transaction.decoder.value o.rawResponse = .ok t
  customerId : o.customerId = if op.Starts then p.customerId else none

/-- An answer that reports an error. -/
structure Reports (autoCapture : Bool) (p : Payment) (op : HostOperation) (e : GatewayError)
    (o : Outcome) : Prop where
  isSuccess : o.isSuccess = false
  actionRequired : o.actionRequired = false
  transactionId : o.transactionId = p.token
  amount : o.amount = p.amount.toTwoPlaces
  currency : o.currency = p.currency
  error : o.error = some e.message
  kind : o.kind = op.kind autoCapture
  rawResponse : o.rawResponse = .object []
  customerId : o.customerId = p.customerId

lemma Shows.not_reports {autoCapture : Bool} {p : Payment} {op : HostOperation} {t : Transaction}
    {e : GatewayError} {o : Outcome} (h : Shows autoCapture p op t o) :
    ¬ Reports autoCapture p op e o := by
  intro h'
  cases h.error.symm.trans h'.error

lemma get?_status_toJson (t : Transaction) :
    t.toJson.normal.get? "status" = some (.string t.status.name) :=
  Json.get?_normal_object t.nodup_members_toJson "status"

section Operation
variable {app : App} {net : Network} {p : Payment} {op : HostOperation}

/-- A transaction that answers an operation is settled. -/
lemma Answered.settled {t : Transaction} (h : Answered app net p op t) : t.Settled := by
  obtain ⟨request,-,reply,bytes,-,-,-,-,hread⟩ := h
  obtain ⟨depth,node,henvelope⟩ := Json.Decoder.text_of_fromBytes hread
  obtain ⟨depth,node,hrecord⟩ := Json.Decoder.text_of_record_required henvelope
  cases op with
  | void =>
    -- The record of a void is an envelope of its own.
    obtain ⟨depth,node,h⟩ := Json.Decoder.text_of_record_required hrecord
    exact Transaction.settled_of_text h
  | authorize | processPayment | capture | refund => exact Transaction.settled_of_text hrecord

lemma Answered.shows {t : Transaction} (h : Answered app net p op t) :
    Shows app.gateway.config.autoCapture p op t (app.perform net p op).result := by
  rw [(app.perform_eq net p op).2, App.answered_iff.mp h]
  have hsuccess :
      (op != .capture || t.isApproved) = true ↔ (op = .capture → t.status = .approved) := by
    cases op <;> simp [Transaction.isApproved]
  have hpending : t.isPending = true ↔ t.status = .pending := by simp [Transaction.isPending]
  have hraw : t.toJson.normal ≠ .null := by
    intro hnull
    have hget := get?_status_toJson t
    rw [hnull] at hget
    cases hget
  exact ⟨hsuccess,hpending,rfl,rfl,rfl,rfl,rfl,rfl,hraw,h.settled.decoder_toJson,rfl⟩

lemma Fails.reports {e : GatewayError} (h : Fails app net p op e) :
    Reports app.gateway.config.autoCapture p op e (app.perform net p op).result := by
  rw [(app.perform_eq net p op).2, App.fails_iff.mp h]
  exact ⟨rfl,rfl,rfl,rfl,rfl,rfl,rfl,rfl,rfl⟩

/-- An operation is answered by a transaction or fails, and not both. -/
theorem answered_xor_fails (app : App) (net : Network) (p : Payment) (op : HostOperation) :
    Xor (∃ t, Answered app net p op t) (∃ e, Fails app net p op e) := by
  simp only [App.answered_iff, App.fails_iff]
  cases (app.attempt net p op).result with
  | error e => exact .inr ⟨⟨e,rfl⟩,by simp⟩
  | ok t => exact .inl ⟨⟨t,rfl⟩,by simp⟩

/-- The answer to an operation shows the transaction that came back, or else reports the error, and
does not do both; a refund never gives a transaction. -/
theorem perform_shows_or_reports (app : App) (net : Network) (p : Payment) (op : HostOperation) :
    let o := (app.perform net p op).result
    let autoCapture := app.gateway.config.autoCapture
    (∀ t, Answered app net p op t → Shows autoCapture p op t o) ∧
    (∀ e, Fails app net p op e → Reports autoCapture p op e o) ∧
    Xor (∃ t, Answered app net p op t) (∃ e, Fails app net p op e) ∧
    ¬ ((∃ t, Shows autoCapture p op t o) ∧ ∃ e, Reports autoCapture p op e o) ∧
    (op = .refund → Fails app net p op .refundUnsupported) := by
  refine ⟨fun t => Answered.shows,fun e => Fails.reports,answered_xor_fails app net p op,?_,?_⟩
  · rintro ⟨⟨t,hshows⟩,e,hreports⟩
    exact hshows.not_reports hreports
  · rintro rfl
    exact .hindered .refund

end Operation

/-- A service that captures when it authorizes. -/
def capturing : App :=
  let config : Config := ⟨true,⟨"pub","prv","k"⟩,⟨"","",""⟩,["COP"],true,none,"0.0.0.0",8087⟩
  ⟨config,⟨⟨"http://gateway","pub","prv"⟩,config⟩,.logging,.empty⟩

/-- A payment by cash at a bank. -/
def cashPayment : Payment :=
  ⟨none,⟨100,0⟩,"COP","a@b.co",none,"r1",none,
    ⟨some "accepted",some (.object [("type",.string "BANCOLOMBIA_COLLECT")])⟩⟩

/-- A gateway that creates every transaction as a declined one. -/
def declining : Network :=
  .up fun _ => some ⟨201,none,Text.Utf8.encode ("\x7b\"data\":\x7b\"id\":\"t1\"," ++
    "\"amount_in_cents\":10000,\"status\":\"DECLINED\"\x7d\x7d"),false⟩

theorem shows_declining : ∃ t, Answered capturing declining cashPayment .authorize t ∧
    Shows true cashPayment .authorize t (capturing.perform declining cashPayment .authorize).result := by
  have hanswer :
      (capturing.attempt declining cashPayment .authorize).result.toOption.isSome := by decide +kernel
  obtain ⟨t,ht⟩ := Option.isSome_iff_exists.mp hanswer
  have h : Answered capturing declining cashPayment .authorize t :=
    App.answered_iff.mpr (toOption_eq_some_iff.mp ht)
  exact ⟨t,h,(perform_shows_or_reports _ _ _ _).1 t h⟩

/-- A captured payment is one for which the gateway has sent a transaction. Looking whether it was
approved finds an approved one; starting a payment that is captured at once finds one that is not
pending, whether or not it was approved. -/
theorem captured_iff (app : App) (net : Network) (p : Payment) (op : HostOperation) :
    let o := (app.perform net p op).result
    (o.isSuccess = true ∧ o.actionRequired = false ∧ o.kind = .capture) ↔
      ∃ t, Answered app net p op t ∧ o.rawResponse.get? "status" = some (.string t.status.name) ∧
        (op = .capture ∧ t.status = .approved ∨
          op.Starts ∧ app.gateway.config.autoCapture = true ∧ t.status ≠ .pending) := by
  intro o
  constructor
  · rintro ⟨hsuccess,haction,hkind⟩
    rcases answered_xor_fails app net p op with ⟨⟨t,h⟩,-⟩ | ⟨⟨e,h⟩,-⟩
    · have hshows := h.shows
      refine ⟨t,h,?_,?_⟩
      · rw [hshows.rawResponse, get?_status_toJson]
      · rcases HostOperation.kind_eq_capture_iff.mp (hshows.kind.symm.trans hkind) with
          rfl | ⟨starts,hauto⟩
        · exact .inl ⟨rfl,hshows.isSuccess.mp hsuccess rfl⟩
        · refine .inr ⟨starts,hauto,fun hpending => ?_⟩
          cases haction.symm.trans (hshows.actionRequired.mpr hpending)
    · cases h.reports.isSuccess.symm.trans hsuccess
  · rintro ⟨t,h,-,hcase⟩
    have hshows := h.shows
    have hstatus : t.status ≠ .pending ∧ op.kind app.gateway.config.autoCapture = .capture ∧
        (op = .capture → t.status = .approved) := by
      rcases hcase with ⟨rfl,happroved⟩ | ⟨starts,hauto,hpending⟩
      · exact ⟨by simp [happroved],rfl,fun _ => happroved⟩
      · refine ⟨hpending,HostOperation.kind_eq_capture_iff.mpr (.inr ⟨starts,hauto⟩),?_⟩
        rintro rfl
        rcases starts with he | he <;> cases he
    obtain ⟨hpending,hkind,happroved⟩ := hstatus
    exact ⟨hshows.isSuccess.mpr happroved,
      Bool.eq_false_iff.mpr fun haction => hpending (hshows.actionRequired.mp haction),
      hshows.kind.trans hkind⟩

theorem not_captured_only_if_approved : ¬ ∀ (app : App) (net : Network) (p : Payment)
    (op : HostOperation), let o := (app.perform net p op).result
    o.isSuccess = true → o.actionRequired = false → o.kind = .capture →
      o.rawResponse.get? "status" = some (.string "APPROVED") := by
  intro h
  have hcaptured : let o := (capturing.perform declining cashPayment .authorize).result
      o.isSuccess = true ∧ o.actionRequired = false ∧ o.kind = .capture ∧
        (o.rawResponse.get? "status").bind Json.string? = some "DECLINED" := by
    decide +kernel
  obtain ⟨hsuccess,haction,hkind,hstatus⟩ := hcaptured
  rw [h capturing declining cashPayment .authorize hsuccess haction hkind] at hstatus
  revert hstatus
  decide

end Checkout.Service
