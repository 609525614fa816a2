import Checkout.Proofs.Gateway.Outcome
import Checkout.Proofs.Money.Text
import Checkout.Proofs.Money.Value
import Checkout.Proofs.Transaction.Building
import Checkout.Proofs.Transaction.Request
import Checkout.Proofs.Transaction.Written

/-! The amount of a payment on its way to the gateway and back. The request names the nearest count
of cents, and a reply that spells this count is shown with exactly that amount. The text that is
shown makes the same request again. -/
namespace Checkout

open Checkout.Money (Cents Decimal)

namespace Service

open Checkout.Http (Network Reply Request)
open Checkout.Gateway (Answers Payment)
open Checkout.Json (Decoder Node)

/-- The amount of the transaction in the bytes of a reply, as it is written there. -/
def writtenAmount? (bytes : List UInt8) : Option Json := do
  let record ← (Node.ofBytes bytes).field? "data" 0
  let amount ← record.field? "amount_in_cents" 2
  (amount.read Json.levels).toOption

/-- A reply spells the amount of its transaction. -/
def Carries (reply : Reply) (m : Cents) : Prop :=
  ∃ bytes j, reply.bytes? = some bytes ∧ writtenAmount? bytes = some j ∧ m.Spells j

/-- A request asks for an amount: its body is read as an object that names it. -/
def Charges (request : Request) (m : Cents) : Prop :=
  ∃ body j, request.body = some body ∧ Json.parse body = .ok j ∧
    j.get? "amount_in_cents" = some (.whole (.ofCents m))

section Authorize
variable {app : App} {net : Network} {p : Payment} {m : Cents} {t : Transaction}

lemma amount_eq_of_carries {request : Request} (h : Answers net request Transaction.decoder t)
    (hcarries : ∀ reply, net.deliver request = some reply → Carries reply m) : t.amount = m := by
  obtain ⟨reply,bytes,hreply,-,-,hbytes,hread⟩ := h
  obtain ⟨bytes',j,hbytes',hwritten,hspells⟩ := hcarries reply hreply
  cases hbytes.symm.trans hbytes'
  obtain ⟨record,hrecord,hwritten⟩ := Option.bind_eq_some_iff.mp hwritten
  obtain ⟨part,hpart,hj⟩ := Option.bind_eq_some_iff.mp hwritten
  obtain ⟨depth,hdata⟩ := Decoder.text_of_field (Decoder.text_root_of_fromBytes hread) hrecord
  exact Transaction.amount_eq_of_spells hdata hpart (toOption_eq_some_iff.mp hj) hspells

/-- What authorizing sends is settled by the draft of the payment. -/
lemma sent_authorize (app : App) (net : Network) (hm : p.amount.toCents = .ok m) :
    (app.perform net p .authorize).sent =
      match (p.draft m).build with
      | .error _ => []
      | .ok r => (app.gateway.client.request .create (some r.toJson)).toOption.toList := by
  rw [(app.perform_eq net p .authorize).1, App.attempt, Gateway.Service.createFor]
  simp only [hm]
  cases (p.draft m).build with
  | error e => rfl
  | ok r => exact Gateway.Client.sent_send ..

/-- A request that is sent is the only one, and is made of the payment's draft. -/
lemma exists_of_mem_sent {request : Request} (h : request ∈ (app.perform net p .authorize).sent) :
    (app.perform net p .authorize).sent = [request] ∧
    ∃ m r, p.amount.toCents = .ok m ∧ (p.draft m).build = .ok r ∧
      app.gateway.client.request .create (some r.toJson) = .ok request := by
  rcases hindered_or_asks p .authorize with ⟨e,hhindered⟩ | ⟨endpoint,body,asks⟩
  · rw [(app.perform_eq net p .authorize).1, (App.attempt_of_hindered app net hhindered).1] at h
    cases h
  · cases asks with
    | @create _ m r _ hm hr =>
      have hsent := sent_authorize app net hm
      simp only [hr] at hsent
      rw [hsent] at h ⊢
      have hbuilt : app.gateway.client.request .create (some r.toJson) = .ok request := by
        simpa [toOption_eq_some_iff] using h
      exact ⟨by simp [hbuilt, Except.toOption],m,r,hm,hr,hbuilt⟩

lemma charges_of_mem_sent (hm : p.amount.toCents = .ok m) {request : Request}
    (hrequest : request ∈ (app.perform net p .authorize).sent) : Charges request m := by
  obtain ⟨-,m',r,hm',hr,hbuilt⟩ := exists_of_mem_sent hrequest
  cases hm.symm.trans hm'
  obtain ⟨url,-,-,-,-,-,rfl⟩ := Http.Request.build_eq_ok_iff.mp hbuilt
  cases (Draft.keeps_of_build hr).1.amount
  exact ⟨_,_,rfl,r.parse_render,r.get?_normal_toJson "amount_in_cents"⟩

/-- No cent of a payment is lost. If the reply spells the count of cents that was asked for, the
answer shows exactly that amount, within half a cent of the payment's and the same if that has at
most two places; and authorizing again with the text that is shown sends the same request. -/
theorem authorize_keeps_cents (hm : p.amount.toCents = .ok m)
    (hanswered : Answered app net p .authorize t)
    (hcarries : ∀ request ∈ (app.perform net p .authorize).sent, ∀ reply,
      net.deliver request = some reply → Carries reply m) :
    let shown := app.perform net p .authorize
    let o := shown.result
    (∃ request, shown.sent = [request] ∧ Charges request m) ∧
    o.amount.value = m.count / 100 ∧
    o.toJson.get? "amount" = some (.string m.inUnits) ∧
    |o.amount.value - p.amount.value| ≤ 1 / 200 ∧
    ((p.amount.scale ≤ 2 ∨ ∃ k : ℤ, 100 * p.amount.value = k) →
      o.amount.value = p.amount.value) ∧
    ∃ amount, Decimal.ofText m.inUnits = .ok amount ∧ ∀ net',
      (app.perform net' { p with amount } .authorize).sent = shown.sent := by
  intro shown o
  obtain ⟨request,hsent,hanswer⟩ := hanswered
  have hrequest : request ∈ shown.sent := by simp [shown, hsent]
  have hamount : o.amount = m.toDecimal := by
    have hshows := Answered.shows ⟨request,hsent,hanswer⟩
    rw [hshows.amount, amount_eq_of_carries hanswer (hcarries request hrequest)]
  refine ⟨⟨request,hsent,charges_of_mem_sent hm hrequest⟩,?_,?_,?_,?_,m.toDecimal,?_,?_⟩
  · rw [hamount, m.value_toDecimal]
  · rw [← m.toText_toDecimal, ← hamount]
    rfl
  · rw [hamount]
    exact Decimal.abs_value_sub_le hm
  · rintro hplaces
    obtain ⟨k,hk⟩ : ∃ k : ℤ, 100 * p.amount.value = k := by
      rcases hplaces with hscale | hwhole
      · exact Decimal.exists_hundredfold_eq hscale
      · exact hwhole
    rw [hamount]
    exact Decimal.value_toDecimal_eq hm hk
  · rw [← m.toText_toDecimal]
    exact Decimal.ofText_toText (by decide : (0 : ℤ) ≤ 2)
  · intro net'
    have hagain : ({ p with amount := m.toDecimal } : Payment).amount.toCents = .ok m :=
      m.toCents_toDecimal
    rw [sent_authorize app net' hagain, sent_authorize app net hm]
    rfl

end Authorize

/-- A payment by cash of 100.005. -/
def splitCent : Payment := { cashPayment with amount := ⟨100005,3⟩ }

/-- A reply that approves a payment and writes its amount as a text. -/
def quotedReply : Reply :=
  ⟨201,none,Text.Utf8.encode ("\x7b\"data\":\x7b\"id\":\"t1\"," ++
    "\"amount_in_cents\":\"10000\",\"status\":\"APPROVED\"\x7d\x7d"),false⟩

/-- A gateway that always replies so. -/
def quoting : Network := .up fun _ => some quotedReply

theorem authorize_keeps_cents_splitCent :
    let shown := capturing.perform quoting splitCent .authorize
    (∃ request, shown.sent = [request] ∧ Charges request ⟨10000,by decide⟩) ∧
    shown.result.toJson.get? "amount" = some (.string "100.00") := by
  have hm : splitCent.amount.toCents = .ok ⟨10000,by decide⟩ := by decide +kernel
  have hanswer :
      (capturing.attempt quoting splitCent .authorize).result.toOption.isSome := by decide +kernel
  obtain ⟨t,ht⟩ := Option.isSome_iff_exists.mp hanswer
  have hanswered : Answered capturing quoting splitCent .authorize t :=
    App.answered_iff.mpr (toOption_eq_some_iff.mp ht)
  have hcarries : ∀ request ∈ (capturing.perform quoting splitCent .authorize).sent, ∀ reply,
      quoting.deliver request = some reply → Carries reply ⟨10000,by decide⟩ := by
    rintro request - reply hreply
    cases hreply
    have hwritten : (writtenAmount? quotedReply.body).bind Json.string? = some "10000" := by
      decide +kernel
    obtain ⟨j,hj,htext⟩ := Option.bind_eq_some_iff.mp hwritten
    rw [Json.string?_eq_some_iff.mp htext] at hj
    exact ⟨_,_,rfl,hj,Cents.spells_toString _⟩
  obtain ⟨hrequest,-,hshown,-⟩ := authorize_keeps_cents hm hanswered hcarries
  exact ⟨hrequest,hshown⟩

end Service
end Checkout
