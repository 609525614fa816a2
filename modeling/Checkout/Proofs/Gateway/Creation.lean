import Checkout.Proofs.Gateway.Amount
import Checkout.Proofs.Transaction.Building

/-! What the gateway is asked when a payment is started. The body of the request is read as an object
that has the payment's own texts, its amount in cents, the payment that its description stands for and
its address; and the request is sent whenever there is one that can be. -/
namespace Checkout

namespace TransactionRequest

/-- The address that goes with a request is a member only if there is one. -/
lemma names_toJson (r : TransactionRequest) : r.toJson.members.map Prod.fst =
    Draft.required ++ (r.shippingAddress.map fun _ => "shipping_address").toList := by
  cases haddress : r.shippingAddress <;> simp [toJson, Json.members, haddress, Draft.required]

end TransactionRequest

namespace Gateway

/-- A request to an endpoint can be built: its address is one of a machine on the web and not too long,
and the authorization may stand in a header. Machines with a name outside ASCII are left out, since
their addresses are not read. -/
def Client.Reaches (c : Client) (e : Endpoint) : Prop :=
  ∃ url, Url.ofText? (c.urlFor e) = some url ∧ url.hasHost = true ∧
    (url.scheme = "http" ∨ url.scheme = "https") ∧ url.toText.utf8ByteSize ≤ Http.Request.longestUrl ∧
    Http.isHeaderText (c.authorization e.key) = true

/-- What is in the body does not matter for whether a request can be built. -/
lemma Client.reaches_iff {c : Client} {e : Endpoint} (body : Option Json) :
    c.Reaches e ↔ ∃ request, c.request e body = .ok request := by
  constructor
  · rintro ⟨url,hurl,hhost,hweb,hlength,hheader⟩
    exact ⟨_,Http.Request.build_eq_ok_iff.mpr ⟨url,hurl,hhost,hheader,hweb,hlength,rfl⟩⟩
  · rintro ⟨request,h⟩
    obtain ⟨url,hurl,hhost,hheader,hweb,hlength,-⟩ := Http.Request.build_eq_ok_iff.mp h
    exact ⟨url,hurl,hhost,hweb,hlength,hheader⟩

/-- What is asked for a payment: an object with these names, each with what the host has given. -/
structure Payment.Conveyed (p : Payment) (j : Json) : Prop where
  names : ∃ members, j = .object members ∧ (members.map Prod.fst).Perm
    (Draft.required ++ (p.shipping.map fun _ => "shipping_address").toList)
  acceptanceToken : ∃ token, p.extra.acceptanceToken = some token ∧
    j.get? "acceptance_token" = some (.string token)
  amount : ∃ m, p.amount.toCents = .ok m ∧ j.get? "amount_in_cents" = some (.whole (.ofCents m))
  currency : j.get? "currency" = some (.string "COP")
  customerEmail : j.get? "customer_email" = some (.string p.customerEmail)
  reference : j.get? "reference" = some (.string p.reference)
  paymentMethod : ∃ descriptor method written, p.extra.paymentMethod = some descriptor ∧
    Descriptor.toMethod descriptor = .ok method ∧ j.get? "payment_method" = some written ∧
    PaymentMethod.decoder.value written = .ok method
  shippingAddress : ∀ address, p.shipping = some address → ∃ written,
    j.get? "shipping_address" = some written ∧
    ShippingAddress.decoder.value written = .ok (.ofHost address)

end Gateway

namespace Service

open Checkout.Http (Network)
open Checkout.Gateway (Payment)
open Checkout.Money (Cents)

variable {p : Payment} {m : Cents} {r : TransactionRequest}

/-- The request of a payment's draft says what the payment says. -/
theorem conveyed_of_build (hm : p.amount.toCents = .ok m) (hr : (p.draft m).build = .ok r) :
    p.Conveyed r.toJson.normal := by
  obtain ⟨hkeeps,descriptor,hdescriptor,hread⟩ := Draft.keeps_of_build hr
  have hget := r.get?_normal_toJson
  have haddress : r.shippingAddress = p.shipping.map .ofHost := hkeeps.shippingAddress.symm
  have hamount : m = r.amount := Option.some.inj hkeeps.amount
  have hcurrency : "COP" = r.currency := Option.some.inj hkeeps.currency
  have hemail : p.customerEmail = r.customerEmail := Option.some.inj hkeeps.customerEmail
  have hreference : p.reference = r.reference := Option.some.inj hkeeps.reference
  refine ⟨?_,⟨_,hkeeps.acceptanceToken,hget _⟩,⟨m,hm,?_⟩,?_,?_,?_,
    ⟨_,_,_,hdescriptor,hread,hget _,r.paymentMethod.ofJson_toJson⟩,fun address hshipping => ?_⟩
  · obtain ⟨members,hmembers,hperm⟩ := Json.exists_normal_object r.nodup_members_toJson
    rw [r.names_toJson, haddress, Option.map_map] at hperm
    exact ⟨members,hmembers,hperm⟩
  · rw [hamount]
    exact hget _
  · rw [hcurrency]
    exact hget _
  · rw [hemail]
    exact hget _
  · rw [hreference]
    exact hget _
  · rw [hshipping] at haddress
    have hwritten : r.toJson.get? "shipping_address" = some (ShippingAddress.ofHost address).toJson := by
      rw [TransactionRequest.toJson, haddress]
      rfl
    exact ⟨_,(hget _).trans (congrArg _ hwritten),(ShippingAddress.lossless _).1.value⟩

end Service
end Checkout
