import Checkout.Transaction.Draft
import Checkout.Proofs.Transaction.Records

/-! The text in which a transaction is asked for. It holds no number that is not whole and nests twice,
so whoever reads it finds the members that were written. -/
namespace Checkout

open Checkout.Json (writable_object writable_string writable_whole)

namespace TransactionRequest

lemma writable_toJson (r : TransactionRequest) : r.toJson.Writable 2 := by
  refine writable_object ?_
  have hmethod := r.paymentMethod.faithful_toJson.toWritable
  cases haddress : r.shippingAddress with
  | none => simp [writable_string, writable_whole, hmethod]
  | some address =>
    simp [writable_string, writable_whole, hmethod, (address.faithful_toJson).toWritable]

lemma nodup_members_toJson (r : TransactionRequest) : (r.toJson.members.map Prod.fst).Nodup := by
  cases haddress : r.shippingAddress <;> simp [toJson, Json.members, haddress]

lemma get?_normal_toJson (r : TransactionRequest) (name : String) :
    r.toJson.normal.get? name = (r.toJson.get? name).map Json.normal :=
  Json.get?_normal_object r.nodup_members_toJson name

/-- The text of a request is read as the request. -/
theorem parse_render (r : TransactionRequest) : Json.parse r.toJson.render = .ok r.toJson.normal :=
  r.writable_toJson.parse_render (by decide)

end TransactionRequest
end Checkout
