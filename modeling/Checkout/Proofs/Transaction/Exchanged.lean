import Checkout.Proofs.Json.Edits
import Checkout.Proofs.Transaction.Reading

/-! Members that are exchanged for others. A transaction is the same with its amount as a number and as
the text of the number's digits, and so is whatever wraps it; members that are looked at by nobody may
be put beside it. -/
namespace Checkout

open Checkout.Json (Decoder Fields Slots Ascending)

section Wrapped
variable {α : Type} {d : Decoder α} {record field name : String} {members : List (String × Json)}

lemma wrapped_put {v v' : Json} (h : d.value v' = d.value v) (hmembers : Ascending members)
    (hv : members.lookup field = some v) :
    (wrapped record field d).value ((Json.object members).put field v') =
      (wrapped record field d).value (.object members) :=
  Decoder.record_put (Slots.equates_field (congrArg (Except.mapError _) h.symm)) hmembers hv

lemma wrapped_put_of_ne (h : name ≠ field) (hmembers : Ascending members) (v : Json) :
    (wrapped record field d).value ((Json.object members).put name v) =
      (wrapped record field d).value (.object members) :=
  Decoder.record_put_of_notMem Slots.local_field (fun hmem => h (List.mem_singleton.mp hmem))
    hmembers v

end Wrapped

namespace Transaction
variable {members : List (String × Json)} {v v' : Json}

lemma equates_fields (h : centsOfJson v = centsOfJson v') :
    fields.value.Equates "amount_in_cents" v v' := by
  have hamount : (Fields.required "amount_in_cents" (.buffered centsOfJson)).value.Equates
      "amount_in_cents" v v' := Slots.equates_field (congrArg (Except.mapError _) h)
  iterate 13 refine Slots.Equates.seq ?_ (Slots.equates_field_of_ne (by decide))
  refine Slots.Equates.seq ?_ hamount
  refine Slots.Equates.seq ?_ (Slots.equates_field_of_ne (by decide))
  exact Slots.Equates.map (Slots.equates_field_of_ne (by decide)) _

/-- An amount that is spelled in another way is the same amount. -/
lemma decoder_put_amount (h : centsOfJson v = centsOfJson v') (hmembers : Ascending members)
    (hv : members.lookup "amount_in_cents" = some v) :
    decoder.value ((Json.object members).put "amount_in_cents" v') =
      decoder.value (.object members) :=
  Decoder.record_put (equates_fields h) hmembers hv

/-- An amount is read from a number and from the text of its digits. -/
lemma centsOfJson_digits {n : WholeNumber} (h : n.val < 9223372036854775808) :
    centsOfJson (.whole n) = centsOfJson (.string (toString n.val)) := by
  have hwhole : centsOfJson (.whole n) = .ok ⟨n.val,n.fits.1,h⟩ :=
    centsOfJson_eq_ok_iff.mpr (.inl ⟨n,rfl,rfl⟩)
  have htext : centsOfJson (.string (toString n.val)) = .ok ⟨n.val,n.fits.1,h⟩ := by
    refine centsOfJson_eq_ok_iff.mpr (.inr ⟨_,rfl,?_⟩)
    rw [(Text.Integer.denotes_toString n.val).trimChars_eq]
    exact Text.Integer.denotes_toString n.val
  rw [hwhole, htext]

end Transaction

end Checkout
