import Checkout.Proofs.Json.FromText
import Checkout.Proofs.Transaction.Reading

/-! A transaction survives its own encoding. What it carries without a fixed shape is not null and is
in normal form once it was read from a text, and such a transaction is read again from the JSON that
it is written as. -/
namespace Checkout

open Checkout.Json (Decoder Fields Kept Node Slots)

namespace Json

/-- The members of an object. -/
def members : Json → List (String × Json)
  | .object members => members
  | _ => []

lemma Decoder.optional_string_written (s : Option String) :
    (Decoder.optional .string).value (Json.optional Json.string s).normal = .ok s := by
  cases s <;> rfl

/-- A raw value is read as it is, and null as none. -/
lemma Decoder.optional_any_written {o : Option Json} (h : Kept o) :
    (Decoder.optional .any).value (Json.orNull o).normal = .ok o := by
  rw [Decoder.optional_eq_ok_iff]
  cases o with
  | none => exact .inl ⟨rfl,rfl⟩
  | some j =>
    obtain ⟨hne,hnormal⟩ := h j rfl
    rw [Json.orNull, Option.getD_some, hnormal]
    exact .inr ⟨hne,j,rfl,rfl⟩

end Json

lemma TransactionStatus.decoder_toJson (s : TransactionStatus) : decoder.value s.toJson = .ok s :=
  decoder_string_eq_ok_iff.mpr rfl

namespace Transaction

/-- A transaction that holds its raw values as they are written. -/
structure Settled (t : Transaction) : Prop where
  paymentMethod : Kept t.paymentMethod
  shippingAddress : Kept t.shippingAddress
  paymentSourceId : Kept t.paymentSourceId
  paymentLinkId : Kept t.paymentLinkId
  customerData : Kept t.customerData
  billId : Kept t.billId

lemma checked_fields : fields.Checked := by
  iterate 15 refine Fields.Checked.seq ?_ Fields.checked_field
  exact Fields.Checked.map Fields.checked_field

lemma nodup_members_toJson (t : Transaction) : (t.toJson.members.map Prod.fst).Nodup := by
  simp [toJson, Json.members]

lemma centsOfJson_written (c : Money.Cents) : centsOfJson (Json.whole (.ofCents c)) = .ok c :=
  centsOfJson_eq_ok_iff.mpr (.inl ⟨_,rfl,rfl⟩)

/-- The fields of a transaction are read from the members that it is written as. -/
theorem Settled.reads {t : Transaction} (h : t.Settled) :
    fields.Reads (fun name => (t.toJson.members.lookup name).map Json.normal) t := by
  have htext := Decoder.optional_string_written
  have hraw := @Decoder.optional_any_written
  have hwritten := @Fields.reads_written
  rw [reads_iff]
  exact ⟨hwritten rfl rfl, hwritten rfl (htext t.createdAt),
    hwritten rfl (centsOfJson_written t.amount), hwritten rfl (htext t.reference),
    hwritten rfl rfl, hwritten rfl (htext t.paymentMethodType),
    hwritten rfl (hraw h.paymentMethod), hwritten rfl (TransactionStatus.decoder_toJson t.status),
    hwritten rfl (htext t.statusMessage), hwritten rfl (htext t.customerEmail),
    hwritten rfl (hraw h.shippingAddress), hwritten rfl (htext t.redirectUrl),
    hwritten rfl (hraw h.paymentSourceId), hwritten rfl (hraw h.paymentLinkId),
    hwritten rfl (hraw h.customerData), hwritten rfl (hraw h.billId)⟩

/-- What a settled transaction is written as is read as that transaction. -/
theorem Settled.decoder_toJson {t : Transaction} (h : t.Settled) :
    decoder.value t.toJson.normal = .ok t :=
  Decoder.record_written checked_fields t.nodup_members_toJson h.reads

/-- The raw values of a transaction. -/
def raw (t : Transaction) : List (Option Json) :=
  [t.paymentMethod,t.shippingAddress,t.paymentSourceId,t.paymentLinkId,t.customerData,t.billId]

/-- What holds of everything that a transaction is read from holds of its raw values. -/
theorem yields_fields {P : Json.Cell → Prop} {P' : Json → Prop}
    (hread : ∀ c written, P c → c.node.read c.depth = .ok written → P' written.normal) :
    fields.Yields P P' fun t => ∀ o ∈ t.raw, Json.Held P' o := by
  have htrue {α : Type} {name : String} {d : Decoder α} {absent : Json.Absent α} :
      (Fields.field name d absent).Yields P P' fun _ => True := Fields.yields_true
  have hraw {name : String} : (Fields.optional name .any).Yields P P' (Json.Held P') :=
    Fields.yields_raw hread
  refine .seq hraw <| .seq hraw <| .seq hraw <| .seq hraw <| .seq htrue <| .seq hraw <| .seq htrue <|
    .seq htrue <| .seq htrue <| .seq hraw <| .seq htrue <| .seq htrue <| .seq htrue <| .seq htrue <|
    .seq htrue <| .map htrue ?_
  intro _ _ _ _ _ _ _ _ _ _ _ _ method hmethod _ _ _ _ _ _ address haddress _ _ source hsource
    link hlink data hdata bill hbill
  simp [raw, hmethod, haddress, hsource, hlink, hdata, hbill]

lemma settled_of_raw {t : Transaction} (h : ∀ o ∈ t.raw, Kept o) : t.Settled :=
  ⟨h _ (by simp [raw]),h _ (by simp [raw]),h _ (by simp [raw]),h _ (by simp [raw]),
    h _ (by simp [raw]),h _ (by simp [raw])⟩

/-- A transaction read from a text is settled. -/
theorem settled_of_text {depth : ℕ} {node : Node} {t : Transaction}
    (h : decoder.text depth node = .ok t) : t.Settled := by
  have hfields : fields.Yields (fun _ => True) (fun j => j.normal = j) _ :=
    yields_fields fun _ written _ _ => Json.normal_normal written
  exact settled_of_raw (Decoder.of_text_record hfields.text (by simp) h)

end Transaction
end Checkout
