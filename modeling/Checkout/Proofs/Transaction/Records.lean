import Checkout.Payment.Descriptor
import Checkout.Proofs.Json.Survival
import Checkout.Proofs.Transaction.RoundTrip
import Checkout.Proofs.Transaction.Wire

/-! The records that are exchanged with the gateway, written and read again. None of them carries
JSON without a fixed shape, so each survives as it is: texts of any characters, what is null because
it is not there, a person type that is told apart by its form, and a payment that is told apart by
its type. A payment is also what a storefront would have to send for it. -/
namespace Checkout

open Checkout.Json (Decoder Fields Slots faithful_object faithful_optional_string faithful_string
  faithful_whole)

/-- Every record of a type survives its encoding, as a value and as text. -/
def Json.Decoder.Lossless {α : Type} (d : Decoder α) (encode : α → Json) : Prop :=
  ∀ a, d.Survives encode a ∧ d.SurvivesText encode a

lemma Json.Decoder.lossless_of_value {α : Type} {d : Decoder α} {encode : α → Json} (h : d.Agrees)
    {k : ℕ} (hk : k < levels) (hencode : ∀ a, (encode a).Faithful k)
    (hvalue : ∀ a, d.value (encode a).normal = .ok a) : d.Lossless encode := by
  intro a
  have hsurvives := survives_of_value (hvalue a)
  exact ⟨hsurvives,hsurvives.text h (hencode a) hk⟩

/-- A record survives if its fields are read from the members that are written for them. -/
lemma Json.Decoder.lossless_record {α : Type} {record : String} {fields : Fields α}
    {members : α → List (String × Json)} (hagrees : (Decoder.record record fields).Agrees)
    (hchecked : fields.Checked) (hfaithful : ∀ a, (Json.object (members a)).Faithful 1)
    (hreads : ∀ a, fields.Reads (fun name => ((members a).lookup name).map normal) a) :
    (Decoder.record record fields).Lossless fun a => .object (members a) := by
  refine lossless_of_value hagrees (by decide : 1 < levels) hfaithful fun a => ?_
  exact record_written hchecked (isDistinct_object.mp (hfaithful a).distinct).1 (hreads a)

lemma AcceptanceToken.lossless : decoder.Lossless toJson := by
  refine Decoder.lossless_record IsWire.acceptanceToken.agrees ?_ ?_ fun t => ?_
  · exact (Fields.checked_field.map).seq Fields.checked_field
  · exact fun t => faithful_object (by simp) (by simp [faithful_string])
  · exact ((Fields.reads_written rfl rfl).map mk).seq (Fields.reads_written rfl rfl)

lemma Institution.lossless : decoder.Lossless toJson := by
  refine Decoder.lossless_record IsWire.institution.agrees ?_ ?_ fun i => ?_
  · exact (Fields.checked_field.map).seq Fields.checked_field
  · exact fun i => faithful_object (by simp) (by simp [faithful_string])
  · exact ((Fields.reads_written rfl rfl).map mk).seq (Fields.reads_written rfl rfl)

lemma CardToken.lossless : decoder.Lossless toJson := by
  refine Decoder.lossless_record IsWire.cardToken.agrees ?_ ?_ fun t => ?_
  · iterate 9 refine Fields.Checked.seq ?_ Fields.checked_field
    exact Fields.checked_field.map
  · exact fun t => faithful_object (by simp) (by simp [faithful_string, faithful_optional_string])
  · have htext := Json.Decoder.optional_string_written
    exact ((Fields.reads_written rfl rfl).map mk).seq (Fields.reads_written rfl (htext t.createdAt))
      |>.seq (Fields.reads_written rfl (htext t.brand))
      |>.seq (Fields.reads_written rfl (htext t.name))
      |>.seq (Fields.reads_written rfl (htext t.lastFour))
      |>.seq (Fields.reads_written rfl (htext t.bin))
      |>.seq (Fields.reads_written rfl (htext t.expYear))
      |>.seq (Fields.reads_written rfl (htext t.expMonth))
      |>.seq (Fields.reads_written rfl (htext t.cardHolder))
      |>.seq (Fields.reads_written rfl (htext t.expiresAt))

lemma ShippingAddress.faithful_toJson (a : ShippingAddress) : a.toJson.Faithful 1 :=
  faithful_object (by simp) (by simp [faithful_string])

lemma ShippingAddress.lossless : decoder.Lossless toJson := by
  refine Decoder.lossless_record IsWire.shippingAddress.agrees ?_ faithful_toJson fun a => ?_
  · iterate 7 refine Fields.Checked.seq ?_ Fields.checked_field
    exact Fields.checked_field.map
  · have hwritten := @Fields.reads_written
    exact ((hwritten rfl rfl).map mk).seq (hwritten rfl rfl) |>.seq (hwritten rfl rfl)
      |>.seq (hwritten rfl rfl) |>.seq (hwritten rfl rfl) |>.seq (hwritten rfl rfl)
      |>.seq (hwritten rfl rfl) |>.seq (hwritten rfl rfl)

namespace UserType

lemma faithful_toJson (k : ℕ) (u : UserType) : u.toJson.Faithful k := by
  cases u with
  | code n => exact faithful_whole k _
  | label s => exact faithful_string k s

lemma normal_toJson (u : UserType) : u.toJson.normal = u.toJson := by
  cases u <;> rfl

lemma ofJson_toJson (u : UserType) : ofJson u.toJson = .ok u := by
  cases u with
  | code n =>
    have hn := n.toNat_lt
    simp only [toJson, Json.whole, WholeNumber.ofUInt8, ofJson]
    rw [if_pos (by omega)]
    simp
  | label s => rfl

lemma lossless : decoder.Lossless toJson := by
  refine Decoder.lossless_of_value IsWire.userType.agrees (by decide) (faithful_toJson 0) ?_
  intro u
  rw [u.normal_toJson]
  exact u.ofJson_toJson

end UserType

namespace PaymentMethod

/-- The count of installments of a payment by card. -/
def installments? : PaymentMethod → Option UInt32
  | .card _ installments => installments
  | _ => none

/-- The members of a payment are its type and what its kind needs, and installments if there are
any. -/
lemma names_toJson (m : PaymentMethod) : m.toJson.members.map Prod.fst =
    m.kind.requiredFields ++ (m.installments?.map fun _ => "installments").toList := by
  cases m with
  | card token installments => cases installments <;> rfl
  | nequi | pse | bancolombiaTransfer | bancolombiaCollect => rfl

lemma toJson_eq_object (m : PaymentMethod) : m.toJson = .object m.toJson.members := by
  cases m <;> rfl

lemma nodup_members_toJson (m : PaymentMethod) : (m.toJson.members.map Prod.fst).Nodup := by
  rw [names_toJson]
  cases m with
  | card token installments =>
    cases installments <;> simp [kind, PaymentKind.requiredFields, installments?]
  | nequi | pse | bancolombiaTransfer | bancolombiaCollect =>
    simp [kind, PaymentKind.requiredFields, installments?]

lemma faithful_toJson (m : PaymentMethod) : m.toJson.Faithful 1 := by
  rw [toJson_eq_object]
  refine faithful_object m.nodup_members_toJson ?_
  cases m with
  | card token installments =>
    cases installments <;> simp [toJson, Json.members, faithful_string, faithful_whole]
  | nequi | pse | bancolombiaTransfer | bancolombiaCollect =>
    simp [toJson, Json.members, faithful_string, UserType.faithful_toJson]

lemma installmentsOfJson_written (n : UInt32) :
    installmentsOfJson (.whole (.ofUInt32 n)) = .ok (some n) := by
  have hn := n.toNat_lt
  simp only [installmentsOfJson, wordOfJson, Json.whole, WholeNumber.ofUInt32]
  rw [if_pos (by omega)]
  simp [Except.map]

lemma lookup_type_toJson (m : PaymentMethod) :
    m.toJson.members.lookup "type" = some (.string m.kind.name) := by
  cases m <;> rfl

lemma checked_slots {kind : PaymentKind} {name : String} {fields : Slots Json PaymentMethod}
    (h : slots kind = some (name,fields)) : fields.Checked := by
  have htext (name : String) : (textField name).Checked := Slots.checked_field
  have huser : userTypeField.Checked := Slots.checked_field
  cases kind with
  | card =>
    cases h
    exact (Slots.Checked.map (htext _) _).seq Slots.checked_field
  | nequi =>
    cases h
    exact Slots.Checked.map (htext _) _
  | pse =>
    cases h
    exact (Slots.Checked.map huser _).seq (htext _) |>.seq (htext _) |>.seq (htext _)
      |>.seq (htext _)
  | bancolombiaTransfer =>
    cases h
    exact (Slots.Checked.map huser _).seq (htext _)
  | bancolombiaCollect => cases h

lemma named_textField {get : String → Option Json} {name s : String}
    (h : get name = some (.string s)) : (textField name).named get = .ok s := by
  rw [textField, Slots.named_field_of_some h]
  rfl

lemma named_userTypeField {get : String → Option Json} {u : UserType}
    (h : get "user_type" = some u.toJson) : userTypeField.named get = .ok u := by
  rw [userTypeField, Slots.named_field_of_some h]
  exact mapError_eq_ok_iff.mpr u.ofJson_toJson

/-- The members behind the type hold the payment that they are written for. -/
lemma ofMembers_written (m : PaymentMethod) :
    ofMembers m.kind (m.toJson.members.filter (·.1 != "type")) = .ok m := by
  have hnodup : ((m.toJson.members.filter (·.1 != "type")).map Prod.fst).Nodup :=
    m.nodup_members_toJson.sublist (List.filter_sublist.map _)
  unfold ofMembers
  cases hslots : slots m.kind with
  | none =>
    cases m with
    | bancolombiaCollect => rfl
    | card | nequi | pse | bancolombiaTransfer => cases hslots
  | some fields =>
    refine (Slots.ofMembers_of_nodup (checked_slots hslots) hnodup).mpr ?_
    cases m with
    | card token installments =>
      cases hslots
      refine Slots.named_seq (Slots.named_map (named_textField ?_) card) ?_
      · cases installments <;> rfl
      · cases installments with
        | none => rfl
        | some n =>
          refine (Slots.named_field_of_some (v := Json.whole (.ofUInt32 n)) rfl).trans ?_
          exact mapError_eq_ok_iff.mpr (installmentsOfJson_written n)
    | nequi phoneNumber =>
      cases hslots
      exact Slots.named_map (named_textField rfl) nequi
    | pse userType legalIdType legalId institutionCode description =>
      cases hslots
      exact Slots.named_seq (Slots.named_seq (Slots.named_seq (Slots.named_seq
        (Slots.named_map (named_userTypeField rfl) pse) (named_textField rfl)) (named_textField rfl))
        (named_textField rfl)) (named_textField rfl)
    | bancolombiaTransfer userType description =>
      cases hslots
      exact Slots.named_seq (Slots.named_map (named_userTypeField rfl) bancolombiaTransfer)
        (named_textField rfl)
    | bancolombiaCollect => cases hslots

lemma kindOfJson_name (k : PaymentKind) : kindOfJson (.string k.name) = .ok k := by
  simp [kindOfJson, Decoder.chosen, PaymentKind.names_lookup]

/-- What a payment is written as is read as that payment. -/
theorem ofJson_toJson (m : PaymentMethod) : ofJson m.toJson.normal = .ok m := by
  have hnodup := m.nodup_members_toJson
  have htype := Entries.lookup_map Json.normal m.toJson.members "type"
  rw [lookup_type_toJson, Option.map_some] at htype
  rw [toJson_eq_object, Json.normal_object, ofJson_object (Json.ascending_arrange _).nodup,
    Json.lookup_arrange_of_nodup (Json.nodup_map_normal hnodup), htype, Option.elim_some]
  refine bind_eq_ok_iff.mpr ⟨m.kind,kindOfJson_name m.kind,mapError_eq_ok_iff.mpr ?_⟩
  exact (agree_ofMembers_arrange m.kind hnodup).eq_ok_iff.mp m.ofMembers_written

lemma lossless : decoder.Lossless toJson :=
  Decoder.lossless_of_value IsWire.paymentMethod.agrees (by decide) faithful_toJson ofJson_toJson

/-- The members of a payment's JSON, sorted. -/
lemma exists_normal_toJson (m : PaymentMethod) : ∃ members, m.toJson.normal = .object members ∧
    (members.map Prod.fst).Perm
      (m.kind.requiredFields ++ (m.installments?.map fun _ => "installments").toList) := by
  obtain ⟨members,hnormal,hperm⟩ := Json.exists_normal_object m.nodup_members_toJson
  rw [← toJson_eq_object] at hnormal
  rw [names_toJson] at hperm
  exact ⟨members,hnormal,hperm⟩

/-- A payment is what its JSON stands for as a description. -/
theorem toMethod_toJson (m : PaymentMethod) : Descriptor.toMethod m.toJson.normal = .ok m := by
  have hget (name : String) : m.toJson.normal.get? name =
      (m.toJson.members.lookup name).map Json.normal := by
    have h := Json.get?_normal_object m.nodup_members_toJson name
    rwa [← toJson_eq_object] at h
  have hname : Descriptor.typeName? m.toJson.normal = some m.kind.name := by
    rw [Descriptor.typeName?, hget, lookup_type_toJson]
    rfl
  have hmissing : Descriptor.missing m.kind m.toJson.normal = [] := by
    refine List.filter_eq_nil_iff.mpr fun name hmem => ?_
    have hmember : name ∈ m.toJson.members.map Prod.fst := by
      rw [names_toJson]
      exact List.mem_append_left _ hmem
    obtain ⟨⟨_,value⟩,hvalue,rfl⟩ := List.mem_map.mp hmember
    rw [hget, (Entries.lookup_eq_some_iff_mem m.nodup_members_toJson).mpr hvalue]
    simp
  have hvalid : Descriptor.validate m.toJson.normal = .ok m.kind := by
    simp only [Descriptor.validate, hname, Option.getD_some, PaymentKind.ofName?_name, hmissing]
  rw [Descriptor.toMethod, hvalid]
  exact mapError_eq_ok_iff.mpr m.ofJson_toJson

end PaymentMethod

/-- Every record that is exchanged with the gateway survives its own encoding, as a value and as
text. A payment is also what its JSON stands for as a description, and this JSON has the members
that payments of its kind need, and installments exactly if there are any. -/
theorem records_survive : AcceptanceToken.decoder.Lossless AcceptanceToken.toJson ∧
    CardToken.decoder.Lossless CardToken.toJson ∧ Institution.decoder.Lossless Institution.toJson ∧
    ShippingAddress.decoder.Lossless ShippingAddress.toJson ∧
    UserType.decoder.Lossless UserType.toJson ∧
    PaymentMethod.decoder.Lossless PaymentMethod.toJson ∧
    ∀ m : PaymentMethod, Descriptor.toMethod m.toJson.normal = .ok m ∧
      ∃ members, m.toJson.normal = .object members ∧ (members.map Prod.fst).Perm
        (m.kind.requiredFields ++ (m.installments?.map fun _ => "installments").toList) :=
  ⟨AcceptanceToken.lossless,CardToken.lossless,Institution.lossless,ShippingAddress.lossless,
    UserType.lossless,PaymentMethod.lossless,fun m => ⟨m.toMethod_toJson,m.exists_normal_toJson⟩⟩

end Checkout
