import Checkout.Proofs.Json.Locality
import Checkout.Proofs.Transaction.Records

/-! What the members of an object say about a payment. An object is read as the payment that it names
and describes, each entry giving the part of its name, and nothing else in it matters. -/
namespace Checkout

open Checkout.Json (Decoder Fault Slots)

lemma WholeNumber.eq_of_val_eq {m n : WholeNumber} (h : m.val = n.val) : m = n := by
  cases m
  cases n
  simpa using h

namespace UserType

lemma whole_eq_toJson {n : WholeNumber} (h : 0 ≤ n.val ∧ n.val < 256) :
    Json.whole n = (code (UInt8.ofNat n.val.toNat)).toJson := by
  refine congrArg Json.whole (WholeNumber.eq_of_val_eq ?_)
  simp only [WholeNumber.ofUInt8, UInt8.toNat_ofNat']
  omega

/-- A person type is read from what it is written as, and from nothing else. -/
theorem ofJson_eq_ok_iff {j : Json} {u : UserType} : ofJson j = .ok u ↔ j = u.toJson := by
  constructor
  · intro h
    unfold ofJson at h
    split at h
    · split at h
      · next hn =>
        cases h
        exact whole_eq_toJson hn
      · cases h
    · cases h
      rfl
    · cases h
  · rintro rfl
    exact u.ofJson_toJson

end UserType

/-- The entries that a description of a kind may have: the required ones, and installments of a card. -/
def PaymentKind.entries (kind : PaymentKind) : List String :=
  kind.requiredFields ++ if kind = .card then ["installments"] else []

lemma PaymentKind.type_mem_entries (kind : PaymentKind) : "type" ∈ kind.entries := by
  cases kind <;> decide

namespace PaymentMethod

/-- What stands for installments: nothing or null for none, else a whole number of 32 bits. -/
inductive Installs : Option Json → Option UInt32 → Prop
  | absent : Installs none none
  | null : Installs (some .null) none
  | count (n : UInt32) : Installs (some (.whole (.ofUInt32 n))) (some n)

/-- Entries that describe a payment, its type apart. -/
inductive Describes (get : String → Option Json) : PaymentMethod → Prop
  | card {token : String} {installments : Option UInt32}
      (htoken : get "token" = some (.string token))
      (hinstallments : Installs (get "installments") installments) :
      Describes get (.card token installments)
  | nequi {phoneNumber : String} (hphone : get "phone_number" = some (.string phoneNumber)) :
      Describes get (.nequi phoneNumber)
  | pse {userType : UserType} {legalIdType legalId institutionCode description : String}
      (huser : get "user_type" = some userType.toJson)
      (hlegalType : get "user_legal_id_type" = some (.string legalIdType))
      (hlegal : get "user_legal_id" = some (.string legalId))
      (hinstitution : get "financial_institution_code" = some (.string institutionCode))
      (hdescription : get "payment_description" = some (.string description)) :
      Describes get (.pse userType legalIdType legalId institutionCode description)
  | bancolombiaTransfer {userType : UserType} {description : String}
      (huser : get "user_type" = some userType.toJson)
      (hdescription : get "payment_description" = some (.string description)) :
      Describes get (.bancolombiaTransfer userType description)
  | bancolombiaCollect : Describes get .bancolombiaCollect

variable {get : String → Option Json} {members : List (String × Json)} {m : PaymentMethod}
  {kind : PaymentKind}

lemma named_textField_iff {name s : String} :
    (textField name).named get = .ok s ↔ get name = some (.string s) := by
  rw [textField, Slots.named_required_iff]
  simp [Decoder.member, Decoder.string_eq_ok_iff]

lemma named_userTypeField_iff {u : UserType} :
    userTypeField.named get = .ok u ↔ get "user_type" = some u.toJson := by
  rw [userTypeField, Slots.named_required_iff]
  simp [Decoder.member, UserType.decoder, Decoder.buffered, UserType.ofJson_eq_ok_iff]

lemma whole_eq_ofUInt32 {n : WholeNumber} (h : 0 ≤ n.val ∧ n.val < 4294967296) :
    Json.whole n = .whole (.ofUInt32 (UInt32.ofNat n.val.toNat)) := by
  refine congrArg Json.whole (WholeNumber.eq_of_val_eq ?_)
  simp only [WholeNumber.ofUInt32, UInt32.toNat_ofNat']
  omega

lemma wordOfJson_eq_ok_iff {j : Json} {n : UInt32} :
    wordOfJson j = .ok n ↔ j = .whole (.ofUInt32 n) := by
  constructor
  · intro h
    unfold wordOfJson at h
    split at h
    · split at h
      · next hn =>
        cases h
        exact whole_eq_ofUInt32 hn
      · cases h
    · cases h
  · rintro rfl
    have hcount : (wordOfJson (.whole (.ofUInt32 n))).map some = .ok (some n) :=
      installmentsOfJson_written n
    obtain ⟨n',hn',he⟩ := map_eq_ok_iff.mp hcount
    cases he
    exact hn'

lemma named_installments_iff {n : Option UInt32} :
    (Slots.field "installments" (fun j => (installmentsOfJson j).mapError Json.Problem.placeless)
      (.anywhere none)).named get = .ok n ↔ Installs (get "installments") n := by
  simp only [Slots.field]
  cases get "installments" with
  | none =>
    simp only [Slots.whenAbsent, Except.ok.injEq]
    constructor
    · rintro rfl
      exact .absent
    · rintro ⟨⟩
      rfl
  | some j =>
    simp only [mapError_eq_ok_iff]
    constructor
    · intro h
      unfold installmentsOfJson at h
      split at h
      · cases h
        exact .null
      · obtain ⟨n,hn,rfl⟩ := map_eq_ok_iff.mp h
        rw [wordOfJson_eq_ok_iff.mp hn]
        exact .count n
    · intro h
      cases h with
      | null => rfl
      | count n => exact installmentsOfJson_written n

/-- The members of a kind are read as the payment of this kind that they describe. -/
lemma named_slots_iff {name : String} {fields : Slots Json PaymentMethod}
    (h : slots kind = some (name,fields)) :
    fields.named get = .ok m ↔ m.kind = kind ∧ Describes get m := by
  cases kind with
  | card =>
    cases h
    simp only [Slots.named_seq_iff, Slots.named_map_iff, named_textField_iff, named_installments_iff]
    constructor
    · rintro ⟨_,n,⟨token,htoken,rfl⟩,hn,rfl⟩
      exact ⟨rfl,.card htoken hn⟩
    · rintro ⟨hkind,hm⟩
      cases hm with
      | card htoken hn => exact ⟨_,_,⟨_,htoken,rfl⟩,hn,rfl⟩
      | _ => cases hkind
  | nequi =>
    cases h
    simp only [Slots.named_map_iff, named_textField_iff]
    constructor
    · rintro ⟨phoneNumber,hphone,rfl⟩
      exact ⟨rfl,.nequi hphone⟩
    · rintro ⟨hkind,hm⟩
      cases hm with
      | nequi hphone => exact ⟨_,hphone,rfl⟩
      | _ => cases hkind
  | pse =>
    cases h
    simp only [Slots.named_seq_iff, Slots.named_map_iff, named_textField_iff, named_userTypeField_iff]
    constructor
    · rintro ⟨_,e,⟨_,c,⟨_,b,⟨_,a,⟨u,hu,rfl⟩,ha,rfl⟩,hb,rfl⟩,hc,rfl⟩,he,rfl⟩
      exact ⟨rfl,.pse hu ha hb hc he⟩
    · rintro ⟨hkind,hm⟩
      cases hm with
      | pse hu ha hb hc he =>
        exact ⟨_,_,⟨_,_,⟨_,_,⟨_,_,⟨_,hu,rfl⟩,ha,rfl⟩,hb,rfl⟩,hc,rfl⟩,he,rfl⟩
      | _ => cases hkind
  | bancolombiaTransfer =>
    cases h
    simp only [Slots.named_seq_iff, Slots.named_map_iff, named_textField_iff, named_userTypeField_iff]
    constructor
    · rintro ⟨_,a,⟨u,hu,rfl⟩,ha,rfl⟩
      exact ⟨rfl,.bancolombiaTransfer hu ha⟩
    · rintro ⟨hkind,hm⟩
      cases hm with
      | bancolombiaTransfer hu ha => exact ⟨_,_,⟨_,hu,rfl⟩,ha,rfl⟩
      | _ => cases hkind
  | bancolombiaCollect => cases h

theorem ofMembers_eq_ok_iff (hnodup : (members.map Prod.fst).Nodup) :
    ofMembers kind members = .ok m ↔
      m.kind = kind ∧ Describes (fun name => members.lookup name) m := by
  unfold ofMembers
  cases hslots : slots kind with
  | some fields =>
    exact (Slots.ofMembers_of_nodup (checked_slots hslots) hnodup).trans (named_slots_iff hslots)
  | none =>
    cases kind with
    | bancolombiaCollect =>
      constructor
      · intro h
        cases h
        exact ⟨rfl,.bancolombiaCollect⟩
      · rintro ⟨hkind,hm⟩
        cases hm with
        | bancolombiaCollect => rfl
        | _ => cases hkind
    | card | nequi | pse | bancolombiaTransfer => cases hslots

lemma kindOfJson_eq_ok_iff {j : Json} : kindOfJson j = .ok kind ↔ j = .string kind.name := by
  constructor
  · intro h
    unfold kindOfJson at h
    split at h
    · next s =>
      rw [Decoder.chosen, PaymentKind.names_lookup] at h
      split at h
      · next kind' hkind =>
        cases h
        rw [PaymentKind.ofName?_eq_some_iff.mp hkind]
      · cases h
    · cases h
  · rintro rfl
    exact kindOfJson_name kind

/-- No payment is described by its type alone, so the type may be left out. -/
lemma Describes.of_forall_ne {get' : String → Option Json} (h : Describes get m)
    (hget : ∀ name ≠ "type", get' name = get name) : Describes get' m := by
  cases h with
  | card htoken hn =>
    exact .card ((hget _ (by decide)).trans htoken) (hget "installments" (by decide) ▸ hn)
  | nequi hphone => exact .nequi ((hget _ (by decide)).trans hphone)
  | pse hu ha hb hc he =>
    exact .pse ((hget _ (by decide)).trans hu) ((hget _ (by decide)).trans ha)
      ((hget _ (by decide)).trans hb) ((hget _ (by decide)).trans hc) ((hget _ (by decide)).trans he)
  | bancolombiaTransfer hu ha =>
    exact .bancolombiaTransfer ((hget _ (by decide)).trans hu) ((hget _ (by decide)).trans ha)
  | bancolombiaCollect => exact .bancolombiaCollect

/-- An object with different names is read as the payment that it names and describes. -/
theorem decoder_object_eq_ok_iff (hnodup : (members.map Prod.fst).Nodup) :
    decoder.value (.object members) = .ok m ↔
      members.lookup "type" = some (.string m.kind.name) ∧
        Describes (fun name => members.lookup name) m := by
  have hothers : ∀ name ≠ "type",
      (members.filter (·.1 != "type")).lookup name = members.lookup name := by
    intro name hname
    rw [Entries.lookup_filter_fst (· != "type"), if_pos (bne_iff_ne.mpr hname)]
  have hsplit {kind : PaymentKind} :
      (ofMembers kind (members.filter (·.1 != "type"))).mapError Fault.problem = .ok m ↔
        m.kind = kind ∧ Describes (fun name => members.lookup name) m := by
    rw [mapError_eq_ok_iff, ofMembers_eq_ok_iff (hnodup.sublist (List.filter_sublist.map _))]
    refine and_congr_right fun _ => ⟨fun h => h.of_forall_ne ?_,fun h => h.of_forall_ne hothers⟩
    exact fun name hname => (hothers name hname).symm
  change ofJson (.object members) = .ok m ↔ _
  rw [ofJson_object hnodup]
  cases members.lookup "type" with
  | none => simp
  | some j =>
    simp only [Option.elim_some, bind_eq_ok_iff, kindOfJson_eq_ok_iff, hsplit, Option.some.injEq]
    constructor
    · rintro ⟨kind,hj,rfl,h⟩
      exact ⟨hj,h⟩
    · rintro ⟨hj,h⟩
      exact ⟨m.kind,hj,rfl,h⟩

lemma local_slots {name : String} {fields : Slots Json PaymentMethod}
    (h : slots kind = some (name,fields)) : fields.Local := by
  have htext (name : String) : (textField name).Local := Slots.local_field
  have huser : userTypeField.Local := Slots.local_field
  cases kind with
  | card =>
    cases h
    exact (Slots.Local.map (htext _) _).seq Slots.local_field
  | nequi =>
    cases h
    exact Slots.Local.map (htext _) _
  | pse =>
    cases h
    exact (Slots.Local.map huser _).seq (htext _) |>.seq (htext _) |>.seq (htext _)
      |>.seq (htext _)
  | bancolombiaTransfer =>
    cases h
    exact (Slots.Local.map huser _).seq (htext _)
  | bancolombiaCollect => cases h

/-- The entries of a kind are its type and the members that are read for it. -/
lemma entries_eq {name : String} {fields : Slots Json PaymentMethod}
    (h : slots kind = some (name,fields)) : kind.entries = "type" :: fields.names := by
  cases kind <;> cases h <;> rfl

/-- Ascending members that agree in the entries of a kind are read as the same. -/
theorem ofMembers_congr {members' : List (String × Json)} (hmembers : Json.Ascending members)
    (hmembers' : Json.Ascending members')
    (h : ∀ name ∈ kind.entries, members.lookup name = members'.lookup name) :
    ofMembers kind members = ofMembers kind members' := by
  unfold ofMembers
  cases hslots : slots kind with
  | none => rfl
  | some fields =>
    refine (local_slots hslots).ofMembers_congr hmembers hmembers' fun name hname => h name ?_
    rw [entries_eq hslots]
    exact List.mem_cons_of_mem _ hname

/-- Objects that agree in the entries of the kind that they name are read as the same. -/
theorem ofJson_congr {members' : List (String × Json)} (hmembers : Json.Ascending members)
    (hmembers' : Json.Ascending members') (htype : members.lookup "type" = some (.string kind.name))
    (h : ∀ name ∈ kind.entries, members'.lookup name = members.lookup name) :
    ofJson (.object members') = ofJson (.object members) := by
  rw [ofJson_object hmembers.nodup, ofJson_object hmembers'.nodup, h _ kind.type_mem_entries, htype]
  have hothers : ofMembers kind (members'.filter (·.1 != "type")) =
      ofMembers kind (members.filter (·.1 != "type")) := by
    refine ofMembers_congr (hmembers'.filter _) (hmembers.filter _) fun name hname => ?_
    rw [Entries.lookup_filter_fst (· != "type"), Entries.lookup_filter_fst (· != "type"), h name hname]
  simp only [Option.elim_some, kindOfJson_name]
  exact congrArg (Except.mapError Fault.problem) hothers

end PaymentMethod
end Checkout
