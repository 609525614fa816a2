import Checkout.Proofs.Transaction.Reading
import Checkout.Proofs.Webhook.Decision

/-! What the checksum of an applied update covers. The signed text is taken from the members of an
object while the update is read by a decoder that accepts other shapes as well, so the two agree on
the id, the state and the amount exactly if the state stands where the signed text is taken from. -/
namespace Checkout.Webhook

open Checkout.Text.Integer (Denotes)

/-- The signed values of an event are those of a transaction: they come from an object, the id and
the state are the same texts, and the amount is a numeral of the same number. -/
structure SignedAs (payload : Json) (t : Transaction) : Prop where
  isObject : ∃ members, transaction? payload = some (.object members)
  id : signedField payload "id" = t.id
  status : signedField payload "status" = t.status.name
  amount : Denotes (Text.trim (signedField payload "amount_in_cents")).toList t.amount.count

/-- An event whose transaction is an object with a text as its state and is read as `t`. -/
def Describes (payload : Json) (t : Transaction) : Prop :=
  ∃ members name, transaction? payload = some (.object members) ∧
    members.lookup "status" = some (.string name) ∧
    Transaction.decoder.value (.object members) = .ok t

/-- The wire text of an amount is a numeral of it. -/
lemma denotes_wireText {j : Json} {c : Money.Cents} (h : Transaction.centsOfJson j = .ok c) :
    Denotes (Text.trim (wireText (some j))).toList c.count := by
  rw [Text.toList_trim]
  rcases Transaction.centsOfJson_eq_ok_iff.mp h with ⟨n,rfl,hn⟩ | ⟨s,rfl,hs⟩
  · have hd := Text.Integer.denotes_toString n.val
    rw [← hn]
    change Denotes (Text.trimChars (toString n.val).toList) n.val
    rwa [hd.trimChars_eq]
  · exact hs

lemma signedField_object {payload : Json} {members : List (String × Json)}
    (h : transaction? payload = some (.object members)) (name : String) :
    signedField payload name = wireText (members.lookup name) := by
  rw [signedField, h, Option.bind_some, Json.get?_object]

/-- A transaction read from an object with a text as its state is what was signed. -/
theorem Describes.signedAs {payload : Json} {t : Transaction} (h : Describes payload t) :
    SignedAs payload t := by
  obtain ⟨members,name,htxn,hname,hread⟩ := h
  obtain ⟨hid,⟨j,hj,hamount⟩,⟨j',hj',hstatus⟩⟩ := Transaction.members_of_decoder hread
  rw [hname] at hj'
  cases hj'
  refine ⟨⟨members,htxn⟩,?_,?_,?_⟩
  · rw [signedField_object htxn, hid]
    rfl
  · rw [signedField_object htxn, hname]
    exact TransactionStatus.decoder_string_eq_ok_iff.mp hstatus
  · rw [signedField_object htxn, hj]
    exact denotes_wireText hamount

/-- The transaction that an event carries is read from the object that is signed, if there is one. -/
lemma Carries.decoder_eq {payload : Json} {t : Transaction} (h : Carries payload t)
    {members : List (String × Json)} (htxn : transaction? payload = some (.object members)) :
    Transaction.decoder.value (.object members) = .ok t := by
  obtain ⟨data,hdata,hread⟩ := h
  rw [transaction?, Json.path?_cons, hdata, Option.bind_some, Json.path?_cons] at htxn
  cases data with
  | object outer =>
    obtain ⟨j,hj,ht⟩ :=
      Json.Fields.reads_required_iff.mp (Json.Decoder.record_object_eq_ok_iff.mp hread).2
    rw [Json.get?_object, hj] at htxn
    cases htxn
    exact ht
  | _ => cases htxn

/-- The state of the transaction is a text. -/
def HasStatusText (payload : Json) : Prop :=
  ∃ name, payload.path? ["data", "transaction", "status"] = some (.string name)

lemma path?_transaction (payload : Json) (name : String) :
    payload.path? ["data", "transaction", name] = (transaction? payload).bind (·.get? name) := by
  simp only [← Json.path?_singleton]
  exact Json.path?_append ["data", "transaction"] [name] payload

lemma hasStatusText_iff {payload : Json} :
    HasStatusText payload ↔ ∃ members name, transaction? payload = some (.object members) ∧
      members.lookup "status" = some (.string name) := by
  rw [HasStatusText, path?_transaction]
  cases htxn : transaction? payload with
  | none => simp
  | some txn => cases txn <;> simp [Json.get?]

/-- The transaction that is handed to the host is what was signed exactly if its state stands as a
text at the place that the signed text is taken from. -/
theorem applied_signedAs_iff {config : Config} {orders : Orders} {body : List UInt8}
    {payload : Json} {t : Transaction} {action : OrderAction}
    (hparse : Json.parseBytes body = .ok payload)
    (hcall : (process config orders body).call = some (t,action)) :
    SignedAs payload t ↔ HasStatusText payload := by
  obtain ⟨-,-,carried,-⟩ := ((course_process config orders hparse).call_iff t action).mp hcall
  rw [hasStatusText_iff]
  constructor
  · intro h
    obtain ⟨members,htxn⟩ := h.isObject
    obtain ⟨-,-,j,hj,hstatus⟩ := Transaction.members_of_decoder (carried.decoder_eq htxn)
    rcases TransactionStatus.string_or_object_of_decoder hstatus with ⟨name,rfl⟩ | ⟨inner,rfl⟩
    · exact ⟨members,name,htxn,hj⟩
    · -- A state that is spelled as an object is signed as nothing, and no state has an empty name.
      have hname := h.status
      rw [signedField_object htxn, hj] at hname
      exact absurd hname.symm t.status.name_ne_empty
  · rintro ⟨members,name,htxn,hname⟩
    exact Describes.signedAs ⟨members,name,htxn,hname,carried.decoder_eq htxn⟩

/-- The body of an update with some data and a checksum. -/
def updateBody (data checksum : String) : List UInt8 :=
  Text.Utf8.encode ("\x7b\"event\":\"transaction.updated\",\"timestamp\":1,\"data\":" ++ data ++
    ",\"signature\":\x7b\"checksum\":\"" ++ checksum ++ "\"\x7d\x7d")

/-- A configuration with `k` as the secret of the sandbox. -/
def sandboxed : Config := ⟨true,⟨"","","k"⟩,⟨"","",""⟩,[],true,none,"",0⟩

/-- An update with its transaction as an object; the signed text is `t1-APPROVED-1001k`. -/
def objectUpdate : List UInt8 :=
  updateBody ("\x7b\"transaction\":\x7b\"id\":\"t1\",\"status\":\"APPROVED\"," ++
      "\"amount_in_cents\":100\x7d\x7d")
    "b834b71507540daf782ac6c999f711009e023654cad9dfc69203942228b4e419"

/-- The same update with the data as an array; the signed text is `--1k`. -/
def arrayUpdate : List UInt8 :=
  updateBody "[\x7b\"id\":\"t1\",\"status\":\"APPROVED\",\"amount_in_cents\":100\x7d]"
    "021c54592b33ace8c677b12a0e7cd75e9528d95656837fbe559f537f7f0fdb4f"

theorem signedAs_objectUpdate : ∃ payload t action, Json.parseBytes objectUpdate = .ok payload ∧
    (process sandboxed .logging objectUpdate).call = some (t,action) ∧ SignedAs payload t := by
  have hparsed : ((Json.parseBytes objectUpdate).toOption.bind fun payload =>
      (payload.path? ["data", "transaction", "status"]).bind Json.string?) = some "APPROVED" := by
    decide +kernel
  have hcalled : (process sandboxed .logging objectUpdate).call.isSome := by decide +kernel
  obtain ⟨payload,hsome,hstatus⟩ := Option.bind_eq_some_iff.mp hparsed
  obtain ⟨j,hj,hname⟩ := Option.bind_eq_some_iff.mp hstatus
  obtain ⟨⟨t,action⟩,hcall⟩ := Option.isSome_iff_exists.mp hcalled
  have hparse := toOption_eq_some_iff.mp hsome
  rw [Json.string?_eq_some_iff.mp hname] at hj
  exact ⟨payload,t,action,hparse,hcall,(applied_signedAs_iff hparse hcall).mpr ⟨_,hj⟩⟩

theorem not_signedAs_arrayUpdate : ∃ payload t action,
    Json.parseBytes arrayUpdate = .ok payload ∧
    (process sandboxed .logging arrayUpdate).call = some (t,action) ∧ ¬ SignedAs payload t := by
  have hparsed : ((Json.parseBytes arrayUpdate).toOption.map fun payload =>
      (transaction? payload).isNone) = some true := by decide +kernel
  have hcalled : (process sandboxed .logging arrayUpdate).call.isSome := by decide +kernel
  obtain ⟨payload,hsome,hnone⟩ := Option.map_eq_some_iff.mp hparsed
  obtain ⟨⟨t,action⟩,hcall⟩ := Option.isSome_iff_exists.mp hcalled
  refine ⟨payload,t,action,toOption_eq_some_iff.mp hsome,hcall,?_⟩
  intro h
  obtain ⟨members,htxn⟩ := h.isObject
  rw [htxn] at hnone
  cases hnone

end Checkout.Webhook
