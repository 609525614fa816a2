import Checkout.Proofs.Payment.Readings
import Checkout.Transaction.Address
import Checkout.Transaction.Card
import Checkout.Transaction.Merchant

/-! The types that are exchanged with the gateway are read straight from the text of an answer and from
the parsed value of a webhook. Both readings give the same, or fail, for every text in which no object
repeats a name; where a name is repeated they need not agree. -/
namespace Checkout

open Checkout.Json (Decoder Fields Symbol)

lemma Transaction.agree_centsOfJson (j : Json) :
    Agree Eq (centsOfJson j) (centsOfJson j.normal) :=
  Json.agree_normal centsOfJson (fun _ _ => .error) (fun _ _ => .error) j

lemma Transaction.agrees_fields : fields.Agrees := by
  have htext (name : String) : (Fields.optional name .string).Agrees :=
    Fields.agrees_optional Decoder.agrees_string
  have hraw (name : String) : (Fields.optional name .any).Agrees :=
    Fields.agrees_optional Decoder.agrees_any
  have hid : (Fields.required "id" .string).Agrees := Fields.agrees_field Decoder.agrees_string
  have hamount : (Fields.required "amount_in_cents" (.buffered centsOfJson)).Agrees :=
    Fields.agrees_field (Decoder.agrees_buffered agree_centsOfJson)
  have hcurrency : (Fields.withDefault "currency" .string defaultCurrency).Agrees :=
    Fields.agrees_field Decoder.agrees_string
  have hstatus : (Fields.required "status" TransactionStatus.decoder).Agrees :=
    Fields.agrees_field (Decoder.agrees_oneOf _)
  exact (hid.map _).seq (htext _) |>.seq hamount |>.seq (htext _) |>.seq hcurrency |>.seq (htext _)
    |>.seq (hraw _) |>.seq hstatus |>.seq (htext _) |>.seq (htext _) |>.seq (hraw _) |>.seq (htext _)
    |>.seq (hraw _) |>.seq (hraw _) |>.seq (hraw _) |>.seq (hraw _)

lemma CardToken.agrees_fields : fields.Agrees := by
  iterate 9 refine Fields.Agrees.seq ?_ (Fields.agrees_optional Decoder.agrees_string)
  exact (Fields.agrees_required Decoder.agrees_string).map _

lemma ShippingAddress.agrees_fields : fields.Agrees := by
  iterate 7 refine Fields.Agrees.seq ?_ (Fields.agrees_required Decoder.agrees_string)
  exact (Fields.agrees_required Decoder.agrees_string).map _

lemma PaymentExtra.agrees_fields : fields.Agrees :=
  ((Fields.agrees_optional Decoder.agrees_string).map _).seq
    (Fields.agrees_optional Decoder.agrees_any)

/-- The types that are exchanged with the gateway. -/
inductive IsWire : ∀ {α : Type}, Decoder α → Prop
  | transaction : IsWire Transaction.decoder
  | transactionStatus : IsWire TransactionStatus.decoder
  | transactionKind : IsWire TransactionKind.decoder
  | acceptanceToken : IsWire AcceptanceToken.decoder
  | cardToken : IsWire CardToken.decoder
  | institution : IsWire Institution.decoder
  | shippingAddress : IsWire ShippingAddress.decoder
  | paymentKind : IsWire PaymentKind.decoder
  | paymentMethod : IsWire PaymentMethod.decoder
  | userType : IsWire UserType.decoder
  | paymentExtra : IsWire PaymentExtra.decoder

variable {α : Type} {d : Decoder α}

theorem IsWire.agrees (h : IsWire d) : d.Agrees := by
  have hrequired (name : String) : (Fields.required name .string).Agrees :=
    Fields.agrees_required Decoder.agrees_string
  cases h with
  | transaction => exact Decoder.agrees_record Transaction.agrees_fields
  | transactionStatus | transactionKind | paymentKind => exact Decoder.agrees_oneOf _
  | acceptanceToken | institution =>
    exact Decoder.agrees_record (((hrequired _).map _).seq (hrequired _))
  | cardToken => exact Decoder.agrees_record CardToken.agrees_fields
  | shippingAddress => exact Decoder.agrees_record ShippingAddress.agrees_fields
  | paymentMethod => exact PaymentMethod.agrees_decoder
  | userType => exact Decoder.agrees_buffered UserType.agree_ofJson
  | paymentExtra => exact Decoder.agrees_record PaymentExtra.agrees_fields

/-- For every text in which no object repeats a name, each type that is exchanged with the gateway is
read straight from the text exactly if it is read from the value that the text is parsed to, and both
give the same. -/
theorem fromSymbols_eq_ok_iff_value {symbols : List Symbol} {written : Json}
    (h : Json.parseWritten symbols = .ok written) (hdistinct : written.isDistinct = true) :
    ∃ j, Json.parseSymbols symbols = .ok j ∧ ∀ {α : Type} {d : Decoder α}, IsWire d → ∀ a,
      d.fromSymbols symbols = .ok a ↔ d.value j = .ok a := by
  refine ⟨written.normal,map_eq_ok_iff.mpr ⟨written,h,rfl⟩,fun {α d} hwire a => ?_⟩
  obtain ⟨hread,hbehind⟩ := Json.read_of_parseWritten h
  rw [Json.Decoder.fromSymbols_eq_ok_iff hbehind]
  exact (hwire.agrees _ _ _ hread hdistinct).eq_ok_iff

/-- A payment whose type stands behind its other members, with a member that no payment has. -/
def lateType : List Symbol := Symbol.ofText
  "\x7b\"token\":\"t\",\"other\":[\x7b\x7d],\"type\":\"CARD\",\"installments\":null\x7d"

theorem fromSymbols_lateType : PaymentMethod.decoder.fromSymbols lateType = .ok (.card "t" none) ∧
    ∃ j, Json.parseSymbols lateType = .ok j ∧
      PaymentMethod.decoder.value j = .ok (.card "t" none) := by
  have hwritten : (Json.parseWritten lateType).toOption.map Json.isDistinct = some true := by
    decide +kernel
  have hmethod : (PaymentMethod.decoder.fromSymbols lateType).toOption = some (.card "t" none) := by
    decide +kernel
  obtain ⟨written,hsome,hdistinct⟩ := Option.map_eq_some_iff.mp hwritten
  obtain ⟨j,hj,hsame⟩ := fromSymbols_eq_ok_iff_value (toOption_eq_some_iff.mp hsome) hdistinct
  have htext := toOption_eq_some_iff.mp hmethod
  exact ⟨htext,j,hj,(hsame .paymentMethod _).mp htext⟩

/-- A token of acceptance with two links. -/
def repeatedLink : List Symbol := Symbol.ofText
  "\x7b\"acceptance_token\":\"t\",\"permalink\":\"a\",\"permalink\":\"b\"\x7d"

-- Straight from the text a repeated name is refused, the parsed value keeps what stands last.
example : (AcceptanceToken.decoder.fromSymbols repeatedLink).toOption.isNone ∧
    ((Json.parseSymbols repeatedLink).toOption.bind fun j =>
      (AcceptanceToken.decoder.value j).toOption).isSome := by decide +kernel

end Checkout
