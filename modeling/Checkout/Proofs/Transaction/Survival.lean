import Checkout.Proofs.Json.Survival
import Checkout.Proofs.Transaction.RoundTrip
import Checkout.Proofs.Transaction.Wire

/-! Reading, writing and reading again. A record that carries JSON without a fixed shape gives it
back as it was read, and writes each of its own fields in the form in which that field is read, so
one reading settles the record for good. In a text this holds as long as no floating-point number is
carried. -/
namespace Checkout

open Checkout.Json (Decoder Fields Held Kept Symbol)

namespace Json
variable {α : Type} {fields : Fields α} {encode : α → Json} {raw : α → List (Option Json)}

/-- What is read from any value survives its encoding as a value, and as text if the value was read
from one and the raw parts hold no floating-point number. A value has its members sorted at every
depth, so it is its own normal form. -/
def Decoder.Stable (d : Decoder α) (encode : α → Json) (raw : α → List (Option Json)) : Prop :=
  ∀ j a, j.normal = j → d.value j = .ok a → d.Survives encode a ∧
    ∀ symbols, parseSymbols symbols = .ok j → (∀ part, some part ∈ raw a → part.IsExact) →
      d.SurvivesText encode a

/-- Fields of a record that carries raw values: these are read as they are and written as they are.
-/
structure Fields.Carry (fields : Fields α) (encode : α → Json) (raw : α → List (Option Json)) :
    Prop where
  agrees : fields.Agrees
  yields : ∀ {P : Cell → Prop} {P' : Json → Prop},
    (∀ c written, P c → c.node.read c.depth = .ok written → P' written.normal) →
      fields.Yields P P' fun a => ∀ o ∈ raw a, Held P' o
  written : ∀ {record a}, (∀ o ∈ raw a, Kept o) →
    (Decoder.record record fields).value (encode a).normal = .ok a
  faithful : ∀ {k a}, (∀ part, some part ∈ raw a → part.Faithful k) → (encode a).Faithful (k + 1)

/-- The raw parts of what is read from a value are parts of the value. -/
lemma Fields.Carry.held (h : fields.Carry encode raw) {record : String} {j : Json} {a : α}
    (hj : j.normal = j) (ha : (Decoder.record record fields).value j = .ok a) :
    ∀ o ∈ raw a, Held (fun part => part.normal = part ∧ part.nesting < j.nesting) o := by
  -- No cell of a text is read here.
  have hyields : fields.Yields (fun _ => False)
      (fun part => part.normal = part ∧ part.nesting < j.nesting) _ :=
    h.yields fun _ _ hc => hc.elim
  refine Decoder.of_value_record hyields.value ?_ ha
  exact fun part hpart => ⟨normal_parts hj part hpart,nesting_lt_of_mem_parts hpart⟩

theorem Fields.Carry.stable (h : fields.Carry encode raw) (record : String) :
    (Decoder.record record fields).Stable encode raw := by
  intro j a hj ha
  have hheld := h.held hj ha
  have hsurvives : (Decoder.record record fields).Survives encode a :=
    Decoder.survives_of_value <| h.written fun o ho part hpart =>
      (hheld o ho part hpart).imp_right And.left
  refine ⟨hsurvives,fun symbols hsymbols hexact => ?_⟩
  have hlevels := nesting_lt_of_parseSymbols hsymbols
  -- Raw parts lie one level below the value, so what is written goes no deeper than what was read.
  refine hsurvives.text (k := j.nesting - 1 + 1) (Decoder.agrees_record h.agrees) ?_ ?_
  · refine h.faithful fun part hpart => ?_
    obtain ⟨-,hnormal,hnesting⟩ := hheld _ hpart part rfl
    exact ⟨⟨hexact part hpart,by omega⟩,hnormal ▸ isDistinct_normal part⟩
  · unfold levels at hlevels ⊢
    omega

end Json

namespace Transaction

lemma faithful_toJson {k : ℕ} {t : Transaction} (h : ∀ part, some part ∈ t.raw → part.Faithful k) :
    t.toJson.Faithful (k + 1) := by
  have hraw : ∀ o ∈ t.raw, (Json.orNull o).Faithful k := by
    intro o ho
    refine Json.faithful_orNull fun part hpart => h part ?_
    rwa [← hpart]
  refine Json.faithful_object t.nodup_members_toJson ?_
  simp only [raw, List.forall_mem_cons] at hraw
  simp [Json.faithful_string, Json.faithful_optional_string, Json.faithful_whole,
    TransactionStatus.toJson, hraw]

lemma carry_fields : fields.Carry toJson raw :=
  ⟨agrees_fields,yields_fields,fun h => (settled_of_raw h).decoder_toJson,faithful_toJson⟩

end Transaction

namespace PaymentExtra

/-- The raw value of an attachment. -/
def raw (e : PaymentExtra) : List (Option Json) := [e.paymentMethod]

lemma nodup_members_toJson (e : PaymentExtra) : (e.toJson.members.map Prod.fst).Nodup := by
  simp [toJson, Json.members]

lemma yields_fields {P : Json.Cell → Prop} {P' : Json → Prop}
    (hread : ∀ c written, P c → c.node.read c.depth = .ok written → P' written.normal) :
    fields.Yields P P' fun e => ∀ o ∈ e.raw, Held P' o := by
  refine .seq (Fields.yields_raw hread) <| .map Fields.yields_true ?_
  intro token _ method hmethod
  simp [raw, hmethod]

/-- What an attachment is written as is read as that attachment. -/
theorem decoder_toJson {e : PaymentExtra} (h : Kept e.paymentMethod) :
    decoder.value e.toJson.normal = .ok e := by
  refine Decoder.record_written ?_ e.nodup_members_toJson ?_
  · exact (Fields.checked_field.map).seq Fields.checked_field
  · have htoken := Decoder.optional_string_written e.acceptanceToken
    have hmethod := Decoder.optional_any_written h
    exact ((Fields.reads_written rfl htoken).map mk).seq (Fields.reads_written rfl hmethod)

lemma faithful_toJson {k : ℕ} {e : PaymentExtra} (h : ∀ part, some part ∈ e.raw → part.Faithful k) :
    e.toJson.Faithful (k + 1) := by
  have hmethod : (Json.orNull e.paymentMethod).Faithful k :=
    Json.faithful_orNull fun part hpart => h part (by simp [raw, hpart])
  refine Json.faithful_object e.nodup_members_toJson ?_
  simp [Json.faithful_optional_string, hmethod]

lemma carry_fields : fields.Carry toJson raw :=
  ⟨agrees_fields,yields_fields,fun h => decoder_toJson (h _ (by simp [raw])),faithful_toJson⟩

end PaymentExtra

/-- Reading, writing and reading again is stable for transactions and for what a storefront attaches
to a payment: whatever JSON they are read from, what they are written as is read as the same again.
-/
theorem reading_stable : Transaction.decoder.Stable Transaction.toJson Transaction.raw ∧
    PaymentExtra.decoder.Stable PaymentExtra.toJson PaymentExtra.raw :=
  ⟨Transaction.carry_fields.stable _,PaymentExtra.carry_fields.stable _⟩

/-- A transaction in array form, with the amount as a text and raw values that are not sorted. -/
def arrayForm : List Symbol := Symbol.ofText ("[\"t1\",null,\" +5000\",\"r\",\"USD\",null," ++
  "\x7b\"type\":\"CARD\",\"extra\":[1,null]\x7d,\"APPROVED\",null,null,null,null,7,null,null,\"b\"]")

theorem reading_stable_arrayForm : ∃ j t, Json.parseSymbols arrayForm = .ok j ∧
    Transaction.decoder.value j = .ok t ∧ t.paymentMethod.isSome = true ∧
    Transaction.decoder.Survives Transaction.toJson t ∧
    Transaction.decoder.SurvivesText Transaction.toJson t := by
  have hread : ((Json.parseSymbols arrayForm).toOption.bind fun j =>
      (Transaction.decoder.value j).toOption).map (fun t => t.paymentMethod.isSome &&
        t.raw.all fun o => o.all fun part => part.tokens.all Json.Token.isExact) = some true := by
    decide +kernel
  obtain ⟨t,ht,hraw⟩ := Option.map_eq_some_iff.mp hread
  obtain ⟨j,hj,ht⟩ := Option.bind_eq_some_iff.mp ht
  obtain ⟨hsome,hexact⟩ := (Bool.and_eq_true _ _).mp hraw
  have hparse := toOption_eq_some_iff.mp hj
  have hvalue := toOption_eq_some_iff.mp ht
  have hnormal : j.normal = j := by
    obtain ⟨written,-,rfl⟩ := map_eq_ok_iff.mp hparse
    exact Json.normal_normal written
  obtain ⟨hsurvives,htext⟩ := reading_stable.1 j t hnormal hvalue
  refine ⟨j,t,hparse,hvalue,hsome,hsurvives,htext arrayForm hparse fun part hpart => ?_⟩
  exact List.all_eq_true.mp (List.all_eq_true.mp hexact _ hpart)

end Checkout
