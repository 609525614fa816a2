import Checkout.Transaction.Merchant
import Checkout.Proofs.Json.Fields
import Checkout.Proofs.Text.Numeral

/-! What a JSON value holds when a transaction is read from it: the field laws of the record, the
two spellings of an amount and the two spellings of a state. -/
namespace Checkout

open Checkout.Json (Decoder Fields)
open Checkout.Money (Cents)
open Checkout.Text.Integer (Denotes)

namespace TransactionStatus

lemma name_injective : Function.Injective name := by
  intro s s' h
  have hs := congrArg (List.lookup · names) h
  simp only [names_lookup_name] at hs
  exact Option.some.inj hs

lemma name_ne_empty (s : TransactionStatus) : s.name ≠ "" := by
  cases s <;> decide

/-- States are named in capital letters. -/
lemma isUpper_of_mem_name (s : TransactionStatus) : ∀ c ∈ s.name.toList, c.isUpper = true := by
  have hall : s.name.toList.all Char.isUpper = true := by cases s <;> decide +kernel
  exact List.all_eq_true.mp hall

lemma exists_name_eq_append (s : TransactionStatus) :
    ∃ front last, s.name.toList = front ++ [last] ∧ last.isUpper = true := by
  have hne : s.name.toList ≠ [] := by
    intro h
    exact s.name_ne_empty (String.toList_eq_nil_iff.mp h)
  refine ⟨s.name.toList.dropLast,s.name.toList.getLast hne,?_,?_⟩
  · exact (List.dropLast_append_getLast hne).symm
  · exact s.isUpper_of_mem_name _ (List.getLast_mem hne)

lemma dash_notMem_name (s : TransactionStatus) : ∀ c ∈ s.name.toList, ¬ c = '-' := by
  rintro c hc rfl
  exact absurd (s.isUpper_of_mem_name _ hc) (by decide)

/-- The name of a state is the only text that is read as it. -/
theorem decoder_string_eq_ok_iff {text : String} {s : TransactionStatus} :
    decoder.value (.string text) = .ok s ↔ text = s.name := by
  change Decoder.chosen names text = .ok s ↔ _
  constructor
  · intro h
    unfold Decoder.chosen at h
    split at h
    · next found hlookup =>
      cases h
      obtain ⟨front,back,hnames,-⟩ := List.lookup_eq_some_iff.mp hlookup
      have hmem : (text,s) ∈ names := hnames ▸ by simp
      obtain ⟨s',-,hs'⟩ := List.mem_map.mp hmem
      cases hs'
      rfl
    · cases h
  · rintro rfl
    simp [Decoder.chosen]

/-- A state is read from a text or from an object. -/
lemma string_or_object_of_decoder {j : Json} {s : TransactionStatus} (h : decoder.value j = .ok s) :
    (∃ text, j = .string text) ∨ ∃ members, j = .object members := by
  cases j with
  | string text => exact .inl ⟨text,rfl⟩
  | object members => exact .inr ⟨members,rfl⟩
  | null => cases h
  | bool b => cases h
  | number n => cases h
  | array items => cases h

end TransactionStatus

namespace Transaction
variable {get : String → Option Json}

/-- The text of an amount is a numeral of its count, blanks around it, that is in range. -/
lemma centsOfJson_string_eq_ok_iff {s : String} {c : Cents} :
    centsOfJson (.string s) = .ok c ↔ Denotes (Text.trimChars s.toList) c.count := by
  have hread := Text.Integer.read_signed64_eq_ok_iff (Text.trim s)
  rw [Text.toList_trim] at hread
  constructor
  · intro h
    simp only [centsOfJson] at h
    split at h
    · cases h
    · next n hn =>
      split at h
      · next c' hc =>
        cases h
        rw [← Cents.ofInt?_eq_some_iff.mp hc] at hn
        exact ((hread _).mp hn).1
      · cases h
  · intro h
    have hn := (hread c.count).mpr ⟨h,c.fits⟩
    simp [centsOfJson, hn]

/-- An amount is a whole number in range or the text of one. -/
theorem centsOfJson_eq_ok_iff {j : Json} {c : Cents} :
    centsOfJson j = .ok c ↔ (∃ n, j = .number (.whole n) ∧ n.val = c.count) ∨
      ∃ s, j = .string s ∧ Denotes (Text.trimChars s.toList) c.count := by
  cases j with
  | number n =>
    cases n with
    | whole n =>
      have hc : Cents.ofInt? n.val = some c ↔ n.val = c.count := by
        rw [Cents.ofInt?_eq_some_iff, eq_comm]
      cases h : Cents.ofInt? n.val with
      | none => simp_all [centsOfJson]
      | some c' => simp_all [centsOfJson]
    | float x => simp [centsOfJson]
  | string s => simp [centsOfJson_string_eq_ok_iff]
  | null => simp [centsOfJson]
  | bool b => simp [centsOfJson]
  | array items => simp [centsOfJson]
  | object members => simp [centsOfJson]

/-- A transaction is read from an object if each of its fields is. -/
theorem reads_iff {t : Transaction} :
    fields.Reads get t ↔
      (Fields.required "id" Decoder.string).Reads get t.id ∧
      (Fields.optional "created_at" .string).Reads get t.createdAt ∧
      (Fields.required "amount_in_cents" (.buffered centsOfJson)).Reads get t.amount ∧
      (Fields.optional "reference" .string).Reads get t.reference ∧
      (Fields.withDefault "currency" .string defaultCurrency).Reads get t.currency ∧
      (Fields.optional "payment_method_type" .string).Reads get t.paymentMethodType ∧
      (Fields.optional "payment_method" .any).Reads get t.paymentMethod ∧
      (Fields.required "status" TransactionStatus.decoder).Reads get t.status ∧
      (Fields.optional "status_message" .string).Reads get t.statusMessage ∧
      (Fields.optional "customer_email" .string).Reads get t.customerEmail ∧
      (Fields.optional "shipping_address" .any).Reads get t.shippingAddress ∧
      (Fields.optional "redirect_url" .string).Reads get t.redirectUrl ∧
      (Fields.optional "payment_source_id" .any).Reads get t.paymentSourceId ∧
      (Fields.optional "payment_link_id" .any).Reads get t.paymentLinkId ∧
      (Fields.optional "customer_data" .any).Reads get t.customerData ∧
      (Fields.optional "bill_id" .any).Reads get t.billId := by
  cases t
  simp only [fields, Fields.reads_seq_iff, Fields.reads_map_iff]
  simp only [↓existsAndEq, and_true, and_assoc, mk.injEq, true_and, exists_and_left]

/-- The members behind the id, the amount and the state of a transaction read from an object. -/
theorem members_of_decoder {members : List (String × Json)} {t : Transaction}
    (h : decoder.value (.object members) = .ok t) :
    members.lookup "id" = some (.string t.id) ∧
    (∃ j, members.lookup "amount_in_cents" = some j ∧ centsOfJson j = .ok t.amount) ∧
    ∃ j, members.lookup "status" = some j ∧ TransactionStatus.decoder.value j = .ok t.status := by
  obtain ⟨hid,-,hamount,-,-,-,-,hstatus,-⟩ := reads_iff.mp (Decoder.record_object_eq_ok_iff.mp h).2
  obtain ⟨j,hj,hs⟩ := Fields.reads_required_iff.mp hid
  rw [Decoder.string_eq_ok_iff.mp hs] at hj
  exact ⟨hj,Fields.reads_required_iff.mp hamount,Fields.reads_required_iff.mp hstatus⟩

end Transaction
end Checkout
