import Checkout.Proofs.Json.Places
import Checkout.Proofs.Transaction.RoundTrip

/-! Amounts as they are written in the text of a transaction. A number and the text of one are the two
spellings of an amount, and the transaction has the amount that is spelled. -/
namespace Checkout

open Checkout.Json (Fields Node Slots)
open Checkout.Money (Cents)

/-- The spellings of an amount: a number, and the text of a numeral. -/
inductive Money.Cents.Spells (m : Cents) : Json → Prop
  | number : Spells m (.whole (.ofCents m))
  | text {s : String} (h : Text.Integer.Denotes s.toList m.count) : Spells m (.string s)

lemma Money.Cents.spells_toString (m : Cents) : m.Spells (.string (toString m.count)) :=
  .text (Text.Integer.denotes_toString m.count)

namespace Json

/-- What is no container is read alike at every depth. -/
lemma Node.read_eq_ok_of_spells {m : Cents} {node : Node} {j : Json} (hj : m.Spells j) {depth : ℕ}
    (h : node.read depth = .ok j) (depth' : ℕ) : node.read depth' = .ok j := by
  cases Node.spells_of_read h with
  | array | object => cases hj
  | null | bool | number | string => exact h

end Json

namespace Transaction

lemma centsOfJson_of_spells {m : Cents} {j : Json} (h : m.Spells j) : centsOfJson j = .ok m := by
  cases h with
  | number => exact centsOfJson_written m
  | text h =>
    refine centsOfJson_eq_ok_iff.mpr (.inr ⟨_,rfl,?_⟩)
    rwa [h.trimChars_eq]

/-- The fields in front of the amount. -/
def front : Fields (Cents → Option String → String → Option String → Option Json →
    TransactionStatus → Option String → Option String → Option Json → Option String →
    Option Json → Option Json → Option Json → Option Json → Transaction) :=
  Transaction.mk <$> .required "id" .string <*> .optional "created_at" .string

lemma yields_front :
    front.Yields (fun _ => True) (fun _ => True) fun g => ∃ id createdAt, g = mk id createdAt := by
  refine .seq Fields.yields_true <| .map Fields.yields_true ?_
  intro id _ createdAt _
  exact ⟨id,createdAt,rfl⟩

/-- The amount is the third field; the other fields leave it where it is. -/
lemma finds_amount : fields.text.Finds "amount_in_cents" 2 fun cell t =>
    ∃ depth j, cell.node.read depth = .ok j ∧ centsOfJson j = .ok t.amount := by
  have hfront : front.text.Walks := (Slots.walks_field.map _).seq Slots.walks_field
  have hamount : (Fields.required "amount_in_cents" (.buffered centsOfJson)).text.Finds
      "amount_in_cents" 0 _ := Slots.finds_field
  have hfields : fields.text.Finds "amount_in_cents" 2 _ :=
    hamount.seq_right hfront yields_front.text |>.seq_left _ |>.seq_left _ |>.seq_left _
      |>.seq_left _ |>.seq_left _ |>.seq_left _ |>.seq_left _ |>.seq_left _ |>.seq_left _
      |>.seq_left _ |>.seq_left _ |>.seq_left _ |>.seq_left _
  refine hfields.mono fun cell t h => ?_
  iterate 13 obtain ⟨_,_,h,rfl⟩ := h
  obtain ⟨g,c,⟨id,createdAt,rfl⟩,hread,rfl⟩ := h
  obtain ⟨j,hj,hc⟩ := bind_eq_ok_iff.mp (mapError_eq_ok_iff.mp hread)
  exact ⟨cell.depth,j,hj,mapError_eq_ok_iff.mp hc⟩

/-- The amount of a transaction is read from the member of its name, or from the third item. -/
theorem amount_of_field {depth : ℕ} {node part : Node} {t : Transaction}
    (h : decoder.text depth node = .ok t) (hpart : node.field? "amount_in_cents" 2 = some part) :
    ∃ depth j, part.read depth = .ok j ∧ centsOfJson j = .ok t.amount := by
  obtain ⟨cell,rfl,hcell⟩ := Json.Decoder.exists_cell_of_field finds_amount h hpart
  exact hcell

/-- A transaction has the amount that is spelled in it. -/
theorem amount_eq_of_spells {depth depth' : ℕ} {node part : Node} {t : Transaction} {j : Json}
    {m : Cents} (h : decoder.text depth node = .ok t)
    (hpart : node.field? "amount_in_cents" 2 = some part) (hj : part.read depth' = .ok j)
    (hm : m.Spells j) : t.amount = m := by
  obtain ⟨depth,j',hj',hamount⟩ := amount_of_field h hpart
  cases (Json.Node.read_eq_ok_of_spells hm hj depth).symm.trans hj'
  cases (centsOfJson_of_spells hm).symm.trans hamount
  rfl

end Transaction
end Checkout
