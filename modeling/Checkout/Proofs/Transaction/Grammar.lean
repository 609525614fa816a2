import Checkout.Proofs.Transaction.Exchanged
import Checkout.Proofs.Transaction.Written

/-! The grammar of an amount. A value counts as a number if it is that whole number, or a text with a
numeral of it and nothing but blanks around the numeral. The amount of a transaction is read from
exactly the values that count as a number of sixty-four bits with a sign. -/
namespace Checkout

open Checkout.Json (Ascending Decoder Fields Node)
open Checkout.Text (Padded)
open Checkout.Text.Integer (Denotes denotes_trimChars_iff)

/-- The numbers of sixty-four bits with a sign. -/
def IsSigned64 (n : ℤ) : Prop := -2 ^ 63 ≤ n ∧ n < 2 ^ 63

lemma Money.Cents.isSigned64 (c : Money.Cents) : IsSigned64 c.count := by
  simpa [IsSigned64] using c.fits

namespace Json

/-- The values that count as a number: the whole number, and a text with a numeral of it. -/
inductive Counts : Json → ℤ → Prop
  | number {w : WholeNumber} : Counts (.number (.whole w)) w.val
  | text {s : String} {numeral : List Char} {n : ℤ} (padded : Padded numeral s.toList)
    (h : Denotes numeral n) : Counts (.string s) n

lemma counts_string_iff {s : String} {n : ℤ} :
    (Json.string s).Counts n ↔ Denotes (Text.trimChars s.toList) n := by
  rw [denotes_trimChars_iff]
  constructor
  · rintro ⟨⟩
    next numeral padded h => exact ⟨numeral,padded,h⟩
  · rintro ⟨numeral,padded,h⟩
    exact .text padded h

end Json

namespace Transaction
variable {t : Transaction} {v : Json}

/-- An amount is read from the values that count as it. -/
lemma centsOfJson_eq_ok_iff_counts {c : Money.Cents} :
    centsOfJson v = .ok c ↔ v.Counts c.count := by
  rw [centsOfJson_eq_ok_iff]
  constructor
  · rintro (⟨w,rfl,hw⟩ | ⟨s,rfl,hs⟩)
    · exact hw ▸ .number
    · exact Json.counts_string_iff.mpr hs
  · intro h
    generalize hn : c.count = n at h
    cases h with
    | number => exact .inl ⟨_,rfl,rfl⟩
    | text padded h => exact .inr ⟨_,rfl,Json.counts_string_iff.mp (.text padded h)⟩

lemma exists_cents_iff {n : ℤ} :
    (∃ c, centsOfJson v = .ok c ∧ c.count = n) ↔ v.Counts n ∧ IsSigned64 n := by
  constructor
  · rintro ⟨c,hc,rfl⟩
    exact ⟨centsOfJson_eq_ok_iff_counts.mp hc,c.isSigned64⟩
  · rintro ⟨hcounts,hrange⟩
    exact ⟨⟨n,by simpa [IsSigned64] using hrange⟩,centsOfJson_eq_ok_iff_counts.mpr hcounts,rfl⟩

lemma exists_error_iff :
    (∃ problem, centsOfJson v = .error problem) ↔ ∀ n, v.Counts n → ¬ IsSigned64 n := by
  constructor
  · rintro ⟨problem,hproblem⟩ n hcounts hrange
    obtain ⟨c,hc,-⟩ := exists_cents_iff.mpr ⟨hcounts,hrange⟩
    cases hproblem.symm.trans hc
  · intro h
    cases hread : centsOfJson v with
    | error problem => exact ⟨problem,rfl⟩
    | ok c => exact absurd c.isSigned64 (h c.count (centsOfJson_eq_ok_iff_counts.mp hread))

/-- Fields read from members in which only the amount is another give another amount only. -/
lemma reads_of_amount {get get' : String → Option Json} (h : fields.Reads get t)
    (hsame : ∀ name, name ≠ "amount_in_cents" → get name = get' name)
    (hv : get' "amount_in_cents" = some v) {c : Money.Cents} (hc : centsOfJson v = .ok c) :
    fields.Reads get' { t with amount := c } := by
  have hkeep {α : Type} {name : String} {d : Decoder α} {absent : Json.Absent α} {a : α}
      (h : (Fields.field name d absent).Reads get a) (hname : name ≠ "amount_in_cents") :
      (Fields.field name d absent).Reads get' a := by
    refine (Json.Slots.local_field fun key hkey => ?_).trans h
    rw [List.mem_singleton.mp hkey, hsame name hname]
  obtain ⟨h₁,h₂,-,h₄,h₅,h₆,h₇,h₈,h₉,h₁₀,h₁₁,h₁₂,h₁₃,h₁₄,h₁₅,h₁₆⟩ := reads_iff.mp h
  exact reads_iff.mpr ⟨hkeep h₁ (by decide),hkeep h₂ (by decide),
    Fields.reads_required_iff.mpr ⟨v,hv,hc⟩,hkeep h₄ (by decide),hkeep h₅ (by decide),
    hkeep h₆ (by decide),hkeep h₇ (by decide),hkeep h₈ (by decide),hkeep h₉ (by decide),
    hkeep h₁₀ (by decide),hkeep h₁₁ (by decide),hkeep h₁₂ (by decide),hkeep h₁₃ (by decide),
    hkeep h₁₄ (by decide),hkeep h₁₅ (by decide),hkeep h₁₆ (by decide)⟩

/-- With another value for its amount a transaction is read if the value counts as an amount, and is
the same but for that amount. -/
lemma decoder_put_eq_ok_iff {members : List (String × Json)} (hmembers : Ascending members)
    (h : decoder.value (.object members) = .ok t) {t' : Transaction} :
    decoder.value ((Json.object members).put "amount_in_cents" v) = .ok t' ↔
      v.Counts t'.amount.count ∧ t' = { t with amount := t'.amount } := by
  have hput : Ascending (Entries.alter "amount_in_cents" v (fun _ => v) members) :=
    Entries.pairwise_alter hmembers
  have hread := (Decoder.record_object_of_nodup checked_fields hmembers.nodup).mp h
  have hother {c : Money.Cents} (hc : centsOfJson v = .ok c) :=
    reads_of_amount hread (fun name hname => (Entries.lookup_alter_of_ne hname).symm)
      (Json.lookup_put "amount_in_cents" v members) hc
  refine (Decoder.record_object_of_nodup checked_fields hput.nodup).trans ?_
  rw [← centsOfJson_eq_ok_iff_counts]
  constructor
  · intro h'
    -- A record has one reading, and the other fields were read from the same members before.
    obtain ⟨v',hv',hc⟩ := Fields.reads_required_iff.mp (reads_iff.mp h').2.2.1
    cases (Json.lookup_put "amount_in_cents" v members).symm.trans hv'
    exact ⟨hc,Except.ok.inj (h'.symm.trans (hother hc))⟩
  · rintro ⟨hc,ht'⟩
    rw [ht']
    exact hother hc

/-- The one grammar of an amount: what counts as a number of sixty-four bits with a sign is read as
that number, everything else is refused, and a transaction has its amount from nowhere else, in an
object as in a text. -/
theorem amount_iff_counts :
    (∀ v n, (∃ c, centsOfJson v = .ok c ∧ c.count = n) ↔ v.Counts n ∧ IsSigned64 n) ∧
    (∀ v, (∃ problem, centsOfJson v = .error problem) ↔ ∀ n, v.Counts n → ¬ IsSigned64 n) ∧
    (∀ members t, Ascending members → decoder.value (.object members) = .ok t → ∀ v t',
      decoder.value ((Json.object members).put "amount_in_cents" v) = .ok t' ↔
        v.Counts t'.amount.count ∧ t' = { t with amount := t'.amount }) ∧
    ∀ depth (node part : Node) t, decoder.text depth node = .ok t →
      node.field? "amount_in_cents" 2 = some part →
      ∃ depth v, part.read depth = .ok v ∧ v.Counts t.amount.count := by
  refine ⟨fun v n => exists_cents_iff,fun v => exists_error_iff,?_,?_⟩
  · exact fun members t hmembers h v t' => decoder_put_eq_ok_iff hmembers h
  · intro depth node part t h hpart
    obtain ⟨depth,v,hv,hc⟩ := amount_of_field h hpart
    exact ⟨depth,v,hv,centsOfJson_eq_ok_iff_counts.mp hc⟩

/-- A text with a blank, a sign and zeros in front of its number. -/
def paddedAmount : List (String × Json) :=
  [("amount_in_cents",.string "\u00a0+0100 "),("id",.string "t"),("status",.string "PENDING")]

/-- The text of these members. -/
def paddedDocument : Json.Document :=
  .ofSymbols (Json.Symbol.ofText (Json.object paddedAmount).render)

theorem amount_paddedAmount :
    (∃ problem, centsOfJson (.number (.float (.zero true))) = .error problem) ∧
    (∃ t, decoder.value (.object paddedAmount) = .ok t ∧ t.amount.count = 100 ∧ ∀ v t',
      decoder.value ((Json.object paddedAmount).put "amount_in_cents" v) = .ok t' ↔
        v.Counts t'.amount.count ∧ t' = { t with amount := t'.amount }) ∧
    ∃ t part depth v, decoder.text Json.levels paddedDocument.root = .ok t ∧
      paddedDocument.root.field? "amount_in_cents" 2 = some part ∧
      part.read depth = .ok v ∧ v.Counts t.amount.count := by
  obtain ⟨-,hrefused,hobject,htext⟩ := amount_iff_counts
  refine ⟨(hrefused _).mpr ?_,?_,?_⟩
  · rintro n ⟨⟩
  · have hread : ((decoder.value (.object paddedAmount)).toOption.map fun t => t.amount.count) =
        some 100 := by decide +kernel
    obtain ⟨t,hvalue,hcount⟩ := exists_eq_ok_of_map hread
    have hmembers : Ascending paddedAmount := by unfold Ascending; decide +kernel
    exact ⟨t,hvalue,hcount,hobject paddedAmount t hmembers hvalue⟩
  · have hread : (decoder.text Json.levels paddedDocument.root).toOption.isSome := by decide +kernel
    have hfield : (paddedDocument.root.field? "amount_in_cents" 2).isSome := by decide +kernel
    obtain ⟨t,hnode⟩ := exists_eq_ok_of_isSome hread
    obtain ⟨part,hpart⟩ := Option.isSome_iff_exists.mp hfield
    obtain ⟨depth,v,hv,hcounts⟩ := htext _ _ _ t hnode hpart
    exact ⟨t,part,depth,v,hnode,hpart,hv,hcounts⟩

-- Negative zero and whole numbers with a point or an exponent are floating-point numbers.
example : (["-0", "1.0", "1e2", "9223372036854775808", "true", "[1]"].map fun text =>
    ((Json.parse text).toOption.bind fun v => (centsOfJson v).toOption).isSome) =
    List.replicate 6 false := by decide +kernel

end Transaction
end Checkout
