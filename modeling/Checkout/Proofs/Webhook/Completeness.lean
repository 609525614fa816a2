import Checkout.Proofs.Webhook.Readability

/-! Events that lack something that is signed. What is missing is signed as nothing, so a missing value
shows only by the letters that it would have given; among the events made from a signed one by leaving
values out, those verify that keep every text, but the letters of one value may also stand in for
another one. -/
namespace Checkout.Webhook

/-- The four values of an event that are signed. -/
inductive SignedValue where
  | id
  | status
  | amount
  | time
  deriving DecidableEq, Repr

namespace SignedValue

/-- A signed value as the event has it. -/
def of? (payload : Json) : SignedValue → Option Json
  | .id => payload.path? ["data", "transaction", "id"]
  | .status => payload.path? ["data", "transaction", "status"]
  | .amount => payload.path? ["data", "transaction", "amount_in_cents"]
  | .time => timestamp? payload

/-- A signed value as it goes into the signed text. -/
def text (payload : Json) (v : SignedValue) : String := wireText (v.of? payload)

end SignedValue

open SignedValue

/-- An event that has every signed value as a text or a number. -/
def Complete (payload : Json) : Prop := ∀ v : SignedValue, IsTextOrNumber (v.of? payload)

lemma toList_signedText_values (payload : Json) (secret : String) :
    (signedText payload secret).toList = (text payload .id).toList ++
      '-' :: ((text payload .status).toList ++ '-' :: ((text payload .amount).toList ++
        ((text payload .time).toList ++ secret.toList))) := by
  simp only [text, of?, path?_transaction]
  exact toList_signedText payload secret

lemma text_eq_of_signedText_eq {p q : Json} {secret : String}
    (hkept : ∀ v, text p v = text q v ∨ text p v = "")
    (h : signedText p secret = signedText q secret) (v : SignedValue) : text p v = text q v := by
  -- No text of `p` is longer than that of `q`, and the lengths add up to the same.
  have hle : ∀ v, (text p v).length ≤ (text q v).length := by
    intro v
    rcases hkept v with hv | hv <;> simp [hv]
  have hlength := congrArg List.length (congrArg String.toList h)
  simp only [toList_signedText_values, List.length_append, List.length_cons, String.length_toList]
    at hlength
  have hid := hle .id
  have hstatus := hle .status
  have hamount := hle .amount
  have htime := hle .time
  have hsame : (text p v).length = (text q v).length := by cases v <;> omega
  rcases hkept v with hv | hv
  · exact hv
  · rw [hv] at hsame ⊢
    exact (String.length_eq_zero_iff.mp hsame.symm).symm

/-- An event with the checksum of a complete one, made of it by leaving values out, verifies exactly if
it keeps every text. So if no value of the complete one is empty, it verifies only if it is complete. -/
theorem verifies_iff_text_eq {p q : Json} {secret : String} (hq : Complete q)
    (hclaimed : claimedChecksum? p = some (checksum q secret))
    (hkept : ∀ v : SignedValue, v.of? p = v.of? q ∨ text p v = "")
    (hfree : CollisionFree p q secret) :
    (verifies p secret = true ↔ ∀ v, text p v = text q v) ∧
    ((∀ v, text q v ≠ "") → verifies p secret = true → Complete p) := by
  have htexts : ∀ v, text p v = text q v ∨ text p v = "" := by
    intro v
    exact (hkept v).imp_left (congrArg wireText)
  have hiff : verifies p secret = true ↔ ∀ v, text p v = text q v := by
    rw [verifies_iff, hclaimed, Option.some.injEq, eq_comm, checksum_eq_iff hfree]
    constructor
    · exact text_eq_of_signedText_eq htexts
    · intro h
      rw [← String.toList_inj, toList_signedText_values, toList_signedText_values]
      simp only [h]
  refine ⟨hiff,?_⟩
  intro hne hverifies v
  rcases hkept v with hv | hv
  · rw [hv]
    exact hq v
  · exact absurd ((hiff.mp hverifies v).symm.trans hv) (hne v)

/-- An event without a time under the checksum of `signedEvent`. -/
def timelessEvent (amount : String) : Json :=
  .object [("data", .object [("transaction",
      .object (updateMembers "testId" "APPROVED" (.string amount)))]),
    ("signature", .object [("checksum",
      .string "125d467a792c701c59c7967e7207624c9fa563e68a302c85eb642a4ebab85890")])]

lemma claimedChecksum?_timelessEvent (amount : String) :
    claimedChecksum? (timelessEvent amount) = some (checksum signedEvent "test123") := by
  have hchecksum : checksum signedEvent "test123" =
      "125d467a792c701c59c7967e7207624c9fa563e68a302c85eb642a4ebab85890" := by decide +kernel
  rw [hchecksum]
  rfl

theorem not_verifies_timelessEvent : verifies (timelessEvent "454500") "test123" = false := by
  have hcomplete : Complete signedEvent := by
    intro v
    cases v with
    | id => exact .inl ⟨_,rfl⟩
    | status => exact .inl ⟨_,rfl⟩
    | amount => exact .inl ⟨_,rfl⟩
    | time => exact .inr ⟨_,rfl⟩
  have hkept : ∀ v : SignedValue, v.of? (timelessEvent "454500") = v.of? signedEvent ∨
      text (timelessEvent "454500") v = "" := by
    intro v
    cases v with
    | time => exact .inr rfl
    | id | status | amount => exact .inl rfl
  have hfree : CollisionFree (timelessEvent "454500") signedEvent "test123" := by
    intro h
    revert h
    decide +kernel
  have hiff := verifies_iff_text_eq hcomplete (claimedChecksum?_timelessEvent _) hkept hfree
  rw [← Bool.not_eq_true, hiff.1]
  intro h
  exact absurd (h .time) (by decide +kernel)

/-- The time may stand at the end of the amount instead. -/
theorem not_complete_of_verifies : ¬ ∀ (payload : Json) (secret : String),
    verifies payload secret = true → Complete payload := by
  intro h
  have htext : signedText signedEvent "test123" =
      signedText (timelessEvent "4545001530291411") "test123" := by decide +kernel
  have hverifies : verifies (timelessEvent "4545001530291411") "test123" = true := by
    rw [verifies_iff, claimedChecksum?_timelessEvent, checksum, checksum, htext]
  rcases h _ _ hverifies .time with ⟨s,hs⟩ | ⟨n,hn⟩
  · cases hs
  · cases hn

end Checkout.Webhook
