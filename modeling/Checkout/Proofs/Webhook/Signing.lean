import Checkout.Proofs.Json.Edits
import Checkout.Proofs.Webhook.Completeness

/-! Signing an event. The checksum is taken from five places and put into another one, so an event
may be signed without changing what is signed, and of all values that can be put there only the
checksum itself verifies. -/
namespace Checkout.Webhook

open Checkout.Json (Apart)
open SignedValue

/-- The places of an event that its checksum is taken from. -/
def signedPaths : List (List String) :=
  [["data", "transaction", "id"], ["data", "transaction", "status"],
    ["data", "transaction", "amount_in_cents"], ["timestamp"], ["data", "timestamp"]]

section Texts
variable {p q : Json}

/-- Events of which the same texts are signed have the same checksum. -/
theorem checksum_eq_of_text_eq (h : ∀ v : SignedValue, v.text p = v.text q) (secret : String) :
    checksum p secret = checksum q secret := by
  have hsigned : signedText p secret = signedText q secret := by
    refine String.toList_injective ?_
    rw [toList_signedText_values, toList_signedText_values, h, h, h, h]
  rw [checksum, checksum, hsigned]

lemma text_eq_of_path?_eq (h : ∀ path ∈ signedPaths, p.path? path = q.path? path)
    (v : SignedValue) : v.text p = v.text q := by
  cases v with
  | id | status | amount => exact congrArg wireText (h _ (by simp [signedPaths]))
  | time =>
    have htop : p.path? ["timestamp"] = q.path? ["timestamp"] := h _ (by simp [signedPaths])
    have hdata : p.path? ["data", "timestamp"] = q.path? ["data", "timestamp"] :=
      h _ (by simp [signedPaths])
    rw [Json.path?_singleton, Json.path?_singleton] at htop
    simp only [text, of?, timestamp?, htop, hdata]

end Texts

/-- An event that can be given a checksum: an object whose signature is absent or an object. -/
structure Signable (payload : Json) : Prop where
  isObject : ∃ members, payload = .object members
  signature : ∀ signature, payload.get? "signature" = some signature →
    ∃ members, signature = .object members

/-- An event with some value as its checksum. The signature is made if there is none. -/
def withChecksum (value payload : Json) : Json :=
  payload.put "signature" (((payload.get? "signature").getD (.object [])).put "checksum" value)

section WithChecksum
variable {payload : Json} {path : List String}

lemma Signable.path?_withChecksum_self (h : Signable payload) (value : Json) :
    (withChecksum value payload).path? ["signature", "checksum"] = some value := by
  obtain ⟨members,hmembers⟩ := h.isObject
  obtain ⟨inner,hinner⟩ :
      ∃ inner, (payload.get? "signature").getD (.object []) = .object inner := by
    cases hs : payload.get? "signature" with
    | none => exact ⟨[],rfl⟩
    | some signature => exact h.signature signature hs
  rw [withChecksum, hinner, hmembers, Json.path?_cons, Json.get?_put_self, Option.bind_some,
    Json.path?_singleton, Json.get?_put_self]

/-- Nothing else is changed by setting the checksum. -/
lemma Signable.path?_withChecksum (h : Signable payload) (value : Json)
    (hapart : Apart ["signature", "checksum"] path) :
    (withChecksum value payload).path? path = payload.path? path := by
  cases hapart with
  | here hne => rw [withChecksum, Json.path?_cons, Json.path?_cons, Json.get?_put_of_ne hne]
  | later hlater =>
    cases hlater with
    | later hnil => cases hnil
    | here hne =>
      obtain ⟨members,rfl⟩ := h.isObject
      rw [withChecksum, Json.path?_cons, Json.path?_cons, Json.get?_put_self, Option.bind_some,
        Json.path?_cons, Json.get?_put_of_ne hne]
      cases (Json.object members).get? "signature" <;> rfl

lemma apart_of_mem_signedPaths (h : path ∈ signedPaths) : Apart ["signature", "checksum"] path := by
  simp only [signedPaths, List.mem_cons, List.not_mem_nil, or_false] at h
  rcases h with rfl | rfl | rfl | rfl | rfl <;> exact .here (by decide)

end WithChecksum

/-- An event may be given any checksum without changing what is signed. It verifies with its own
checksum and with no other value, and events that agree on the five places have the same checksum.
-/
theorem signing_and_verifying {payload : Json} (h : Signable payload) :
    (∀ value secret, checksum (withChecksum value payload) secret = checksum payload secret) ∧
    (∀ secret, verifies (withChecksum (.string (checksum payload secret)) payload) secret = true) ∧
    (∀ value secret, value ≠ .string (checksum payload secret) →
      verifies (withChecksum value payload) secret = false) ∧
    ∀ p q : Json, (∀ path ∈ signedPaths, p.path? path = q.path? path) →
      ∀ secret, checksum p secret = checksum q secret := by
  have hframe (value : Json) (secret : String) :
      checksum (withChecksum value payload) secret = checksum payload secret :=
    checksum_eq_of_text_eq (text_eq_of_path?_eq fun path hpath =>
      h.path?_withChecksum value (apart_of_mem_signedPaths hpath)) secret
  have hverifies (value : Json) (secret : String) :
      verifies (withChecksum value payload) secret = true ↔
        value = .string (checksum payload secret) := by
    rw [verifies_iff, claimedChecksum?, h.path?_withChecksum_self, Option.bind_some, hframe,
      Json.string?_eq_some_iff]
  refine ⟨hframe,fun secret => (hverifies _ secret).mpr rfl,fun value secret hvalue => ?_,
    fun p q hpaths => checksum_eq_of_text_eq (text_eq_of_path?_eq hpaths)⟩
  rw [Bool.eq_false_iff, ne_eq, hverifies]
  exact hvalue

/-- An event without a signature. -/
def unsignedUpdate : Json :=
  .object [("data",.object [("transaction",.object [("id",.string "t1")])]),
    ("timestamp",.string "1")]

theorem signing_and_verifying_unsignedUpdate : Signable unsignedUpdate ∧
    verifies (withChecksum (.string (checksum unsignedUpdate "k")) unsignedUpdate) "k" = true ∧
    Json.null ≠ .string (checksum unsignedUpdate "k") ∧
    verifies (withChecksum .null unsignedUpdate) "k" = false ∧
    ∃ p q : Json, p ≠ q ∧ (∀ path ∈ signedPaths, p.path? path = q.path? path) ∧
      ∀ secret, checksum p secret = checksum q secret := by
  have hsignable : Signable unsignedUpdate := by
    refine ⟨⟨_,rfl⟩,fun signature hsignature => ?_⟩
    cases hsignature
  have hnull : Json.null ≠ .string (checksum unsignedUpdate "k") := by
    intro h
    cases h
  obtain ⟨-,hself,hother,hsame⟩ := signing_and_verifying hsignable
  have hpaths : ∀ path ∈ signedPaths,
      Json.path? path (.object [("event",.null)]) = Json.path? path (.object []) := by
    simp [signedPaths, Json.get?, List.lookup_cons]
  exact ⟨hsignable,hself "k",hnull,hother .null "k" hnull,_,_,by simp,hpaths,hsame _ _ hpaths⟩

end Checkout.Webhook
