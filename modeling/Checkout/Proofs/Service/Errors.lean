import Checkout.Proofs.Json.Rendering
import Checkout.Proofs.Text.Bytes
import Checkout.Service.ApiError

/-! What callers can read off the answer to an error. The body is an object that gives back the code
and the message as they are, whatever they are made of. The header is there only if the bytes of the
code may stand in a header; bytes outside of ASCII may. -/
namespace Checkout

namespace Http

/-- Whether a byte may stand in the value of a header: a tab, or anything but a control of ASCII. -/
def IsHeaderByte (b : UInt8) : Prop := b = 9 ∨ 32 ≤ b ∧ b ≠ 127

lemma isHeaderByte_iff {b : UInt8} :
    IsHeaderByte b ↔ b.toNat = 9 ∨ 32 ≤ b.toNat ∧ b.toNat ≠ 127 := by
  simp [IsHeaderByte, ← UInt8.toNat_inj, UInt8.le_iff_toNat_le]

lemma isHeaderChar_iff {c : Char} :
    isHeaderChar c = true ↔ c.toNat = 9 ∨ 32 ≤ c.toNat ∧ c.toNat ≠ 127 := by
  have htab : c = '\t' ↔ c.toNat = 9 := ⟨fun h => h ▸ rfl,fun h => Char.toNat_inj.mp h⟩
  simp [isHeaderChar, htab]

/-- A character may stand in a header exactly if its bytes may. -/
lemma isHeaderChar_iff_charBytes (c : Char) :
    isHeaderChar c = true ↔ ∀ b ∈ Text.Utf8.charBytes c, IsHeaderByte b := by
  rw [isHeaderChar_iff]
  rcases Text.Utf8.charBytes_cases c with ⟨hascii,hbytes⟩ | ⟨hhigh,hbytes⟩
  · have hbyte : (UInt8.ofNat c.toNat).toNat = c.toNat := by
      rw [UInt8.toNat_ofNat']
      omega
    rw [hbytes, List.forall_mem_singleton, isHeaderByte_iff, hbyte]
  · refine iff_of_true (.inr (by omega)) fun b hb => isHeaderByte_iff.mpr ?_
    have := hbytes b hb
    omega

/-- A text may be the value of a header exactly if its bytes may stand in one. -/
theorem isHeaderText_iff (s : String) :
    isHeaderText s = true ↔ ∀ b ∈ Text.Utf8.encode s, IsHeaderByte b := by
  have hbytes := Text.Utf8.encode_ofList s.toList
  rw [String.ofList_toList] at hbytes
  rw [isHeaderText, List.all_eq_true, hbytes]
  simp only [isHeaderChar_iff_charBytes, List.mem_flatMap]
  grind

end Http

namespace Service.ApiError

open Checkout.Http (IsHeaderByte isHeaderText_iff)

/-- The members of the body of an error. -/
def members (code : String) (message? : Option String) : List (String × Json) :=
  ("code",.string code) :: (message?.map fun message => ("message",.string message)).toList

/-- The body of an error is read as the object of its code and its message. -/
theorem parse_body_toResponse (e : ApiError) :
    Json.parse e.toResponse.body = .ok (.object (members e.code e.message?)) := by
  have hbody : e.toResponse.body = e.toJson.render := rfl
  rw [hbody, toJson, members]
  cases e.message? with
  | none => exact Json.parse_render_texts [("code",e.code)] (List.pairwise_singleton _ _)
  | some message =>
    exact Json.parse_render_texts [("code",e.code),("message",message)]
      (List.pairwise_pair.mpr (by decide +kernel : "code" < "message"))

/-- An error with a code is answered with a status, a body that gives back the code and a message, and
the code in a header if its bytes may stand there. -/
structure Tells (e : ApiError) (status : ℕ) (code : String) (message? : Option String) : Prop where
  named : e.code = code
  status : e.toResponse.status = status
  contentType : e.toResponse.contentType = some "application/json"
  body : Json.parse e.toResponse.body = .ok (.object (members code message?))
  header : ∀ s, e.toResponse.errorCode = some s ↔
    (∀ b ∈ Text.Utf8.encode code, IsHeaderByte b) ∧ s = code

lemma tells (e : ApiError) : e.Tells e.status e.code e.message? where
  named := rfl
  status := rfl
  contentType := rfl
  body := e.parse_body_toResponse
  header s := by rw [errorCode_toResponse_eq_some_iff, isHeaderText_iff]

/-- Every error is answered by its kind's status and gives back its code and its message, if it has
one; the code stands in a header as well exactly if each of its bytes may. -/
theorem toResponse_tells :
    (∀ code message?, (badRequest code message?).Tells 400 code message?) ∧
    (∀ code, (notFound code).Tells 404 code none) ∧
    ∀ message?, (internal message?).Tells 500 "internal_error" message? :=
  ⟨fun code message? => tells (badRequest code message?),fun code => tells (notFound code),
    fun message? => tells (internal message?)⟩

/-- A code outside of ASCII stands in the header. -/
theorem not_errorCode_only_ascii : ¬ ∀ e : ApiError, e.toResponse.errorCode.isSome ↔
    ∀ b ∈ Text.Utf8.encode e.code, b = 9 ∨ 32 ≤ b ∧ b ≤ 126 := by
  intro h
  have hbytes := (h (.notFound "é")).mp (by decide +kernel)
  have hlead := hbytes 0xC3 (by decide +kernel)
  revert hlead
  decide

end Service.ApiError
end Checkout
