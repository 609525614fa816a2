import Checkout.Webhook.Signature
import Checkout.Proofs.Text.Bytes

/-! What equal checksums say about the signed texts. A digest is written without loss and so are the
bytes of a text, so two events with one checksum have the same signed text unless the digest
collides on the two. -/
namespace Checkout

namespace Digest

/-- Two messages on which the digest does not collide. -/
def CollisionFree (m m' : List UInt8) : Prop := sha256 m = sha256 m' → m = m'

/-- The two digits of a byte, the high one first. -/
def hexDigits (b : UInt8) : List Char :=
  [(Nat.toDigits 16 (b.toNat / 16)).headD '0', (Nat.toDigits 16 (b.toNat % 16)).headD '0']

lemma toList_hex (bytes : List UInt8) : (hex bytes).toList = bytes.flatMap hexDigits :=
  String.toList_ofList

lemma headD_toDigits_inj : ∀ m < 16, ∀ n < 16,
    (Nat.toDigits 16 m).headD '0' = (Nat.toDigits 16 n).headD '0' → m = n := by decide

/-- The high and the low half of a byte can be read off its digits. -/
lemma hexDigits_injective : Function.Injective hexDigits := by
  intro b b' h
  have hb := b.toNat_lt
  have hb' := b'.toNat_lt
  simp only [hexDigits, List.cons.injEq, and_true] at h
  have hhigh := headD_toDigits_inj _ (by omega) _ (by omega) h.1
  have hlow := headD_toDigits_inj _ (Nat.mod_lt _ (by decide)) _ (Nat.mod_lt _ (by decide)) h.2
  exact UInt8.toNat_inj.mp (by omega)

/-- Different bytes are written as different digits. -/
theorem hex_injective : Function.Injective hex := by
  intro bytes bytes' h
  have hl := congrArg String.toList h
  rw [toList_hex, toList_hex] at hl
  clear h
  induction bytes generalizing bytes' with
  | nil =>
    cases bytes' with
    | nil => rfl
    | cons b' bytes' => simp [hexDigits] at hl
  | cons b bytes ih =>
    cases bytes' with
    | nil => simp [hexDigits] at hl
    | cons b' bytes' =>
      rw [List.flatMap_cons, List.flatMap_cons] at hl
      obtain ⟨hd,ht⟩ := List.append_inj hl rfl
      rw [hexDigits_injective hd, ih ht]

end Digest

namespace Webhook
/-- Two events, each under a secret, on whose signed texts the digest does not collide. -/
def CollisionFree (p q : Json) (secret : String) : Prop :=
  Digest.CollisionFree (Text.Utf8.encode (signedText p secret))
    (Text.Utf8.encode (signedText q secret))

lemma collisionFree_of_signedText_eq {p q : Json} {secret : String}
    (h : signedText p secret = signedText q secret) : CollisionFree p q secret :=
  fun _ => congrArg Text.Utf8.encode h

/-- Without a collision, events have the same checksum exactly if they have the same signed text. -/
theorem checksum_eq_iff {p q : Json} {secret : String} (hfree : CollisionFree p q secret) :
    checksum p secret = checksum q secret ↔ signedText p secret = signedText q secret := by
  constructor
  · intro h
    exact Text.Utf8.encode_injective (hfree (Digest.hex_injective h))
  · intro h
    rw [checksum, checksum, h]

end Webhook
end Checkout
