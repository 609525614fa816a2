import Checkout.Text.Utf8
import Mathlib.Tactic

/-! The bytes of a text: those of its characters, each of which has at least one. No two texts have
the same bytes, no part of a text has as many bytes as the whole, and the characters are read back
from the bytes. -/
namespace Checkout.Text.Utf8

lemma encode_injective : Function.Injective encode := by
  intro s s' h
  exact String.toByteArray_inj.mp (ByteArray.ext (Array.toList_inj.mp h))

/-- The bytes of a character. -/
def charBytes (c : Char) : List UInt8 := encode (String.singleton c)

lemma encode_append (s t : String) : encode (s ++ t) = encode s ++ encode t := by
  simp [encode, String.toUTF8_eq_toByteArray]

/-- The bytes of a text are those of its characters. -/
theorem encode_ofList (cs : List Char) : encode (String.ofList cs) = cs.flatMap charBytes := by
  induction cs with
  | nil => rfl
  | cons c cs ih =>
    have hcons : String.ofList (c :: cs) = String.singleton c ++ String.ofList cs := by
      rw [String.singleton_eq_ofList, ← String.ofList_append]
      rfl
    rw [hcons, encode_append, ih, List.flatMap_cons, charBytes]

lemma flatMap_charBytes_injective : Function.Injective (List.flatMap charBytes) := by
  intro cs cs' h
  rw [← encode_ofList, ← encode_ofList] at h
  exact String.ofList_injective (encode_injective h)

lemma length_charBytes_pos (c : Char) : 0 < (charBytes c).length := by
  simp [charBytes, encode, String.toUTF8_eq_toByteArray, List.utf8Encode, Char.utf8Size_pos]

/-- A part of a text with no fewer bytes is the whole text. -/
theorem eq_of_sublist {a b : List Char} (h : a.Sublist b)
    (hlength : (b.flatMap charBytes).length ≤ (a.flatMap charBytes).length) : a = b := by
  have hle {a b : List Char} (h : a.Sublist b) :
      (a.flatMap charBytes).length ≤ (b.flatMap charBytes).length :=
    (h.flatMap charBytes).length_le
  induction h with
  | slnil => rfl
  | cons c h ih =>
    have hpos := length_charBytes_pos c
    have hpart := hle h
    rw [List.flatMap_cons, List.length_append] at hlength
    omega
  | cons_cons c h ih =>
    rw [List.flatMap_cons, List.flatMap_cons, List.length_append, List.length_append] at hlength
    rw [ih (by omega)]

lemma charBytes_eq (c : Char) : charBytes c = String.utf8EncodeChar c := by
  simp [charBytes, encode, String.toUTF8_eq_toByteArray, List.utf8Encode]

/-- A character of ASCII is its one byte, and no byte of another character is one of ASCII. -/
lemma charBytes_cases (c : Char) :
    c.toNat < 128 ∧ charBytes c = [UInt8.ofNat c.toNat] ∨
      128 ≤ c.toNat ∧ ∀ b ∈ charBytes c, 128 ≤ b.toNat := by
  have hchar : c.toNat = c.val.toNat := rfl
  rw [charBytes_eq, String.utf8EncodeChar, hchar]
  generalize c.val.toNat = v
  split_ifs with h1 h2 h3
  · exact .inl ⟨by omega,rfl⟩
  all_goals
    refine .inr ⟨by omega,?_⟩
    simp only [List.forall_mem_cons, List.not_mem_nil, IsEmpty.forall_iff, implies_true, and_true,
      UInt8.toNat_ofNat']
    omega

section Leads
variable {n t : ℕ}

lemma lead?_two (hlow : 2 ≤ n) (hhigh : n < 32) : lead? (n + 192) = some ⟨1,0x80,0xBF,n⟩ := by
  interval_cases n <;> rfl

lemma lead?_three (hn : n < 16) (ht : t < 64) (hfirst : n = 0 → 32 ≤ t) (hgap : n = 13 → t < 32) :
    ∃ low high, lead? (n + 224) = some ⟨2,low,high,n⟩ ∧ low ≤ t + 128 ∧ t + 128 ≤ high := by
  interval_cases n <;> refine ⟨_,_,rfl,?_,?_⟩ <;> omega

lemma lead?_four (hn : n < 5) (ht : t < 64) (hfirst : n = 0 → 16 ≤ t) (hlast : n = 4 → t < 16) :
    ∃ low high, lead? (n + 240) = some ⟨3,low,high,n⟩ ∧ low ≤ t + 128 ∧ t + 128 ≤ high := by
  interval_cases n <;> refine ⟨_,_,rfl,?_,?_⟩ <;> omega

end Leads

/-- A byte behind the first one adds six bits. -/
lemma continuation_cons {more low high bits used k : ℕ} (rest : List UInt8)
    (hlow : low ≤ k % 64 + 128) (hhigh : k % 64 + 128 ≤ high) :
    continuation (more + 1) low high bits used (UInt8.ofNat (k % 64 + 128) :: rest) =
      continuation more 0x80 0xBF (bits * 64 + k % 64) (used + 1) rest := by
  have hbyte : (UInt8.ofNat (k % 64 + 128)).toNat = k % 64 + 128 := by
    rw [UInt8.toNat_ofNat']
    omega
  rw [continuation, hbyte, if_pos ⟨hlow,hhigh⟩, Nat.add_sub_cancel]

lemma first_eq {n code used : ℕ} {rest : List UInt8} {l : Lead} (hn : n < 256)
    (hlead : lead? n = some l)
    (h : continuation l.more l.low l.high l.bits 1 rest = (some code,used)) :
    first (UInt8.ofNat n) rest = (some (Char.ofNat code),used) := by
  have hbyte : (UInt8.ofNat n).toNat = n := by
    rw [UInt8.toNat_ofNat']
    omega
  simp only [first, hbyte, hlead, h, Option.map_some]

/-- The bytes of a character are read as the character. -/
lemma first_charBytes (c : Char) (rest : List UInt8) :
    ∃ b bs, charBytes c = b :: bs ∧ first b (bs ++ rest) = (some c,bs.length + 1) := by
  have hvalid : c.val.toNat < 0xD800 ∨ 0xDFFF < c.val.toNat ∧ c.val.toNat < 0x110000 := c.valid
  have hchar : Char.ofNat c.val.toNat = c := Char.ofNat_toNat c
  rw [charBytes_eq, String.utf8EncodeChar]
  generalize c.val.toNat = v at hvalid hchar
  rw [← hchar]
  split_ifs with h1 h2 h3
  · exact ⟨_,_,rfl,first_eq (by omega) (if_pos (by omega)) rfl⟩
  · have hn : v / 64 % 32 = v / 64 := by omega
    have hv : v / 64 * 64 + v % 64 = v := by omega
    rw [hn]
    refine ⟨_,_,rfl,first_eq (by omega) (lead?_two (by omega) (by omega)) ?_⟩
    change continuation (0 + 1) 0x80 0xBF (v / 64) 1 (_ :: _) = _
    rw [continuation_cons _ (by omega) (by omega), hv]
    rfl
  · have hn : v / 4096 % 16 = v / 4096 := by omega
    have hv : (v / 4096 * 64 + v / 64 % 64) * 64 + v % 64 = v := by omega
    obtain ⟨low,high,hlead,hlow,hhigh⟩ := lead?_three (n := v / 4096) (t := v / 64 % 64) (by omega)
      (by omega) (by omega) (by omega)
    rw [hn]
    refine ⟨_,_,rfl,first_eq (by omega) hlead ?_⟩
    rw [List.cons_append, List.cons_append, continuation_cons _ hlow hhigh,
      continuation_cons _ (by omega) (by omega), hv]
    rfl
  · have hn : v / 262144 % 8 = v / 262144 := by omega
    have hv : ((v / 262144 * 64 + v / 4096 % 64) * 64 + v / 64 % 64) * 64 + v % 64 = v := by omega
    obtain ⟨low,high,hlead,hlow,hhigh⟩ := lead?_four (n := v / 262144) (t := v / 4096 % 64)
      (by omega) (by omega) (by omega) (by omega)
    rw [hn]
    refine ⟨_,_,rfl,first_eq (by omega) hlead ?_⟩
    rw [List.cons_append, List.cons_append, List.cons_append, continuation_cons _ hlow hhigh,
      continuation_cons _ (by omega) (by omega), continuation_cons _ (by omega) (by omega), hv]
    rfl

lemma symbolsFrom_skip (bs rest : List UInt8) (acc : List (Option Char)) :
    symbolsFrom bs.length (bs ++ rest) acc = symbolsFrom 0 rest acc := by
  induction bs with
  | nil => rfl
  | cons b bs ih =>
    rw [List.cons_append, List.length_cons, symbolsFrom]
    exact ih

/-- The bytes of a text are read as its characters. -/
theorem symbols_encode (s : String) : symbols (encode s) = s.toList.map some := by
  have hfrom (cs : List Char) (acc : List (Option Char)) :
      symbolsFrom 0 (cs.flatMap charBytes) acc = acc.reverse ++ cs.map some := by
    induction cs generalizing acc with
    | nil => simp [symbolsFrom]
    | cons c cs ih =>
      obtain ⟨b,bs,hbytes,hfirst⟩ := first_charBytes c (cs.flatMap charBytes)
      rw [List.flatMap_cons, hbytes, List.cons_append, symbolsFrom, hfirst]
      dsimp only
      rw [Nat.add_sub_cancel, symbolsFrom_skip, ih]
      simp
  have hencode := encode_ofList s.toList
  rw [String.ofList_toList] at hencode
  rw [hencode, symbols, hfrom]
  rfl

end Checkout.Text.Utf8
