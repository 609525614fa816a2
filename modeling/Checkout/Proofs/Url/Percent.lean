import Checkout.Url.Host
import Checkout.Proofs.Text.Bytes
import Mathlib.Data.List.Infix
import Mathlib.Tactic

/-! What percent decoding makes of the parts of an address. Encoding the characters that may not
stand in a path leaves the decoded bytes as they are; a text is decoded to its own bytes exactly if
it holds no escape, and to fewer bytes otherwise. -/
namespace Checkout

open Checkout.Net (hexDigit?)

namespace Url

open Text.Utf8 (charBytes length_charBytes_pos)

/-- A percent sign with two hexadecimal digits. -/
def HasEscape (cs : List Char) : Prop :=
  ∃ a b, ['%',a,b] <:+: cs ∧ (hexDigit? a).isSome ∧ (hexDigit? b).isSome

lemma hexDigit?_upper {n : ℕ} (h : n < 16) :
    hexDigit? (((Nat.toDigits 16 n).headD '0').toUpper) = some n := by
  revert n
  decide

/-- A byte behind a percent sign is decoded to itself. -/
lemma decodeBytes_percent_append (b : UInt8) (rest : List Char) :
    decodeBytes (percent b ++ rest) = b :: decodeBytes rest := by
  have hhigh := hexDigit?_upper (n := b.toNat / 16) (by have := b.toNat_lt; omega)
  have hlow := hexDigit?_upper (n := b.toNat % 16) (by omega)
  simp only [percent, List.cons_append, List.nil_append, decodeBytes, hhigh, hlow, Nat.div_add_mod,
    UInt8.ofNat_toNat]

lemma decodeBytes_percentChar_append (c : Char) (rest : List Char) :
    decodeBytes (percentChar c ++ rest) = charBytes c ++ decodeBytes rest := by
  have hbytes (bytes : List UInt8) :
      decodeBytes (bytes.flatMap percent ++ rest) = bytes ++ decodeBytes rest := by
    induction bytes with
    | nil => rfl
    | cons b bytes ih =>
      rw [List.flatMap_cons, List.append_assoc, decodeBytes_percent_append, ih]
      rfl
  exact hbytes _

lemma decodeBytes_cons_of_ne {c : Char} (h : c ≠ '%') (rest : List Char) :
    decodeBytes (c :: rest) = charBytes c ++ decodeBytes rest := by
  rw [decodeBytes, charBytes]
  intro a b rest' hc
  exact absurd hc h

/-- A percent sign without two hexadecimal digits behind it is decoded to itself. -/
lemma decodeBytes_percent_of_forall {cs : List Char}
    (h : ∀ a b rest, cs = a :: b :: rest → hexDigit? a = none ∨ hexDigit? b = none) :
    decodeBytes ('%' :: cs) = charBytes '%' ++ decodeBytes cs := by
  match cs with
  | [] => rfl
  | [a] => rfl
  | a :: b :: rest =>
    rw [decodeBytes]
    rcases h a b rest rfl with ha | hb
    · simp only [ha]
      rfl
    · cases hexDigit? a <;> simp only [hb] <;> rfl

lemma hasEscape_cons_iff {c : Char} {cs : List Char} :
    HasEscape (c :: cs) ↔ (c = '%' ∧ ∃ a b rest, cs = a :: b :: rest ∧ (hexDigit? a).isSome ∧
      (hexDigit? b).isSome) ∨ HasEscape cs := by
  constructor
  · rintro ⟨a,b,hpart,ha,hb⟩
    rcases List.infix_cons_iff.mp hpart with ⟨rest,he⟩ | hpart
    · cases he
      exact .inl ⟨rfl,a,b,rest,rfl,ha,hb⟩
    · exact .inr ⟨a,b,hpart,ha,hb⟩
  · rintro (⟨rfl,a,b,rest,rfl,ha,hb⟩ | ⟨a,b,hpart,ha,hb⟩)
    · exact ⟨a,b,⟨[],rest,rfl⟩,ha,hb⟩
    · exact ⟨a,b,List.infix_cons hpart,ha,hb⟩

/-- Decoding makes a text no longer, and shorter if it holds an escape. -/
theorem length_decodeBytes (cs : List Char) :
    (decodeBytes cs).length ≤ (cs.flatMap charBytes).length ∧
      (HasEscape cs → (decodeBytes cs).length < (cs.flatMap charBytes).length) := by
  fun_induction decodeBytes cs with
  | case1 a b rest x y hy hx ih =>
    have ha := length_charBytes_pos a
    have hpercent := length_charBytes_pos '%'
    simp only [List.flatMap_cons, List.length_append, List.length_cons]
    omega
  | case2 a b rest hno ih =>
    have hpercent : (charBytes '%').length = 1 := rfl
    rw [List.flatMap_cons, List.length_append, hpercent, List.length_cons]
    refine ⟨by omega,fun h => ?_⟩
    rcases hasEscape_cons_iff.mp h with ⟨-,a',b',rest',he,ha,hb⟩ | h
    · cases he
      obtain ⟨x,hx⟩ := Option.isSome_iff_exists.mp ha
      obtain ⟨y,hy⟩ := Option.isSome_iff_exists.mp hb
      exact (hno x y hx hy).elim
    · have := ih.2 h
      omega
  | case3 c rest hshort ih =>
    have hc : (Text.Utf8.encode (String.singleton c)).length = (charBytes c).length := rfl
    rw [List.flatMap_cons, List.length_append, List.length_append, hc]
    refine ⟨by omega,fun h => ?_⟩
    rcases hasEscape_cons_iff.mp h with ⟨hpercent,a,b,rest',he,-⟩ | h
    · exact (hshort a b rest' hpercent he).elim
    · have := ih.2 h
      omega
  | case4 => simp [HasEscape]

/-- A text is decoded to its own bytes exactly if it holds no escape. -/
theorem decodeBytes_eq_iff {cs : List Char} :
    decodeBytes cs = cs.flatMap charBytes ↔ ¬ HasEscape cs := by
  refine ⟨fun h hescape => (length_decodeBytes cs).2 hescape |>.ne (congrArg List.length h),?_⟩
  intro h
  induction cs with
  | nil => rfl
  | cons c cs ih =>
    rw [hasEscape_cons_iff, not_or] at h
    obtain ⟨hhead,htail⟩ := h
    rw [List.flatMap_cons, ← ih htail]
    by_cases hc : c = '%'
    · subst hc
      refine decodeBytes_percent_of_forall fun a b rest he => ?_
      by_contra hboth
      obtain ⟨ha,hb⟩ := not_or.mp hboth
      exact hhead ⟨rfl,a,b,rest,he,Option.isSome_iff_ne_none.mpr ha,Option.isSome_iff_ne_none.mpr hb⟩
    · exact decodeBytes_cons_of_ne hc cs

lemma toNat_of_hexDigit {c : Char} (h : (hexDigit? c).isSome) :
    48 ≤ c.toNat ∧ c.toNat ≤ 57 ∨ 65 ≤ c.toNat ∧ c.toNat ≤ 70 ∨ 97 ≤ c.toNat ∧ c.toNat ≤ 102 := by
  unfold hexDigit? Text.digit? at h
  split_ifs at h with hlower hupper hdigit
  · exact .inr (.inr hlower)
  · exact .inr (.inl hupper)
  · exact .inl hdigit
  · cases h

/-- A hexadecimal digit stands for itself in a path. -/
lemma inPath_of_hexDigit {c : Char} (h : (hexDigit? c).isSome) : inPath c = false := by
  rw [Bool.eq_false_iff]
  intro hin
  simp only [inPath, inFragment, isControl, Bool.or_eq_true, decide_eq_true_eq, beq_iff_eq] at hin
  have hrange := toNat_of_hexDigit h
  rcases hin with ((((((((((hin | hin) | rfl) | rfl) | rfl) | rfl) | rfl) | rfl) | rfl) | rfl) | rfl)
  · omega
  · omega
  all_goals revert hrange; decide

lemma encode_cons (set : Char → Bool) (c : Char) (cs : List Char) :
    encode set (c :: cs) = (if set c then percentChar c else [c]) ++ encode set cs := by
  simp [encode]

lemma percentChar_eq_cons (c : Char) : ∃ cs, percentChar c = '%' :: cs := by
  have hpos := length_charBytes_pos c
  cases h : charBytes c with
  | nil => simp [h] at hpos
  | cons b bytes =>
    have hbytes : percentChar c = (charBytes c).flatMap percent := rfl
    rw [hbytes, h, List.flatMap_cons, percent]
    exact ⟨_,rfl⟩

/-- A hexadecimal digit at the front of an encoded path stood there before. -/
lemma encode_eq_digit_cons {c a : Char} {cs rest : List Char} (ha : (hexDigit? a).isSome)
    (h : encode inPath (c :: cs) = a :: rest) : a = c ∧ rest = encode inPath cs := by
  rw [encode_cons] at h
  cases hc : inPath c with
  | true =>
    obtain ⟨tail,htail⟩ := percentChar_eq_cons c
    rw [if_pos hc, htail] at h
    cases h
    cases ha
  | false =>
    simp only [hc] at h
    cases h
    exact ⟨rfl,rfl⟩

/-- What is encoded in a path is decoded like the path before. -/
theorem decodeBytes_encode (cs : List Char) : decodeBytes (encode inPath cs) = decodeBytes cs := by
  fun_induction decodeBytes cs with
  | case1 a b rest x y hy hx ih =>
    have ha := inPath_of_hexDigit (Option.isSome_of_eq_some hx)
    have hb := inPath_of_hexDigit (Option.isSome_of_eq_some hy)
    have hpercent : inPath '%' = false := by decide
    simp only [encode_cons, ha, hb, hpercent, Bool.false_eq_true, if_false, List.cons_append,
      List.nil_append, decodeBytes, hx, hy, ih]
  | case2 a b rest hno ih =>
    rw [encode_cons, if_neg (by decide), ← ih]
    refine decodeBytes_percent_of_forall fun a' b' rest' he => ?_
    by_contra hboth
    obtain ⟨ha,hb⟩ := not_or.mp hboth
    obtain ⟨rfl,htail⟩ := encode_eq_digit_cons (Option.isSome_iff_ne_none.mpr ha) he
    obtain ⟨rfl,-⟩ := encode_eq_digit_cons (Option.isSome_iff_ne_none.mpr hb) htail.symm
    obtain ⟨x,hx⟩ := Option.ne_none_iff_exists'.mp ha
    obtain ⟨y,hy⟩ := Option.ne_none_iff_exists'.mp hb
    exact hno x y hx hy
  | case3 c rest hshort ih =>
    rw [encode_cons, ← ih]
    cases hc : inPath c with
    | true => exact decodeBytes_percentChar_append c _
    | false =>
      by_cases hpercent : c = '%'
      · subst hpercent
        refine decodeBytes_percent_of_forall fun a b rest' he => ?_
        -- At most one character is behind the sign, so an encoded one is, too.
        by_contra hboth
        obtain ⟨ha,hb⟩ := not_or.mp hboth
        match rest with
        | [] => cases he
        | [d] =>
          obtain ⟨-,he⟩ := encode_eq_digit_cons (Option.isSome_iff_ne_none.mpr ha) he
          cases he
        | d :: e :: rest => exact hshort d e rest rfl rfl
      · exact decodeBytes_cons_of_ne hpercent _
  | case4 => rfl

/-- What stands in an encoded path stood there before, or is part of an escape. -/
theorem mem_encode {c : Char} {cs : List Char} (h : c ∈ encode inPath cs) :
    c ∈ cs ∧ inPath c = false ∨ c = '%' ∨ (hexDigit? c).isSome := by
  obtain ⟨d,hd,hc⟩ := List.mem_flatMap.mp h
  cases hin : inPath d with
  | false =>
    simp only [hin] at hc
    obtain rfl := List.mem_singleton.mp hc
    exact .inl ⟨hd,hin⟩
  | true =>
    rw [if_pos hin] at hc
    obtain ⟨b,-,hc⟩ := List.mem_flatMap.mp hc
    have hdigit {n : ℕ} (hn : n < 16) (he : c = ((Nat.toDigits 16 n).headD '0').toUpper) :
        (hexDigit? c).isSome := by
      rw [he, hexDigit?_upper hn]
      rfl
    simp only [percent, List.mem_cons, List.not_mem_nil, or_false] at hc
    rcases hc with hc | hc | hc
    · exact .inr (.inl hc)
    · exact .inr (.inr (hdigit (by have := b.toNat_lt; omega) hc))
    · exact .inr (.inr (hdigit (by omega) hc))

end Url
end Checkout
