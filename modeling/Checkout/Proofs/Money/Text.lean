import Checkout.Money.Cents
import Checkout.Proofs.Text.Numeral

/-! The texts of amounts. An amount with a natural number of places is read back from its text, and
cents are written as whole units, a point and exactly two digits. -/
namespace Checkout.Money

open Checkout.Text.Integer (digit?_of_isDigit)

namespace Decimal

/-- Digits are read as the number that they write. -/
lemma natural_eq {cs : List Char} (h : ∀ c ∈ cs, c.isDigit = true) (n : ℕ) :
    natural n cs = .ok (Nat.ofDigitChars 10 cs n) := by
  induction cs generalizing n with
  | nil => simp [natural]
  | cons c cs ih =>
    have hc : c.isDigit = true := h c (by simp)
    rw [natural]
    · rw [digit?_of_isDigit hc, Nat.ofDigitChars_cons]
      exact ih (fun d hd => h d (by simp [hd])) _
    · rintro rfl
      cases hc

lemma unsigned_eq {cs : List Char} (hne : cs ≠ []) (h : ∀ c ∈ cs, c.isDigit = true) :
    unsigned cs = .ok (Nat.ofDigitChars 10 cs 0) := by
  obtain ⟨c,rest,rfl⟩ := List.exists_cons_of_ne_nil hne
  have hc : c.isDigit = true := h c (by simp)
  rw [unsigned]
  · exact natural_eq h 0
  · simp
  · rintro rest' he
    cases he
    cases hc

/-- The sign of a mantissa as it is written. -/
def signChars (mantissa : ℤ) : List Char := if mantissa < 0 then ['-'] else []

lemma signed_eq {cs : List Char} {mantissa : ℤ} (hne : cs ≠ []) (h : ∀ c ∈ cs, c.isDigit = true)
    (hvalue : Nat.ofDigitChars 10 cs 0 = mantissa.natAbs) :
    signed (signChars mantissa ++ cs) = .ok mantissa := by
  have hread := unsigned_eq hne h
  rw [hvalue] at hread
  unfold signChars
  split
  · next hneg =>
    have habs : -(mantissa.natAbs : ℤ) = mantissa := by omega
    rw [List.singleton_append, signed, hread]
    exact congrArg Except.ok habs
  · next hpos =>
    obtain ⟨c,rest,rfl⟩ := List.exists_cons_of_ne_nil hne
    have hc : c.isDigit = true := h c (by simp)
    have habs : (mantissa.natAbs : ℤ) = mantissa := by omega
    rw [List.nil_append, signed, hread]
    · exact congrArg Except.ok habs
    · rintro rest' he
      cases he
      cases hc
    · rintro rest' he
      cases he
      cases hc

/-- Digits, in front of and behind a point, of which the text of an amount is made. -/
structure IsMagnitude (n places : ℕ) (front tail : List Char) : Prop where
  front_ne_nil : front ≠ []
  point : tail.takeWhile (· != '.') = []
  places : (tail.drop 1).length = places
  digits : ∀ c ∈ front ++ tail.drop 1, c.isDigit = true
  value : Nat.ofDigitChars 10 (front ++ tail.drop 1) 0 = n

/-- The text of an amount without its sign is made of digits. -/
lemma exists_isMagnitude (n places : ℕ) :
    ∃ front tail, magnitudeChars n places = front ++ tail ∧ IsMagnitude n places front tail := by
  have hdigits : ∀ c ∈ digits n, c.isDigit = true :=
    fun c hc => Nat.isDigit_of_mem_toDigits (by decide) (by decide) hc
  have hnumber : Nat.ofDigitChars 10 (digits n) 0 = n := Nat.ofDigitChars_ten_toDigits
  cases places with
  | zero =>
    refine ⟨digits n,[],(List.append_nil _).symm,Nat.toDigits_ne_nil,rfl,rfl,?_,?_⟩
    · simpa using hdigits
    · simpa using hnumber
  | succ k =>
    have hlength : k + 1 < (List.replicate (k + 1 + 1 - (digits n).length) '0' ++ digits n).length := by
      rw [List.length_append, List.length_replicate]
      omega
    have hpadded : ∀ c ∈ List.replicate (k + 1 + 1 - (digits n).length) '0' ++ digits n,
        c.isDigit = true := by
      intro c hc
      rcases List.mem_append.mp hc with hc | hc
      · rw [List.eq_of_mem_replicate hc]
        rfl
      · exact hdigits c hc
    have hvalue : Nat.ofDigitChars 10
        (List.replicate (k + 1 + 1 - (digits n).length) '0' ++ digits n) 0 = n := by
      rw [Nat.ofDigitChars_append, Nat.ofDigitChars_replicate_zero, Nat.mul_zero, hnumber]
    generalize hp : List.replicate (k + 1 + 1 - (digits n).length) '0' ++ digits n = padded
      at hlength hpadded hvalue
    refine ⟨padded.take (padded.length - (k + 1)),'.' :: padded.drop (padded.length - (k + 1)),
      ?_,?_,rfl,?_,?_,?_⟩
    · rw [← hp]
      rfl
    · intro hnil
      have := congrArg List.length hnil
      rw [List.length_take, List.length_nil] at this
      omega
    · rw [List.drop_one, List.tail_cons, List.length_drop]
      omega
    · rwa [List.drop_one, List.tail_cons, List.take_append_drop]
    · rwa [List.drop_one, List.tail_cons, List.take_append_drop]

lemma foldr_utf8Size_eq {cs : List Char} (h : ∀ c ∈ cs, c.isDigit = true) :
    cs.foldr (fun c n => c.utf8Size + n) 0 = cs.length := by
  induction cs with
  | nil => rfl
  | cons c cs ih =>
    have hc : c.utf8Size = 1 := by
      have hdigit : 48 ≤ c.toNat ∧ c.toNat ≤ 57 := Char.isDigit_iff_toNat.mp (h c (by simp))
      rw [Char.utf8Size_eq_one_iff, UInt32.le_iff_toNat_le]
      change c.toNat ≤ 127
      omega
    rw [List.foldr_cons, ih fun d hd => h d (by simp [hd]), hc, List.length_cons, Nat.add_comm]

/-- A text without exponent is read at its point. -/
lemma ofChars_append {front tail : List Char} {mantissa : ℤ} (hfront : front ≠ [])
    (hbefore : ∀ c ∈ front, c ≠ '.') (hpoint : tail.takeWhile (· != '.') = [])
    (hmarks : ∀ c ∈ front ++ tail, isExponentMark c = false)
    (hdigits : ∀ c ∈ tail.drop 1, c.isDigit = true)
    (hsigned : signed (front ++ tail.drop 1) = .ok mantissa) :
    ofChars (front ++ tail) = .ok ⟨mantissa,(tail.drop 1).length⟩ := by
  have hunmarked : ∀ c ∈ front ++ tail, (!isExponentMark c) = true := by simpa using hmarks
  have hbefore : ∀ c ∈ front, (c != '.') = true := fun c hc => bne_iff_ne.mpr (hbefore c hc)
  have hcut : (front ++ tail).takeWhile (· != '.') = front := by
    rw [List.takeWhile_append_of_pos hbefore, hpoint, List.append_nil]
  have hrest : (front ++ tail).dropWhile (· != '.') = tail := by
    have hself := List.takeWhile_append_dropWhile (p := (· != '.')) (l := tail)
    rw [hpoint, List.nil_append] at hself
    rw [List.dropWhile_append_of_pos hbefore, hself]
  have hne : front ++ tail ≠ [] := by simp [hfront]
  rw [ofChars, List.takeWhile_eq_self_iff.mpr hunmarked, List.dropWhile_eq_nil_iff.mpr hunmarked]
  simp only [hcut, hrest, hsigned, foldr_utf8Size_eq hdigits, if_neg hne]
  refine congrArg Except.ok ?_
  rw [Int.sub_zero]

lemma isDigit_ne {c : Char} (h : c.isDigit = true) : c ≠ '.' ∧ isExponentMark c = false := by
  refine ⟨?_,?_⟩
  · rintro rfl
    cases h
  · rw [Bool.eq_false_iff]
    intro hmark
    simp only [isExponentMark, Bool.or_eq_true, beq_iff_eq] at hmark
    rcases hmark with rfl | rfl <;> cases h

lemma IsMagnitude.isExponentMark_tail {n places : ℕ} {front tail : List Char}
    (h : IsMagnitude n places front tail) : ∀ c ∈ tail, isExponentMark c = false := by
  have hpoint := h.point
  have hback : ∀ c ∈ tail.drop 1, c.isDigit = true :=
    fun c hc => h.digits c (List.mem_append_right _ hc)
  cases tail with
  | nil => simp
  | cons d back =>
    intro c hc
    rcases List.mem_cons.mp hc with rfl | hc
    · have hd : c = '.' := by
        by_contra hne
        simp [hne] at hpoint
      rw [hd]
      rfl
    · exact (isDigit_ne (hback c hc)).2

/-- An amount with a natural number of places is read back from its text. -/
theorem ofText_toText {a : Decimal} (h : 0 ≤ a.scale) : ofText a.toText = .ok a := by
  obtain ⟨places,hplaces⟩ := Int.eq_ofNat_of_zero_le h
  obtain ⟨front,tail,htext,hm⟩ := exists_isMagnitude a.mantissa.natAbs places
  have hchars : a.toChars = signChars a.mantissa ++ front ++ tail := by
    rw [toChars, hplaces, htext, List.append_assoc]
    rfl
  have hbefore : ∀ c ∈ signChars a.mantissa ++ front, c ≠ '.' ∧ isExponentMark c = false := by
    intro c hc
    rcases List.mem_append.mp hc with hc | hc
    · unfold signChars at hc
      split_ifs at hc
      · rw [List.mem_singleton.mp hc]
        decide
      · cases hc
    · exact isDigit_ne (hm.digits c (List.mem_append_left _ hc))
  have hback : ∀ c ∈ tail.drop 1, c.isDigit = true :=
    fun c hc => hm.digits c (List.mem_append_right _ hc)
  have hmarks : ∀ c ∈ signChars a.mantissa ++ front ++ tail, isExponentMark c = false := by
    intro c hc
    rcases List.mem_append.mp hc with hc | hc
    · exact (hbefore c hc).2
    · exact hm.isExponentMark_tail c hc
  have hsigned : signed (signChars a.mantissa ++ front ++ tail.drop 1) = .ok a.mantissa := by
    rw [List.append_assoc]
    exact signed_eq (by simp [hm.front_ne_nil]) hm.digits hm.value
  rw [ofText, toText, String.toList_ofList, hchars, ofChars_append (by simp [hm.front_ne_nil])
    (fun c hc => (hbefore c hc).1) hm.point hmarks hback hsigned, hm.places, ← hplaces]

/-- The last two digits of a number of three digits or more. -/
lemma digits_of_le {n : ℕ} (h : 100 ≤ n) :
    digits n = digits (n / 100) ++ [Nat.digitChar (n / 10 % 10),Nat.digitChar (n % 10)] := by
  have hwhole : n / 10 / 10 = n / 100 := Nat.div_div_eq_div_mul n 10 10
  rw [digits, Nat.toDigits_of_base_le (by decide) (by omega : 10 ≤ n),
    Nat.toDigits_of_base_le (by decide) (by omega : 10 ≤ n / 10), hwhole, List.append_assoc]
  rfl

/-- Digits filled up with zeros to three. -/
lemma replicate_append_digits (n : ℕ) : List.replicate (3 - (digits n).length) '0' ++ digits n =
    digits (n / 100) ++ [Nat.digitChar (n / 10 % 10),Nat.digitChar (n % 10)] := by
  rcases lt_or_ge n 100 with hn | hn
  · have hwhole : n / 100 = 0 := by omega
    have htens : n / 10 % 10 = n / 10 := by omega
    rw [hwhole, htens, digits, digits, Nat.toDigits_zero]
    rcases lt_or_ge n 10 with hn' | hn'
    · rw [Nat.div_eq_of_lt hn', Nat.mod_eq_of_lt hn', Nat.toDigits_of_lt_base hn']
      rfl
    · rw [Nat.toDigits_of_base_le (by decide) hn', Nat.toDigits_of_lt_base (by omega)]
      rfl
  · have hpos : 0 < (digits (n / 100)).length := List.length_pos_iff.mpr Nat.toDigits_ne_nil
    rw [digits_of_le hn]
    have hnone : 3 - (digits (n / 100) ++
        [Nat.digitChar (n / 10 % 10),Nat.digitChar (n % 10)]).length = 0 := by
      rw [List.length_append, List.length_cons, List.length_singleton]
      omega
    rw [hnone]
    rfl

/-- With two places, the last two digits stand behind the point. -/
lemma magnitudeChars_two (n : ℕ) : magnitudeChars n 2 =
    digits (n / 100) ++ ['.',Nat.digitChar (n / 10 % 10),Nat.digitChar (n % 10)] := by
  have hmagnitude : magnitudeChars n 2 =
      let padded := List.replicate (3 - (digits n).length) '0' ++ digits n
      padded.take (padded.length - 2) ++ '.' :: padded.drop (padded.length - 2) := rfl
  rw [hmagnitude, replicate_append_digits]
  simp

end Decimal

/-- Cents as whole units, a point and two digits. -/
def Cents.inUnits (m : Cents) : String :=
  String.ofList ((if m.count < 0 then ['-'] else []) ++ Nat.toDigits 10 (m.count.natAbs / 100) ++
    ['.',Nat.digitChar (m.count.natAbs / 10 % 10),Nat.digitChar (m.count.natAbs % 10)])

/-- The text of cents that were turned into an amount. -/
theorem Cents.toText_toDecimal (m : Cents) : m.toDecimal.toText = m.inUnits := by
  rw [inUnits, List.append_assoc]
  exact congrArg (fun cs => String.ofList ((if m.count < 0 then ['-'] else []) ++ cs))
    (Decimal.magnitudeChars_two m.count.natAbs)

end Checkout.Money
