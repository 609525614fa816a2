import Checkout.Proofs.Json.Tokens
import Checkout.Proofs.Text.Numeral

/-! Tokens are read back from their text. A number ends where no character goes on with it, the
escapes of a string stand for its characters, and every other token is what its first character
announces. -/
namespace Checkout.Json

open Checkout.Text.Integer (digit?_of_isDigit exists_toDigits_eq isDigits_toDigits le_ofDigitChars
  toList_toString)

namespace NumberText

/-- A text that does not go on with a number. -/
def Ends (symbols : List Symbol) : Prop :=
  ∀ s ∈ symbols.head?, digitOf s = none ∧ s ≠ some '.' ∧ s ≠ some 'e' ∧ s ≠ some 'E'

/-- Digits that fit are collected up to their end. -/
lemma wholeDigits_eq (negative : Bool) {ds : List Char} (hdigits : ∀ c ∈ ds, c.isDigit = true)
    {n : ℕ} (hfits : Nat.ofDigitChars 10 ds n ≤ greatest) {rest : List Symbol} (hrest : Ends rest)
    (index : ℕ) : ∃ stop, wholeDigits negative n 0 index (ds.map some ++ rest) =
      .done (whole negative (Nat.ofDigitChars 10 ds n) stop) stop rest := by
  induction ds generalizing n index with
  | nil =>
    refine ⟨index,?_⟩
    cases rest with
    | nil => simp [wholeDigits]
    | cons s rest =>
      obtain ⟨hdigit,hpoint,hlower,hupper⟩ := hrest s rfl
      simp [wholeDigits, hdigit, hpoint, hlower, hupper]
  | cons c ds ih =>
    have hc : digitOf (some c) = some (c.toNat - '0'.toNat) :=
      digit?_of_isDigit (hdigits c (by simp))
    rw [Nat.ofDigitChars_cons] at hfits ⊢
    have hroom : 10 * n + (c.toNat - '0'.toNat) ≤ greatest := (le_ofDigitChars ds _).trans hfits
    obtain ⟨stop,hstop⟩ := ih (fun d hd => hdigits d (by simp [hd])) hfits (index + 1)
    refine ⟨stop,?_⟩
    rw [List.map_cons, List.cons_append, wholeDigits]
    simp only [hc, hroom, and_self, if_true]
    exact hstop

/-- The digits of a number that fits are read as that number. -/
lemma unsigned_eq (negative : Bool) {n : ℕ} (hfits : n ≤ greatest) {rest : List Symbol}
    (hrest : Ends rest) (index : ℕ) : ∃ stop,
      unsigned negative index ((Nat.toDigits 10 n).map some ++ rest) =
        .done (whole negative n stop) stop rest := by
  rcases Nat.eq_zero_or_pos n with rfl | hpos
  · have hdigits : ∀ c ∈ ([] : List Char), c.isDigit = true := by simp
    obtain ⟨stop,hstop⟩ := wholeDigits_eq negative hdigits (Nat.zero_le _) hrest (index + 1)
    refine ⟨stop,Eq.trans ?_ hstop⟩
    cases rest with
    | nil => rfl
    | cons s rest =>
      have hs : digitOf s = none := (hrest s rfl).1
      have hzero : digitOf (some '0') = some 0 := rfl
      rw [Nat.toDigits_zero]
      simp [unsigned, hzero, hs]
  · obtain ⟨c,cs,hcs,hc,hne⟩ := exists_toDigits_eq hpos.ne'
    have hvalue := Nat.ofDigitChars_ten_toDigits (n := n)
    have hdigits := (isDigits_toDigits n).2
    rw [hcs] at hvalue hdigits ⊢
    rw [Nat.ofDigitChars_cons, Nat.mul_zero, Nat.zero_add] at hvalue
    obtain ⟨stop,hstop⟩ := wholeDigits_eq negative
      (fun d hd => hdigits d (by simp [hd])) (hvalue.le.trans hfits) hrest (index + 1)
    rw [hvalue] at hstop
    refine ⟨stop,Eq.trans ?_ hstop⟩
    have hdigit : digitOf (some c) = some (c.toNat - '0'.toNat) := digit?_of_isDigit hc
    obtain ⟨d,hd⟩ := Nat.exists_eq_succ_of_ne_zero hne
    rw [hd] at hdigit ⊢
    simp [unsigned, hdigit]

/-- A whole number is read from its sign and its digits. -/
lemma whole_eq (n : WholeNumber) (stop : ℕ) :
    whole (decide (n.val < 0)) n.val.natAbs stop = .ok (.whole n) := by
  have habs : (if decide (n.val < 0) = true then -(n.val.natAbs : ℤ) else n.val.natAbs) = n.val := by
    split_ifs with h
    · have := of_decide_eq_true h
      omega
    · have := of_decide_eq_false (Bool.eq_false_iff.mpr h)
      omega
  have hzero : ¬ (decide (n.val < 0) = true ∧ n.val.natAbs = 0) := by
    rintro ⟨hneg,hnone⟩
    have := of_decide_eq_true hneg
    omega
  simp only [whole, habs, WholeNumber.ofInt?_val, if_neg hzero]

end NumberText

namespace StringText

/-- An escape of four digits stands for the character of their number, if this is no surrogate. -/
lemma scan_hex (c : Collected) (index : ℕ) {h₁ h₂ h₃ h₄ : Symbol} {n : ℕ}
    (h : hexWord? h₁ h₂ h₃ h₄ = some n) (hn : n < 0x20) (rest : List Symbol) :
    scan c index (some '\\' :: some 'u' :: h₁ :: h₂ :: h₃ :: h₄ :: rest) =
      scan (c.push (Char.ofNat n)) (index + 6) rest := by
  have htrailing : isTrailing n = false := by
    rw [isTrailing, Bool.and_eq_false_iff]
    exact .inl (decide_eq_false (by omega))
  have hleading : isLeading n = false := by
    rw [isLeading, Bool.and_eq_false_iff]
    exact .inl (decide_eq_false (by omega))
  rw [scan]
  simp [h, htrailing, hleading]

lemma hexWord?_control : ∀ n : Fin 0x20,
    hexWord? (some '0') (some '0') (some (hexDigit (n / 16))) (some (hexDigit n)) = some n.val := by
  decide

/-- What a character is written as in a string is read as that character. -/
lemma scan_escape (c : Collected) (x : Char) (index : ℕ) (rest : List Symbol) :
    ∃ stop, scan c index ((escape x).map some ++ rest) = scan (c.push x) stop rest := by
  unfold escape
  split_ifs with hquote hbackslash hb hf hn hr ht hcontrol
  · exact ⟨index + 2,by rw [hquote]; rfl⟩
  · exact ⟨index + 2,by rw [hbackslash]; rfl⟩
  · exact ⟨index + 2,by rw [hb]; rfl⟩
  · exact ⟨index + 2,by rw [hf]; rfl⟩
  · exact ⟨index + 2,by rw [hn]; rfl⟩
  · exact ⟨index + 2,by rw [hr]; rfl⟩
  · exact ⟨index + 2,by rw [ht]; rfl⟩
  · have hhex := hexWord?_control ⟨x.toNat,hcontrol⟩
    have hscan := scan_hex c index hhex hcontrol rest
    rw [Char.ofNat_toNat] at hscan
    exact ⟨index + 6,hscan⟩
  · refine ⟨index + x.utf8Size,?_⟩
    rw [List.map_singleton, List.singleton_append, scan]
    · rw [if_neg hcontrol]
    all_goals
      rintro he
      simp_all

/-- A string is read up to its closing quote. -/
lemma scan_eq (cs : List Char) (c : Collected) (index : ℕ) (rest : List Symbol) :
    ∃ stop, scan c index ((cs.flatMap escape).map some ++ some '"' :: rest) =
      .done (cs.foldl Collected.push c).result stop rest := by
  induction cs generalizing c index with
  | nil => exact ⟨index + 1,rfl⟩
  | cons x cs ih =>
    rw [List.flatMap_cons, List.map_append, List.append_assoc]
    obtain ⟨index',hx⟩ := scan_escape c x index ((cs.flatMap escape).map some ++ some '"' :: rest)
    obtain ⟨stop,hstop⟩ := ih (c.push x) index'
    exact ⟨stop,hx.trans hstop⟩

lemma foldl_push (cs : List Char) (content : String) :
    cs.foldl Collected.push ⟨content,none,none⟩ = ⟨pushAll content cs,none,none⟩ := by
  induction cs generalizing content with
  | nil => rfl
  | cons c cs ih => exact ih (content.push c)

lemma result_foldl_push (s : String) :
    (s.toList.foldl Collected.push ⟨"",none,none⟩).result = .ok s := by
  have hs : pushAll "" s.toList = s := String.toList_inj.mp (by simp)
  rw [foldl_push, hs]
  rfl

end StringText

namespace Token

open NumberText (Ends greatest)

lemma lex_of_isDigit {c : Char} (hc : c.isDigit = true) (index : ℕ) (rest : List Symbol) :
    lex index (some c) rest = ofNumber false index index (some c :: rest) := by
  have hdigit : (NumberText.digitOf (some c)).isSome = true := by
    rw [NumberText.digitOf, digit?_of_isDigit hc]
    rfl
  rw [lex]
  · rw [if_pos hdigit]
  all_goals
    rintro he
    cases he
    cases hc

/-- A whole number is read from its text. -/
lemma lex_whole (n : WholeNumber) {rest : List Symbol} (hrest : Ends rest) (index : ℕ) :
    ∃ c cs stop, (toString n.val).toList = c :: cs ∧ isSpace (some c) = false ∧
      lex index (some c) (cs.map some ++ rest) = ⟨⟨number (.ok (.whole n)),index,stop⟩,rest⟩ := by
  have hfits : n.val.natAbs ≤ greatest := by
    have hn := n.fits
    unfold greatest
    omega
  rw [toList_toString]
  by_cases hneg : n.val < 0
  · obtain ⟨stop,hstop⟩ := NumberText.unsigned_eq true hfits hrest (index + 1)
    have hvalue := NumberText.whole_eq n stop
    rw [decide_eq_true hneg] at hvalue
    rw [hvalue] at hstop
    refine ⟨'-',Nat.toDigits 10 n.val.natAbs,stop,by rw [if_pos hneg]; rfl,rfl,?_⟩
    rw [lex, ofNumber, hstop]
  · obtain ⟨stop,hstop⟩ := NumberText.unsigned_eq false hfits hrest index
    have hvalue := NumberText.whole_eq n stop
    rw [decide_eq_false hneg] at hvalue
    rw [hvalue] at hstop
    obtain ⟨hne,hdigits⟩ := isDigits_toDigits n.val.natAbs
    obtain ⟨c,cs,hcs⟩ := List.exists_cons_of_ne_nil hne
    have hc : c.isDigit = true := hdigits c (by simp [hcs])
    have hspace : isSpace (some c) = false := by
      rw [Bool.eq_false_iff]
      intro hspace
      simp only [isSpace, Bool.or_eq_true, beq_iff_eq, Option.some.injEq] at hspace
      rcases hspace with ((rfl | rfl) | rfl) | rfl <;> cases hc
    rw [hcs, List.map_cons, List.cons_append] at hstop
    refine ⟨c,cs,stop,by rw [if_neg hneg, hcs]; rfl,hspace,?_⟩
    rw [lex_of_isDigit hc, ofNumber, hstop]

/-- An exact token is read from its text. -/
theorem lex_chars {t : Token} (ht : t.isExact = true) (rest : List Symbol)
    (hrest : t.isNumber = true → Ends rest) (index : ℕ) :
    ∃ c cs stop, t.chars = c :: cs ∧ isSpace (some c) = false ∧
      lex index (some c) (cs.map some ++ rest) = ⟨⟨t,index,stop⟩,rest⟩ := by
  cases t with
  | openArray | closeArray | openObject | closeObject | colon | comma =>
    exact ⟨_,[],_,rfl,rfl,rfl⟩
  | null => exact ⟨_,_,_,rfl,rfl,rfl⟩
  | bool b => cases b with
    | true => exact ⟨_,_,_,rfl,rfl,rfl⟩
    | false => exact ⟨_,_,_,rfl,rfl,rfl⟩
  | number value => cases value with
    | error fault => cases ht
    | ok n => cases n with
      | float x => cases ht
      | whole n => exact lex_whole n (hrest rfl) index
  | string content => cases content with
    | error fault => cases ht
    | ok s =>
      obtain ⟨stop,hstop⟩ := StringText.scan_eq s.toList ⟨"",none,none⟩ (index + 1) rest
      rw [StringText.result_foldl_push] at hstop
      have htext : (s.toList.flatMap escape ++ ['"']).map some ++ rest =
          (s.toList.flatMap escape).map some ++ some '"' :: rest := by
        simp
      refine ⟨'"',s.toList.flatMap escape ++ ['"'],stop,rfl,rfl,?_⟩
      rw [htext, lex, ofString, hstop]
  | broken lead breach => cases ht

/-- No token but a number goes on with a number. -/
lemma ends_chars {t : Token} (ht : t.isExact = true) (hnumber : t.isNumber = false) {c : Char}
    {cs : List Char} (h : t.chars = c :: cs) (rest : List Symbol) : Ends (some c :: rest) := by
  have hhead : t.chars.head? = some c := by rw [h]; rfl
  have hc : c ∈ ['[',']','\x7b','\x7d',':',',','n','t','f','"'] := by
    cases t with
    | number value => cases hnumber
    | broken lead breach => cases ht
    | bool b => cases b <;> (cases hhead; decide)
    | string content => cases content with
      | error fault => cases ht
      | ok s =>
        cases hhead
        decide
    | openArray | closeArray | openObject | closeObject | colon | comma | null =>
      cases hhead
      decide
  have hends : ['[',']','\x7b','\x7d',':',',','n','t','f','"'].all (fun c =>
      NumberText.digitOf (some c) = none ∧ some c ≠ some '.' ∧ some c ≠ some 'e' ∧
        some c ≠ some 'E') = true := by
    decide +kernel
  intro s hs
  cases hs
  exact of_decide_eq_true (List.all_eq_true.mp hends c hc)

lemma ends_flatMap {ts : List Token} (hexact : ∀ t ∈ ts, t.isExact = true)
    (hhead : ∀ t ∈ ts.head?, t.isNumber = false) : Ends ((ts.flatMap chars).map some) := by
  cases ts with
  | nil =>
    intro s hs
    cases hs
  | cons t ts =>
    have ht := hexact t (by simp)
    have hnumber := hhead t rfl
    obtain ⟨c,cs,-,hchars,-⟩ := lex_chars ht [] (by simp [hnumber]) 0
    rw [List.flatMap_cons, hchars]
    exact ends_chars ht hnumber hchars _

/-- Exact tokens without adjacent numbers are read from their text. -/
theorem listFrom_eq {ts : List Token} (hexact : ∀ t ∈ ts, t.isExact = true)
    (happart : ts.IsChain Apart) {fuel : ℕ} (hfuel : (ts.flatMap chars).length ≤ fuel) (index : ℕ)
    (done : List Placed) : ∃ placed, placed.map Placed.token = ts ∧
      listFrom fuel index ((ts.flatMap chars).map some) done = done.reverse ++ placed := by
  induction ts generalizing fuel index done with
  | nil =>
    refine ⟨[],rfl,?_⟩
    cases fuel <;> simp [listFrom]
  | cons t ts ih =>
    obtain ⟨hnext,hrest⟩ := List.isChain_cons.mp happart
    have hexact' : ∀ u ∈ ts, u.isExact = true := fun u hu => hexact u (by simp [hu])
    obtain ⟨c,cs,stop,hchars,hspace,hlex⟩ := lex_chars (hexact t (by simp))
      ((ts.flatMap chars).map some)
      (fun hnumber => ends_flatMap hexact' fun u hu => hnext u hu hnumber) index
    rw [List.flatMap_cons, hchars, List.length_append, List.length_cons] at hfuel
    obtain ⟨fuel,rfl⟩ := Nat.exists_eq_succ_of_ne_zero (by omega : fuel ≠ 0)
    obtain ⟨placed,hplaced,hlist⟩ := ih hexact' hrest (by omega : (ts.flatMap chars).length ≤ fuel)
      stop (⟨t,index,stop⟩ :: done)
    refine ⟨⟨t,index,stop⟩ :: placed,by rw [List.map_cons, hplaced],?_⟩
    rw [List.flatMap_cons, hchars, List.cons_append, List.map_cons, List.map_append, listFrom, hspace,
      hlex]
    simpa using hlist

end Token

/-- The tokens of the text of an exact value are its tokens. -/
theorem map_token_list {j : Json} (h : j.IsExact) :
    (Token.list (Symbol.ofText j.render)).map Placed.token = j.tokens := by
  have htext : j.render.toList = j.tokens.flatMap Token.chars := by
    rw [render, toList_renderTo]
    rfl
  obtain ⟨placed,hplaced,hlist⟩ := Token.listFrom_eq h (isChain_tokens j) le_rfl 0 []
  rw [List.reverse_nil, List.nil_append] at hlist
  rw [Token.list, Symbol.ofText, htext, List.length_map, hlist, hplaced]

end Checkout.Json
