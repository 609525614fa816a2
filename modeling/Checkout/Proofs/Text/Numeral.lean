import Checkout.Text.Integer
import Checkout.Proofs.Text.Trim

/-! The decimal numerals: an optional sign and at least one ASCII digit. The reader of whole numbers
accepts exactly the numerals of a number in its range, however many zeros they start with, and the
text that a number is written as is one of its numerals. -/
namespace Checkout.Text.Integer

/-- At least one character, each of them an ASCII digit. -/
def IsDigits (ds : List Char) : Prop := ds ≠ [] ∧ ∀ c ∈ ds, c.isDigit = true

/-- The number that digits write. -/
def magnitude (ds : List Char) : ℕ := Nat.ofDigitChars 10 ds 0

/-- A numeral and the number that it denotes. -/
inductive Denotes : List Char → ℤ → Prop
  | plain {ds} (digits : IsDigits ds) : Denotes ds (magnitude ds)
  | plus {ds} (digits : IsDigits ds) : Denotes ('+' :: ds) (magnitude ds)
  | minus {ds} (digits : IsDigits ds) : Denotes ('-' :: ds) (-(magnitude ds : ℤ))

theorem digit?_of_isDigit {c : Char} (h : c.isDigit = true) :
    digit? c = some (c.toNat - '0'.toNat) := by
  apply if_pos
  simpa [Char.isDigit, Char.le_def] using h

theorem digit?_of_not_isDigit {c : Char} (h : c.isDigit = false) : digit? c = none := by
  apply if_neg
  rintro ⟨hl,hr⟩
  have hc : c.isDigit = true := by simpa [Char.isDigit, Char.le_def] using ⟨hl,hr⟩
  simp [hc] at h

/-- More digits never make a number smaller. -/
lemma le_ofDigitChars (ds : List Char) (n : ℕ) : n ≤ Nat.ofDigitChars 10 ds n := by
  induction ds generalizing n with
  | nil => simp
  | cons d ds ih =>
    rw [Nat.ofDigitChars_cons]
    exact le_trans (by omega) (ih _)

/-- The ascending reader accepts digits whose number stays in the range. Every number on the way is
at most the last one, so only that one has to be compared. -/
theorem ascend_eq_ok_iff {greatest : ℤ} {n : ℕ} (hn : (n : ℤ) ≤ greatest) (ds : List Char) (m : ℤ) :
    ascend greatest n ds = .ok m ↔
      (∀ c ∈ ds, c.isDigit = true) ∧ m = Nat.ofDigitChars 10 ds n ∧ m ≤ greatest := by
  induction ds generalizing n with
  | nil =>
    simp only [ascend, Except.ok.injEq, List.not_mem_nil, Nat.ofDigitChars_nil]
    constructor
    · rintro rfl
      exact ⟨by simp, rfl, hn⟩
    · rintro ⟨-,rfl,-⟩
      rfl
  | cons c ds ih =>
    cases hc : c.isDigit with
    | false => simp [ascend, digit?_of_not_isDigit hc, hc]
    | true =>
      have hle := le_ofDigitChars ds (10 * n + (c.toNat - '0'.toNat))
      simp only [ascend, digit?_of_isDigit hc]
      split
      · next h =>
        rw [Nat.ofDigitChars_cons]
        have := ih (n := 10 * n + (c.toNat - '0'.toNat)) (by push_cast; exact h)
        push_cast at this
        simpa [hc] using this
      · next h =>
        rw [Nat.ofDigitChars_cons]
        constructor
        · intro he
          cases he
        · rintro ⟨-,rfl,hm⟩
          omega

/-- The descending reader accepts digits whose negated number stays in the range. -/
theorem descend_eq_ok_iff {least : ℤ} {n : ℕ} (hn : least ≤ -(n : ℤ)) (ds : List Char) (m : ℤ) :
    descend least (-(n : ℤ)) ds = .ok m ↔
      (∀ c ∈ ds, c.isDigit = true) ∧ m = -(Nat.ofDigitChars 10 ds n : ℤ) ∧ least ≤ m := by
  induction ds generalizing n with
  | nil =>
    simp only [descend, Except.ok.injEq, List.not_mem_nil, Nat.ofDigitChars_nil]
    constructor
    · rintro rfl
      exact ⟨by simp, rfl, hn⟩
    · rintro ⟨-,rfl,-⟩
      rfl
  | cons c ds ih =>
    cases hc : c.isDigit with
    | false => simp [descend, digit?_of_not_isDigit hc, hc]
    | true =>
      have hle := le_ofDigitChars ds (10 * n + (c.toNat - '0'.toNat))
      have hstep : 10 * -(n : ℤ) - ((c.toNat - '0'.toNat : ℕ) : ℤ) =
          -((10 * n + (c.toNat - '0'.toNat) : ℕ) : ℤ) := by
        push_cast
        omega
      simp only [descend, digit?_of_isDigit hc, hstep]
      rw [Nat.ofDigitChars_cons]
      split
      · next h => simpa [hc] using ih h
      · next h =>
        constructor
        · intro he
          cases he
        · rintro ⟨-,rfl,hm⟩
          omega

lemma not_isDigits_nil : ¬ IsDigits [] := fun h => h.1 rfl

/-- A sign is no digit, so a numeral is signed in one way only. -/
lemma IsDigits.head_isDigit {c : Char} {ds : List Char} (h : IsDigits (c :: ds)) :
    c.isDigit = true := h.2 c (by simp)

lemma denotes_plus_iff {ds : List Char} {n : ℤ} :
    Denotes ('+' :: ds) n ↔ IsDigits ds ∧ n = magnitude ds := by
  constructor
  · intro h
    cases h with
    | plain digits => exact absurd digits.head_isDigit (by decide)
    | plus digits => exact ⟨digits,rfl⟩
  · rintro ⟨digits,rfl⟩
    exact .plus digits

lemma denotes_minus_iff {ds : List Char} {n : ℤ} :
    Denotes ('-' :: ds) n ↔ IsDigits ds ∧ n = -(magnitude ds : ℤ) := by
  constructor
  · intro h
    cases h with
    | plain digits => exact absurd digits.head_isDigit (by decide)
    | minus digits => exact ⟨digits,rfl⟩
  · rintro ⟨digits,rfl⟩
    exact .minus digits

lemma denotes_unsigned_iff {ds : List Char} {n : ℤ} (hplus : ∀ r, ds ≠ '+' :: r)
    (hminus : ∀ r, ds ≠ '-' :: r) : Denotes ds n ↔ IsDigits ds ∧ n = magnitude ds := by
  constructor
  · intro h
    cases h with
    | plain digits => exact ⟨digits,rfl⟩
    | plus digits => exact absurd rfl (hplus _)
    | minus digits => exact absurd rfl (hminus _)
  · rintro ⟨digits,rfl⟩
    exact .plain digits

/-- The reader of a range with negative numbers accepts exactly the numerals of its numbers. -/
theorem readChars_eq_ok_iff {range : Range} (hleast : range.least < 0) (hgreatest : 0 ≤ range.greatest)
    (cs : List Char) (n : ℤ) :
    readChars range cs = .ok n ↔ Denotes cs n ∧ range.least ≤ n ∧ n ≤ range.greatest := by
  have hup : ∀ ds : List Char, ds ≠ [] → (ascend range.greatest 0 ds = .ok n ↔
      (IsDigits ds ∧ n = magnitude ds) ∧ range.least ≤ n ∧ n ≤ range.greatest) := by
    intro ds hne
    have h := ascend_eq_ok_iff (n := 0) hgreatest ds n
    rw [Nat.cast_zero] at h
    rw [h, IsDigits, magnitude]
    constructor
    · rintro ⟨hd,rfl,hn⟩
      exact ⟨⟨⟨hne,hd⟩,rfl⟩,by omega,hn⟩
    · rintro ⟨⟨⟨-,hd⟩,rfl⟩,-,hn⟩
      exact ⟨hd,rfl,hn⟩
  have hdown : ∀ ds : List Char, ds ≠ [] → (descend range.least 0 ds = .ok n ↔
      (IsDigits ds ∧ n = -(magnitude ds : ℤ)) ∧ range.least ≤ n ∧ n ≤ range.greatest) := by
    intro ds hne
    have h := descend_eq_ok_iff (n := 0) (by simpa using hleast.le) ds n
    rw [Nat.cast_zero, Int.neg_zero] at h
    rw [h, IsDigits, magnitude]
    constructor
    · rintro ⟨hd,rfl,hn⟩
      exact ⟨⟨⟨hne,hd⟩,rfl⟩,hn,by omega⟩
    · rintro ⟨⟨⟨-,hd⟩,rfl⟩,hn,-⟩
      exact ⟨hd,rfl,hn⟩
  unfold readChars
  split
  · rw [denotes_unsigned_iff (by simp) (by simp)]
    simp [not_isDigits_nil]
  · simp [denotes_plus_iff, not_isDigits_nil]
  · simp [denotes_minus_iff, not_isDigits_nil]
  · next ds hne =>
    rw [denotes_plus_iff]
    exact hup ds (by simpa using hne)
  · next ds hne =>
    rw [denotes_minus_iff, if_pos hleast]
    exact hdown ds (by simpa using hne)
  · next hnil _ _ hplus hminus =>
    rw [denotes_unsigned_iff hplus hminus]
    exact hup cs (by simpa using hnil)

theorem read_signed64_eq_ok_iff (s : String) (n : ℤ) :
    read .signed64 s = .ok n ↔
      Denotes s.toList n ∧ -9223372036854775808 ≤ n ∧ n < 9223372036854775808 := by
  rw [read, readChars_eq_ok_iff (by decide) (by decide)]
  exact and_congr_right fun _ => and_congr_right fun _ => Int.lt_add_one_iff.symm

/-- A numeral denotes one number. -/
theorem Denotes.unique {cs : List Char} {m n : ℤ} (hm : Denotes cs m) (hn : Denotes cs n) :
    m = n := by
  cases hm with
  | plain digits =>
    cases hn with
    | plain => rfl
    | plus => exact absurd digits.head_isDigit (by decide)
    | minus => exact absurd digits.head_isDigit (by decide)
  | plus digits => exact (denotes_plus_iff.mp hn).2.symm
  | minus digits => exact (denotes_minus_iff.mp hn).2.symm

/-- A numeral is made of ASCII digits and signs. -/
theorem Denotes.isDigit_or_sign {cs : List Char} {n : ℤ} (h : Denotes cs n) {c : Char}
    (hc : c ∈ cs) : c.isDigit = true ∨ c = '+' ∨ c = '-' := by
  cases h with
  | plain digits => exact .inl (digits.2 c hc)
  | plus digits =>
    rcases List.mem_cons.mp hc with rfl | hc
    · exact .inr (.inl rfl)
    · exact .inl (digits.2 c hc)
  | minus digits =>
    rcases List.mem_cons.mp hc with rfl | hc
    · exact .inr (.inr rfl)
    · exact .inl (digits.2 c hc)

lemma isDigits_toDigits (n : ℕ) : IsDigits (Nat.toDigits 10 n) :=
  ⟨Nat.toDigits_ne_nil,fun _ hc => Nat.isDigit_of_mem_toDigits (by decide) (by decide) hc⟩

/-- A number of more than one digit starts with no zero. -/
lemma exists_toDigits_eq {n : ℕ} (h : n ≠ 0) :
    ∃ c cs, Nat.toDigits 10 n = c :: cs ∧ c.isDigit = true ∧ c.toNat - '0'.toNat ≠ 0 := by
  induction n using Nat.strong_induction_on with
  | _ n ih =>
    rcases lt_or_ge n 10 with hn | hn
    · have hvalue := Nat.ofDigitChars_ten_toDigits (n := n)
      have hdigit := (isDigits_toDigits n).2
      rw [Nat.toDigits_of_lt_base hn] at hvalue hdigit
      rw [Nat.ofDigitChars_cons, Nat.ofDigitChars_nil, Nat.mul_zero, Nat.zero_add] at hvalue
      exact ⟨n.digitChar,[],Nat.toDigits_of_lt_base hn,hdigit _ (by simp),by rwa [hvalue]⟩
    · obtain ⟨c,cs,hcs,hc,hzero⟩ := ih (n / 10) (by omega) (by omega)
      exact ⟨c,cs ++ [(n % 10).digitChar],by rw [Nat.toDigits_of_base_le (by decide) hn, hcs]; rfl,
        hc,hzero⟩

/-- A number is written as its sign and the digits of its magnitude. -/
lemma toList_toString (n : ℤ) :
    (toString n).toList = (if n < 0 then ['-'] else []) ++ Nat.toDigits 10 n.natAbs := by
  cases n with
  | ofNat k => exact Nat.toList_repr
  | negSucc k =>
    change ("-" ++ Nat.repr (k + 1)).toList = _
    simp

/-- The text of a number is one of its numerals. -/
theorem denotes_toString (n : ℤ) : Denotes (toString n).toList n := by
  have hmagnitude : (magnitude (Nat.toDigits 10 n.natAbs) : ℤ) = n.natAbs := by
    rw [magnitude, Nat.ofDigitChars_ten_toDigits]
  rw [toList_toString]
  split_ifs with hneg
  · have hp := Denotes.minus (isDigits_toDigits n.natAbs)
    have hvalue : -(n.natAbs : ℤ) = n := by omega
    rwa [hmagnitude, hvalue] at hp
  · have hp := Denotes.plain (isDigits_toDigits n.natAbs)
    have hvalue : (n.natAbs : ℤ) = n := by omega
    rwa [hmagnitude, hvalue] at hp

lemma isUpper_eq_false_iff_toNat {c : Char} : c.isUpper = false ↔ c.toNat < 65 ∨ 90 < c.toNat := by
  change decide ('A'.val ≤ c.val ∧ c.val ≤ 'Z'.val) = false ↔ _
  rw [decide_eq_false_iff_not, UInt32.le_iff_toNat_le, UInt32.le_iff_toNat_le]
  change ¬ (65 ≤ c.toNat ∧ c.toNat ≤ 90) ↔ _
  omega

/-- Digits and signs are neither blanks nor capital letters. -/
lemma isBlank_and_isUpper_of_isDigit_or_sign {c : Char}
    (h : c.isDigit = true ∨ c = '+' ∨ c = '-') : isBlank c = false ∧ c.isUpper = false := by
  rcases h with h | rfl | rfl
  · have hn : 48 ≤ c.toNat ∧ c.toNat ≤ 57 := Char.isDigit_iff_toNat.mp h
    rw [isUpper_eq_false_iff_toNat]
    refine ⟨?_,by omega⟩
    simp only [isBlank, Bool.or_eq_false_iff, Bool.and_eq_false_iff, decide_eq_false_iff_not,
      beq_eq_false_iff_ne]
    omega
  · decide
  · decide

/-- There is nothing to trim from a numeral. -/
theorem Denotes.trimChars_eq {cs : List Char} {n : ℤ} (h : Denotes cs n) : trimChars cs = cs :=
  trimChars_eq_self fun _ hc => (isBlank_and_isUpper_of_isDigit_or_sign (h.isDigit_or_sign hc)).1

lemma Denotes.isTight {cs : List Char} {n : ℤ} (h : Denotes cs n) : IsTight cs :=
  h.trimChars_eq ▸ isTight_trimChars cs

/-- What trimming leaves is a numeral if the text is one with blanks around it. -/
theorem denotes_trimChars_iff {cs : List Char} {n : ℤ} :
    Denotes (trimChars cs) n ↔ ∃ numeral, Padded numeral cs ∧ Denotes numeral n := by
  constructor
  · intro h
    exact ⟨trimChars cs,exists_eq_append_trimChars cs,h⟩
  · rintro ⟨numeral,hpadded,h⟩
    rwa [trimChars_eq_iff.mpr ⟨h.isTight,hpadded⟩]

lemma isUpper_of_isBlank {c : Char} (h : isBlank c = true) : c.isUpper = false := by
  rw [isUpper_eq_false_iff_toNat]
  simp only [isBlank, Bool.or_eq_true, Bool.and_eq_true, decide_eq_true_eq, beq_iff_eq] at h
  omega

/-- A numeral with blanks around it holds no capital letter. -/
theorem Denotes.isUpper_eq_false {cs : List Char} {n : ℤ} (h : Denotes (trimChars cs) n) {c : Char}
    (hc : c ∈ cs) : c.isUpper = false := by
  rcases isBlank_or_mem_trimChars hc with hc | hc
  · exact isUpper_of_isBlank hc
  · exact (isBlank_and_isUpper_of_isDigit_or_sign (h.isDigit_or_sign hc)).2

end Checkout.Text.Integer
