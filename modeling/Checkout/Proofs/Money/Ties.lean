import Checkout.Proofs.Money.TwoPlaces

/-! The amount that is charged and the amount that is shown. They are rounded by two rules, which part
at a half behind an even number and nowhere else. There the amount shown is one cent farther from zero,
and it can be charged itself unless the last cent below zero that fits was charged already. -/
namespace Checkout

namespace Number

/-- A number in the middle between two whole ones. -/
def IsHalfway (x : ℚ) : Prop := ∃ k : ℤ, x = k + 1 / 2

/-- A number cut off at its point, then moved one step away from zero if at least a half was cut off.
-/
def roundOutInSteps (x : ℚ) : ℤ :=
  if 1 / 2 ≤ |x - wholePart x| then wholePart x + stepOut x else wholePart x

section Steps
variable {x : ℚ}

/-- One step away from zero leads past the number. -/
lemma abs_lt_abs_add_stepOut (x : ℚ) : |x| < |((wholePart x + stepOut x : ℤ) : ℚ)| := by
  unfold wholePart stepOut
  split_ifs with h
  · have hlt := Int.ceil_lt_add_one x
    push_cast
    rw [abs_of_neg h, abs_of_neg (by linarith)]
    linarith
  · have hlt := Int.lt_floor_add_one x
    push_cast
    rw [abs_of_nonneg (not_lt.mp h), abs_of_pos (by linarith)]
    exact hlt

/-- The number that is reached in steps is the nearest one, or of two the one farther from zero. -/
theorem isNearestOut_roundOutInSteps (x : ℚ) : IsNearestOut x (roundOutInSteps x) := by
  have hother := abs_sub_add_stepOut x
  rw [isNearestOut_iff, roundOutInSteps]
  split_ifs with h
  · rw [hother]
    exact ⟨by linarith,fun _ => abs_lt_abs_add_stepOut x⟩
  · have hlt := not_le.mp h
    exact ⟨hlt.le,fun htie => absurd htie hlt.ne⟩

/-- What is cut off from a number in the middle is a half. -/
lemma isHalfway_iff : IsHalfway x ↔ |x - wholePart x| = 1 / 2 := by
  constructor
  · rintro ⟨k,rfl⟩
    have hhalf : |(k + 1 / 2 : ℚ) - (k + 1 : ℤ)| = 1 / 2 := by
      push_cast
      norm_num
    unfold wholePart
    split_ifs
    · have hceil : ⌈(k + 1 / 2 : ℚ)⌉ = k + 1 := by
        rw [Int.ceil_eq_iff]
        push_cast
        constructor <;> linarith
      rw [hceil, hhalf]
    · have hfloor : ⌊(k + 1 / 2 : ℚ)⌋ = k := by
        rw [Int.floor_eq_iff]
        constructor <;> linarith
      rw [hfloor]
      norm_num
  · intro h
    rcases eq_or_eq_neg_of_abs_eq h with h | h
    · exact ⟨wholePart x,by linarith⟩
    · refine ⟨wholePart x - 1,?_⟩
      push_cast
      linarith

/-- A half away from zero is cut off from a number in the middle. -/
lemma eq_of_isHalfway (h : IsHalfway x) : x = wholePart x + stepOut x / 2 := by
  rw [isHalfway_iff] at h
  unfold wholePart stepOut at *
  split_ifs at *
  · rw [abs_of_nonpos (sub_nonpos.mpr (Int.le_ceil x))] at h
    push_cast
    linarith
  · rw [abs_of_nonneg (sub_nonneg.mpr (Int.floor_le x))] at h
    push_cast
    linarith

/-- The two ways of rounding give the same number, unless a half is cut off behind an even one. -/
theorem roundOutInSteps_eq (h : ¬ (IsHalfway x ∧ Even (wholePart x))) :
    roundOutInSteps x = roundInSteps x := by
  rw [isHalfway_iff, not_and, Int.not_even_iff_odd, Int.odd_iff] at h
  simp only [roundOutInSteps, roundInSteps]
  rcases lt_trichotomy (1 / 2) |x - wholePart x| with hcut | hcut | hcut
  · rw [if_pos hcut.le, if_pos (.inl hcut)]
  · have hodd : wholePart x % 2 ≠ 0 := by
      rw [h hcut.symm]
      decide
    rw [if_pos hcut.le, if_pos (.inr ⟨hcut.symm,hodd⟩)]
  · rw [if_neg (not_le.mpr hcut), if_neg]
    rintro (hlt | ⟨heq,-⟩) <;> linarith

/-- A half behind an even number is dropped by one way of rounding and counts by the other. -/
theorem round_of_isHalfway (h : IsHalfway x) (heven : Even (wholePart x)) :
    roundInSteps x = wholePart x ∧ roundOutInSteps x = wholePart x + stepOut x := by
  rw [isHalfway_iff] at h
  rw [Int.even_iff] at heven
  constructor
  · simp only [roundInSteps]
    rw [if_neg]
    rintro (hlt | ⟨-,hodd⟩)
    · exact absurd h hlt.ne'
    · exact hodd heven
  · rw [roundOutInSteps, if_pos h.ge]

end Steps
end Number

namespace Money.Decimal

open Checkout.Number (IsHalfway eq_of_isHalfway isNearestOut_roundOutInSteps isNearest_roundInSteps
  roundInSteps roundOutInSteps roundOutInSteps_eq round_of_isHalfway stepOut wholePart)

lemma shiftRound_toEven_eq (a : Decimal) :
    a.shiftRound .toEven 2 = roundInSteps (100 * a.value) := by
  have h := a.isNearest_shiftRound 2
  norm_num at h
  exact h.unique (isNearest_roundInSteps _)

lemma shiftRound_awayFromZero_eq (a : Decimal) :
    a.shiftRound .awayFromZero 2 = roundOutInSteps (100 * a.value) :=
  a.isNearestOut_hundredths.unique (isNearestOut_roundOutInSteps _)

/-- What is shown is charged as it is, if it fits. -/
lemma toCents_toTwoPlaces (a : Decimal) :
    a.toTwoPlaces.toCents = a.toTwoPlaces.fit (roundOutInSteps (100 * a.value)) := by
  have hshift := shiftRound_eq_of_value .toEven 2 a.hundred_mul_toTwoPlaces
  rw [← shiftRound_awayFromZero_eq, ← hshift]
  rfl

/-- Of the numbers that are charged by one rule there is one that the other rule moves out of range. -/
lemma refused_iff {x : ℚ} {n : ℤ} (hn : n = roundInSteps x)
    (hfits : -9223372036854775808 ≤ n ∧ n < 9223372036854775808) :
    ¬ (-9223372036854775808 ≤ roundOutInSteps x ∧ roundOutInSteps x < 9223372036854775808) ↔
      x = -9223372036854775808 - 1 / 2 := by
  constructor
  · intro hout
    by_cases htie : IsHalfway x ∧ Even (wholePart x)
    · obtain ⟨hhalf,heven⟩ := htie
      obtain ⟨hin,hnext⟩ := round_of_isHalfway hhalf heven
      have hvalue := eq_of_isHalfway hhalf
      rw [← hn] at hin
      rw [hnext, ← hin] at hout
      rw [← hin] at heven hvalue
      unfold stepOut at hout hvalue
      -- The largest cents that fit are odd, so only the least ones have no neighbour.
      split_ifs at hout hvalue
      · have hleast : n = -9223372036854775808 := by omega
        rw [hleast] at hvalue
        push_cast at hvalue
        linarith
      · obtain ⟨k,hk⟩ := heven
        omega
    · rw [roundOutInSteps_eq htie, ← hn] at hout
      exact absurd hfits hout
  · rintro rfl
    have hneg : (-9223372036854775808 - 1 / 2 : ℚ) < 0 := by norm_num
    have hceil : ⌈(-9223372036854775808 - 1 / 2 : ℚ)⌉ = -9223372036854775808 := by
      rw [Int.ceil_eq_iff]
      norm_num
    have hwhole : wholePart (-9223372036854775808 - 1 / 2) = -9223372036854775808 := by
      rw [wholePart, if_pos hneg, hceil]
    have hhalf : IsHalfway (-9223372036854775808 - 1 / 2) := ⟨-9223372036854775809,by norm_num⟩
    have hnext := (round_of_isHalfway hhalf (by rw [hwhole]; decide)).2
    rw [hnext, hwhole, stepOut, if_pos hneg]
    decide

/-- An amount that can be charged is shown as the amount that is charged, unless its hundredfold lies in
the middle between two whole numbers behind an even one. Then the next cent away from zero is shown,
which is refused if it does not fit; this happens to one amount only. -/
theorem shown_or_next_cent {a : Decimal} {c : Cents} (h : a.toCents = .ok c) :
    (¬ (IsHalfway (100 * a.value) ∧ Even (wholePart (100 * a.value))) →
      a.toTwoPlaces.toCents = .ok c) ∧
    (IsHalfway (100 * a.value) → Even (wholePart (100 * a.value)) → a.value ≠ 0 ∧
      (0 < a.value → a.toTwoPlaces.toCents = a.toTwoPlaces.fit (c.count + 1)) ∧
      (a.value < 0 → a.toTwoPlaces.toCents = a.toTwoPlaces.fit (c.count - 1))) ∧
    ∀ e, a.toTwoPlaces.toCents = .error e ↔
      e = ⟨a.toTwoPlaces⟩ ∧ 100 * a.value = -9223372036854775808 - 1 / 2 := by
  have hcount : c.count = roundInSteps (100 * a.value) :=
    (toCents_eq_ok_iff.mp h).trans a.shiftRound_toEven_eq
  refine ⟨fun hnot => ?_,fun hhalf heven => ?_,fun e => ?_⟩
  · rw [toCents_toTwoPlaces, roundOutInSteps_eq hnot, ← hcount, fit_eq_ok_iff]
  · obtain ⟨hcharged,hshown⟩ := round_of_isHalfway hhalf heven
    rw [toCents_toTwoPlaces, hshown, ← hcharged, ← hcount]
    refine ⟨fun hzero => ?_,fun hpos => ?_,fun hneg => ?_⟩
    · obtain ⟨k,hk⟩ := hhalf
      have hodd : (0 : ℤ) = 2 * k + 1 := by
        rw [hzero] at hk
        have hcast : (0 : ℚ) = 2 * k + 1 := by linarith
        exact_mod_cast hcast
      omega
    · rw [stepOut, if_neg (by linarith)]
    · rw [stepOut, if_pos (by linarith)]
      rfl
  · rw [toCents_toTwoPlaces, fit_eq_error_iff, refused_iff hcount c.fits]

/-- An eighth is charged as twelve cents and shown as thirteen; the amount half a cent below the least
cents is charged as these, but refused as it is shown. -/
theorem shown_or_next_cent_eighth :
    let eighth : Decimal := ⟨125,3⟩
    let low : Decimal := ⟨-92233720368547758085,3⟩
    eighth.toCents = .ok ⟨12,by decide⟩ ∧ eighth.toTwoPlaces.toCents = .ok ⟨13,by decide⟩ ∧
    low.toCents = .ok ⟨-9223372036854775808,by decide⟩ ∧
    low.toTwoPlaces.toCents = .error ⟨low.toTwoPlaces⟩ := by
  intro eighth low
  have heighth : eighth.toCents = .ok ⟨12,by decide⟩ := toCents_eq_ok_iff.mpr (by decide +kernel)
  have hlow : low.toCents = .ok ⟨-9223372036854775808,by decide⟩ :=
    toCents_eq_ok_iff.mpr (by decide +kernel)
  have hvalue : 100 * eighth.value = 12 + 1 / 2 := by
    norm_num [eighth, value]
  have hwhole : wholePart (12 + 1 / 2) = 12 := by
    norm_num [wholePart, Int.floor_eq_iff]
  have hhalf : IsHalfway (100 * eighth.value) := ⟨12,by rw [hvalue]; norm_num⟩
  have heven : Even (wholePart (100 * eighth.value)) := by
    rw [hvalue, hwhole]
    decide
  have hleast : 100 * low.value = -9223372036854775808 - 1 / 2 := by
    norm_num [low, value]
  obtain ⟨-,hnext,-⟩ := shown_or_next_cent heighth
  obtain ⟨-,-,hrefused⟩ := shown_or_next_cent hlow
  have hpos : 0 < eighth.value := by linarith
  refine ⟨heighth,((hnext hhalf heven).2.1 hpos).trans rfl,hlow,(hrefused _).mpr ⟨rfl,hleast⟩⟩

end Money.Decimal
end Checkout
