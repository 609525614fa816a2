import Checkout.Text.Blank
import Mathlib.Data.List.TakeWhile
import Mathlib.Tactic

/-! Trimming takes blanks from the two ends of a text and nothing else. -/
namespace Checkout.Text

/-- A text is what trimming leaves of it between two runs of blanks. -/
theorem exists_eq_append_trimChars (cs : List Char) :
    ∃ l r, cs = l ++ trimChars cs ++ r ∧ (∀ c ∈ l, isBlank c = true) ∧
      ∀ c ∈ r, isBlank c = true := by
  refine ⟨cs.takeWhile isBlank,((cs.dropWhile isBlank).reverse.takeWhile isBlank).reverse,?_,?_,?_⟩
  · have hback : trimChars cs ++ ((cs.dropWhile isBlank).reverse.takeWhile isBlank).reverse =
        cs.dropWhile isBlank := by
      rw [trimChars, ← List.reverse_append, List.takeWhile_append_dropWhile, List.reverse_reverse]
    rw [List.append_assoc, hback, List.takeWhile_append_dropWhile]
  · exact fun c hc => List.mem_takeWhile_imp hc
  · exact fun c hc => List.mem_takeWhile_imp (List.mem_reverse.mp hc)

/-- A character of a text is blank or left by trimming. -/
lemma isBlank_or_mem_trimChars {cs : List Char} {c : Char} (hc : c ∈ cs) :
    isBlank c = true ∨ c ∈ trimChars cs := by
  obtain ⟨l,r,h,hl,hr⟩ := exists_eq_append_trimChars cs
  rw [h] at hc
  rcases List.mem_append.mp hc with hc | hc
  · rcases List.mem_append.mp hc with hc | hc
    · exact .inl (hl c hc)
    · exact .inr hc
  · exact .inl (hr c hc)

/-- A text with no blank at either end; the empty text is one. -/
structure IsTight (cs : List Char) : Prop where
  front : ∀ c ∈ cs.head?, isBlank c = false
  back : ∀ c ∈ cs.getLast?, isBlank c = false

/-- A text with blanks around it. -/
def Padded (core cs : List Char) : Prop :=
  ∃ l r, cs = l ++ core ++ r ∧ (∀ c ∈ l, isBlank c = true) ∧ ∀ c ∈ r, isBlank c = true

lemma dropWhile_isBlank_eq_self {cs : List Char} (h : ∀ c ∈ cs.head?, isBlank c = false) :
    cs.dropWhile isBlank = cs := by
  cases cs with
  | nil => rfl
  | cons c cs => simp [h c rfl]

lemma isBlank_head?_dropWhile (cs : List Char) :
    ∀ c ∈ (cs.dropWhile isBlank).head?, isBlank c = false := by
  intro c hc
  have hhead := List.head?_dropWhile_not isBlank cs
  rwa [hc] at hhead

lemma isTight_trimChars (cs : List Char) : IsTight (trimChars cs) where
  front c hc := by
    obtain ⟨r,hr⟩ : trimChars cs <+: cs.dropWhile isBlank := by
      have hsuffix := List.dropWhile_suffix isBlank (l := (cs.dropWhile isBlank).reverse)
      simpa [trimChars] using List.reverse_prefix.mpr hsuffix
    refine isBlank_head?_dropWhile cs c ?_
    rw [← hr, List.head?_append, hc]
    rfl
  back c hc := by
    rw [trimChars, List.getLast?_reverse] at hc
    exact isBlank_head?_dropWhile _ c hc

/-- Trimming finds the one part of a text that is tight and has nothing but blanks around it. -/
theorem trimChars_eq_iff {cs core : List Char} :
    trimChars cs = core ↔ IsTight core ∧ Padded core cs := by
  constructor
  · rintro rfl
    exact ⟨isTight_trimChars cs,exists_eq_append_trimChars cs⟩
  · rintro ⟨htight,l,r,rfl,hl,hr⟩
    have hback : (core ++ r).reverse.dropWhile isBlank = core.reverse := by
      rw [List.reverse_append,
        List.dropWhile_append_of_pos fun c hc => hr c (List.mem_reverse.mp hc)]
      exact dropWhile_isBlank_eq_self fun c hc => htight.back c (List.head?_reverse ▸ hc)
    rw [trimChars, List.append_assoc, List.dropWhile_append_of_pos hl]
    cases core with
    | nil => rw [List.nil_append, List.dropWhile_eq_nil_iff.mpr hr]; rfl
    | cons c core =>
      have hfront : (c :: core ++ r).dropWhile isBlank = c :: core ++ r :=
        dropWhile_isBlank_eq_self fun d hd => htight.front d hd
      rw [hfront, hback, List.reverse_reverse]

lemma IsTight.trimChars_eq {cs : List Char} (h : IsTight cs) : trimChars cs = cs :=
  trimChars_eq_iff.mpr ⟨h,[],[],by simp,by simp,by simp⟩

/-- A text without blanks is left as it is. -/
theorem trimChars_eq_self {cs : List Char} (h : ∀ c ∈ cs, isBlank c = false) : trimChars cs = cs :=
  IsTight.trimChars_eq ⟨fun c hc => h c (List.mem_of_head? hc),
    fun c hc => h c (List.mem_of_getLast? hc)⟩

end Checkout.Text
