import Checkout.Http.Response
import Checkout.Proofs.Url.Plain

/-! Addresses that go on from a base address with words, which are texts of ASCII letters, digits and
underscores. Nothing in a word is encoded, left out or resolved, so such an address is that of its
base with the words behind it. -/
namespace Checkout.Url

/-- A character of a word: an ASCII letter, a digit or an underscore. -/
def isWordChar (c : Char) : Bool :=
  ('a' ≤ c && c ≤ 'z') || ('A' ≤ c && c ≤ 'Z') || ('0' ≤ c && c ≤ '9') || c == '_'

/-- A text of ASCII letters, digits and underscores. -/
def IsWord (cs : List Char) : Prop := ∀ c ∈ cs, isWordChar c = true

instance (cs : List Char) : Decidable (IsWord cs) :=
  decidable_of_iff (cs.all isWordChar = true) List.all_eq_true

/-- A character that stands for nothing but itself, in a path and in a header. -/
structure IsInert (c : Char) : Prop where
  whole : isSlash true c = false
  inside : endsPath c = false
  kept : isEdge c = false
  bare : inPath c = false
  literal : c ≠ '%'
  dotless : c.toLower ≠ '.' ∧ c.toLower ≠ '%'
  header : Http.isHeaderChar c = true

lemma toNat_lt_of_isWordChar {c : Char} (h : isWordChar c = true) : c.toNat < 128 := by
  simp only [isWordChar, Bool.or_eq_true, Bool.and_eq_true, decide_eq_true_eq, beq_iff_eq,
    Char.le_def, UInt32.le_iff_toNat_le] at h
  have hlower : 'z'.val.toNat = 122 := rfl
  have hupper : 'Z'.val.toNat = 90 := rfl
  have hdigit : '9'.val.toNat = 57 := rfl
  have hchar : c.toNat = c.val.toNat := rfl
  rcases h with ((h | h) | h) | rfl
  · omega
  · omega
  · omega
  · decide

lemma isInert_of_isWordChar {c : Char} (h : isWordChar c = true) : IsInert c := by
  -- All characters of words are ASCII, so there are few enough to look at each.
  have hascii : ∀ n < 128, let c := Char.ofNat n; isWordChar c = true →
      isSlash true c = false ∧ endsPath c = false ∧ isEdge c = false ∧ inPath c = false ∧ c ≠ '%' ∧
        (c.toLower ≠ '.' ∧ c.toLower ≠ '%') ∧ Http.isHeaderChar c = true := by
    decide +kernel
  have hinert := hascii c.toNat (toNat_lt_of_isWordChar h)
  rw [Char.ofNat_toNat] at hinert
  obtain ⟨hwhole,hinside,hkept,hbare,hliteral,hdotless,hheader⟩ := hinert h
  exact ⟨hwhole,hinside,hkept,hbare,hliteral,hdotless,hheader⟩

lemma isDropped_eq_false {c : Char} (h : isEdge c = false) : isDropped c = false := by
  rw [Bool.eq_false_iff]
  intro hdropped
  simp only [isDropped, Bool.or_eq_true, beq_iff_eq] at hdropped
  rcases hdropped with (rfl | rfl) | rfl <;> cases h

lemma isDot_eq_false {cs : List Char} (h : ∀ c ∈ cs, c.toLower ≠ '.' ∧ c.toLower ≠ '%') :
    isSingleDot cs = false ∧ isDoubleDot cs = false := by
  have hne (s : String) (c : Char) (hc : c ∈ s.toList) (hdot : c = '.' ∨ c = '%') :
      (String.ofList (cs.map Char.toLower) == s) = false := by
    refine beq_false_of_ne fun he => ?_
    rw [← he, String.toList_ofList] at hc
    obtain ⟨d,hd,rfl⟩ := List.mem_map.mp hc
    exact hdot.elim (h d hd).1 (h d hd).2
  constructor
  · simp [isSingleDot, hne "." '.', hne "%2e" '%']
  · simp [isDoubleDot, hne ".." '.', hne ".%2e" '.', hne "%2e." '.', hne "%2e%2e" '%']

section Words
variable {cs : List Char} {last : List (List Char)}

lemma IsWord.isInert (h : IsWord cs) : ∀ c ∈ cs, IsInert c :=
  fun c hc => isInert_of_isWordChar (h c hc)

/-- A word is a segment as it stands. -/
lemma IsWord.isPlain (h : IsWord cs) : IsPlain cs where
  whole c hc := (h.isInert c hc).whole
  inside c hc := (h.isInert c hc).inside
  kept c hc := isDropped_eq_false (h.isInert c hc).kept
  stays := (isDot_eq_false fun c hc => (h.isInert c hc).dotless).1
  level := (isDot_eq_false fun c hc => (h.isInert c hc).dotless).2
  literal := by
    rintro ⟨a,b,hpart,-⟩
    exact (h.isInert '%' (hpart.mem (by simp))).literal rfl

lemma IsWord.encode_eq (h : IsWord cs) : encode inPath cs = cs := by
  have hkept : ∀ c ∈ cs, (if inPath c then percentChar c else [c]) = [c] :=
    fun c hc => if_neg (by simp [(h.isInert c hc).bare])
  rw [encode, List.flatMap_congr hkept, List.flatMap_singleton']

/-- Words between slashes are tidy. -/
lemma tidy_words (h : ∀ name ∈ cs :: last, IsWord name) :
    tidy (cs ++ last.flatMap ('/' :: ·)) = cs ++ last.flatMap ('/' :: ·) := by
  have hkept : ∀ c ∈ cs ++ last.flatMap ('/' :: ·), isEdge c = false := by
    intro c hc
    rcases List.mem_append.mp hc with hc | hc
    · exact ((h cs (by simp)).isInert c hc).kept
    · obtain ⟨name,hname,hc⟩ := List.mem_flatMap.mp hc
      rcases List.mem_cons.mp hc with rfl | hc
      · rfl
      · exact ((h name (by simp [hname])).isInert c hc).kept
  exact (tidy_eq_self_iff fun c hc => isDropped_eq_false (hkept c hc)).mpr
    fun c hc => hkept c (List.mem_of_getLast? hc)

/-- An address goes on from another one on the same machine. -/
structure GoesOn (base url : Url) (rest : String) : Prop where
  machine : url.originText = base.originText
  target : url.target = base.target ++ rest
  text : url.toText = base.toText ++ rest

/-- Words behind the final slash of a base address are read as segments behind its own. -/
theorem exists_goesOn_of_words {b : String} {base : Url} (h : ofText? (b ++ "/") = some base)
    (hweb : IsWeb base.scheme) (hquery : base.query = none) (hfragment : base.fragment = none)
    (hwords : ∀ name ∈ cs :: last, IsWord name) :
    let rest := String.ofList (cs ++ last.flatMap ('/' :: ·))
    ∃ url, ofText? (b ++ "/" ++ rest) = some url ∧ url.scheme = base.scheme ∧ base.GoesOn url rest := by
  intro rest
  obtain ⟨names,-,hpath,hbelow⟩ := ofText?_below h hweb hquery hfragment
  have hword := hwords cs (by simp)
  have hlast : ∀ name ∈ last, IsPlain name ∧ encode inPath name = name := fun name hname =>
    have hword := hwords name (by simp [hname])
    ⟨hword.isPlain,hword.encode_eq⟩
  have hurl := hbelow (cs ++ last.flatMap ('/' :: ·))
  rw [tidy_words hwords, hword.isPlain.under_eq hlast, hword.encode_eq] at hurl
  have hchars : (names ++ cs :: last).flatMap ('/' :: ·) =
      base.pathChars ++ (cs ++ last.flatMap ('/' :: ·)) := by
    simp [pathChars, hpath]
  have htarget : base.target = String.ofList base.pathChars := by
    simp [target, hquery, marked]
  have htext : base.toText = base.originText ++ String.ofList base.pathChars := by
    simp [toText, hquery, hfragment, marked]
  refine ⟨_,hurl,rfl,rfl,?_,?_⟩
  · rw [htarget, ← String.ofList_append, ← hchars]
    exact congrArg String.ofList (List.append_nil _)
  · rw [htext, String.append_assoc, ← String.ofList_append, ← hchars]
    have hnothing (front : List Char) : front ++ [] ++ [] = front := by simp
    exact congrArg (base.originText ++ String.ofList ·) (hnothing _)

end Words
end Checkout.Url
