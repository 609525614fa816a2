import Checkout.Url.Basic
import Checkout.Proofs.Text.Pieces
import Checkout.Proofs.Url.Percent

/-! The segments of a path. A piece between two slashes becomes a segment, stays where it is, or goes
one up; whatever it does, the segments are free of slashes, question marks and hashes, so that the
text of a path names them all. -/
namespace Checkout.Url

open Checkout.Text (splitWhere)

/-- A text that can be one segment of a path. -/
def IsSegment (cs : List Char) : Prop := '/' ∉ cs ∧ '?' ∉ cs ∧ '#' ∉ cs

lemma isSegment_nil : IsSegment [] := by simp [IsSegment]

lemma not_mem_encode {c : Char} {cs : List Char} (h : c ∉ cs ∨ inPath c = true) (hpercent : c ≠ '%')
    (hdigit : (Net.hexDigit? c).isSome = false) : c ∉ encode inPath cs := by
  intro hmem
  rcases mem_encode hmem with ⟨hmem,hin⟩ | he | hsome
  · rcases h with h | h
    · exact h hmem
    · simp [h] at hin
  · exact hpercent he
  · simp [hdigit] at hsome

/-- What is encoded for a path and had no slash is a segment. -/
lemma isSegment_encode {cs : List Char} (h : '/' ∉ cs) : IsSegment (encode inPath cs) :=
  ⟨not_mem_encode (.inl h) (by decide) (by decide),
    not_mem_encode (.inr (by decide)) (by decide) (by decide),
    not_mem_encode (.inr (by decide)) (by decide) (by decide)⟩

/-- The text of a path determines its segments. -/
theorem flatMap_slash_inj {names names' : List (List Char)} (h : ∀ name ∈ names, IsSegment name)
    (h' : ∀ name ∈ names', IsSegment name)
    (he : names.flatMap ('/' :: ·) = names'.flatMap ('/' :: ·)) : names = names' := by
  have hfree {names : List (List Char)} (h : ∀ name ∈ names, IsSegment name) :
      ∀ name ∈ names, ∀ c ∈ name, (c == '/') = false := by
    intro name hname c hc
    rw [beq_eq_false_iff_ne]
    rintro rfl
    exact (h name hname).1 hc
  have hsplit := congrArg (fun cs => splitWhere (· == '/') ([] ++ cs)) he
  rw [Text.splitWhere_append_flatMap_cons rfl [] (hfree h),
    Text.splitWhere_append_flatMap_cons rfl [] (hfree h')] at hsplit
  exact (List.cons.inj hsplit).2

/-- The segments so far, in reverse, behind one more piece that is not the last. -/
def climb (done : List (List Char)) (piece : List Char) : List (List Char) :=
  if isDoubleDot piece then done.drop 1
  else if isSingleDot piece then done else encode inPath piece :: done

lemma resolve_cons {piece : List Char} {pieces : List (List Char)} (h : pieces ≠ [])
    (done : List (List Char)) : resolve done (piece :: pieces) = resolve (climb done piece) pieces := by
  obtain ⟨next,rest,rfl⟩ := List.exists_cons_of_ne_nil h
  simp only [resolve, climb]
  split_ifs <;> rfl

lemma resolve_append {last : List (List Char)} (h : last ≠ []) (done front : List (List Char)) :
    resolve done (front ++ last) = resolve (front.foldl climb done) last := by
  induction front generalizing done with
  | nil => rfl
  | cons piece front ih =>
    rw [List.cons_append, resolve_cons (by simp [h]), ih, List.foldl_cons]

/-- Climbing keeps to segments. -/
lemma isSegment_of_mem_climb {done : List (List Char)} {piece name : List Char}
    (hdone : ∀ name ∈ done, IsSegment name) (hpiece : '/' ∉ piece) (h : name ∈ climb done piece) :
    IsSegment name := by
  unfold climb at h
  split_ifs at h
  · exact hdone name (List.mem_of_mem_drop h)
  · exact hdone name h
  · rcases List.mem_cons.mp h with rfl | h
    · exact isSegment_encode hpiece
    · exact hdone name h

lemma isSegment_of_mem_foldl_climb {done pieces : List (List Char)}
    (hdone : ∀ name ∈ done, IsSegment name) (hpieces : ∀ piece ∈ pieces, '/' ∉ piece) :
    ∀ name ∈ pieces.foldl climb done, IsSegment name := by
  induction pieces generalizing done with
  | nil => exact hdone
  | cons piece pieces ih =>
    refine ih (fun name hname => ?_) fun p hp => hpieces p (by simp [hp])
    exact isSegment_of_mem_climb hdone (hpieces piece (by simp)) hname

/-- What is resolved is some of the segments in front, and segments that the pieces have become. -/
theorem exists_resolve_eq (done pieces : List (List Char)) :
    ∃ k pushed, resolve done pieces = (done.drop k).reverse ++ pushed ∧
      ∀ name ∈ pushed, name = [] ∨ ∃ piece ∈ pieces, name = encode inPath piece := by
  fun_induction resolve done pieces with
  | case1 done => exact ⟨0,[],by simp,by simp⟩
  | case2 done last hdouble => exact ⟨1,[[]],by simp,by simp⟩
  | case3 done last hdouble hsingle => exact ⟨0,[[]],by simp,by simp⟩
  | case4 done last hdouble hsingle => exact ⟨0,[encode inPath last],by simp,by simp⟩
  | case5 done piece rest hne hdouble ih =>
    obtain ⟨k,pushed,he,hpushed⟩ := ih
    refine ⟨1 + k,pushed,by rw [he, List.drop_drop],fun name hname => ?_⟩
    exact (hpushed name hname).imp_right fun ⟨p,hp,hname⟩ => ⟨p,.tail _ hp,hname⟩
  | case6 done piece rest hne hdouble hsingle ih =>
    obtain ⟨k,pushed,he,hpushed⟩ := ih
    refine ⟨k,pushed,he,fun name hname => ?_⟩
    exact (hpushed name hname).imp_right fun ⟨p,hp,hname⟩ => ⟨p,.tail _ hp,hname⟩
  | case7 done piece rest hne hdouble hsingle ih =>
    obtain ⟨k,pushed,he,hpushed⟩ := ih
    have htail : ∀ name ∈ pushed,
        name = [] ∨ ∃ p ∈ piece :: rest, name = encode inPath p := fun name hname =>
      (hpushed name hname).imp_right fun ⟨p,hp,hname⟩ => ⟨p,.tail _ hp,hname⟩
    cases k with
    | zero =>
      refine ⟨0,encode inPath piece :: pushed,by simp [he],fun name hname => ?_⟩
      rcases List.mem_cons.mp hname with rfl | hname
      · exact .inr ⟨piece,.head _,rfl⟩
      · exact htail name hname
    | succ k => exact ⟨k,pushed,by simp [he],htail⟩

/-- Resolving keeps to segments. -/
lemma isSegment_of_mem_resolve {done pieces : List (List Char)} {name : List Char}
    (hdone : ∀ name ∈ done, IsSegment name) (hpieces : ∀ piece ∈ pieces, '/' ∉ piece)
    (h : name ∈ resolve done pieces) : IsSegment name := by
  obtain ⟨k,pushed,he,hpushed⟩ := exists_resolve_eq done pieces
  rw [he, List.mem_append, List.mem_reverse] at h
  rcases h with h | h
  · exact hdone name (List.mem_of_mem_drop h)
  · rcases hpushed name h with rfl | ⟨piece,hpiece,rfl⟩
    · exact isSegment_nil
    · exact isSegment_encode (hpieces piece hpiece)

end Checkout.Url
