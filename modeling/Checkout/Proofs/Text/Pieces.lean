import Checkout.Text.Split
import Mathlib.Data.List.TakeWhile
import Mathlib.Tactic

/-! The pieces of a text between the characters of a class: they are parts of the text that hold none
of these characters, and what is joined by such a character is cut into its parts again. -/
namespace Checkout.Text
variable {p : Char → Bool}

lemma splitFrom_piece (piece cs : List Char) :
    splitFrom p piece [] cs = (splitWhere p cs).modifyHead (piece.reverse ++ ·) := by
  induction cs generalizing piece with
  | nil => simp [splitFrom]
  | cons c cs ih =>
    rw [splitWhere, splitFrom, splitFrom]
    cases hc : p c with
    | true => simp [splitFrom_done p [] [_] cs]
    | false => simp [ih (c :: piece), ih [c], List.modifyHead_modifyHead, Function.comp_def]

/-- A text without characters of the class belongs to the first piece. -/
theorem splitWhere_append_of_forall {a : List Char} (h : ∀ c ∈ a, p c = false) (b : List Char) :
    splitWhere p (a ++ b) = (splitWhere p b).modifyHead (a ++ ·) := by
  induction a with
  | nil => exact (congrFun List.modifyHead_id (splitWhere p b)).symm
  | cons c a ih =>
    have hc : p c = false := h c (by simp)
    rw [List.cons_append, splitWhere, splitFrom, hc, if_neg (by decide), splitFrom_piece,
      ih fun d hd => h d (by simp [hd]), List.modifyHead_modifyHead]
    rfl

theorem splitWhere_of_forall {a : List Char} (h : ∀ c ∈ a, p c = false) : splitWhere p a = [a] := by
  simpa using splitWhere_append_of_forall h []

lemma splitWhere_cons_of_neg {c : Char} (hc : p c = false) (cs : List Char) :
    splitWhere p (c :: cs) = (splitWhere p cs).modifyHead (c :: ·) :=
  splitWhere_append_of_forall (a := [c]) (by simpa using hc) cs

/-- A character of the class parts the pieces in front of it from those behind it. -/
theorem splitWhere_append_cons (a : List Char) {c : Char} (hc : p c = true) (b : List Char) :
    splitWhere p (a ++ c :: b) = splitWhere p a ++ splitWhere p b := by
  induction a with
  | nil => simp [splitWhere_cons_of_pos hc]
  | cons d a ih =>
    obtain ⟨head,tail,ha⟩ := List.exists_cons_of_ne_nil (splitWhere_ne_nil p a)
    cases hd : p d with
    | true => simp [splitWhere_cons_of_pos hd, ih]
    | false => simp [splitWhere_cons_of_neg hd, ih, ha]

/-- A piece is a part of the text that holds no character of the class. -/
theorem sublist_of_mem_splitWhere {piece cs : List Char} (h : piece ∈ splitWhere p cs) :
    piece.Sublist cs ∧ ∀ c ∈ piece, p c = false := by
  induction cs generalizing piece with
  | nil => simp_all
  | cons c cs ih =>
    cases hc : p c with
    | true =>
      rw [splitWhere_cons_of_pos hc] at h
      rcases List.mem_cons.mp h with rfl | h
      · simp
      · exact ⟨(ih h).1.cons c,(ih h).2⟩
    | false =>
      obtain ⟨head,tail,hcs⟩ := List.exists_cons_of_ne_nil (splitWhere_ne_nil p cs)
      rw [splitWhere_cons_of_neg hc, hcs, List.modifyHead_cons] at h
      rcases List.mem_cons.mp h with rfl | h
      · have hmem : head ∈ splitWhere p cs := by simp [hcs]
        obtain ⟨hsub,hfree⟩ := ih hmem
        exact ⟨hsub.cons_cons c,by simpa [hc] using hfree⟩
      · have hmem : piece ∈ splitWhere p cs := by simp [hcs, h]
        obtain ⟨hsub,hfree⟩ := ih hmem
        exact ⟨hsub.cons c,hfree⟩

lemma splitWhere_eq_splitOnP (p : Char → Bool) (cs : List Char) :
    splitWhere p cs = List.splitOnP p cs := by
  induction cs with
  | nil => rw [splitWhere_nil, List.splitOnP_nil]
  | cons c cs ih =>
    rw [List.splitOnP_cons_eq_if_modifyHead]
    cases hc : p c with
    | true => simp [splitWhere_cons_of_pos hc, ih]
    | false => simp [splitWhere_cons_of_neg hc, ih]

/-- Cutting at a character gives the only pieces without it that are joined to the text by it. -/
theorem splitWhere_eq_iff {c : Char} {cs : List Char} {pieces : List (List Char)} :
    splitWhere (· == c) cs = pieces ↔
      pieces ≠ [] ∧ (∀ piece ∈ pieces, c ∉ piece) ∧ [c].intercalate pieces = cs := by
  constructor
  · rintro rfl
    refine ⟨splitWhere_ne_nil _ cs,?_,?_⟩
    · intro piece hpiece hc
      simpa using (sublist_of_mem_splitWhere hpiece).2 c hc
    · rw [splitWhere_eq_splitOnP, ← List.splitOn_eq_splitOnP, List.intercalate_splitOn]
  · rintro ⟨hne,hfree,rfl⟩
    rw [splitWhere_eq_splitOnP, ← List.splitOn_eq_splitOnP, List.splitOn_intercalate c hfree hne]

/-- What a character of the class is put in front of is cut off again. -/
theorem splitWhere_append_flatMap_cons {c : Char} (hc : p c = true) (a : List Char)
    {names : List (List Char)} (h : ∀ name ∈ names, ∀ d ∈ name, p d = false) :
    splitWhere p (a ++ names.flatMap (c :: ·)) = splitWhere p a ++ names := by
  induction names generalizing a with
  | nil => simp
  | cons name names ih =>
    have hname : splitWhere p name = [name] := splitWhere_of_forall (h name (by simp))
    have hrest : ∀ n ∈ names, ∀ d ∈ n, p d = false := fun n hn => h n (by simp [hn])
    rw [List.flatMap_cons, List.cons_append, splitWhere_append_cons a hc, ih name hrest, hname]
    rfl

/-- Lines that are each followed by their end are cut into these lines again. -/
theorem splitWhere_flatMap_append {c : Char} (hc : p c = true) {lines : List (List Char)}
    (h : ∀ line ∈ lines, ∀ d ∈ line, p d = false) (rest : List Char) :
    splitWhere p (lines.flatMap (· ++ [c]) ++ rest) = lines ++ splitWhere p rest := by
  induction lines with
  | nil => rfl
  | cons line lines ih =>
    have hline : splitWhere p line = [line] := splitWhere_of_forall (h line (by simp))
    rw [List.flatMap_cons, List.append_assoc, List.append_assoc, List.singleton_append,
      splitWhere_append_cons line hc, hline, ih fun l hl => h l (by simp [hl])]
    rfl

end Checkout.Text
