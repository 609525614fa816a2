/-! Cutting a text at the characters of a class. There is always one piece more than there are such
characters, and the pieces hold none of them. -/
namespace Checkout.Text

/-- Goes on with a piece whose characters so far are given in reverse, behind pieces in reverse. -/
def splitFrom (p : Char → Bool) (piece : List Char) (done : List (List Char)) :
    List Char → List (List Char)
  | [] => (piece.reverse :: done).reverse
  | c :: cs =>
    if p c then splitFrom p [] (piece.reverse :: done) cs else splitFrom p (c :: piece) done cs

/-- The pieces of a text between the characters of a class. -/
def splitWhere (p : Char → Bool) (cs : List Char) : List (List Char) := splitFrom p [] [] cs

theorem splitFrom_done (p : Char → Bool) (piece : List Char) (done : List (List Char))
    (cs : List Char) : splitFrom p piece done cs = done.reverse ++ splitFrom p piece [] cs := by
  induction cs generalizing piece done with
  | nil => simp [splitFrom]
  | cons c cs ih =>
    simp only [splitFrom]
    split
    · rw [ih, ih [] [piece.reverse]]; simp
    · exact ih ..

@[simp] theorem splitWhere_nil (p : Char → Bool) : splitWhere p [] = [[]] := rfl

/-- A character of the class starts a new piece. -/
theorem splitWhere_cons_of_pos {p : Char → Bool} {c : Char} (h : p c = true) (cs : List Char) :
    splitWhere p (c :: cs) = [] :: splitWhere p cs := by
  simp [splitWhere, splitFrom, h, splitFrom_done p [] [[]]]

theorem length_splitFrom (p : Char → Bool) (piece : List Char) (done : List (List Char))
    (cs : List Char) : (splitFrom p piece done cs).length = done.length + cs.countP p + 1 := by
  induction cs generalizing piece done with
  | nil => simp [splitFrom]
  | cons c cs ih =>
    simp only [splitFrom]
    cases h : p c
    · simp [ih, h]
    · simp [ih, h]
      omega

/-- There is one piece more than there are characters of the class. -/
theorem length_splitWhere (p : Char → Bool) (cs : List Char) :
    (splitWhere p cs).length = cs.countP p + 1 := by
  simp [splitWhere, length_splitFrom]

theorem splitWhere_ne_nil (p : Char → Bool) (cs : List Char) : splitWhere p cs ≠ [] := by
  intro h
  have := length_splitWhere p cs
  simp [h] at this

example : splitWhere (· == ',') "a,,b".toList = ["a".toList, [], "b".toList] := by decide +kernel

end Checkout.Text
