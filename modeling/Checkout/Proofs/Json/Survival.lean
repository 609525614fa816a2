import Checkout.Proofs.Json.FromText
import Checkout.Proofs.Json.Readings
import Checkout.Proofs.Json.Rendering

/-! Values that survive being written and read again. The normal form of a value is no deeper than
the value, repeats no name and holds the same numbers. What can be written exactly, is not nested
too deeply and repeats no name is read from its text by every reader that reads it from the value.
-/
namespace Checkout.Json

section Normal
variable {j part : Json}

lemma forall_mem_arrange {p : String × Json → Prop} {members : List (String × Json)}
    (h : ∀ m ∈ members, p (m.1, m.2.normal)) :
    ∀ m ∈ arrange (members.map fun m => (m.1, m.2.normal)), p m :=
  fun m hm => List.forall_mem_map.mpr h m (arrange_subset m hm)

lemma nesting_lt_of_mem_parts (h : part ∈ j.parts) : part.nesting < j.nesting := by
  cases j with
  | array items => exact Nat.lt_succ_of_le (nestingItems_le_iff.mp le_rfl part h)
  | object members =>
    obtain ⟨m,hm,rfl⟩ := List.mem_map.mp h
    exact Nat.lt_succ_of_le (nestingMembers_le_iff.mp le_rfl m hm)
  | null | bool | number | string => cases h

/-- What a normal form consists of are normal forms. -/
lemma normal_parts (hj : j.normal = j) : ∀ part ∈ j.parts, part.normal = part := by
  rw [← hj]
  cases j with
  | array items =>
    rw [normal_array, parts, List.forall_mem_map]
    exact fun item _ => normal_normal item
  | object members =>
    rw [normal_object, parts, List.forall_mem_map]
    apply forall_mem_arrange
    exact fun m _ => normal_normal m.2
  | null | bool | number | string =>
    intro part h
    cases h

lemma nesting_normal_le (j : Json) : j.normal.nesting ≤ j.nesting := by
  induction j with
  | array items ih =>
    rw [normal_array, nesting, nesting, Nat.add_le_add_iff_right, nestingItems_le_iff,
      List.forall_mem_map]
    intro item hitem
    exact (ih item hitem).trans (nestingItems_le_iff.mp le_rfl item hitem)
  | object members ih =>
    rw [normal_object, nesting, nesting, Nat.add_le_add_iff_right, nestingMembers_le_iff]
    apply forall_mem_arrange
    intro m hm
    exact (ih m hm).trans (nestingMembers_le_iff.mp le_rfl m hm)
  | null | bool | number | string => exact le_rfl

lemma isExact_normal (h : j.IsExact) : j.normal.IsExact := by
  induction j with
  | array items ih =>
    rw [normal_array, isExact_array, List.forall_mem_map]
    exact fun item hitem => ih item hitem (isExact_array.mp h item hitem)
  | object members ih =>
    rw [normal_object, isExact_object]
    apply forall_mem_arrange
    exact fun m hm => ih m hm (isExact_object.mp h m hm)
  | null | bool | number | string => exact h

/-- A normal form repeats no name. -/
theorem isDistinct_normal (j : Json) : j.normal.isDistinct = true := by
  induction j with
  | array items ih =>
    rw [normal_array, isDistinct_array, List.forall_mem_map]
    exact ih
  | object members ih =>
    rw [normal_object, isDistinct_object]
    exact ⟨(ascending_arrange _).nodup,forall_mem_arrange ih⟩
  | null | bool | number | string => rfl

lemma exists_of_mem_right {α β : Type} {R : α → β → Prop} {l : List α} {l' : List β}
    (h : List.Forall₂ R l l') {b : β} (hb : b ∈ l') : ∃ a, R a b := by
  induction h with
  | nil => cases hb
  | cons hab _ ih =>
    rcases List.mem_cons.mp hb with rfl | hb
    · exact ⟨_,hab⟩
    · exact ih hb

/-- What is read with some levels left goes down no further than these. -/
lemma nesting_le_of_read {depth : ℕ} {node : Node} (h : node.read depth = .ok j) :
    j.nesting ≤ depth - 1 := by
  induction j generalizing depth node with
  | array items ih =>
    cases Node.spells_of_read h with
    | array deep parts =>
      have hitems : nestingItems items ≤ depth - 2 := by
        refine nestingItems_le_iff.mpr fun item hitem => ?_
        obtain ⟨node',hread⟩ := exists_of_mem_right parts hitem
        exact ih item hitem hread
      rw [nesting]
      omega
  | object members ih =>
    cases Node.spells_of_read h with
    | object deep parts =>
      have hmembers : nestingMembers members ≤ depth - 2 := by
        refine nestingMembers_le_iff.mpr fun m hm => ?_
        obtain ⟨node',hread⟩ := exists_of_mem_right parts hm
        exact ih m hm hread.2
      rw [nesting]
      omega
  | null | bool | number | string => exact Nat.zero_le _

lemma nesting_lt_of_parseSymbols {symbols : List Symbol} (h : parseSymbols symbols = .ok j) :
    j.nesting < levels := by
  obtain ⟨written,hwritten,rfl⟩ := map_eq_ok_iff.mp h
  have hread := nesting_le_of_read (read_of_parseWritten hwritten).1
  exact (nesting_normal_le written).trans_lt (by simpa [levels] using Nat.lt_succ_of_le hread)

end Normal

/-- A value that can be found again in its text: it can be written, and no object repeats a name. -/
structure Faithful (k : ℕ) (j : Json) : Prop extends Writable k j where
  distinct : j.isDistinct = true

section Faithful
variable {k : ℕ} {j : Json} {members : List (String × Json)}

lemma faithful_string (k : ℕ) (s : String) : (string s).Faithful k := ⟨writable_string k s,rfl⟩

lemma faithful_whole (k : ℕ) (n : WholeNumber) : (whole n).Faithful k := ⟨writable_whole k n,rfl⟩

lemma faithful_null (k : ℕ) : null.Faithful k :=
  ⟨⟨by simp [IsExact, tokens, Token.isExact],Nat.zero_le k⟩,rfl⟩

lemma faithful_optional_string (k : ℕ) (s : Option String) : (optional string s).Faithful k := by
  cases s with
  | none => exact faithful_null k
  | some s => exact faithful_string k s

lemma faithful_orNull {o : Option Json} (h : ∀ j, o = some j → j.Faithful k) :
    (orNull o).Faithful k := by
  cases o with
  | none => exact faithful_null k
  | some j => exact h j rfl

lemma faithful_object (hnodup : (members.map Prod.fst).Nodup) (h : ∀ m ∈ members, m.2.Faithful k) :
    (object members).Faithful (k + 1) :=
  ⟨writable_object fun m hm => (h m hm).toWritable,
    isDistinct_object.mpr ⟨hnodup,fun m hm => (h m hm).distinct⟩⟩

lemma Faithful.normal (h : j.Faithful k) : j.normal.Faithful k :=
  ⟨⟨isExact_normal h.exact,(nesting_normal_le j).trans h.shallow⟩,isDistinct_normal j⟩

end Faithful

namespace Decoder
variable {α : Type} {d : Decoder α} {k : ℕ}

/-- A text is read as a record, straight away and through the value that it is parsed to. -/
structure ReadsText (d : Decoder α) (j : Json) (a : α) : Prop where
  direct : d.fromText j.render = .ok a
  parsed : ∃ v, parse j.render = .ok v ∧ d.value v = .ok a

/-- What is read from a value is read from its text. -/
theorem Agrees.readsText (h : d.Agrees) {j : Json} (hj : j.Faithful k) (hk : k < levels) {a : α}
    (ha : d.value j.normal = .ok a) : d.ReadsText j a := by
  refine ⟨?_,j.normal,hj.parse_render hk,ha⟩
  obtain ⟨node,hnode,hdocument⟩ := exists_ofSymbols_render hj.exact
  have hread := hnode (hj.shallow.trans_lt hk : j.nesting < levels)
  rw [fromText, fromSymbols_eq_ok_iff (by rw [hdocument]), hdocument]
  exact (h levels node j hread hj.distinct).eq_ok_iff.mpr ha

/-- A record survives its encoding as a value: it is read again, and written the same again. -/
structure Survives (d : Decoder α) (encode : α → Json) (a : α) : Prop where
  value : d.value (encode a).normal = .ok a
  again : ∀ b, d.value (encode a).normal = .ok b → encode b = encode a

/-- A record survives its encoding as compact text, with its members in their own order or sorted.
-/
structure SurvivesText (d : Decoder α) (encode : α → Json) (a : α) : Prop where
  declared : d.ReadsText (encode a) a
  sorted : d.ReadsText (encode a).normal a
  again : ∀ b, d.fromText (encode a).render = .ok b → (encode b).render = (encode a).render

variable {encode : α → Json} {a : α}

lemma survives_of_value (h : d.value (encode a).normal = .ok a) : d.Survives encode a := by
  refine ⟨h,fun b hb => ?_⟩
  cases h.symm.trans hb
  rfl

/-- What survives as a value also survives as text if its JSON can be found again there. -/
theorem Survives.text (h : d.Survives encode a) (hd : d.Agrees) (hencode : (encode a).Faithful k)
    (hk : k < levels) : d.SurvivesText encode a := by
  have hdeclared := hd.readsText hencode hk h.value
  refine ⟨hdeclared,hd.readsText hencode.normal hk ?_,fun b hb => ?_⟩
  · rw [normal_normal]
    exact h.value
  · cases hdeclared.direct.symm.trans hb
    rfl

end Decoder
end Checkout.Json
