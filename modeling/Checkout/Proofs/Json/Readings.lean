import Checkout.Proofs.Json.Agreement
import Checkout.Proofs.Json.Nodes
import Checkout.Proofs.Json.Normal

/-! The two readings of a type: from a text, and from the value that the text stands for. A text is
read in the order in which it is written, and its value has sorted members; if no object repeats a
name, every reader built from the combinators gives the same in both, or fails in both. -/
namespace Checkout.Json

open Checkout.Entries (Pairs)

mutual

/-- Whether no object repeats a name, at any depth. -/
def isDistinct : Json → Bool
  | .array items => itemsDistinct items
  | .object members => decide (members.map Prod.fst).Nodup && membersDistinct members
  | _ => true

/-- Whether no object in some items repeats a name. -/
def itemsDistinct : List Json → Bool
  | [] => true
  | item :: rest => item.isDistinct && itemsDistinct rest

/-- Whether no object in some members repeats a name. -/
def membersDistinct : List (String × Json) → Bool
  | [] => true
  | (_, value) :: rest => value.isDistinct && membersDistinct rest

end

lemma isDistinct_array {items : List Json} :
    (array items).isDistinct = true ↔ ∀ item ∈ items, item.isDistinct = true := by
  rw [isDistinct]
  induction items with
  | nil => simp [itemsDistinct]
  | cons item items ih => simp [itemsDistinct, ih]

lemma isDistinct_object {members : List (String × Json)} : (object members).isDistinct = true ↔
    (members.map Prod.fst).Nodup ∧ ∀ m ∈ members, m.2.isDistinct = true := by
  have hmembers : membersDistinct members = true ↔ ∀ m ∈ members, m.2.isDistinct = true := by
    induction members with
    | nil => simp [membersDistinct]
    | cons m members ih => simp [membersDistinct, ih]
  rw [isDistinct, Bool.and_eq_true, decide_eq_true_eq, hmembers]

/-- Members in the order of their names are the same members. -/
lemma perm_arrange {members : List (String × Json)} (h : (members.map Prod.fst).Nodup) :
    (arrange members).Perm members := by
  have harranged := (ascending_arrange members).nodup
  refine (List.perm_ext_iff_of_nodup harranged.of_map h.of_map).mpr ?_
  rintro ⟨name,value⟩
  rw [← Entries.lookup_eq_some_iff_mem harranged, ← Entries.lookup_eq_some_iff_mem h,
    lookup_arrange_of_nodup h]

/-- The names of some members stay when their values are brought to normal form. -/
lemma nodup_map_normal {members : List (String × Json)} (h : (members.map Prod.fst).Nodup) :
    ((members.map fun m => (m.1, m.2.normal)).map Prod.fst).Nodup := by
  rwa [List.map_map]

/-- An object with different names keeps them in normal form. -/
lemma exists_normal_object {members : List (String × Json)} (h : (members.map Prod.fst).Nodup) :
    ∃ sorted, (Json.object members).normal = .object sorted ∧
      (sorted.map Prod.fst).Perm (members.map Prod.fst) := by
  refine ⟨_,normal_object members,?_⟩
  have hperm := (perm_arrange (nodup_map_normal h)).map Prod.fst
  rwa [List.map_map] at hperm

/-- A reader that does not look inside of arrays and objects reads a value as its normal form. -/
theorem agree_normal {ε α : Type} (read : Json → Except ε α)
    (harray : ∀ items items', Agree Eq (read (array items)) (read (array items')))
    (hobject : ∀ members members', Agree Eq (read (object members)) (read (object members')))
    (j : Json) : Agree Eq (read j) (read j.normal) := by
  cases j with
  | array items => rw [normal_array]; exact harray _ _
  | object members => rw [normal_object]; exact hobject _ _
  | null | bool | number | string => exact .refl _

/-- A value in a container of a text is read as what stands for a value that repeats no name. -/
def Cell.Shows (c : Cell) (j : Json) : Prop :=
  ∃ written, c.node.read c.depth = .ok written ∧ written.isDistinct = true ∧ j = written.normal

namespace Decoder
variable {α β : Type} {d : Decoder α}

/-- A reader gives the same from a text as from the value of the text. -/
def Agrees (d : Decoder α) : Prop := ∀ depth node written, node.read depth = .ok written →
  written.isDistinct = true → Agree Eq (d.text depth node) (d.value written.normal)

theorem agrees_string : string.Agrees := by
  intro depth node written hread _
  cases Node.spells_of_read hread with
  | string => exact .ok rfl
  | object => rw [normal_object]; exact .error
  | array => rw [normal_array]; exact .error
  | null | bool | number => exact .error

theorem agrees_any : any.Agrees := by
  intro depth node written hread _
  simp only [any, hread, Except.map]
  exact .ok rfl

/-- A reader that judges a value afterwards gives the same in both readings if it reads each value as
its normal form. -/
theorem agrees_buffered {read : Json → Except Problem α}
    (h : ∀ j, Agree Eq (read j) (read j.normal)) : (buffered read).Agrees := by
  intro depth node written hread _
  simp only [buffered, hread]
  exact (h written).mapError_left _

theorem Agrees.optional (h : d.Agrees) : d.optional.Agrees := by
  intro depth node written hread hdistinct
  have hsome := (h depth node written hread hdistinct).map (S := Eq) (f := some) (g := some)
    fun _ _ => congrArg some
  cases Node.spells_of_read hread with
  | null => exact .ok rfl
  | object => rw [normal_object] at hsome ⊢; exact hsome
  | array => rw [normal_array] at hsome ⊢; exact hsome
  | string | bool | number => exact hsome

/-- A choice in the object form has one member. -/
lemma value_oneOf_of_length_ne (names : List (String × α)) {members : List (String × Json)}
    (h : members.length ≠ 1) : (oneOf names).value (.object members) =
      .error (.invalidValue .map "map with a single key") := by
  cases members with
  | nil => rfl
  | cons m members =>
    cases members with
    | nil => exact absurd rfl h
    | cons => rfl

lemma agree_choiceMember (names : List (String × α)) {depth settled stop : ℕ} {key : Key}
    {node : Node} {name : String} {content : Json} (hname : key.name = .ok name)
    (hread : node.read depth = .ok content) :
    Agree Eq (choiceMember names (.closed stop) [(key,node,settled)])
      ((oneOf names).value (.object [(name,content.normal)])) := by
  simp only [choiceMember, hname, oneOf]
  refine ((Agree.refl (chosen names name)).mapError_left _).bind ?_
  rintro a _ rfl
  cases Node.spells_of_read hread with
  | null => exact .ok rfl
  | object => rw [normal_object]; exact .error
  | array => rw [normal_array]; exact .error
  | string | bool | number => exact .error

/-- A text with more than one member is no choice, whatever the first one says. -/
lemma exists_choiceMember_eq_error (names : List (String × α)) (stop : ℕ)
    (m m' : Key × Node × ℕ) (rest : List (Key × Node × ℕ)) :
    ∃ fault, choiceMember names (.closed stop) (m :: m' :: rest) = .error fault := by
  cases h : choiceMember names (.closed stop) (m :: m' :: rest) with
  | error fault => exact ⟨fault,rfl⟩
  | ok a =>
    obtain ⟨key,node,settled⟩ := m
    obtain ⟨name,-,h⟩ := bind_eq_ok_iff.mp h
    obtain ⟨b,-,h⟩ := bind_eq_ok_iff.mp h
    cases node <;> cases h

theorem agrees_oneOf (names : List (String × α)) : (oneOf names).Agrees := by
  intro depth node written hread hdistinct
  cases Node.spells_of_read hread with
  | string => exact (Agree.refl _).mapError_left _
  | null | bool | number => exact .error
  | array => rw [normal_array]; exact .error
  | @object start members values stop deep parts =>
    have hnodup := (isDistinct_object.mp hdistinct).1
    have hlength := (perm_arrange (nodup_map_normal hnodup)).length_eq
    rw [normal_object]
    have htext : (oneOf names).text depth (.object start members (.closed stop)) =
        choiceMember names (.closed stop) members := if_neg deep
    rw [htext]
    cases parts with
    | nil => exact .error
    | cons hm rest =>
      cases rest with
      | nil => exact agree_choiceMember names hm.1 hm.2
      | cons =>
        obtain ⟨fault,hfault⟩ := exists_choiceMember_eq_error names stop _ _ _
        rw [hfault, value_oneOf_of_length_ne names (by rw [hlength]; simp)]
        exact .error

end Decoder

/-- The fields of a record give the same from a text as from the value of the text. -/
def Fields.Agrees {α : Type} (s : Fields α) : Prop := s.text.Agrees Cell.Shows s.value

namespace Fields
variable {α β : Type}

lemma agrees_field {name : String} {d : Decoder α} {absent : Absent α} (h : d.Agrees) :
    (field name d absent).Agrees := by
  refine Slots.agrees_field ?_
  rintro c _ ⟨written,hread,hdistinct,rfl⟩
  exact ((h c.depth c.node written hread hdistinct).mapError_left _).mapError_right _

lemma agrees_required {name : String} {d : Decoder α} (h : d.Agrees) : (required name d).Agrees :=
  agrees_field h

lemma agrees_optional {name : String} {d : Decoder α} (h : d.Agrees) : (optional name d).Agrees :=
  agrees_field h.optional

lemma Agrees.map {s : Fields α} (h : s.Agrees) (f : α → β) : (f <$> s).Agrees := Slots.Agrees.map h f

lemma Agrees.seq {f : Fields (α → β)} {s : Fields α} (hf : f.Agrees) (hs : s.Agrees) :
    (f <*> s).Agrees := Slots.Agrees.seq hf hs

end Fields

section Record
variable {α : Type} {depth : ℕ} {members : List (Key × Node × ℕ)} {values : List (String × Json)}

lemma shows_of_parts {items : List (Node × ℕ)} {values : List Json}
    (parts : List.Forall₂ (Node.ReadsItem depth) items values)
    (hdistinct : ∀ j ∈ values, j.isDistinct = true) :
    List.Forall₂ Cell.Shows (items.map fun item => ⟨depth,item.1,item.2⟩) (values.map normal) := by
  induction parts with
  | nil => exact .nil
  | cons hitem _ ih =>
    obtain ⟨hfirst,hrest⟩ := List.forall_mem_cons.mp hdistinct
    exact .cons ⟨_,hitem,hfirst,rfl⟩ (ih hrest)

/-- A name is looked up in a text as among the members of its value. -/
lemma rel_cellOf (parts : List.Forall₂ (Node.ReadsMember depth) members values)
    (hdistinct : ∀ m ∈ values, m.2.isDistinct = true) (name : String) :
    Option.Rel Cell.Shows (Slots.cellOf depth name members)
      ((values.map fun m => (m.1, m.2.normal)).lookup name) := by
  induction parts with
  | nil => exact .none
  | @cons m v members values hm _ ih =>
    obtain ⟨key,node,settled⟩ := m
    obtain ⟨n,value⟩ := v
    obtain ⟨hname,hread⟩ : key.name = .ok n ∧ node.read depth = .ok value := hm
    obtain ⟨hfirst,hrest⟩ := List.forall_mem_cons.mp hdistinct
    rw [Slots.cellOf, List.map_cons]
    simp only [hname]
    split
    · next heq =>
      subst heq
      rw [List.lookup_cons_self]
      exact .some ⟨value,hread,hfirst,rfl⟩
    · next hne =>
      rw [Entries.lookup_cons_of_ne (Ne.symm hne)]
      exact ih hrest

/-- The members of a text are checked as those of its value are in the same order. -/
lemma Slots.Agrees.checkText {s : Slots Cell α} {s' : Slots Json α} (h : s.Agrees Cell.Shows s')
    (parts : List.Forall₂ (Node.ReadsMember depth) members values)
    (hdistinct : ∀ m ∈ values, m.2.isDistinct = true) (seen : List String) :
    Agree Eq (s.checkText depth seen members)
      (s'.checkMembers seen (values.map fun m => (m.1, m.2.normal))) := by
  induction parts generalizing seen with
  | nil => exact .ok rfl
  | @cons m v members values hm _ ih =>
    obtain ⟨key,node,settled⟩ := m
    obtain ⟨name,value⟩ := v
    obtain ⟨hname,hread⟩ : key.name = .ok name ∧ node.read depth = .ok value := hm
    obtain ⟨hfirst,hrest⟩ := List.forall_mem_cons.mp hdistinct
    have hcheck := h.checks.lookup name
    simp only [Slots.checkText, Slots.checkMembers, List.map_cons, hname]
    generalize s.checks.lookup name = check, s'.checks.lookup name = check' at hcheck
    cases hcheck with
    | none =>
      simp only [Node.skipped_of_read hread]
      exact ih hrest seen
    | @some check check' hcheck =>
      have hpass := hcheck ⟨depth,node,settled⟩ value.normal ⟨value,hread,hfirst,rfl⟩
      dsimp only
      generalize check ⟨depth,node,settled⟩ = result, check' value.normal = result' at hpass
      split
      · exact .error
      · cases hpass with
        | ok => exact ih hrest (name :: seen)
        | error => exact .error

lemma exists_afterItems_eq_error (stop : ℕ) (cell : Cell) (rest : List Cell) :
    ∃ fault, Slots.afterItems (.closed stop) (cell :: rest) = .error fault := by
  unfold Slots.afterItems
  dsimp only
  split <;> exact ⟨_,rfl⟩

/-- A record gives the same from a text as from its value if its fields do. -/
theorem Decoder.agrees_record {record : String} {s : Fields α} (h : s.Agrees) :
    (Decoder.record record s).Agrees := by
  intro depth node written hread hdistinct
  cases Node.spells_of_read hread with
  | null | bool | number | string => exact .error
  | @array start items values stop deep parts =>
    rw [normal_array]
    simp only [Decoder.record, if_neg deep]
    refine Agree.mapError_right ?_ _
    have hitems := shows_of_parts parts (isDistinct_array.mp hdistinct)
    refine (h.listed rfl rfl 0 0 hitems).bind ?_
    rintro ⟨a,i,rest⟩ ⟨_,i',rest'⟩ ⟨rfl,hrest⟩
    cases hrest with
    | nil => exact .ok rfl
    | @cons cell _ rest =>
      obtain ⟨fault,hfault⟩ := exists_afterItems_eq_error stop cell rest
      simp only [hfault]
      exact .error
  | @object start members values stop deep parts =>
    obtain ⟨hnodup,hvalues⟩ := isDistinct_object.mp hdistinct
    have hnodup' := nodup_map_normal hnodup
    rw [normal_object]
    simp only [Decoder.record, if_neg deep]
    refine Agree.mapError_right ?_ _
    -- The members are first read in the order of the text and then sorted.
    refine Agree.trans ?_ (s.value.ofMembers_perm hnodup' (perm_arrange hnodup').symm)
    refine (h.checkText parts hvalues []).bind fun _ _ _ => ?_
    exact (h.named _ _ (rel_cellOf parts hvalues)).mapError_left _

end Record

end Checkout.Json
