import Checkout.Proofs.Json.Fields

/-! What a node of a text is that is read as a value. A scalar is sound, and an array or an object is
closed and holds parts that are read on the next level; nothing else is read as a value. -/
namespace Checkout.Json

namespace Node

/-- An item in a text is read as an item of a value. -/
abbrev ReadsItem (depth : ℕ) (item : Node × ℕ) (j : Json) : Prop := item.1.read depth = .ok j

/-- A member in a text is read as a member of a value. -/
abbrev ReadsMember (depth : ℕ) (member : Key × Node × ℕ) (m : String × Json) : Prop :=
  member.1.name = .ok m.1 ∧ member.2.1.read depth = .ok m.2

/-- A node of a text that is read as a value, given the levels that are left: a scalar that is sound,
or a closed container whose parts are read on the next level. -/
inductive Spells (depth : ℕ) : Node → Json → Prop
  | null {start stop} : Spells depth (.null start stop) .null
  | bool {b start stop} : Spells depth (.bool b start stop) (.bool b)
  | number {n start stop} : Spells depth (.number (.ok n) start stop) (.number n)
  | string {s start stop} : Spells depth (.string (.ok s) start stop) (.string s)
  | array {start items values stop} (deep : ¬ depth ≤ 1)
      (parts : List.Forall₂ (ReadsItem (depth - 1)) items values) :
      Spells depth (.array start items (.closed stop)) (.array values)
  | object {start members values stop} (deep : ¬ depth ≤ 1)
      (parts : List.Forall₂ (ReadsMember (depth - 1)) members values) :
      Spells depth (.object start members (.closed stop)) (.object values)

variable {depth : ℕ} {node : Node} {j : Json} {ending : Ending}

/-- The parts of an array are read as its items. -/
lemma readItems_of_parts {items : List (Node × ℕ)} {values : List Json} {stop : ℕ}
    (parts : List.Forall₂ (ReadsItem depth) items values) (done : List Json) :
    readItems depth (.closed stop) done items = .ok (.array (done.reverse ++ values)) := by
  induction parts generalizing done with
  | nil => simp [readItems]
  | @cons item j items values hitem _ ih =>
    obtain ⟨node,settled⟩ := item
    have hread : node.read depth = .ok j := hitem
    rw [readItems, hread]
    simpa using ih (j :: done)

/-- The parts of an object are read as its members. -/
lemma readMembers_of_parts {members : List (Key × Node × ℕ)} {values : List (String × Json)}
    {stop : ℕ} (parts : List.Forall₂ (ReadsMember depth) members values)
    (done : List (String × Json)) :
    readMembers depth (.closed stop) done members = .ok (.object (done.reverse ++ values)) := by
  induction parts generalizing done with
  | nil => simp [readMembers]
  | @cons m v members values hm _ ih =>
    obtain ⟨key,node,settled⟩ := m
    obtain ⟨name,value⟩ := v
    obtain ⟨hname,hread⟩ : key.name = .ok name ∧ node.read depth = .ok value := hm
    rw [readMembers, hname]
    simp only [hread]
    simpa using ih ((name,value) :: done)

lemma exists_of_readItems {done : List Json} {items : List (Node × ℕ)}
    (h : readItems depth ending done items = .ok j) :
    ∃ stop values, ending = .closed stop ∧ j = .array (done.reverse ++ values) ∧
      List.Forall₂ (ReadsItem depth) items values := by
  induction items generalizing done with
  | nil =>
    cases ending with
    | closed stop =>
      rw [readItems] at h
      cases h
      exact ⟨stop,[],rfl,by simp,.nil⟩
    | broken breach met =>
      rw [readItems] at h
      cases h
  | cons item items ih =>
    obtain ⟨node,settled⟩ := item
    rw [readItems] at h
    split at h
    · next value hvalue =>
      obtain ⟨stop,values,hending,hj,hvalues⟩ := ih h
      exact ⟨stop,value :: values,hending,by simpa using hj,.cons hvalue hvalues⟩
    · cases h

lemma exists_of_readMembers {done : List (String × Json)} {members : List (Key × Node × ℕ)}
    (h : readMembers depth ending done members = .ok j) :
    ∃ stop values, ending = .closed stop ∧ j = .object (done.reverse ++ values) ∧
      List.Forall₂ (ReadsMember depth) members values := by
  induction members generalizing done with
  | nil =>
    cases ending with
    | closed stop =>
      rw [readMembers] at h
      cases h
      exact ⟨stop,[],rfl,by simp,.nil⟩
    | broken breach met =>
      rw [readMembers] at h
      cases h
  | cons m members ih =>
    obtain ⟨key,node,settled⟩ := m
    rw [readMembers] at h
    split at h
    · cases h
    · next name hname =>
      split at h
      · next value hvalue =>
        obtain ⟨stop,values,hending,hj,hvalues⟩ := ih h
        exact ⟨stop,(name,value) :: values,hending,by simpa using hj,.cons ⟨hname,hvalue⟩ hvalues⟩
      · cases h

/-- What is read from a node says what the node is. -/
theorem spells_of_read (h : node.read depth = .ok j) : node.Spells depth j := by
  cases node with
  | null start stop =>
    rw [read] at h
    cases h
    exact .null
  | bool b start stop =>
    rw [read] at h
    cases h
    exact .bool
  | number value start stop =>
    rw [read, map_eq_ok_iff] at h
    obtain ⟨n,rfl,rfl⟩ := h
    exact .number
  | string content start stop =>
    rw [read, map_eq_ok_iff] at h
    obtain ⟨s,rfl,rfl⟩ := h
    exact .string
  | array start items ending =>
    rw [read] at h
    split at h
    · cases h
    · next hdeep =>
      obtain ⟨stop,values,rfl,rfl,hvalues⟩ := exists_of_readItems h
      exact .array hdeep hvalues
  | object start members ending =>
    rw [read] at h
    split at h
    · cases h
    · next hdeep =>
      obtain ⟨stop,values,rfl,rfl,hvalues⟩ := exists_of_readMembers h
      exact .object hdeep hvalues
  | broken ahead lead trailing breach =>
    rw [read] at h
    cases h

/-- A node is read as a value exactly if it spells it. -/
theorem read_eq_ok_iff : node.read depth = .ok j ↔ node.Spells depth j := by
  refine ⟨spells_of_read,fun h => ?_⟩
  cases h with
  | null | bool | number | string => rfl
  | array deep parts => rw [read, if_neg deep, readItems_of_parts parts]; rfl
  | object deep parts => rw [read, if_neg deep, readMembers_of_parts parts]; rfl

/-- What can be read can be passed over. -/
lemma skipped_of_read (h : node.read depth = .ok j) : node.skipped = .ok () := by
  cases spells_of_read h <;> rfl

end Node

/-- A text is read at its root, and nothing may stand behind it. -/
theorem readWith_eq_ok_iff {α : Type} {read : ℕ → Node → Except Fault α} {symbols : List Symbol}
    {a : α} : readWith read symbols = .ok a ↔
      read levels (Document.ofSymbols symbols).root = .ok a ∧
        (Document.ofSymbols symbols).behind = none := by
  have hfinish (b : α) : (Document.ofSymbols symbols).finish b = .ok a ↔
      (Document.ofSymbols symbols).behind = none ∧ b = a := by
    unfold Document.finish
    cases (Document.ofSymbols symbols).behind <;> simp
  simp only [readWith, mapError_eq_ok_iff, bind_eq_ok_iff, hfinish]
  constructor
  · rintro ⟨b,hread,hbehind,rfl⟩
    exact ⟨hread,hbehind⟩
  · rintro ⟨hread,hbehind⟩
    exact ⟨a,hread,hbehind,rfl⟩

section Texts
variable {symbols : List Symbol}

lemma read_of_parseWritten {written : Json} (h : parseWritten symbols = .ok written) :
    (Document.ofSymbols symbols).root.read levels = .ok written ∧
      (Document.ofSymbols symbols).behind = none :=
  readWith_eq_ok_iff.mp h

/-- With nothing behind its value, a text is read as its value is. -/
lemma Decoder.fromSymbols_eq_ok_iff {α : Type} {d : Decoder α}
    (h : (Document.ofSymbols symbols).behind = none) {a : α} :
    d.fromSymbols symbols = .ok a ↔ d.text levels (Document.ofSymbols symbols).root = .ok a :=
  readWith_eq_ok_iff.trans (and_iff_left h)

end Texts
end Checkout.Json
