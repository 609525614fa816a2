import Checkout.Proofs.Json.Fields

/-! Records with one field, read from a text for that field. The record has to be closed and to hold
the field once, as its only item or under its name; members of other names are passed over. What is
read is what the field's own reader makes of the value that stands there. -/
namespace Checkout.Json
variable {α : Type} {d : Decoder α} {record field : String} {part : Node} {a : α} {depth : ℕ}

/-- A member that is passed over: its name can be read and is another one, and its value breaks off
nowhere. -/
def Passed (field : String) (m : Key × Node × ℕ) : Prop :=
  ∃ name, m.1.name = .ok name ∧ name ≠ field ∧ m.2.1.skipped = .ok ()

/-- Members of which exactly one has the name of the field, with a part of the text as its value. -/
inductive Sole (field : String) (part : Node) : List (Key × Node × ℕ) → Prop
  | found {key settled rest} (named : key.name = .ok field) (others : ∀ m ∈ rest, Passed field m) :
      Sole field part ((key,part,settled) :: rest)
  | later {m rest} (passed : Passed field m) (h : Sole field part rest) :
      Sole field part (m :: rest)

/-- A closed array with one item, or a closed object with one member of a name, with what it wraps.
-/
inductive Node.Wraps (field : String) : Node → Node → Prop
  | item {start part settled stop} : Wraps field (.array start [(part,settled)] (.closed stop)) part
  | member {start part members stop} (h : Sole field part members) :
      Wraps field (.object start members (.closed stop)) part

/-- A text and a part of it inside several records, one around the other. -/
inductive Node.Within : List String → Node → Node → Prop
  | here {node} : Within [] node node
  | inside {field fields node inner part} (wraps : node.Wraps field inner)
      (h : inner.Within fields part) : Within (field :: fields) node part

namespace Slots
variable {members : List (Key × Node × ℕ)}

/-- The only field of a record, read from a text. -/
abbrev only (field : String) (d : Decoder α) : Slots Cell α := .field field d.cell .fault

lemma lookup_checks_only {name : String} (h : name ≠ field) :
    (only field d).checks.lookup name = none := Entries.lookup_cons_of_ne h

/-- Once the field was seen, all further members have to be passed over. -/
lemma checkText_seen : (only field d).checkText depth [field] members = .ok () ↔
    ∀ m ∈ members, Passed field m := by
  induction members with
  | nil => simp [checkText]
  | cons m rest ih =>
    obtain ⟨key,node,settled⟩ := m
    rw [checkText, List.forall_mem_cons, ← ih]
    cases hkey : key.name with
    | error fault => simp [Passed, hkey]
    | ok name =>
      by_cases hname : name = field
      · subst hname
        simp [Passed, hkey, Slots.field]
      · simp only [lookup_checks_only hname]
        cases hskipped : node.skipped <;> simp [Passed, hkey, hname, hskipped]

variable {key : Key} {node : Node} {settled : ℕ} {name : String}

/-- What a record with one field takes from the members of an object. -/
def Takes (field : String) (d : Decoder α) (depth : ℕ) (members : List (Key × Node × ℕ)) (a : α) :
    Prop :=
  (only field d).checkText depth [] members = .ok () ∧
    (only field d).named (fun name => cellOf depth name members) = .ok a

lemma takes_cons_self (hkey : key.name = .ok field) :
    Takes field d depth ((key,node,settled) :: members) a ↔
      d.text depth node = .ok a ∧ ∀ m ∈ members, Passed field m := by
  have hcell : (only field d).named (fun n => cellOf depth n ((key,node,settled) :: members)) =
      d.cell ⟨depth,node,settled⟩ := named_field_of_some (by simp [cellOf, hkey])
  have hread (b : α) : d.cell ⟨depth,node,settled⟩ = .ok b ↔ d.text depth node = .ok b :=
    mapError_eq_ok_iff
  have hseen : (only field d).checkText depth [field] members = .ok () ↔ _ := checkText_seen
  rw [Takes, hcell, hread, ← hseen, checkText]
  simp only [hkey, Slots.field, List.lookup_cons_self, List.contains_nil]
  constructor
  · rintro ⟨hcheck,ha⟩
    rw [(hread a).mpr ha] at hcheck
    exact ⟨ha,hcheck⟩
  · rintro ⟨ha,hrest⟩
    rw [(hread a).mpr ha]
    exact ⟨hrest,ha⟩

lemma takes_cons_of_ne (hkey : key.name = .ok name) (hname : name ≠ field) :
    Takes field d depth ((key,node,settled) :: members) a ↔
      node.skipped = .ok () ∧ Takes field d depth members a := by
  have hcell : (only field d).named (fun n => cellOf depth n ((key,node,settled) :: members)) =
      (only field d).named fun n => cellOf depth n members := by
    simp only [Slots.field, cellOf, hkey, if_neg hname]
  rw [Takes, Takes, hcell, checkText, ← and_assoc]
  simp only [hkey, lookup_checks_only hname]
  cases node.skipped <;> simp

/-- The field is taken from the one member of its name, with the others passed over. -/
lemma takes_iff : Takes field d depth members a ↔
    ∃ part, Sole field part members ∧ d.text depth part = .ok a := by
  induction members with
  | nil =>
    constructor
    · rintro ⟨-,h⟩
      cases h
    · rintro ⟨part,h,-⟩
      cases h
  | cons m members ih =>
    obtain ⟨key,node,settled⟩ := m
    constructor
    · intro h
      cases hkey : key.name with
      | error fault =>
        have hcheck := h.1
        simp [checkText, hkey] at hcheck
      | ok name =>
        by_cases hname : name = field
        · subst hname
          obtain ⟨hread,hothers⟩ := (takes_cons_self hkey).mp h
          exact ⟨node,.found hkey hothers,hread⟩
        · obtain ⟨hskipped,hrest⟩ := (takes_cons_of_ne hkey hname).mp h
          obtain ⟨part,hpart,hread⟩ := ih.mp hrest
          exact ⟨part,.later ⟨name,hkey,hname,hskipped⟩ hpart,hread⟩
    · rintro ⟨part,h,hread⟩
      cases h with
      | found named others => exact (takes_cons_self named).mpr ⟨hread,others⟩
      | later passed hpart =>
        obtain ⟨name,hkey,hname,hskipped⟩ := passed
        exact (takes_cons_of_ne hkey hname).mpr ⟨hskipped,ih.mpr ⟨part,hpart,hread⟩⟩

end Slots

namespace Decoder

lemma text_record_array_iff {start : ℕ} {items : List (Node × ℕ)} {ending : Ending}
    (h : 1 < depth) :
    (Decoder.record record (.required field d)).text depth (.array start items ending) = .ok a ↔
      ∃ part, (Node.array start items ending).Wraps field part ∧
        d.text (depth - 1) part = .ok a := by
  have hread (part : Node) (settled : ℕ) : d.cell ⟨depth - 1,part,settled⟩ = .ok a ↔
      d.text (depth - 1) part = .ok a := mapError_eq_ok_iff
  simp only [Decoder.record, if_neg (not_le.mpr h)]
  constructor
  · intro hrecord
    obtain ⟨⟨b,i,rest⟩,hlisted,hrecord⟩ := bind_eq_ok_iff.mp hrecord
    obtain ⟨⟨⟩,hafter,hrecord⟩ := bind_eq_ok_iff.mp hrecord
    cases hrecord
    cases items with
    | nil =>
      obtain ⟨c,hc,-⟩ := map_eq_ok_iff.mp hlisted
      simp only [Slots.whenExhausted] at hc
      split at hc <;> simp_all
    | cons item items =>
      obtain ⟨part,settled⟩ := item
      obtain ⟨c,hc,he⟩ := map_eq_ok_iff.mp hlisted
      cases he
      cases items with
      | nil =>
        cases ending with
        | closed stop => exact ⟨part,.item,(hread part settled).mp hc⟩
        | broken breach met => cases met <;> cases hafter
      | cons item' items =>
        obtain ⟨part',settled'⟩ := item'
        simp only [List.map_cons, Slots.afterItems] at hafter
        split at hafter <;> cases hafter
  · rintro ⟨part,hwraps,ha⟩
    cases hwraps with
    | @item _ _ settled stop =>
      refine bind_eq_ok_iff.mpr ⟨(a,1,[]),?_,rfl⟩
      exact map_eq_ok_iff.mpr ⟨a,(hread part settled).mpr ha,rfl⟩

lemma text_record_object_iff {start : ℕ} {members : List (Key × Node × ℕ)} {ending : Ending}
    (h : 1 < depth) :
    (Decoder.record record (.required field d)).text depth (.object start members ending) = .ok a ↔
      ∃ part, (Node.object start members ending).Wraps field part ∧
        d.text (depth - 1) part = .ok a := by
  simp only [Decoder.record, if_neg (not_le.mpr h)]
  constructor
  · intro hrecord
    obtain ⟨⟨⟩,hcheck,hrecord⟩ := bind_eq_ok_iff.mp hrecord
    cases ending with
    | broken breach met => cases hrecord
    | closed stop =>
      obtain ⟨part,hpart,ha⟩ := Slots.takes_iff.mp ⟨hcheck,mapError_eq_ok_iff.mp hrecord⟩
      exact ⟨part,.member hpart,ha⟩
  · rintro ⟨part,hwraps,ha⟩
    cases hwraps with
    | member hpart =>
      obtain ⟨hcheck,hnamed⟩ := Slots.takes_iff.mpr ⟨part,hpart,ha⟩
      exact bind_eq_ok_iff.mpr ⟨(),hcheck,mapError_eq_ok_iff.mpr hnamed⟩

/-- A record with one field is read from a text exactly if the text wraps a part that is read for
the field. -/
theorem text_record_required_iff (h : 1 < depth) {node : Node} :
    (Decoder.record record (.required field d)).text depth node = .ok a ↔
      ∃ part, node.Wraps field part ∧ d.text (depth - 1) part = .ok a := by
  cases node with
  | array start items ending => exact text_record_array_iff h
  | object start members ending => exact text_record_object_iff h
  | _ =>
    constructor
    · intro hrecord
      cases hrecord
    · rintro ⟨part,hwraps,-⟩
      cases hwraps

/-- What stands inside records with one field each, given by their names and fields from the
outermost on. -/
def inside : List (String × String) → Decoder α → Decoder α
  | [], d => d
  | (record,field) :: rest, d => .record record (.required field (inside rest d))

/-- What is read inside several records is read from the part of the text that stands there. -/
theorem text_inside_iff {records : List (String × String)} (h : records.length < depth)
    {node : Node} : (inside records d).text depth node = .ok a ↔
      ∃ part, node.Within (records.map Prod.snd) part ∧
        d.text (depth - records.length) part = .ok a := by
  induction records generalizing depth node with
  | nil =>
    constructor
    · intro hread
      exact ⟨node,.here,hread⟩
    · rintro ⟨part,hpart,hread⟩
      cases hpart
      exact hread
  | cons names rest ih =>
    obtain ⟨record,field⟩ := names
    rw [List.length_cons] at h
    have hdepth : depth - 1 - rest.length = depth - (rest.length + 1) := by omega
    rw [inside, text_record_required_iff (by omega), List.map_cons, List.length_cons, ← hdepth]
    constructor
    · rintro ⟨inner,hwraps,hinner⟩
      obtain ⟨part,hpart,hread⟩ := (ih (by omega)).mp hinner
      exact ⟨part,.inside hwraps hpart,hread⟩
    · rintro ⟨part,hpart,hread⟩
      cases hpart with
      | inside hwraps hinner => exact ⟨_,hwraps,(ih (by omega)).mpr ⟨part,hinner,hread⟩⟩

end Decoder
end Checkout.Json
