import Checkout.Proofs.Json.Nodes
import Checkout.Proofs.Json.Normal

/-! What can come out of reading a record. Whatever form it is written in, each field is given by
its own reader or is the value for its absence, so what holds of everything that is read carries
over to the fields. A raw value that was read from a text is in normal form. -/
namespace Checkout.Json
variable {σ α β : Type} {P : σ → Prop}

/-- Fields give what has `Q` whenever all that they can read has `P`, and what they leave has it
too. -/
structure Slots.Yields (P : σ → Prop) (s : Slots σ α) (Q : α → Prop) : Prop where
  named : ∀ {get a}, (∀ name v, get name = some v → P v) → s.named get = .ok a → Q a
  listed : ∀ {shortage i items a i' rest}, (∀ v ∈ items, P v) →
    s.listed shortage i items = .ok (a,i',rest) → Q a ∧ ∀ v ∈ rest, P v

namespace Slots

/-- What a field gives was read, or stands for its absence. -/
lemma yields_field {name : String} {read : σ → Except Fault α} {absent : Absent α} {Q : α → Prop}
    (hread : ∀ v a, P v → read v = .ok a → Q a)
    (habsent : ∀ a, absent = .inObject a ∨ absent = .anywhere a → Q a) :
    (field name read absent).Yields P Q := by
  constructor
  · intro get a hget h
    simp only [field] at h
    split at h
    · next v hv => exact hread v a (hget name v hv) h
    · cases absent with
      | fault => cases h
      | inObject b =>
        cases h
        exact habsent _ (.inl rfl)
      | anywhere b =>
        cases h
        exact habsent _ (.inr rfl)
  · intro shortage i items a i' rest hitems h
    cases items with
    | cons v items =>
      obtain ⟨hv,hrest⟩ := List.forall_mem_cons.mp hitems
      obtain ⟨b,hb,he⟩ := map_eq_ok_iff.mp h
      cases he
      exact ⟨hread v _ hv hb,hrest⟩
    | nil =>
      obtain ⟨b,hb,he⟩ := map_eq_ok_iff.mp h
      cases he
      refine ⟨?_,hitems⟩
      simp only [whenExhausted] at hb
      split at hb
      · cases hb
      · cases hb
        exact habsent _ (.inr rfl)
      · cases hb

lemma Yields.map {s : Slots σ α} {Q : α → Prop} {Q' : β → Prop} (h : s.Yields P Q) {f : α → β}
    (hf : ∀ a, Q a → Q' (f a)) : (s.map f).Yields P Q' := by
  constructor
  · intro get b hget hb
    obtain ⟨a,ha,rfl⟩ := map_eq_ok_iff.mp hb
    exact hf a (h.named hget ha)
  · intro shortage i items b i' rest hitems hb
    obtain ⟨⟨a,rest'⟩,ha,he⟩ := map_eq_ok_iff.mp hb
    cases he
    obtain ⟨hQ,hrest⟩ := h.listed hitems ha
    exact ⟨hf a hQ,hrest⟩

/-- What fields give in sequence, each of them gives on its own. -/
lemma Yields.seq {f : Slots σ (α → β)} {s : Slots σ α} {Q : α → Prop} {Q' : β → Prop}
    (hs : s.Yields P Q) (hf : f.Yields P fun g => ∀ a, Q a → Q' (g a)) :
    (f.seq s).Yields P Q' := by
  constructor
  · intro get b hget hb
    obtain ⟨g,hg,hb⟩ := bind_eq_ok_iff.mp hb
    obtain ⟨a,ha,hb⟩ := bind_eq_ok_iff.mp hb
    cases hb
    exact hf.named hget hg a (hs.named hget ha)
  · intro shortage i items b i' rest hitems hb
    obtain ⟨⟨g,i₁,items₁⟩,hg,hb⟩ := bind_eq_ok_iff.mp hb
    obtain ⟨⟨a,i₂,items₂⟩,ha,hb⟩ := bind_eq_ok_iff.mp hb
    cases hb
    obtain ⟨hQ',hitems₁⟩ := hf.listed hitems hg
    obtain ⟨hQ,hrest⟩ := hs.listed hitems₁ ha
    exact ⟨hQ' a hQ,hrest⟩

lemma depth_of_cellOf {depth : ℕ} {name : String} {members : List (Key × Node × ℕ)} {c : Cell}
    (h : cellOf depth name members = some c) : c.depth = depth := by
  fun_induction cellOf depth name members with
  | case1 => cases h
  | case2 =>
    cases h
    rfl
  | case3 _ _ _ _ _ _ _ ih => exact ih h
  | case4 _ _ _ _ _ _ ih => exact ih h

end Slots

/-- A record that is read from a text is given by its fields. -/
theorem Decoder.of_text_record {record : String} {s : Fields α} {P : Cell → Prop} {Q : α → Prop}
    {depth : ℕ} {node : Node} {a : α} (hs : s.text.Yields P Q)
    (hP : ∀ c : Cell, c.depth + 1 = depth → P c)
    (h : (Decoder.record record s).text depth node = .ok a) : Q a := by
  cases node with
  | array start items ending =>
    simp only [Decoder.record] at h
    split at h
    · cases h
    · obtain ⟨⟨b,i,rest⟩,hb,h⟩ := bind_eq_ok_iff.mp h
      obtain ⟨-,-,h⟩ := bind_eq_ok_iff.mp h
      cases h
      refine (hs.listed ?_ hb).1
      rintro c hc
      obtain ⟨item,-,rfl⟩ := List.mem_map.mp hc
      exact hP _ (by dsimp only; omega)
  | object start members ending =>
    simp only [Decoder.record] at h
    split at h
    · cases h
    · obtain ⟨-,-,h⟩ := bind_eq_ok_iff.mp h
      cases ending with
      | broken breach met => cases h
      | closed stop =>
        refine hs.named ?_ (mapError_eq_ok_iff.mp h)
        intro name c hc
        have hdepth := Slots.depth_of_cellOf hc
        exact hP _ (by omega)
  | null start stop => cases h
  | bool b start stop => cases h
  | number value start stop => cases h
  | string content start stop => cases h
  | broken ahead lead trailing breach => cases h

/-- The items of an array or the values of the members of an object. -/
def parts : Json → List Json
  | .array items => items
  | .object members => members.map Prod.snd
  | _ => []

/-- A record that is read from a value is given by its fields. -/
theorem Decoder.of_value_record {record : String} {s : Fields α} {P : Json → Prop} {Q : α → Prop}
    {j : Json} {a : α} (hs : s.value.Yields P Q) (hP : ∀ part ∈ j.parts, P part)
    (h : (Decoder.record record s).value j = .ok a) : Q a := by
  cases j with
  | array items =>
    obtain ⟨⟨b,i,rest⟩,hb,h⟩ := bind_eq_ok_iff.mp (mapError_eq_ok_iff.mp h)
    obtain ⟨-,-,h⟩ := bind_eq_ok_iff.mp h
    cases h
    exact (hs.listed hP hb).1
  | object members =>
    obtain ⟨-,-,h⟩ := bind_eq_ok_iff.mp (mapError_eq_ok_iff.mp h)
    refine hs.named ?_ h
    intro name v hv
    obtain ⟨front,back,hmembers,-⟩ := List.lookup_eq_some_iff.mp hv
    exact hP v (by simp [parts, hmembers])
  | null => cases h
  | bool b => cases h
  | number n => cases h
  | string s => cases h

/-- What a record with one field is read from holds a value of that field. -/
lemma Decoder.text_of_record_required {record field : String} {d : Decoder α} {depth : ℕ}
    {node : Node} {a : α}
    (h : (Decoder.record record (.required field d)).text depth node = .ok a) :
    ∃ depth node, d.text depth node = .ok a := by
  refine Decoder.of_text_record (P := fun _ => True)
    (Q := fun a => ∃ depth node, d.text depth node = .ok a) (Slots.yields_field ?_ ?_) (by simp) h
  · intro cell b _ hcell
    exact ⟨cell.depth,cell.node,mapError_eq_ok_iff.mp hcell⟩
  · rintro b (h | h)
    · cases h
    · cases h

/-- The value at the root of the bytes of a text. -/
def Node.ofBytes (bytes : List UInt8) : Node := (Document.ofSymbols (Symbol.ofBytes bytes)).root

lemma Decoder.text_root_of_fromBytes {d : Decoder α} {bytes : List UInt8} {a : α}
    (h : d.fromBytes bytes = .ok a) : d.text levels (Node.ofBytes bytes) = .ok a :=
  (readWith_eq_ok_iff.mp h).1

lemma Decoder.text_of_fromBytes {d : Decoder α} {bytes : List UInt8} {a : α}
    (h : d.fromBytes bytes = .ok a) : ∃ depth node, d.text depth node = .ok a :=
  ⟨_,_,text_root_of_fromBytes h⟩

/-- A raw value that a field may hold: not null, and in normal form. -/
def Kept (o : Option Json) : Prop := ∀ j, o = some j → j ≠ .null ∧ j.normal = j

/-- Null is read from a null only. -/
theorem Node.eq_null_of_read {depth : ℕ} {node : Node} (h : node.read depth = .ok .null) :
    ∃ start stop, node = .null start stop := by
  cases Node.spells_of_read h
  exact ⟨_,_,rfl⟩

/-- A raw value that a field may hold: not null, and with the property. -/
def Held (P : Json → Prop) (o : Option Json) : Prop := ∀ j, o = some j → j ≠ .null ∧ P j

namespace Fields
variable {P : Cell → Prop} {P' : Json → Prop}

/-- Fields give what has `Q` in both readings. -/
structure Yields (P : Cell → Prop) (P' : Json → Prop) (s : Fields α) (Q : α → Prop) : Prop where
  text : s.text.Yields P Q
  value : s.value.Yields P' Q

lemma Yields.map {s : Fields α} {Q : α → Prop} {Q' : β → Prop} (h : s.Yields P P' Q) {f : α → β}
    (hf : ∀ a, Q a → Q' (f a)) : (f <$> s).Yields P P' Q' :=
  ⟨h.text.map hf,h.value.map hf⟩

lemma Yields.seq {f : Fields (α → β)} {s : Fields α} {Q : α → Prop} {Q' : β → Prop}
    (hs : s.Yields P P' Q) (hf : f.Yields P P' fun g => ∀ a, Q a → Q' (g a)) :
    (f <*> s).Yields P P' Q' :=
  ⟨hs.text.seq hf.text,hs.value.seq hf.value⟩

lemma yields_true {name : String} {d : Decoder α} {absent : Absent α} :
    (field name d absent).Yields P P' fun _ => True :=
  ⟨Slots.yields_field (by simp) (by simp),Slots.yields_field (by simp) (by simp)⟩

/-- A raw value is read from a value, or is what a text stands for, and is none for null. -/
theorem yields_raw {name : String}
    (hread : ∀ c written, P c → c.node.read c.depth = .ok written → P' written.normal) :
    (Fields.optional name .any).Yields P P' (Held P') := by
  have habsent : ∀ o : Option Json, Absent.inObject none = .inObject o ∨
      Absent.inObject none = .anywhere o → Held P' o := by
    rintro o (h | h)
    · cases h
      intro j hj
      cases hj
    · cases h
  refine ⟨Slots.yields_field ?_ habsent,Slots.yields_field ?_ habsent⟩
  · intro c o hc ho j hj
    subst hj
    have ho := mapError_eq_ok_iff.mp ho
    simp only [Decoder.optional] at ho
    split at ho
    · cases ho
    · next hnull =>
      obtain ⟨j',hj',he⟩ := map_eq_ok_iff.mp ho
      obtain ⟨written,hwritten,rfl⟩ := map_eq_ok_iff.mp hj'
      cases he
      refine ⟨?_,hread c written hc hwritten⟩
      rw [Ne, normal_eq_null_iff]
      rintro rfl
      obtain ⟨start,stop,hnode⟩ := Node.eq_null_of_read hwritten
      exact hnull start stop hnode
  · intro v o hv ho j hj
    subst hj
    rcases Decoder.optional_eq_ok_iff.mp (mapError_eq_ok_iff.mp ho) with ⟨-,h⟩ | ⟨hnull,b,hb,h⟩
    · cases h
    · cases h
      cases hb
      exact ⟨hnull,hv⟩

end Fields
end Checkout.Json
