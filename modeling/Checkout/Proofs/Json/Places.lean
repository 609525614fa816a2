import Checkout.Proofs.Json.FromText

/-! Where the fields of a record stand in a text: each is the member of its name, or the item at its
place if the record is written as an array. What a decoder gives for a field was read there. -/
namespace Checkout.Json
variable {σ α β : Type}

/-- What a record in a text has for a field: the member of its name, or the item at its place. -/
def Node.field? (name : String) (place : ℕ) : Node → Option Node
  | .array _ items _ => items[place]?.map Prod.fst
  | .object _ members _ => (Slots.cellOf 0 name members).map Cell.node
  | _ => none

namespace Slots

/-- Fields take the items of an array in their order. -/
def Walks (s : Slots σ α) : Prop :=
  ∀ ⦃shortage i items a i' rest⦄, s.listed shortage i items = .ok (a,i',rest) →
    rest = items.drop s.count

/-- Whatever the fields give is related to the value of a name, or at a place. -/
def Finds (s : Slots σ α) (name : String) (place : ℕ) (R : σ → α → Prop) : Prop :=
  (∀ ⦃get a v⦄, s.named get = .ok a → get name = some v → R v a) ∧
    ∀ ⦃shortage i items a rest v⦄, s.listed shortage i items = .ok (a,rest) →
      items[place]? = some v → R v a

lemma walks_field {name : String} {read : σ → Except Fault α} {absent : Absent α} :
    (field name read absent).Walks := by
  intro shortage i items a i' rest h
  cases items with
  | nil =>
    obtain ⟨b,-,he⟩ := map_eq_ok_iff.mp h
    cases he
    rfl
  | cons v items =>
    obtain ⟨b,-,he⟩ := map_eq_ok_iff.mp h
    cases he
    rfl

lemma Walks.map {s : Slots σ α} (h : s.Walks) (f : α → β) : (s.map f).Walks := by
  intro shortage i items b i' rest hb
  obtain ⟨⟨a,i'',rest'⟩,ha,he⟩ := map_eq_ok_iff.mp hb
  cases he
  exact h ha

lemma Walks.seq {f : Slots σ (α → β)} {s : Slots σ α} (hf : f.Walks) (hs : s.Walks) :
    (f.seq s).Walks := by
  intro shortage i items b i' rest hb
  obtain ⟨⟨g,i₁,items₁⟩,hg,hb⟩ := bind_eq_ok_iff.mp hb
  obtain ⟨⟨a,i₂,items₂⟩,ha,hb⟩ := bind_eq_ok_iff.mp hb
  cases hb
  rw [hs ha, hf hg, List.drop_drop, count_seq]

lemma Finds.mono {s : Slots σ α} {name : String} {place : ℕ} {R R' : σ → α → Prop}
    (h : s.Finds name place R) (hle : ∀ v a, R v a → R' v a) : s.Finds name place R' :=
  ⟨fun _ _ _ ha hv => hle _ _ (h.1 ha hv),fun _ _ _ _ _ _ ha hv => hle _ _ (h.2 ha hv)⟩

lemma finds_field {name : String} {read : σ → Except Fault α} {absent : Absent α} :
    (field name read absent).Finds name 0 fun v a => read v = .ok a := by
  constructor
  · intro get a v h hv
    simpa only [field, hv] using h
  · intro shortage i items a rest v h hv
    cases items with
    | nil => cases hv
    | cons v' items =>
      cases hv
      obtain ⟨b,hb,he⟩ := map_eq_ok_iff.mp h
      cases he
      exact hb

/-- Fields that come later leave a field where it is. -/
lemma Finds.seq_left {f : Slots σ (α → β)} {name : String} {place : ℕ} {R : σ → (α → β) → Prop}
    (h : f.Finds name place R) (s : Slots σ α) :
    (f.seq s).Finds name place fun v b => ∃ g a, R v g ∧ g a = b := by
  constructor
  · intro get b v hb hv
    obtain ⟨g,hg,hb⟩ := bind_eq_ok_iff.mp hb
    obtain ⟨a,-,hb⟩ := bind_eq_ok_iff.mp hb
    cases hb
    exact ⟨g,a,h.1 hg hv,rfl⟩
  · intro shortage i items b rest v hb hv
    obtain ⟨⟨g,i',items'⟩,hg,hb⟩ := bind_eq_ok_iff.mp hb
    obtain ⟨⟨a,rest'⟩,-,hb⟩ := bind_eq_ok_iff.mp hb
    cases hb
    exact ⟨g,a,h.2 hg hv,rfl⟩

/-- Fields that come earlier move a field back by their count. -/
lemma Finds.seq_right {f : Slots σ (α → β)} {Q : (α → β) → Prop} (hf : f.Walks)
    (hQ : f.Yields (fun _ => True) Q) {s : Slots σ α} {name : String} {place : ℕ}
    {R : σ → α → Prop} (h : s.Finds name place R) :
    (f.seq s).Finds name (f.count + place) fun v b => ∃ g a, Q g ∧ R v a ∧ g a = b := by
  constructor
  · intro get b v hb hv
    obtain ⟨g,hg,hb⟩ := bind_eq_ok_iff.mp hb
    obtain ⟨a,ha,hb⟩ := bind_eq_ok_iff.mp hb
    cases hb
    exact ⟨g,a,hQ.named (by simp) hg,h.1 ha hv,rfl⟩
  · intro shortage i items b rest v hb hv
    obtain ⟨⟨g,i',items'⟩,hg,hb⟩ := bind_eq_ok_iff.mp hb
    obtain ⟨⟨a,rest'⟩,ha,hb⟩ := bind_eq_ok_iff.mp hb
    cases hb
    rw [← List.getElem?_drop, ← hf hg] at hv
    exact ⟨g,a,(hQ.listed (by simp) hg).1,h.2 ha hv,rfl⟩

lemma cellOf_eq (depth : ℕ) (name : String) (members : List (Key × Node × ℕ)) :
    cellOf depth name members = (cellOf 0 name members).map ({ · with depth := depth }) := by
  fun_induction cellOf 0 name members with
  | case1 => rfl
  | case2 => simp_all [cellOf]
  | case3 => simp_all [cellOf]
  | case4 => simp_all [cellOf]

end Slots

/-- What a record gives is related to what stands in the text for a field. -/
theorem Decoder.exists_cell_of_field {record name : String} {s : Fields α} {place : ℕ}
    {R : Cell → α → Prop} (hs : s.text.Finds name place R) {depth : ℕ} {node part : Node} {a : α}
    (h : (Decoder.record record s).text depth node = .ok a) (hpart : node.field? name place = some part) :
    ∃ cell : Cell, cell.node = part ∧ R cell a := by
  cases node with
  | array start items ending =>
    simp only [Decoder.record] at h
    split at h
    · cases h
    · obtain ⟨⟨b,i,rest⟩,hb,h⟩ := bind_eq_ok_iff.mp h
      obtain ⟨-,-,h⟩ := bind_eq_ok_iff.mp h
      cases h
      obtain ⟨⟨part',settled⟩,hitem,rfl⟩ := Option.map_eq_some_iff.mp hpart
      refine ⟨⟨depth - 1,part',settled⟩,rfl,hs.2 hb ?_⟩
      simp [hitem]
  | object start members ending =>
    simp only [Decoder.record] at h
    split at h
    · cases h
    · obtain ⟨-,-,h⟩ := bind_eq_ok_iff.mp h
      cases ending with
      | broken breach met => cases h
      | closed stop =>
        obtain ⟨cell,hcell,rfl⟩ := Option.map_eq_some_iff.mp hpart
        refine ⟨{ cell with depth := depth - 1 },rfl,hs.1 (mapError_eq_ok_iff.mp h) ?_⟩
        rw [Slots.cellOf_eq, hcell]
        rfl
  | null start stop => cases h
  | bool b start stop => cases h
  | number value start stop => cases h
  | string content start stop => cases h
  | broken ahead lead trailing breach => cases h

/-- What a record with one field gives was read where that field stands. -/
lemma Decoder.text_of_field {record field : String} {d : Decoder α} {depth : ℕ} {node part : Node}
    {a : α} (h : (Decoder.record record (.required field d)).text depth node = .ok a)
    (hpart : node.field? field 0 = some part) : ∃ depth, d.text depth part = .ok a := by
  obtain ⟨cell,rfl,hcell⟩ := exists_cell_of_field Slots.finds_field h hpart
  exact ⟨cell.depth,mapError_eq_ok_iff.mp hcell⟩

end Checkout.Json
