import Checkout.Json.Decoder
import Checkout.Proofs.Json.Normal

/-! Records read from the members of an object. A record is read exactly if each of its fields is,
and what one field needs depends on its own member alone; where no name is repeated nothing else has
to hold. -/
namespace Checkout

section Results
variable {ε ε' α β : Type}

@[simp] theorem bind_eq_ok_iff {x : Except ε α} {f : α → Except ε β} {b : β} :
    x >>= f = .ok b ↔ ∃ a, x = .ok a ∧ f a = .ok b := by
  cases x <;> simp [bind, Except.bind]

@[simp] theorem map_eq_ok_iff {x : Except ε α} {f : α → β} {b : β} :
    x.map f = .ok b ↔ ∃ a, x = .ok a ∧ f a = b := by
  cases x <;> simp [Except.map]

@[simp] theorem mapError_eq_ok_iff {x : Except ε α} {f : ε → ε'} {a : α} :
    x.mapError f = .ok a ↔ x = .ok a := by
  cases x <;> simp [Except.mapError]

theorem toOption_eq_some_iff {x : Except ε α} {a : α} : x.toOption = some a ↔ x = .ok a := by
  cases x <;> simp [Except.toOption]

/-- A result of which something is known is there. -/
lemma exists_eq_ok_of_map {x : Except ε α} {f : α → β} {b : β} (h : x.toOption.map f = some b) :
    ∃ a, x = .ok a ∧ f a = b := by
  obtain ⟨a,ha,hb⟩ := Option.map_eq_some_iff.mp h
  exact ⟨a,toOption_eq_some_iff.mp ha,hb⟩

lemma exists_eq_ok_of_isSome {x : Except ε α} (h : x.toOption.isSome = true) : ∃ a, x = .ok a := by
  obtain ⟨a,ha⟩ := Option.isSome_iff_exists.mp h
  exact ⟨a,toOption_eq_some_iff.mp ha⟩

end Results

namespace Json
variable {α β : Type} {get : String → Option Json}

/-- What some fields are in an object with the given members. -/
def Fields.Reads (s : Fields α) (get : String → Option Json) (a : α) : Prop :=
  s.value.named get = .ok a

@[simp] theorem Fields.reads_map_iff {f : α → β} {s : Fields α} {b : β} :
    (f <$> s).Reads get b ↔ ∃ a, s.Reads get a ∧ f a = b := map_eq_ok_iff

@[simp] theorem Fields.reads_seq_iff {f : Fields (α → β)} {s : Fields α} {b : β} :
    (f <*> s).Reads get b ↔ ∃ g a, f.Reads get g ∧ s.Reads get a ∧ g a = b := by
  change (do let g ← f.value.named get; let a ← s.value.named get; return g a) = Except.ok b ↔ _
  simp [Fields.Reads, pure, Except.pure]

/-- A field that has to be there. -/
theorem Fields.reads_required_iff {name : String} {d : Decoder α} {a : α} :
    (Fields.required name d).Reads get a ↔ ∃ j, get name = some j ∧ d.value j = .ok a := by
  simp only [Fields.Reads, Fields.required, Fields.field, Slots.field]
  cases get name with
  | none => simp [Slots.whenAbsent]
  | some j => simp [Decoder.member]

/-- Only a text is read as a text. -/
theorem Decoder.string_eq_ok_iff {j : Json} {s : String} :
    Decoder.string.value j = .ok s ↔ j = .string s := by
  cases j <;> simp [Decoder.string]

/-- An object holds a record if no field is there twice and every field can be read. -/
theorem Decoder.record_object_eq_ok_iff {record : String} {s : Fields α}
    {members : List (String × Json)} {a : α} :
    (Decoder.record record s).value (.object members) = .ok a ↔
      s.value.checkMembers [] members = .ok () ∧ s.Reads (fun name => members.lookup name) a := by
  change ((s.value.ofMembers members).mapError Fault.problem) = Except.ok a ↔ _
  rw [mapError_eq_ok_iff, Slots.ofMembers, bind_eq_ok_iff]
  exact ⟨fun ⟨_,hc,hr⟩ => ⟨hc,hr⟩,fun ⟨hc,hr⟩ => ⟨(),hc,hr⟩⟩

/-- A value that is null, or of the type. -/
theorem Decoder.optional_eq_ok_iff {d : Decoder α} {j : Json} {a : Option α} :
    d.optional.value j = .ok a ↔
      j = .null ∧ a = none ∨ j ≠ .null ∧ ∃ b, d.value j = .ok b ∧ some b = a := by
  cases j
  case null => simp [Decoder.optional, eq_comm]
  all_goals simp [Decoder.optional]

/-- A field that is there. -/
lemma Fields.reads_field_of_some {name : String} {d : Decoder α} {absent : Absent α} {j : Json} {a : α}
    (h : get name = some j) : (Fields.field name d absent).Reads get a ↔ d.value j = .ok a := by
  simp [Fields.Reads, Fields.field, Slots.field, h, Decoder.member]

namespace Slots
variable {σ : Type} {get : String → Option σ}

lemma named_field_of_some {name : String} {read : σ → Except Fault α} {absent : Absent α} {v : σ}
    (h : get name = some v) : (field name read absent).named get = read v := by
  simp [field, h]

/-- A field that has to be there. -/
lemma named_required_iff {name : String} {read : σ → Except Fault α} {a : α} :
    (field name read .fault).named get = .ok a ↔ ∃ v, get name = some v ∧ read v = .ok a := by
  simp only [field]
  cases get name with
  | none => simp [whenAbsent]
  | some v => simp

lemma named_map {s : Slots σ α} {a : α} (h : s.named get = .ok a) (f : α → β) :
    (s.map f).named get = .ok (f a) :=
  map_eq_ok_iff.mpr ⟨a,h,rfl⟩

lemma named_seq {f : Slots σ (α → β)} {s : Slots σ α} {g : α → β} {a : α}
    (hf : f.named get = .ok g) (hs : s.named get = .ok a) : (f.seq s).named get = .ok (g a) :=
  bind_eq_ok_iff.mpr ⟨g,hf,bind_eq_ok_iff.mpr ⟨a,hs,rfl⟩⟩

lemma named_map_iff {f : α → β} {s : Slots σ α} {b : β} :
    (f <$> s).named get = .ok b ↔ ∃ a, s.named get = .ok a ∧ f a = b := map_eq_ok_iff

lemma named_seq_iff {f : Slots σ (α → β)} {s : Slots σ α} {b : β} :
    (f <*> s).named get = .ok b ↔ ∃ g a, f.named get = .ok g ∧ s.named get = .ok a ∧ g a = b := by
  constructor
  · intro h
    obtain ⟨g,hg,h⟩ := bind_eq_ok_iff.mp h
    obtain ⟨a,ha,h⟩ := bind_eq_ok_iff.mp h
    cases h
    exact ⟨g,a,hg,ha,rfl⟩
  · rintro ⟨g,a,hg,ha,rfl⟩
    exact named_seq hg ha

/-- The members that make up a record pass the checks of their fields. -/
def Checked (s : Slots σ α) : Prop :=
  ∀ get a, s.named get = .ok a → ∀ c ∈ s.checks, ∀ v, get c.1 = some v → c.2 v = .ok ()

lemma checked_field {name : String} {read : σ → Except Fault α} {absent : Absent α} :
    (field name read absent).Checked := by
  intro get a h c hc v hv
  cases List.mem_singleton.mp hc
  rw [named_field_of_some hv] at h
  simp [h]

lemma Checked.map {s : Slots σ α} (h : s.Checked) (f : α → β) : (s.map f).Checked := by
  intro get b hb
  obtain ⟨a,ha,-⟩ := map_eq_ok_iff.mp hb
  exact h get a ha

lemma Checked.seq {f : Slots σ (α → β)} {s : Slots σ α} (hf : f.Checked) (hs : s.Checked) :
    (f.seq s).Checked := by
  intro get b hb c hc
  obtain ⟨g,hg,hb⟩ := bind_eq_ok_iff.mp hb
  obtain ⟨a,ha,-⟩ := bind_eq_ok_iff.mp hb
  rcases List.mem_append.mp hc with hc | hc
  · exact hf get g hg c hc
  · exact hs get a ha c hc

/-- Members of different names that pass their checks are no fault. -/
lemma checkMembers_eq_ok {s : Slots σ α} {members : List (String × σ)}
    {seen : List String} (hnodup : (members.map Prod.fst).Nodup)
    (hseen : ∀ m ∈ members, m.1 ∉ seen)
    (hpass : ∀ m ∈ members, ∀ check, s.checks.lookup m.1 = some check → check m.2 = .ok ()) :
    s.checkMembers seen members = .ok () := by
  induction members generalizing seen with
  | nil => rfl
  | cons m members ih =>
    obtain ⟨name,a⟩ := m
    obtain ⟨hname,hrest⟩ := List.nodup_cons.mp hnodup
    have hpass' := fun m hm => hpass m (List.mem_cons_of_mem _ hm)
    have hseen' := fun m hm => hseen m (List.mem_cons_of_mem _ hm)
    rw [checkMembers]
    split
    · exact ih hrest hseen' hpass'
    · next check hcheck =>
      have hnew : seen.contains name = false := by
        simpa using hseen (name,a) (by simp)
      simp only [hnew, hpass (name,a) (by simp) check hcheck]
      refine ih hrest ?_ hpass'
      intro m hm hmem
      rcases List.mem_cons.mp hmem with heq | hmem
      · exact hname (heq ▸ List.mem_map.mpr ⟨m,hm,rfl⟩)
      · exact hseen' m hm hmem

/-- Members of different names hold a record exactly if every field can be read. -/
theorem ofMembers_of_nodup {s : Slots σ α} (hs : s.Checked) {members : List (String × σ)}
    (hnodup : (members.map Prod.fst).Nodup) {a : α} :
    s.ofMembers members = .ok a ↔ s.named (fun name => members.lookup name) = .ok a := by
  rw [ofMembers, bind_eq_ok_iff]
  refine ⟨fun ⟨_,_,h⟩ => h,fun h => ⟨(),?_,h⟩⟩
  refine checkMembers_eq_ok hnodup (by simp) ?_
  intro m hm check hcheck
  obtain ⟨front,back,hchecks,-⟩ := List.lookup_eq_some_iff.mp hcheck
  refine hs _ a h (m.1,check) (by simp [hchecks]) m.2 ?_
  exact (Entries.lookup_eq_some_iff_mem hnodup).mpr hm

end Slots

/-- The members that make up a record pass the checks of their fields. -/
def Fields.Checked (s : Fields α) : Prop := s.value.Checked

lemma Fields.checked_field {name : String} {d : Decoder α} {absent : Absent α} :
    (Fields.field name d absent).Checked := Slots.checked_field

lemma Fields.Checked.map {f : α → β} {s : Fields α} (h : s.Checked) : (f <$> s).Checked :=
  Slots.Checked.map h f

lemma Fields.Checked.seq {f : Fields (α → β)} {s : Fields α} (hf : f.Checked) (hs : s.Checked) :
    (f <*> s).Checked := Slots.Checked.seq hf hs

/-- An object with different names holds a record exactly if every field can be read. -/
theorem Decoder.record_object_of_nodup {record : String} {s : Fields α} (hs : s.Checked)
    {members : List (String × Json)} (hnodup : (members.map Prod.fst).Nodup) {a : α} :
    (Decoder.record record s).value (.object members) = .ok a ↔
      s.Reads (fun name => members.lookup name) a :=
  mapError_eq_ok_iff.trans (Slots.ofMembers_of_nodup hs hnodup)

/-- A record with different names is read from what its members are written as. -/
theorem Decoder.record_written {record : String} {s : Fields α} (hs : s.Checked)
    {members : List (String × Json)} (hnodup : (members.map Prod.fst).Nodup) {a : α}
    (h : s.Reads (fun name => (members.lookup name).map normal) a) :
    (Decoder.record record s).value (Json.object members).normal = .ok a := by
  have hget : (fun name => (Json.object members).normal.get? name) =
      fun name => (members.lookup name).map normal := funext (get?_normal_object hnodup)
  rw [normal_object] at hget ⊢
  refine (record_object_of_nodup hs (ascending_arrange _).nodup).mpr ?_
  exact hget ▸ h

/-- A field is read from the member that is written for it. -/
lemma Fields.reads_written {members : List (String × Json)} {name : String} {d : Decoder α}
    {absent : Absent α} {j : Json} {a : α} (hmember : members.lookup name = some j)
    (h : d.value j.normal = .ok a) :
    (Fields.field name d absent).Reads (fun name => (members.lookup name).map normal) a := by
  refine (reads_field_of_some (j := j.normal) ?_).mpr h
  rw [hmember, Option.map_some]

lemma Fields.Reads.map {s : Fields α} {a : α} (h : s.Reads get a) (f : α → β) :
    (f <$> s).Reads get (f a) := Slots.named_map h f

lemma Fields.Reads.seq {f : Fields (α → β)} {s : Fields α} {g : α → β} {a : α} (hf : f.Reads get g)
    (hs : s.Reads get a) : (f <*> s).Reads get (g a) := Slots.named_seq hf hs

end Json
end Checkout
