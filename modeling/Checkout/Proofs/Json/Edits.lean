import Checkout.Proofs.Json.Locality
import Checkout.Proofs.Json.Survival
import Checkout.Proofs.Text.Bytes

/-! Edits of a value: a member is put into an object or left out of it, or what stands behind a chain
of names is changed. An edit is found where it was made and nowhere else, and a record does not notice
the edit of a field that reads the new value as the old one. What can be read back from its text
still can after the edit. -/
namespace Checkout.Json

open Checkout.Entries (alter lookup_alter_of_ne lookup_filter_fst pairwise_alter)

/-- An object with a value under a name. Other values have no members and stay as they are. -/
def put (j : Json) (name : String) (value : Json) : Json :=
  match j with
  | .object members => .object (alter name value (fun _ => value) members)
  | j => j

/-- An object without its member of a name. -/
def drop (name : String) : Json → Json
  | .object members => .object (members.filter fun m => m.1 != name)
  | j => j

/-- A value with what stands behind a chain of names changed, if there is anything. -/
def change (f : Json → Json) : List String → Json → Json
  | [], j => f j
  | name :: rest, j =>
    match j.get? name with
    | some value => j.put name (value.change f rest)
    | none => j

/-- Chains of names that part before either of them ends. -/
inductive Apart : List String → List String → Prop
  | here {name key : String} {rest rest' : List String} (h : key ≠ name) :
    Apart (name :: rest) (key :: rest')
  | later {name : String} {rest rest' : List String} (h : Apart rest rest') :
    Apart (name :: rest) (name :: rest')

section Lookup
variable {name key : String} {names path : List String} {value j : Json} {f : Json → Json}

lemma exists_object_of_get? (h : j.get? name = some value) :
    ∃ members, j = .object members ∧ members.lookup name = some value := by
  cases j with
  | object members => exact ⟨members,rfl,h⟩
  | _ => cases h

lemma lookup_put (name : String) (value : Json) (members : List (String × Json)) :
    (alter name value (fun _ => value) members).lookup name = some value := by
  induction members with
  | nil => exact List.lookup_cons_self
  | cons m members ih =>
    obtain ⟨k,v⟩ := m
    simp only [alter]
    split
    · exact List.lookup_cons_self
    · split
      · next heq =>
        subst heq
        exact List.lookup_cons_self
      · next hne => rwa [Entries.lookup_cons_of_ne hne]

@[simp] lemma get?_put_self (members : List (String × Json)) :
    ((object members).put name value).get? name = some value := lookup_put name value members

lemma get?_put_of_ne (h : key ≠ name) : (j.put name value).get? key = j.get? key := by
  cases j with
  | object members => exact lookup_alter_of_ne h
  | _ => rfl

@[simp] lemma get?_drop_self : (j.drop name).get? name = none := by
  cases j with
  | object members =>
    refine (lookup_filter_fst (· != name) members name).trans ?_
    simp
  | _ => rfl

lemma get?_drop_of_ne (h : key ≠ name) : (j.drop name).get? key = j.get? key := by
  cases j with
  | object members =>
    exact (lookup_filter_fst (· != name) members key).trans (if_pos (bne_iff_ne.mpr h))
  | _ => rfl

lemma change_cons (h : j.get? name = some value) (rest : List String) :
    j.change f (name :: rest) = j.put name (value.change f rest) := by
  rw [change, h]

lemma get?_change_self (h : j.get? name = some value) (rest : List String) :
    (j.change f (name :: rest)).get? name = some (value.change f rest) := by
  obtain ⟨members,rfl,-⟩ := exists_object_of_get? h
  rw [change_cons h, get?_put_self]

/-- What was changed is found behind its names. -/
theorem path?_change_self (h : j.path? names = some value) :
    (j.change f names).path? names = some (f value) := by
  induction names generalizing j with
  | nil =>
    cases h
    rfl
  | cons name rest ih =>
    obtain ⟨inner,hinner,hrest⟩ := Option.bind_eq_some_iff.mp h
    rw [path?_cons, get?_change_self hinner]
    exact ih hrest

/-- Nothing is changed behind names that part from those of the change. -/
theorem path?_change_of_apart (h : Apart names path) :
    (j.change f names).path? path = j.path? path := by
  induction h generalizing j with
  | @here name key rest rest' hne =>
    rw [change, path?_cons, path?_cons]
    split
    · rw [get?_put_of_ne hne]
    · rfl
  | @later name rest rest' _ ih =>
    cases hinner : j.get? name with
    | none => rw [change, hinner]
    | some inner =>
      rw [path?_cons, path?_cons, get?_change_self hinner, hinner]
      exact ih

lemma get?_change_of_ne (h : key ≠ name) (rest : List String) :
    (j.change f (name :: rest)).get? key = j.get? key := by
  rw [← path?_singleton, ← path?_singleton]
  exact path?_change_of_apart (.here h)

end Lookup

namespace Slots
variable {σ α β : Type} {s : Slots σ α} {name : String} {v v' : σ}

/-- Fields that read one value under a name as another. -/
structure Equates (s : Slots σ α) (name : String) (v v' : σ) : Prop where
  check : ∀ check, s.checks.lookup name = some check → check v = check v'
  named : ∀ ⦃get get' : String → Option σ⦄, get name = some v → get' name = some v' →
    (∀ key, key ≠ name → get key = get' key) → s.named get = s.named get'

lemma equates_field {read : σ → Except Fault α} {absent : Absent α} (h : read v = read v') :
    (field name read absent).Equates name v v' where
  check check hcheck := by
    cases (List.lookup_cons_self ..).symm.trans hcheck
    exact congrArg (Except.map _) h
  named get get' hv hv' _ := by rw [named_field_of_some hv, named_field_of_some hv', h]

lemma equates_field_of_ne {key : String} {read : σ → Except Fault α} {absent : Absent α}
    (h : key ≠ name) : (field key read absent).Equates name v v' where
  check check hcheck := by
    have hnone : (field key read absent).checks.lookup name = none :=
      Entries.lookup_cons_of_ne h.symm
    cases hnone.symm.trans hcheck
  named get get' _ _ hsame := by simp only [field, hsame key h]

lemma Equates.map (h : s.Equates name v v') (f : α → β) : (s.map f).Equates name v v' where
  check := h.check
  named _ _ hv hv' hsame := congrArg (Except.map f) (h.named hv hv' hsame)

lemma Equates.seq {f : Slots σ (α → β)} (hf : f.Equates name v v') (hs : s.Equates name v v') :
    (f.seq s).Equates name v v' where
  check check hcheck := by
    have happend : (f.seq s).checks.lookup name =
        (f.checks.lookup name).or (s.checks.lookup name) := List.lookup_append
    rw [happend, Option.or_eq_some_iff] at hcheck
    rcases hcheck with h | ⟨-,h⟩
    · exact hf.check check h
    · exact hs.check check h
  named _ _ hv hv' hsame := by
    simp only [Slots.seq, hf.named hv hv' hsame, hs.named hv hv' hsame]

/-- A member that is read as another can be exchanged for it. -/
lemma Equates.checkMembers_alter (h : s.Equates name v v') {members : List (String × σ)}
    (hmembers : members.Pairwise fun m m' => m.1 < m'.1) (hv : members.lookup name = some v)
    (seen : List String) : s.checkMembers seen (alter name v' (fun _ => v') members) =
      s.checkMembers seen members := by
  induction members generalizing seen with
  | nil => cases hv
  | cons m members ih =>
    obtain ⟨k,w⟩ := m
    obtain ⟨hk,hrest⟩ := List.pairwise_cons.mp hmembers
    simp only [alter]
    split
    · next hlt =>
      have hnone : List.lookup name ((k,w) :: members) = none := by
        refine Entries.lookup_eq_none_of_forall_lt fun m hm => ?_
        rcases List.mem_cons.mp hm with rfl | hm
        · exact hlt
        · exact String.lt_trans hlt (hk m hm)
      cases hnone.symm.trans hv
    · split
      · next heq =>
        subst heq
        rw [List.lookup_cons_self] at hv
        cases hv
        rw [checkMembers, checkMembers]
        split
        · rfl
        · next check hcheck => rw [h.check check hcheck]
      · next hne =>
        rw [Entries.lookup_cons_of_ne hne] at hv
        rw [checkMembers, checkMembers]
        simp only [ih hrest hv]

end Slots

namespace Decoder
variable {α : Type} {record name : String} {s : Fields α} {members : List (String × Json)}

/-- A record does not notice that a member is exchanged for one that is read the same. -/
theorem record_put {v v' : Json} (h : s.value.Equates name v v') (hmembers : Ascending members)
    (hv : members.lookup name = some v) :
    (Decoder.record record s).value ((object members).put name v') =
      (Decoder.record record s).value (object members) := by
  refine congrArg (Except.mapError Fault.problem) ?_
  rw [Slots.ofMembers, Slots.ofMembers, h.checkMembers_alter hmembers hv,
    h.named hv (lookup_put name v' members) fun key hkey => (lookup_alter_of_ne hkey).symm]

/-- A record does not notice a member under a name that is none of its fields. -/
theorem record_put_of_notMem (h : s.value.Local) (hname : name ∉ s.value.names)
    (hmembers : Ascending members) (v : Json) :
    (Decoder.record record s).value ((object members).put name v) =
      (Decoder.record record s).value (object members) := by
  refine congrArg (Except.mapError Fault.problem) ?_
  refine h.ofMembers_congr (pairwise_alter hmembers) hmembers fun key hkey => ?_
  refine lookup_alter_of_ne ?_
  rintro rfl
  exact hname hkey

end Decoder
/-- A value that is read back from its text as it is: it can be written, is nested at most `k` deep
and is its own normal form. -/
structure Stored (k : ℕ) (j : Json) : Prop extends Writable k j where
  normal : j.normal = j

section Stored
variable {k i : ℕ} {name : String} {names : List String} {j value : Json}
  {members : List (String × Json)} {f : Json → Json}

lemma normal_object_eq_self_iff : (object members).normal = object members ↔
    Ascending members ∧ ∀ m ∈ members, m.2.normal = m.2 := by
  constructor
  · intro h
    exact ⟨ascending_of_normal h,fun m hm => normal_parts h m.2 (List.mem_map_of_mem hm)⟩
  · rintro ⟨hmembers,hvalues⟩
    have hkept : members.map (fun m => (m.1,m.2.normal)) = members :=
      (List.map_congr_left fun m hm => congrArg (Prod.mk m.1) (hvalues m hm)).trans (List.map_id _)
    rw [normal_object, hkept, hmembers.arrange_eq]

lemma exists_ascending_of_get? (h : j.normal = j) (hvalue : j.get? name = some value) :
    ∃ members, j = object members ∧ Ascending members ∧ members.lookup name = some value ∧
      value.normal = value := by
  obtain ⟨members,rfl,hlookup⟩ := exists_object_of_get? hvalue
  obtain ⟨hmembers,hnormal⟩ := normal_object_eq_self_iff.mp h
  exact ⟨members,rfl,hmembers,hlookup,
    hnormal _ ((Entries.lookup_eq_some_iff_mem hmembers.nodup).mp hlookup)⟩

lemma stored_object_iff : (object members).Stored (k + 1) ↔
    Ascending members ∧ ∀ m ∈ members, m.2.Stored k := by
  have hshallow : (object members).nesting ≤ k + 1 ↔ ∀ m ∈ members, m.2.nesting ≤ k := by
    rw [nesting, Nat.add_le_add_iff_right, nestingMembers_le_iff]
  constructor
  · intro h
    obtain ⟨hmembers,hnormal⟩ := normal_object_eq_self_iff.mp h.normal
    exact ⟨hmembers,fun m hm => ⟨⟨isExact_object.mp h.exact m hm,hshallow.mp h.shallow m hm⟩,
      hnormal m hm⟩⟩
  · rintro ⟨hmembers,h⟩
    exact ⟨writable_object fun m hm => (h m hm).toWritable,
      normal_object_eq_self_iff.mpr ⟨hmembers,fun m hm => (h m hm).normal⟩⟩

lemma mem_alter {m : String × Json} (h : m ∈ alter name value (fun _ => value) members) :
    m.2 = value ∨ m ∈ members := by
  induction members with
  | nil =>
    rw [List.mem_singleton.mp h]
    exact .inl rfl
  | cons m' members ih =>
    simp only [alter] at h
    split at h
    · rcases List.mem_cons.mp h with rfl | h
      · exact .inl rfl
      · exact .inr h
    · split at h
      · rcases List.mem_cons.mp h with rfl | h
        · exact .inl rfl
        · exact .inr (List.mem_cons_of_mem _ h)
      · rcases List.mem_cons.mp h with rfl | h
        · exact .inr (by simp)
        · exact (ih h).imp_right (List.mem_cons_of_mem _)

lemma Stored.mono (h : j.Stored k) (hk : k ≤ i) : j.Stored i :=
  ⟨⟨h.exact,h.shallow.trans hk⟩,h.normal⟩

lemma Stored.put (h : j.Stored (k + 1)) (hvalue : value.Stored k) :
    (j.put name value).Stored (k + 1) := by
  cases j with
  | object members =>
    obtain ⟨hmembers,hall⟩ := stored_object_iff.mp h
    refine stored_object_iff.mpr ⟨pairwise_alter hmembers,fun m hm => ?_⟩
    rcases mem_alter hm with heq | hm
    · rwa [heq]
    · exact hall m hm
  | _ => exact h

lemma Stored.drop (h : j.Stored (k + 1)) : (j.drop name).Stored (k + 1) := by
  cases j with
  | object members =>
    obtain ⟨hmembers,hall⟩ := stored_object_iff.mp h
    exact stored_object_iff.mpr ⟨hmembers.filter _,fun m hm => hall m (List.mem_of_mem_filter hm)⟩
  | _ => exact h

lemma Stored.get? (h : j.Stored (k + 1)) (hvalue : j.get? name = some value) : value.Stored k := by
  obtain ⟨members,rfl,hlookup⟩ := exists_object_of_get? hvalue
  obtain ⟨hmembers,hall⟩ := stored_object_iff.mp h
  exact hall _ ((Entries.lookup_eq_some_iff_mem hmembers.nodup).mp hlookup)

lemma Stored.path? (h : j.Stored (i + names.length)) (hvalue : j.path? names = some value) :
    value.Stored i := by
  induction names generalizing j with
  | nil =>
    cases hvalue
    exact h
  | cons name rest ih =>
    obtain ⟨inner,hinner,hrest⟩ := Option.bind_eq_some_iff.mp hvalue
    exact ih (Stored.get? h hinner) hrest

/-- A change keeps what is stored if it does so with what stands behind the names. -/
lemma Stored.change (h : j.Stored (i + names.length))
    (hf : ∀ value, j.path? names = some value → (f value).Stored i) :
    (j.change f names).Stored (i + names.length) := by
  induction names generalizing j with
  | nil => exact hf j rfl
  | cons name rest ih =>
    rw [Json.change]
    split
    · next inner hinner =>
      refine Stored.put h (ih (Stored.get? h hinner) fun value hvalue => hf value ?_)
      rw [path?_cons, hinner]
      exact hvalue
    · exact h

/-- There is no value behind more names than a value is nested. -/
lemma length_le_nesting (h : j.path? names = some value) :
    names.length + value.nesting ≤ j.nesting := by
  induction names generalizing j with
  | nil =>
    cases h
    exact (Nat.zero_add _).le
  | cons name rest ih =>
    obtain ⟨inner,hinner,hrest⟩ := Option.bind_eq_some_iff.mp h
    obtain ⟨members,rfl,hlookup⟩ := exists_object_of_get? hinner
    obtain ⟨front,back,rfl,-⟩ := List.lookup_eq_some_iff.mp hlookup
    have hdeep : inner.nesting < (object (front ++ (name,inner) :: back)).nesting :=
      nesting_lt_of_mem_parts (List.mem_map.mpr ⟨(name,inner),by simp,rfl⟩)
    have := ih hrest
    rw [List.length_cons]
    omega

lemma Stored.parse_render (h : j.Stored k) (hk : k < levels) : parse j.render = .ok j := by
  rw [h.toWritable.parse_render hk, h.normal]

end Stored

/-- The bytes of a text are parsed as the text. -/
lemma parseBytes_encode (s : String) : parseBytes (Text.Utf8.encode s) = parse s := by
  rw [parseBytes, parse, Symbol.ofBytes, Text.Utf8.symbols_encode, Symbol.ofText]

end Checkout.Json
