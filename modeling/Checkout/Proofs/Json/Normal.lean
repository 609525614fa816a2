import Checkout.Json.Basic
import Checkout.Proofs.Entries

/-! The value that a written object stands for. Arranging members sorts them by name and keeps the
last of each name, so a normal form has ascending names at every depth and is its own normal form. -/
namespace Checkout.Json

open Checkout.Entries

/-- Induction on a value, where an array is reached from its items and an object from the values of
its members. -/
@[elab_as_elim, induction_eliminator]
theorem ind {motive : Json → Prop} (null : motive .null) (bool : ∀ b, motive (.bool b))
    (number : ∀ n, motive (.number n)) (string : ∀ s, motive (.string s))
    (array : ∀ items, (∀ item ∈ items, motive item) → motive (.array items))
    (object : ∀ members, (∀ m ∈ members, motive m.2) → motive (.object members)) (j : Json) :
    motive j :=
  @Json.rec motive (fun items => ∀ item ∈ items, motive item)
    (fun members => ∀ m ∈ members, motive m.2) (fun m => motive m.2)
    null bool number string array object (fun _ h => nomatch h)
    (fun _ _ hitem hitems => List.forall_mem_cons.mpr ⟨hitem,hitems⟩) (fun _ h => nomatch h)
    (fun _ _ hm hmembers => List.forall_mem_cons.mpr ⟨hm,hmembers⟩) (fun _ _ h => h) j

/-- Members whose names ascend. -/
def Ascending (members : List (String × Json)) : Prop := members.Pairwise fun m m' => m.1 < m'.1

section Members
variable {members : List (String × Json)} {name key : String} {value : Json}

lemma place_eq_alter (name : String) (value : Json) (members : List (String × Json)) :
    place name value members = alter name value id members := by
  induction members with
  | nil => rfl
  | cons m members ih => simp only [place, alter, ih, id]

lemma mem_place {m : String × Json} (h : m ∈ place name value members) :
    m = (name,value) ∨ m ∈ members := by
  induction members with
  | nil => exact .inl (List.mem_singleton.mp h)
  | cons k members ih =>
    simp only [place] at h
    split at h
    · exact List.mem_cons.mp h
    · split at h
      · exact .inr h
      · rcases List.mem_cons.mp h with rfl | h
        · exact .inr (by simp)
        · exact (ih h).imp_right (List.mem_cons_of_mem _)

/-- Placing a member keeps the names ascending. -/
theorem Ascending.place (h : Ascending members) : Ascending (place name value members) := by
  rw [place_eq_alter]
  exact pairwise_alter h

/-- Arranged members have ascending names. -/
theorem ascending_arrange (members : List (String × Json)) : Ascending (arrange members) := by
  induction members with
  | nil => exact List.Pairwise.nil
  | cons m members ih => exact ih.place

lemma Ascending.nodup (h : Ascending members) : (members.map Prod.fst).Nodup := nodup_of_pairwise h

/-- A member in front of all others is placed in front. -/
lemma place_of_forall_lt (h : ∀ m ∈ members, name < m.1) :
    place name value members = (name,value) :: members := by
  cases members with
  | nil => rfl
  | cons k members => exact if_pos (h k (by simp))

/-- Members with ascending names are arranged already. -/
theorem Ascending.arrange_eq (h : Ascending members) : arrange members = members := by
  induction members with
  | nil => rfl
  | cons m members ih =>
    obtain ⟨hm,hrest⟩ := List.pairwise_cons.mp h
    change Json.place m.1 m.2 (arrange members) = m :: members
    rw [ih hrest, place_of_forall_lt hm]

/-- A placed member is found unless there is one of its name. -/
lemma Ascending.lookup_place (h : Ascending members) :
    (Json.place name value members).lookup key =
      (members.lookup key).or (List.lookup key [(name,value)]) := by
  rw [place_eq_alter]
  by_cases hkey : key = name
  · subst hkey
    rw [lookup_alter_self h, List.lookup_cons_self]
    cases members.lookup key <;> rfl
  · rw [lookup_alter_of_ne hkey, lookup_cons_of_ne hkey, List.lookup_nil, Option.or_none]

/-- The last of several members of one name counts. -/
theorem lookup_arrange (members : List (String × Json)) (key : String) :
    (arrange members).lookup key = members.reverse.lookup key := by
  induction members with
  | nil => rfl
  | cons m members ih =>
    change (Json.place m.1 m.2 (arrange members)).lookup key = _
    rw [(ascending_arrange members).lookup_place, ih, List.reverse_cons, List.lookup_append]

/-- Members of different names are found as they are written. -/
theorem lookup_arrange_of_nodup (h : (members.map Prod.fst).Nodup) :
    (arrange members).lookup key = members.lookup key := by
  rw [lookup_arrange]
  have hreverse : (members.reverse.map Prod.fst).Nodup := by
    rwa [List.map_reverse, List.nodup_reverse]
  ext value
  rw [lookup_eq_some_iff_mem h, lookup_eq_some_iff_mem hreverse, List.mem_reverse]

/-- Members of different names have one order. -/
lemma arrange_eq_of_perm {sorted : List (String × Json)} (hperm : members.Perm sorted)
    (h : Ascending sorted) : arrange members = sorted := by
  have hnodup : (members.map Prod.fst).Nodup := (hperm.map Prod.fst).nodup_iff.mpr h.nodup
  refine eq_of_lookup_eq (ascending_arrange members) h fun key => ?_
  rw [lookup_arrange_of_nodup hnodup, lookup_eq_of_perm hnodup hperm]

end Members

lemma normal_array (items : List Json) : (Json.array items).normal = .array (items.map normal) := by
  simp [normal]

lemma normal_object (members : List (String × Json)) :
    (Json.object members).normal = .object (arrange (members.map fun m => (m.1, m.2.normal))) := by
  simp [normal]

/-- A member of an object with different names, in normal form. -/
theorem get?_normal_object {members : List (String × Json)} (h : (members.map Prod.fst).Nodup)
    (name : String) : (Json.object members).normal.get? name = (members.lookup name).map normal := by
  rw [normal_object, get?_object, lookup_arrange_of_nodup, lookup_map]
  rwa [List.map_map]

lemma arrange_subset {members : List (String × Json)} : ∀ m ∈ arrange members, m ∈ members := by
  induction members with
  | nil => exact fun _ h => h
  | cons m members ih =>
    intro m' hm'
    rcases mem_place hm' with rfl | h
    · simp
    · exact List.mem_cons_of_mem _ (ih m' h)

/-- A normal form is its own normal form. -/
@[simp] theorem normal_normal (j : Json) : j.normal.normal = j.normal := by
  induction j with
  | array items ih =>
    rw [normal_array, normal_array, List.map_map]
    exact congrArg Json.array (List.map_congr_left ih)
  | object members ih =>
    have hkept : ∀ m ∈ arrange (members.map fun m => (m.1, m.2.normal)), (m.1, m.2.normal) = m := by
      intro m hm
      obtain ⟨m',hm',rfl⟩ := List.mem_map.mp (arrange_subset m hm)
      rw [ih m' hm']
    rw [normal_object, normal_object, List.map_congr_left hkept, List.map_id'',
      (ascending_arrange _).arrange_eq]
    exact fun _ => rfl
  | null => rfl
  | bool b => rfl
  | number n => rfl
  | string s => rfl

lemma ascending_of_normal {members : List (String × Json)}
    (h : (Json.object members).normal = .object members) : Ascending members := by
  rw [normal_object, object.injEq] at h
  rw [← h]
  exact ascending_arrange _

lemma normal_eq_null_iff {j : Json} : j.normal = .null ↔ j = .null := by
  cases j <;> simp [normal]

end Checkout.Json
