import Mathlib.Tactic

/-! Entries under names. Entries that ascend by name have each name once, so what is found under the
names determines them, and changing the value under one name changes nothing that is found under
another. -/
namespace Checkout.Entries
variable {β γ : Type*} {entries entries' : List (String × β)} {name key : String} {value : β}

lemma lookup_cons_of_ne (h : key ≠ name) :
    List.lookup key ((name,value) :: entries) = entries.lookup key := by
  simp [List.lookup_cons, beq_false_of_ne h]

/-- Among entries of different names, each is found under its name. -/
lemma lookup_eq_some_iff_mem (h : (entries.map Prod.fst).Nodup) :
    entries.lookup key = some value ↔ (key,value) ∈ entries := by
  induction entries with
  | nil => simp
  | cons e entries ih =>
    obtain ⟨k,v⟩ := e
    obtain ⟨hk,hrest⟩ := List.nodup_cons.mp h
    by_cases hkey : key = k
    · subst hkey
      have hnot : (key,value) ∉ entries := fun hmem => hk (List.mem_map.mpr ⟨_,hmem,rfl⟩)
      simp [hnot, eq_comm]
    · simp [lookup_cons_of_ne hkey, ih hrest, hkey]

lemma lookup_map (f : β → γ) (entries : List (String × β)) (key : String) :
    (entries.map fun e => (e.1, f e.2)).lookup key = (entries.lookup key).map f := by
  induction entries with
  | nil => rfl
  | cons e entries ih =>
    obtain ⟨k,v⟩ := e
    rw [List.map_cons]
    by_cases hkey : key = k
    · subst hkey
      simp
    · rw [lookup_cons_of_ne hkey, lookup_cons_of_ne hkey, ih]

/-- Entries are found among those of some names if theirs is one of these. -/
lemma lookup_filter_fst (p : String → Bool) (entries : List (String × β)) (key : String) :
    (entries.filter fun e => p e.1).lookup key = if p key then entries.lookup key else none := by
  induction entries with
  | nil => simp
  | cons e entries ih =>
    obtain ⟨k,v⟩ := e
    rw [List.filter_cons]
    by_cases hkey : key = k
    · subst hkey
      cases hp : p key
      · simpa [hp] using ih
      · simp
    · rw [lookup_cons_of_ne hkey, ← ih]
      cases p k
      · rfl
      · exact lookup_cons_of_ne hkey

/-- Entries of different names are found wherever they stand. -/
lemma lookup_eq_of_perm (h : (entries.map Prod.fst).Nodup) (hperm : entries.Perm entries') :
    entries.lookup key = entries'.lookup key := by
  ext value
  rw [lookup_eq_some_iff_mem h, lookup_eq_some_iff_mem ((hperm.map _).nodup_iff.mp h), hperm.mem_iff]

/-- Among entries of different names, at most one has a given name. -/
lemma filter_eq_of_nodup (h : (entries.map Prod.fst).Nodup) (key : String) :
    entries.filter (·.1 == key) = (entries.lookup key).toList.map fun value => (key,value) := by
  induction entries with
  | nil => rfl
  | cons e entries ih =>
    obtain ⟨k,v⟩ := e
    obtain ⟨hk,hrest⟩ := List.nodup_cons.mp h
    by_cases hkey : key = k
    · subst hkey
      have hnone : entries.filter (·.1 == key) = [] := by
        refine List.filter_eq_nil_iff.mpr fun e he heq => hk ?_
        exact List.mem_map.mpr ⟨e,he,eq_of_beq heq⟩
      simp [hnone]
    · rw [lookup_cons_of_ne hkey, ← ih hrest]
      exact List.filter_cons_of_neg (by simpa using Ne.symm hkey)

/-- Entries of the same names one by one, with related values. -/
abbrev Pairs (R : β → γ → Prop) (entries : List (String × β)) (others : List (String × γ)) : Prop :=
  List.Forall₂ (fun e e' => e.1 = e'.1 ∧ R e.2 e'.2) entries others

lemma Pairs.lookup {R : β → γ → Prop} {others : List (String × γ)} (h : Pairs R entries others)
    (key : String) : Option.Rel R (entries.lookup key) (others.lookup key) := by
  induction h with
  | nil => exact .none
  | @cons e e' entries others he _ ih =>
    obtain ⟨k,v⟩ := e
    obtain ⟨k',v'⟩ := e'
    obtain ⟨rfl,hv⟩ : k = k' ∧ R v v' := he
    by_cases hkey : key = k
    · subst hkey
      simpa using Option.Rel.some hv
    · rw [lookup_cons_of_ne hkey, lookup_cons_of_ne hkey]
      exact ih

lemma lookup_eq_none_of_forall_lt (h : ∀ e ∈ entries, key < e.1) : entries.lookup key = none :=
  List.lookup_eq_none_iff.mpr fun e he => bne_iff_ne.mpr (String.ne_of_lt (h e he))

/-- Changes the value under a name. If there is none, a first value is put where the name belongs. -/
def alter (name : String) (first : β) (f : β → β) : List (String × β) → List (String × β)
  | [] => [(name,first)]
  | (k,v) :: rest =>
    if name < k then (name,first) :: (k,v) :: rest
    else if name = k then (k, f v) :: rest
    else (k,v) :: alter name first f rest

variable {first : β} {f : β → β}

lemma fst_of_mem_alter {e : String × β} (h : e ∈ alter name first f entries) :
    e.1 = name ∨ e.1 ∈ entries.map Prod.fst := by
  induction entries with
  | nil =>
    rw [List.mem_singleton.mp h]
    exact .inl rfl
  | cons m entries ih =>
    simp only [alter] at h
    split at h
    · rcases List.mem_cons.mp h with rfl | h
      · exact .inl rfl
      · exact .inr (List.mem_map_of_mem h)
    · split at h
      · next heq =>
        rcases List.mem_cons.mp h with rfl | h
        · exact .inl heq.symm
        · exact .inr (List.mem_map_of_mem (List.mem_cons_of_mem _ h))
      · rcases List.mem_cons.mp h with rfl | h
        · exact .inr (by simp)
        · exact (ih h).imp_right (List.mem_cons_of_mem _)

/-- Changing an entry keeps the names ascending. -/
theorem pairwise_alter (h : entries.Pairwise fun e e' => e.1 < e'.1) :
    (alter name first f entries).Pairwise fun e e' => e.1 < e'.1 := by
  induction entries with
  | nil => exact List.pairwise_singleton _ _
  | cons m entries ih =>
    obtain ⟨k,v⟩ := m
    obtain ⟨hk,hrest⟩ := List.pairwise_cons.mp h
    simp only [alter]
    split
    · next hlt =>
      refine List.pairwise_cons.mpr ⟨?_,h⟩
      intro e he
      rcases List.mem_cons.mp he with rfl | he
      · exact hlt
      · exact String.lt_trans hlt (hk e he)
    · next hlt =>
      split
      · exact List.pairwise_cons.mpr ⟨hk,hrest⟩
      · next hne =>
        refine List.pairwise_cons.mpr ⟨?_,ih hrest⟩
        intro e he
        rcases fst_of_mem_alter he with hname | hmem
        · rw [hname]
          exact Std.lt_of_le_of_ne (String.not_lt.mp hlt) (Ne.symm hne)
        · obtain ⟨e',he',hfst⟩ := List.mem_map.mp hmem
          rw [← hfst]
          exact hk e' he'

lemma lookup_alter_self (h : entries.Pairwise fun e e' => e.1 < e'.1) :
    (alter name first f entries).lookup name = some ((entries.lookup name).elim first f) := by
  induction entries with
  | nil => simp [alter]
  | cons m entries ih =>
    obtain ⟨k,v⟩ := m
    obtain ⟨hk,hrest⟩ := List.pairwise_cons.mp h
    simp only [alter]
    split
    · next hlt =>
      have hnone : List.lookup name ((k,v) :: entries) = none := by
        refine lookup_eq_none_of_forall_lt fun e he => ?_
        rcases List.mem_cons.mp he with rfl | he
        · exact hlt
        · exact String.lt_trans hlt (hk e he)
      rw [List.lookup_cons_self, hnone]
      rfl
    · split
      · next heq =>
        subst heq
        simp
      · next hne =>
        rw [lookup_cons_of_ne hne, lookup_cons_of_ne hne]
        exact ih hrest

lemma lookup_alter_of_ne (h : key ≠ name) :
    (alter name first f entries).lookup key = entries.lookup key := by
  induction entries with
  | nil => exact lookup_cons_of_ne h
  | cons m entries ih =>
    obtain ⟨k,v⟩ := m
    simp only [alter]
    split
    · exact lookup_cons_of_ne h
    · split
      · next heq =>
        subst heq
        rw [lookup_cons_of_ne h, lookup_cons_of_ne h]
      · by_cases hkey : key = k
        · subst hkey
          rw [List.lookup_cons_self, List.lookup_cons_self]
        · rw [lookup_cons_of_ne hkey, lookup_cons_of_ne hkey, ih]

lemma nodup_of_pairwise (h : entries.Pairwise fun e e' => e.1 < e'.1) :
    (entries.map Prod.fst).Nodup :=
  List.pairwise_map.mpr (h.imp String.ne_of_lt)

/-- Entries that ascend are determined by what is found under the names. -/
theorem eq_of_lookup_eq (h : entries.Pairwise fun e e' => e.1 < e'.1)
    (h' : entries'.Pairwise fun e e' => e.1 < e'.1)
    (hlookup : ∀ key, entries.lookup key = entries'.lookup key) : entries = entries' := by
  have hperm : entries.Perm entries' := by
    refine (List.perm_ext_iff_of_nodup (nodup_of_pairwise h).of_map
      (nodup_of_pairwise h').of_map).mpr ?_
    rintro ⟨key,value⟩
    rw [← lookup_eq_some_iff_mem (nodup_of_pairwise h),
      ← lookup_eq_some_iff_mem (nodup_of_pairwise h'), hlookup]
  refine hperm.eq_of_pairwise ?_ h h'
  intro e e' _ _ hlt hlt'
  exact absurd (String.lt_trans hlt hlt') (String.lt_irrefl _)

end Checkout.Entries
