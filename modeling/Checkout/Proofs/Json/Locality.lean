import Checkout.Proofs.Json.Fields

/-! Records look at nothing but what stands under the names of their fields. Members of other names
change neither what is read nor what is reported, so members in the same order that agree under these
names come to the same result. -/
namespace Checkout.Json.Slots
variable {σ α β : Type} {s : Slots σ α} {members members' : List (String × σ)}

/-- The names of the fields. -/
def names (s : Slots σ α) : List String := s.checks.map Prod.fst

/-- Fields look at nothing but the values under their names. -/
def Local (s : Slots σ α) : Prop :=
  ∀ ⦃get get'⦄, (∀ name ∈ s.names, get name = get' name) → s.named get = s.named get'

lemma local_field {name : String} {read : σ → Except Fault α} {absent : Absent α} :
    (field name read absent).Local := by
  intro get get' h
  simp only [field, h name (by simp [names, field])]

lemma Local.map (h : s.Local) (f : α → β) : (s.map f).Local := by
  intro get get' hget
  exact congrArg (Except.map f) (h hget)

lemma Local.seq {f : Slots σ (α → β)} (hf : f.Local) (hs : s.Local) : (f.seq s).Local := by
  intro get get' hget
  have hnames : (f.seq s).names = f.names ++ s.names := List.map_append
  rw [hnames, List.forall_mem_append] at hget
  simp only [Slots.seq, hf hget.1, hs hget.2]

lemma lookup_checks_eq_none_iff {name : String} :
    s.checks.lookup name = none ↔ name ∉ s.names := by
  rw [List.lookup_eq_none_iff, names]
  constructor
  · intro h hmem
    obtain ⟨check,hcheck,rfl⟩ := List.mem_map.mp hmem
    exact bne_iff_ne.mp (h check hcheck) rfl
  · intro h check hcheck
    refine bne_iff_ne.mpr fun heq => h ?_
    exact List.mem_map.mpr ⟨check,hcheck,heq.symm⟩

/-- Members that name no field are not checked. -/
lemma checkMembers_filter (s : Slots σ α) (members : List (String × σ)) (seen : List String) :
    s.checkMembers seen (members.filter fun m => s.names.contains m.1) =
      s.checkMembers seen members := by
  induction members generalizing seen with
  | nil => rfl
  | cons m members ih =>
    obtain ⟨name,value⟩ := m
    by_cases hname : name ∈ s.names
    · rw [List.filter_cons_of_pos (by simpa using hname), checkMembers, checkMembers]
      simp only [ih]
    · rw [List.filter_cons_of_neg (by simpa using hname), ih, checkMembers,
        lookup_checks_eq_none_iff.mpr hname]

/-- Members that name no field do not matter. -/
theorem Local.ofMembers_filter (h : s.Local) (members : List (String × σ)) :
    s.ofMembers (members.filter fun m => s.names.contains m.1) = s.ofMembers members := by
  have hnamed : s.named (fun name =>
      (members.filter fun m => s.names.contains m.1).lookup name) =
        s.named fun name => members.lookup name := by
    refine h fun name hname => ?_
    rw [Entries.lookup_filter_fst, if_pos (by simpa using hname)]
  rw [ofMembers, ofMembers, checkMembers_filter, hnamed]

/-- Ascending members that agree under the names of the fields come to the same. -/
theorem Local.ofMembers_congr (h : s.Local) (hmembers : members.Pairwise fun m m' => m.1 < m'.1)
    (hmembers' : members'.Pairwise fun m m' => m.1 < m'.1)
    (hsame : ∀ name ∈ s.names, members.lookup name = members'.lookup name) :
    s.ofMembers members = s.ofMembers members' := by
  rw [← h.ofMembers_filter members, ← h.ofMembers_filter members']
  congr 1
  refine Entries.eq_of_lookup_eq (hmembers.filter _) (hmembers'.filter _) fun name => ?_
  rw [Entries.lookup_filter_fst, Entries.lookup_filter_fst]
  split
  · next hname => exact hsame name (by simpa using hname)
  · rfl

end Checkout.Json.Slots
