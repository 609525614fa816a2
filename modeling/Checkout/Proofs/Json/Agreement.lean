import Checkout.Proofs.Json.Fields

/-! Readers that agree: both fail, or both give the same. Fields that are read from related values
agree if each of them does, and what is read from members of different names does not depend on the
order of the members. -/
namespace Checkout

/-- Two computations agree: both fail, or both give results that are related. -/
inductive Agree {ε ε' α β : Type} (R : α → β → Prop) : Except ε α → Except ε' β → Prop
  | ok {a : α} {b : β} (h : R a b) : Agree R (.ok a) (.ok b)
  | error {e : ε} {e' : ε'} : Agree R (.error e) (.error e')

namespace Agree
variable {ε ε' δ α β α' β' : Type} {R : α → β → Prop} {S : α' → β' → Prop} {x : Except ε α}
  {y : Except ε' β}

lemma bind (h : Agree R x y) {f : α → Except ε α'} {g : β → Except ε' β'}
    (hfg : ∀ a b, R a b → Agree S (f a) (g b)) : Agree S (x >>= f) (y >>= g) := by
  cases h with
  | ok h => exact hfg _ _ h
  | error => exact .error

lemma map (h : Agree R x y) {f : α → α'} {g : β → β'} (hfg : ∀ a b, R a b → S (f a) (g b)) :
    Agree S (x.map f) (y.map g) := by
  cases h with
  | ok h => exact .ok (hfg _ _ h)
  | error => exact .error

lemma mapError_left (h : Agree R x y) (f : ε → δ) : Agree R (x.mapError f) y := by
  cases h with
  | ok h => exact .ok h
  | error => exact .error

lemma mapError_right (h : Agree R x y) (f : ε' → δ) : Agree R x (y.mapError f) := by
  cases h with
  | ok h => exact .ok h
  | error => exact .error

lemma refl (x : Except ε α) : Agree Eq x x := by
  cases x with
  | ok a => exact .ok rfl
  | error e => exact .error

lemma trans {ε'' : Type} {y : Except ε' α} {z : Except ε'' α} (h : Agree Eq x y)
    (h' : Agree Eq y z) : Agree Eq x z := by
  cases h with
  | ok h =>
    subst h
    cases h' with
    | ok h' => exact .ok h'
  | error =>
    cases h' with
    | error => exact .error

/-- Computations that agree on their results give the same. -/
theorem eq_ok_iff {y : Except ε' α} (h : Agree Eq x y) {a : α} : x = .ok a ↔ y = .ok a := by
  cases h with
  | ok h => rw [h, Except.ok.injEq, Except.ok.injEq]
  | error => simp

lemma of_eq_ok_iff {y : Except ε' α} (h : ∀ a, x = .ok a ↔ y = .ok a) : Agree Eq x y := by
  cases x with
  | ok a => rw [(h a).mp rfl]; exact .ok rfl
  | error e =>
    cases y with
    | ok a => cases (h a).mpr rfl
    | error e' => exact .error

end Agree

namespace Json

open Checkout.Entries (Pairs)

variable {σ σ' α β : Type} {R : σ → σ' → Prop}

/-- Fields that give the same when they are read from related values, as long as no list breaks off. -/
structure Slots.Agrees (R : σ → σ' → Prop) (s : Slots σ α) (s' : Slots σ' α) : Prop where
  checks : Pairs (fun check check' => ∀ v v', R v v' → Agree Eq (check v) (check' v')) s.checks
    s'.checks
  named : ∀ get get', (∀ name, Option.Rel R (get name) (get' name)) →
    Agree Eq (s.named get) (s'.named get')
  listed : ∀ {shortage shortage' : Shortage}, shortage.broken = none → shortage'.broken = none →
    ∀ i i' {items items'}, List.Forall₂ R items items' →
      Agree (fun r r' => r.1 = r'.1 ∧ List.Forall₂ R r.2.2 r'.2.2) (s.listed shortage i items)
        (s'.listed shortage' i' items')

namespace Slots

lemma agrees_field {name : String} {read : σ → Except Fault α} {read' : σ' → Except Fault α}
    {absent : Absent α} (h : ∀ v v', R v v' → Agree Eq (read v) (read' v')) :
    (field name read absent).Agrees R (field name read' absent) where
  checks := .cons ⟨rfl,fun v v' hv => (h v v' hv).map fun _ _ _ => rfl⟩ .nil
  named := by
    intro get get' hget
    have hname := hget name
    simp only [field]
    generalize get name = v, get' name = v' at hname
    cases hname with
    | none => exact .refl _
    | some hv => exact h _ _ hv
  listed := by
    intro shortage shortage' hclosed hclosed' i i' items items' hitems
    cases hitems with
    | nil =>
      simp only [field, whenExhausted, hclosed, hclosed']
      cases absent with
      | fault | inObject => exact .error
      | anywhere a => exact .ok ⟨rfl,.nil⟩
    | cons hv hrest => exact (h _ _ hv).map fun a b hab => ⟨hab,hrest⟩

lemma Agrees.map {s : Slots σ α} {s' : Slots σ' α} (h : s.Agrees R s') (f : α → β) :
    (s.map f).Agrees R (s'.map f) where
  checks := h.checks
  named get get' hget := (h.named get get' hget).map fun _ _ hab => congrArg f hab
  listed hclosed hclosed' i i' _ _ hitems := (h.listed hclosed hclosed' i i' hitems).map
    fun _ _ hr => ⟨congrArg f hr.1,hr.2⟩

lemma Agrees.seq {f : Slots σ (α → β)} {f' : Slots σ' (α → β)} {s : Slots σ α} {s' : Slots σ' α}
    (hf : f.Agrees R f') (hs : s.Agrees R s') : (f.seq s).Agrees R (f'.seq s') where
  checks := List.rel_append hf.checks hs.checks
  named get get' hget := by
    refine (hf.named get get' hget).bind ?_
    rintro g _ rfl
    refine (hs.named get get' hget).bind ?_
    rintro a _ rfl
    exact .ok rfl
  listed hclosed hclosed' i i' _ _ hitems := by
    refine (hf.listed hclosed hclosed' i i' hitems).bind ?_
    rintro ⟨g,j,rest⟩ ⟨_,j',rest'⟩ ⟨rfl,hrest⟩
    refine (hs.listed hclosed hclosed' j j' hrest).bind ?_
    rintro ⟨a,last⟩ ⟨_,last'⟩ ⟨rfl,hlast⟩
    exact .ok ⟨rfl,hlast⟩

section Members
variable {s : Slots σ α} {s' : Slots σ' α} {members : List (String × σ)}
  {members' : List (String × σ')}

lemma Agrees.checkMembers (h : s.Agrees R s') (hmembers : Pairs R members members')
    (seen : List String) : Agree Eq (s.checkMembers seen members) (s'.checkMembers seen members') := by
  induction hmembers generalizing seen with
  | nil => exact .ok rfl
  | @cons m m' members members' hm _ ih =>
    obtain ⟨name,v⟩ := m
    obtain ⟨name',v'⟩ := m'
    obtain ⟨rfl,hv⟩ : name = name' ∧ R v v' := hm
    have hcheck := h.checks.lookup name
    simp only [Slots.checkMembers]
    generalize s.checks.lookup name = check, s'.checks.lookup name = check' at hcheck
    cases hcheck with
    | none => exact ih seen
    | @some check check' hcheck =>
      have hpass := hcheck v v' hv
      dsimp only
      generalize check v = result, check' v' = result' at hpass
      split
      · exact .error
      · cases hpass with
        | ok => exact ih (name :: seen)
        | error => exact .error

/-- A record is read from members with related values. -/
theorem Agrees.ofMembers (h : s.Agrees R s') (hmembers : Pairs R members members') :
    Agree Eq (s.ofMembers members) (s'.ofMembers members') :=
  (h.checkMembers hmembers []).bind fun _ _ _ => h.named _ _ hmembers.lookup

lemma pass_of_checkMembers {seen : List String} (h : s.checkMembers seen members = .ok ()) :
    ∀ m ∈ members, ∀ check, s.checks.lookup m.1 = some check → check m.2 = .ok () := by
  induction members generalizing seen with
  | nil => simp
  | cons m members ih =>
    obtain ⟨name,v⟩ := m
    rw [Slots.checkMembers] at h
    refine List.forall_mem_cons.mpr ?_
    split at h
    · next hnone => exact ⟨fun check hcheck => absurd (hnone.symm.trans hcheck) (by simp),ih h⟩
    · next check hcheck =>
      split at h
      · cases h
      · split at h
        · next hpass =>
          refine ⟨fun check' hcheck' => ?_,ih h⟩
          cases hcheck.symm.trans hcheck'
          exact hpass
        · cases h

lemma checkMembers_eq_ok_iff (hnodup : (members.map Prod.fst).Nodup) :
    s.checkMembers [] members = .ok () ↔
      ∀ m ∈ members, ∀ check, s.checks.lookup m.1 = some check → check m.2 = .ok () :=
  ⟨pass_of_checkMembers,checkMembers_eq_ok hnodup (by simp)⟩

/-- The order of members of different names does not matter. -/
theorem ofMembers_perm (s : Slots σ α) {others : List (String × σ)}
    (hnodup : (members.map Prod.fst).Nodup) (hperm : members.Perm others) :
    Agree Eq (s.ofMembers members) (s.ofMembers others) := by
  have hchecks : Agree Eq (s.checkMembers [] members) (s.checkMembers [] others) := by
    refine .of_eq_ok_iff fun _ => ?_
    rw [checkMembers_eq_ok_iff hnodup, checkMembers_eq_ok_iff ((hperm.map _).nodup_iff.mp hnodup)]
    exact forall_congr' fun m => by rw [hperm.mem_iff]
  have hlookup : (fun name => members.lookup name) = fun name => others.lookup name :=
    funext fun name => Entries.lookup_eq_of_perm hnodup hperm
  rw [Slots.ofMembers, Slots.ofMembers, hlookup]
  exact hchecks.bind fun _ _ _ => .refl _

end Members
end Slots
end Json
end Checkout
