import Checkout.Payment.Method
import Checkout.Proofs.Json.Readings

/-! Payments in their two readings. In a text the kind is taken from wherever it stands and the other
members are kept as they are written; the value has them sorted. Both are read as the same payment. -/
namespace Checkout

open Checkout.Entries (Pairs)
open Checkout.Json (Decoder Slots Node Key Fault Problem)

/-- A value is the normal form of another. -/
abbrev Json.Settles (j j' : Json) : Prop := j' = j.normal

lemma UserType.agree_ofJson (j : Json) : Agree Eq (ofJson j) (ofJson j.normal) :=
  Json.agree_normal ofJson (fun _ _ => .error) (fun _ _ => .error) j

namespace PaymentMethod

lemma agrees_textField (name : String) : (textField name).Agrees Json.Settles (textField name) := by
  refine Slots.agrees_field ?_
  rintro j _ rfl
  exact Json.agree_normal Decoder.string.member (fun _ _ => .error) (fun _ _ => .error) j

lemma agrees_userTypeField : userTypeField.Agrees Json.Settles userTypeField := by
  refine Slots.agrees_field ?_
  rintro j _ rfl
  exact ((UserType.agree_ofJson j).mapError_left _).mapError_right _

lemma agree_installmentsOfJson (j : Json) :
    Agree Eq (installmentsOfJson j) (installmentsOfJson j.normal) :=
  Json.agree_normal installmentsOfJson (fun _ _ => .error) (fun _ _ => .error) j

/-- The members of a payment are read in the same way from a value and from its normal form. -/
lemma agrees_slots {kind : PaymentKind} {name : String} {fields : Slots Json PaymentMethod}
    (h : slots kind = some (name,fields)) : fields.Agrees Json.Settles fields := by
  cases kind with
  | card =>
    cases h
    refine (Slots.Agrees.map (agrees_textField _) _).seq (Slots.agrees_field ?_)
    rintro j _ rfl
    exact ((agree_installmentsOfJson j).mapError_left _).mapError_right _
  | nequi =>
    cases h
    exact Slots.Agrees.map (agrees_textField _) _
  | pse =>
    cases h
    iterate 4 refine Slots.Agrees.seq ?_ (agrees_textField _)
    exact Slots.Agrees.map agrees_userTypeField _
  | bancolombiaTransfer =>
    cases h
    exact (Slots.Agrees.map agrees_userTypeField _).seq (agrees_textField _)
  | bancolombiaCollect => cases h

/-- A payment is read from the members behind its type as from their normal forms in any order. -/
lemma agree_ofMembers (kind : PaymentKind) {members others : List (String × Json)}
    (hnodup : (members.map Prod.fst).Nodup)
    (hperm : (members.map fun m => (m.1, m.2.normal)).Perm others) :
    Agree Eq (ofMembers kind members) (ofMembers kind others) := by
  unfold ofMembers
  cases hslots : slots kind with
  | none => exact .ok rfl
  | some fields =>
    have hpairs : Pairs Json.Settles members (members.map fun m => (m.1, m.2.normal)) := by
      refine List.forall₂_map_right_iff.mpr ?_
      exact List.forall₂_same.mpr fun m _ => ⟨rfl,rfl⟩
    refine ((agrees_slots hslots).ofMembers hpairs).trans ?_
    exact fields.2.ofMembers_perm (Json.nodup_map_normal hnodup) hperm

/-- The members behind the type may be sorted, which does not matter to who looks for their names. -/
lemma agree_ofMembers_arrange (kind : PaymentKind) {members : List (String × Json)}
    (hnodup : (members.map Prod.fst).Nodup) :
    Agree Eq (ofMembers kind (members.filter (·.1 != "type"))) (ofMembers kind
      ((Json.arrange (members.map fun m => (m.1, m.2.normal))).filter (·.1 != "type"))) := by
  have hperm := Json.perm_arrange (Json.nodup_map_normal hnodup)
  refine agree_ofMembers kind (hnodup.sublist (List.filter_sublist.map _)) ?_
  refine List.Perm.trans ?_ (hperm.symm.filter _)
  rw [List.filter_map]
  rfl

/-- A payment is read from the items behind its type as from their normal forms. -/
lemma agree_ofItems (kind : PaymentKind) (items : List Json) :
    Agree Eq (ofItems kind items) (ofItems kind (items.map Json.normal)) := by
  unfold ofItems
  cases hslots : slots kind with
  | none =>
    cases items with
    | nil => exact .ok rfl
    | cons => exact .error
  | some fields =>
    have hitems : List.Forall₂ Json.Settles items (items.map Json.normal) := by
      refine List.forall₂_map_right_iff.mpr ?_
      exact List.forall₂_same.mpr fun _ _ => rfl
    refine ((agrees_slots hslots).listed rfl rfl 0 0 hitems).bind ?_
    rintro ⟨a,i,rest⟩ ⟨_,i',rest'⟩ ⟨rfl,hrest⟩
    cases hrest with
    | nil => exact .ok rfl
    | cons => exact .error

variable {depth : ℕ} {node : Node} {j : Json}

/-- The type is read from a text as from its value. -/
lemma agree_kindOfNode (h : node.read depth = .ok j) :
    Agree Eq (kindOfNode node) (kindOfJson j.normal) := by
  cases Node.spells_of_read h with
  | string => exact (Agree.refl _).mapError_left _
  | array => rw [Json.normal_array]; exact .error
  | object => rw [Json.normal_object]; exact .error
  | null | bool | number => exact .error

/-- An object in a text is split into its type and its other members. -/
lemma agree_splitMembers {members : List (Key × Node × ℕ)} {values : List (String × Json)}
    (parts : List.Forall₂ (Node.ReadsMember depth) members values)
    (hnodup : (values.map Prod.fst).Nodup) (kind : Option PaymentKind)
    (hkind : kind.isSome = true → values.lookup "type" = none) (others : List (String × Json)) :
    Agree Eq (splitMembers depth kind others members)
      (((values.lookup "type").elim (.ok kind) fun j => (kindOfJson j.normal).map some).map
        fun k => (k, others.reverse ++ values.filter (·.1 != "type"))) := by
  induction parts generalizing kind others with
  | nil => exact .ok (by simp)
  | @cons m v members values hm _ ih =>
    obtain ⟨key,node,settled⟩ := m
    obtain ⟨name,value⟩ := v
    obtain ⟨hname,hread⟩ : key.name = .ok name ∧ node.read depth = .ok value := hm
    obtain ⟨hfresh,hrest⟩ := List.nodup_cons.mp hnodup
    simp only [splitMembers, hname]
    change Agree Eq (if name = "type" then _ else _) _
    by_cases htype : name = "type"
    · -- No name is repeated, so no other type stands before this one or behind it.
      subst htype
      have hnone : values.lookup "type" = none :=
        List.lookup_eq_none_iff.mpr fun m hm => bne_iff_ne.mpr fun heq =>
          hfresh (List.mem_map.mpr ⟨m,hm,heq.symm⟩)
      have hstart : kind = none := by
        cases kind with
        | none => rfl
        | some k => simp at hkind
      subst hstart
      have hagree := agree_kindOfNode hread
      rw [if_pos rfl, List.lookup_cons_self]
      simp only [Option.isSome_none, Bool.false_eq_true, if_false, Option.elim_some]
      generalize kindOfNode node = x, kindOfJson value.normal = y at hagree
      cases hagree with
      | error => exact .error
      | @ok k _ heq =>
        subst heq
        have hsplit := ih hrest (some k) (fun _ => hnone) others
        rw [hnone] at hsplit
        change Agree Eq (splitMembers depth (some k) others members) _
        simpa [Except.map] using hsplit
    · rw [Entries.lookup_cons_of_ne (Ne.symm htype)] at hkind ⊢
      have hsplit := ih hrest kind hkind ((name,value) :: others)
      rw [if_neg htype]
      change Agree Eq (node.read depth >>= fun j =>
        splitMembers depth kind ((name,j) :: others) members) _
      rw [hread]
      change Agree Eq (splitMembers depth kind ((name,value) :: others) members) _
      simpa [htype] using hsplit

/-- A payment is read from an object by its type and its other members. -/
lemma ofJson_object {members : List (String × Json)} (h : (members.map Prod.fst).Nodup) :
    ofJson (.object members) = (members.lookup "type").elim (.error (.missingField "type"))
      fun j => kindOfJson j >>= fun kind =>
        (ofMembers kind (members.filter (·.1 != "type"))).mapError Fault.problem := by
  simp only [ofJson, Entries.filter_eq_of_nodup h]
  cases members.lookup "type" <;> rfl

/-- A payment gives the same from a text as from the value of the text. -/
theorem agrees_decoder : decoder.Agrees := by
  intro depth node written hread hdistinct
  cases Node.spells_of_read hread with
  | null | bool | number | string => exact .error
  | @array start items values stop deep parts =>
    rw [Json.normal_array]
    simp only [decoder, readText, if_neg deep]
    cases parts with
    | nil => exact .error
    | @cons item first items values hitem rest =>
      obtain ⟨node,settled⟩ := item
      simp only [Node.readItems_of_parts rest, List.map_cons, ofJson]
      refine (agree_kindOfNode hitem).bind ?_
      rintro kind _ rfl
      exact (agree_ofItems kind values).mapError_right _
  | @object start members values stop deep parts =>
    obtain ⟨hnodup,-⟩ := Json.isDistinct_object.mp hdistinct
    have hnodup' := Json.nodup_map_normal hnodup
    rw [Json.normal_object]
    simp only [decoder, readText, if_neg deep]
    rw [ofJson_object (Json.ascending_arrange _).nodup, Json.lookup_arrange_of_nodup hnodup',
      Entries.lookup_map]
    have hsplit := agree_splitMembers parts hnodup none (by simp) []
    generalize splitMembers (depth - 1) none [] members = split at hsplit
    cases htype : values.lookup "type" with
    | none =>
      rw [htype] at hsplit
      cases hsplit with
      | ok h =>
        subst h
        exact .error
    | some j =>
      rw [htype, Option.elim_some] at hsplit
      rw [Option.map_some, Option.elim_some]
      cases hkind : kindOfJson j.normal with
      | error problem =>
        rw [hkind] at hsplit
        cases hsplit with
        | error => exact .error
      | ok kind =>
        rw [hkind] at hsplit
        cases hsplit with
        | ok h =>
          subst h
          exact (agree_ofMembers_arrange kind hnodup).mapError_right _

end PaymentMethod
end Checkout
