import Checkout.Transaction.Draft
import Checkout.Proofs.Payment.Description

/-! Drafts and the requests that they stand for. All that a draft lacks is reported at once and before
the description of its payment is looked at; the list of what is lacking and the test for a complete
draft are computed apart, so their agreement is shown here. A complete draft keeps what it holds. -/
namespace Checkout

open Checkout.Money (Cents)

namespace Draft

/-- The entries that a draft must have, in their order. -/
def required : List String :=
  ["acceptance_token", "amount_in_cents", "currency", "customer_email", "reference", "payment_method"]

/-- A text that is not there, or has nothing but white space in it. -/
inductive Wanting : Option String → Prop
  | absent : Wanting none
  | blank {s : String} (h : ∀ c ∈ s.toList, Text.isBlank c = true) : Wanting (some s)

/-- A required entry that is missing from a draft. -/
inductive Lacks (d : Draft) : String → Prop
  | acceptanceToken (h : Wanting d.acceptanceToken) : Lacks d "acceptance_token"
  | amount (h : d.amount = none) : Lacks d "amount_in_cents"
  | currency (h : Wanting d.currency) : Lacks d "currency"
  | customerEmail (h : Wanting d.customerEmail) : Lacks d "customer_email"
  | reference (h : Wanting d.reference) : Lacks d "reference"
  | paymentMethod (h : d.paymentMethod = none ∨ d.paymentMethod = some .null) :
      Lacks d "payment_method"

/-- A request holds what a draft holds. The payment is left out, a draft has only its description. -/
structure Keeps (d : Draft) (r : TransactionRequest) : Prop where
  acceptanceToken : d.acceptanceToken = some r.acceptanceToken
  amount : d.amount = some r.amount
  currency : d.currency = some r.currency
  customerEmail : d.customerEmail = some r.customerEmail
  reference : d.reference = some r.reference
  shippingAddress : d.shippingAddress = r.shippingAddress

/-- What building a draft comes to. -/
inductive Builds (d : Draft) : Except GatewayError TransactionRequest → Prop
  | incomplete {fields : List String} (hne : fields ≠ []) (horder : fields.Sublist required)
      (h : ∀ name, name ∈ fields ↔ d.Lacks name) :
      Builds d (.error (.missingFields "transaction" fields))
  | refused {descriptor : Json} {e : GatewayError} (h : ∀ name, ¬ d.Lacks name)
      (hdescriptor : d.paymentMethod = some descriptor)
      (hread : Descriptor.toMethod descriptor = .error e) : Builds d (.error e)
  | complete {descriptor : Json} {r : TransactionRequest} (h : ∀ name, ¬ d.Lacks name)
      (hdescriptor : d.paymentMethod = some descriptor)
      (hread : Descriptor.toMethod descriptor = .ok r.paymentMethod) (hkeeps : d.Keeps r) :
      Builds d (.ok r)

variable {d : Draft}

lemma Keeps.unique {r r' : TransactionRequest} (h : d.Keeps r) (h' : d.Keeps r')
    (hpayment : r.paymentMethod = r'.paymentMethod) : r = r' := by
  cases r
  cases r'
  simp only [TransactionRequest.mk.injEq]
  exact ⟨Option.some.inj (h.acceptanceToken.symm.trans h'.acceptanceToken),
    Option.some.inj (h.amount.symm.trans h'.amount),Option.some.inj (h.currency.symm.trans h'.currency),
    Option.some.inj (h.customerEmail.symm.trans h'.customerEmail),
    Option.some.inj (h.reference.symm.trans h'.reference),hpayment,
    h.shippingAddress.symm.trans h'.shippingAddress⟩

lemma wanting_some_iff {s : String} : Wanting (some s) ↔ Text.isBlankText s = true := by
  rw [Text.isBlankText, List.all_eq_true]
  constructor
  · rintro (_ | h)
    exact h
  · exact .blank

lemma nonBlank_eq_none_iff {o : Option String} : nonBlank o = none ↔ Wanting o := by
  cases o with
  | none => exact iff_of_true rfl .absent
  | some s => simp [nonBlank, wanting_some_iff]

lemma eq_some_of_nonBlank {o : Option String} {s : String} (h : nonBlank o = some s) :
    o = some s ∧ ¬ Wanting o := by
  refine ⟨(Option.filter_eq_some_iff.mp h).1,fun hnone => ?_⟩
  rw [nonBlank_eq_none_iff.mpr hnone] at h
  cases h

lemma nonNull_eq_none_iff {o : Option Json} : nonNull o = none ↔ o = none ∨ o = some .null := by
  rcases o with _ | (_ | _) <;> simp [nonNull, Json.isNull]

lemma eq_some_of_nonNull {o : Option Json} {j : Json} (h : nonNull o = some j) :
    o = some j ∧ ¬ (o = none ∨ o = some .null) := by
  refine ⟨(Option.filter_eq_some_iff.mp h).1,fun hnone => ?_⟩
  rw [nonNull_eq_none_iff.mpr hnone] at h
  cases h

lemma missing_sublist (d : Draft) : d.missing.Sublist required := List.filter_sublist.map Prod.fst

lemma mem_missing_iff {name : String} : name ∈ d.missing ↔ d.Lacks name := by
  have hpresence : name ∈ d.missing ↔ (name,false) ∈ d.presence := by
    simp [missing]
  rw [hpresence]
  simp only [presence, List.mem_cons, Prod.mk.injEq, List.not_mem_nil, or_false,
    Option.isSome_eq_false_iff, Option.isNone_iff_eq_none, eq_comm (a := false),
    nonBlank_eq_none_iff, nonNull_eq_none_iff]
  constructor
  · rintro (⟨rfl,h⟩ | ⟨rfl,h⟩ | ⟨rfl,h⟩ | ⟨rfl,h⟩ | ⟨rfl,h⟩ | ⟨rfl,h⟩)
    · exact .acceptanceToken h
    · exact .amount h
    · exact .currency h
    · exact .customerEmail h
    · exact .reference h
    · exact .paymentMethod h
  · intro h
    cases h <;> simp [*]

section Complete
variable {token currency email reference : String} {amount : Cents} {descriptor : Json}

lemma not_lacks (htoken : nonBlank d.acceptanceToken = some token) (hamount : d.amount = some amount)
    (hcurrency : nonBlank d.currency = some currency) (hemail : nonBlank d.customerEmail = some email)
    (hreference : nonBlank d.reference = some reference)
    (hpayment : nonNull d.paymentMethod = some descriptor) (name : String) : ¬ d.Lacks name := by
  rintro (h | h | h | h | h | h)
  · exact (eq_some_of_nonBlank htoken).2 h
  · cases hamount.symm.trans h
  · exact (eq_some_of_nonBlank hcurrency).2 h
  · exact (eq_some_of_nonBlank hemail).2 h
  · exact (eq_some_of_nonBlank hreference).2 h
  · exact (eq_some_of_nonNull hpayment).2 h

end Complete

/-- What a draft holds that lacks nothing. -/
lemma exists_of_forall_not_lacks (h : ∀ name, ¬ d.Lacks name) :
    ∃ token amount currency email reference descriptor,
      nonBlank d.acceptanceToken = some token ∧ d.amount = some amount ∧
      nonBlank d.currency = some currency ∧ nonBlank d.customerEmail = some email ∧
      nonBlank d.reference = some reference ∧ nonNull d.paymentMethod = some descriptor := by
  have htext {o : Option String} (ho : ¬ Wanting o) : ∃ s, nonBlank o = some s :=
    Option.ne_none_iff_exists'.mp (mt nonBlank_eq_none_iff.mp ho)
  obtain ⟨token,htoken⟩ := htext fun hw => h _ (.acceptanceToken hw)
  obtain ⟨amount,hamount⟩ := Option.ne_none_iff_exists'.mp fun hnone => h _ (.amount hnone)
  obtain ⟨currency,hcurrency⟩ := htext fun hw => h _ (.currency hw)
  obtain ⟨email,hemail⟩ := htext fun hw => h _ (.customerEmail hw)
  obtain ⟨reference,hreference⟩ := htext fun hw => h _ (.reference hw)
  obtain ⟨descriptor,hpayment⟩ :=
    Option.ne_none_iff_exists'.mp (mt nonNull_eq_none_iff.mp fun hnull => h _ (.paymentMethod hnull))
  exact ⟨_,_,_,_,_,_,htoken,hamount,hcurrency,hemail,hreference,hpayment⟩

/-- The list of what is missing and the test for a complete draft agree. -/
theorem builds_build (d : Draft) : Builds d d.build := by
  unfold build
  split
  · next descriptor htoken hamount hcurrency hemail hreference hpayment =>
    have hfull := not_lacks htoken hamount hcurrency hemail hreference hpayment
    have hdescriptor := (eq_some_of_nonNull hpayment).1
    cases hread : Descriptor.toMethod descriptor with
    | error e => exact .refused hfull hdescriptor hread
    | ok method =>
      exact .complete hfull hdescriptor hread ⟨(eq_some_of_nonBlank htoken).1,hamount,
        (eq_some_of_nonBlank hcurrency).1,(eq_some_of_nonBlank hemail).1,
        (eq_some_of_nonBlank hreference).1,rfl⟩
  · next hnot =>
    refine .incomplete (fun hnil => ?_) d.missing_sublist fun name => mem_missing_iff
    -- were nothing missing, the match would not have failed
    have hfull (name : String) : ¬ d.Lacks name := by
      rw [← mem_missing_iff, hnil]
      exact List.not_mem_nil
    obtain ⟨_,_,_,_,_,_,htoken,hamount,hcurrency,hemail,hreference,hpayment⟩ :=
      exists_of_forall_not_lacks hfull
    exact hnot _ _ _ _ _ _ htoken hamount hcurrency hemail hreference hpayment

lemma keeps_of_build {r : TransactionRequest} (h : d.build = .ok r) : d.Keeps r ∧
    ∃ descriptor, d.paymentMethod = some descriptor ∧
      Descriptor.toMethod descriptor = .ok r.paymentMethod := by
  have hbuilds := builds_build d
  rw [h] at hbuilds
  cases hbuilds with
  | complete _ hdescriptor hread hkeeps => exact ⟨hkeeps,_,hdescriptor,hread⟩

section Fields
variable {fields fields' : List String}

lemma exists_lacks (hne : fields ≠ []) (h : ∀ name, name ∈ fields ↔ d.Lacks name) :
    ∃ name, d.Lacks name := by
  obtain ⟨name,hname⟩ := List.exists_mem_of_ne_nil fields hne
  exact ⟨name,(h name).mp hname⟩

/-- There is one list of the entries that are lacking in their order. -/
lemma fields_unique (horder : fields.Sublist required) (horder' : fields'.Sublist required)
    (h : ∀ name, name ∈ fields ↔ d.Lacks name) (h' : ∀ name, name ∈ fields' ↔ d.Lacks name) :
    fields = fields' := by
  have hnodup : required.Nodup := by decide
  refine (hnodup.perm_iff_eq_of_sublist horder horder').mp ?_
  refine (List.perm_ext_iff_of_nodup (hnodup.sublist horder) (hnodup.sublist horder')).mpr ?_
  exact fun name => (h name).trans (h' name).symm

end Fields

/-- A draft builds to one result. -/
lemma Builds.unique {x y : Except GatewayError TransactionRequest} (hx : Builds d x)
    (hy : Builds d y) : x = y := by
  have hsame {j j' : Json} (h : d.paymentMethod = some j) (h' : d.paymentMethod = some j') : j = j' :=
    Option.some.inj (h.symm.trans h')
  cases hx with
  | incomplete hne horder h =>
    cases hy with
    | incomplete hne' horder' h' => rw [fields_unique horder horder' h h']
    | refused h' | complete h' => exact absurd (exists_lacks hne h) (not_exists.mpr h')
  | refused h hdescriptor hread =>
    cases hy with
    | incomplete hne' _ h' => exact absurd (exists_lacks hne' h') (not_exists.mpr h)
    | refused _ hdescriptor' hread' =>
      cases hsame hdescriptor hdescriptor'
      rw [Except.error.inj (hread.symm.trans hread')]
    | complete _ hdescriptor' hread' =>
      cases hsame hdescriptor hdescriptor'
      cases hread.symm.trans hread'
  | complete h hdescriptor hread hkeeps =>
    cases hy with
    | incomplete hne' _ h' => exact absurd (exists_lacks hne' h') (not_exists.mpr h)
    | refused _ hdescriptor' hread' =>
      cases hsame hdescriptor hdescriptor'
      cases hread.symm.trans hread'
    | complete _ hdescriptor' hread' hkeeps' =>
      cases hsame hdescriptor hdescriptor'
      rw [hkeeps.unique hkeeps' (Except.ok.inj (hread.symm.trans hread'))]

/-- What a description is refused for does not look like what a draft lacks. -/
lemma not_refusal_missing (fields : List String) :
    ¬ Descriptor.Refusal (.missingFields "transaction" fields) := by
  intro h
  generalize hcontext : "transaction" = context at h
  cases h with
  | incomplete kind => cases kind <;> revert hcontext <;> decide +kernel

lemma Builds.missing_iff {x : Except GatewayError TransactionRequest} (hx : Builds d x) :
    (∃ fields, x = .error (.missingFields "transaction" fields)) ↔ ∃ name, d.Lacks name := by
  cases hx with
  | incomplete hne _ h => exact iff_of_true ⟨_,rfl⟩ (exists_lacks hne h)
  | refused h _ hread =>
    refine iff_of_false ?_ (not_exists.mpr h)
    rintro ⟨fields,herror⟩
    cases herror
    exact not_refusal_missing fields (Descriptor.refusal_of_toMethod hread)
  | complete h => exact iff_of_false (by simp) (not_exists.mpr h)

/-- A draft is refused for what it lacks exactly if it lacks something, whatever describes its payment:
then the entries that are lacking are named in their order, and they are some. Otherwise the result is
the error for the description of the payment, or a request that keeps what the draft holds. -/
theorem build_decides (d : Draft) :
    (∀ r, d.build = r ↔ Builds d r) ∧
    ((∃ fields, d.build = .error (.missingFields "transaction" fields)) ↔ ∃ name, d.Lacks name) := by
  have hbuilds := builds_build d
  exact ⟨fun r => ⟨fun h => h ▸ hbuilds,hbuilds.unique⟩,hbuilds.missing_iff⟩

end Draft
end Checkout
