import Checkout.Proofs.Payment.Described

/-! Descriptions of payments, judged by their entries. What a description lacks for its kind is reported
first and all at once; what stands under its entries then decides whether it is a payment, and which
one. Other entries bear on nothing. The decoder of payments does the same to every object, so its table
of fields and the list of required names never disagree. -/
namespace Checkout

namespace Descriptor

open PaymentMethod (Describes Installs)

/-- The kind that a description names as its type. -/
def Names (d : Json) (kind : PaymentKind) : Prop := d.get? "type" = some (.string kind.name)

/-- What may stand under a required name: a text, and for the person type also a whole number of one
byte. -/
inductive Suits (name : String) : Json → Prop
  | text (s : String) : Suits name (.string s)
  | byte {n : WholeNumber} (hname : name = "user_type") (hn : 0 ≤ n.val ∧ n.val ≤ 255) :
      Suits name (.whole n)

/-- What may stand for installments: nothing, null or a whole number of 32 bits. -/
inductive SuitsInstallments : Option Json → Prop
  | absent : SuitsInstallments none
  | null : SuitsInstallments (some .null)
  | word {n : WholeNumber} (hn : 0 ≤ n.val ∧ n.val ≤ 2 ^ 32 - 1) : SuitsInstallments (some (.whole n))

/-- A description has what a kind requires, each entry of its type. -/
structure Fits (d : Json) (kind : PaymentKind) : Prop where
  required : ∀ name ∈ kind.requiredFields, ∃ j, d.get? name = some j ∧ Suits name j
  installments : kind = .card → SuitsInstallments (d.get? "installments")

variable {d : Json} {kind : PaymentKind} {m : PaymentMethod}

lemma Suits.exists_text {name : String} {j : Json} (h : Suits name j) (hname : name ≠ "user_type") :
    ∃ s, j = .string s := by
  cases h with
  | text s => exact ⟨s,rfl⟩
  | byte heq => exact absurd heq hname

lemma Suits.exists_userType {name : String} {j : Json} (h : Suits name j) :
    ∃ u : UserType, j = u.toJson := by
  cases h with
  | text s => exact ⟨.label s,rfl⟩
  | byte _ hn => exact ⟨_,UserType.whole_eq_toJson ⟨hn.1,by omega⟩⟩

lemma suits_userType (u : UserType) : Suits "user_type" u.toJson := by
  cases u with
  | code n =>
    refine .byte rfl ?_
    have hn := n.toNat_lt
    simp only [WholeNumber.ofUInt8]
    omega
  | label s => exact .text s

lemma SuitsInstallments.exists_installs {o : Option Json} (h : SuitsInstallments o) :
    ∃ n, Installs o n := by
  cases h with
  | absent => exact ⟨none,.absent⟩
  | null => exact ⟨none,.null⟩
  | word hn =>
    rw [PaymentMethod.whole_eq_ofUInt32 ⟨hn.1,by omega⟩]
    exact ⟨_,.count _⟩

lemma suitsInstallments_of_installs {o : Option Json} {n : Option UInt32} (h : Installs o n) :
    SuitsInstallments o := by
  cases h with
  | absent => exact .absent
  | null => exact .null
  | count n =>
    refine .word ?_
    have hn := n.toNat_lt
    simp only [WholeNumber.ofUInt32]
    omega

/-- What describes a payment fits its kind. -/
lemma fits_of_describes (hnames : Names d m.kind) (h : Describes (fun name => d.get? name) m) :
    Fits d m.kind := by
  have htext {name s : String} (hs : d.get? name = some (.string s)) :
      ∃ j, d.get? name = some j ∧ Suits name j := ⟨_,hs,.text s⟩
  have huser {u : UserType} (hu : d.get? "user_type" = some u.toJson) :
      ∃ j, d.get? "user_type" = some j ∧ Suits "user_type" j := ⟨_,hu,suits_userType u⟩
  cases h with
  | card htoken hn =>
    refine ⟨?_,fun _ => suitsInstallments_of_installs hn⟩
    simp only [PaymentMethod.kind, PaymentKind.requiredFields, List.forall_mem_cons]
    exact ⟨htext hnames,htext htoken,by simp⟩
  | nequi hphone =>
    refine ⟨?_,fun hcard => by cases hcard⟩
    simp only [PaymentMethod.kind, PaymentKind.requiredFields, List.forall_mem_cons]
    exact ⟨htext hnames,htext hphone,by simp⟩
  | pse hu ha hb hc he =>
    refine ⟨?_,fun hcard => by cases hcard⟩
    simp only [PaymentMethod.kind, PaymentKind.requiredFields, List.forall_mem_cons]
    exact ⟨htext hnames,huser hu,htext ha,htext hb,htext hc,htext he,by simp⟩
  | bancolombiaTransfer hu ha =>
    refine ⟨?_,fun hcard => by cases hcard⟩
    simp only [PaymentMethod.kind, PaymentKind.requiredFields, List.forall_mem_cons]
    exact ⟨htext hnames,huser hu,htext ha,by simp⟩
  | bancolombiaCollect =>
    refine ⟨?_,fun hcard => by cases hcard⟩
    simp only [PaymentMethod.kind, PaymentKind.requiredFields, List.forall_mem_cons]
    exact ⟨htext hnames,by simp⟩

/-- A description that fits a kind is one of a payment of this kind. -/
lemma Fits.exists_describes (h : Fits d kind) :
    ∃ m : PaymentMethod, m.kind = kind ∧ Describes (fun name => d.get? name) m := by
  have htext (name : String) (hmem : name ∈ kind.requiredFields) (hname : name ≠ "user_type") :
      ∃ s, d.get? name = some (.string s) := by
    obtain ⟨j,hj,hsuits⟩ := h.required name hmem
    obtain ⟨s,rfl⟩ := hsuits.exists_text hname
    exact ⟨s,hj⟩
  have huser (hmem : "user_type" ∈ kind.requiredFields) :
      ∃ u : UserType, d.get? "user_type" = some u.toJson := by
    obtain ⟨j,hj,hsuits⟩ := h.required _ hmem
    obtain ⟨u,rfl⟩ := hsuits.exists_userType
    exact ⟨u,hj⟩
  cases kind with
  | card =>
    obtain ⟨token,htoken⟩ := htext "token" (by decide) (by decide)
    obtain ⟨n,hn⟩ := (h.installments rfl).exists_installs
    exact ⟨_,rfl,.card htoken hn⟩
  | nequi =>
    obtain ⟨phone,hphone⟩ := htext "phone_number" (by decide) (by decide)
    exact ⟨_,rfl,.nequi hphone⟩
  | pse =>
    obtain ⟨u,hu⟩ := huser (by decide)
    obtain ⟨a,ha⟩ := htext "user_legal_id_type" (by decide) (by decide)
    obtain ⟨b,hb⟩ := htext "user_legal_id" (by decide) (by decide)
    obtain ⟨c,hc⟩ := htext "financial_institution_code" (by decide) (by decide)
    obtain ⟨e,he⟩ := htext "payment_description" (by decide) (by decide)
    exact ⟨_,rfl,.pse hu ha hb hc he⟩
  | bancolombiaTransfer =>
    obtain ⟨u,hu⟩ := huser (by decide)
    obtain ⟨a,ha⟩ := htext "payment_description" (by decide) (by decide)
    exact ⟨_,rfl,.bancolombiaTransfer hu ha⟩
  | bancolombiaCollect => exact ⟨_,rfl,.bancolombiaCollect⟩

/-- The entries of a description that matter. -/
def entries (d : Json) : List String := (kind? d).elim ["type"] PaymentKind.entries

lemma Names.unique {kind' : PaymentKind} (h : Names d kind) (h' : Names d kind') : kind = kind' := by
  have hname : kind.name = kind'.name := Json.string.inj (Option.some.inj (h.symm.trans h'))
  have hsame := PaymentKind.ofName?_name kind
  rw [hname, PaymentKind.ofName?_name] at hsame
  exact (Option.some.inj hsame).symm

lemma Names.exists_object (h : Names d kind) : ∃ members, d = .object members := by
  cases d with
  | object members => exact ⟨members,rfl⟩
  | null | bool | number | string | array => cases h

lemma typeName?_eq_some_iff {s : String} : typeName? d = some s ↔ d.get? "type" = some (.string s) := by
  rw [typeName?, Option.bind_eq_some_iff]
  simp only [Json.string?_eq_some_iff, exists_eq_right]

theorem kind?_eq_some_iff : kind? d = some kind ↔ Names d kind := by
  rw [kind?, Option.bind_eq_some_iff]
  simp only [typeName?_eq_some_iff, PaymentKind.ofName?_eq_some_iff, exists_eq_right, Names]

/-- What the checks of a description come to. -/
inductive Verdict (d : Json) : Except GatewayError PaymentKind → Prop
  | unnamed (h : ∀ kind, ¬ Names d kind) :
      Verdict d (.error (.unsupportedPaymentType ((typeName? d).getD "")))
  | incomplete {kind : PaymentKind} (hnames : Names d kind) (h : missing kind d ≠ []) :
      Verdict d (.error (.missingFields ("payment type " ++ kind.name) (missing kind d)))
  | complete {kind : PaymentKind} (hnames : Names d kind) (h : missing kind d = []) :
      Verdict d (.ok kind)

lemma validate_of_unnamed (h : kind? d = none) :
    validate d = .error (.unsupportedPaymentType ((typeName? d).getD "")) := by
  have hname : PaymentKind.ofName? ((typeName? d).getD "") = none := by
    rw [kind?] at h
    cases htype : typeName? d with
    | none => decide +kernel
    | some s => simpa [htype] using h
  simp only [validate, hname]

lemma validate_of_names (h : Names d kind) : validate d = match missing kind d with
    | [] => .ok kind
    | fields => .error (.missingFields ("payment type " ++ kind.name) fields) := by
  have hname : PaymentKind.ofName? ((typeName? d).getD "") = some kind := by
    rw [typeName?_eq_some_iff.mpr h, Option.getD_some, PaymentKind.ofName?_name]
  cases hmissing : missing kind d <;> simp only [validate, hname, hmissing]

/-- A description is checked for the kind that it names, then for what it lacks. -/
theorem verdict_validate (d : Json) : Verdict d (validate d) := by
  cases hkind : kind? d with
  | none =>
    rw [validate_of_unnamed hkind]
    refine .unnamed fun kind hnames => ?_
    cases hkind.symm.trans (kind?_eq_some_iff.mpr hnames)
  | some kind =>
    have hnames := kind?_eq_some_iff.mp hkind
    rw [validate_of_names hnames]
    split
    · next hmissing => exact .complete hnames hmissing
    · next hmissing => exact .incomplete hnames hmissing

/-- What a description can be refused for. -/
inductive Refusal : GatewayError → Prop
  | unnamed (name : String) : Refusal (.unsupportedPaymentType name)
  | incomplete (kind : PaymentKind) (fields : List String) :
      Refusal (.missingFields ("payment type " ++ kind.name) fields)
  | unfit (reason : String) : Refusal (.invalidPaymentData reason)

lemma refusal_of_toMethod {e : GatewayError} (h : toMethod d = .error e) : Refusal e := by
  have hverdict := verdict_validate d
  unfold toMethod at h
  generalize validate d = verdict at hverdict h
  cases hverdict with
  | unnamed =>
    cases h
    exact .unnamed _
  | incomplete =>
    cases h
    exact .incomplete _ _
  | complete =>
    cases hvalue : PaymentMethod.decoder.value d with
    | ok m => simp [hvalue, Except.mapError] at h
    | error problem =>
      simp only [hvalue, Except.mapError, Except.error.injEq] at h
      subst h
      exact .unfit _

/-- What reading a description comes to. -/
inductive Reading (d : Json) : Except GatewayError PaymentMethod → Prop
  | unnamed (h : ∀ kind, ¬ Names d kind) :
      Reading d (.error (.unsupportedPaymentType ((typeName? d).getD "")))
  | incomplete {kind : PaymentKind} (hnames : Names d kind) (h : missing kind d ≠ []) :
      Reading d (.error (.missingFields ("payment type " ++ kind.name) (missing kind d)))
  | unfit {kind : PaymentKind} {reason : String} (hnames : Names d kind) (h : missing kind d = [])
      (hunfit : ¬ Fits d kind) :
      Reading d (.error (.invalidPaymentData reason))
  | payment {m : PaymentMethod} (hnames : Names d m.kind) (h : Describes (fun name => d.get? name) m) :
      Reading d (.ok m)

lemma Fits.missing_eq_nil (h : Fits d kind) : missing kind d = [] := by
  refine List.filter_eq_nil_iff.mpr fun name hname => ?_
  obtain ⟨j,hj,-⟩ := h.required name hname
  simp [hj]

/-- A description that is a value is read by its entries. -/
theorem reading_toMethod (hd : d.normal = d) : Reading d (toMethod d) := by
  have hverdict := verdict_validate d
  unfold toMethod
  generalize validate d = verdict at hverdict
  cases hverdict with
  | unnamed h => exact .unnamed h
  | incomplete hnames h => exact .incomplete hnames h
  | @complete kind hnames h =>
    obtain ⟨members,rfl⟩ := hnames.exists_object
    have hread {m : PaymentMethod} :=
      @PaymentMethod.decoder_object_eq_ok_iff members m (Json.ascending_of_normal hd).nodup
    cases hvalue : PaymentMethod.decoder.value (.object members) with
    | ok m =>
      obtain ⟨hm,hdescribes⟩ := hread.mp hvalue
      exact .payment hm hdescribes
    | error problem =>
      refine .unfit hnames h fun hfits => ?_
      obtain ⟨m,rfl,hdescribes⟩ := hfits.exists_describes
      cases hvalue.symm.trans (hread.mpr ⟨hnames,hdescribes⟩)

/-- Descriptions that agree in the entries that matter come to the same. -/
theorem toMethod_congr {d' : Json} (hd : d.normal = d) (hd' : d'.normal = d')
    (h : ∀ name ∈ entries d, d'.get? name = d.get? name) : toMethod d' = toMethod d := by
  have hentries : "type" ∈ entries d := by
    rw [entries]
    cases kind? d with
    | none => simp
    | some kind => exact kind.type_mem_entries
  have htype := h _ hentries
  have hname : typeName? d' = typeName? d := by rw [typeName?, typeName?, htype]
  cases hkind : kind? d with
  | none =>
    have hkind' : kind? d' = none := by rw [← hkind, kind?, kind?, hname]
    simp only [toMethod, validate_of_unnamed hkind, validate_of_unnamed hkind', hname]
  | some kind =>
    have hnames := kind?_eq_some_iff.mp hkind
    have hnames' : Names d' kind := htype.trans hnames
    rw [entries, hkind, Option.elim_some] at h
    have hmissing : missing kind d' = missing kind d := by
      refine List.filter_congr fun name hmem => ?_
      rw [h name (List.mem_append_left _ hmem)]
    have hvalidate : validate d' = validate d := by
      rw [validate_of_names hnames, validate_of_names hnames', hmissing]
    obtain ⟨members,rfl⟩ := hnames.exists_object
    obtain ⟨members',rfl⟩ := hnames'.exists_object
    have hvalue : PaymentMethod.decoder.value (.object members') =
        PaymentMethod.decoder.value (.object members) :=
      PaymentMethod.ofJson_congr (Json.ascending_of_normal hd) (Json.ascending_of_normal hd') hnames h
    rw [toMethod, toMethod, hvalidate, hvalue]

section Reading
variable {r : Except GatewayError PaymentMethod}

lemma Reading.unsupported_iff (h : Reading d r) {name : String} :
    r = .error (.unsupportedPaymentType name) ↔
      (∀ kind, ¬ Names d kind) ∧ name = (typeName? d).getD "" := by
  cases h with
  | unnamed h =>
    rw [Except.error.injEq, GatewayError.unsupportedPaymentType.injEq, eq_comm]
    exact (and_iff_right h).symm
  | incomplete hnames | unfit hnames | payment hnames =>
    exact iff_of_false (by simp) fun h => h.1 _ hnames

lemma Reading.missingFields_iff (h : Reading d r) (hnames : Names d kind) {context : String}
    {fields : List String} : r = .error (.missingFields context fields) ↔
      missing kind d ≠ [] ∧ fields = missing kind d ∧ context = "payment type " ++ kind.name := by
  cases h with
  | unnamed h => exact absurd hnames (h kind)
  | incomplete hnames' h =>
    cases hnames.unique hnames'
    rw [Except.error.injEq, GatewayError.missingFields.injEq, and_iff_right h, and_comm]
    exact and_congr eq_comm eq_comm
  | unfit hnames' h =>
    cases hnames.unique hnames'
    simp [h]
  | payment hnames' h =>
    cases hnames.unique hnames'
    simp [(fits_of_describes hnames h).missing_eq_nil]

lemma Reading.ok_iff (h : Reading d r) (hnames : Names d kind) :
    (∃ m, r = .ok m) ↔ Fits d kind := by
  cases h with
  | unnamed h => exact absurd hnames (h kind)
  | incomplete hnames' h =>
    cases hnames.unique hnames'
    exact iff_of_false (by simp) fun hfits => h hfits.missing_eq_nil
  | unfit hnames' _ hunfit =>
    cases hnames.unique hnames'
    exact iff_of_false (by simp) hunfit
  | @payment m hnames' h =>
    cases hnames.unique hnames'
    exact iff_of_true ⟨m,rfl⟩ (fits_of_describes hnames h)

lemma Reading.invalid_iff (h : Reading d r) (hnames : Names d kind) (hmissing : missing kind d = []) :
    (∃ reason, r = .error (.invalidPaymentData reason)) ↔ ¬ Fits d kind := by
  rw [← h.ok_iff hnames]
  cases h with
  | unnamed h => exact absurd hnames (h kind)
  | incomplete hnames' h =>
    cases hnames.unique hnames'
    exact absurd hmissing h
  | unfit | payment => simp

end Reading

lemma validate_of_describes (hnames : Names d m.kind) (h : Describes (fun name => d.get? name) m) :
    validate d = .ok m.kind := by
  rw [validate_of_names hnames, (fits_of_describes hnames h).missing_eq_nil]

/-- A description is read as the payment that it names and describes. -/
theorem toMethod_eq_ok_iff (hd : d.normal = d) :
    toMethod d = .ok m ↔ Names d m.kind ∧ Describes (fun name => d.get? name) m := by
  constructor
  · intro h
    have hreading := reading_toMethod hd
    rw [h] at hreading
    cases hreading with
    | payment hnames h => exact ⟨hnames,h⟩
  · rintro ⟨hnames,h⟩
    obtain ⟨members,rfl⟩ := hnames.exists_object
    have hnodup := (Json.ascending_of_normal hd).nodup
    have hvalue := (PaymentMethod.decoder_object_eq_ok_iff hnodup).mpr ⟨hnames,h⟩
    rw [toMethod, validate_of_describes hnames h]
    exact mapError_eq_ok_iff.mpr hvalue

/-- A description that is a value is read by its entries. It is refused by its type if it names no kind,
and by everything that it lacks for its kind; else it is a payment exactly if its entries have their
types. What is no entry of its kind does not matter, the decoder of payments accepts the same objects
as the same payments, and a payment has the kind that is named. -/
theorem toMethod_decides (hd : d.normal = d) :
    (∀ name, toMethod d = .error (.unsupportedPaymentType name) ↔
      (∀ kind, ¬ Names d kind) ∧ name = (typeName? d).getD "") ∧
    (∀ kind, Names d kind →
      let lacked := kind.requiredFields.filter fun name => (d.get? name).isNone
      (∀ context fields, toMethod d = .error (.missingFields context fields) ↔
        lacked ≠ [] ∧ fields = lacked ∧ context = "payment type " ++ kind.name) ∧
      ((∃ m, toMethod d = .ok m) ↔ Fits d kind) ∧
      (lacked = [] →
        ((∃ reason, toMethod d = .error (.invalidPaymentData reason)) ↔ ¬ Fits d kind))) ∧
    (∀ d', d'.normal = d' → (∀ name ∈ entries d, d'.get? name = d.get? name) →
      toMethod d' = toMethod d) ∧
    (∀ members m, d = .object members →
      (toMethod d = .ok m ↔ PaymentMethod.decoder.value d = .ok m)) ∧
    ∀ m, toMethod d = .ok m →
      Describes (fun name => d.get? name) m ∧ validate d = .ok m.kind ∧ kind? d = some m.kind := by
  have hreading := reading_toMethod hd
  refine ⟨fun name => hreading.unsupported_iff,fun kind hnames => ?_,fun d' => toMethod_congr hd,?_,?_⟩
  · exact ⟨fun context fields => hreading.missingFields_iff hnames,hreading.ok_iff hnames,
      hreading.invalid_iff hnames⟩
  · rintro members m rfl
    exact (toMethod_eq_ok_iff hd).trans
      (PaymentMethod.decoder_object_eq_ok_iff (Json.ascending_of_normal hd).nodup).symm
  · intro m hm
    obtain ⟨hnames,hdescribes⟩ := (toMethod_eq_ok_iff hd).mp hm
    exact ⟨hdescribes,validate_of_describes hnames hdescribes,kind?_eq_some_iff.mpr hnames⟩

/-- A bank transfer whose person type does not fit in a byte, with an entry that no payment has. -/
def oversized : Json := .object [("extra",.array [.null]),("payment_description",.string "d"),
  ("type",.string "BANCOLOMBIA_TRANSFER"),("user_type",.whole ⟨256,by decide⟩)]

theorem toMethod_oversized : oversized.normal = oversized ∧
    (∃ reason, toMethod oversized = .error (.invalidPaymentData reason)) ∧
    toMethod (.object (oversized.members.drop 1)) = toMethod oversized := by
  have hnormal : oversized.normal = oversized := by rfl
  have hnames : Names oversized .bancolombiaTransfer := by rfl
  obtain ⟨-,hkinds,hframe,-,-⟩ := toMethod_decides hnormal
  obtain ⟨-,-,hinvalid⟩ := hkinds _ hnames
  have hentries : ∀ name ∈ entries oversized, name ≠ "extra" := by decide +kernel
  have hagree : toMethod (.object (oversized.members.drop 1)) = toMethod oversized :=
    hframe _ (by rfl) fun name hname => (Entries.lookup_cons_of_ne (hentries name hname)).symm
  refine ⟨hnormal,(hinvalid (by rfl)).mpr fun hfits => ?_,hagree⟩
  obtain ⟨j,hj,hsuits⟩ := hfits.required "user_type" (by decide)
  cases hj
  cases hsuits with
  | byte _ hn => exact absurd hn.2 (by decide)

end Descriptor
end Checkout
