import Checkout.Proofs.Gateway.Outcome
import Checkout.Proofs.Payment.Description

/-! Voiding a payment that is not by card. Nothing is sent and the answer reports an error, whose wording
has the name of the payment's type only if the error chosen is one that carries it: the type is looked
for first, then the token, and whether the type can be voided last. -/
namespace Checkout.Service

open Checkout.Http (Network)
open Checkout.Gateway (Payment)

/-- The wording of an error has a text in it. -/
def Mentions (e : GatewayError) (s : String) : Prop := s.toList <:+: e.message.toList

instance (e : GatewayError) (s : String) : Decidable (Mentions e s) :=
  inferInstanceAs (Decidable (_ <:+: _))

/-- Why a payment is not voided whose type is a text other than that of cards. -/
inductive Unvoidable (s : String) (token : Option String) : GatewayError → Prop
  | unknown (h : ∀ kind : PaymentKind, kind.name ≠ s) :
      Unvoidable s token (.unsupportedPaymentType "unknown")
  | tokenless {kind : PaymentKind} (hname : kind.name = s) (h : token = none) :
      Unvoidable s token (.missingFields "void" ["token"])
  | unsupported {kind : PaymentKind} (hname : kind.name = s) (h : token ≠ none) :
      Unvoidable s token (.operationUnsupported "void" kind)

/-- The type of a payment is named where it is known and the token is there. The name of no kind is
mentioned if it happens to stand in the wording without it. -/
lemma Unvoidable.mentions_iff {s : String} {token : Option String} {e : GatewayError}
    (h : Unvoidable s token e) : Mentions e s ↔
      (∃ kind : PaymentKind, kind.name = s) ∧ token ≠ none ∨
      (∀ kind : PaymentKind, kind.name ≠ s) ∧
        s.toList <:+: "payment type unknown is not active".toList := by
  cases h with
  | unknown h =>
    have hmessage : (GatewayError.unsupportedPaymentType "unknown").message =
        "payment type unknown is not active" := by decide +kernel
    rw [Mentions, hmessage]
    simp [h]
  | @tokenless kind hname h =>
    subst hname
    have hsilent : ¬ Mentions (.missingFields "void" ["token"]) kind.name := by
      cases kind <;> decide +kernel
    simp [hsilent, h]
  | @unsupported kind hname h =>
    subst hname
    have hmessage : (GatewayError.operationUnsupported "void" kind).message =
        "void" ++ " is not supported for payment type " ++ kind.name := rfl
    have hmentions : Mentions (.operationUnsupported "void" kind) kind.name := by
      rw [Mentions, hmessage, String.toList_append]
      exact (List.suffix_append _ _).isInfix
    exact iff_of_true hmentions (.inl ⟨⟨kind,rfl⟩,h⟩)

section Void
variable {app : App} {net : Network} {p : Payment} {d : Json} {s : String}

lemma exists_hindered_void (hd : p.extra.paymentMethod = some d)
    (hs : d.get? "type" = some (.string s)) (hcard : s ≠ "CARD") :
    ∃ e, Hindered p .void e ∧ Unvoidable s p.token e := by
  have hkind : p.kind? = Descriptor.kind? d := by rw [Payment.kind?, hd, Option.bind_some]
  have hnames {kind : PaymentKind} : p.kind? = some kind ↔ kind.name = s := by
    rw [hkind, Descriptor.kind?_eq_some_iff, Descriptor.Names, hs, Option.some_inj, Json.string.injEq,
      eq_comm]
  cases hp : p.kind? with
  | none =>
    refine ⟨_,.voidKind hp,.unknown fun kind hname => ?_⟩
    cases hp.symm.trans (hnames.mpr hname)
  | some kind =>
    have hname := hnames.mp hp
    cases htoken : p.token with
    | none => exact ⟨_,.voidToken hp htoken,.tokenless hname rfl⟩
    | some id =>
      have hvoid : kind.supportsVoid = false := by
        cases kind with
        | card => exact absurd hname.symm hcard
        | nequi | pse | bancolombiaTransfer | bancolombiaCollect => rfl
      exact ⟨_,.voidUnsupported hp htoken hvoid,.unsupported hname (by simp)⟩

/-- A payment whose type is a text other than that of cards is not voided: nothing is sent, and the
answer reports why. The text stands in the error exactly if it names a kind and there is a token, or
if it names none and happens to stand in the wording for a type that is not known. -/
theorem void_mentions_iff (app : App) (net : Network) (hd : p.extra.paymentMethod = some d)
    (hs : d.get? "type" = some (.string s)) (hcard : s ≠ "CARD") :
    let voided := app.perform net p .void
    voided.sent = [] ∧ ∃ e, Unvoidable s p.token e ∧
      Reports app.gateway.config.autoCapture p .void e voided.result ∧
      (Mentions e s ↔ (∃ kind : PaymentKind, kind.name = s) ∧ p.token ≠ none ∨
        (∀ kind : PaymentKind, kind.name ≠ s) ∧
          s.toList <:+: "payment type unknown is not active".toList) := by
  intro voided
  obtain ⟨e,hhindered,hunvoidable⟩ := exists_hindered_void hd hs hcard
  refine ⟨?_,e,hunvoidable,Fails.reports (.hindered hhindered),hunvoidable.mentions_iff⟩
  exact (app.perform_eq net p .void).1.trans (App.attempt_of_hindered app net hhindered).1

end Void

/-- A payment that was created, with a type of the given name. -/
def createdAs (name : String) : Payment :=
  { cashPayment with token := some "t1", extra := ⟨none,some (.object [("type",.string name)])⟩ }

theorem void_mentions_nequi : ∃ e, Mentions e "NEQUI" ∧
    Reports true (createdAs "NEQUI") .void e
      (capturing.perform declining (createdAs "NEQUI") .void).result := by
  obtain ⟨-,e,-,hreports,hmentions⟩ := void_mentions_iff capturing declining
    (p := createdAs "NEQUI") (d := .object [("type",.string "NEQUI")]) (s := "NEQUI") rfl rfl (by decide)
  exact ⟨e,hmentions.mpr (.inl ⟨⟨.nequi,rfl⟩,by decide⟩),hreports⟩

/-- A type that cannot be voided is not always named. -/
theorem not_void_mentions : ¬ ∀ (app : App) (net : Network) (p : Payment) (d : Json) (s : String),
    p.extra.paymentMethod = some d → d.get? "type" = some (.string s) → s ≠ "CARD" →
      let voided := app.perform net p .void
      voided.sent = [] ∧ voided.result.isSuccess = false ∧ voided.result.kind = .void ∧
        ∃ error, voided.result.error = some error ∧ s.toList <:+: error.toList := by
  intro h
  obtain ⟨-,-,-,error,herror,hmentions⟩ :=
    h capturing declining (createdAs "BITCOIN") _ "BITCOIN" rfl rfl (by decide)
  have hwording : (capturing.perform declining (createdAs "BITCOIN") .void).result.error =
      some "payment type unknown is not active" := by decide +kernel
  cases herror.symm.trans hwording
  revert hmentions
  decide +kernel

end Checkout.Service
