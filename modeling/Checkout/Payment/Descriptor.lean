import Checkout.Payment.Method
import Checkout.Error

/-! Descriptions of payments as a storefront sends them: any JSON value. A description is first
checked to name an active kind and to have every entry of that kind, all missing ones reported
together; only then is it read as a payment. -/
namespace Checkout.Descriptor

/-- The type that a description names, if it is a text. -/
def typeName? (d : Json) : Option String := (d.get? "type").bind Json.string?

/-- The kind of payment that a description names, if it names one. -/
def kind? (d : Json) : Option PaymentKind := (typeName? d).bind PaymentKind.ofName?

/-- The required entries that a description lacks. -/
def missing (kind : PaymentKind) (d : Json) : List String :=
  kind.requiredFields.filter fun name => (d.get? name).isNone

/-- Checks that a description names an active kind and has every entry of that kind. -/
def validate (d : Json) : Except GatewayError PaymentKind :=
  let name := (typeName? d).getD ""
  match PaymentKind.ofName? name with
  | none => .error (.unsupportedPaymentType name)
  | some kind =>
    match missing kind d with
    | [] => .ok kind
    | fields => .error (.missingFields ("payment type " ++ kind.name) fields)

/-- The payment that a description stands for. -/
def toMethod (d : Json) : Except GatewayError PaymentMethod :=
  match validate d with
  | .error e => .error e
  | .ok kind =>
    (PaymentMethod.decoder.value d).mapError fun problem =>
      .invalidPaymentData ("payment type " ++ kind.name ++ ": " ++ problem.message)

end Checkout.Descriptor
