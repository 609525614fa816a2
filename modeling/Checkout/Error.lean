import Checkout.Http.Transport
import Checkout.Payment.Kind
import Checkout.Money.Cents

/-! The ways in which an operation on the payment gateway fails, each with the data of its
wording. -/
namespace Checkout

/-- Why an operation failed. -/
inductive GatewayError where
  | missingFields (context : String) (fields : List String)
  | unsupportedPaymentType (name : String)
  | invalidPaymentData (reason : String)
  | unauthorized (body : String)
  | notFound (body : String)
  | rejected (body : String)
  | unexpectedStatus (status : Nat) (body : String)
  | operationUnsupported (operation : String) (kind : PaymentKind)
  | refundUnsupported
  | configuration (reason : String)
  | amount (e : Money.OutOfRange)
  | transport (failure : Http.TransportFailure)
  | malformedReply (reason : String)

namespace GatewayError

/-- The wording of an error. -/
def message : GatewayError → String
  | .missingFields context fields =>
    "missing fields for " ++ context ++ ": " ++ ", ".intercalate fields
  | .unsupportedPaymentType name => "payment type " ++ name ++ " is not active"
  | .invalidPaymentData reason => "invalid payment data: " ++ reason
  | .unauthorized body => "unauthorized: " ++ body
  | .notFound body => "not found: " ++ body
  | .rejected body => "rejected by gateway: " ++ body
  | .unexpectedStatus status body =>
    "unexpected gateway status " ++ toString status ++ ": " ++ body
  | .operationUnsupported operation kind =>
    operation ++ " is not supported for payment type " ++ kind.name
  | .refundUnsupported => "Refund Not supported by Wompi."
  | .configuration reason => "invalid configuration: " ++ reason
  | .amount e => e.message
  | .transport failure => "gateway request failed: " ++ failure.message
  | .malformedReply reason => "malformed gateway response: " ++ reason

/-- The error that an answer outside the 2xx range stands for; the body is its message. -/
def ofStatus (status : Nat) (body : String) : GatewayError :=
  match status with
  | 401 => .unauthorized body
  | 404 => .notFound body
  | 422 => .rejected body
  | _ => .unexpectedStatus status body

/-- Whether the gateway cannot perform the operation at all. -/
def isCapability : GatewayError → Bool
  | .operationUnsupported .. => true
  | .refundUnsupported => true
  | _ => false

@[simp] theorem isCapability_ofStatus (status : Nat) (body : String) :
    (ofStatus status body).isCapability = false := by
  unfold ofStatus
  split <;> rfl

example : (ofStatus 500 "d").message = "unexpected gateway status 500: d" := by decide +kernel

end GatewayError
end Checkout
