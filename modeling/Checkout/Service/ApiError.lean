import Checkout.Http.Response

/-! Errors that the service answers with. Each has a code, which stands in the body and, if it
may, in a header, and may have a message. -/
namespace Checkout.Service

open Checkout.Http (Response isHeaderText)

/-- An error of the service. -/
inductive ApiError where
  | badRequest (code : String) (message : Option String)
  | notFound (code : String)
  | internal (message : Option String)
  deriving DecidableEq, Repr

namespace ApiError

/-- The code of an error. -/
def code : ApiError → String
  | .badRequest code _ => code
  | .notFound code => code
  | .internal _ => "internal_error"

/-- The message of an error. -/
def message? : ApiError → Option String
  | .badRequest _ message => message
  | .notFound _ => none
  | .internal message => message

/-- The status of an error. -/
def status : ApiError → Nat
  | .badRequest .. => 400
  | .notFound _ => 404
  | .internal _ => 500

/-- The body of an error; the message is a member only if there is one. -/
def toJson (e : ApiError) : Json :=
  .object (("code", .string e.code) ::
    (match e.message? with
      | none => []
      | some message => [("message", .string message)]))

/-- The answer that an error becomes. -/
def toResponse (e : ApiError) : Response :=
  { Response.json e.status e.toJson with
    errorCode := if isHeaderText e.code then some e.code else none }

@[simp] theorem status_toResponse (e : ApiError) : e.toResponse.status = e.status := rfl

theorem errorCode_toResponse_eq_some_iff (e : ApiError) (s : String) :
    e.toResponse.errorCode = some s ↔ isHeaderText e.code = true ∧ s = e.code := by
  by_cases h : isHeaderText e.code = true <;> simp [toResponse, h, eq_comm]

end ApiError
end Checkout.Service
