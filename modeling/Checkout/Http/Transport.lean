/-! How an exchange with another host can fail before there is an answer to judge. -/
namespace Checkout.Http

/-- Why an exchange gave no answer. -/
inductive TransportFailure where
  /-- No request could be built; the address is named if it could be read. -/
  | unbuildable (url : Option String)
  /-- The request was built and not answered. -/
  | unanswered (url : String)
  /-- The body of the answer broke off. -/
  | brokenBody
  deriving DecidableEq, Repr

/-- The wording of a transport failure. -/
def TransportFailure.message : TransportFailure → String
  | .unbuildable none => "builder error"
  | .unbuildable (some url) => "builder error for url (" ++ url ++ ")"
  | .unanswered url => "error sending request for url (" ++ url ++ ")"
  | .brokenBody => "error decoding response body"

end Checkout.Http
