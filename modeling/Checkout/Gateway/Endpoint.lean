import Checkout.Http.Exchange

/-! The operations of the payment gateway as places on its host, with the key that opens each.
Looking things up and turning a card into a token needs the public key; what moves money needs the
private one. -/
namespace Checkout.Gateway

/-- Which key of the merchant a request carries. -/
inductive KeyKind where
  | publicKey
  | privateKey
  deriving DecidableEq, Repr

/-- The name of a kind of key. -/
def KeyKind.name : KeyKind → String
  | .publicKey => "Public"
  | .privateKey => "Private"

/-- A place on the gateway's host. -/
structure Endpoint where
  method : Http.Method
  path : String
  key : KeyKind
  deriving DecidableEq, Repr

namespace Endpoint

/-- Turns a card into a token. -/
def tokenizeCard : Endpoint := ⟨.post, "tokens/cards", .publicKey⟩

/-- Lists the institutions. -/
def institutions : Endpoint := ⟨.get, "pse/financial_institutions", .publicKey⟩

/-- Tells about the merchant of a public key. -/
def merchant (publicKey : String) : Endpoint := ⟨.get, "merchants/" ++ publicKey, .publicKey⟩

/-- Looks up a transaction. -/
def retrieve (id : String) : Endpoint := ⟨.get, "transactions/" ++ id, .publicKey⟩

/-- Creates a transaction. -/
def create : Endpoint := ⟨.post, "transactions", .privateKey⟩

/-- Voids a transaction. -/
def void (id : String) : Endpoint := ⟨.post, "transactions/" ++ id ++ "/void", .privateKey⟩

end Endpoint
end Checkout.Gateway
