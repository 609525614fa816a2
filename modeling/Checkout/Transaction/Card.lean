import Checkout.Error
import Checkout.Text.Blank

/-! Cards: the details that a customer types in, which are sent to the gateway once, and the token
that stands for the card from then on. -/
namespace Checkout

open Checkout.Json (Decoder Fields)

/-- The details of a card. -/
structure Card where
  number : String
  cvc : String
  expMonth : String
  expYear : String
  cardHolder : String
  deriving DecidableEq, Repr

namespace Card

/-- The details with their names. -/
def entries (c : Card) : List (String × String) :=
  [("number", c.number), ("cvc", c.cvc), ("exp_month", c.expMonth), ("exp_year", c.expYear),
    ("card_holder", c.cardHolder)]

/-- The names of the details that are blank. -/
def blankFields (c : Card) : List String :=
  (c.entries.filter fun (_, value) => Text.isBlankText value).map Prod.fst

/-- Checks that no detail is blank; all blank ones are reported together. -/
def validate (c : Card) : Except GatewayError Unit :=
  match c.blankFields with
  | [] => .ok ()
  | fields => .error (.missingFields "card tokenization" fields)

/-- The details as JSON. -/
def toJson (c : Card) : Json := .object (c.entries.map fun (name, value) => (name, .string value))

end Card

/-- What stands for a card. -/
structure CardToken where
  id : String
  createdAt : Option String
  brand : Option String
  name : Option String
  lastFour : Option String
  bin : Option String
  expYear : Option String
  expMonth : Option String
  cardHolder : Option String
  expiresAt : Option String
  deriving DecidableEq, Repr

namespace CardToken

/-- The fields of a token in the order of its array form. -/
def fields : Fields CardToken :=
  CardToken.mk <$> .required "id" .string
    <*> .optional "created_at" .string
    <*> .optional "brand" .string
    <*> .optional "name" .string
    <*> .optional "last_four" .string
    <*> .optional "bin" .string
    <*> .optional "exp_year" .string
    <*> .optional "exp_month" .string
    <*> .optional "card_holder" .string
    <*> .optional "expires_at" .string

/-- Reads a token. -/
def decoder : Decoder CardToken := .record "CardToken" fields

/-- A token as JSON; what it does not have is null. -/
def toJson (t : CardToken) : Json :=
  let text := Json.optional Json.string
  .object [("id", .string t.id), ("created_at", text t.createdAt), ("brand", text t.brand),
    ("name", text t.name), ("last_four", text t.lastFour), ("bin", text t.bin),
    ("exp_year", text t.expYear), ("exp_month", text t.expMonth),
    ("card_holder", text t.cardHolder), ("expires_at", text t.expiresAt)]

end CardToken
end Checkout
