import Checkout.Transaction.Basic

/-! What the gateway tells about the merchant and the banks: the token by which a customer accepts
the merchant's terms, and the institutions that a bank transfer can come from. -/
namespace Checkout

open Checkout.Json (Decoder Fields)

/-- A token of acceptance, with the address of the terms. -/
structure AcceptanceToken where
  token : String
  permalink : String
  deriving DecidableEq, Repr

namespace AcceptanceToken

/-- The fields of a token in the order of its array form. -/
def fields : Fields AcceptanceToken :=
  AcceptanceToken.mk <$> .required "acceptance_token" .string <*> .required "permalink" .string

/-- Reads a token. -/
def decoder : Decoder AcceptanceToken := .record "AcceptanceToken" fields

/-- A token as JSON. -/
def toJson (t : AcceptanceToken) : Json :=
  .object [("acceptance_token", .string t.token), ("permalink", .string t.permalink)]

end AcceptanceToken

/-- A bank that a transfer can come from. -/
structure Institution where
  code : String
  name : String
  deriving DecidableEq, Repr

namespace Institution

/-- The fields of an institution in the order of its array form. -/
def fields : Fields Institution :=
  Institution.mk <$> .required "financial_institution_code" .string
    <*> .required "financial_institution_name" .string

/-- Reads an institution. -/
def decoder : Decoder Institution := .record "FinancialInstitution" fields

/-- An institution as JSON. -/
def toJson (i : Institution) : Json :=
  .object [("financial_institution_code", .string i.code),
    ("financial_institution_name", .string i.name)]

end Institution

/-- What a storefront attaches to a payment for the gateway. -/
structure PaymentExtra where
  acceptanceToken : Option String
  paymentMethod : Option Json

namespace PaymentExtra

/-- The fields of the attachment in the order of its array form. -/
def fields : Fields PaymentExtra :=
  PaymentExtra.mk <$> .optional "acceptance_token" .string <*> .optional "payment_method" .any

/-- Reads the attachment. -/
def decoder : Decoder PaymentExtra := .record "PaymentExtra" fields

/-- The attachment as JSON; what it does not have is null. -/
def toJson (e : PaymentExtra) : Json :=
  .object [("acceptance_token", Json.optional .string e.acceptanceToken),
    ("payment_method", Json.orNull e.paymentMethod)]

end PaymentExtra

/-- A record with one field, read for that field. -/
def wrapped (record field : String) (d : Decoder α) : Decoder α :=
  .record record (.required field d)

/-- The envelope around everything that the gateway answers. -/
def envelope (d : Decoder α) : Decoder α := wrapped "Envelope" "data" d

/-- The merchant's data, read for the token of acceptance. -/
def merchantData : Decoder AcceptanceToken :=
  wrapped "MerchantData" "presigned_acceptance" AcceptanceToken.decoder

/-- The answer to a void, read for the transaction. -/
def voidData : Decoder Transaction := wrapped "VoidData" "transaction" Transaction.decoder

/-- The data of an update, read for the transaction. -/
def updateData : Decoder Transaction := wrapped "TransactionData" "transaction" Transaction.decoder

end Checkout
