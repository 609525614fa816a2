import Checkout.Json.Decoder

/-! Addresses: as the host platform keeps them and as the gateway takes them. -/
namespace Checkout

open Checkout.Json (Decoder Fields)

/-- An address as the host platform keeps it. -/
structure HostAddress where
  firstName : String
  lastName : String
  streetAddress1 : String
  streetAddress2 : String
  city : String
  cityArea : String
  postalCode : String
  country : String
  phone : String
  deriving DecidableEq, Repr

/-- An address as the gateway takes it. -/
structure ShippingAddress where
  addressLine1 : String
  addressLine2 : String
  country : String
  region : String
  city : String
  name : String
  phoneNumber : String
  postalCode : String
  deriving DecidableEq, Repr

namespace ShippingAddress

/-- The address that a parcel goes to. The two names become one with a space between them. -/
def ofHost (a : HostAddress) : ShippingAddress where
  addressLine1 := a.streetAddress1
  addressLine2 := a.streetAddress2
  country := a.country
  region := a.cityArea
  city := a.city
  name := a.firstName ++ " " ++ a.lastName
  phoneNumber := a.phone
  postalCode := a.postalCode

/-- The fields of an address in the order of its array form. -/
def fields : Fields ShippingAddress :=
  ShippingAddress.mk <$> .required "address_line_1" .string
    <*> .required "address_line_2" .string
    <*> .required "country" .string
    <*> .required "region" .string
    <*> .required "city" .string
    <*> .required "name" .string
    <*> .required "phone_number" .string
    <*> .required "postal_code" .string

/-- Reads an address. -/
def decoder : Decoder ShippingAddress := .record "ShippingAddress" fields

/-- An address as JSON. -/
def toJson (a : ShippingAddress) : Json :=
  .object [("address_line_1", .string a.addressLine1), ("address_line_2", .string a.addressLine2),
    ("country", .string a.country), ("region", .string a.region), ("city", .string a.city),
    ("name", .string a.name), ("phone_number", .string a.phoneNumber),
    ("postal_code", .string a.postalCode)]

end ShippingAddress
end Checkout
