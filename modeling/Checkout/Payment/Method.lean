import Checkout.Payment.Kind

/-! Payments as the gateway takes them. A payment is written as an object whose `type` names its
kind and whose other members are the kind's own, or as an array that starts with the name. -/
namespace Checkout

open Checkout.Json (Problem Fault Decoder Slots Node Key Ending mismatch)

/-- The kind of person who pays: a number for some kinds of payment, a label for others. -/
inductive UserType where
  | code (n : UInt8)
  | label (s : String)
  deriving DecidableEq, Repr

/-- A payment with everything that its kind needs. -/
inductive PaymentMethod where
  | card (token : String) (installments : Option UInt32)
  | nequi (phoneNumber : String)
  | pse (userType : UserType) (legalIdType legalId institutionCode description : String)
  | bancolombiaTransfer (userType : UserType) (description : String)
  | bancolombiaCollect
  deriving DecidableEq, Repr

namespace UserType

/-- A person type as JSON. -/
def toJson : UserType → Json
  | .code n => .whole (.ofUInt8 n)
  | .label s => .string s

/-- The person type of a value: a whole number up to 255 or a text. -/
def ofJson (j : Json) : Except Problem UserType :=
  match j with
  | .number (.whole n) =>
    if 0 ≤ n.val ∧ n.val < 256 then .ok (.code (UInt8.ofNat n.val.toNat))
    else .error (.noVariant "UserType")
  | .string s => .ok (.label s)
  | _ => .error (.noVariant "UserType")

/-- Reads a person type. -/
def decoder : Decoder UserType := .buffered ofJson

end UserType

namespace PaymentMethod

/-- The kind of a payment. -/
def kind : PaymentMethod → PaymentKind
  | .card .. => .card
  | .nequi .. => .nequi
  | .pse .. => .pse
  | .bancolombiaTransfer .. => .bancolombiaTransfer
  | .bancolombiaCollect => .bancolombiaCollect

/-- A payment as JSON: its type, then its own members; installments only if there are any. -/
def toJson : PaymentMethod → Json
  | .card token installments =>
    .object (("type", .string "CARD") :: ("token", .string token) ::
      (match installments with
        | none => []
        | some n => [("installments", .whole (.ofUInt32 n))]))
  | .nequi phoneNumber => .object [("type", .string "NEQUI"), ("phone_number", .string phoneNumber)]
  | .pse userType legalIdType legalId institutionCode description =>
    .object [("type", .string "PSE"), ("user_type", userType.toJson),
      ("user_legal_id_type", .string legalIdType), ("user_legal_id", .string legalId),
      ("financial_institution_code", .string institutionCode),
      ("payment_description", .string description)]
  | .bancolombiaTransfer userType description =>
    .object [("type", .string "BANCOLOMBIA_TRANSFER"), ("user_type", userType.toJson),
      ("payment_description", .string description)]
  | .bancolombiaCollect => .object [("type", .string "BANCOLOMBIA_COLLECT")]

/-- A whole number of thirty-two bits. -/
def wordOfJson (j : Json) : Except Problem UInt32 :=
  match j with
  | .number (.whole n) =>
    if 0 ≤ n.val ∧ n.val < 4294967296 then .ok (UInt32.ofNat n.val.toNat)
    else .error (.invalidValue j.found "u32")
  | j => .error (mismatch "u32" j)

/-- A count of installments, or null. -/
def installmentsOfJson (j : Json) : Except Problem (Option UInt32) :=
  match j with
  | .null => .ok none
  | j => (wordOfJson j).map some

/-- A text member. -/
def textField (name : String) : Slots Json String :=
  .field name Decoder.string.member .fault

/-- A person type member. -/
def userTypeField : Slots Json UserType :=
  .field "user_type" UserType.decoder.member .fault

/-- The members of a payment of some kind beside its type, and how the kind is named in errors. -/
def slots : PaymentKind → Option (String × Slots Json PaymentMethod)
  | .card => some ("Card", PaymentMethod.card <$> textField "token" <*>
      .field "installments" (fun j => (installmentsOfJson j).mapError Problem.placeless)
        (.anywhere none))
  | .nequi => some ("Nequi", PaymentMethod.nequi <$> textField "phone_number")
  | .pse => some ("Pse", PaymentMethod.pse <$> userTypeField <*> textField "user_legal_id_type" <*>
      textField "user_legal_id" <*> textField "financial_institution_code" <*>
      textField "payment_description")
  | .bancolombiaTransfer => some ("BancolombiaTransfer",
      PaymentMethod.bancolombiaTransfer <$> userTypeField <*> textField "payment_description")
  | .bancolombiaCollect => none

/-- What is wrong with items that are left over. -/
def leftOver (all taken : Nat) : Fault :=
  (Problem.invalidLength all (Json.elements taken ++ " in sequence")).placeless

/-- A payment of a kind from the members behind its type. -/
def ofMembers (kind : PaymentKind) (members : List (String × Json)) : Except Fault PaymentMethod :=
  match slots kind with
  | none => .ok .bancolombiaCollect
  | some (_, fields) => fields.ofMembers members

/-- A payment of a kind from the items behind its type. -/
def ofItems (kind : PaymentKind) (items : List Json) : Except Fault PaymentMethod :=
  match slots kind with
  | none => if items.isEmpty then .ok .bancolombiaCollect else .error (leftOver items.length 0)
  | some (name, fields) =>
    let expected := Json.withElements ("struct variant PaymentMethod::" ++ name) fields.count
    fields.ofItems ⟨none, fun i => (Problem.invalidLength i expected).placeless⟩
      (fun rest => if rest.isEmpty then .ok () else .error (leftOver items.length fields.count))
      items

/-- The kind named by the value of `type`. -/
def kindOfJson : Json → Except Problem PaymentKind
  | .string s => Decoder.chosen PaymentKind.names s
  | j => .error (mismatch "variant identifier" j)

/-- The kind named by `type` in a text. -/
def kindOfNode : Node → Except Fault PaymentKind
  | .string (.ok s) _ stop => (Decoder.chosen PaymentKind.names s).mapError (Problem.at · stop)
  | node => .error (node.mismatch "variant identifier")

/-- What a payment is called where another value was found. -/
def expected : String := "internally tagged enum PaymentMethod"

/-- The kind and the other members of an object in a text, read in the order of the text. -/
def splitMembers (depth : Nat) (kind : Option PaymentKind) (others : List (String × Json)) :
    List (Key × Node × Nat) → Except Fault (Option PaymentKind × List (String × Json))
  | [] => .ok (kind, others.reverse)
  | (key, node, _) :: rest => do
    let name ← key.name
    if name = "type" then
      if kind.isSome then throw ((Problem.duplicateField "type").at key.settled)
      else
        let k ← kindOfNode node
        splitMembers depth (some k) others rest
    else
      let j ← node.read depth
      splitMembers depth kind ((name, j) :: others) rest

/-- Reads a payment from a text. Faults behind the type have no place. -/
def readText (depth : Nat) (node : Node) : Except Fault PaymentMethod :=
  match node with
  | .array start items ending =>
    if depth ≤ 1 then .error (Problem.recursionLimit.at (start + 1))
    else
      match items, ending with
      | [], .closed stop => .error ((Problem.missingField "type").at stop)
      | [], .broken breach _ => .error breach.reading
      | (first, _) :: rest, ending => do
        let kind ← kindOfNode first
        match ← Node.readItems (depth - 1) ending [] rest with
        | .array items => ofItems kind items
        | _ => ofItems kind []
  | .object start members ending =>
    if depth ≤ 1 then .error (Problem.recursionLimit.at (start + 1))
    else do
      let (kind, others) ← splitMembers (depth - 1) none [] members
      match ending, kind with
      | .broken breach _, _ => throw breach.reading
      | .closed stop, none => throw ((Problem.missingField "type").at stop)
      | .closed _, some kind => ofMembers kind others
  | node => .error (node.mismatch expected)

/-- Reads a payment from a value. -/
def ofJson (j : Json) : Except Problem PaymentMethod :=
  match j with
  | .array [] => .error (.missingField "type")
  | .array (first :: rest) => do
    let kind ← kindOfJson first
    (ofItems kind rest).mapError Fault.problem
  | .object members =>
    match members.filter (·.1 == "type") with
    | [] => .error (.missingField "type")
    | [(_, name)] => do
      let kind ← kindOfJson name
      (ofMembers kind (members.filter (·.1 != "type"))).mapError Fault.problem
    | _ => .error (.duplicateField "type")
  | j => .error (mismatch expected j)

/-- Reads a payment. -/
def decoder : Decoder PaymentMethod := ⟨readText, ofJson⟩

end PaymentMethod
end Checkout
