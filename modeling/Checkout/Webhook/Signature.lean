import Checkout.Json.Printer
import Checkout.Digest.Sha256
import Checkout.Text.Utf8

/-! The checksum that makes a webhook trustworthy: the SHA-256 digest of the id, the status and the
amount of a transaction, the time of the event, and a secret. Every value goes into the signed text
as it appears on the wire, and what is absent or has no such form goes in as nothing. -/
namespace Checkout.Webhook

/-- A value as it appears on the wire: texts as they are, numbers and truth values by their text. -/
def wireText : Option Json → String
  | some (.string s) => s
  | some (.number n) => n.toText
  | some (.bool true) => "true"
  | some (.bool false) => "false"
  | _ => ""

/-- The transaction of an event. -/
def transaction? (payload : Json) : Option Json := payload.path? ["data", "transaction"]

/-- The time of an event: at the top, or with the data if that is absent or null. -/
def timestamp? (payload : Json) : Option Json :=
  ((payload.get? "timestamp").filter (!Json.isNull ·)) <|> payload.path? ["data", "timestamp"]

/-- A value of the transaction as it appears on the wire. -/
def signedField (payload : Json) (name : String) : String :=
  wireText ((transaction? payload).bind (·.get? name))

/-- The text that is signed. -/
def signedText (payload : Json) (secret : String) : String :=
  signedField payload "id" ++ "-" ++ signedField payload "status" ++ "-" ++
    signedField payload "amount_in_cents" ++ wireText (timestamp? payload) ++ secret

/-- The checksum of an event under a secret. -/
def checksum (payload : Json) (secret : String) : String :=
  Digest.hex (Digest.sha256 (Text.Utf8.encode (signedText payload secret)))

/-- The checksum that an event claims to have. -/
def claimedChecksum? (payload : Json) : Option String :=
  (payload.path? ["signature", "checksum"]).bind Json.string?

/-- Whether an event carries its own checksum under a secret. -/
def verifies (payload : Json) (secret : String) : Bool :=
  claimedChecksum? payload == some (checksum payload secret)

@[simp] theorem verifies_iff (payload : Json) (secret : String) :
    verifies payload secret = true ↔ claimedChecksum? payload = some (checksum payload secret) := by
  simp [verifies]

end Checkout.Webhook
