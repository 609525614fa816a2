import Checkout.Http.Transport
import Checkout.Http.Response
import Checkout.Url.Basic
import Checkout.Text.Charset

/-! Requests to another host and what comes back. Whether a request arrives, what is answered and
how texts in further encodings are read is up to the network, which is a value like any other.
Replies do not redirect: following a redirect would be a matter of the carrier and no decision of
whoever asks, so what is sent is always what was asked for. -/
namespace Checkout.Http

/-- What a request asks for. -/
inductive Method where
  | get
  | post
  deriving DecidableEq, Repr

/-- The name of a method. -/
def Method.name : Method → String
  | .get => "GET"
  | .post => "POST"

/-- A request to another host. A body is always JSON. -/
structure Request where
  method : Method
  url : Url
  authorization : String
  body : Option String
  deriving DecidableEq, Repr

namespace Request

/-- The content type of the body, if there is one. -/
def contentType (r : Request) : Option String := r.body.map fun _ => Response.jsonType

/-- The longest address that a request can name. -/
def longestUrl : Nat := 65534

/-- A request for an address given as text. An address that cannot be read, or a header that cannot
be written, fails without naming the address; one that names no machine to reach, or is too long,
fails naming it. The authorization is the given one alone, also for an address with a user in it. -/
def build (method : Method) (address authorization : String) (body : Option String) :
    Except TransportFailure Request :=
  match Url.ofText? address with
  | none => .error (.unbuildable none)
  | some url =>
    if !url.hasHost then .error (.unbuildable (some url.toText))
    else if !isHeaderText authorization then .error (.unbuildable none)
    else if url.scheme ≠ "http" ∧ url.scheme ≠ "https" then
      .error (.unbuildable (some url.toText))
    else if longestUrl < url.toText.utf8ByteSize then .error (.unbuildable (some url.toText))
    else .ok ⟨method, url, authorization, body⟩

end Request

/-- What the other host answers. A truncated body is shorter than its announced length. A reply
has no `Location`, so it does not redirect, whatever its status, and no request comes of it. -/
structure Reply where
  status : Nat
  contentType : Option String
  body : List UInt8
  truncated : Bool
  deriving DecidableEq, Repr

namespace Reply

/-- Whether the status says that the request succeeded. -/
def isSuccess (r : Reply) : Bool := 200 ≤ r.status && r.status < 300

/-- Whether answers of a status have no body. -/
def isBodiless (r : Reply) : Bool := r.status == 204 || r.status == 304

/-- The bytes of the body, none if it breaks off. -/
def bytes? (r : Reply) : Option (List UInt8) :=
  if r.isBodiless then some [] else if r.truncated then none else some r.body

/-- The text of the body; a body that cannot be read counts as empty. -/
def text (r : Reply) (encodings : Text.Encodings) : String :=
  match r.bytes? with
  | none => ""
  | some bytes => (Text.Charset.ofContentType encodings r.contentType).decode bytes

end Reply

/-- What becomes of requests: nothing arrives, or the other host decides, possibly by closing the
connection without an answer. The encodings are those that texts of answers may be in besides the
ones that `Text.Charset` spells out. -/
inductive Network where
  | down
  | up (answer : Request → Option Reply) (encodings : Text.Encodings := fun _ => none)

namespace Network

/-- The answer to a request. -/
def deliver : Network → Request → Option Reply
  | .down, _ => none
  | .up answer _, request => answer request

/-- The further encodings that texts may be in. -/
def encodings : Network → Text.Encodings
  | .down => fun _ => none
  | .up _ encodings => encodings

/-- Those of some requests that arrive. -/
def arrived : Network → List Request → List Request
  | .down, _ => []
  | .up .., requests => requests

@[simp] theorem deliver_down (r : Request) : Network.down.deliver r = none := rfl

@[simp] theorem arrived_down (rs : List Request) : Network.down.arrived rs = [] := rfl

@[simp] theorem arrived_up (answer : Request → Option Reply) (encodings : Text.Encodings)
    (rs : List Request) : (Network.up answer encodings).arrived rs = rs := rfl

end Network
end Checkout.Http
