import Checkout.Gateway.Payment
import Mathlib.Tactic

/-! What an operation on the gateway shows without the private key and without what a card holds. Both
are sent and used for nothing else: neither an address, nor an event, nor an error names them, so
operations that differ in them come to the same if the answers are the same. -/
namespace Checkout

open Checkout.Http (Network Request TransportFailure isHeaderText)

namespace Http.Request
variable {authorization authorization' : String}

/-- The request without its authorization. -/
def withoutAuthorization (r : Request) : Request := { r with authorization := "" }

/-- The request without what its body says. -/
def withoutContent (r : Request) : Request := { r with body := r.body.map fun _ => "" }

/-- Whether a request can be built depends neither on its body nor on its authorization, as long as
this may stand in a header. -/
lemma build_congr (method : Method) (address : String) (body body' : Option String)
    (h : isHeaderText authorization = isHeaderText authorization') :
    (∃ failure, build method address authorization body = .error failure ∧
      build method address authorization' body' = .error failure) ∨
    ∃ url, build method address authorization body = .ok ⟨method,url,authorization,body⟩ ∧
      build method address authorization' body' = .ok ⟨method,url,authorization',body'⟩ := by
  unfold build
  rw [h]
  split
  · exact .inl ⟨_,rfl,rfl⟩
  · next url _ =>
    split_ifs
    all_goals first | exact .inl ⟨_,rfl,rfl⟩ | exact .inr ⟨url,rfl,rfl⟩

end Http.Request

namespace Http.Network

/-- A network answers the same to requests that look the same. -/
def Blind (net : Network) (hide : Request → Request) : Prop :=
  ∀ r r', hide r = hide r' → net.deliver r = net.deliver r'

lemma blind_id (net : Network) : net.Blind id := fun _ _ h => congrArg net.deliver h

/-- A network is blind if its answers are written down beforehand. -/
lemma blind_script (reply : Option Reply) (hide : Request → Request) :
    (up fun _ => reply).Blind hide := fun _ _ _ => rfl

end Http.Network

namespace Gateway

open Checkout.Json (Decoder)

variable {α β : Type} {net : Network} {hide : Request → Request}

/-- The exchange with its requests as they look. -/
def Exchange.conceal (hide : Request → Request) (e : Exchange α) : Exchange α :=
  { e with sent := e.sent.map hide }

@[simp] lemma Exchange.conceal_id (e : Exchange α) : e.conceal id = e := by
  rw [conceal, List.map_id]

@[simp] lemma Exchange.conceal_map (f : α → β) (e : Exchange α) :
    (e.map f).conceal hide = (e.conceal hide).map f := rfl

@[simp] lemma Exchange.conceal_note (f : α → List Log.Event) (e : Exchange α) :
    (e.note f).conceal hide = (e.conceal hide).note f := rfl

/-- Accesses to the gateway that differ in their private keys only, which may both stand in a header
or both not. -/
structure Client.Alike (c c' : Client) : Prop where
  baseUrl : c.baseUrl = c'.baseUrl
  publicKey : c.publicKey = c'.publicKey
  usable : isHeaderText (c.authorization .privateKey) = isHeaderText (c'.authorization .privateKey)

namespace Client
variable {c c' : Client} {e : Endpoint} {body body' : Option Json}

lemma Alike.isHeaderText_authorization (h : c.Alike c') (key : KeyKind) :
    isHeaderText (c.authorization key) = isHeaderText (c'.authorization key) := by
  cases key with
  | publicKey => rw [authorization, authorization, h.publicKey]
  | privateKey => exact h.usable

/-- Requests that look the same come to the same. -/
theorem Alike.conceal_send (h : c.Alike c') (hnet : net.Blind hide) (d : Decoder α)
    (hhide : ∀ url, hide ⟨e.method,url,c.authorization e.key,body.map Json.render⟩ =
      hide ⟨e.method,url,c'.authorization e.key,body'.map Json.render⟩) :
    (c.send net e body d).conceal hide = (c'.send net e body' d).conceal hide := by
  have hurl : c.urlFor e = c'.urlFor e := by rw [urlFor, urlFor, h.baseUrl]
  rcases Request.build_congr e.method (c'.urlFor e) (body.map Json.render) (body'.map Json.render)
      (h.isHeaderText_authorization e.key) with ⟨failure,hbuilt,hbuilt'⟩ | ⟨url,hbuilt,hbuilt'⟩
  · simp only [send, request, hurl, hbuilt, hbuilt']
  · have hanswer := hnet _ _ (hhide url)
    simp only [send, request, hurl, hbuilt, hbuilt', hanswer]
    split <;> simp [Exchange.conceal, hhide url]

/-- What carries the public key does not depend on the private one. -/
theorem Alike.send_eq (h : c.Alike c') (he : e.key = .publicKey) (d : Decoder α) :
    c.send net e body d = c'.send net e body d := by
  have hsame : c.authorization e.key = c'.authorization e.key := by
    rw [he, authorization, authorization, h.publicKey]
  simpa using h.conceal_send net.blind_id d fun url => by rw [hsame]

theorem Alike.institutions_eq (h : c.Alike c') : c.institutions net = c'.institutions net :=
  h.send_eq rfl _

theorem Alike.acceptanceToken_eq (h : c.Alike c') :
    c.acceptanceToken net = c'.acceptanceToken net := by
  rw [acceptanceToken, acceptanceToken, h.publicKey]
  exact h.send_eq rfl _

theorem Alike.retrieve_eq (h : c.Alike c') (id : String) : c.retrieve net id = c'.retrieve net id :=
  h.send_eq rfl _

/-- What a card holds is sent and not told. -/
theorem Alike.conceal_tokenizeCard (h : c.Alike c') (hnet : net.Blind Request.withoutContent)
    {card card' : Card} (hcard : card.validate = card'.validate) :
    (c.tokenizeCard net card).conceal Request.withoutContent =
      (c'.tokenizeCard net card').conceal Request.withoutContent := by
  unfold tokenizeCard
  rw [hcard]
  split
  · rfl
  · refine h.conceal_send hnet _ fun url => ?_
    have hsame : c.authorization .publicKey = c'.authorization .publicKey := by
      rw [authorization, authorization, h.publicKey]
    simp [Request.withoutContent, Endpoint.tokenizeCard, hsame]

theorem Alike.conceal_create (h : c.Alike c') (hnet : net.Blind Request.withoutAuthorization)
    (r : TransactionRequest) : (c.create net r).conceal Request.withoutAuthorization =
      (c'.create net r).conceal Request.withoutAuthorization := by
  simp only [create, Exchange.conceal_note]
  rw [h.conceal_send hnet _ fun url => rfl]

theorem Alike.conceal_void (h : c.Alike c') (hnet : net.Blind Request.withoutAuthorization)
    (id : String) (kind : PaymentKind) : (c.void net id kind).conceal Request.withoutAuthorization =
      (c'.void net id kind).conceal Request.withoutAuthorization := by
  unfold void
  split
  · exact h.conceal_send hnet _ fun url => rfl
  · rfl

end Client

/-- Gateways that differ in their private keys only. -/
structure Service.Alike (s s' : Service) : Prop where
  client : s.client.Alike s'.client
  autoCapture : s.config.autoCapture = s'.config.autoCapture

namespace Service
variable {s s' : Service}

theorem Alike.conceal_authorize (h : s.Alike s') (hnet : net.Blind Request.withoutAuthorization)
    (p : Payment) : (s.authorize net p).conceal Request.withoutAuthorization =
      (s'.authorize net p).conceal Request.withoutAuthorization := by
  have hkind : s.authorizeKind = s'.authorizeKind := by
    rw [authorizeKind, authorizeKind, h.autoCapture]
  have hcreate : (s.createFor net p).conceal Request.withoutAuthorization =
      (s'.createFor net p).conceal Request.withoutAuthorization := by
    unfold createFor
    split
    · rfl
    · split
      · rfl
      · exact h.client.conceal_create hnet _
  simp only [authorize, Exchange.conceal_map, Exchange.conceal_note, hkind, hcreate]

theorem Alike.capture_eq (h : s.Alike s') (p : Payment) : s.capture net p = s'.capture net p := by
  unfold capture
  split
  · rfl
  · rw [h.client.retrieve_eq]

theorem Alike.conceal_void (h : s.Alike s') (hnet : net.Blind Request.withoutAuthorization)
    (p : Payment) : (s.void net p).conceal Request.withoutAuthorization =
      (s'.void net p).conceal Request.withoutAuthorization := by
  have hvoid : (s.voidFor net p).conceal Request.withoutAuthorization =
      (s'.voidFor net p).conceal Request.withoutAuthorization := by
    unfold voidFor
    split
    · rfl
    · rfl
    · exact h.client.conceal_void hnet _ _
  simp only [void, Exchange.conceal_map, Exchange.conceal_note, hvoid]

end Service
end Gateway
end Checkout
