import Checkout.Gateway.Client
import Checkout.Proofs.Json.Fields

/-! What a request to the gateway comes to. There are six ways, and which one is taken decides both
the requests that were sent and the result; only a complete answer in the 2xx range whose envelope
can be read gives a record. -/
namespace Checkout

open Checkout.Http (Network Request Reply TransportFailure)

lemma Http.isHeaderText_bearer (key : String) :
    isHeaderText ("Bearer " ++ key) = isHeaderText key := by
  rw [isHeaderText, isHeaderText, String.toList_append, List.all_append]
  rfl

namespace Http.Request
variable {method : Method} {address authorization : String} {body : Option String}

/-- A request is built for an address of a machine on the web that is not too long, if the
authorization may stand in a header. -/
theorem build_eq_ok_iff {request : Request} :
    build method address authorization body = .ok request ↔
      ∃ url, Url.ofText? address = some url ∧ url.hasHost = true ∧
        isHeaderText authorization = true ∧ (url.scheme = "http" ∨ url.scheme = "https") ∧
        url.toText.utf8ByteSize ≤ longestUrl ∧ request = ⟨method,url,authorization,body⟩ := by
  constructor
  · intro h
    unfold build at h
    split at h
    · cases h
    · next url hurl =>
      simp only [Bool.not_eq_true', ne_eq, ite_eq_iff, reduceCtorEq, and_false, false_or,
        Except.ok.injEq, not_and_or, not_not, Bool.not_eq_false, not_lt] at h
      obtain ⟨hhost,hheader,hscheme,hlength,hrequest⟩ := h
      exact ⟨url,hurl,hhost,hheader,hscheme,hlength,hrequest.symm⟩
  · rintro ⟨url,hurl,hhost,hheader,hscheme,hlength,rfl⟩
    unfold build
    have hweb : ¬ (url.scheme ≠ "http" ∧ url.scheme ≠ "https") := by
      simpa only [ne_eq, not_and_or, not_not] using hscheme
    simp only [hurl, hhost, hheader, Bool.not_true, Bool.false_eq_true, if_false, if_neg hweb,
      if_neg (Nat.not_lt.mpr hlength)]

/-- What keeps a request from being built is always reported as that. -/
lemma unbuildable_of_build {failure : TransportFailure}
    (h : build method address authorization body = .error failure) :
    ∃ url, failure = .unbuildable url := by
  unfold build at h
  split at h
  · cases h
    exact ⟨_,rfl⟩
  · repeat' split at h
    all_goals cases h
    all_goals exact ⟨_,rfl⟩

end Http.Request

namespace Gateway

open Checkout.Json (Decoder)

variable {α : Type}

/-- A request is answered in the 2xx range by a complete body in whose envelope `a` is read. -/
def Answers (net : Network) (request : Request) (d : Decoder α) (a : α) : Prop :=
  ∃ reply bytes, net.deliver request = some reply ∧ 200 ≤ reply.status ∧ reply.status < 300 ∧
    reply.bytes? = some bytes ∧ (envelope d).fromBytes bytes = .ok a

lemma isSuccess_iff (reply : Reply) :
    reply.isSuccess = true ↔ 200 ≤ reply.status ∧ reply.status < 300 := by
  simp [Reply.isSuccess]

namespace Client

/-- What the requests to an endpoint come to: those that were sent, and the result. -/
inductive Concludes (c : Client) (net : Network) (e : Endpoint) (body : Option Json)
    (d : Decoder α) : List Request → Except GatewayError α → Prop
  | unbuilt {failure} (built : c.request e body = .error failure) :
      Concludes c net e body d [] (.error (.transport failure))
  | unanswered {request} (built : c.request e body = .ok request)
      (silent : net.deliver request = none) :
      Concludes c net e body d [request] (.error (.transport (.unanswered request.url.toText)))
  | refused {request reply} (built : c.request e body = .ok request)
      (delivered : net.deliver request = some reply) (status : reply.isSuccess = false) :
      Concludes c net e body d [request] (.error (.ofStatus reply.status (reply.text net.encodings)))
  | brokenOff {request reply} (built : c.request e body = .ok request)
      (delivered : net.deliver request = some reply) (status : reply.isSuccess = true)
      (cut : reply.bytes? = none) :
      Concludes c net e body d [request] (.error (.transport .brokenBody))
  | undecodable {request reply bytes error} (built : c.request e body = .ok request)
      (delivered : net.deliver request = some reply) (status : reply.isSuccess = true)
      (complete : reply.bytes? = some bytes) (unread : (envelope d).fromBytes bytes = .error error) :
      Concludes c net e body d [request] (.error (.malformedReply (e.path ++ ": " ++ error.message)))
  | decoded {request reply bytes a} (built : c.request e body = .ok request)
      (delivered : net.deliver request = some reply) (status : reply.isSuccess = true)
      (complete : reply.bytes? = some bytes) (read : (envelope d).fromBytes bytes = .ok a) :
      Concludes c net e body d [request] (.ok a)

/-- What is sent does not depend on the network. -/
lemma sent_send (c : Client) (net : Network) (e : Endpoint) (body : Option Json) (d : Decoder α) :
    (c.send net e body d).sent = (c.request e body).toOption.toList := by
  unfold send
  split
  · next h => simp [h, Except.toOption]
  · next h =>
    split
    · simp [h, Except.toOption]
    · simp [h, Except.toOption]

section Send
variable {c : Client} {net : Network} {e : Endpoint} {body : Option Json} {d : Decoder α}

/-- A conclusion leaves no choice about what was sent and about the result. -/
theorem Concludes.send_eq {sent : List Request} {r : Except GatewayError α}
    (h : Concludes c net e body d sent r) :
    (c.send net e body d).sent = sent ∧ (c.send net e body d).result = r := by
  cases h with
  | unbuilt built => simp [send, built]
  | unanswered built silent => simp [send, built, silent]
  | refused built delivered status => simp [send, built, delivered, conclude, status]
  | brokenOff built delivered status cut => simp [send, built, delivered, conclude, status, cut]
  | undecodable built delivered status complete unread =>
    simp [send, built, delivered, conclude, status, complete, unread, Except.mapError]
  | decoded built delivered status complete read =>
    simp [send, built, delivered, conclude, status, complete, read, Except.mapError]

/-- Every request comes to one of the conclusions. -/
theorem concludes_send (c : Client) (net : Network) (e : Endpoint) (body : Option Json)
    (d : Decoder α) :
    Concludes c net e body d (c.send net e body d).sent (c.send net e body d).result := by
  have hsome : ∃ sent r, Concludes c net e body d sent r := by
    cases built : c.request e body with
    | error failure => exact ⟨_,_,.unbuilt built⟩
    | ok request =>
      cases delivered : net.deliver request with
      | none => exact ⟨_,_,.unanswered built delivered⟩
      | some reply =>
        cases status : reply.isSuccess with
        | false => exact ⟨_,_,.refused built delivered status⟩
        | true =>
          cases complete : reply.bytes? with
          | none => exact ⟨_,_,.brokenOff built delivered status complete⟩
          | some bytes =>
            cases read : (envelope d).fromBytes bytes with
            | error error => exact ⟨_,_,.undecodable built delivered status complete read⟩
            | ok a => exact ⟨_,_,.decoded built delivered status complete read⟩
  obtain ⟨sent,r,h⟩ := hsome
  obtain ⟨hsent,hresult⟩ := h.send_eq
  rwa [hsent, hresult]

/-- A record is the result exactly if the request that was sent is answered by it. -/
theorem Concludes.eq_ok_iff {sent : List Request} {r : Except GatewayError α} {a : α}
    (h : Concludes c net e body d sent r) :
    r = .ok a ↔ ∃ request, sent = [request] ∧ Answers net request d a := by
  have hother : ∀ {request : Request} {e : GatewayError}, ¬ Answers net request d a →
      ((.error e : Except GatewayError α) = .ok a ↔
        ∃ request', [request] = [request'] ∧ Answers net request' d a) := by
    intro request e hnot
    simpa using hnot
  cases h with
  | unbuilt => simp
  | unanswered built silent =>
    refine hother ?_
    rintro ⟨reply,bytes,hreply,-⟩
    simp [silent] at hreply
  | refused built delivered status =>
    refine hother ?_
    rintro ⟨reply,bytes,hreply,hlow,hhigh,-⟩
    cases delivered.symm.trans hreply
    have hsuccess := (isSuccess_iff _).mpr ⟨hlow,hhigh⟩
    simp [status] at hsuccess
  | brokenOff built delivered status cut =>
    refine hother ?_
    rintro ⟨reply,bytes,hreply,-,-,hbytes,-⟩
    cases delivered.symm.trans hreply
    simp [cut] at hbytes
  | undecodable built delivered status complete unread =>
    refine hother ?_
    rintro ⟨reply,bytes,hreply,-,-,hbytes,hread⟩
    cases delivered.symm.trans hreply
    cases complete.symm.trans hbytes
    simp [unread] at hread
  | @decoded request reply bytes a' built delivered status complete read =>
    obtain ⟨hlow,hhigh⟩ := (isSuccess_iff reply).mp status
    constructor
    · intro he
      cases he
      exact ⟨request,rfl,reply,bytes,delivered,hlow,hhigh,complete,read⟩
    · rintro ⟨request',he,reply',bytes',hreply,-,-,hbytes,hread⟩
      cases he
      cases delivered.symm.trans hreply
      cases complete.symm.trans hbytes
      cases read.symm.trans hread
      rfl

/-- A request that was sent is the one to the endpoint. -/
lemma Concludes.request_eq {sent : List Request} {r : Except GatewayError α} {request : Request}
    (h : Concludes c net e body d sent r) (hrequest : request ∈ sent) :
    c.request e body = .ok request := by
  cases h with
  | unbuilt => cases hrequest
  | unanswered built | refused built | brokenOff built | undecodable built | decoded built =>
    rwa [List.mem_singleton.mp hrequest]

/-- A request without a reply comes to a fault of the transport. -/
lemma Concludes.eq_of_silent {sent : List Request} {r : Except GatewayError α} {request : Request}
    (h : Concludes c net e body d sent r) (hrequest : request ∈ sent)
    (hsilent : net.deliver request = none) :
    r = .error (.transport (.unanswered request.url.toText)) := by
  have hunanswered : Concludes c net e body d [request]
      (.error (.transport (.unanswered request.url.toText))) :=
    .unanswered (h.request_eq hrequest) hsilent
  exact h.send_eq.2.symm.trans hunanswered.send_eq.2

/-- A request that a reply refuses comes to the error of the reply's status and text. -/
lemma Concludes.eq_of_refused {sent : List Request} {r : Except GatewayError α} {request : Request}
    {reply : Reply} (h : Concludes c net e body d sent r) (hrequest : request ∈ sent)
    (hreply : net.deliver request = some reply) (hstatus : reply.isSuccess = false) :
    r = .error (.ofStatus reply.status (reply.text net.encodings)) := by
  have hrefused : Concludes c net e body d [request]
      (.error (.ofStatus reply.status (reply.text net.encodings))) :=
    .refused (h.request_eq hrequest) hreply hstatus
  exact h.send_eq.2.symm.trans hrefused.send_eq.2

end Send

end Client
end Gateway
end Checkout
