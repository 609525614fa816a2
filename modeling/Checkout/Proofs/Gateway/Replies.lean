import Checkout.Proofs.Gateway.Requests
import Checkout.Proofs.Json.Envelopes
import Checkout.Proofs.Json.FromText

/-! What the gateway's reply makes of an operation. The status comes first: outside the 2xx range it
decides alone, whatever the body holds. Inside it the body has to arrive as a whole and has to be
the operation's envelope, and the result is what the value in the envelope is read as. -/
namespace Checkout.Service.Call

open Checkout.Http (Network Request Reply)
open Checkout.Json (Decoder Document Node Symbol)
open Checkout.Gateway (Endpoint isSuccess_iff)

variable {α : Type}

/-- The records around what an operation gives, with their fields, from the outermost on. -/
def records : Call α → List (String × String)
  | void _ _ | host .void _ => [("Envelope","data"),("VoidData","transaction")]
  | acceptanceToken => [("Envelope","data"),("MerchantData","presigned_acceptance")]
  | _ => [("Envelope","data")]

/-- What an operation gives, as it stands inside these records. -/
def record : Call α → Decoder α
  | tokenizeCard _ => CardToken.decoder
  | institutions => .list Institution.decoder
  | acceptanceToken => AcceptanceToken.decoder
  | create _ | retrieve _ | void _ _ | host _ _ => Transaction.decoder

/-- A body is the envelope of what an operation gives: one document with nothing behind it, and what
it wraps is read as the record. -/
def Encloses (call : Call α) (bytes : List UInt8) (a : α) : Prop :=
  (Document.ofSymbols (Symbol.ofBytes bytes)).behind = none ∧
  ∃ part, (Node.ofBytes bytes).Within (call.records.map Prod.snd) part ∧
    call.record.text (Json.levels - call.records.length) part = .ok a

lemma envelope_answer (call : Call α) :
    envelope call.answer = .inside call.records call.record := by
  cases call with
  | host op p => cases op <;> rfl
  | _ => rfl

lemma exists_records_eq (call : Call α) :
    ∃ rest, call.records = ("Envelope","data") :: rest ∧ rest.length ≤ 1 := by
  cases call with
  | host op p => cases op <;> exact ⟨_,rfl,by decide⟩
  | _ => exact ⟨_,rfl,by decide⟩

/-- The envelope of an answer is read exactly from the bodies that enclose the record. -/
theorem fromBytes_eq_ok_iff (call : Call α) {bytes : List UInt8} {a : α} :
    (envelope call.answer).fromBytes bytes = .ok a ↔ call.Encloses bytes a := by
  obtain ⟨rest,hrecords,hrest⟩ := call.exists_records_eq
  have hdepth : call.records.length < Json.levels := by
    rw [hrecords, List.length_cons, Json.levels]
    omega
  rw [Decoder.fromBytes, Decoder.fromSymbols, Json.readWith_eq_ok_iff, envelope_answer,
    Decoder.text_inside_iff hdepth, and_comm]
  rfl

/-- Nothing is enclosed in an empty body. -/
lemma not_encloses_nil (call : Call α) (a : α) : ¬ call.Encloses [] a := by
  rintro ⟨-,part,hpart,-⟩
  obtain ⟨rest,hrecords,-⟩ := call.exists_records_eq
  rw [hrecords] at hpart
  cases hpart with
  | inside wraps => cases wraps

/-- What a reply makes of an operation that asked at an endpoint. The text of a refusal is read in the
encoding that the reply names, which may be one of some further `encodings`. -/
structure Settles (call : Call α) (encodings : Text.Encodings) (endpoint : Endpoint) (reply : Reply)
    (result : Except GatewayError α) : Prop where
  ok : ∀ a, result = .ok a ↔ 200 ≤ reply.status ∧ reply.status < 300 ∧
    ∃ bytes, reply.bytes? = some bytes ∧ call.Encloses bytes a
  undecodable : 200 ≤ reply.status → reply.status < 300 → ∀ bytes, reply.bytes? = some bytes →
    (∀ a, ¬ call.Encloses bytes a) →
      ∃ problem, result = .error (.malformedReply (endpoint.path ++ ": " ++ problem))
  empty : 200 ≤ reply.status → reply.status < 300 → reply.bytes? = some [] →
    ∃ problem, result = .error (.malformedReply (endpoint.path ++ ": " ++ problem))
  brokenOff : 200 ≤ reply.status → reply.status < 300 → reply.bytes? = none →
    result = .error (.transport .brokenBody)
  refused : ¬ (200 ≤ reply.status ∧ reply.status < 300) →
    ∃ text, result = .error (.ofStatus reply.status text) ∧ (reply.bytes? = none → text = "") ∧
      ∀ bytes, reply.bytes? = some bytes →
        text = (Text.Charset.ofContentType encodings reply.contentType).decode bytes

section Settles
variable {call : Call α} {encodings : Text.Encodings} {endpoint : Endpoint} {reply : Reply}

lemma settles_refused (hstatus : ¬ (200 ≤ reply.status ∧ reply.status < 300)) :
    call.Settles encodings endpoint reply
      (.error (.ofStatus reply.status (reply.text encodings))) where
  ok a := by
    constructor
    · intro h
      cases h
    · rintro ⟨hlow,hhigh,-⟩
      exact absurd ⟨hlow,hhigh⟩ hstatus
  undecodable hlow hhigh := absurd ⟨hlow,hhigh⟩ hstatus
  empty hlow hhigh := absurd ⟨hlow,hhigh⟩ hstatus
  brokenOff hlow hhigh := absurd ⟨hlow,hhigh⟩ hstatus
  refused _ := by
    refine ⟨reply.text encodings,rfl,fun hcut => ?_,fun bytes hbytes => ?_⟩
    · rw [Reply.text, hcut]
    · rw [Reply.text, hbytes]

lemma settles_brokenOff (hlow : 200 ≤ reply.status) (hhigh : reply.status < 300)
    (hcut : reply.bytes? = none) :
    call.Settles encodings endpoint reply (.error (.transport .brokenBody)) where
  ok a := by
    constructor
    · intro h
      cases h
    · rintro ⟨-,-,bytes,hbytes,-⟩
      cases hcut.symm.trans hbytes
  undecodable _ _ bytes hbytes := by cases hcut.symm.trans hbytes
  empty _ _ hbytes := by cases hcut.symm.trans hbytes
  brokenOff _ _ _ := rfl
  refused hstatus := absurd ⟨hlow,hhigh⟩ hstatus

lemma settles_undecodable (hlow : 200 ≤ reply.status) (hhigh : reply.status < 300)
    {bytes : List UInt8} (hbytes : reply.bytes? = some bytes) (hnone : ∀ a, ¬ call.Encloses bytes a)
    (problem : String) :
    call.Settles encodings endpoint reply
      (.error (.malformedReply (endpoint.path ++ ": " ++ problem))) where
  ok a := by
    constructor
    · intro h
      cases h
    · rintro ⟨-,-,bytes',hbytes',hencloses⟩
      cases hbytes.symm.trans hbytes'
      exact absurd hencloses (hnone a)
  undecodable _ _ _ _ _ := ⟨problem,rfl⟩
  empty _ _ _ := ⟨problem,rfl⟩
  brokenOff _ _ hcut := by cases hcut.symm.trans hbytes
  refused hstatus := absurd ⟨hlow,hhigh⟩ hstatus

lemma settles_decoded (hlow : 200 ≤ reply.status) (hhigh : reply.status < 300)
    {bytes : List UInt8} (hbytes : reply.bytes? = some bytes) {a : α} (ha : call.Encloses bytes a) :
    call.Settles encodings endpoint reply (.ok a) where
  ok b := by
    constructor
    · intro h
      cases h
      exact ⟨hlow,hhigh,bytes,hbytes,ha⟩
    · rintro ⟨-,-,bytes',hbytes',hb⟩
      cases hbytes.symm.trans hbytes'
      have hread := (call.fromBytes_eq_ok_iff.mpr ha).symm.trans (call.fromBytes_eq_ok_iff.mpr hb)
      rw [Except.ok.inj hread]
  undecodable _ _ bytes' hbytes' hnone := by
    cases hbytes.symm.trans hbytes'
    exact absurd ha (hnone a)
  empty _ _ hempty := by
    cases hbytes.symm.trans hempty
    exact absurd ha (call.not_encloses_nil a)
  brokenOff _ _ hcut := by cases hcut.symm.trans hbytes
  refused hstatus := absurd ⟨hlow,hhigh⟩ hstatus

/-- A reply settles what the request comes to. -/
lemma settles_of_concludes {c : Gateway.Client} {net : Network} {body : Option Json}
    {sent : List Request} {request : Request} {result : Except GatewayError α}
    (h : c.Concludes net endpoint body call.answer sent result)
    (hsent : request ∈ sent) (hreply : net.deliver request = some reply) :
    call.Settles net.encodings endpoint reply result := by
  cases h with
  | unbuilt => cases hsent
  | unanswered built silent =>
    rw [List.mem_singleton.mp hsent, silent] at hreply
    cases hreply
  | refused built delivered status =>
    rw [List.mem_singleton.mp hsent, delivered] at hreply
    cases hreply
    refine settles_refused ?_
    rw [← isSuccess_iff, status]
    exact Bool.false_ne_true
  | brokenOff built delivered status cut =>
    rw [List.mem_singleton.mp hsent, delivered] at hreply
    cases hreply
    obtain ⟨hlow,hhigh⟩ := (isSuccess_iff _).mp status
    exact settles_brokenOff hlow hhigh cut
  | undecodable built delivered status complete unread =>
    rw [List.mem_singleton.mp hsent, delivered] at hreply
    cases hreply
    obtain ⟨hlow,hhigh⟩ := (isSuccess_iff _).mp status
    refine settles_undecodable hlow hhigh complete (fun a ha => ?_) _
    cases unread.symm.trans (call.fromBytes_eq_ok_iff.mpr ha)
  | decoded built delivered status complete read =>
    rw [List.mem_singleton.mp hsent, delivered] at hreply
    cases hreply
    obtain ⟨hlow,hhigh⟩ := (isSuccess_iff _).mp status
    exact settles_decoded hlow hhigh complete (call.fromBytes_eq_ok_iff.mp read)

end Settles

/-- An operation that sends a request gives the record exactly if it is enclosed in the whole body of
a reply in the 2xx range. Any other body in that range is malformed, reported under the path that was
asked, or broke off, which like a lost connection is a fault of the transport. Every other status
decides the error alone. -/
theorem replies_decide {app : App} {net : Network} (call : Call α) {request : Request}
    (hsent : request ∈ (call.attempt app net).sent) :
    ∃ endpoint, call.Asks app endpoint ∧
      (net.deliver request = none → (call.attempt app net).result =
        .error (.transport (.unanswered request.url.toText))) ∧
      ∀ reply, net.deliver request = some reply →
        call.Settles net.encodings endpoint reply (call.attempt app net).result := by
  have hends := ends app net call
  generalize (call.attempt app net).sent = sent at hends hsent
  generalize (call.attempt app net).result = result at hends
  cases hends with
  | stopped => cases hsent
  | asked asks h =>
    refine ⟨_,asks,fun hsilent => ?_,fun reply hreply => settles_of_concludes h hsent hreply⟩
    cases h with
    | unbuilt => cases hsent
    | unanswered => rw [List.mem_singleton.mp hsent]
    | refused built delivered | brokenOff built delivered | undecodable built delivered
    | decoded built delivered =>
      rw [List.mem_singleton.mp hsent, delivered] at hsilent
      cases hsilent

/-- The envelope of an approved transaction. -/
def approvedEnvelope : String :=
  "\x7b\"data\":\x7b\"id\":\"t1\",\"amount_in_cents\":10000,\"status\":\"APPROVED\"\x7d\x7d"

/-- A gateway that replies with this envelope under every status. -/
def enveloping (status : ℕ) : Network :=
  .up fun _ => some ⟨status,none,Text.Utf8.encode approvedEnvelope,false⟩

/-- The same envelope gives a transaction under one status and an error under another. -/
theorem replies_decide_enveloping :
    (∃ request ∈ ((retrieve "t1").attempt capturing (enveloping 200)).sent, ∃ t,
      (enveloping 200).deliver request =
        some ⟨200,none,Text.Utf8.encode approvedEnvelope,false⟩ ∧
      (retrieve "t1").Encloses (Text.Utf8.encode approvedEnvelope) t ∧
      ((retrieve "t1").attempt capturing (enveloping 200)).result = .ok t) ∧
    ∃ request ∈ ((retrieve "t1").attempt capturing (enveloping 404)).sent,
      (enveloping 404).deliver request =
        some ⟨404,none,Text.Utf8.encode approvedEnvelope,false⟩ ∧
      ((retrieve "t1").attempt capturing (enveloping 404)).result =
        .error (.notFound approvedEnvelope) := by
  have hdecoded : (((envelope (retrieve "t1").answer).fromBytes
      (Text.Utf8.encode approvedEnvelope)).toOption.map Transaction.id) = some "t1" := by
    decide +kernel
  obtain ⟨t,ht,-⟩ := Option.map_eq_some_iff.mp hdecoded
  have hencloses := (retrieve "t1").fromBytes_eq_ok_iff.mp (toOption_eq_some_iff.mp ht)
  obtain ⟨request,hsent⟩ := List.exists_mem_of_ne_nil
    ((retrieve "t1").attempt capturing (enveloping 200)).sent (by decide +kernel)
  obtain ⟨request',hsent'⟩ := List.exists_mem_of_ne_nil
    ((retrieve "t1").attempt capturing (enveloping 404)).sent (by decide +kernel)
  obtain ⟨_,_,_,haccepted⟩ := replies_decide (retrieve "t1") hsent
  obtain ⟨_,_,_,hrefused⟩ := replies_decide (retrieve "t1") hsent'
  obtain ⟨text,hresult,-,htext⟩ := (hrefused _ rfl).refused (by decide)
  have htext : text = approvedEnvelope := (htext _ rfl).trans (by decide +kernel)
  rw [htext] at hresult
  exact ⟨⟨request,hsent,t,rfl,hencloses,((haccepted _ rfl).ok t).mpr ⟨by decide,by decide,_,rfl,
    hencloses⟩⟩,request',hsent',rfl,hresult⟩

end Checkout.Service.Call
