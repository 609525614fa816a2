import Checkout.Proofs.Gateway.Base
import Checkout.Proofs.Service.Errors
import Checkout.Proofs.Service.Tally
import Checkout.Proofs.Transaction.Records

/-! What a customer gets who asks for the token of acceptance. Whatever the gateway replies, the one
request, the answer and the counters say the same: either the token of the reply is handed on, or the
answer shows the text of the error, character by character. -/
namespace Checkout

open Checkout.Http (Network Request Response)

namespace Gateway.Client

/-- A base address below which the merchant of a key can be asked about: one of the web, with neither a
query nor a fragment, and room for the key. As everywhere, a host outside ASCII is not read, and a user
in front of the host is passed over. -/
structure Usable (c : Client) (base : Url) : Prop where
  read : Url.ofText? (c.baseUrl ++ "/") = some base
  web : base.scheme = "http" ∨ base.scheme = "https"
  query : base.query = none
  fragment : base.fragment = none
  room : (base.toText ++ "merchants/" ++ c.publicKey).utf8ByteSize ≤ Request.longestUrl

/-- The segment in front of that of a merchant. -/
def merchants : List Char := "merchants".toList

lemma ofList_merchants (key : String) :
    String.ofList (merchants ++ [key.toList].flatMap ('/' :: ·)) = "merchants/" ++ key := by
  have hplace : "merchants/".toList = merchants ++ ['/'] := by decide +kernel
  apply String.toList_injective
  rw [String.toList_ofList, String.toList_append, hplace, List.flatMap_singleton, List.append_assoc,
    List.singleton_append]

lemma Usable.opens {c : Client} {base : Url} (h : c.Usable base)
    (hkey : Url.IsWord c.publicKey.toList) : c.Opens base (.merchant c.publicKey) where
  read := h.read
  web := h.web
  query := h.query
  fragment := h.fragment
  header := by
    refine (Http.isHeaderText_bearer c.publicKey).trans ?_
    exact List.all_eq_true.mpr fun d hd => (hkey.isInert d hd).header
  room := by
    rw [Endpoint.merchant, ← String.append_assoc]
    exact h.room

/-- The merchant is asked about by one request, whose address goes on from the base with the key. -/
theorem exists_sent_acceptanceToken {c : Client} {base : Url} (h : c.Usable base)
    (hkey : Url.IsWord c.publicKey.toList) (net : Network) :
    ∃ url, base.GoesOn url ("merchants/" ++ c.publicKey) ∧
      (c.acceptanceToken net).sent = [⟨.get,url,"Bearer " ++ c.publicKey,none⟩] := by
  have hplace : Url.IsWord merchants := by decide +kernel
  have hwords : ∀ name ∈ [merchants,c.publicKey.toList], Url.IsWord name := by
    simpa using ⟨hplace,hkey⟩
  obtain ⟨url,hgoes,hrequest⟩ :=
    (h.opens hkey).exists_request _ _ hwords (ofList_merchants c.publicKey).symm
  refine ⟨url,hgoes,?_⟩
  rw [acceptanceToken, sent_send, hrequest]
  rfl

end Gateway.Client

namespace Service

open Checkout.Gateway (Answers)

/-- A request for the token of acceptance. -/
structure Incoming.IsLookup (r : Incoming) : Prop where
  method : r.method = "GET" ∨ r.method = "POST"
  path : barePath r.path = "/acceptance-token"

/-- One more is counted of a label, and no more of any other one. -/
def Counter.Grows (c c' : Counter) (label : String) : Prop :=
  ∀ l, c'.samples.lookup l = if l = label then some (c.count label + 1) else c.samples.lookup l

lemma Counter.Holds.grows {c : Counter} {counted asked : List String} (h : c.Holds counted asked)
    (label : String) : c.Grows (c.record label) label := h.lookup_record label

/-- What becomes of a request for the token of acceptance. -/
structure Serves (app : App) (net : Network) (e : Effect Response) : Prop where
  /-- The merchant of the public key is asked about, once. -/
  asked : ∀ base, app.gateway.client.Usable base →
    Url.IsWord app.gateway.client.publicKey.toList →
    ∃ url, base.GoesOn url ("merchants/" ++ app.gateway.client.publicKey) ∧
      e.sent = [⟨.get,url,"Bearer " ++ app.gateway.client.publicKey,none⟩]
  /-- A token is the one of the reply, and the answer is read as this token. -/
  granted : ∀ token, (app.gateway.client.acceptanceToken net).result = .ok token →
    (∃ request, e.sent = [request] ∧ Answers net request merchantData token) ∧
    e.answer.status = 200 ∧ e.answer.contentType = some "application/json" ∧
    e.answer.errorCode = none ∧
    Json.parse e.answer.body = .ok (.object [("acceptance_token",.string token.token),
      ("permalink",.string token.permalink)]) ∧
    AcceptanceToken.decoder.fromText e.answer.body = .ok token ∧
    app.metrics.acceptance.Grows e.metrics.acceptance "ok"
  /-- A reply that refuses is an error with the text of the reply. -/
  told : ∀ request ∈ e.sent, ∀ reply, net.deliver request = some reply → reply.isSuccess = false →
    (app.gateway.client.acceptanceToken net).result =
      .error (.ofStatus reply.status (reply.text net.encodings))
  /-- An error is answered by its text, in an object with nothing else but the code. -/
  refused : ∀ error, (app.gateway.client.acceptanceToken net).result = .error error →
    e.answer.status = 400 ∧ e.answer.contentType = some "application/json" ∧
    e.answer.errorCode = some "acceptance_token_unavailable" ∧
    Json.parse e.answer.body = .ok (.object [("code",.string "acceptance_token_unavailable"),
      ("message",.string error.message)]) ∧
    app.metrics.acceptance.Grows e.metrics.acceptance "error"
  /-- Nothing else is counted, and no order is touched. -/
  kept : e.metrics.webhooks = app.metrics.webhooks ∧ e.applied = []

section Lookup
variable {app : App} {net : Network} {r : Incoming}

/-- A lookup reaches its handler, and the answer keeps its body. -/
lemma Incoming.IsLookup.handle_eq (h : r.IsLookup) (app : App) (net : Network) :
    app.handle net r = app.lookUpToken net := by
  have htaken : r.method ∈ Route.methods .acceptanceToken := by
    rcases h.method with hget | hpost
    · simp [hget, Route.methods]
    · simp [hpost, Route.methods]
  have hreached : r.reached? = some .acceptanceToken :=
    Incoming.reached?_eq_some_iff.mpr ⟨h.path,htaken,fun hwebhooks => by cases hwebhooks⟩
  have hbody : r.method ≠ "HEAD" := by
    rcases h.method with hget | hpost
    · simp [hget]
    · simp [hpost]
  rw [App.handle_of_reached app net hreached]
  exact if_neg hbody

/-- A token that is found is handed on. -/
lemma lookUpToken_of_ok {token : AcceptanceToken}
    (h : (app.gateway.client.acceptanceToken net).result = .ok token) :
    (app.lookUpToken net).answer = .json 200 token.toJson ∧
      (app.lookUpToken net).metrics = app.metrics.recordAcceptance true := by
  simp [App.lookUpToken, h]

/-- A lookup that fails is answered by its error. -/
lemma lookUpToken_of_error {error : GatewayError}
    (h : (app.gateway.client.acceptanceToken net).result = .error error) :
    (app.lookUpToken net).answer =
        (ApiError.badRequest "acceptance_token_unavailable" (some error.message)).toResponse ∧
      (app.lookUpToken net).metrics = app.metrics.recordAcceptance false := by
  simp [App.lookUpToken, h]

/-- Apart from the answer and the counters, a lookup does what the gateway's client does. -/
lemma lookUpToken_eq (app : App) (net : Network) :
    (app.lookUpToken net).sent = (app.gateway.client.acceptanceToken net).sent ∧
      (app.lookUpToken net).applied = [] ∧
      (app.lookUpToken net).metrics.webhooks = app.metrics.webhooks := by
  unfold App.lookUpToken
  dsimp only
  split <;> exact ⟨rfl,rfl,rfl⟩

/-- A lookup is served, whatever was counted before. -/
theorem serves_lookUpToken {counted asked : List String}
    (h : app.metrics.acceptance.Holds counted asked) (net : Network) :
    Serves app net (app.lookUpToken net) := by
  obtain ⟨hsent,happlied,hwebhooks⟩ := lookUpToken_eq app net
  have hconcludes := Gateway.Client.concludes_send app.gateway.client net
    (.merchant app.gateway.client.publicKey) none merchantData
  constructor
  case asked =>
    intro base hbase hkey
    rw [hsent]
    exact Gateway.Client.exists_sent_acceptanceToken hbase hkey net
  case granted =>
    intro token htoken
    obtain ⟨hanswer,hmetrics⟩ := lookUpToken_of_ok htoken
    rw [hsent, hanswer, hmetrics]
    have hreply := hconcludes.eq_ok_iff.mp htoken
    have hparsed := Json.parse_render_texts
      [("acceptance_token",token.token),("permalink",token.permalink)]
      (List.pairwise_pair.mpr (by decide +kernel : "acceptance_token" < "permalink"))
    have hread := (AcceptanceToken.lossless token).2.declared.direct
    exact ⟨hreply,rfl,rfl,rfl,hparsed,hread,h.grows "ok"⟩
  case told =>
    intro request hrequest reply hreply hstatus
    rw [hsent] at hrequest
    exact hconcludes.eq_of_refused hrequest hreply hstatus
  case refused =>
    intro error herror
    obtain ⟨hanswer,hmetrics⟩ := lookUpToken_of_error herror
    rw [hanswer, hmetrics]
    have hheader : Http.isHeaderText "acceptance_token_unavailable" = true := by decide +kernel
    refine ⟨rfl,rfl,?_,ApiError.parse_body_toResponse _,h.grows "error"⟩
    exact (ApiError.errorCode_toResponse_eq_some_iff _ _).mpr ⟨hheader,rfl⟩
  case kept => exact ⟨hwebhooks,happlied⟩

end Lookup

/-- A refusal whose text has quotes and a line end. -/
def refusal : Http.Reply := ⟨401,none,Text.Utf8.encode "\"no\"\n",false⟩

/-- A gateway that refuses every key. -/
def refusing : Network := .up fun _ => some refusal

end Service
end Checkout
