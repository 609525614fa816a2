import Checkout.Proofs.Gateway.Base
import Checkout.Proofs.Gateway.Replies
import Checkout.Proofs.Gateway.Target
import Checkout.Proofs.Json.Rendering

/-! What turning a card into a token comes to. A card that lacks a detail is reported with all that it
lacks and is sent nowhere; any other card is sent once, its texts as they are, and the result is what
the reply makes of it. -/
namespace Checkout

open Checkout.Http (Network Request)

namespace Card

/-- The names of the details, in their order. -/
def details : List String := ["number", "cvc", "exp_month", "exp_year", "card_holder"]

/-- A detail that is empty, or has nothing but white space in it. -/
inductive Lacks (card : Card) : String → Prop
  | number (h : ∀ c ∈ card.number.toList, Text.isBlank c = true) : Lacks card "number"
  | cvc (h : ∀ c ∈ card.cvc.toList, Text.isBlank c = true) : Lacks card "cvc"
  | expMonth (h : ∀ c ∈ card.expMonth.toList, Text.isBlank c = true) : Lacks card "exp_month"
  | expYear (h : ∀ c ∈ card.expYear.toList, Text.isBlank c = true) : Lacks card "exp_year"
  | cardHolder (h : ∀ c ∈ card.cardHolder.toList, Text.isBlank c = true) : Lacks card "card_holder"

/-- The object that a card is sent as, its names in the order of an object that was parsed. -/
def conveyed (card : Card) : Json :=
  .object [("card_holder",.string card.cardHolder),("cvc",.string card.cvc),
    ("exp_month",.string card.expMonth),("exp_year",.string card.expYear),
    ("number",.string card.number)]

variable {card : Card}

lemma blankFields_sublist (card : Card) : card.blankFields.Sublist details :=
  List.filter_sublist.map Prod.fst

lemma mem_blankFields_iff {name : String} : name ∈ card.blankFields ↔ card.Lacks name := by
  have hblank : name ∈ card.blankFields ↔
      ∃ value, (name,value) ∈ card.entries ∧ ∀ c ∈ value.toList, Text.isBlank c = true := by
    simp [blankFields, Text.isBlankText]
  rw [hblank]
  constructor
  · rintro ⟨value,hmem,h⟩
    simp only [entries, List.mem_cons, Prod.mk.injEq, List.not_mem_nil, or_false] at hmem
    rcases hmem with ⟨rfl,rfl⟩ | ⟨rfl,rfl⟩ | ⟨rfl,rfl⟩ | ⟨rfl,rfl⟩ | ⟨rfl,rfl⟩
    · exact .number h
    · exact .cvc h
    · exact .expMonth h
    · exact .expYear h
    · exact .cardHolder h
  · intro h
    cases h with
    | number h | cvc h | expMonth h | expYear h | cardHolder h => exact ⟨_,by simp [entries],h⟩

/-- The body of a card is read as an object of its five texts. -/
lemma parse_render_toJson (card : Card) : Json.parse card.toJson.render = .ok card.conveyed := by
  have hperm : card.entries.Perm [("card_holder",card.cardHolder),("cvc",card.cvc),
      ("exp_month",card.expMonth),("exp_year",card.expYear),("number",card.number)] := by
    refine (List.perm_ext_iff_of_nodup (by simp [entries]) (by simp)).mpr fun entry => ?_
    simp only [entries, List.mem_cons, List.not_mem_nil, or_false]
    tauto
  refine Json.parse_render_texts_of_perm hperm ?_
  have hnames : ["card_holder","cvc","exp_month","exp_year","number"].Pairwise (· < ·) := by
    decide +kernel
  exact List.pairwise_map.mp hnames

end Card

namespace Gateway

open Checkout.Service (Call)

/-- What turning a card into a token comes to: the requests that are sent, and the result. -/
inductive Tokenizes (c : Client) (base : Url) (net : Network) (card : Card) :
    List Request → Except GatewayError CardToken → Prop
  | incomplete {fields : List String} (hne : fields ≠ []) (horder : fields.Sublist Card.details)
    (h : ∀ name, name ∈ fields ↔ card.Lacks name) :
    Tokenizes c base net card [] (.error (.missingFields "card tokenization" fields))
  | asked {url : Url} {body : String} {request : Request} {result : Except GatewayError CardToken}
    (complete : ∀ name, ¬ card.Lacks name) (below : base.GoesOn url "tokens/cards")
    (asks : request = ⟨.post,url,"Bearer " ++ c.publicKey,some body⟩)
    (conveys : Json.parse body = .ok card.conveyed)
    (unanswered : net.deliver request = none →
      result = .error (.transport (.unanswered url.toText)))
    (replied : ∀ reply, net.deliver request = some reply →
      (Call.tokenizeCard card).Settles net.encodings .tokenizeCard reply result) :
    Tokenizes c base net card [request] result

namespace Client
variable {c : Client} {base : Url}

/-- The path at which cards are turned into tokens is made of words. -/
lemma Opens.exists_request_tokenizeCard (h : c.Opens base .tokenizeCard) :
    ∃ url, base.GoesOn url "tokens/cards" ∧ ∀ body, c.request .tokenizeCard body =
      .ok ⟨.post,url,"Bearer " ++ c.publicKey,body.map Json.render⟩ :=
  h.exists_request "tokens".toList ["cards".toList] (by decide +kernel) (by decide +kernel)

/-- A card either lacks something and is reported with all that it lacks and nothing else, or is sent
once, its five texts as they are, and the token is the one in the data of a reply in the 2xx range. No
reply sends the card elsewhere, since replies do not redirect. -/
theorem tokenizes_card (h : c.Opens base .tokenizeCard) (net : Network) (card : Card) :
    Tokenizes c base net card (c.tokenizeCard net card).sent (c.tokenizeCard net card).result := by
  cases hblank : card.blankFields with
  | cons name rest =>
    have hunsent : c.tokenizeCard net card =
        .unsent (.error (.missingFields "card tokenization" card.blankFields)) [] := by
      simp only [tokenizeCard, Card.validate, hblank]
    rw [hunsent]
    exact .incomplete (by simp [hblank]) card.blankFields_sublist fun _ => Card.mem_blankFields_iff
  | nil =>
    have hsend : c.tokenizeCard net card =
        c.send net .tokenizeCard (some card.toJson) CardToken.decoder := by
      simp only [tokenizeCard, Card.validate, hblank]
    have hcomplete : ∀ name, ¬ card.Lacks name := by
      intro name hlacks
      rw [← Card.mem_blankFields_iff, hblank] at hlacks
      cases hlacks
    obtain ⟨url,hgoes,hrequest⟩ := h.exists_request_tokenizeCard
    have hsent : (c.tokenizeCard net card).sent =
        [⟨.post,url,"Bearer " ++ c.publicKey,some card.toJson.render⟩] := by
      rw [hsend, sent_send, hrequest]
      rfl
    have hconcludes := concludes_send c net .tokenizeCard (some card.toJson) CardToken.decoder
    rw [← hsend, hsent] at hconcludes
    rw [hsent]
    exact .asked hcomplete hgoes rfl card.parse_render_toJson
      (hconcludes.eq_of_silent (List.mem_singleton_self _))
      fun reply hreply => Call.settles_of_concludes hconcludes (List.mem_singleton_self _) hreply

/-- A card with texts that are escaped in JSON, and a code that only looks blank. -/
def quotedCard : Card := ⟨"4242 \"4242\"","\u200b","08","28","Ana \\ Paz\n"⟩

/-- A card without a number and with two blank details. -/
def blankCard : Card := ⟨"","\u00a0\u3000","08","28"," "⟩

/-- The envelope of a token. -/
def tokenReply : List UInt8 := Text.Utf8.encode "\x7b\"data\":\x7b\"id\":\"tok_1\"\x7d\x7d"

/-- A gateway that gives this token for every card. -/
def granting : Network := .up fun _ => some ⟨201,none,tokenReply,false⟩

theorem tokenizes_card_merchant :
    ((Errand.merchant.tokenizeCard granting blankCard).sent = [] ∧ ∃ fields,
      (Errand.merchant.tokenizeCard granting blankCard).result =
        .error (.missingFields "card tokenization" fields) ∧ "cvc" ∈ fields ∧ "exp_year" ∉ fields) ∧
    ∃ url body token, Errand.merchantBase.GoesOn url "tokens/cards" ∧
      (Errand.merchant.tokenizeCard granting quotedCard).sent =
        [⟨.post,url,"Bearer pub",some body⟩] ∧
      Json.parse body = .ok quotedCard.conveyed ∧
      (Errand.merchant.tokenizeCard granting quotedCard).result = .ok token ∧ token.id = "tok_1" := by
  have hopens : Errand.merchant.Opens Errand.merchantBase .tokenizeCard :=
    ⟨by decide +kernel,.inl rfl,rfl,rfl,by decide +kernel,by decide +kernel⟩
  constructor
  · have htokenizes := tokenizes_card hopens granting blankCard
    generalize (Errand.merchant.tokenizeCard granting blankCard).sent = sent at htokenizes ⊢
    generalize (Errand.merchant.tokenizeCard granting blankCard).result = result at htokenizes ⊢
    have hblank : "cvc" ∈ blankCard.blankFields ∧ "exp_year" ∉ blankCard.blankFields := by
      decide +kernel
    rw [Card.mem_blankFields_iff, Card.mem_blankFields_iff] at hblank
    cases htokenizes with
    | incomplete hne horder h => exact ⟨rfl,_,rfl,(h _).mpr hblank.1,mt (h _).mp hblank.2⟩
    | asked complete => exact absurd hblank.1 (complete _)
  · have htokenizes := tokenizes_card hopens granting quotedCard
    generalize (Errand.merchant.tokenizeCard granting quotedCard).sent = sent at htokenizes ⊢
    generalize (Errand.merchant.tokenizeCard granting quotedCard).result = result at htokenizes ⊢
    have hread : ((envelope (Call.tokenizeCard quotedCard).answer).fromBytes
        tokenReply).toOption.map CardToken.id = some "tok_1" := by decide +kernel
    obtain ⟨token,htoken,hid⟩ := exists_eq_ok_of_map hread
    have hencloses := (Call.tokenizeCard quotedCard).fromBytes_eq_ok_iff.mp htoken
    cases htokenizes with
    | @incomplete fields hne horder h =>
      have hfull : quotedCard.blankFields = [] := by decide +kernel
      obtain ⟨name,hname⟩ := List.exists_mem_of_ne_nil fields hne
      rw [h, ← Card.mem_blankFields_iff, hfull] at hname
      cases hname
    | asked complete below asks conveys unanswered replied =>
      have hresult := ((replied _ rfl).ok token).mpr
        ⟨by decide,by decide,tokenReply,rfl,hencloses⟩
      exact ⟨_,_,token,below,by rw [asks]; rfl,conveys,hresult,hid⟩

end Client
end Gateway
end Checkout
