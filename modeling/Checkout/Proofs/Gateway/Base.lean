import Checkout.Proofs.Gateway.Conclusion
import Checkout.Proofs.Url.Word

/-! Requests to places below a base address. Where the path of a place is made of words, nothing in it is
encoded or resolved, so the request to the place is there whatever its body is, and its address goes on
from the base with the path. -/
namespace Checkout.Gateway.Client

open Checkout.Http (Request isHeaderText)

/-- A base address below which a place can be asked: one of the web, with neither a query nor a fragment,
and room for the path. The key may stand in a header. As everywhere, a host outside ASCII is not read,
and a user in front of the host is passed over. -/
structure Opens (c : Client) (base : Url) (e : Endpoint) : Prop where
  read : Url.ofText? (c.baseUrl ++ "/") = some base
  web : base.scheme = "http" ∨ base.scheme = "https"
  query : base.query = none
  fragment : base.fragment = none
  header : isHeaderText (c.authorization e.key) = true
  room : (base.toText ++ e.path).utf8ByteSize ≤ Request.longestUrl

/-- A place whose path is made of words has a request for every body. -/
theorem Opens.exists_request {c : Client} {base : Url} {e : Endpoint} (h : c.Opens base e)
    (first : List Char) (rest : List (List Char)) (hwords : ∀ name ∈ first :: rest, Url.IsWord name)
    (hpath : e.path = String.ofList (first ++ rest.flatMap ('/' :: ·))) :
    ∃ url, base.GoesOn url e.path ∧ ∀ body, c.request e body =
      .ok ⟨e.method,url,c.authorization e.key,body.map Json.render⟩ := by
  obtain ⟨url,hurl,hscheme,hgoes⟩ :=
    Url.exists_goesOn_of_words h.read h.web h.query h.fragment hwords
  rw [← hpath] at hurl hgoes
  have hweb : url.scheme = "http" ∨ url.scheme = "https" := hscheme ▸ h.web
  have hroom : url.toText.utf8ByteSize ≤ Request.longestUrl := hgoes.text ▸ h.room
  refine ⟨url,hgoes,fun body => ?_⟩
  exact Request.build_eq_ok_iff.mpr ⟨url,hurl,Url.hasHost_of_web hweb hurl,h.header,hweb,hroom,rfl⟩

end Checkout.Gateway.Client
