import Checkout.Gateway.Payment
import Checkout.Proofs.Gateway.Conclusion
import Checkout.Proofs.Url.Plain

/-! What the requests about one transaction name. The id of the transaction is put into the address as
it is, so it is named by a segment of its own exactly if it is plain; then no other id is named by
the same target. -/
namespace Checkout.Gateway

open Checkout.Http (Network Request isHeaderText)
open Checkout.Json (Decoder)
open Checkout.Url (IsPlain IsSegment IsWeb decodeBytes encode inPath isDropped isEdge
  reverse_dropWhile_sublist tidy tidy_eq_self_iff)

variable {α : Type}

namespace Client

/-- The request without a body for an address that is read: it is sent if its header can be written
and the address is not too long. -/
def asking (c : Client) (e : Endpoint) (url : Url) : List Request :=
  if isHeaderText (c.authorization e.key) ∧ url.toText.utf8ByteSize ≤ Request.longestUrl then
    [⟨e.method,url,c.authorization e.key,none⟩]
  else []

lemma sent_send_eq_asking {c : Client} {e : Endpoint} {url : Url} (hweb : IsWeb url.scheme)
    (hhost : url.hasHost = true) (hurl : Url.ofText? (c.urlFor e) = some url) (net : Network)
    (d : Decoder α) : (c.send net e none d).sent = c.asking e url := by
  rw [sent_send, asking]
  split_ifs with h
  · have hrequest : c.request e none = .ok ⟨e.method,url,c.authorization e.key,none⟩ :=
      Request.build_eq_ok_iff.mpr ⟨url,hurl,hhost,h.1,hweb,h.2,rfl⟩
    rw [hrequest]
    rfl
  · cases hrequest : c.request e none with
    | error => rfl
    | ok request =>
      obtain ⟨url',hurl',-,hheader,-,hlength,-⟩ := Request.build_eq_ok_iff.mp hrequest
      cases hurl.symm.trans hurl'
      exact absurd ⟨hheader,hlength⟩ h

lemma url_of_mem_asking {c : Client} {e : Endpoint} {url : Url} {request : Request}
    (h : request ∈ c.asking e url) : request.url = url := by
  unfold asking at h
  split_ifs at h
  · rw [List.mem_singleton.mp h]
  · cases h

end Client

/-- What is asked about one transaction. -/
inductive Errand where
  | lookup
  | void
  deriving DecidableEq

namespace Errand

/-- The place of an errand. -/
def endpoint : Errand → String → Endpoint
  | .lookup => .retrieve
  | .void => .void

/-- The segments behind that of the transaction. -/
def last : Errand → List (List Char)
  | .lookup => []
  | .void => ["void".toList]

/-- What an address keeps of an id. -/
def keep : Errand → List Char → List Char
  | .lookup => tidy
  | .void => List.filter (!isDropped ·)

/-- The ids that an errand names: plain ones, which may not be the end of an address with a control
or a space at their end. -/
def Fits (e : Errand) (id : String) : Prop :=
  IsPlain id.toList ∧ (e = .lookup → ∀ c ∈ id.toList.getLast?, isEdge c = false)

/-- The requests of the operations that do an errand. -/
inductive Sends (c : Client) : Errand → String → List Request → Prop
  | retrieve (net : Network) (id : String) : Sends c .lookup id (c.retrieve net id).sent
  | capture (config : Config) (net : Network) (p : Payment) {id : String} (token : p.token = some id) :
      Sends c .lookup id ((Service.mk c config).capture net p).sent
  | voidTransaction (net : Network) (id : String) {kind : PaymentKind}
      (voidable : kind.supportsVoid = true) : Sends c .void id (c.void net id kind).sent
  | void (config : Config) (net : Network) (p : Payment) {id : String} {kind : PaymentKind}
      (known : p.kind? = some kind) (voidable : kind.supportsVoid = true)
      (token : p.token = some id) : Sends c .void id ((Service.mk c config).void net p).sent

/-- A target goes on from the path of a base address with `transactions`, one segment that is decoded
to an id, and the segments of the errand. -/
def Names (base : Url) (e : Errand) (id target : String) : Prop :=
  ∃ segment, IsSegment segment ∧ decodeBytes segment = Text.Utf8.encode id ∧
    target = String.ofList (base.pathChars ++ "transactions/".toList ++ segment ++
      e.last.flatMap ('/' :: ·))

lemma Sends.exists_sent_eq {c : Client} {e : Errand} {id : String} {sent : List Request}
    (h : Sends c e id sent) :
    ∃ net, ∃ d : Decoder Transaction, sent = (c.send net (e.endpoint id) none d).sent := by
  cases h with
  | retrieve net id => exact ⟨net,_,rfl⟩
  | capture config net p token =>
    refine ⟨net,Transaction.decoder,?_⟩
    simp [Service.capture, token, Client.retrieve, endpoint]
  | voidTransaction net id voidable =>
    refine ⟨net,voidData,?_⟩
    simp [Client.void, voidable, endpoint]
  | void config net p known voidable token =>
    refine ⟨net,voidData,?_⟩
    simp [Service.void, Service.voidFor, known, token, Client.void, voidable, endpoint]

/-- The segment in front of those of the transactions. -/
def collection : List Char := "transactions".toList

lemma isPlain_collection : IsPlain collection :=
  Url.isPlain_of_decodeBytes (by decide +kernel) (by decide +kernel) (by decide +kernel)

lemma isPlain_void : IsPlain "void".toList :=
  Url.isPlain_of_decodeBytes (by decide +kernel) (by decide +kernel) (by decide +kernel)

lemma last_spec (e : Errand) :
    ∀ name ∈ e.last, IsPlain name ∧ encode inPath name = name ∧ e.keep name = name := by
  cases e with
  | lookup => simp [last]
  | void =>
    intro name hname
    obtain rfl := List.mem_singleton.mp hname
    exact ⟨isPlain_void,by decide +kernel,by decide +kernel⟩

lemma keep_spec (e : Errand) (cs : List Char) :
    (e.keep cs).Sublist cs ∧ ∀ c ∈ e.keep cs, isDropped c = false := by
  cases e with
  | lookup =>
    exact ⟨List.filter_sublist.trans (reverse_dropWhile_sublist cs),by simp [keep, tidy]⟩
  | void => exact ⟨List.filter_sublist,by simp [keep]⟩

/-- The ids that fit are the plain ones that the address keeps. -/
lemma fits_iff (e : Errand) (id : String) :
    e.Fits id ↔ IsPlain id.toList ∧ e.keep id.toList = id.toList := by
  refine and_congr_right fun h => ?_
  cases e with
  | lookup => simp [keep, tidy_eq_self_iff h.kept]
  | void => simpa [keep] using h.kept

lemma flatMap_last_void : Errand.void.last.flatMap ('/' :: ·) = '/' :: "void".toList :=
  List.flatMap_singleton ..

lemma toList_path (e : Errand) (id : String) : (e.endpoint id).path.toList =
    collection ++ '/' :: (id.toList ++ e.last.flatMap ('/' :: ·)) := by
  have hplace : "transactions/".toList = collection ++ ['/'] := by decide +kernel
  have hvoid : "/void".toList = '/' :: "void".toList := by decide +kernel
  cases e with
  | lookup =>
    have hpath : (endpoint .lookup id).path = "transactions/" ++ id := rfl
    rw [hpath, String.toList_append, hplace, List.append_assoc, List.singleton_append]
    exact congrArg (collection ++ '/' :: ·) (List.append_nil _).symm
  | void =>
    have hpath : (endpoint .void id).path = "transactions/" ++ id ++ "/void" := rfl
    rw [hpath, String.toList_append, String.toList_append, hplace, hvoid, List.append_assoc,
      List.append_assoc, List.singleton_append, flatMap_last_void]

/-- What an address keeps of the path of an errand. -/
lemma tidy_path (e : Errand) (id : String) : tidy (e.endpoint id).path.toList =
    collection ++ '/' :: (e.keep id.toList ++ e.last.flatMap ('/' :: ·)) := by
  have hcollection : collection.filter (!isDropped ·) = collection := by decide +kernel
  have hvoid : tidy "void".toList = "void".toList := by decide +kernel
  rw [toList_path, Url.tidy_append_slash, hcollection]
  cases e with
  | lookup => simp only [last, keep, List.flatMap_nil, List.append_nil]
  | void => rw [flatMap_last_void, Url.tidy_append_slash, hvoid, keep]

/-- An errand goes to an address below the base, which names its transaction exactly for the ids that
fit. -/
theorem exists_ofText?_urlFor {c : Client} {base : Url}
    (hbase : Url.ofText? (c.baseUrl ++ "/") = some base) (hweb : IsWeb base.scheme)
    (hquery : base.query = none) (hfragment : base.fragment = none) (e : Errand) (id : String) :
    ∃ url, Url.ofText? (c.urlFor (e.endpoint id)) = some url ∧ url.scheme = base.scheme ∧
      (Names base e id url.target ↔ e.Fits id) := by
  obtain ⟨names,hnames,hpath,hbelow⟩ := Url.ofText?_below hbase hweb hquery hfragment
  have hself : encode inPath collection = collection := by decide +kernel
  have hurl : Url.ofText? (c.urlFor (e.endpoint id)) = some (base.under (names ++ [collection])
      (e.keep id.toList ++ e.last.flatMap ('/' :: ·))) := by
    have hbelow := hbelow (e.endpoint id).path.toList
    rw [String.ofList_toList, tidy_path, Url.under_append_slash isPlain_collection hself] at hbelow
    exact hbelow
  refine ⟨_,hurl,rfl,?_⟩
  have hnames' : ∀ name ∈ names ++ [collection], IsSegment name := by
    intro name hname
    rcases List.mem_append.mp hname with hname | hname
    · exact hnames name hname
    · rw [List.mem_singleton.mp hname]
      exact isPlain_collection.isSegment
  have hbytes : Text.Utf8.encode id = id.toList.flatMap Text.Utf8.charBytes := by
    rw [← Text.Utf8.encode_ofList, String.ofList_toList]
  have hplace : "transactions/".toList = collection ++ ['/'] := by decide +kernel
  have hchars : base.pathChars = names.flatMap ('/' :: ·) ++ ['/'] := by
    simp [Url.pathChars, hpath]
  have hhits : Url.Hits base (names ++ [collection]) e.last e.keep id.toList ↔ e.Fits id :=
    (Url.hits_iff hnames' e.last_spec e.keep_spec).trans (e.fits_iff id).symm
  refine Iff.trans ?_ hhits
  rw [Names, Url.Hits, hbytes, hchars, hplace]
  refine exists_congr fun segment => and_congr_right fun _ => and_congr_right fun _ => ?_
  have hlist : names.flatMap ('/' :: ·) ++ ['/'] ++ (collection ++ ['/']) ++ segment ++
      e.last.flatMap ('/' :: ·) =
      (names ++ [collection] ++ segment :: e.last).flatMap ('/' :: ·) := by
    simp only [List.flatMap_append, List.flatMap_cons, List.append_assoc, List.cons_append,
      List.nil_append]
  rw [hlist]

/-- A target names one transaction and one errand. -/
theorem Names.unique {base : Url} {e e' : Errand} {id id' target : String}
    (h : Names base e id target) (h' : Names base e' id' target) : e = e' ∧ id = id' := by
  obtain ⟨segment,hsegment,hdecode,htarget⟩ := h
  obtain ⟨segment',hsegment',hdecode',htarget'⟩ := h'
  have hlist := String.ofList_injective (htarget.symm.trans htarget')
  simp only [List.append_assoc, List.append_cancel_left_eq] at hlist
  -- The segment ends at the first slash, and what is behind it belongs to the errand.
  have hcut {segment : List Char} (hsegment : '/' ∉ segment) (e : Errand) :
      (segment ++ e.last.flatMap ('/' :: ·)).takeWhile (· != '/') = segment := by
    have hself : segment.takeWhile (· != '/') = segment := by
      refine List.takeWhile_eq_self_iff.mpr fun c hc => bne_iff_ne.mpr ?_
      rintro rfl
      exact hsegment hc
    cases e with
    | lookup => simpa [last] using hself
    | void => rw [flatMap_last_void, Text.takeWhile_append_cons rfl, hself]
  obtain rfl : segment = segment' := by
    rw [← hcut hsegment.1 e, hlist, hcut hsegment'.1 e']
  have hid : id = id' := Text.Utf8.encode_injective (hdecode.symm.trans hdecode')
  have hlast := List.append_cancel_left hlist
  refine ⟨?_,hid⟩
  cases e with
  | lookup =>
    cases e' with
    | lookup => rfl
    | void => rw [flatMap_last_void] at hlast; cases hlast
  | void =>
    cases e' with
    | lookup => rw [flatMap_last_void] at hlast; cases hlast
    | void => rfl

/-- Below a web address without query and fragment, the requests about a transaction name it exactly if
its id fits, and no target names two transactions whose ids fit. The web addresses are those whose host
has a name in ASCII or is a number; see `Url.host?`. -/
theorem names_iff_fits (c : Client) {base : Url}
    (hbase : Url.ofText? (c.baseUrl ++ "/") = some base)
    (hweb : base.scheme = "http" ∨ base.scheme = "https") (hquery : base.query = none)
    (hfragment : base.fragment = none) :
    (∀ e id, ∃ url, (Names base e id url.target ↔ e.Fits id) ∧
      ∀ sent, Sends c e id sent → sent = c.asking (e.endpoint id) url) ∧
    ∀ e id sent e' id' sent', Sends c e id sent → Sends c e' id' sent' →
      e.Fits id → e'.Fits id' → ∀ request ∈ sent, ∀ request' ∈ sent',
        request.url.target = request'.url.target → e = e' ∧ id = id' := by
  have hasked (e : Errand) (id : String) : ∃ url, (Names base e id url.target ↔ e.Fits id) ∧
      ∀ sent, Sends c e id sent → sent = c.asking (e.endpoint id) url := by
    obtain ⟨url,hurl,hscheme,hnames⟩ := exists_ofText?_urlFor hbase hweb hquery hfragment e id
    refine ⟨url,hnames,fun sent hsent => ?_⟩
    obtain ⟨net,d,rfl⟩ := hsent.exists_sent_eq
    have hweb' : IsWeb url.scheme := hscheme ▸ hweb
    exact Client.sent_send_eq_asking hweb' (Url.hasHost_of_web hweb' hurl) hurl net d
  refine ⟨hasked,?_⟩
  intro e id sent e' id' sent' hsent hsent' hfits hfits' request hrequest request' hrequest' htarget
  obtain ⟨url,hnames,hsends⟩ := hasked e id
  obtain ⟨url',hnames',hsends'⟩ := hasked e' id'
  have hurl := Client.url_of_mem_asking (hsends sent hsent ▸ hrequest)
  have hurl' := Client.url_of_mem_asking (hsends' sent' hsent' ▸ hrequest')
  rw [hurl, hurl'] at htarget
  have hnamed := hnames.mpr hfits
  rw [htarget] at hnamed
  exact hnamed.unique (hnames'.mpr hfits')

/-- A merchant whose gateway is not at the root of its host. -/
def merchant : Client := ⟨"http://gateway/v1","pub","prv"⟩

/-- The address that the merchant's requests go below. -/
def merchantBase : Url := ⟨"http",some "gateway",none,.segments ["v1".toList,[]],none,none⟩

/-- The request of the merchant for a target of one transaction. -/
def merchantAsks (segment : String) : Request :=
  ⟨.get,{ merchantBase with path := .segments ["v1".toList,collection,segment.toList] },"Bearer pub",none⟩

/-- A blank in an id is kept in the address. -/
theorem names_spacedId : Url.ofText? (merchant.baseUrl ++ "/") = some merchantBase ∧
    (merchant.retrieve .down "tx 1").sent = [merchantAsks "tx%201"] ∧
    Names merchantBase .lookup "tx 1" (merchantAsks "tx%201").url.target := by
  have hbase : Url.ofText? (merchant.baseUrl ++ "/") = some merchantBase := by decide +kernel
  have hsent : (merchant.retrieve .down "tx 1").sent = [merchantAsks "tx%201"] := by decide +kernel
  obtain ⟨url,hnames,hasked⟩ :=
    (names_iff_fits merchant hbase (.inl rfl) rfl rfl).1 .lookup "tx 1"
  have hasking := hasked _ (.retrieve .down "tx 1")
  have hplain : IsPlain "tx 1".toList :=
    Url.isPlain_of_decodeBytes (by decide +kernel) (by decide +kernel) (by decide +kernel)
  have hend : "tx 1".toList.getLast? = some '1' := by decide +kernel
  have hfits : Fits .lookup "tx 1" := by
    refine ⟨hplain,fun _ c hc => ?_⟩
    cases hend.symm.trans hc
    rfl
  rw [hsent] at hasking
  have hurl := Client.url_of_mem_asking (hasking ▸ List.mem_singleton_self _)
  refine ⟨hbase,hsent,?_⟩
  rw [hurl]
  exact hnames.mpr hfits

/-- With dots in an id the request goes to another transaction. -/
theorem not_names_dottedId : (merchant.retrieve .down "a/../b").sent = [merchantAsks "b"] ∧
    (merchant.retrieve .down "b").sent = [merchantAsks "b"] ∧
    ¬ Names merchantBase .lookup "a/../b" (merchantAsks "b").url.target := by
  refine ⟨by decide +kernel,by decide +kernel,fun h => ?_⟩
  have hb : Names merchantBase .lookup "b" (merchantAsks "b").url.target :=
    ⟨"b".toList,by simp [IsSegment],by decide +kernel,by decide +kernel⟩
  have hid := (h.unique hb).2
  revert hid
  decide

end Errand
end Checkout.Gateway
