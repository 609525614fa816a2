import Checkout.Proofs.Transaction.Exchanged
import Checkout.Proofs.Webhook.Signing

/-! Events that are spelled in another way. Whole numbers may be written as texts, and the time of an
event may stand with the data. Neither the checksum nor what becomes of the event depends on it; only
a time that is nested too deeply for the reader of JSON can be read in one of its places and not in
the other. -/
namespace Checkout.Webhook

open SignedValue

/-- A payload with a whole number, its amount or its time, as the text of its digits. -/
inductive Digits (p : Json) : Json → Prop
  | amount {n : WholeNumber} (fits : n.val < 9223372036854775808)
      (place : p.path? ["data", "transaction", "amount_in_cents"] = some (.whole n)) :
      Digits p (p.change (fun _ => .string (toString n.val))
        ["data", "transaction", "amount_in_cents"])
  | time {n : WholeNumber} {path : List String}
      (isTime : path = ["timestamp"] ∨ path = ["data", "timestamp"])
      (place : p.path? path = some (.whole n)) :
      Digits p (p.change (fun _ => .string (toString n.val)) path)

/-- A payload with its time moved from the top to the data, where the top is left with none or with
null. -/
inductive Moved (p : Json) : Json → Prop
  | intro {t top : Json} (time : p.get? "timestamp" = some t) (present : t ≠ .null)
      (data : ∃ members, p.get? "data" = some (.object members))
      (cleared : top = p.drop "timestamp" ∨ top = p.put "timestamp" .null) :
      Moved p (top.change (·.put "timestamp" t) ["data"])

/-- Payloads in which the reader of webhooks sees the same. -/
structure SeenAlike (p q : Json) : Prop where
  environment : q.get? "environment" = p.get? "environment"
  event : q.get? "event" = p.get? "event"
  signature : q.get? "signature" = p.get? "signature"
  text : ∀ v : SignedValue, v.text q = v.text p
  update : (q.get? "data").map updateData.value = (p.get? "data").map updateData.value

section SeenAlike
variable {p q : Json}

lemma accept_eq_of_seenAlike (h : SeenAlike p q) (orders : Orders) :
    accept orders q = accept orders p := by
  have hevent : eventName q = eventName p := by rw [eventName, eventName, h.event]
  have hupdate := h.update
  rw [accept, accept, hevent]
  cases hq : q.get? "data" with
  | none =>
    rw [hq, Option.map_none, eq_comm, Option.map_eq_none_iff] at hupdate
    rw [hupdate]
  | some data =>
    rw [hq, Option.map_some, eq_comm, Option.map_eq_some_iff] at hupdate
    obtain ⟨data',hp,hread⟩ := hupdate
    rw [hp]
    simp only [hread]

/-- What is seen alike is treated alike. -/
theorem judge_eq_of_seenAlike (h : SeenAlike p q) (keys : Environment → KeySet) (orders : Orders) :
    judge keys orders q = judge keys orders p := by
  have henvironment : environment q = environment p := by
    rw [environment, environment, h.environment]
  have hverifies (secret : String) : verifies q secret = verifies p secret := by
    rw [verifies, verifies, checksum_eq_of_text_eq h.text, claimedChecksum?, claimedChecksum?,
      Json.path?_cons, Json.path?_cons, h.signature]
  rw [judge, judge, henvironment, hverifies, accept_eq_of_seenAlike h]

lemma text_time (p : Json) : text p .time = wireText
    (((p.path? ["timestamp"]).filter (!Json.isNull ·)) <|> p.path? ["data", "timestamp"]) := by
  rw [text, of?, timestamp?, Json.path?_singleton]

/-- A member of the data that is no transaction is not seen, except for the time. -/
lemma updateData_put_timestamp {data : Json} (h : data.normal = data) (v : Json) :
    updateData.value (data.put "timestamp" v) = updateData.value data := by
  cases data with
  | object members => exact wrapped_put_of_ne (by decide) (Json.ascending_of_normal h) v
  | _ => rfl

lemma seenAlike_amount (hp : p.normal = p) {n : WholeNumber} (fits : n.val < 9223372036854775808)
    (place : p.path? ["data", "transaction", "amount_in_cents"] = some (.whole n)) :
    SeenAlike p (p.change (fun _ => .string (toString n.val))
      ["data", "transaction", "amount_in_cents"]) := by
  obtain ⟨data,hdata,hrest⟩ := Option.bind_eq_some_iff.mp place
  obtain ⟨txn,htxn,hamount⟩ := Option.bind_eq_some_iff.mp hrest
  rw [Json.path?_singleton] at hamount
  refine ⟨Json.get?_change_of_ne (by decide) _,Json.get?_change_of_ne (by decide) _,
    Json.get?_change_of_ne (by decide) _,fun v => ?_,?_⟩
  · cases v with
    | id | status =>
      exact congrArg wireText (Json.path?_change_of_apart (.later (.later (.here (by decide)))))
    | amount =>
      rw [text, text, of?, of?, Json.path?_change_self place, place]
      rfl
    | time =>
      rw [text_time, text_time, Json.path?_change_of_apart (.here (by decide)),
        Json.path?_change_of_apart (.later (.here (by decide)))]
  · obtain ⟨-,-,-,-,hdatanormal⟩ := Json.exists_ascending_of_get? hp hdata
    obtain ⟨outer,rfl,houter,htxn',htxnnormal⟩ := Json.exists_ascending_of_get? hdatanormal htxn
    obtain ⟨inner,rfl,hinner,hamount',-⟩ := Json.exists_ascending_of_get? htxnnormal hamount
    rw [Json.get?_change_self hdata, hdata, Option.map_some, Option.map_some,
      Json.change_cons htxn, Json.change_cons hamount]
    exact congrArg some (wrapped_put (Transaction.decoder_put_amount
      (Transaction.centsOfJson_digits fits) hinner hamount') houter htxn')

lemma seenAlike_time (hp : p.normal = p) {n : WholeNumber} {path : List String}
    (isTime : path = ["timestamp"] ∨ path = ["data", "timestamp"])
    (place : p.path? path = some (.whole n)) :
    SeenAlike p (p.change (fun _ => .string (toString n.val)) path) := by
  have hwire : wireText (some (.string (toString n.val))) = wireText (some (.whole n)) := rfl
  rcases isTime with rfl | rfl
  · refine ⟨Json.get?_change_of_ne (by decide) _,Json.get?_change_of_ne (by decide) _,
      Json.get?_change_of_ne (by decide) _,fun v => ?_,?_⟩
    · cases v with
      | id | status | amount =>
        exact congrArg wireText (Json.path?_change_of_apart (.here (by decide)))
      | time =>
        rw [text_time, text_time, Json.path?_change_self place, place]
        exact hwire
    · rw [Json.get?_change_of_ne (by decide)]
  · obtain ⟨data,hdata,htime⟩ := Option.bind_eq_some_iff.mp place
    rw [Json.path?_singleton] at htime
    obtain ⟨-,-,-,-,hdatanormal⟩ := Json.exists_ascending_of_get? hp hdata
    refine ⟨Json.get?_change_of_ne (by decide) _,Json.get?_change_of_ne (by decide) _,
      Json.get?_change_of_ne (by decide) _,fun v => ?_,?_⟩
    · cases v with
      | id | status | amount =>
        exact congrArg wireText (Json.path?_change_of_apart (.later (.here (by decide))))
      | time =>
        rw [text_time, text_time, Json.path?_change_of_apart (.here (by decide)),
          Json.path?_change_self place, place]
        cases (p.path? ["timestamp"]).filter (!Json.isNull ·) with
        | none => exact hwire
        | some t => rfl
    · rw [Json.get?_change_self hdata, hdata, Option.map_some, Option.map_some,
        Json.change_cons htime]
      exact congrArg some (updateData_put_timestamp hdatanormal _)

/-- Nothing but the time at the top differs when that is cleared. -/
lemma get?_of_cleared {top : Json} {name : String}
    (cleared : top = p.drop "timestamp" ∨ top = p.put "timestamp" .null) (h : name ≠ "timestamp") :
    top.get? name = p.get? name := by
  rcases cleared with rfl | rfl
  · exact Json.get?_drop_of_ne h
  · exact Json.get?_put_of_ne h

lemma timestamp_of_cleared {top t : Json} (time : p.get? "timestamp" = some t)
    (cleared : top = p.drop "timestamp" ∨ top = p.put "timestamp" .null) :
    (top.get? "timestamp").filter (!Json.isNull ·) = none := by
  rcases cleared with rfl | rfl
  · rw [Json.get?_drop_self]
    rfl
  · obtain ⟨members,rfl,-⟩ := Json.exists_object_of_get? time
    rw [Json.get?_put_self]
    rfl

lemma seenAlike_moved (hp : p.normal = p) {t top : Json} (time : p.get? "timestamp" = some t)
    (present : t ≠ .null) (data : ∃ members, p.get? "data" = some (.object members))
    (cleared : top = p.drop "timestamp" ∨ top = p.put "timestamp" .null) :
    SeenAlike p (top.change (·.put "timestamp" t) ["data"]) := by
  obtain ⟨members,hdata⟩ := data
  have htop : top.get? "data" = some (.object members) :=
    (get?_of_cleared cleared (by decide)).trans hdata
  have hother {name : String} (hne : name ≠ "data") (hne' : name ≠ "timestamp") :
      (top.change (·.put "timestamp" t) ["data"]).get? name = p.get? name :=
    (Json.get?_change_of_ne hne _).trans (get?_of_cleared cleared hne')
  have hmoved : (top.change (·.put "timestamp" t) ["data"]).get? "data" =
      some ((Json.object members).put "timestamp" t) := Json.get?_change_self htop []
  have htransaction (rest : List String) :
      (top.change (·.put "timestamp" t) ["data"]).path? ("data" :: "transaction" :: rest) =
        p.path? ("data" :: "transaction" :: rest) := by
    rw [Json.path?_cons, Json.path?_cons, hmoved, hdata, Option.bind_some, Option.bind_some,
      Json.path?_cons, Json.path?_cons, Json.get?_put_of_ne (by decide)]
  refine ⟨hother (by decide) (by decide),hother (by decide) (by decide),
    hother (by decide) (by decide),fun v => ?_,?_⟩
  · cases v with
    | id | status | amount => exact congrArg wireText (htransaction _)
    | time =>
      have hfilter : ((some t).filter (!Json.isNull ·)) = some t := by
        cases t with
        | null => exact absurd rfl present
        | _ => rfl
      rw [text_time, text_time, Json.path?_singleton, Json.path?_singleton,
        Json.get?_change_of_ne (by decide), timestamp_of_cleared time cleared, time, hfilter,
        Json.path?_cons, hmoved, Option.bind_some, Json.path?_singleton, Json.get?_put_self]
      rfl
  · obtain ⟨-,-,-,-,hnormal⟩ := Json.exists_ascending_of_get? hp hdata
    rw [hmoved, hdata, Option.map_some, Option.map_some]
    exact congrArg some (updateData_put_timestamp hnormal t)

theorem Digits.seenAlike (h : Digits p q) (hp : p.normal = p) : SeenAlike p q := by
  cases h with
  | amount fits place => exact seenAlike_amount hp fits place
  | time isTime place => exact seenAlike_time hp isTime place

theorem Moved.seenAlike (h : Moved p q) (hp : p.normal = p) : SeenAlike p q := by
  cases h with
  | intro time present data cleared => exact seenAlike_moved hp time present data cleared

end SeenAlike

section Stored
variable {p q : Json} {k : ℕ}

/-- Digits in the place of a number are nested no deeper. -/
lemma Digits.stored (h : Digits p q) (hp : p.Stored p.nesting) : q.Stored p.nesting := by
  have hchange {path : List String} {v : Json} (s : String) (place : p.path? path = some v) :
      (p.change (fun _ => .string s) path).Stored p.nesting := by
    obtain ⟨i,hi⟩ := Nat.exists_eq_add_of_le
      ((Nat.le_add_right _ _).trans (Json.length_le_nesting place))
    rw [hi, Nat.add_comm] at hp ⊢
    exact hp.change fun _ _ => ⟨Json.writable_string i s,rfl⟩
  cases h with
  | amount fits place => exact hchange _ place
  | time isTime place => exact hchange _ place

/-- A time that is moved is nested one level deeper. -/
lemma Moved.stored (h : Moved p q) (hp : p.Stored (k + 1)) : q.Stored (k + 2) := by
  cases h with
  | @intro t top time present data cleared =>
    have htop : top.Stored (k + 1 + ["data"].length) := by
      have hp' := hp.mono (Nat.le_succ (k + 1))
      rcases cleared with rfl | rfl
      · exact hp'.drop
      · exact hp'.put ⟨⟨(Json.faithful_null 0).exact,Nat.zero_le _⟩,rfl⟩
    exact htop.change fun data hdata => (htop.path? hdata).put (hp.get? time)

/-- A payload that is spelled in another way is read back from its own text, unless its time was
moved too deep. -/
lemma parse_render_of_spelled {symbols : List Json.Symbol}
    (hparse : Json.parseSymbols symbols = .ok p) (hp : p.normal = p) (hexact : p.IsExact)
    (h : Digits p q ∨ Moved p q) (hdeep : Moved p q → q.nesting < Json.levels) :
    Json.parse q.render = .ok q := by
  have hstored : p.Stored p.nesting := ⟨⟨hexact,le_rfl⟩,hp⟩
  rcases h with h | h
  · exact (h.stored hstored).parse_render (Json.nesting_lt_of_parseSymbols hparse)
  · have hq := h.stored (hstored.mono (Nat.le_succ p.nesting))
    exact Json.Stored.parse_render ⟨⟨hq.exact,le_rfl⟩,hq.normal⟩ (hdeep h)

end Stored

/-- An update of `t1` with some time. If the time is signed as nothing, `t1-APPROVED-100k` is signed.
-/
def updateAt (time : Json) : Json :=
  .object [("data",.object [("transaction",.object [
      ("amount_in_cents",.whole ⟨100,by decide⟩),("id",.string "t1"),
      ("status",.string "APPROVED")])]),
    ("event",.string transactionUpdated),
    ("signature",.object [("checksum",
      .string "c5f267c13c89618a97e46fec7828c3b497e3ade6d265001b623c9f28dc21bab8")]),
    ("timestamp",time)]

/-- Empty arrays inside each other. -/
def nestedArrays : ℕ → Json
  | 0 => .array []
  | k + 1 => .array [nestedArrays k]

section UpdateAt
variable {k : ℕ}

lemma normal_nestedArrays (k : ℕ) : (nestedArrays k).normal = nestedArrays k := by
  induction k with
  | zero => rfl
  | succ k ih => rw [nestedArrays, Json.normal_array, List.map_singleton, ih]

lemma isExact_nestedArrays (k : ℕ) : (nestedArrays k).IsExact := by
  induction k with
  | zero => exact Json.isExact_array.mpr (by simp)
  | succ k ih => exact Json.isExact_array.mpr (by simpa using ih)

lemma normal_updateAt (k : ℕ) : (updateAt (nestedArrays k)).normal = updateAt (nestedArrays k) := by
  have hnames : ["data", "event", "signature", "timestamp"].Pairwise (· < ·) := by decide
  refine Json.normal_object_eq_self_iff.mpr ⟨List.pairwise_map.mp hnames,?_⟩
  simp only [List.forall_mem_cons]
  exact ⟨rfl,rfl,rfl,normal_nestedArrays k,by nofun⟩

lemma isExact_updateAt (k : ℕ) : (updateAt (nestedArrays k)).IsExact := by
  have hstring (s : String) : (Json.string s).IsExact := (Json.writable_string 0 s).exact
  have hwhole (n : WholeNumber) : (Json.whole n).IsExact := (Json.writable_whole 0 n).exact
  simp [updateAt, Json.isExact_object, hstring, hwhole, isExact_nestedArrays k]

lemma parseBytes_updateAt (hk : (updateAt (nestedArrays k)).nesting < Json.levels) :
    Json.parseBytes (Text.Utf8.encode (updateAt (nestedArrays k)).render) =
      .ok (updateAt (nestedArrays k)) := by
  rw [Json.parseBytes_encode]
  exact Json.Stored.parse_render ⟨⟨isExact_updateAt k,le_rfl⟩,normal_updateAt k⟩ hk

/-- How deep the arrays are is not seen. -/
lemma outcome_updateAt (hk : (updateAt (nestedArrays k)).nesting < Json.levels) :
    (process sandboxed .logging (Text.Utf8.encode (updateAt (nestedArrays k)).render)).outcome =
      .dispatched .captureAndAdvance := by
  have hseen : SeenAlike (updateAt (nestedArrays 0)) (updateAt (nestedArrays k)) := by
    refine ⟨rfl,rfl,rfl,fun v => ?_,rfl⟩
    cases v with
    | time => cases k <;> rfl
    | id | status | amount => rfl
  have hfirst : (judge sandboxed.keys .logging (updateAt (nestedArrays 0))).outcome =
      .dispatched .captureAndAdvance := by decide +kernel
  rw [process, parseBytes_updateAt hk]
  simp only [judge_eq_of_seenAlike hseen, hfirst]

end UpdateAt

/-- Payloads that differ in the spelling of a number or in the place of the time have the same
checksum under every secret, and the same becomes of every body that is read as one of them. The text
of the other spelling is such a body, unless a moved time brings it to the limit of the reader. -/
theorem spellings_alike {p q : Json} (hp : p.normal = p) (h : Digits p q ∨ Moved p q) :
    (∀ secret, checksum q secret = checksum p secret) ∧
    (∀ keys orders, judge keys orders q = judge keys orders p) ∧
    (∀ config orders body body', Json.parseBytes body = .ok p → Json.parseBytes body' = .ok q →
      process config orders body' = process config orders body) ∧
    ∀ config orders body, Json.parseBytes body = .ok p → p.IsExact →
      (Moved p q → q.nesting < Json.levels) →
      process config orders (Text.Utf8.encode q.render) = process config orders body := by
  have hseen : SeenAlike p q := by
    rcases h with h | h
    · exact h.seenAlike hp
    · exact h.seenAlike hp
  have hprocess (config : Config) (orders : Orders) (body body' : List UInt8)
      (hbody : Json.parseBytes body = .ok p) (hbody' : Json.parseBytes body' = .ok q) :
      process config orders body' = process config orders body := by
    rw [process, process, hbody, hbody']
    exact judge_eq_of_seenAlike hseen config.keys orders
  refine ⟨checksum_eq_of_text_eq hseen.text,judge_eq_of_seenAlike hseen,hprocess,?_⟩
  intro config orders body hbody hexact hdeep
  refine hprocess config orders body _ hbody ?_
  rw [Json.parseBytes_encode]
  exact parse_render_of_spelled hbody hp hexact h hdeep

/-- An update whose time is an empty array, moved to the data. -/
theorem spellings_alike_updateAt :
    let p := updateAt (nestedArrays 0)
    let q := (p.drop "timestamp").change (·.put "timestamp" (nestedArrays 0)) ["data"]
    p.normal = p ∧ Moved p q ∧ Json.parseBytes (Text.Utf8.encode p.render) = .ok p ∧
    p.IsExact ∧ q.nesting < Json.levels ∧ (∀ secret, checksum q secret = checksum p secret) ∧
    process sandboxed .logging (Text.Utf8.encode q.render) =
      process sandboxed .logging (Text.Utf8.encode p.render) ∧
    (process sandboxed .logging (Text.Utf8.encode p.render)).outcome =
      .dispatched .captureAndAdvance := by
  have hmoved : Moved (updateAt (nestedArrays 0)) _ := .intro rfl (by nofun) ⟨_,rfl⟩ (.inl rfl)
  have hparse := parseBytes_updateAt (k := 0) (by decide)
  have hexact := isExact_updateAt 0
  obtain ⟨hchecksum,-,-,hprocess⟩ := spellings_alike (normal_updateAt 0) (.inr hmoved)
  exact ⟨normal_updateAt 0,hmoved,hparse,hexact,by decide +kernel,hchecksum,
    hprocess sandboxed .logging _ hparse hexact fun _ => by decide +kernel,
    outcome_updateAt (by decide)⟩

/-- A time that fills the levels of the reader at the top cannot be read with the data. -/
theorem not_spelled_alike_beyond_levels : ¬ ∀ (config : Config) (orders : Orders) (p q : Json),
    p.normal = p → (∃ members, p.get? "data" = some (.object members)) →
    (∃ members, transaction? p = some (.object members)) → Digits p q ∨ Moved p q →
    (∀ secret, checksum q secret = checksum p secret) ∧
    (process config orders (Text.Utf8.encode q.render)).outcome =
      (process config orders (Text.Utf8.encode p.render)).outcome ∧
    (process config orders (Text.Utf8.encode q.render)).applied =
      (process config orders (Text.Utf8.encode p.render)).applied := by
  intro h
  have hread := outcome_updateAt (k := 125) (by decide +kernel)
  have hunread : (process sandboxed .logging (Text.Utf8.encode (((updateAt (nestedArrays 125)).drop
      "timestamp").change (·.put "timestamp" (nestedArrays 125)) ["data"]).render)).outcome =
        .malformed := by
    decide +kernel
  have hmoved : Moved (updateAt (nestedArrays 125)) _ :=
    .intro rfl (by nofun) ⟨_,rfl⟩ (.inl rfl)
  obtain ⟨-,halike,-⟩ :=
    h sandboxed .logging _ _ (normal_updateAt 125) ⟨_,rfl⟩ ⟨_,rfl⟩ (.inr hmoved)
  rw [hread, hunread] at halike
  cases halike

end Checkout.Webhook
