import Checkout.Webhook.Delivery
import Mathlib.Tactic

/-! The course that a webhook takes. Five conditions on an event are tried in order; they exclude
each other and leave nothing out, and the host's orders are called under exactly one of them. -/
namespace Checkout.Webhook

/-- The secret of an event: that of production if the event names it, else that of the sandbox. -/
def secretFor (config : Config) (payload : Json) : String :=
  match payload.get? "environment" with
  | some (.string name) =>
    if name = "prod" then config.production.eventKey else config.sandbox.eventKey
  | _ => config.sandbox.eventKey

/-- An event that carries its checksum under a secret. -/
def SignedUnder (payload : Json) (secret : String) : Prop :=
  payload.path? ["signature", "checksum"] = some (.string (checksum payload secret))

/-- An event about a transaction. -/
def IsUpdate (payload : Json) : Prop := payload.get? "event" = some (.string transactionUpdated)

/-- An event with data from which a transaction is read. -/
def Carries (payload : Json) (t : Transaction) : Prop :=
  ∃ data, payload.get? "data" = some data ∧ updateData.value data = .ok t

/-- An event without data, or with data from which no transaction is read. -/
def Undecodable (payload : Json) : Prop :=
  payload.get? "data" = none ∨
    ∃ data problem, payload.get? "data" = some data ∧ updateData.value data = .error problem

/-- What becomes of an event under a secret: the outcome and the call on the orders. -/
inductive Course (orders : Orders) (payload : Json) (secret : String) :
    Outcome → Option (Transaction × OrderAction) → Prop
  | forged (unsigned : ¬ SignedUnder payload secret) :
      Course orders payload secret .invalidChecksum none
  | ignored (signed : SignedUnder payload secret) (other : ¬ IsUpdate payload) :
      Course orders payload secret .ignored none
  | undecodable (signed : SignedUnder payload secret) (update : IsUpdate payload)
      (unreadable : Undecodable payload) : Course orders payload secret .degraded none
  | dispatched {t events} (signed : SignedUnder payload secret) (update : IsUpdate payload)
      (carried : Carries payload t) (taken : orders t (.ofStatus t.status) = .ok events) :
      Course orders payload secret (.dispatched (.ofStatus t.status)) (some (t,.ofStatus t.status))
  | refused {t reason} (signed : SignedUnder payload secret) (update : IsUpdate payload)
      (carried : Carries payload t) (failed : orders t (.ofStatus t.status) = .error reason) :
      Course orders payload secret .degraded (some (t,.ofStatus t.status))

lemma eventKey_environment (config : Config) (payload : Json) :
    (config.keys (environment payload)).eventKey = secretFor config payload := by
  unfold environment secretFor Environment.ofWebhook
  cases payload.get? "environment" with
  | none => rfl
  | some j =>
    cases j with
    | string name =>
      by_cases h : name = "prod" <;> simp [Json.string?, Config.keys, h]
    | _ => rfl

lemma verifies_iff_signedUnder (payload : Json) (secret : String) :
    verifies payload secret = true ↔ SignedUnder payload secret := by
  rw [verifies_iff, claimedChecksum?, SignedUnder, Option.bind_eq_some_iff]
  simp only [Json.string?_eq_some_iff, exists_eq_right]

lemma eventName_eq_iff_isUpdate (payload : Json) :
    eventName payload = transactionUpdated ↔ IsUpdate payload := by
  rw [eventName, IsUpdate]
  cases payload.get? "event" with
  | none => simp [transactionUpdated]
  | some j => cases j <;> simp [Json.string?, transactionUpdated]

lemma not_carries_of_undecodable {payload : Json} (h : Undecodable payload) (t : Transaction) :
    ¬ Carries payload t := by
  rintro ⟨data,hdata,ht⟩
  rcases h with h | ⟨data',problem,hdata',hproblem⟩
  · simp [hdata] at h
  · rw [hdata] at hdata'
    cases hdata'
    simp [ht] at hproblem

lemma Carries.unique {payload : Json} {t t' : Transaction} (h : Carries payload t)
    (h' : Carries payload t') : t = t' := by
  obtain ⟨data,hdata,ht⟩ := h
  obtain ⟨data',hdata',ht'⟩ := h'
  rw [hdata] at hdata'
  cases hdata'
  exact Except.ok.inj (ht.symm.trans ht')

lemma dispatch_of_ok {orders : Orders} {t : Transaction} {events : List Log.Event}
    (h : orders t (.ofStatus t.status) = .ok events) :
    dispatch orders t = ⟨.dispatched (.ofStatus t.status),some (t,.ofStatus t.status),events⟩ := by
  simp [dispatch, h]

lemma dispatch_of_error {orders : Orders} {t : Transaction} {reason : String}
    (h : orders t (.ofStatus t.status) = .error reason) :
    dispatch orders t = ⟨.degraded,some (t,.ofStatus t.status),
      [⟨.warn,.webhook,"Failed to apply Wompi transaction update",
        [("error",reason),("transaction_id",t.id)]⟩]⟩ := by
  simp [dispatch, h]

/-- Every event takes a course. -/
theorem course_judge (config : Config) (orders : Orders) (payload : Json) :
    Course orders payload (secretFor config payload) (judge config.keys orders payload).outcome
      (judge config.keys orders payload).call := by
  unfold judge
  rw [eventKey_environment]
  split
  · next hv =>
    have signed := (verifies_iff_signedUnder payload _).mp hv
    unfold accept
    split
    · next hname =>
      exact .ignored signed (fun update => hname ((eventName_eq_iff_isUpdate payload).mpr update))
    · next hname =>
      have update := (eventName_eq_iff_isUpdate payload).mp (not_not.mp hname)
      split
      · next hdata => exact .undecodable signed update (.inl hdata)
      · next data hdata =>
        split
        · next t ht =>
          have carried : Carries payload t := ⟨data,hdata,ht⟩
          cases result : orders t (.ofStatus t.status) with
          | ok events =>
            rw [dispatch_of_ok result]
            exact .dispatched signed update carried result
          | error reason =>
            rw [dispatch_of_error result]
            exact .refused signed update carried result
        · next problem hproblem =>
          exact .undecodable signed update (.inr ⟨data,problem,hdata,hproblem⟩)
  · next hv =>
    exact .forged (fun signed => hv ((verifies_iff_signedUnder payload _).mpr signed))

lemma process_of_parse {config : Config} {orders : Orders} {body : List UInt8} {payload : Json}
    (h : Json.parseBytes body = .ok payload) :
    process config orders body = judge config.keys orders payload := by
  simp only [process, h]

lemma process_of_fault {config : Config} {orders : Orders} {body : List UInt8} {e : Json.Error}
    (h : Json.parseBytes body = .error e) :
    (process config orders body).outcome = .malformed ∧ (process config orders body).call = none := by
  simp only [process, h]
  exact ⟨rfl,rfl⟩

/-- The course of the event in a body. -/
theorem course_process {body : List UInt8} {payload : Json} (config : Config) (orders : Orders)
    (h : Json.parseBytes body = .ok payload) :
    Course orders payload (secretFor config payload) (process config orders body).outcome
      (process config orders body).call := by
  rw [process_of_parse h]
  exact course_judge config orders payload

section Course
variable {orders : Orders} {payload : Json} {secret : String} {o : Outcome}
  {call : Option (Transaction × OrderAction)}

lemma Course.ne_malformed (h : Course orders payload secret o call) : o ≠ .malformed := by
  cases h <;> simp

lemma Course.invalidChecksum_iff (h : Course orders payload secret o call) :
    o = .invalidChecksum ↔ ¬ SignedUnder payload secret := by
  cases h with
  | forged unsigned => simpa using unsigned
  | ignored signed => simpa using signed
  | undecodable signed => simpa using signed
  | dispatched signed => simpa using signed
  | refused signed => simpa using signed

lemma Course.ignored_iff (h : Course orders payload secret o call) :
    o = .ignored ↔ SignedUnder payload secret ∧ ¬ IsUpdate payload := by
  cases h with
  | forged unsigned => simp [unsigned]
  | ignored signed other => simp [signed, other]
  | undecodable signed update => simp [update]
  | dispatched signed update => simp [update]
  | refused signed update => simp [update]

lemma Course.degraded_and_none_iff (h : Course orders payload secret o call) :
    o = .degraded ∧ call = none ↔
      SignedUnder payload secret ∧ IsUpdate payload ∧ Undecodable payload := by
  cases h with
  | forged unsigned => simp [unsigned]
  | ignored signed other => simp [other]
  | undecodable signed update unreadable => simp [signed, update, unreadable]
  | @dispatched t _ signed update carried =>
    simpa using fun _ _ h => not_carries_of_undecodable h t carried
  | @refused t _ signed update carried =>
    simpa using fun _ _ h => not_carries_of_undecodable h t carried

lemma Course.call_iff (h : Course orders payload secret o call) (t : Transaction)
    (action : OrderAction) :
    call = some (t,action) ↔ SignedUnder payload secret ∧ IsUpdate payload ∧ Carries payload t ∧
      action = .ofStatus t.status := by
  have hcarried : ∀ {t' : Transaction}, SignedUnder payload secret → IsUpdate payload →
      Carries payload t' → (some (t',OrderAction.ofStatus t'.status) = some (t,action) ↔
        SignedUnder payload secret ∧ IsUpdate payload ∧ Carries payload t ∧
          action = .ofStatus t.status) := by
    intro t' signed update carried
    constructor
    · intro he
      cases he
      exact ⟨signed,update,carried,rfl⟩
    · rintro ⟨-,-,hc,rfl⟩
      rw [carried.unique hc]
  cases h with
  | forged unsigned => simp [unsigned]
  | ignored signed other => simp [other]
  | undecodable signed update unreadable => simp [not_carries_of_undecodable unreadable t]
  | dispatched signed update carried => exact hcarried signed update carried
  | refused signed update carried => exact hcarried signed update carried

lemma Course.dispatched_iff (h : Course orders payload secret o call) (action : OrderAction) :
    o = .dispatched action ↔ ∃ t events, call = some (t,action) ∧ orders t action = .ok events := by
  cases h with
  | forged => simp
  | ignored => simp
  | undecodable => simp
  | @dispatched t events signed update carried taken =>
    constructor
    · intro he
      cases he
      exact ⟨t,events,rfl,taken⟩
    · rintro ⟨t',events',he,-⟩
      cases he
      rfl
  | @refused t reason signed update carried failed =>
    constructor
    · intro he
      cases he
    · rintro ⟨t',events,he,htaken⟩
      cases he
      rw [failed] at htaken
      cases htaken

lemma Course.refused_iff (h : Course orders payload secret o call) :
    o = .degraded ∧ call ≠ none ↔
      ∃ t action reason, call = some (t,action) ∧ orders t action = .error reason := by
  cases h with
  | forged => simp
  | ignored => simp
  | undecodable => simp
  | @dispatched t events signed update carried taken =>
    constructor
    · rintro ⟨he,-⟩
      cases he
    · rintro ⟨t',action,reason,he,hfailed⟩
      cases he
      rw [taken] at hfailed
      cases hfailed
  | @refused t reason signed update carried failed =>
    exact ⟨fun _ => ⟨t,_,reason,rfl,failed⟩,fun _ => ⟨rfl,by simp⟩⟩

end Course

lemma call_dispatch (orders : Orders) (t : Transaction) :
    (dispatch orders t).call = some (t,.ofStatus t.status) := by
  cases result : orders t (.ofStatus t.status) with
  | ok events => rw [dispatch_of_ok result]
  | error reason => rw [dispatch_of_error result]

lemma dispatch_congr {orders orders' : Orders} {t : Transaction}
    (h : orders' t (.ofStatus t.status) = orders t (.ofStatus t.status)) :
    dispatch orders' t = dispatch orders t := by
  simp only [dispatch, h]

lemma accept_congr {orders orders' : Orders} {payload : Json}
    (h : ∀ t action, (accept orders payload).call = some (t,action) →
      orders' t action = orders t action) : accept orders' payload = accept orders payload := by
  by_cases hname : eventName payload ≠ transactionUpdated
  · rw [accept, accept, if_pos hname, if_pos hname]
  · cases hdata : payload.get? "data" with
    | none => simp only [accept, hdata]
    | some data =>
      cases hvalue : updateData.value data with
      | error problem => simp only [accept, hdata, hvalue]
      | ok t =>
        have haccept : ∀ o : Orders, accept o payload = dispatch o t := by
          intro o
          simp only [accept, if_neg hname, hdata, hvalue]
        rw [haccept] at h
        rw [haccept, haccept]
        exact dispatch_congr (h t _ (call_dispatch orders t))

/-- The host's orders bear on a delivery only through the answer to the call that it records. -/
theorem process_orders_congr {config : Config} {orders orders' : Orders} {body : List UInt8}
    (h : ∀ t action, (process config orders body).call = some (t,action) →
      orders' t action = orders t action) :
    process config orders' body = process config orders body := by
  cases hparse : Json.parseBytes body with
  | error e => simp only [process, hparse]
  | ok payload =>
    simp only [process, hparse, judge] at h ⊢
    split at h
    · next hv =>
      rw [if_pos hv, if_pos hv]
      exact accept_congr h
    · next hv => rw [if_neg hv, if_neg hv]

/-- The configuration bears on a delivery only through the secret of the event. -/
theorem process_config_congr {config config' : Config} {orders : Orders} {body : List UInt8}
    (h : ∀ payload, Json.parseBytes body = .ok payload →
      secretFor config' payload = secretFor config payload) :
    process config' orders body = process config orders body := by
  unfold process
  split
  · next payload hpayload =>
    rw [judge, judge, eventKey_environment, eventKey_environment, h payload hpayload]
  · rfl

end Checkout.Webhook
