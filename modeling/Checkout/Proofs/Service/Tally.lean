import Checkout.Proofs.Service.Counters
import Checkout.Proofs.Service.History

/-! What the counters of a service hold. Webhooks and lookups that reach their handlers are counted,
and so is what the host records itself; no other step counts anything. So the counters, and the text
that shows them, tell what happened and not in which order. -/
namespace Checkout.Service

open Checkout.Http (Network)
open Checkout.Service.Counter (Writable linesOf sampleLine)

/-- The name under which the result of a lookup is counted. -/
def resultLabel (ok : Bool) : String := if ok then "ok" else "error"

namespace Step

/-- Whether a step is a webhook that reaches its handler and has an outcome of a label. -/
def delivers (app : App) (label : String) : Step → Bool
  | .http r => r.reached? = some .webhooks ∧
      (Webhook.process app.config app.orders r.body).outcome.label = label
  | _ => false

/-- Whether a step records a webhook of a label. -/
def records (label : String) : Step → Bool
  | .recordWebhook l => l = label
  | _ => false

/-- Whether a step asks for the count of a label. -/
def asks (label : String) : Step → Bool
  | .webhookCount l => l = label
  | _ => false

/-- Whether a step is a request for the token of acceptance that is handled, with a result. -/
def looksUp (app : App) (net : Network) (ok : Bool) : Step → Bool
  | .http r => r.reached? = some .acceptanceToken ∧
      (app.gateway.client.acceptanceToken net).result.isOk = ok
  | _ => false

/-- Whether a step records a lookup with a result. -/
def recordsLookup (ok : Bool) : Step → Bool
  | .recordAcceptance b => b = ok
  | _ => false

/-- Whether a step is of a kind that is counted. -/
def isCounted : Step → Bool
  | .http r => r.reached? = some .webhooks ∨ r.reached? = some .acceptanceToken
  | .recordWebhook _ | .recordAcceptance _ => true
  | _ => false

/-- The label of a webhook that a step counts. -/
def counted? (app : App) : Step → Option String
  | .http r =>
    if r.reached? = some .webhooks then
      some (Webhook.process app.config app.orders r.body).outcome.label
    else none
  | .recordWebhook label => some label
  | _ => none

/-- The label that a step asks for. -/
def asked? : Step → Option String
  | .webhookCount label => some label
  | _ => none

/-- The result of the lookup that a step counts. -/
def lookup? (app : App) (net : Network) : Step → Option Bool
  | .http r =>
    if r.reached? = some .acceptanceToken then
      some (app.gateway.client.acceptanceToken net).result.isOk
    else none
  | .recordAcceptance ok => some ok
  | _ => none

end Step

section Lists
variable (app : App) (steps : List (Network × Step))

/-- The labels of the webhooks that some steps count. -/
def counted : List String := steps.filterMap fun p => p.2.counted? app

/-- The labels that some steps ask for. -/
def asked : List String := steps.filterMap fun p => p.2.asked?

/-- The names of the results of the lookups that some steps count. -/
def lookedUp : List String := steps.filterMap fun p => (p.2.lookup? app p.1).map resultLabel

lemma filterMap_concat {α β : Type*} (f : α → Option β) (l : List α) (a : α) :
    (l ++ [a]).filterMap f = l.filterMap f ++ (f a).toList := by
  rw [List.filterMap_append, List.filterMap_cons]
  cases f a <;> rfl

lemma countP_eq_add {α : Type*} {p q r : α → Bool}
    (h : ∀ a, (if r a then 1 else 0) = (if p a then 1 else 0) + if q a then 1 else 0) (l : List α) :
    l.countP r = l.countP p + l.countP q := by
  induction l with
  | nil => rfl
  | cons a l ih =>
    rw [List.countP_cons, List.countP_cons, List.countP_cons, ih, h a]
    omega

lemma count_counted (label : String) : (counted app steps).count label =
    steps.countP (fun p => p.2.delivers app label) + steps.countP fun p => p.2.records label := by
  rw [counted, List.count_filterMap]
  refine countP_eq_add (fun p => ?_) steps
  cases p.2 with
  | http r =>
    by_cases h : r.reached? = some .webhooks <;>
      simp [Step.counted?, Step.delivers, Step.records, h]
  | recordWebhook l => simp [Step.counted?, Step.delivers, Step.records]
  | _ => rfl

lemma resultLabel_inj {ok ok' : Bool} : resultLabel ok = resultLabel ok' ↔ ok = ok' := by
  cases ok <;> cases ok' <;> decide

lemma count_lookedUp (ok : Bool) : (lookedUp app steps).count (resultLabel ok) =
    steps.countP (fun p => p.2.looksUp app p.1 ok) + steps.countP fun p => p.2.recordsLookup ok := by
  rw [lookedUp, List.count_filterMap]
  refine countP_eq_add (fun p => ?_) steps
  cases p.2 with
  | http r =>
    by_cases h : r.reached? = some .acceptanceToken <;>
      simp [Step.lookup?, Step.looksUp, Step.recordsLookup, h, resultLabel_inj]
  | recordAcceptance b => simp [Step.lookup?, Step.looksUp, Step.recordsLookup, resultLabel_inj]
  | _ => rfl

lemma mem_counted_or_asked_iff (label : String) :
    label ∈ counted app steps ∨ label ∈ asked steps ↔ (steps.any fun p =>
      p.2.delivers app label || p.2.records label || p.2.asks label) = true := by
  have hasked : label ∈ asked steps ↔ ∃ p ∈ steps, p.2.asks label = true := by
    rw [asked, List.mem_filterMap]
    refine exists_congr fun p => and_congr_right fun _ => ?_
    cases p.2 <;> simp [Step.asked?, Step.asks]
  rw [← List.count_pos_iff, count_counted, hasked]
  simp only [List.any_eq_true, Bool.or_eq_true, Nat.add_pos_iff_pos_or_pos, List.countP_pos_iff]
  grind

lemma mem_lookedUp_iff (label : String) :
    label ∈ lookedUp app steps ↔ ∃ ok, resultLabel ok = label ∧ (steps.any fun p =>
      p.2.looksUp app p.1 ok || p.2.recordsLookup ok) = true := by
  have hlabel : label ∈ lookedUp app steps → ∃ ok, resultLabel ok = label := by
    rw [lookedUp, List.mem_filterMap]
    rintro ⟨p,-,hp⟩
    obtain ⟨ok,-,hok⟩ := Option.map_eq_some_iff.mp hp
    exact ⟨ok,hok⟩
  have hmem (ok : Bool) : resultLabel ok ∈ lookedUp app steps ↔ (steps.any fun p =>
      p.2.looksUp app p.1 ok || p.2.recordsLookup ok) = true := by
    rw [← List.count_pos_iff, count_lookedUp]
    simp only [List.any_eq_true, Bool.or_eq_true, Nat.add_pos_iff_pos_or_pos, List.countP_pos_iff]
    grind
  constructor
  · intro h
    obtain ⟨ok,rfl⟩ := hlabel h
    exact ⟨ok,rfl,(hmem ok).mp h⟩
  · rintro ⟨ok,rfl,h⟩
    exact (hmem ok).mpr h

end Lists

/-- The counters hold what was counted and asked for in some steps. -/
structure Metrics.Holds (m : Metrics) (app : App) (steps : List (Network × Step)) : Prop where
  webhooks : m.webhooks.Holds (counted app steps) (asked steps)
  acceptance : m.acceptance.Holds (lookedUp app steps) []

namespace App
variable {app : App} {net : Network} {steps : List (Network × Step)} {m : Metrics}

/-- A request changes the counters only if it reaches the handler of a webhook or of a lookup. -/
theorem metrics_handle (app : App) (net : Network) (r : Incoming) :
    (app.handle net r).metrics =
      match r.reached? with
      | some .webhooks => app.metrics.recordWebhook
          (Webhook.process app.config app.orders r.body).outcome.label
      | some .acceptanceToken =>
        app.metrics.recordAcceptance (app.gateway.client.acceptanceToken net).result.isOk
      | _ => app.metrics := by
  cases hreached : r.reached? with
  | none =>
    obtain ⟨refusal,-,hrefusal⟩ := exists_handle_eq_idle hreached
    rw [hrefusal]
    rfl
  | some route =>
    rw [handle_of_reached app net hreached]
    have hhead : ∀ e : Effect Http.Response,
        (if r.method = "HEAD" then { e with answer := e.answer.headOnly } else e).metrics =
          e.metrics := by
      intro e
      split <;> rfl
    refine (hhead _).trans ?_
    cases route with
    | health | metrics => rfl
    | webhooks =>
      have hlength : ¬ largestBody < r.body.length :=
        Nat.not_lt.mpr ((of_decide_eq_true (Option.filter_eq_some_iff.mp hreached).2).2 rfl)
      simp only [answer, if_neg hlength]
      rfl
    | acceptanceToken =>
      simp only [answer, lookUpToken]
      split <;> simp_all [Except.isOk, Except.toBool]

/-- What a step does is added to what the counters hold. -/
theorem holds_step (h : m.Holds app steps) (net : Network) (s : Step) :
    ((app.withMetrics m).step net s).metrics.Holds app (steps ++ [(net,s)]) := by
  obtain ⟨hwebhooks,hacceptance⟩ := h
  -- A step adds its own label to each of the three lists, or none.
  suffices hadds : ((app.withMetrics m).step net s).metrics.webhooks.Holds
        (counted app steps ++ (s.counted? app).toList) (asked steps ++ s.asked?.toList) ∧
      ((app.withMetrics m).step net s).metrics.acceptance.Holds
        (lookedUp app steps ++ ((s.lookup? app net).map resultLabel).toList) [] by
    constructor
    · rw [counted, asked, filterMap_concat, filterMap_concat]
      exact hadds.1
    · rw [lookedUp, filterMap_concat]
      exact hadds.2
  cases s with
  | http r =>
    simp only [step, answered, metrics_handle, Step.counted?, Step.asked?, Step.lookup?]
    cases hreached : r.reached? with
    | none => simpa using ⟨hwebhooks,hacceptance⟩
    | some route =>
      cases route with
      | health | metrics => simpa using ⟨hwebhooks,hacceptance⟩
      | webhooks => simpa using ⟨hwebhooks.record _,hacceptance⟩
      | acceptanceToken => simpa using ⟨hwebhooks,hacceptance.record _⟩
  | webhookCount label =>
    simpa [step, counting, Step.counted?, Step.asked?, Step.lookup?] using
      ⟨hwebhooks.touch label,hacceptance⟩
  | recordWebhook label =>
    simpa [step, counting, Step.counted?, Step.asked?, Step.lookup?] using
      ⟨hwebhooks.record label,hacceptance⟩
  | recordAcceptance ok =>
    simpa [step, counting, Step.counted?, Step.asked?, Step.lookup?] using
      ⟨hwebhooks,hacceptance.record (resultLabel ok)⟩
  | processWebhook | host | supportedCurrencies | clientToken | describe | tokenizeCard
  | institutions | acceptanceToken | createTransaction | retrieveTransaction | voidTransaction =>
    simpa [step, answered, replied, Step.counted?, Step.asked?, Step.lookup?] using
      ⟨hwebhooks,hacceptance⟩

lemma follow_concat (app : App) (steps : List (Network × Step)) (net : Network) (s : Step) :
    app.follow (steps ++ [(net,s)]) = (app.follow steps).after net s := by
  induction steps generalizing app with
  | nil => rfl
  | cons first rest ih => exact ih (app.after first.1 first.2)

/-- The counters of a service that started with none hold what was counted and asked for. -/
theorem holds_follow (h : app.metrics = .empty) (steps : List (Network × Step)) :
    (app.follow steps).metrics.Holds app steps := by
  induction steps using List.reverseRecOn with
  | nil => exact h ▸ ⟨Counter.holds_empty,Counter.holds_empty⟩
  | append_singleton steps p ih =>
    obtain ⟨net,s⟩ := p
    rw [follow_concat, follow_eq]
    exact holds_step ih net s

/-- A service starts with counters that hold nothing. -/
theorem holds_of_start {config : Config} {orders : Webhook.Orders}
    (h : start config orders = .ok app) (steps : List (Network × Step)) :
    (app.follow steps).metrics.Holds app steps := by
  obtain ⟨service,-,rfl⟩ := map_eq_ok_iff.mp h
  exact holds_follow rfl steps

end App

section Text
variable {app : App} {steps : List (Network × Step)} {m : Metrics}

/-- The name of the counter of webhooks. -/
def webhookCounter : String := "wompi_webhook_events_total"

/-- The name of the counter of lookups. -/
def lookupCounter : String := "wompi_acceptance_token_requests_total"

lemma writable_webhookCounter :
    Writable webhookCounter "Inbound Wompi webhooks grouped by outcome" "outcome" :=
  ⟨by simp [webhookCounter],by decide +kernel,by decide +kernel⟩

lemma writable_lookupCounter :
    Writable lookupCounter "Acceptance token lookups grouped by result" "result" :=
  ⟨by simp [lookupCounter],by decide +kernel,by decide +kernel⟩

/-- The lines of the text are those of the two counters. -/
theorem linesOf_render (m : Metrics) : linesOf m.render =
    m.acceptance.lines lookupCounter "Acceptance token lookups grouped by result" "result" ++
      (m.webhooks.lines webhookCounter "Inbound Wompi webhooks grouped by outcome" "outcome" ++
        [[]]) := by
  have hlines {name help labelName : String} (h : Writable name help labelName) (c : Counter)
      (rest : List Char) :
      Text.splitWhere (· == '\n') ((c.render name help labelName).toList ++ rest) =
        c.lines name help labelName ++ Text.splitWhere (· == '\n') rest := by
    rw [Counter.toList_render]
    refine Text.splitWhere_flatMap_append (by rfl) ?_ rest
    intro line hline d hd
    exact beq_false_of_ne fun hnewline =>
      Counter.newline_notMem_of_mem_lines h hline (hnewline ▸ hd)
  rw [linesOf, Metrics.render, String.toList_append]
  refine (hlines writable_lookupCounter m.acceptance _).trans ?_
  have hwebhooks := hlines writable_webhookCounter m.webhooks []
  rw [List.append_nil] at hwebhooks
  exact congrArg _ hwebhooks

lemma count_lines_of_ne {name help labelName name' help' labelName' : String}
    (h : Writable name help labelName) (h' : Writable name' help' labelName') (hne : name ≠ name')
    (c : Counter) (label : String) (n : ℕ) :
    (c.lines name help labelName).count (sampleLine name' labelName' label n) = 0 := by
  refine List.count_eq_zero.mpr fun hmem => ?_
  rcases Counter.mem_lines hmem with ⟨rest,hline⟩ | ⟨label',n',hline⟩
  · exact Counter.sampleLine_ne_comment h' rest hline
  · exact hne (Counter.name_eq_of_sampleLine_eq h' h hline).symm

lemma count_empty_line (name labelName label : String) (n : ℕ) :
    [[]].count (sampleLine name labelName label n) = 0 := by
  rw [List.count_singleton, if_neg]
  simp [sampleLine]

/-- A text has one line for each known label of a counter, and it shows the count of the label. -/
def Lists (text name labelName : String) (known : String → Bool) (count : String → ℕ) : Prop :=
  ∀ label n, (linesOf text).count (sampleLine name labelName label n) =
    if known label ∧ n = count label then 1 else 0

end Text

/-- The counters of a service count exactly what happened in its history, and nothing else does. -/
structure Accounts (app : App) (steps : List (Network × Step)) (now : App) : Prop where
  /-- A label counts the webhooks that had this outcome and those that the host recorded. -/
  webhooks : ∀ label, now.metrics.webhookCount label =
    steps.countP (fun p => p.2.delivers app label) + steps.countP fun p => p.2.records label
  /-- A result counts the lookups that had it and those that the host recorded. -/
  lookups : ∀ ok, now.metrics.acceptance.count (resultLabel ok) =
    steps.countP (fun p => p.2.looksUp app p.1 ok) + steps.countP fun p => p.2.recordsLookup ok
  /-- No other step counts anything. -/
  others : ∀ net s, s.isCounted = false → ∀ label,
    (now.step net s).metrics.webhookCount label = now.metrics.webhookCount label ∧
      (now.step net s).metrics.acceptance.count label = now.metrics.acceptance.count label
  /-- A webhook is answered by its outcome and applies what the host's own call would apply. -/
  delivery : ∀ net r, r.reached? = some .webhooks →
    let d := Webhook.process app.config app.orders r.body
    let e := now.step net (.http r)
    let direct := now.step net (.processWebhook r.body)
    e.answer = .response (.plain d.outcome.status d.outcome.body) ∧ e.applied = d.applied ∧
      direct.answer = .webhook d.outcome ∧ direct.applied = d.applied
  /-- A lookup is answered by its result. -/
  lookup : ∀ net r ok, (Step.http r).looksUp app net ok = true → ∃ response,
    (now.step net (.http r)).answer = .response response ∧ response.status = if ok then 200 else 400
  /-- The count of a label is shown to the host. -/
  asked : ∀ net label,
    (now.step net (.webhookCount label)).answer = .count (now.metrics.webhookCount label)
  /-- The text shows each label that was counted or asked for once, with its count, and nothing
  else but comments. -/
  text : ∀ net r, r.reached? = some .metrics → r.method = "GET" → ∃ text,
    (now.step net (.http r)).answer = .response
      { Http.Response.plain 200 text with contentType := some "text/plain; version=0.0.4" } ∧
    Lists text webhookCounter "outcome"
      (fun label => steps.any fun p =>
        p.2.delivers app label || p.2.records label || p.2.asks label)
      now.metrics.webhookCount ∧
    Lists text lookupCounter "result"
      (fun label => ∃ ok, resultLabel ok = label ∧ steps.any fun p =>
        p.2.looksUp app p.1 ok || p.2.recordsLookup ok)
      (now.metrics.acceptance.count ·) ∧
    ∀ line ∈ linesOf text, line = [] ∨ (∃ rest, line = '#' :: rest) ∨
      (∃ label n, line = sampleLine webhookCounter "outcome" label n) ∨
      ∃ label n, line = sampleLine lookupCounter "result" label n

lemma Step.counted?_eq_none {s : Step} (h : s.isCounted = false) (app : App) (net : Network) :
    s.counted? app = none ∧ s.lookup? app net = none := by
  cases s with
  | http r =>
    have hr : ¬ (r.reached? = some .webhooks ∨ r.reached? = some .acceptanceToken) :=
      of_decide_eq_false h
    simp only [not_or] at hr
    simp [counted?, lookup?, hr]
  | recordWebhook | recordAcceptance => cases h
  | _ => exact ⟨rfl,rfl⟩

section Fields
variable {app : App} {steps : List (Network × Step)} {m : Metrics} {net : Network}

lemma counts_step_of_not_isCounted (h : m.Holds app steps) (net : Network) {s : Step}
    (hs : s.isCounted = false) (label : String) :
    ((app.withMetrics m).step net s).metrics.webhookCount label = m.webhookCount label ∧
      ((app.withMetrics m).step net s).metrics.acceptance.count label =
        m.acceptance.count label := by
  obtain ⟨hcounted,hlookup⟩ := Step.counted?_eq_none hs app net
  have hstep := app.holds_step h net s
  have hnone : counted app (steps ++ [(net,s)]) = counted app steps ∧
      lookedUp app (steps ++ [(net,s)]) = lookedUp app steps := by
    simp [counted, lookedUp, hcounted, hlookup]
  constructor
  · rw [Metrics.webhookCount, Metrics.webhookCount, hstep.webhooks.count_eq, h.webhooks.count_eq,
      hnone.1]
  · rw [hstep.acceptance.count_eq, h.acceptance.count_eq, hnone.2]

lemma delivery_withMetrics (app : App) (m : Metrics) (net : Network) {r : Incoming}
    (h : r.reached? = some .webhooks) :
    let d := Webhook.process app.config app.orders r.body
    let e := (app.withMetrics m).step net (.http r)
    e.answer = .response (.plain d.outcome.status d.outcome.body) ∧ e.applied = d.applied := by
  obtain ⟨-,htaken⟩ := Option.filter_eq_some_iff.mp h
  obtain ⟨hmethod,hlength⟩ := of_decide_eq_true htaken
  have hpost : r.method = "POST" := by simpa [Route.methods] using hmethod
  have hfits : ¬ largestBody < r.body.length := Nat.not_lt.mpr (hlength rfl)
  simp [App.step, App.handle_of_reached _ net h, App.answer, hpost, hfits, App.answered,
    App.takeWebhook, App.deliver, App.withMetrics]

lemma lookup_withMetrics (app : App) (m : Metrics) (net : Network) {r : Incoming} {ok : Bool}
    (h : (Step.http r).looksUp app net ok = true) : ∃ response,
    ((app.withMetrics m).step net (.http r)).answer = .response response ∧
      response.status = if ok then 200 else 400 := by
  obtain ⟨hreached,rfl⟩ := of_decide_eq_true h
  refine ⟨_,rfl,?_⟩
  rw [App.handle_of_reached _ net hreached]
  have hstatus : ((app.withMetrics m).lookUpToken net).answer.status =
      if (app.gateway.client.acceptanceToken net).result.isOk then 200 else 400 := by
    simp only [App.lookUpToken, App.withMetrics]
    split
    · next token htoken => simp [htoken, Except.isOk, Except.toBool, Http.Response.json]
    · next error herror => simp [herror, Except.isOk, Except.toBool, ApiError.status]
  rw [← hstatus]
  dsimp only [App.answer]
  split <;> rfl

/-- The text shows what the counters hold. -/
lemma Metrics.Holds.lists (h : m.Holds app steps) :
    Lists m.render webhookCounter "outcome"
      (fun label => steps.any fun p =>
        p.2.delivers app label || p.2.records label || p.2.asks label) m.webhookCount ∧
    Lists m.render lookupCounter "result"
      (fun label => ∃ ok, resultLabel ok = label ∧ steps.any fun p =>
        p.2.looksUp app p.1 ok || p.2.recordsLookup ok) (m.acceptance.count ·) := by
  constructor
  · intro label n
    rw [linesOf_render, List.count_append, List.count_append, count_empty_line,
      count_lines_of_ne writable_lookupCounter writable_webhookCounter (by decide),
      h.webhooks.count_lines writable_webhookCounter, Nat.zero_add, Nat.add_zero]
    simp only [mem_counted_or_asked_iff, Metrics.webhookCount, h.webhooks.count_eq]
  · intro label n
    rw [linesOf_render, List.count_append, List.count_append, count_empty_line,
      count_lines_of_ne writable_webhookCounter writable_lookupCounter (by decide),
      h.acceptance.count_lines writable_lookupCounter]
    simp only [mem_lookedUp_iff, List.not_mem_nil, or_false, h.acceptance.count_eq,
      decide_eq_true_eq, Nat.add_zero]

lemma comment_or_sampleLine_of_mem_linesOf {line : List Char} (h : line ∈ linesOf m.render) :
    line = [] ∨ (∃ rest, line = '#' :: rest) ∨
      (∃ label n, line = sampleLine webhookCounter "outcome" label n) ∨
      ∃ label n, line = sampleLine lookupCounter "result" label n := by
  rw [linesOf_render] at h
  rcases List.mem_append.mp h with h | h
  · rcases Counter.mem_lines h with hcomment | hsample
    · exact .inr (.inl hcomment)
    · exact .inr (.inr (.inr hsample))
  · rcases List.mem_append.mp h with h | h
    · rcases Counter.mem_lines h with hcomment | hsample
      · exact .inr (.inl hcomment)
      · exact .inr (.inr (.inl hsample))
    · exact .inl (List.mem_singleton.mp h)

end Fields

end Checkout.Service
