/-! Counters of the service and the text in which they are collected. A counter has one sample for
each label that was ever counted or asked for, and samples are kept in the order of their labels.
-/
namespace Checkout.Service

/-- Counts by label, in the order of the labels. -/
structure Counter where
  samples : List (String × Nat)
  deriving DecidableEq, Repr, Inhabited

namespace Counter

/-- A counter without samples. -/
def empty : Counter := ⟨[]⟩

/-- Changes the sample of a label, which starts at zero. -/
def change (label : String) (f : Nat → Nat) : List (String × Nat) → List (String × Nat)
  | [] => [(label, f 0)]
  | (l, n) :: rest =>
    if label < l then (label, f 0) :: (l, n) :: rest
    else if label = l then (l, f n) :: rest
    else (l, n) :: change label f rest

/-- Counts one more. -/
def record (label : String) (c : Counter) : Counter := ⟨change label (· + 1) c.samples⟩

/-- Makes sure that there is a sample. -/
def touch (label : String) (c : Counter) : Counter := ⟨change label (fun n => n) c.samples⟩

/-- The count of a label. -/
def count (label : String) (c : Counter) : Nat := (c.samples.lookup label).getD 0

/-- A label as it stands between quotes. -/
def escapeLabel (label : String) : String :=
  String.ofList <| label.toList.flatMap fun c =>
    if c = '\\' then ['\\', '\\'] else if c = '\n' then ['\\', 'n']
    else if c = '"' then ['\\', '"'] else [c]

/-- The lines of a counter, none if it has no samples. -/
def render (name help labelName : String) (c : Counter) : String :=
  if c.samples.isEmpty then ""
  else
    "# HELP " ++ name ++ " " ++ help ++ "\n# TYPE " ++ name ++ " counter\n" ++
      String.join (c.samples.map fun (label, n) =>
        name ++ "\x7b" ++ labelName ++ "=\"" ++ escapeLabel label ++ "\"\x7d " ++ toString n ++ "\n")

end Counter

/-- The counters of the service. -/
structure Metrics where
  acceptance : Counter
  webhooks : Counter
  deriving DecidableEq, Repr, Inhabited

namespace Metrics

/-- No samples at all. -/
def empty : Metrics := ⟨.empty, .empty⟩

/-- Counts a webhook by its outcome. -/
def recordWebhook (label : String) (m : Metrics) : Metrics :=
  { m with webhooks := m.webhooks.record label }

/-- Asks for the count of an outcome, which gives it a sample. -/
def askWebhook (label : String) (m : Metrics) : Metrics :=
  { m with webhooks := m.webhooks.touch label }

/-- How many webhooks had an outcome. -/
def webhookCount (label : String) (m : Metrics) : Nat := m.webhooks.count label

/-- Counts a lookup of the token of acceptance by its result. -/
def recordAcceptance (ok : Bool) (m : Metrics) : Metrics :=
  { m with acceptance := m.acceptance.record (if ok then "ok" else "error") }

/-- The text of all counters. -/
def render (m : Metrics) : String :=
  m.acceptance.render "wompi_acceptance_token_requests_total"
      "Acceptance token lookups grouped by result" "result" ++
    m.webhooks.render "wompi_webhook_events_total" "Inbound Wompi webhooks grouped by outcome"
      "outcome"

@[simp] theorem acceptance_recordWebhook (label : String) (m : Metrics) :
    (m.recordWebhook label).acceptance = m.acceptance := rfl

@[simp] theorem webhooks_recordAcceptance (ok : Bool) (m : Metrics) :
    (m.recordAcceptance ok).webhooks = m.webhooks := rfl

end Metrics

example : ((Counter.empty.record "b").record "a").record "b" = ⟨[("a", 1), ("b", 2)]⟩ := by
  decide +kernel

end Checkout.Service
