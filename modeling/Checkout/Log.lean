/-! What the program notes about its work: events with a level, the part of the program that they
come from, a message and named values. An event is data; writing it down is left to the outside.
-/
namespace Checkout.Log

/-- How much an event matters. -/
inductive Level where
  | debug
  | info
  | warn
  deriving DecidableEq, Repr

/-- The name of a level. -/
def Level.name : Level → String
  | .debug => "DEBUG"
  | .info => "INFO"
  | .warn => "WARN"

/-- The parts of the program that note events. -/
inductive Source where
  | client
  | gateway
  | handlers
  | webhook
  | money
  | startup
  deriving DecidableEq, Repr

/-- The name under which a part notes events. -/
def Source.name : Source → String
  | .client => "wompi_gateway::client"
  | .gateway => "wompi_gateway::gateway"
  | .handlers => "wompi_gateway::handlers"
  | .webhook => "wompi_gateway::webhook"
  | .money => "common_money"
  | .startup => "wompi_gateway"

/-- An event. -/
structure Event where
  level : Level
  source : Source
  message : String
  fields : List (String × String)
  deriving DecidableEq, Repr

/-- An event as a line of text: the level in five columns, the part of the program, the message
and the named values. -/
def Event.line (e : Event) : String :=
  let level := String.ofList (List.replicate (5 - e.level.name.length) ' ') ++ e.level.name
  level ++ " " ++ e.source.name ++ ": " ++ e.message ++
    String.join (e.fields.map fun (name, value) => " " ++ name ++ "=" ++ value)

example : (Event.mk .info .startup "ready" [("a", "1")]).line = " INFO wompi_gateway: ready a=1" := by
  decide +kernel

end Checkout.Log
