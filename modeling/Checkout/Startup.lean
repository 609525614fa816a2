import Checkout.Service.App
import Checkout.Net.Address

/-! Starting the service: the configuration is read from the variables of the process, the address
to listen at is read from the configuration, and the service is put together. What goes wrong is
reported on standard error with its causes, and the process ends. -/
namespace Checkout

open Checkout.Log (Event)

/-- What came of starting the service. -/
inductive Startup where
  /-- The process ends with a report. -/
  | ended (report : String) (events : List Event)
  /-- The service listens. -/
  | serving (app : Service.App) (address : Net.Address) (events : List Event)

namespace Startup

/-- A report on an error: its message, and what caused it, numbered if there is more than one
cause. -/
def report (message : String) (causes : List String) : String :=
  let lines : List String :=
    match causes with
    | [] => []
    | [cause] => ["", "Caused by:", "    " ++ cause]
    | causes => "" :: "Caused by:" :: causes.zipIdx.map fun (cause, i) =>
        "    " ++ toString i ++ ": " ++ cause
  String.join ((("Error: " ++ message) :: lines).map (· ++ "\n"))

/-- What is noted once the service is put together. -/
def configured (app : Service.App) : Event :=
  ⟨.info, .startup, "Wompi gateway configured",
    [("environment", app.config.environment.name), ("base_url", app.gateway.client.baseUrl),
      ("auto_capture", if app.config.autoCapture then "true" else "false")]⟩

/-- An address with its port. -/
def socketText (address : Net.Address) (port : UInt16) : String :=
  match address with
  | .v4 .. => address.toText ++ ":" ++ toString port.toNat
  | .v6 _ => "[" ++ address.toText ++ "]:" ++ toString port.toNat

/-- Starts the service. Whether an address can be listened at is up to the machine; `bind` gives the
reason if it cannot. -/
def ofVariables (vars : Variables) (bind : Net.Address → UInt16 → Option String) : Startup :=
  match Config.ofVariables vars with
  | .error e => .ended (report "Failed to load Wompi configuration" e.causes) []
  | .ok config =>
    match Net.Address.ofText? config.host with
    | none => .ended (report "HOST must be an IP address" ["invalid IP address syntax"]) []
    | some address =>
      match Service.App.start config .logging with
      | .error e => .ended (report "Failed to build application state" [e.message]) []
      | .ok app =>
        match bind address config.port with
        | some reason => .ended (report reason []) [configured app]
        | none => .serving app address [configured app,
            ⟨.info, .startup, "starting wompi-gateway",
              [("addr", socketText address config.port)]⟩]

/-- The exit code of a process that ends. -/
def exitCode : Startup → UInt32
  | .ended .. => 1
  | .serving .. => 0

/-- The events noted while starting. -/
def events : Startup → List Event
  | .ended _ events => events
  | .serving _ _ events => events

example : report "a" ["b"] = "Error: a\n\nCaused by:\n    b\n" := by decide +kernel
example : report "a" ["b", "c"] = "Error: a\n\nCaused by:\n    0: b\n    1: c\n" := by
  decide +kernel

end Startup
end Checkout
