import Checkout.Startup

/-! The command line: starts the service from the variables of the process, writes what was noted to
standard output, and reports what went wrong on standard error. Listening itself is left to the host
that embeds the service. -/
namespace Checkout

/-- The variables that the configuration is read from. -/
def variableNames : List String :=
  ["WOMPI_USE_SANDBOX", "WOMPI_SANDBOX_PUBLIC_KEY", "WOMPI_SANDBOX_PRIVATE_KEY",
    "WOMPI_SANDBOX_EVENT_KEY", "WOMPI_PUBLIC_KEY", "WOMPI_PRIVATE_KEY", "WOMPI_EVENT_KEY",
    "WOMPI_SUPPORTED_CURRENCIES", "WOMPI_AUTO_CAPTURE", "WOMPI_BASE_URL", "HOST", "PORT"]

/-- The variables of the process. -/
def readVariables : IO Variables := do
  let values ← variableNames.mapM fun name => do
    return (← IO.getEnv name).map fun value => (name, Text.Utf8.encode value)
  return values.filterMap fun value => value

end Checkout

/-- Starts the service. -/
def main : IO UInt32 := do
  let startup := Checkout.Startup.ofVariables (← Checkout.readVariables) fun _ _ => none
  for event in startup.events do
    IO.println event.line
  match startup with
  | .ended report _ => IO.eprint report
  | .serving .. => pure ()
  return startup.exitCode
