import Checkout.Text.Blank
import Checkout.Text.Integer
import Checkout.Text.Split
import Checkout.Text.Utf8

/-! The configuration of the service and how it is read from the variables of a process. A variable
whose bytes are no UTF-8 counts as not set. Of the two sets of keys only the one of the selected
environment has to be complete. -/
namespace Checkout

/-- The two environments of the gateway. -/
inductive Environment where
  | sandbox
  | production
  deriving DecidableEq, Repr

namespace Environment

/-- The name of an environment. -/
def name : Environment → String
  | .sandbox => "Sandbox"
  | .production => "Production"

/-- The environment that a webhook names: only `prod` is production. -/
def ofWebhook (name : Option String) : Environment :=
  if name = some "prod" then .production else .sandbox

/-- The address of the gateway in an environment. -/
def baseUrl : Environment → String
  | .sandbox => "https://sandbox.wompi.co/v1"
  | .production => "https://production.wompi.co/v1"

end Environment

/-- The keys of a merchant in one environment. The event key signs webhooks. -/
structure KeySet where
  publicKey : String
  privateKey : String
  eventKey : String
  deriving DecidableEq, Repr, Inhabited

/-- The configuration of the service. -/
structure Config where
  useSandbox : Bool
  sandbox : KeySet
  production : KeySet
  supportedCurrencies : List String
  autoCapture : Bool
  baseUrlOverride : Option String
  host : String
  port : UInt16
  deriving DecidableEq, Repr

/-- The variables of a process with the bytes of their values. -/
abbrev Variables := List (String × List UInt8)

/-- The value of a variable that is set to a text. -/
def Variables.text? (vars : Variables) (name : String) : Option String :=
  (vars.lookup name).bind Text.Utf8.strict?

/-- The value of a variable, empty if it is not set to a text. -/
def Variables.textOrEmpty (vars : Variables) (name : String) : String := (vars.text? name).getD ""

/-- Why there is no configuration. -/
inductive ConfigError where
  | port (fault : Text.Integer.Fault)
  | keyNotSet (name : String)
  deriving DecidableEq, Repr

/-- An error and what caused it, from the outside in. -/
def ConfigError.causes : ConfigError → List String
  | .port fault => ["PORT must be a valid port number", fault.message]
  | .keyNotSet name => [name ++ " must be set"]

/-- The wording of an error with its causes. -/
def ConfigError.message (e : ConfigError) : String := ": ".intercalate e.causes

namespace Config

/-- Whether a text says yes or no; letter case and blanks around it do not matter. -/
def flag? (s : String) : Option Bool :=
  let word := Text.lowerAscii (Text.trim s)
  if word ∈ ["1", "true", "yes", "on"] then some true
  else if word ∈ ["0", "false", "no", "off"] then some false
  else none

/-- The currencies of a list with commas, trimmed and in upper case, blank pieces left out. -/
def currencies (s : String) : List String :=
  ((Text.splitWhere (· == ',') s.toList).map fun piece =>
      Text.upperAscii (String.ofList (Text.trimChars piece))).filter (· != "")

/-- The environment in use. -/
def environment (c : Config) : Environment := if c.useSandbox then .sandbox else .production

/-- The keys of an environment. -/
def keys (c : Config) : Environment → KeySet
  | .sandbox => c.sandbox
  | .production => c.production

/-- The keys of the environment in use. -/
def activeKeys (c : Config) : KeySet := c.keys c.environment

/-- The address of the gateway. -/
def baseUrl (c : Config) : String := c.baseUrlOverride.getD c.environment.baseUrl

/-- A flag variable, yes if it is not set or says neither. -/
def flagOrYes (vars : Variables) (name : String) : Bool :=
  ((vars.text? name).bind flag?).getD true

/-- The port of a process, 8087 if no variable sets it. -/
def portOf (vars : Variables) : Except ConfigError UInt16 :=
  match vars.text? "PORT" with
  | none => .ok 8087
  | some s => ((Text.Integer.read .unsigned16 s).mapError .port).map fun n => UInt16.ofNat n.toNat

/-- The configuration that variables describe, before its keys are checked. -/
def assemble (vars : Variables) (port : UInt16) : Config where
  useSandbox := flagOrYes vars "WOMPI_USE_SANDBOX"
  sandbox := ⟨vars.textOrEmpty "WOMPI_SANDBOX_PUBLIC_KEY",
    vars.textOrEmpty "WOMPI_SANDBOX_PRIVATE_KEY", vars.textOrEmpty "WOMPI_SANDBOX_EVENT_KEY"⟩
  production := ⟨vars.textOrEmpty "WOMPI_PUBLIC_KEY", vars.textOrEmpty "WOMPI_PRIVATE_KEY",
    vars.textOrEmpty "WOMPI_EVENT_KEY"⟩
  supportedCurrencies :=
    match currencies (vars.textOrEmpty "WOMPI_SUPPORTED_CURRENCIES") with
    | [] => ["COP"]
    | codes => codes
  autoCapture := flagOrYes vars "WOMPI_AUTO_CAPTURE"
  baseUrlOverride := (vars.text? "WOMPI_BASE_URL").filter (!Text.isBlankText ·)
  host := (vars.text? "HOST").getD "0.0.0.0"
  port := port

/-- The start of the names of the variables with the active keys. -/
def keyVariables (c : Config) : String := if c.useSandbox then "WOMPI_SANDBOX_" else "WOMPI_"

/-- Checks the active keys, the public one first. -/
def checkKeys (c : Config) : Except ConfigError Config :=
  if c.activeKeys.publicKey = "" then .error (.keyNotSet (c.keyVariables ++ "PUBLIC_KEY"))
  else if c.activeKeys.privateKey = "" then .error (.keyNotSet (c.keyVariables ++ "PRIVATE_KEY"))
  else .ok c

/-- The configuration of a process. -/
def ofVariables (vars : Variables) : Except ConfigError Config := do
  let port ← portOf vars
  (assemble vars port).checkKeys

/-- The list of currencies in a configuration is never empty. -/
theorem supportedCurrencies_assemble_ne_nil (vars : Variables) (port : UInt16) :
    (assemble vars port).supportedCurrencies ≠ [] := by
  simp only [assemble]
  split <;> simp_all

example : currencies " cop, usd ,,é" = ["COP", "USD", "é"] := by decide +kernel
example : flag? " TRUE\n" = some true ∧ flag? "maybe" = none := by decide +kernel

end Config
end Checkout
