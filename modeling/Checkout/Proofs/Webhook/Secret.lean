import Checkout.Proofs.Webhook.Coverage

/-! Where the secret of an applied update comes from. The event names the environment, and the variable
for the secret of that environment may be empty or not set at all: a process starts with the public and
the private key of the environment in use. -/
namespace Checkout

/-- The variable with the secret of an environment. -/
def Environment.secretVariable : Environment → String
  | .sandbox => "WOMPI_SANDBOX_EVENT_KEY"
  | .production => "WOMPI_EVENT_KEY"

lemma Config.eq_of_checkKeys {c c' : Config} (h : c.checkKeys = .ok c') : c' = c := by
  unfold checkKeys at h
  split_ifs at h
  exact (Except.ok.inj h).symm

lemma Config.eq_assemble_of_ofVariables {vars : Variables} {config : Config}
    (h : ofVariables vars = .ok config) : ∃ port, config = assemble vars port := by
  obtain ⟨port,-,hchecked⟩ := bind_eq_ok_iff.mp h
  exact ⟨port,eq_of_checkKeys hchecked⟩

/-- The secret of an environment is the value of its variable. -/
theorem Config.eventKey_of_ofVariables {vars : Variables} {config : Config}
    (h : ofVariables vars = .ok config) (e : Environment) :
    (config.keys e).eventKey = vars.textOrEmpty e.secretVariable := by
  obtain ⟨port,rfl⟩ := eq_assemble_of_ofVariables h
  cases e <;> rfl

lemma Variables.textOrEmpty_eq_empty_iff (vars : Variables) (name : String) :
    vars.textOrEmpty name = "" ↔ ∀ s, vars.text? name = some s → s = "" := by
  unfold textOrEmpty
  cases vars.text? name <;> simp

namespace Webhook

/-- An applied update carries its checksum under the secret of the environment that it names, and this
is empty exactly if the variable for it is not set to a text other than the empty one. -/
theorem signedUnder_of_applied {vars : Variables} {config : Config} {orders : Orders}
    {body : List UInt8} {t : Transaction} {action : OrderAction}
    (hconfig : Config.ofVariables vars = .ok config)
    (hcall : (process config orders body).call = some (t,action)) :
    ∃ payload, Json.parseBytes body = .ok payload ∧ SignedUnder payload (secretFor config payload) ∧
      (secretFor config payload = "" ↔
        ∀ s, vars.text? (environment payload).secretVariable = some s → s = "") := by
  cases hparse : Json.parseBytes body with
  | error e =>
    rw [(process_of_fault hparse).2] at hcall
    cases hcall
  | ok payload =>
    obtain ⟨signed,-⟩ := ((course_process config orders hparse).call_iff t action).mp hcall
    refine ⟨payload,rfl,signed,?_⟩
    rw [← eventKey_environment, Config.eventKey_of_ofVariables hconfig,
      Variables.textOrEmpty_eq_empty_iff]

/-- The variables of a process in the sandbox. -/
def sandboxVariables : Variables :=
  [("WOMPI_SANDBOX_PUBLIC_KEY",Text.Utf8.encode "pub"),
    ("WOMPI_SANDBOX_PRIVATE_KEY",Text.Utf8.encode "prv"),
    ("WOMPI_SANDBOX_EVENT_KEY",Text.Utf8.encode "k")]

theorem signedUnder_objectUpdate : ∃ config payload t action,
    Config.ofVariables sandboxVariables = .ok config ∧
    (process config .logging objectUpdate).call = some (t,action) ∧
    SignedUnder payload (secretFor config payload) ∧ secretFor config payload ≠ "" := by
  have hstarted : (Config.ofVariables sandboxVariables).toOption.map (fun config =>
      (process config .logging objectUpdate).call.isSome) = some true := by decide +kernel
  have hparsed : (Json.parseBytes objectUpdate).toOption.map environment = some .sandbox := by
    decide +kernel
  have hkey : sandboxVariables.text? Environment.sandbox.secretVariable = some "k" := by
    decide +kernel
  obtain ⟨config,hsome,hcalled⟩ := Option.map_eq_some_iff.mp hstarted
  obtain ⟨⟨t,action⟩,hcall⟩ := Option.isSome_iff_exists.mp hcalled
  have hconfig := toOption_eq_some_iff.mp hsome
  obtain ⟨payload,hparse,signed,hempty⟩ := signedUnder_of_applied hconfig hcall
  rw [hparse] at hparsed
  have henvironment : environment payload = .sandbox := Option.some.inj hparsed
  refine ⟨config,payload,t,action,hconfig,hcall,signed,?_⟩
  intro he
  rw [henvironment] at hempty
  exact absurd (hempty.mp he "k" hkey) (by decide)

/-- The variables of a process in production, which sets nothing for the sandbox. -/
def productionVariables : Variables :=
  [("WOMPI_USE_SANDBOX",Text.Utf8.encode "false"),("WOMPI_PUBLIC_KEY",Text.Utf8.encode "pub"),
    ("WOMPI_PRIVATE_KEY",Text.Utf8.encode "prv"),("WOMPI_EVENT_KEY",Text.Utf8.encode "k")]

/-- An update whose signed text is `t1-APPROVED-1001`. -/
def keylessUpdate : List UInt8 :=
  updateBody ("\x7b\"transaction\":\x7b\"id\":\"t1\",\"status\":\"APPROVED\"," ++
      "\"amount_in_cents\":100\x7d\x7d")
    "ce95d0c7798a83d9147c4186d1f16170933b29a9588690ee87a76b7b7a7b39fc"

/-- Who names no environment needs no secret. -/
theorem not_secret_of_applied : ¬ ∀ (vars : Variables) (config : Config) (orders : Orders)
    (body : List UInt8) (payload : Json) (t : Transaction) (action : OrderAction),
    Config.ofVariables vars = .ok config → Json.parseBytes body = .ok payload →
    (process config orders body).call = some (t,action) → secretFor config payload ≠ "" := by
  intro h
  have hstarted : (Config.ofVariables productionVariables).toOption.map (fun config =>
      (process config .logging keylessUpdate).call.isSome && config.sandbox.eventKey == "") =
        some true := by decide +kernel
  have hparsed : (Json.parseBytes keylessUpdate).toOption.map (fun payload =>
      (payload.get? "environment").isNone) = some true := by decide +kernel
  obtain ⟨config,hsome,hconfig⟩ := Option.map_eq_some_iff.mp hstarted
  obtain ⟨payload,hpayload,hnone⟩ := Option.map_eq_some_iff.mp hparsed
  obtain ⟨hcalled,hkey⟩ := (Bool.and_eq_true _ _).mp hconfig
  obtain ⟨⟨t,action⟩,hcall⟩ := Option.isSome_iff_exists.mp hcalled
  refine h _ config .logging _ payload t action (toOption_eq_some_iff.mp hsome)
    (toOption_eq_some_iff.mp hpayload) hcall ?_
  simp [secretFor, Option.isNone_iff_eq_none.mp hnone, eq_of_beq hkey]

end Webhook
end Checkout
