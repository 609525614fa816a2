import Checkout.Proofs.Webhook.Secret
import Checkout.Startup

/-! What starting the service checks, and what it shows. The keys are checked twice, when the
configuration is read and again when the access to the gateway is put together, and the two checks
come to the same verdict. A value of a key has no part in what is reported or noted: all that
matters is which of the two active keys is empty. -/
namespace Checkout

open Checkout.Gateway (Client)
open Checkout.Log (Event)

namespace Environment

def publicVariable : Environment → String
  | .sandbox => "WOMPI_SANDBOX_PUBLIC_KEY"
  | .production => "WOMPI_PUBLIC_KEY"

def privateVariable : Environment → String
  | .sandbox => "WOMPI_SANDBOX_PRIVATE_KEY"
  | .production => "WOMPI_PRIVATE_KEY"

def keyVariables (e : Environment) : List String :=
  [e.publicVariable,e.privateVariable,e.secretVariable]

def other : Environment → Environment
  | .sandbox => .production
  | .production => .sandbox

end Environment

def keyNames : List String :=
  Environment.sandbox.keyVariables ++ Environment.production.keyVariables

namespace Variables

/-- The environment that the flag of a process selects. -/
def environment (vars : Variables) : Environment :=
  if Config.flagOrYes vars "WOMPI_USE_SANDBOX" then .sandbox else .production

/-- The variables with keys that a process can start without. -/
def idleVariables (vars : Variables) : List String :=
  vars.environment.secretVariable :: vars.environment.other.keyVariables

/-- Processes whose variables are the same but for those of some names. -/
def AgreeBut (names : List String) (vars vars' : Variables) : Prop :=
  ∀ name, name ∉ names → vars.text? name = vars'.text? name

lemma text?_eq_none {vars : Variables} {name : String} (h : name ∉ vars.map Prod.fst) :
    vars.text? name = none := by
  have hlookup : vars.lookup name = none :=
    List.lookup_eq_none_iff.mpr fun e he =>
      bne_iff_ne.mpr fun heq => h (heq ▸ List.mem_map_of_mem he)
  rw [text?, hlookup]
  rfl

/-- Variables that are not set agree anyway. -/
lemma agreeBut_of_forall_mem {vars vars' : Variables} {names : List String}
    (h : ∀ name ∈ vars.map Prod.fst ++ vars'.map Prod.fst,
      name ∉ names → vars.text? name = vars'.text? name) : AgreeBut names vars vars' := by
  intro name hname
  by_cases hset : name ∈ vars.map Prod.fst ++ vars'.map Prod.fst
  · exact h name hset hname
  · simp only [List.mem_append, not_or] at hset
    rw [text?_eq_none hset.1, text?_eq_none hset.2]

/-- Processes that a check of the port and of the active keys cannot tell apart. -/
structure AlikeChecked (vars vars' : Variables) : Prop where
  port : Config.portOf vars = Config.portOf vars'
  environment : vars.environment = vars'.environment
  noPublic : vars.textOrEmpty vars.environment.publicVariable = "" ↔
    vars'.textOrEmpty vars.environment.publicVariable = ""
  noPrivate : vars.textOrEmpty vars.environment.privateVariable = "" ↔
    vars'.textOrEmpty vars.environment.privateVariable = ""

variable {vars vars' : Variables} {names : List String} {name : String}

lemma AgreeBut.textOrEmpty (h : AgreeBut names vars vars') (hname : name ∉ names) :
    vars.textOrEmpty name = vars'.textOrEmpty name := by
  rw [Variables.textOrEmpty, Variables.textOrEmpty, h name hname]

lemma AgreeBut.flagOrYes (h : AgreeBut names vars vars') (hname : name ∉ names) :
    Config.flagOrYes vars name = Config.flagOrYes vars' name := by
  rw [Config.flagOrYes, Config.flagOrYes, h name hname]

lemma AgreeBut.portOf_eq (h : AgreeBut names vars vars') (hport : "PORT" ∉ names) :
    Config.portOf vars = Config.portOf vars' := by
  rw [Config.portOf, Config.portOf, h _ hport]

end Variables

namespace Config
variable {vars vars' : Variables} {config : Config}

/-- Whether one of the active keys is missing. -/
def LacksKey (c : Config) : Prop := c.activeKeys.publicKey = "" ∨ c.activeKeys.privateKey = ""

/-- Reading a configuration and putting the access together refuse the same, the public key first.
-/
structure ChecksAgree (c : Config) (loaded : Except ConfigError Config)
    (access : Except GatewayError Client) : Prop where
  loaded_iff : (∃ e, loaded = .error e) ↔ c.LacksKey
  access_iff : (∃ e, access = .error e) ↔ c.LacksKey
  publicFirst : c.activeKeys.publicKey = "" →
    loaded = .error (.keyNotSet c.environment.publicVariable) ∧
      access = .error (.configuration "Invalid key for Wompi")
  thenPrivate : c.activeKeys.publicKey ≠ "" → c.activeKeys.privateKey = "" →
    loaded = .error (.keyNotSet c.environment.privateVariable) ∧
      access = .error (.configuration "Invalid Secret for Wompi")

lemma keyVariables_append (c : Config) :
    c.keyVariables ++ "PUBLIC_KEY" = c.environment.publicVariable ∧
      c.keyVariables ++ "PRIVATE_KEY" = c.environment.privateVariable := by
  cases h : c.useSandbox <;> simp [keyVariables, environment, h] <;> decide

/-- Both checks look at the active keys and in the same order. -/
theorem checksAgree (c : Config) : c.ChecksAgree c.checkKeys (Client.ofConfig c) := by
  obtain ⟨hpublic,hprivate⟩ := c.keyVariables_append
  constructor
  · unfold checkKeys LacksKey
    split_ifs <;> simp_all
  · simp only [Client.ofConfig, LacksKey]
    split_ifs <;> simp_all
  · intro h
    simp [checkKeys, Client.ofConfig, h, hpublic]
  · intro hset h
    simp [checkKeys, Client.ofConfig, hset, h, hprivate]

lemma checkKeys_error_congr {c c' : Config} (henvironment : c.environment = c'.environment)
    (hpublic : c.activeKeys.publicKey = "" ↔ c'.activeKeys.publicKey = "")
    (hprivate : c.activeKeys.privateKey = "" ↔ c'.activeKeys.privateKey = "") (e : ConfigError) :
    c.checkKeys = .error e ↔ c'.checkKeys = .error e := by
  simp only [checkKeys, (keyVariables_append _).1, (keyVariables_append _).2, henvironment, hpublic,
    hprivate]
  split_ifs <;> simp

lemma environment_assemble (vars : Variables) (port : UInt16) :
    (assemble vars port).environment = vars.environment := rfl

lemma activeKeys_assemble (vars : Variables) (port : UInt16) :
    (assemble vars port).activeKeys = ⟨vars.textOrEmpty vars.environment.publicVariable,
      vars.textOrEmpty vars.environment.privateVariable,
      vars.textOrEmpty vars.environment.secretVariable⟩ := by
  rw [activeKeys, environment_assemble]
  cases vars.environment <;> rfl

lemma ofVariables_eq_of_portOf {port : UInt16} (h : portOf vars = .ok port) :
    ofVariables vars = (assemble vars port).checkKeys := by
  rw [ofVariables, h]
  rfl

lemma exists_portOf_eq_ok
    (h : ∀ s, vars.text? "PORT" = some s → ∃ n, Text.Integer.read .unsigned16 s = .ok n) :
    ∃ port, portOf vars = .ok port := by
  unfold portOf
  cases hport : vars.text? "PORT" with
  | none => exact ⟨8087,rfl⟩
  | some s =>
    obtain ⟨n,hn⟩ := h s hport
    exact ⟨UInt16.ofNat n.toNat,by simp [hn, Except.mapError, Except.map]⟩

lemma ofVariables_error_congr (h : vars.AlikeChecked vars') (e : ConfigError) :
    ofVariables vars = .error e ↔ ofVariables vars' = .error e := by
  cases hport : portOf vars with
  | error fault =>
    rw [ofVariables, ofVariables, ← h.port, hport]
    rfl
  | ok port =>
    rw [ofVariables_eq_of_portOf hport, ofVariables_eq_of_portOf (h.port ▸ hport)]
    apply checkKeys_error_congr
    · exact h.environment
    · simpa only [activeKeys_assemble, ← h.environment] using h.noPublic
    · simpa only [activeKeys_assemble, ← h.environment] using h.noPrivate

/-- The access to the gateway under a configuration whose active keys are both set. -/
def access (c : Config) : Client :=
  ⟨Client.withoutSlashes c.baseUrl,c.activeKeys.publicKey,c.activeKeys.privateKey⟩

/-- A configuration that was read has both active keys, so that there is access under it. -/
lemma ofConfig_of_ofVariables (h : ofVariables vars = .ok config) :
    Client.ofConfig config = .ok config.access := by
  obtain ⟨port,-,hchecked⟩ := bind_eq_ok_iff.mp h
  unfold checkKeys at hchecked
  split_ifs at hchecked with hpublic hprivate
  cases hchecked
  simp [Client.ofConfig, hpublic, hprivate, access]

end Config

namespace Variables
variable {vars vars' : Variables} {names : List String}

lemma AgreeBut.environment_eq (h : AgreeBut names vars vars')
    (hflag : "WOMPI_USE_SANDBOX" ∉ names) : vars.environment = vars'.environment := by
  rw [environment, environment, h.flagOrYes hflag]

lemma AlikeChecked.of_keys (h : AgreeBut keyNames vars vars')
    (hpublic : vars.textOrEmpty vars.environment.publicVariable = "" ↔
      vars'.textOrEmpty vars.environment.publicVariable = "")
    (hprivate : vars.textOrEmpty vars.environment.privateVariable = "" ↔
      vars'.textOrEmpty vars.environment.privateVariable = "") : vars.AlikeChecked vars' :=
  ⟨h.portOf_eq (by decide),h.environment_eq (by decide),hpublic,hprivate⟩

lemma AlikeChecked.of_idle (h : AgreeBut vars.idleVariables vars vars') :
    vars.AlikeChecked vars' := by
  have hidle (e : Environment) : ∀ name ∈ ["PORT","WOMPI_USE_SANDBOX",e.publicVariable,
      e.privateVariable], name ∉ e.secretVariable :: e.other.keyVariables := by
    cases e <;> decide
  have hkept := hidle vars.environment
  refine ⟨h.portOf_eq (hkept _ (by simp)),h.environment_eq (hkept _ (by simp)),?_,?_⟩
  · rw [h.textOrEmpty (hkept _ (by simp))]
  · rw [h.textOrEmpty (hkept _ (by simp))]

end Variables

namespace Service.App

/-- The service that starts under a configuration. -/
def initial (config : Config) (orders : Webhook.Orders) : App :=
  ⟨config,⟨config.access,config⟩,orders,.empty⟩

lemma start_of_ofVariables {vars : Variables} {config : Config}
    (h : Config.ofVariables vars = .ok config) (orders : Webhook.Orders) :
    start config orders = .ok (initial config orders) := by
  rw [start, Gateway.Service.ofConfig, Config.ofConfig_of_ofVariables h]
  rfl

end Service.App

namespace Config

/-- A configuration without any keys. -/
def withoutKeys (c : Config) : Config := { c with sandbox := default, production := default }

lemma withoutKeys_assemble_congr {vars vars' : Variables}
    (h : Variables.AgreeBut keyNames vars vars') (port : UInt16) :
    (assemble vars port).withoutKeys = (assemble vars' port).withoutKeys := by
  have hflag := h.flagOrYes (by decide : "WOMPI_USE_SANDBOX" ∉ keyNames)
  have hcapture := h.flagOrYes (by decide : "WOMPI_AUTO_CAPTURE" ∉ keyNames)
  have hcodes := h.textOrEmpty (by decide : "WOMPI_SUPPORTED_CURRENCIES" ∉ keyNames)
  have hbase := h "WOMPI_BASE_URL" (by decide)
  have hhost := h "HOST" (by decide)
  simp only [withoutKeys, assemble, hflag, hcapture, hcodes, hbase, hhost]

lemma exists_read_congr {vars vars' : Variables} {config : Config}
    (hchecked : vars.AlikeChecked vars') (hagree : Variables.AgreeBut keyNames vars vars')
    (h : ofVariables vars = .ok config) :
    ∃ config', ofVariables vars' = .ok config' ∧ config'.withoutKeys = config.withoutKeys := by
  obtain ⟨port,hport,hchecks⟩ := bind_eq_ok_iff.mp h
  cases hread : ofVariables vars' with
  | error e =>
    rw [(ofVariables_error_congr hchecked e).mpr hread] at h
    cases h
  | ok config' =>
    obtain ⟨port',hport',hchecks'⟩ := bind_eq_ok_iff.mp hread
    rw [← hchecked.port, hport] at hport'
    cases hport'
    refine ⟨config',rfl,?_⟩
    rw [eq_of_checkKeys hchecks, eq_of_checkKeys hchecks', withoutKeys_assemble_congr hagree]

end Config

namespace Startup
variable {vars vars' : Variables} {config : Config} {bind : Net.Address → UInt16 → Option String}

/-- What can be seen of a process that starts: its exit code, what it writes to standard error, and
the lines that it logs. -/
structure Output where
  exitCode : UInt32
  standardError : String
  log : List String
  deriving DecidableEq

def standardError : Startup → String
  | .ended report _ => report
  | .serving .. => ""

def output (s : Startup) : Output := ⟨s.exitCode,s.standardError,s.events.map Event.line⟩

/-- The ways in which a start goes. None of them ends for want of a service to start. -/
inductive Course (vars : Variables) (bind : Net.Address → UInt16 → Option String) : Startup → Prop
  | unread {e : ConfigError} (refused : Config.ofVariables vars = .error e) :
      Course vars bind (.ended (report "Failed to load Wompi configuration" e.causes) [])
  | unplaced {config : Config} (read : Config.ofVariables vars = .ok config)
      (noAddress : Net.Address.ofText? config.host = none) :
      Course vars bind (.ended (report "HOST must be an IP address" ["invalid IP address syntax"]) [])
  | unbound {config : Config} {address : Net.Address} {reason : String}
      (read : Config.ofVariables vars = .ok config)
      (placed : Net.Address.ofText? config.host = some address)
      (refused : bind address config.port = some reason) :
      Course vars bind (.ended (report reason []) [configured (.initial config .logging)])
  | bound {config : Config} {address : Net.Address} (read : Config.ofVariables vars = .ok config)
      (placed : Net.Address.ofText? config.host = some address)
      (listens : bind address config.port = none) :
      Course vars bind (.serving (.initial config .logging) address
        [configured (.initial config .logging),
          ⟨.info,.startup,"starting wompi-gateway",[("addr",socketText address config.port)]⟩])

theorem course (vars : Variables) (bind : Net.Address → UInt16 → Option String) :
    Course vars bind (ofVariables vars bind) := by
  unfold ofVariables
  cases hread : Config.ofVariables vars with
  | error e => exact .unread hread
  | ok config =>
    dsimp only
    rw [Service.App.start_of_ofVariables hread]
    cases hplaced : Net.Address.ofText? config.host with
    | none => exact .unplaced hread hplaced
    | some address =>
      dsimp only
      cases hbind : bind address config.port with
      | none => exact .bound hread hplaced hbind
      | some reason => exact .unbound hread hplaced hbind

lemma Course.eq {s : Startup} (h : Course vars bind s) : ofVariables vars bind = s := by
  cases h with
  | unread refused => simp only [ofVariables, refused]
  | unplaced read noAddress => simp only [ofVariables, read, noAddress]
  | unbound read placed refused =>
    simp only [ofVariables, read, placed, Service.App.start_of_ofVariables read]
    simp only [Service.App.initial, refused]
  | bound read placed listens =>
    simp only [ofVariables, read, placed, Service.App.start_of_ofVariables read]
    simp only [Service.App.initial, listens]

def isLine (s : String) : Bool := s.toList.all (· != '\n')

/-- The first line of a report is the message. -/
lemma takeWhile_report {message : String} (h : isLine message = true) (causes : List String) :
    (report message causes).toList.takeWhile (· != '\n') = "Error: ".toList ++ message.toList := by
  have hline : ∀ c ∈ "Error: ".toList ++ message.toList, (c != '\n') = true := by
    rw [List.forall_mem_append]
    exact ⟨List.all_eq_true.mp (by decide : isLine "Error: " = true),List.all_eq_true.mp h⟩
  simp only [report, List.map_cons, String.join_cons, String.toList_append]
  rw [List.append_assoc, List.takeWhile_append_of_pos hline]
  simp

lemma report_ne {message message' : String} (h : isLine message = true)
    (h' : isLine message' = true) (hne : message ≠ message') (causes causes' : List String) :
    report message causes ≠ report message' causes' := by
  intro he
  have hlines := congrArg (fun s => s.toList.takeWhile (· != '\n')) he
  simp only [takeWhile_report h, takeWhile_report h'] at hlines
  exact hne (String.toList_injective (List.append_cancel_left hlines))

/-- A start does not end with a message of its own other than the two for the configuration and for
the address. -/
theorem ne_ended_unbuilt {causes : List String} (events : List Event)
    (hmachine : ∀ address port reason, bind address port = some reason →
      report reason [] ≠ report "Failed to build application state" causes) :
    ofVariables vars bind ≠ .ended (report "Failed to build application state" causes) events := by
  intro h
  have hcourse := course vars bind
  generalize hreport : report "Failed to build application state" causes = r at *
  rw [h] at hcourse
  cases hcourse with
  | unread refused => exact report_ne (by decide) (by decide) (by decide) _ _ hreport
  | unplaced read noAddress => exact report_ne (by decide) (by decide) (by decide) _ _ hreport
  | unbound read placed refused => exact hmachine _ _ _ refused rfl

lemma configured_congr {c c' : Config} (h : c'.withoutKeys = c.withoutKeys) :
    configured (.initial c' .logging) = configured (.initial c .logging) :=
  (congrArg (fun c : Config => configured (.initial c .logging)) h :)

lemma host_congr {c c' : Config} (h : c'.withoutKeys = c.withoutKeys) : c'.host = c.host :=
  (congrArg Config.host h :)

lemma port_congr {c c' : Config} (h : c'.withoutKeys = c.withoutKeys) : c'.port = c.port :=
  (congrArg Config.port h :)

/-- What can be seen of a start depends on the keys only through which of the two active ones are
empty. -/
theorem output_congr (hchecked : vars.AlikeChecked vars')
    (hagree : Variables.AgreeBut keyNames vars vars') :
    (ofVariables vars bind).output = (ofVariables vars' bind).output := by
  have hagreed {config : Config} (h : Config.ofVariables vars = .ok config) :=
    Config.exists_read_congr hchecked hagree h
  -- The second start takes the course of the first one, case by case.
  have hcourse := course vars bind
  generalize ofVariables vars bind = s at hcourse ⊢
  cases hcourse with
  | unread refused =>
    have refused' := (Config.ofVariables_error_congr hchecked _).mp refused
    rw [(Course.unread refused').eq]
  | unplaced read noAddress =>
    obtain ⟨config',read',hsame⟩ := hagreed read
    rw [← host_congr hsame] at noAddress
    rw [(Course.unplaced read' noAddress).eq]
  | unbound read placed refused =>
    obtain ⟨config',read',hsame⟩ := hagreed read
    rw [← host_congr hsame] at placed
    rw [← port_congr hsame] at refused
    rw [(Course.unbound read' placed refused).eq, configured_congr hsame]
  | bound read placed listens =>
    obtain ⟨config',read',hsame⟩ := hagreed read
    rw [← host_congr hsame] at placed
    rw [← port_congr hsame] at listens
    rw [(Course.bound read' placed listens).eq, configured_congr hsame, port_congr hsame]
    rfl

/-- The checks of a start. A configuration that was read starts, so that no start fails while the
service is put together, unless the machine's own reason reads that way. With a port, reading fails
exactly if an active key is missing, as does the access to the gateway, and both look for the public
key first. Keys that are not in use have no part in it, and of the keys in use nothing can be seen
but whether one is empty. -/
theorem checks_agree (vars : Variables) :
    (∀ config, Config.ofVariables vars = .ok config →
      (∃ client, Client.ofConfig config = .ok client) ∧
      ∀ orders, ∃ app, Service.App.start config orders = .ok app) ∧
    (∀ bind causes, (∀ address port reason, bind address port = some reason →
        report reason [] ≠ report "Failed to build application state" causes) →
      ∀ events, ofVariables vars bind ≠
        .ended (report "Failed to build application state" causes) events) ∧
    ((∀ s, vars.text? "PORT" = some s → ∃ n, Text.Integer.read .unsigned16 s = .ok n) →
      ∃ port, Config.portOf vars = .ok port ∧
        let config := Config.assemble vars port
        config.ChecksAgree (Config.ofVariables vars) (Client.ofConfig config)) ∧
    (∀ vars', Variables.AgreeBut vars.idleVariables vars vars' → ∀ e,
      Config.ofVariables vars = .error e ↔ Config.ofVariables vars' = .error e) ∧
    (∀ vars', Variables.AgreeBut keyNames vars vars' →
      (vars.textOrEmpty vars.environment.publicVariable = "" ↔
        vars'.textOrEmpty vars.environment.publicVariable = "") →
      (vars.textOrEmpty vars.environment.privateVariable = "" ↔
        vars'.textOrEmpty vars.environment.privateVariable = "") →
      ∀ bind, (ofVariables vars bind).output = (ofVariables vars' bind).output) := by
  refine ⟨?starts,?built,?port,?idle,?shown⟩
  case starts =>
    intro config hread
    exact ⟨⟨_,Config.ofConfig_of_ofVariables hread⟩,
      fun orders => ⟨_,Service.App.start_of_ofVariables hread orders⟩⟩
  case built =>
    intro bind causes hmachine events
    exact ne_ended_unbuilt events hmachine
  case port =>
    intro hset
    obtain ⟨port,hport⟩ := Config.exists_portOf_eq_ok hset
    refine ⟨port,hport,?_⟩
    rw [Config.ofVariables_eq_of_portOf hport]
    exact Config.checksAgree _
  case idle =>
    intro vars' hagree
    exact Config.ofVariables_error_congr (.of_idle hagree)
  case shown =>
    intro vars' hagree hpublic hprivate bind
    exact output_congr (.of_keys hagree hpublic hprivate) hagree

/-- The variables of a process in the sandbox with keys other than those of `sandboxVariables`. -/
def rekeyedVariables : Variables :=
  [("WOMPI_SANDBOX_PUBLIC_KEY",Text.Utf8.encode "other"),
    ("WOMPI_SANDBOX_PRIVATE_KEY",Text.Utf8.encode "keys"),
    ("WOMPI_PUBLIC_KEY",Text.Utf8.encode "live")]

theorem checks_sandbox : let vars := Webhook.sandboxVariables
    (∃ config app, Config.ofVariables vars = .ok config ∧
      Service.App.start config .logging = .ok app) ∧
    (∀ events, ofVariables vars (fun _ _ => none) ≠
      .ended (report "Failed to build application state" []) events) ∧
    (∃ config, (config : Config).ChecksAgree (Config.ofVariables vars) (Client.ofConfig config)) ∧
    (∀ e, Config.ofVariables vars = .error e ↔ Config.ofVariables (vars.take 2) = .error e) ∧
    (ofVariables vars fun _ _ => none).output =
      (ofVariables rekeyedVariables fun _ _ => none).output := by
  intro vars
  have hread : (Config.ofVariables vars).toOption.isSome = true := by decide +kernel
  obtain ⟨config,hconfig⟩ := Option.isSome_iff_exists.mp hread
  obtain ⟨hstarts,hbuilt,hport,hidle,hshown⟩ := checks_agree vars
  have hconfig := toOption_eq_some_iff.mp hconfig
  obtain ⟨app,happ⟩ := (hstarts config hconfig).2 .logging
  have hunset : vars.text? "PORT" = none := by decide +kernel
  obtain ⟨port,-,hchecks⟩ := hport fun s hs => by
    rw [hunset] at hs
    cases hs
  refine ⟨⟨config,app,hconfig,happ⟩,?_,⟨_,hchecks⟩,hidle _ ?_,hshown _ ?_ ?_ ?_ _⟩
  · exact hbuilt _ [] (fun address port reason h => by cases h)
  · exact Variables.agreeBut_of_forall_mem (by decide +kernel)
  · exact Variables.agreeBut_of_forall_mem (by decide +kernel)
  · decide +kernel
  · decide +kernel

end Startup
end Checkout
