import IspBilling.CliCommands
import IspBilling.RouterOsCommands

/-! # Two deliveries of one command list

The generated commands of a session reach its router in one of two ways.  The direct execution
(`app/modules/provisioning/service.py`) sends each of them through `MikroTikClient.execute_command`,
and the provision-script (`app/api/v1/provisioning/workflow.py`) is a text that the router fetches
and runs in its own console.  Each of the two stops at a critical command that fails; each of them
reads the flag with a default of its own.

The console is not part of the repository: it is the parameter `RouterOs`, of which only the
documented reading of plain lines is used.  `deliveries_agree_iff` says for which sessions the two
deliveries do the same with the critical commands. -/

namespace IspBilling

open PythonText

/-! ### The console -/

/-- The characters that the generators' own words are made of: ASCII letters and digits, and some
signs. -/
def isWordChar (c : Char) : Bool :=
  decide (48 ≤ c.toNat ∧ c.toNat ≤ 57) || decide (65 ≤ c.toNat ∧ c.toNat ≤ 90) ||
    decide (97 ≤ c.toNat ∧ c.toNat ≤ 122) || decide (c ∈ ['-', '.', '_', ',', '/'])

/-- The console of a router: the characters that stand for themselves in a word, and the operations
that a line of text runs. -/
structure RouterOs where
  bare : Char → Bool
  bare_of_isWordChar : ∀ c, isWordChar c = true → bare c = true
  isSpace_of_bare : ∀ c, bare c = true → isSpace c = false
  not_bare_quote : bare '"' = false
  operations : String → List Operation

/-- A word of the console, with no quotation mark in front. -/
def RouterOs.Word (ros : RouterOs) (word : String) : Prop :=
  word ≠ "" ∧ (∀ c ∈ word.toList, ros.bare c = true) ∧ ∀ c ∈ word.toList.head?, c ≠ '\''

/-- What the documentation of RouterOS says of the lines of the console. -/
structure RouterOs.Documented (ros : RouterOs) : Prop where
  /-- A line of a menu path, `add` and parameters adds an object with these. -/
  operations_text : ∀ op : Operation, op.path.toList.head? = some '/' →
    (∀ c ∈ op.path.toList, isWordChar c = true) → op.method = "add" → op.params ≠ [] →
    (∀ p ∈ op.params, ros.Word p.1 ∧ '=' ∉ p.1.toList ∧ ros.Word p.2) →
    (op.params.map Prod.fst).Nodup → ros.operations op.text = [op]
  /-- A menu path starts at the root. -/
  operations_path : ∀ text, ∀ op ∈ ros.operations text, op.path.toList.head? = some '/'

/-! ### The deliveries -/

/-- Whether a failed command ends the delivery, for a default of the flag. -/
def GeneratedCommand.aborts (default : Bool) (c : GeneratedCommand) : Bool :=
  c.critical.getD default

/-- The commands at whose failure a delivery ends. -/
def abortingCommands (default : Bool) (commands : List GeneratedCommand) : List String :=
  (commands.filter (GeneratedCommand.aborts default)).map GeneratedCommand.command

/-- `command_data.get('critical', True)` in the direct execution. -/
def directDefault : Bool := true

/-- `cmd.get("critical", False)` in the script. -/
def scriptDefault : Bool := false

def GeneratedCommand.toScript (c : GeneratedCommand) : ScriptCommand :=
  ⟨c.command, some c.description, c.aborts scriptDefault⟩

/-- The commands at whose failure the script ends: their lines raise `:error`. -/
def scriptAborting (script : List ScriptCommand) : List String :=
  (script.filter ScriptCommand.critical).map ScriptCommand.command

theorem scriptAborting_map_toScript (commands : List GeneratedCommand) :
    scriptAborting (commands.map GeneratedCommand.toScript) =
      abortingCommands scriptDefault commands := by
  unfold scriptAborting abortingCommands
  rw [List.filter_map, List.map_map]
  rfl

section Deliveries

variable (lower : String → String) (settings : TreasurySettings)

def generateBothCommands (config : ProvisioningConfig) (version : Option String) :
    Option (List GeneratedCommand) := do
  let hotspot ← generateHotspotCommands settings config version
  let pppoe ← generatePppoeCommands config version
  return hotspot ++ pppoe

/-- The commands of the service step: anything but a hotspot or a PPPoE server is both. -/
def directServiceCommands (config : ProvisioningConfig) (version : Option String) :
    ServiceType → Option (List GeneratedCommand)
  | .hotspot => generateHotspotCommands settings config version
  | .pppoeServer => generatePppoeCommands config version
  | .both => generateBothCommands settings config version
  | .bridge => generateBothCommands settings config version

/-- The commands of the direct execution, its configuration step and its service step. -/
def directCommands (config : ProvisioningConfig) (serviceType : ServiceType)
    (routerVersion : Option String) : Option (List GeneratedCommand) := do
  let version := (given config.routerosVersion).or routerVersion
  let configuration ← generateConfigurationCommands lower config serviceType version
  let service ← directServiceCommands settings config version serviceType
  return configuration ++ service

/-- The configuration of a script: the timezone and the templates of the organization are filled
in. -/
def scriptConfig (backendUrl : String) (organization : Option ProvisioningOrganization)
    (config : ProvisioningConfig) : ProvisioningConfig :=
  match organization with
  | none => config
  | some org =>
      let base := String.ofList (rstrip '/' backendUrl.toList)
      let template (file slug : String) : String :=
        base ++ "/api/v1/provisioning/templates/" ++ file ++ "?org_slug=" ++ slug
      let timed :=
        { config with
          timezone := (given config.timezone).or ((given org.timezone).or config.timezone) }
      match given org.slug with
      | some slug =>
          if base = "" then timed
          else
            { timed with
              loginTemplateUrl := config.loginTemplateUrl.or (some (template "login.html" slug))
              aloginTemplateUrl := config.aloginTemplateUrl.or (some (template "alogin.html" slug)) }
      | none => timed

def scriptServiceCommands (config : ProvisioningConfig) (version : Option String) :
    ServiceType → Option (List GeneratedCommand)
  | .hotspot => generateHotspotCommands settings config version
  | .pppoeServer => generatePppoeCommands config version
  | .both => generateBothCommands settings config version
  | .bridge => some []

def scriptCommands (config : ProvisioningConfig) (serviceType : ServiceType) :
    Option (List ScriptCommand) := do
  let version := config.routerosVersion
  let configuration ← generateConfigurationCommands lower config serviceType version
  let service ← scriptServiceCommands settings config version serviceType
  return (configuration ++ service).map GeneratedCommand.toScript

end Deliveries

/-! ### The critical commands -/

section Critical

variable (config : ProvisioningConfig) (cidr : ℤ) (net : NetworkConfig)

def bridgeAdd : Operation := ⟨"/interface/bridge", "add", [("name", config.bridge)]⟩

def networkAdds : List Operation :=
  let gateway := config.gateway.getD net.gateway
  [⟨"/ip/address", "add",
      [("address", gateway ++ "/" ++ toString cidr), ("interface", config.bridge)]⟩,
    ⟨"/ip/pool", "add", [("name", config.pool),
      ("ranges", config.ipPoolStart.getD net.poolStart ++ "-" ++
        config.ipPoolEnd.getD net.poolEnd)]⟩,
    ⟨"/ip/dhcp-server", "add", [("name", config.dhcpServerName.getD "codevertex-dhcp"),
      ("interface", config.bridge), ("address-pool", config.pool), ("disabled", "no")]⟩,
    ⟨"/ip/dhcp-server/network", "add", [("address", config.subnet ++ "/" ++ toString cidr),
      ("gateway", gateway), ("dns-server", gateway), ("comment", "codevertex-dhcp-network")]⟩,
    ⟨"/ip/firewall/nat", "add", [("chain", "srcnat"), ("action", "masquerade"),
      ("out-interface", config.wan), ("comment", "codevertex-masquerade")]⟩]

def hotspotAdds : List Operation :=
  let profile := config.hotspotProfile.getD "codevertex-hsprof"
  [⟨"/ip/hotspot/profile", "add", [("name", profile),
      ("hotspot-address", config.gateway.getD net.gateway),
      ("dns-name", config.hotspotDnsName.getD "hotspot.local"), ("use-radius", "no"),
      ("login-by", "http-pap,http-chap,mac-cookie"), ("http-cookie-lifetime", "1d"),
      ("split-user-domain", "no")]⟩,
    ⟨"/ip/hotspot", "add", [("name", config.hotspotName.getD "codevertex-hotspot"),
      ("interface", config.bridge), ("address-pool", config.pool), ("profile", profile),
      ("addresses-per-mac", "1"), ("idle-timeout", "5m"), ("keepalive-timeout", "none"),
      ("disabled", "no")]⟩]

def pppoeAdds : List Operation :=
  let profile := config.pppProfileName.getD "codevertex-pppoe-profile"
  let gateway := config.gateway.getD net.gateway
  [⟨"/ppp/profile", "add", [("name", profile), ("local-address", gateway),
      ("remote-address", config.pool), ("dns-server", gateway)]⟩,
    ⟨"/interface/pppoe-server/server", "add",
      [("service-name", config.serviceName.getD "codevertex-pppoe"),
        ("interface", config.bridge), ("default-profile", profile), ("disabled", "no")]⟩]

variable {config} {cidr} {net} (default : Bool)

@[simp] theorem abortingCommands_nil : abortingCommands default [] = [] := rfl

@[simp] theorem abortingCommands_optional (command description : String)
    (cs : List GeneratedCommand) :
    abortingCommands default (optionalCommand command description :: cs) =
      abortingCommands default cs := rfl

@[simp] theorem abortingCommands_critical (command description : String) (rollback : Option String)
    (cs : List GeneratedCommand) :
    abortingCommands default (criticalCommand command description rollback :: cs) =
      command :: abortingCommands default cs := rfl

@[simp] theorem abortingCommands_append (xs ys : List GeneratedCommand) :
    abortingCommands default (xs ++ ys) =
      abortingCommands default xs ++ abortingCommands default ys := by
  simp [abortingCommands]

@[simp] theorem abortingCommands_map_optional {α : Type} (xs : List α)
    (command description : α → String) :
    abortingCommands default (xs.map (fun x => optionalCommand (command x) (description x))) =
      [] := by
  induction xs with
  | nil => rfl
  | cons x xs ih => exact ih

theorem aborting_system (version : Option String) :
    abortingCommands default (identityCommands config ++ ntpCommands config version ++
      [clockCommand config version] ++ cleanupCommands) = [] := by
  have hidentity : abortingCommands default (identityCommands config) = [] := by
    unfold identityCommands
    split <;> rfl
  have hntp : abortingCommands default (ntpCommands config version) = [] := by
    unfold ntpCommands
    split
    · split <;> rfl
    · rfl
  have hclock : abortingCommands default [clockCommand config version] = [] := by
    unfold clockCommand
    split <;> rfl
  have hcleanup : abortingCommands default cleanupCommands = [] :=
    abortingCommands_map_optional default _ _ _
  rw [abortingCommands_append, abortingCommands_append, abortingCommands_append, hidentity, hntp,
    hclock, hcleanup]
  rfl

theorem aborting_network :
    abortingCommands default (networkCommands config cidr net) =
      (networkAdds config cidr net).map Operation.text := by
  simp only [networkCommands, abortingCommands_critical, abortingCommands_optional,
    abortingCommands_nil, networkAdds, List.map_cons, List.map_nil, Operation.text, paramsText,
    ← String.append_assoc, String.append_empty, String.reduceAppend]

theorem aborting_hotspotServer :
    abortingCommands default (hotspotServerCommands config net) =
      (hotspotAdds config net).map Operation.text := by
  simp only [hotspotServerCommands, abortingCommands_critical, abortingCommands_optional,
    abortingCommands_nil, hotspotAdds, List.map_cons, List.map_nil, Operation.text, paramsText,
    ← String.append_assoc, String.append_empty, String.reduceAppend]

theorem aborting_pppoe :
    abortingCommands default (pppoeServerCommands config net) =
      (pppoeAdds config net).map Operation.text := by
  simp only [pppoeServerCommands, abortingCommands_critical, abortingCommands_nil, pppoeAdds,
    List.map_cons, List.map_nil, Operation.text, paramsText, ← String.append_assoc,
    String.append_empty, String.reduceAppend]

theorem aborting_hotspot (garden : WalledGarden) (addresses : List String) :
    abortingCommands default (certificateCommands config ++ hotspotServerCommands config net ++
      portalCommands config net ++ dnsCommands config.bridge ++
      walledGardenCommands garden addresses ++ antiSharingCommands config) =
      (hotspotAdds config net).map Operation.text := by
  have hcertificate : abortingCommands default (certificateCommands config) = [] := rfl
  have htemplate : ∀ url file description,
      abortingCommands default (templateCommands url file description) = [] := by
    intro url file description
    unfold templateCommands
    split <;> rfl
  have hportal : abortingCommands default (portalCommands config net) = [] := by
    simp only [portalCommands, abortingCommands_append, htemplate]
    rfl
  have hdns : abortingCommands default (dnsCommands config.bridge) = [] := rfl
  have hgarden : abortingCommands default (walledGardenCommands garden addresses) = [] := by
    simp only [walledGardenCommands, abortingCommands_append, abortingCommands_map_optional,
      List.append_nil]
  have hsharing : abortingCommands default (antiSharingCommands config) = [] := by
    unfold antiSharingCommands
    split <;> rfl
  simp only [abortingCommands_append, hcertificate, aborting_hotspotServer, hportal, hdns, hgarden,
    hsharing, List.nil_append, List.append_nil]

end Critical

/-! ### The critical commands of a delivery -/

/-- The ports that are left when the WAN interface is taken out. -/
def keptPorts (lower : String → String) (config : ProvisioningConfig) : List String :=
  (filterWanFromBridgePorts lower config.ports config.wan).1

theorem keptPorts_eq_nil_iff {lower : String → String} {config : ProvisioningConfig} :
    keptPorts lower config = [] ↔
      ∀ port ∈ config.ports, portKey lower port = portKey lower config.wan := by
  unfold keptPorts
  rw [filterWan_fst, List.filter_eq_nil_iff]
  simp

/-- The service operations of the direct execution. -/
def directServiceAdds (config : ProvisioningConfig) (net : NetworkConfig) :
    ServiceType → List Operation
  | .hotspot => hotspotAdds config net
  | .pppoeServer => pppoeAdds config net
  | .both => hotspotAdds config net ++ pppoeAdds config net
  | .bridge => hotspotAdds config net ++ pppoeAdds config net

/-- The service operations of the script. -/
def scriptServiceAdds (config : ProvisioningConfig) (net : NetworkConfig) :
    ServiceType → List Operation
  | .bridge => []
  | serviceType => directServiceAdds config net serviceType

/-- The lines at whose failure a session ends, for its service operations. -/
def criticalLines (lower : String → String) (config : ProvisioningConfig) (cidr : ℤ)
    (net : NetworkConfig) (service : List Operation) : List String :=
  (bridgeAdd config).text ::
    ((keptPorts lower config).map (fun port => (portCommand config.bridge port).command) ++
      (networkAdds config cidr net ++ service).map Operation.text)

section Lines

variable {lower : String → String} {settings : TreasurySettings} {config : ProvisioningConfig}
  {serviceType : ServiceType} {version : Option String} (default : Bool)

theorem aborting_ports (bridge : String) (ports : List String) :
    abortingCommands default (ports.map (portCommand bridge)) =
      ports.map (fun port => (portCommand bridge port).command) := by
  induction ports with
  | nil => rfl
  | cons port ports ih => exact congrArg (_ :: ·) ih

theorem aborting_configuration {cs : List GeneratedCommand}
    (h : generateConfigurationCommands lower config serviceType version = some cs) :
    ∃ cidr net, config.cidrValue = some cidr ∧ config.network = some net ∧
      abortingCommands default cs = criticalLines lower config cidr net [] := by
  unfold generateConfigurationCommands at h
  simp only [Option.bind_eq_bind, Option.bind_eq_some_iff, Option.pure_def, Option.some.injEq] at h
  obtain ⟨cidr, hcidr, net, hnet, rfl⟩ := h
  have hnetwork : config.network = some net := by simp [ProvisioningConfig.network, hcidr, hnet]
  have hwarning : abortingCommands default
      (if (filterWanFromBridgePorts lower config.ports config.wan).2 = true
        then [wanWarning config.wan] else []) = [] := by
    split <;> rfl
  have hbridge : abortingCommands default [bridgeCommand config.bridge] =
      [(bridgeAdd config).text] := by
    simp [bridgeCommand, bridgeAdd, Operation.text, paramsText, ← String.toList_inj]
  refine ⟨cidr, net, hcidr, hnetwork, ?_⟩
  rw [abortingCommands_append, abortingCommands_append, abortingCommands_append,
    abortingCommands_append, aborting_system, hbridge, hwarning, aborting_ports, aborting_network]
  simp [criticalLines, keptPorts]

theorem aborting_generateHotspot {cs : List GeneratedCommand} {net : NetworkConfig}
    (version : Option String) (hnet : config.network = some net)
    (h : generateHotspotCommands settings config version = some cs) :
    abortingCommands default cs = (hotspotAdds config net).map Operation.text := by
  unfold generateHotspotCommands at h
  simp only [Option.bind_eq_bind, Option.bind_eq_some_iff, Option.pure_def, Option.some.injEq,
    hnet] at h
  obtain ⟨net', rfl, garden, _, rfl⟩ := h
  exact aborting_hotspot default garden _

theorem aborting_generatePppoe {cs : List GeneratedCommand} {net : NetworkConfig}
    (version : Option String) (hnet : config.network = some net)
    (h : generatePppoeCommands config version = some cs) :
    abortingCommands default cs = (pppoeAdds config net).map Operation.text := by
  unfold generatePppoeCommands at h
  simp only [Option.bind_eq_bind, Option.bind_eq_some_iff, Option.pure_def, Option.some.injEq,
    hnet] at h
  obtain ⟨net', rfl, rfl⟩ := h
  exact aborting_pppoe default

theorem criticalLines_append (cidr : ℤ) (net : NetworkConfig) (service : List Operation) :
    criticalLines lower config cidr net [] ++ service.map Operation.text =
      criticalLines lower config cidr net service := by
  simp [criticalLines]

theorem aborting_generateBoth {cs : List GeneratedCommand} {net : NetworkConfig}
    (version : Option String) (hnet : config.network = some net)
    (h : generateBothCommands settings config version = some cs) :
    abortingCommands default cs =
      (hotspotAdds config net ++ pppoeAdds config net).map Operation.text := by
  unfold generateBothCommands at h
  simp only [Option.bind_eq_bind, Option.bind_eq_some_iff, Option.pure_def, Option.some.injEq] at h
  obtain ⟨hotspot, hhotspot, pppoe, hpppoe, rfl⟩ := h
  rw [abortingCommands_append, aborting_generateHotspot default _ hnet hhotspot,
    aborting_generatePppoe default _ hnet hpppoe, List.map_append]

theorem aborting_session {configuration service : List GeneratedCommand}
    {adds : NetworkConfig → List Operation}
    (hconfiguration :
      generateConfigurationCommands lower config serviceType version = some configuration)
    (hservice : ∀ net, config.network = some net →
      abortingCommands default service = (adds net).map Operation.text) :
    ∃ cidr net, config.cidrValue = some cidr ∧ config.network = some net ∧
      abortingCommands default (configuration ++ service) =
        criticalLines lower config cidr net (adds net) := by
  obtain ⟨cidr, net, hcidr, hnet, hlines⟩ := aborting_configuration default hconfiguration
  refine ⟨cidr, net, hcidr, hnet, ?_⟩
  rw [abortingCommands_append, hlines, hservice net hnet, criticalLines_append]

theorem aborting_directService {service : List GeneratedCommand} {net : NetworkConfig}
    (hnet : config.network = some net)
    (h : directServiceCommands settings config version serviceType = some service) :
    abortingCommands default service =
      (directServiceAdds config net serviceType).map Operation.text := by
  cases serviceType with
  | hotspot => exact aborting_generateHotspot default version hnet h
  | pppoeServer => exact aborting_generatePppoe default version hnet h
  | both => exact aborting_generateBoth default version hnet h
  | bridge => exact aborting_generateBoth default version hnet h

theorem aborting_scriptService {service : List GeneratedCommand} {net : NetworkConfig}
    (hnet : config.network = some net)
    (h : scriptServiceCommands settings config version serviceType = some service) :
    abortingCommands default service =
      (scriptServiceAdds config net serviceType).map Operation.text := by
  cases serviceType with
  | hotspot => exact aborting_generateHotspot default version hnet h
  | pppoeServer => exact aborting_generatePppoe default version hnet h
  | both => exact aborting_generateBoth default version hnet h
  | bridge =>
      obtain rfl : [] = service := Option.some.inj h
      rfl

theorem aborting_direct {api : List GeneratedCommand}
    (h : directCommands lower settings config serviceType version = some api) :
    ∃ cidr net, config.cidrValue = some cidr ∧ config.network = some net ∧
      abortingCommands directDefault api =
        criticalLines lower config cidr net (directServiceAdds config net serviceType) := by
  unfold directCommands at h
  simp only [Option.bind_eq_bind, Option.bind_eq_some_iff, Option.pure_def, Option.some.injEq] at h
  obtain ⟨configuration, hconfiguration, service, hservice, rfl⟩ := h
  exact aborting_session directDefault hconfiguration
    (fun net hnet => aborting_directService directDefault hnet hservice)

theorem aborting_script {script : List ScriptCommand}
    (h : scriptCommands lower settings config serviceType = some script) :
    ∃ cidr net, config.cidrValue = some cidr ∧ config.network = some net ∧
      scriptAborting script =
        criticalLines lower config cidr net (scriptServiceAdds config net serviceType) := by
  unfold scriptCommands at h
  simp only [Option.bind_eq_bind, Option.bind_eq_some_iff, Option.pure_def, Option.some.injEq] at h
  obtain ⟨configuration, hconfiguration, service, hservice, rfl⟩ := h
  rw [scriptAborting_map_toScript]
  exact aborting_session scriptDefault hconfiguration
    (fun net hnet => aborting_scriptService scriptDefault hnet hservice)

/-- The script's configuration differs in the timezone and in the templates alone. -/
theorem scriptConfig_eq (backendUrl : String) (organization : Option ProvisioningOrganization)
    (config : ProvisioningConfig) :
    ∃ timezone login alogin, scriptConfig backendUrl organization config =
      { config with
        timezone := timezone, loginTemplateUrl := login, aloginTemplateUrl := alogin } := by
  unfold scriptConfig
  split
  · exact ⟨config.timezone, config.loginTemplateUrl, config.aloginTemplateUrl, rfl⟩
  · dsimp only
    split
    · split
      · exact ⟨_, config.loginTemplateUrl, config.aloginTemplateUrl, rfl⟩
      · exact ⟨_, _, _, rfl⟩
    · exact ⟨_, config.loginTemplateUrl, config.aloginTemplateUrl, rfl⟩

end Lines

/-! ### Agreement -/

/-- **What the deliveries owe each other**: a critical command is one operation of RouterOS, which
the API is asked for and the console runs, and the deliveries end at the same commands. -/
structure DeliveriesAgree (ros : RouterOs) (api : List GeneratedCommand)
    (script : List ScriptCommand) : Prop where
  operations : ∀ c ∈ api, c.aborts directDefault = true →
    ∃ op, executeCommand c.command = .operation op ∧ ros.operations c.command = [op]
  aborts : abortingCommands directDefault api = scriptAborting script

/-- The operations that the critical commands of a session are written for, the ports apart. -/
def criticalAdds (config : ProvisioningConfig) (serviceType : ServiceType) : List Operation :=
  match config.cidrValue, config.network with
  | some cidr, some net =>
      bridgeAdd config :: (networkAdds config cidr net ++ directServiceAdds config net serviceType)
  | _, _ => []

/-- An `add` with parameters, of which the path and the keys are plain words. -/
def isAddShape (path method : String) (keys : List String) : Bool :=
  method == "add" && !keys.isEmpty && path.toList.head? == some '/' && path.toList.all isWordChar &&
    decide keys.Nodup &&
    keys.all (fun k => k != "_item_identifier" && !k.toList.isEmpty && k.toList.all isWordChar)

theorem networkAdds_shape {config : ProvisioningConfig} {cidr : ℤ} {net : NetworkConfig} :
    ∀ op ∈ bridgeAdd config :: networkAdds config cidr net,
      isAddShape op.path op.method (op.params.map Prod.fst) = true := by
  simp only [bridgeAdd, networkAdds, List.forall_mem_cons, List.map_cons, List.map_nil]
  exact ⟨by decide +kernel, by decide +kernel, by decide +kernel, by decide +kernel,
    by decide +kernel, by decide +kernel, by simp⟩

theorem serviceAdds_shape {config : ProvisioningConfig} {net : NetworkConfig} :
    ∀ op ∈ hotspotAdds config net ++ pppoeAdds config net,
      isAddShape op.path op.method (op.params.map Prod.fst) = true := by
  simp only [hotspotAdds, pppoeAdds, List.cons_append, List.nil_append, List.forall_mem_cons,
    List.map_cons, List.map_nil]
  exact ⟨by decide +kernel, by decide +kernel, by decide +kernel, by decide +kernel, by simp⟩

theorem directServiceAdds_subset (config : ProvisioningConfig) (net : NetworkConfig)
    (serviceType : ServiceType) :
    directServiceAdds config net serviceType ⊆ hotspotAdds config net ++ pppoeAdds config net := by
  cases serviceType with
  | hotspot => exact List.subset_append_left _ _
  | pppoeServer => exact List.subset_append_right _ _
  | both => exact List.Subset.refl _
  | bridge => exact List.Subset.refl _

theorem criticalAdds_shape {config : ProvisioningConfig} {serviceType : ServiceType} :
    ∀ op ∈ criticalAdds config serviceType,
      isAddShape op.path op.method (op.params.map Prod.fst) = true := by
  intro op hop
  unfold criticalAdds at hop
  split at hop
  · next cidr net _ _ =>
      rw [← List.cons_append] at hop
      rcases List.mem_append.mp hop with hop | hop
      · exact networkAdds_shape op hop
      · exact serviceAdds_shape op (directServiceAdds_subset config net serviceType hop)
  · simp at hop

/-! ### The console and the client -/

section Console

variable {ros : RouterOs}

theorem RouterOs.Word.isBare {word : String} (h : ros.Word word) : IsBare word.toList := by
  obtain ⟨hne, hchars, hquote⟩ := h
  refine ⟨fun hnil => hne (String.toList_eq_nil_iff.mp hnil), ?_, ?_⟩
  · intro c hc
    exact ros.isSpace_of_bare c (hchars c hc)
  · intro c hc
    refine ⟨?_, hquote c hc⟩
    rintro rfl
    have hbare : ros.bare '"' = true := hchars '"' (List.mem_of_mem_head? hc)
    rw [ros.not_bare_quote] at hbare
    exact absurd hbare (by decide)

theorem RouterOs.Word.isKey {word : String} (h : ros.Word word) (heq : '=' ∉ word.toList) :
    IsKey word.toList := by
  refine ⟨h.isBare.1, ?_⟩
  intro c hc
  refine ⟨h.isBare.2.1 c hc, ?_⟩
  rintro rfl
  exact heq hc

theorem RouterOs.word_of_isWordChar (ros : RouterOs) {word : String} (hne : word ≠ "")
    (hchars : ∀ c ∈ word.toList, isWordChar c = true) : ros.Word word := by
  refine ⟨hne, fun c hc => ros.bare_of_isWordChar c (hchars c hc), ?_⟩
  rintro c hc rfl
  exact absurd (hchars _ (List.mem_of_mem_head? hc)) (by decide)

theorem RouterOs.plain_add (ros : RouterOs) {op : Operation}
    (hpath : ∀ c ∈ op.path.toList, isWordChar c = true) (hmethod : op.method = "add")
    (hwords : ∀ p ∈ op.params, ros.Word p.1 ∧ '=' ∉ p.1.toList ∧ ros.Word p.2)
    (hkeys : (op.params.map Prod.fst).Nodup) : op.Plain := by
  refine ⟨?_, by simp [hmethod, methodKeywords], ?_, hkeys⟩
  · intro c hc
    exact ros.isSpace_of_bare c (ros.bare_of_isWordChar c (hpath c hc))
  · intro p hp
    obtain ⟨hkey, heq, hvalue⟩ := hwords p hp
    exact ⟨hkey.isKey heq, hvalue.isBare⟩

/-- **An `add` whose values are words is one operation**, for the client and for the console. -/
theorem RouterOs.Documented.add_agrees (h : ros.Documented) {op : Operation}
    (hshape : isAddShape op.path op.method (op.params.map Prod.fst) = true)
    (hwords : ∀ p ∈ op.params, ros.Word p.2) :
    executeCommand op.text = .operation op ∧ ros.operations op.text = [op] := by
  simp only [isAddShape, Bool.and_eq_true, beq_iff_eq, Bool.not_eq_true', decide_eq_true_eq,
    List.all_eq_true, bne_iff_ne, ne_eq, List.mem_map, forall_exists_index, and_imp,
    forall_apply_eq_imp_iff₂] at hshape
  obtain ⟨⟨⟨⟨⟨hmethod, hempty⟩, hroot⟩, hpath⟩, hnodup⟩, hkeys⟩ := hshape
  have hparams : op.params ≠ [] := by
    intro hnil
    simp [hnil] at hempty
  have hkey : ∀ p ∈ op.params, p.1 ≠ "" ∧ ∀ c ∈ p.1.toList, isWordChar c = true := by
    intro p hp
    obtain ⟨⟨_, hne⟩, hchars⟩ := hkeys p hp
    refine ⟨?_, hchars⟩
    intro hnil
    simp [hnil] at hne
  have heq : ∀ p ∈ op.params, '=' ∉ p.1.toList := by
    intro p hp hmem
    exact absurd ((hkey p hp).2 '=' hmem) (by decide)
  have hplain : ∀ p ∈ op.params, ros.Word p.1 ∧ '=' ∉ p.1.toList ∧ ros.Word p.2 := by
    intro p hp
    exact ⟨ros.word_of_isWordChar (hkey p hp).1 (hkey p hp).2, heq p hp, hwords p hp⟩
  constructor
  · exact executeCommand_add (ros.plain_add hpath hmethod hplain hnodup) hmethod hparams
      (fun p hp => (hkeys p hp).1.1)
  · exact h.operations_text op hroot hpath hmethod hparams hplain hnodup

/-- The line of a port is not an operation for the client. -/
theorem portCommand_request (bridge port : String) :
    ∃ params, executeCommand (portCommand bridge port).command =
      .operation ⟨":do", "print", params⟩ := by
  have hcommand : (portCommand bridge port).command.toList = ":do".toList ++ ' ' ::
      (("\x7b /interface/bridge/port/remove [find interface=" ++ port ++
        "] \x7d on-error=\x7b\x7d; /interface/bridge/port/add interface=" ++ port ++ " bridge=" ++
        bridge ++ " hw=n").toList ++ ['o']) := by
    simp [portCommand, criticalCommand, guarded]
  exact executeCommand_do hcommand List.getLast?_concat (by decide)

theorem RouterOs.Documented.port_disagrees (h : ros.Documented) (bridge port : String)
    {op : Operation} (hop : executeCommand (portCommand bridge port).command = .operation op) :
    ros.operations (portCommand bridge port).command ≠ [op] := by
  intro hrun
  obtain ⟨params, hrequest⟩ := portCommand_request bridge port
  obtain rfl : (⟨":do", "print", params⟩ : Operation) = op :=
    ApiRequest.operation.inj (hrequest.symm.trans hop)
  have hmem : (⟨":do", "print", params⟩ : Operation) ∈
      ros.operations (portCommand bridge port).command := by
    rw [hrun]
    exact List.mem_singleton_self _
  have hroot := h.operations_path _ _ hmem
  simp at hroot

end Console

/-! ### When the deliveries agree -/

section Agreement

variable {ros : RouterOs} {lower : String → String} {settings : TreasurySettings}
  {config : ProvisioningConfig} {serviceType : ServiceType} {routerVersion : Option String}
  {backendUrl : String} {organization : Option ProvisioningOrganization}
  {api : List GeneratedCommand} {script : List ScriptCommand}

theorem mem_abortingCommands {default : Bool} {cs : List GeneratedCommand} {text : String} :
    text ∈ abortingCommands default cs ↔ ∃ c ∈ cs, c.aborts default = true ∧ c.command = text := by
  simp [abortingCommands, and_assoc]

theorem aborting_deliveries
    (hdirect : directCommands lower settings config serviceType routerVersion = some api)
    (hscript : scriptCommands lower settings (scriptConfig backendUrl organization config)
      serviceType = some script) :
    ∃ cidr net, config.cidrValue = some cidr ∧ config.network = some net ∧
      abortingCommands directDefault api =
        criticalLines lower config cidr net (directServiceAdds config net serviceType) ∧
      scriptAborting script =
        criticalLines lower config cidr net (scriptServiceAdds config net serviceType) := by
  obtain ⟨cidr, net, hcidr, hnet, hapi⟩ := aborting_direct hdirect
  obtain ⟨cidr', net', hcidr', hnet', hlines⟩ := aborting_script hscript
  obtain ⟨timezone, login, alogin, hconfig⟩ := scriptConfig_eq backendUrl organization config
  rw [hconfig] at hcidr' hnet' hlines
  -- The timezone and the templates go into commands that are not critical.
  obtain rfl : cidr = cidr' := Option.some.inj (hcidr.symm.trans hcidr')
  obtain rfl : net = net' := Option.some.inj (hnet.symm.trans hnet')
  refine ⟨cidr, net, hcidr, hnet, hapi, hlines.trans ?_⟩
  cases serviceType <;> rfl

theorem keptPorts_of_agree (hros : ros.Documented)
    (hdirect : directCommands lower settings config serviceType routerVersion = some api)
    (hagree : DeliveriesAgree ros api script) : keptPorts lower config = [] := by
  obtain ⟨cidr, net, _, _, hapi⟩ := aborting_direct hdirect
  rw [List.eq_nil_iff_forall_not_mem]
  intro port hport
  have hmem : (portCommand config.bridge port).command ∈ abortingCommands directDefault api := by
    rw [hapi]
    simp only [criticalLines, List.mem_cons, List.mem_append, List.mem_map]
    exact Or.inr (Or.inl ⟨port, hport, rfl⟩)
  obtain ⟨c, hc, hcritical, htext⟩ := mem_abortingCommands.mp hmem
  obtain ⟨op, hrequest, hrun⟩ := hagree.operations c hc hcritical
  rw [htext] at hrequest hrun
  exact hros.port_disagrees config.bridge port hrequest hrun

/-- **When the two deliveries do the same**: never with a bridge port, whose line the client does not
understand, and never for a bridge session, to which the direct execution adds both services. -/
theorem deliveries_agree_iff (hros : ros.Documented)
    (hdirect : directCommands lower settings config serviceType routerVersion = some api)
    (hscript : scriptCommands lower settings (scriptConfig backendUrl organization config)
      serviceType = some script) :
    (serviceType ≠ .bridge →
      (∀ port ∈ config.ports, portKey lower port = portKey lower config.wan) →
      (∀ op ∈ criticalAdds config serviceType, ∀ p ∈ op.params, ros.Word p.2) →
      DeliveriesAgree ros api script) ∧
    (DeliveriesAgree ros api script →
      serviceType ≠ .bridge ∧
        ∀ port ∈ config.ports, portKey lower port = portKey lower config.wan) := by
  rw [← keptPorts_eq_nil_iff]
  obtain ⟨cidr, net, hcidr, hnet, hapi, hlines⟩ := aborting_deliveries hdirect hscript
  constructor
  · intro hbridge hports hwords
    refine ⟨?_, ?_⟩
    · intro c hc haborts
      have hmem : c.command ∈ abortingCommands directDefault api :=
        mem_abortingCommands.mpr ⟨c, hc, haborts, rfl⟩
      have hadds : abortingCommands directDefault api =
          (criticalAdds config serviceType).map Operation.text := by
        simp [hapi, criticalLines, hports, criticalAdds, hcidr, hnet]
      rw [hadds] at hmem
      obtain ⟨op, hop, htext⟩ := List.mem_map.mp hmem
      rw [← htext]
      exact ⟨op, hros.add_agrees (criticalAdds_shape op hop) (hwords op hop)⟩
    · rw [hapi, hlines]
      cases serviceType with
      | bridge => exact absurd rfl hbridge
      | hotspot => rfl
      | pppoeServer => rfl
      | both => rfl
  · intro hagree
    refine ⟨?_, keptPorts_of_agree hros hdirect hagree⟩
    rintro rfl
    have hlength := congrArg List.length hagree.aborts
    rw [hapi, hlines] at hlength
    simp [criticalLines, directServiceAdds, scriptServiceAdds, hotspotAdds, pppoeAdds] at hlength

end Agreement

theorem isSpace_of_isWordChar {c : Char} (h : isWordChar c = true) : isSpace c = false := by
  simp only [isWordChar, Bool.or_eq_true, decide_eq_true_eq] at h
  simp only [isSpace, List.mem_cons, List.not_mem_nil, or_false, Bool.or_eq_false_iff,
    decide_eq_false_iff_not]
  rcases h with h | h
  · omega
  · simp only [List.mem_cons, List.not_mem_nil, or_false] at h
    rcases h with rfl | rfl | rfl | rfl | rfl <;> decide

/-- A console that reads lines as the client does, and runs those that name a menu path. -/
def plainConsole : RouterOs where
  bare := isWordChar
  bare_of_isWordChar _ h := h
  isSpace_of_bare _ h := isSpace_of_isWordChar h
  not_bare_quote := by decide
  operations text :=
    if (parseCliCommand text).path.toList.head? = some '/' then [parseCliCommand text] else []

theorem plainConsole_documented : plainConsole.Documented where
  operations_text := by
    intro op hroot hpath hmethod hparams hwords hkeys
    have hplain : op.Plain := plainConsole.plain_add hpath hmethod hwords hkeys
    have hparse : parseCliCommand op.text = op :=
      parseCliCommand_text hplain (by simp [hmethod]) hparams
    simp [plainConsole, hparse, hroot]
  operations_path := by
    intro text op hop
    unfold plainConsole at hop
    dsimp only at hop
    split at hop
    · next hroot =>
        obtain rfl := List.mem_singleton.mp hop
        exact hroot
    · simp at hop

/-- A configuration that gives only the ports. -/
def portsConfig (ports : List String) : ProvisioningConfig where
  subnetAddress := none
  cidr := none
  gateway := none
  ipPoolStart := none
  ipPoolEnd := none
  poolName := none
  bridgeName := none
  wanInterface := none
  identities := (none, none)
  ntpServers := none
  timezone := none
  bridgePorts := some (.list ports)
  interface := none
  dnsServers := none
  dhcpServerName := none
  hotspotName := none
  hotspotProfile := none
  hotspotDnsName := none
  hotspotCaCertName := none
  hotspotCertName := none
  loginTemplateUrl := none
  aloginTemplateUrl := none
  walledGardenHosts := none
  walledGardenIps := none
  billingServerUrl := none
  apiServerUrl := none
  treasuryStatusHost := none
  treasuryUiHost := none
  antiSharing := []
  serviceName := none
  pppProfileName := none
  routerosVersion := none
  rollbackOnFailure := none

/-- The settings' defaults. -/
def treasury : TreasurySettings :=
  ⟨"booksapi.codevertexafrica.com", "https://books.codevertexafrica.com"⟩

/-- `str.lower`, for ASCII. -/
def lowerAscii (s : String) : String := String.ofList (s.toList.map Char.toLower)

/-- The only port is the WAN interface, which is taken out. -/
theorem deliveries_agree_wan_only :
    ∃ api script,
      directCommands lowerAscii treasury (portsConfig ["ether1"]) .hotspot none = some api ∧
      scriptCommands lowerAscii treasury (scriptConfig "" none (portsConfig ["ether1"])) .hotspot =
        some script ∧ DeliveriesAgree plainConsole api script := by
  obtain ⟨api, hapi⟩ := Option.isSome_iff_exists.mp (show (directCommands lowerAscii treasury
    (portsConfig ["ether1"]) .hotspot none).isSome = true by decide +kernel)
  obtain ⟨script, hscript⟩ := Option.isSome_iff_exists.mp (show (scriptCommands lowerAscii treasury
    (scriptConfig "" none (portsConfig ["ether1"])) .hotspot).isSome = true by decide +kernel)
  have hwords : (criticalAdds (portsConfig ["ether1"]) .hotspot).all (fun op =>
      op.params.all (fun p => p.2 != "" && p.2.toList.all isWordChar)) = true := by
    decide +kernel
  refine ⟨api, script, hapi, hscript, ?_⟩
  refine (deliveries_agree_iff plainConsole_documented hapi hscript).1 (by decide) ?_ ?_
  · exact keptPorts_eq_nil_iff.mp (by decide +kernel)
  intro op hop p hp
  have hword := List.all_eq_true.mp (List.all_eq_true.mp hwords op hop) p hp
  rw [Bool.and_eq_true, List.all_eq_true] at hword
  exact plainConsole.word_of_isWordChar (by simpa using hword.1) hword.2

/-- With one port the deliveries differ, whatever the console does. -/
theorem deliveries_differ :
    ∃ api script,
      directCommands lowerAscii treasury (portsConfig ["ether2"]) .hotspot none = some api ∧
      scriptCommands lowerAscii treasury (scriptConfig "" none (portsConfig ["ether2"])) .hotspot =
        some script ∧ ∀ ros : RouterOs, ros.Documented → ¬ DeliveriesAgree ros api script := by
  obtain ⟨api, hapi⟩ := Option.isSome_iff_exists.mp (show (directCommands lowerAscii treasury
    (portsConfig ["ether2"]) .hotspot none).isSome = true by decide +kernel)
  obtain ⟨script, hscript⟩ := Option.isSome_iff_exists.mp (show (scriptCommands lowerAscii treasury
    (scriptConfig "" none (portsConfig ["ether2"])) .hotspot).isSome = true by decide +kernel)
  refine ⟨api, script, hapi, hscript, ?_⟩
  intro ros hros hagree
  exact absurd (keptPorts_of_agree hros hapi hagree) (by decide +kernel)

end IspBilling
