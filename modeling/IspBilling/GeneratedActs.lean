import IspBilling.CliDelivery
import IspBilling.Menus

/-! # The generated commands by their arguments

Every command that the generators of `app/modules/provisioning/commands.py` produce, as a command on
a menu of the router.  `Act` is such a command with the flag that makes its failure fatal, and
`configurationActs`, `hotspotActs` and `pppoeActs` follow the three generators.  The `renders`
theorems say that the texts of the acts are the generated texts. -/

namespace IspBilling

open Menus

/-- A command on a menu, and whether its failure ends the session. -/
structure Act where
  critical : Bool
  command : Command
deriving DecidableEq, Repr

def optionalAct (path : String) (method : Method) : Act := ⟨false, path, method⟩

def criticalAct (path : String) (method : Method) : Act := ⟨true, path, method⟩

/-- Arguments that are written as they are. -/
def plains (arguments : List (String × String)) : List (String × Value) :=
  arguments.map (fun a => (a.1, .plain a.2))

@[simp] theorem plains_nil : plains [] = [] := rfl

@[simp] theorem plains_cons (a : String × String) (arguments : List (String × String)) :
    plains (a :: arguments) = (a.1, .plain a.2) :: plains arguments := rfl

theorem evalArguments_plains (device : Device) (arguments : List (String × String)) :
    evalArguments device (plains arguments) = some arguments := by
  induction arguments with
  | nil => rfl
  | cons a arguments ih =>
      unfold evalArguments at ih ⊢
      rw [plains_cons, List.mapM_cons, ih]
      rfl

/-- The generated commands are those of the acts, with their flags. -/
def Renders (commands : List GeneratedCommand) (acts : List Act) : Prop :=
  commands.map (fun c => (c.critical, c.command)) =
    acts.map (fun a => (some a.critical, a.command.text))

/-! ### The configuration -/

section Configuration

variable (config : ProvisioningConfig)

def identityActs : List Act :=
  match (given config.identities.1).or (given config.identities.2) with
  | some identity => [optionalAct "/system/identity" (.set (plains [("name", identity)]))]
  | none => []

def ntpActs (version : Option String) : List Act :=
  match config.ntpServers.getD (.list ["time.cloudflare.com", "time.google.com"]) with
  | .list (primary :: others) =>
      if isV7OrLater version then
        [optionalAct "/system/ntp/client"
          (.set (plains [("enabled", "yes"), ("servers", ",".intercalate (primary :: others))]))]
      else
        [optionalAct "/system/ntp/client" (.set (plains [("enabled", "yes"),
          ("primary-ntp", primary), ("secondary-ntp", others.head?.getD "time.google.com")]))]
  | _ => []

def clockAct (version : Option String) : Act :=
  if isV7OrLater version then
    optionalAct "/system/clock"
      (.set (plains [("time-zone-name", (given config.timezone).getD "Africa/Nairobi")]))
  else optionalAct "/system/clock" (.set (plains [("time-zone-autodetect", "yes")]))

def cleanupSelectors : List (String × Selector) :=
  [("/ip/hotspot/active", .all), ("/ip/hotspot/cookie", .all), ("/ip/hotspot/host", .all),
    ("/ip/hotspot", .equal "interface" "codevertex-bridge"),
    ("/ip/hotspot/profile", .equal "name" "codevertex-hsprof"),
    ("/ip/hotspot/ip-binding", .like "comment" "codevertex-gateway-bypass"),
    ("/interface/pppoe-server/server", .like "service-name" "codevertex"),
    ("/ppp/profile", .like "name" "codevertex"),
    ("/ppp/secret", .like "comment" "codevertex"),
    ("/ip/hotspot/walled-garden", .like "comment" "codevertex-portal"),
    ("/ip/hotspot/walled-garden/ip", .like "comment" "codevertex-portal"),
    ("/file", .quoted "name" "hotspot/login.html"),
    ("/file", .quoted "name" "hotspot/alogin.html"),
    ("/ip/dhcp-server", .equal "name" "codevertex-dhcp"),
    ("/ip/dhcp-server/network", .like "comment" "codevertex-dhcp-network"),
    ("/ip/pool", .equal "name" "codevertex-pool"),
    ("/ip/dns/static", .like "comment" "codevertex-captive-portal-detection"),
    ("/ip/firewall/nat", .like "comment" "codevertex-dns-redirect"),
    ("/ip/firewall/nat", .like "comment" "codevertex-masquerade"),
    ("/ip/firewall/filter", .like "comment" "codevertex-block-doh"),
    ("/ip/firewall/mangle", .like "comment" "codevertex-anti-sharing"),
    ("/ip/firewall/filter", .like "comment" "codevertex-anti-sharing"),
    ("/ip/address", .equal "interface" "codevertex-bridge"),
    ("/interface/bridge", .equal "name" "codevertex-bridge")]

def cleanupActs : List Act :=
  cleanupSelectors.map (fun c => optionalAct c.1 (.guarded (.remove c.2)))

def bridgeAct (bridge : String) : Act :=
  criticalAct "/interface/bridge" (.add (plains [("name", bridge)]))

/-- The warning about the WAN interface. -/
def warningAct : Act := optionalAct "/system/identity" .print

/-- A port leaves the bridge that it is in, and joins another one. -/
def portAct (bridge port : String) : Act :=
  criticalAct "/interface/bridge/port" (.both (.guarded (.remove (.equal "interface" port)))
    (.add (plains [("interface", port), ("bridge", bridge), ("hw", "no")])))

def networkActs (cidr : ℤ) (net : NetworkConfig) : List Act :=
  let gateway := config.gateway.getD net.gateway
  let dns :=
    match config.dnsServers.getD (.list ["8.8.8.8", "8.8.4.4"]) with
    | .list servers => ",".intercalate servers
    | .text servers => servers
  [criticalAct "/ip/address" (.add (plains [("address", gateway ++ "/" ++ toString cidr),
      ("interface", config.bridge)])),
    criticalAct "/ip/pool" (.add (plains [("name", config.pool),
      ("ranges", config.ipPoolStart.getD net.poolStart ++ "-" ++
        config.ipPoolEnd.getD net.poolEnd)])),
    optionalAct "/ip/dns" (.set (plains [("servers", dns), ("allow-remote-requests", "yes")])),
    criticalAct "/ip/dhcp-server" (.add (plains [
      ("name", config.dhcpServerName.getD "codevertex-dhcp"), ("interface", config.bridge),
      ("address-pool", config.pool), ("disabled", "no")])),
    criticalAct "/ip/dhcp-server/network" (.add (plains [
      ("address", config.subnet ++ "/" ++ toString cidr), ("gateway", gateway),
      ("dns-server", gateway), ("comment", "codevertex-dhcp-network")])),
    criticalAct "/ip/firewall/nat" (.add (plains [("chain", "srcnat"), ("action", "masquerade"),
      ("out-interface", config.wan), ("comment", "codevertex-masquerade")]))]

/-- The acts of `generate_configuration_commands`. -/
def configurationActs (lower : String → String) (version : Option String) (cidr : ℤ)
    (net : NetworkConfig) : List Act :=
  let ports := filterWanFromBridgePorts lower config.ports config.wan
  identityActs config ++ ntpActs config version ++ [clockAct config version] ++ cleanupActs ++
    [bridgeAct config.bridge] ++ (if ports.2 then [warningAct] else []) ++
    ports.1.map (portAct config.bridge) ++ networkActs config cidr net

end Configuration

/-! ### The services -/

section Services

variable (config : ProvisioningConfig) (net : NetworkConfig)

def certificateActs : List Act :=
  let ca := config.hotspotCaCertName.getD "codevertex-ca"
  let cert := config.hotspotCertName.getD "codevertex-hotspot-cert"
  [optionalAct "/ip/service" (.setItem "ftp" (plains [("disabled", "no")])),
    optionalAct "/certificate" (.add (plains [("name", ca), ("common-name", "codevertex-ca"),
      ("key-usage", "key-cert-sign,crl-sign"), ("key-size", "2048"), ("days-valid", "3650")])),
    optionalAct "/certificate" (.sign (.equal "name" ca) []),
    optionalAct "/certificate" (.add (plains [("name", cert),
      ("common-name", config.hotspotDnsName.getD "hotspot.local"), ("key-size", "2048"),
      ("days-valid", "3650")])),
    optionalAct "/certificate" (.sign (.equal "name" cert) (plains [("ca", ca)]))]

def hotspotServerActs : List Act :=
  let profile := config.hotspotProfile.getD "codevertex-hsprof"
  [criticalAct "/ip/hotspot/profile" (.add (plains [("name", profile),
      ("hotspot-address", config.gateway.getD net.gateway),
      ("dns-name", config.hotspotDnsName.getD "hotspot.local"), ("use-radius", "no"),
      ("login-by", "http-pap,http-chap,mac-cookie"), ("http-cookie-lifetime", "1d"),
      ("split-user-domain", "no")])),
    optionalAct "/ip/hotspot/profile"
      (.guarded (.setFound (.equal "name" profile) (plains [("ssl-certificate", "none")]))),
    criticalAct "/ip/hotspot" (.add (plains [
      ("name", config.hotspotName.getD "codevertex-hotspot"), ("interface", config.bridge),
      ("address-pool", config.pool), ("profile", profile), ("addresses-per-mac", "1"),
      ("idle-timeout", "5m"), ("keepalive-timeout", "none"), ("disabled", "no")]))]

def templateActs (url : Option String) (file : String) : List Act :=
  match given url with
  | some url => [optionalAct "/file" (.guarded (.fetch url ("hotspot/" ++ file)))]
  | none => []

def portalActs : List Act :=
  templateActs config.loginTemplateUrl "login.html" ++
  templateActs config.aloginTemplateUrl "alogin.html" ++
  [optionalAct "/ip/hotspot/profile" (.guarded
      (.setFound (.equal "name" (config.hotspotProfile.getD "codevertex-hsprof"))
        (plains [("html-directory", "hotspot")]))),
    optionalAct "/ip/hotspot/ip-binding" (.add (plains [
      ("address", config.gateway.getD net.gateway), ("type", "bypassed"),
      ("comment", "codevertex-gateway-bypass")]))]

def dnsRedirectAct (bridge protocol : String) : Act :=
  optionalAct "/ip/firewall/nat" (.add (plains [("chain", "dstnat"), ("action", "redirect"),
    ("to-ports", "53"), ("protocol", protocol), ("dst-port", "53"), ("in-interface", bridge),
    ("comment", "codevertex-dns-redirect")]))

def dohAct (provider : String × String) : Act :=
  optionalAct "/ip/firewall/address-list" (.add (plains [("list", "codevertex-doh-providers"),
    ("address", provider.1), ("comment", provider.2)]))

def dnsActs (bridge : String) : List Act :=
  [dnsRedirectAct bridge "udp", dnsRedirectAct bridge "tcp"] ++ dohProviders.map dohAct ++
  [optionalAct "/ip/firewall/filter" (.add (plains [("chain", "forward"), ("action", "reject"),
    ("reject-with", "icmp-network-unreachable"), ("dst-address-list", "codevertex-doh-providers"),
    ("protocol", "tcp"), ("dst-port", "443"), ("in-interface", bridge),
    ("comment", "codevertex-block-doh")]))]

def gardenHostAct (host : String) : Act :=
  optionalAct "/ip/hotspot/walled-garden" (.add [("dst-host", .quoted host),
    ("action", .plain "allow"), ("comment", .plain "codevertex-portal")])

def gardenAddressAct (ip : String) : Act :=
  optionalAct "/ip/hotspot/walled-garden/ip" (.add (plains [("dst-address", ip),
    ("action", "accept"), ("comment", "codevertex-portal")]))

def gardenCloudAct (host : String) : Act :=
  optionalAct "/ip/hotspot/walled-garden/ip" (.guarded (.add [("dst-address", .resolved host),
    ("action", .plain "accept"), ("comment", .plain "codevertex-portal-ip")]))

def walledGardenActs (garden : WalledGarden) (addresses : List String) : List Act :=
  garden.hosts.map gardenHostAct ++ addresses.map gardenAddressAct ++
    garden.cloudHosts.map gardenCloudAct

def antiSharingActs : List Act :=
  if config.antiSharing.any id then
    [optionalAct "/ip/hotspot" (.setItem (config.hotspotName.getD "codevertex-hotspot")
        (plains [("idle-timeout", "5m")])),
      optionalAct "/ip/firewall/mangle" (.add (plains [("chain", "forward"),
        ("action", "change-ttl"), ("new-ttl", "set:64"), ("passthrough", "yes"),
        ("ttl", "equal:65"), ("protocol", "tcp"), ("dst-port", "80,443,53"),
        ("comment", "codevertex-anti-sharing")])),
      optionalAct "/ip/firewall/mangle" (.add (plains [("chain", "forward"),
        ("action", "change-ttl"), ("new-ttl", "set:64"), ("passthrough", "yes"),
        ("ttl", "equal:65"), ("protocol", "udp"), ("dst-port", "53,67,68"),
        ("comment", "codevertex-anti-sharing")])),
      optionalAct "/ip/firewall/filter" (.add (plains [("chain", "forward"), ("action", "drop"),
        ("ttl", "equal:1"), ("comment", "codevertex-anti-sharing")]))]
  else []

/-- The acts of `generate_hotspot_commands`. -/
def hotspotActs (garden : WalledGarden) : List Act :=
  certificateActs config ++ hotspotServerActs config net ++ portalActs config net ++
    dnsActs config.bridge ++ walledGardenActs garden (walledGardenAddresses config) ++
    antiSharingActs config

/-- The acts of `generate_pppoe_commands`. -/
def pppoeActs : List Act :=
  let gateway := config.gateway.getD net.gateway
  let profile := config.pppProfileName.getD "codevertex-pppoe-profile"
  [criticalAct "/ppp/profile" (.add (plains [("name", profile), ("local-address", gateway),
      ("remote-address", config.pool), ("dns-server", gateway)])),
    criticalAct "/interface/pppoe-server/server" (.add (plains [
      ("service-name", config.serviceName.getD "codevertex-pppoe"), ("interface", config.bridge),
      ("default-profile", profile), ("disabled", "no")]))]

end Services

/-! ### The texts -/

theorem Renders.append {cs ds : List GeneratedCommand} {as bs : List Act} (hc : Renders cs as)
    (hd : Renders ds bs) : Renders (cs ++ ds) (as ++ bs) := by
  unfold Renders at hc hd ⊢
  rw [List.map_append, List.map_append, hc, hd]

theorem renders_nil : Renders [] [] := rfl

theorem renders_map {α : Type} {command : α → GeneratedCommand} {act : α → Act}
    (h : ∀ x, Renders [command x] [act x]) (xs : List α) : Renders (xs.map command) (xs.map act) := by
  induction xs with
  | nil => rfl
  | cons x xs ih => exact Renders.append (h x) ih

theorem renders_optional_cons {path command description : String} {m : Method}
    {cs : List GeneratedCommand} {acts : List Act} :
    Renders (optionalCommand command description :: cs) (optionalAct path m :: acts) ↔
      command = m.text path ∧ Renders cs acts := by
  simp [Renders, optionalCommand, optionalAct]

theorem renders_critical_cons {path command description : String} {rollback : Option String}
    {m : Method} {cs : List GeneratedCommand} {acts : List Act} :
    Renders (criticalCommand command description rollback :: cs) (criticalAct path m :: acts) ↔
      command = m.text path ∧ Renders cs acts := by
  simp [Renders, criticalCommand, criticalAct]

section Renders

variable (config : ProvisioningConfig) (version : Option String) (cidr : ℤ) (net : NetworkConfig)

attribute [local simp] renders_optional_cons renders_critical_cons renders_nil

theorem renders_identity : Renders (identityCommands config) (identityActs config) := by
  unfold identityCommands identityActs
  cases (given config.identities.1).or (given config.identities.2) with
  | none => rfl
  | some identity => simp [← String.append_assoc]

theorem renders_ntp : Renders (ntpCommands config version) (ntpActs config version) := by
  unfold ntpCommands ntpActs
  cases config.ntpServers.getD (.list ["time.cloudflare.com", "time.google.com"]) with
  | text servers => rfl
  | list servers =>
      cases servers with
      | nil => rfl
      | cons primary others =>
          cases isV7OrLater version <;> simp [← String.append_assoc]

theorem renders_clock : Renders [clockCommand config version] [clockAct config version] := by
  unfold clockCommand clockAct
  cases isV7OrLater version <;> simp [← String.append_assoc]

theorem renders_cleanup : Renders cleanupCommands cleanupActs := by
  unfold Renders
  decide +kernel

theorem renders_bridge (bridge : String) : Renders [bridgeCommand bridge] [bridgeAct bridge] := by
  simp [bridgeCommand, bridgeAct, ← String.append_assoc]

theorem renders_port (bridge port : String) : Renders [portCommand bridge port] [portAct bridge port] := by
  simp [portCommand, portAct, guarded, ← String.append_assoc]
  simp [String.append_assoc]

theorem renders_warning (wan : String) : Renders [wanWarning wan] [warningAct] := by
  simp [wanWarning, warningAct]

theorem renders_network : Renders (networkCommands config cidr net) (networkActs config cidr net) := by
  cases hdns : config.dnsServers.getD (.list ["8.8.8.8", "8.8.4.4"]) <;>
    simp [networkCommands, networkActs, hdns, ← String.append_assoc]

theorem renders_certificate : Renders (certificateCommands config) (certificateActs config) := by
  simp [certificateCommands, certificateActs, ← String.append_assoc]
  simp [String.append_assoc]

theorem renders_hotspotServer :
    Renders (hotspotServerCommands config net) (hotspotServerActs config net) := by
  simp [hotspotServerCommands, hotspotServerActs, guarded, ← String.append_assoc]
  simp [String.append_assoc]

theorem renders_template (url : Option String) (file description : String) :
    Renders (templateCommands url file description) (templateActs url file) := by
  unfold templateCommands templateActs
  cases given url with
  | none => rfl
  | some url =>
      simp [guarded, ← String.append_assoc]
      simp [String.append_assoc]

theorem renders_portal : Renders (portalCommands config net) (portalActs config net) := by
  refine ((renders_template _ _ _).append (renders_template _ _ _)).append ?_
  simp [guarded, ← String.append_assoc]
  simp [String.append_assoc]

theorem renders_dns (bridge : String) : Renders (dnsCommands bridge) (dnsActs bridge) := by
  refine Renders.append (Renders.append ?_ (renders_map (fun provider => ?_) _)) ?_
  · simp [dnsRedirectCommand, dnsRedirectAct, ← String.append_assoc]
  · simp [dohAct, ← String.append_assoc]
  · simp [← String.append_assoc]

theorem renders_walledGarden (garden : WalledGarden) (addresses : List String) :
    Renders (walledGardenCommands garden addresses) (walledGardenActs garden addresses) := by
  refine ((renders_map (fun host => ?_) _).append (renders_map (fun ip => ?_) _)).append
    (renders_map (fun host => ?_) _)
  · simp [gardenHostAct, ← String.append_assoc]
    simp [String.append_assoc]
  · simp [gardenAddressAct, ← String.append_assoc]
  · simp [gardenCloudAct, guarded, ← String.append_assoc]
    simp [String.append_assoc]

theorem renders_antiSharing : Renders (antiSharingCommands config) (antiSharingActs config) := by
  unfold antiSharingCommands antiSharingActs
  cases config.antiSharing.any id with
  | false => rfl
  | true => simp

theorem renders_pppoe : Renders (pppoeServerCommands config net) (pppoeActs config net) := by
  simp [pppoeServerCommands, pppoeActs, ← String.append_assoc]

end Renders

/-! ### The menus of the acts -/

/-- The acts work on these menus. -/
def OnMenus (menus : List String) (acts : List Act) : Prop := ∀ a ∈ acts, a.command.path ∈ menus

theorem OnMenus.append {ms ns : List String} {as bs : List Act} (ha : OnMenus ms as)
    (hb : OnMenus ns bs) : OnMenus (ms ++ ns) (as ++ bs) := by
  intro a hmem
  rcases List.mem_append.mp hmem with h | h
  · exact List.mem_append_left ns (ha a h)
  · exact List.mem_append_right ms (hb a h)

theorem onMenus_map {α : Type} {menus : List String} {act : α → Act}
    (h : ∀ x, (act x).command.path ∈ menus) (xs : List α) : OnMenus menus (xs.map act) := by
  intro a ha
  obtain ⟨x, -, rfl⟩ := List.mem_map.mp ha
  exact h x

section Menus

variable (config : ProvisioningConfig) (version : Option String) (cidr : ℤ) (net : NetworkConfig)

attribute [local simp] OnMenus optionalAct criticalAct

theorem onMenus_identity : OnMenus ["/system/identity"] (identityActs config) := by
  unfold identityActs
  split <;> simp

theorem onMenus_ntp : OnMenus ["/system/ntp/client"] (ntpActs config version) := by
  unfold ntpActs
  split
  · split <;> simp
  · simp

theorem onMenus_clock : OnMenus ["/system/clock"] [clockAct config version] := by
  unfold clockAct
  split <;> simp

theorem onMenus_system :
    OnMenus (["/system/identity"] ++ ["/system/ntp/client"] ++ ["/system/clock"])
      (identityActs config ++ ntpActs config version ++ [clockAct config version]) :=
  ((onMenus_identity config).append (onMenus_ntp config version)).append
    (onMenus_clock config version)

theorem onMenus_cleanup : OnMenus (cleanupSelectors.map Prod.fst) cleanupActs := by
  intro a ha
  obtain ⟨c, hc, rfl⟩ := List.mem_map.mp ha
  exact List.mem_map_of_mem hc

theorem onMenus_bridge (bridge : String) : OnMenus ["/interface/bridge"] [bridgeAct bridge] := by
  simp [bridgeAct]

theorem onMenus_warning (found : Bool) :
    OnMenus ["/system/identity"] (if found then [warningAct] else []) := by
  cases found <;> simp [warningAct]

theorem onMenus_ports (bridge : String) (ports : List String) :
    OnMenus ["/interface/bridge/port"] (ports.map (portAct bridge)) :=
  onMenus_map (by simp [portAct]) ports

theorem onMenus_network : OnMenus ["/ip/address", "/ip/pool", "/ip/dns", "/ip/dhcp-server",
    "/ip/dhcp-server/network", "/ip/firewall/nat"] (networkActs config cidr net) := by
  simp [networkActs]

theorem onMenus_certificate :
    OnMenus ["/ip/service", "/certificate"] (certificateActs config) := by
  simp [certificateActs]

theorem onMenus_hotspotServer :
    OnMenus ["/ip/hotspot/profile", "/ip/hotspot"] (hotspotServerActs config net) := by
  simp [hotspotServerActs]

theorem onMenus_template (url : Option String) (file : String) :
    OnMenus ["/file"] (templateActs url file) := by
  unfold templateActs
  split <;> simp

theorem onMenus_portal :
    OnMenus (["/file"] ++ ["/file"] ++ ["/ip/hotspot/profile", "/ip/hotspot/ip-binding"])
      (portalActs config net) := by
  refine ((onMenus_template _ _).append (onMenus_template _ _)).append ?_
  simp

theorem onMenus_dns (bridge : String) :
    OnMenus (["/ip/firewall/nat"] ++ ["/ip/firewall/address-list"] ++ ["/ip/firewall/filter"])
      (dnsActs bridge) := by
  refine (OnMenus.append ?_ (onMenus_map ?_ _)).append ?_
  · simp [dnsRedirectAct]
  · simp [dohAct]
  · simp

theorem onMenus_walledGarden (garden : WalledGarden) (addresses : List String) :
    OnMenus (["/ip/hotspot/walled-garden"] ++ ["/ip/hotspot/walled-garden/ip"] ++
      ["/ip/hotspot/walled-garden/ip"]) (walledGardenActs garden addresses) := by
  refine ((onMenus_map ?_ _).append (onMenus_map ?_ _)).append (onMenus_map ?_ _)
  · simp [gardenHostAct]
  · simp [gardenAddressAct]
  · simp [gardenCloudAct]

theorem onMenus_antiSharing :
    OnMenus ["/ip/hotspot", "/ip/firewall/mangle", "/ip/firewall/filter"]
      (antiSharingActs config) := by
  unfold antiSharingActs
  split <;> simp

/-- The menus of the hotspot generator. -/
def hotspotMenus : List String :=
  ["/ip/service", "/certificate"] ++ ["/ip/hotspot/profile", "/ip/hotspot"] ++
    (["/file"] ++ ["/file"] ++ ["/ip/hotspot/profile", "/ip/hotspot/ip-binding"]) ++
    (["/ip/firewall/nat"] ++ ["/ip/firewall/address-list"] ++ ["/ip/firewall/filter"]) ++
    (["/ip/hotspot/walled-garden"] ++ ["/ip/hotspot/walled-garden/ip"] ++
      ["/ip/hotspot/walled-garden/ip"]) ++
    ["/ip/hotspot", "/ip/firewall/mangle", "/ip/firewall/filter"]

theorem onMenus_hotspot (garden : WalledGarden) :
    OnMenus hotspotMenus (hotspotActs config net garden) :=
  (((((onMenus_certificate config).append (onMenus_hotspotServer config net)).append
    (onMenus_portal config net)).append (onMenus_dns config.bridge)).append
    (onMenus_walledGarden garden _)).append (onMenus_antiSharing config)

theorem onMenus_pppoe :
    OnMenus ["/ppp/profile", "/interface/pppoe-server/server"] (pppoeActs config net) := by
  simp [pppoeActs]

end Menus

/-! ### The generators -/

section Generators

variable {lower : String → String} {settings : TreasurySettings} {config : ProvisioningConfig}
  {serviceType : ServiceType} {version : Option String} {commands : List GeneratedCommand}

theorem renders_configuration
    (h : generateConfigurationCommands lower config serviceType version = some commands) :
    ∃ cidr net, config.cidrValue = some cidr ∧ config.network = some net ∧
      Renders commands (configurationActs config lower version cidr net) := by
  unfold generateConfigurationCommands at h
  simp only [Option.bind_eq_bind, Option.bind_eq_some_iff, Option.pure_def, Option.some.injEq] at h
  obtain ⟨cidr, hcidr, net, hnet, rfl⟩ := h
  have hnetwork : config.network = some net := by simp [ProvisioningConfig.network, hcidr, hnet]
  have hwarning : Renders
      (if (filterWanFromBridgePorts lower config.ports config.wan).2 then [wanWarning config.wan]
        else [])
      (if (filterWanFromBridgePorts lower config.ports config.wan).2 then [warningAct] else []) := by
    split
    · exact renders_warning _
    · exact renders_nil
  refine ⟨cidr, net, hcidr, hnetwork, ?_⟩
  exact (((((((renders_identity config).append (renders_ntp config version)).append
    (renders_clock config version)).append renders_cleanup).append
    (renders_bridge config.bridge)).append hwarning).append
    (renders_map (renders_port config.bridge) _)).append (renders_network config cidr net)

theorem renders_generateHotspot
    (h : generateHotspotCommands settings config version = some commands) :
    ∃ net garden, config.network = some net ∧ walledGarden settings config = some garden ∧
      Renders commands (hotspotActs config net garden) := by
  unfold generateHotspotCommands at h
  simp only [Option.bind_eq_bind, Option.bind_eq_some_iff, Option.pure_def, Option.some.injEq] at h
  obtain ⟨net, hnet, garden, hgarden, rfl⟩ := h
  refine ⟨net, garden, hnet, hgarden, ?_⟩
  exact (((((renders_certificate config).append (renders_hotspotServer config net)).append
    (renders_portal config net)).append (renders_dns config.bridge)).append
    (renders_walledGarden garden _)).append (renders_antiSharing config)

theorem renders_generatePppoe (h : generatePppoeCommands config version = some commands) :
    ∃ net, config.network = some net ∧ Renders commands (pppoeActs config net) := by
  unfold generatePppoeCommands at h
  simp only [Option.bind_eq_bind, Option.bind_eq_some_iff, Option.pure_def, Option.some.injEq] at h
  obtain ⟨net, hnet, rfl⟩ := h
  exact ⟨net, hnet, renders_pppoe config net⟩

end Generators

end IspBilling
