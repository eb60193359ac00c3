import IspBilling.ProvisioningCallbacks
import IspBilling.PythonText

/-! # The RouterOS commands of a session

The generators of `app/modules/provisioning/commands.py`: from the configuration of a session they
build the list of commands that sets up its router.  Each command is a line of RouterOS text with a
description, whether the session is to be given up when it fails, and the command that undoes it.

`generate_configuration_commands` makes the network (identity, clock, bridge, addresses, DHCP, NAT),
`generate_hotspot_commands` the hotspot with its walled garden, and `generate_pppoe_commands` the
PPPoE server.  A generator that raises has the value `none`.

`filterWan_fst` is the loop over the bridge ports: the ports that are not the WAN interface stay, in
order. -/

namespace IspBilling

open PythonText

/-! ### The configuration -/

inductive ListOrText where
  | list (items : List String)
  | text (value : String)
deriving DecidableEq, Repr

/-- A value that goes through `int`. -/
inductive IntOrText where
  | int (value : ℤ)
  | text (value : String)
deriving DecidableEq, Repr

/-- `int(value)`. -/
def IntOrText.toInt : IntOrText → Option ℤ
  | .int value => some value
  | .text value => parseInt value

/-- The items of a session's configuration that the generators read. -/
structure ProvisioningConfig where
  subnetAddress : Option String
  cidr : Option IntOrText
  gateway : Option String
  ipPoolStart : Option String
  ipPoolEnd : Option String
  poolName : Option String
  bridgeName : Option String
  wanInterface : Option String
  /-- `identity`, `router_identity`. -/
  identities : Option String × Option String
  ntpServers : Option ListOrText
  timezone : Option String
  bridgePorts : Option ListOrText
  interface : Option String
  dnsServers : Option ListOrText
  dhcpServerName : Option String
  hotspotName : Option String
  hotspotProfile : Option String
  hotspotDnsName : Option String
  hotspotCaCertName : Option String
  hotspotCertName : Option String
  loginTemplateUrl : Option String
  aloginTemplateUrl : Option String
  walledGardenHosts : Option (List String)
  walledGardenIps : Option (List String)
  billingServerUrl : Option String
  apiServerUrl : Option String
  treasuryStatusHost : Option String
  treasuryUiHost : Option String
  /-- `enable_anti_sharing`, `enableAntiSharing`, `enable_hotspot_anti_sharing`. -/
  antiSharing : List Bool
  serviceName : Option String
  pppProfileName : Option String
  routerosVersion : Option String
  rollbackOnFailure : Option Bool
deriving DecidableEq, Repr

/-- A generated command.  The generators leave out `order`. -/
structure GeneratedCommand where
  command : String
  description : String
  critical : Option Bool
  rollback : Option String
  order : Option ℕ
deriving DecidableEq, Repr

/-- A command whose failure is only reported. -/
def optionalCommand (command description : String) : GeneratedCommand :=
  ⟨command, description, some false, none, none⟩

/-- A command whose failure ends the session. -/
def criticalCommand (command description : String) (rollback : Option String) : GeneratedCommand :=
  ⟨command, description, some true, rollback, none⟩

/-- A command whose errors RouterOS drops. -/
def guarded (body : String) : String := ":do \x7b " ++ body ++ " \x7d on-error=\x7b\x7d"

/-! ### Versions -/

/-- The digits at the head of a text, with what follows them. -/
def spanDigits (cs : List Char) : Option (ℕ × List Char) :=
  let digits := cs.takeWhile Char.isDigit
  if digits = [] then none
  else (digitsValue 0 digits).map (fun n => (n, cs.dropWhile Char.isDigit))

/-- The digits after a dot at the head of a text, with what follows them. -/
def spanDotDigits : List Char → Option (ℕ × List Char)
  | '.' :: cs => spanDigits cs
  | _ => none

/-- `parse_routeros_version`. -/
def parseRouterosVersion (version : String) : ℕ × ℕ × ℕ :=
  match spanDigits (strip version.toList) with
  | none => (7, 0, 0)
  | some (major, rest) =>
      match spanDotDigits rest with
      | none => (7, 0, 0)
      | some (minor, rest) => (major, minor, ((spanDotDigits rest).map Prod.fst).getD 0)

/-- `is_v7_or_later`. -/
def isV7OrLater (version : Option String) : Bool :=
  match given version with
  | none => true
  | some version => decide (7 ≤ (parseRouterosVersion version).1)

/-! ### The network -/

/-- The result of `calculate_network_config`. -/
structure NetworkConfig where
  gateway : String
  poolStart : String
  poolEnd : String
  network : String
deriving DecidableEq, Repr

/-- `calculate_network_config`; `none` when a part of the address is missing or is no number. -/
def calculateNetworkConfig (subnetAddress : String) (cidr : ℤ) : Option NetworkConfig := do
  let parts := split '.' subnetAddress
  let a ← parts[0]?
  let b ← parts[1]?
  let network := subnetAddress ++ "/" ++ toString cidr
  if cidr = 16 then
    return ⟨a ++ "." ++ b ++ ".0.1", a ++ "." ++ b ++ ".0.2", a ++ "." ++ b ++ ".255.254", network⟩
  let c ← parts[2]?
  let net := a ++ "." ++ b ++ "." ++ c
  if cidr = 22 then
    let n ← parseInt c
    return ⟨net ++ ".1", net ++ ".2", a ++ "." ++ b ++ "." ++ toString (n + 3) ++ ".254", network⟩
  else if cidr = 23 then
    let n ← parseInt c
    return ⟨net ++ ".1", net ++ ".2", a ++ "." ++ b ++ "." ++ toString (n + 1) ++ ".254", network⟩
  else return ⟨net ++ ".1", net ++ ".2", net ++ ".254", network⟩

namespace ProvisioningConfig

variable (config : ProvisioningConfig)

/-- `int(config.get("cidr", 16))`. -/
def cidrValue : Option ℤ := (config.cidr.getD (.int 16)).toInt

def subnet : String := config.subnetAddress.getD "172.31.0.0"

def network : Option NetworkConfig := do
  let cidr ← config.cidrValue
  calculateNetworkConfig config.subnet cidr

def bridge : String := config.bridgeName.getD "codevertex-bridge"

def pool : String := config.poolName.getD "codevertex-pool"

def wan : String := config.wanInterface.getD "ether1"

def ports : List String :=
  match config.bridgePorts with
  | some (.list (port :: ports)) => port :: ports
  | _ => [config.interface.getD "ether2"]

end ProvisioningConfig

/-! ### Bridge ports -/

section Ports

-- `str.lower`.
variable (lower : String → String)

/-- `port.lower().strip()`. -/
def portKey (port : String) : List Char := strip (lower port).toList

/-- `filter_wan_from_bridge_ports`. -/
def filterWanFromBridgePorts (ports : List String) (wan : String) : List String × Bool :=
  ports.foldl (fun acc port =>
    if portKey lower port = portKey lower wan then (acc.1, true) else (acc.1 ++ [port], acc.2))
    ([], false)

variable {lower}

/-- The loop keeps the ports that are not the WAN interface, in order. -/
theorem filterWan_fst (ports : List String) (wan : String) :
    (filterWanFromBridgePorts lower ports wan).1 =
      ports.filter (fun port => decide (portKey lower port ≠ portKey lower wan)) := by
  have hloop : ∀ (ports kept : List String) (found : Bool),
      (ports.foldl (fun acc port =>
        if portKey lower port = portKey lower wan then (acc.1, true)
        else (acc.1 ++ [port], acc.2)) (kept, found)).1 =
        kept ++ ports.filter (fun port => decide (portKey lower port ≠ portKey lower wan)) := by
    intro ports
    induction ports with
    | nil => simp
    | cons port ports ih =>
        intro kept found
        rw [List.foldl_cons]
        by_cases hport : portKey lower port = portKey lower wan
        · rw [if_pos hport, ih, List.filter_cons_of_neg (by simp [hport])]
        · rw [if_neg hport, ih, List.filter_cons_of_pos (by simp [hport]), List.append_assoc]
          rfl
  exact hloop ports [] false

end Ports

/-! ### The configuration commands -/

def identityCommands (config : ProvisioningConfig) : List GeneratedCommand :=
  match (given config.identities.1).or (given config.identities.2) with
  | some identity =>
      [optionalCommand ("/system/identity/set name=" ++ identity) "Setting system identity"]
  | none => []

def ntpCommands (config : ProvisioningConfig) (version : Option String) : List GeneratedCommand :=
  match config.ntpServers.getD (.list ["time.cloudflare.com", "time.google.com"]) with
  | .list (primary :: others) =>
      if isV7OrLater version then
        [optionalCommand ("/system/ntp/client/set enabled=yes servers=" ++
          ",".intercalate (primary :: others)) "Configuring NTP time synchronization (v7)"]
      else
        [optionalCommand ("/system/ntp/client/set enabled=yes primary-ntp=" ++ primary ++
          " secondary-ntp=" ++ others.head?.getD "time.google.com")
          "Configuring NTP time synchronization (v6)"]
  | _ => []

def clockCommand (config : ProvisioningConfig) (version : Option String) : GeneratedCommand :=
  let timezone := (given config.timezone).getD "Africa/Nairobi"
  if isV7OrLater version then
    optionalCommand ("/system/clock/set time-zone-name=" ++ timezone)
      ("Setting timezone to " ++ timezone ++ " (v7)")
  else
    optionalCommand "/system/clock/set time-zone-autodetect=yes" "Enabling timezone auto-detect (v6)"

/-- `_cleanup_commands`: the objects of a previous run, by their default names and comments. -/
def cleanupCommands : List GeneratedCommand :=
  [("Clearing active hotspot sessions", "/ip/hotspot/active/remove [find]"),
    ("Clearing stored hotspot MAC cookies", "/ip/hotspot/cookie/remove [find]"),
    ("Clearing tracked hotspot hosts", "/ip/hotspot/host/remove [find]"),
    ("Clearing previous hotspot server",
      "/ip/hotspot/remove [find interface=codevertex-bridge]"),
    ("Clearing previous hotspot profile",
      "/ip/hotspot/profile/remove [find name=codevertex-hsprof]"),
    ("Clearing previous hotspot ip-binding",
      "/ip/hotspot/ip-binding/remove [find comment~\"codevertex-gateway-bypass\"]"),
    ("Clearing previous PPPoE server",
      "/interface/pppoe-server/server/remove [find service-name~\"codevertex\"]"),
    ("Clearing previous PPP profile", "/ppp/profile/remove [find name~\"codevertex\"]"),
    ("Clearing previous PPP secrets", "/ppp/secret/remove [find comment~\"codevertex\"]"),
    ("Clearing previous walled-garden hosts",
      "/ip/hotspot/walled-garden/remove [find comment~\"codevertex-portal\"]"),
    ("Clearing previous walled-garden IPs",
      "/ip/hotspot/walled-garden/ip/remove [find comment~\"codevertex-portal\"]"),
    ("Clearing previous captive login.html", "/file/remove [find name=\"hotspot/login.html\"]"),
    ("Clearing previous captive alogin.html", "/file/remove [find name=\"hotspot/alogin.html\"]"),
    ("Clearing previous DHCP server", "/ip/dhcp-server/remove [find name=codevertex-dhcp]"),
    ("Clearing previous DHCP network",
      "/ip/dhcp-server/network/remove [find comment~\"codevertex-dhcp-network\"]"),
    ("Clearing previous IP pool", "/ip/pool/remove [find name=codevertex-pool]"),
    ("Clearing previous captive DNS entries",
      "/ip/dns/static/remove [find comment~\"codevertex-captive-portal-detection\"]"),
    ("Clearing previous DNS-redirect NAT",
      "/ip/firewall/nat/remove [find comment~\"codevertex-dns-redirect\"]"),
    ("Clearing previous masquerade NAT",
      "/ip/firewall/nat/remove [find comment~\"codevertex-masquerade\"]"),
    ("Clearing previous DoH-block filter",
      "/ip/firewall/filter/remove [find comment~\"codevertex-block-doh\"]"),
    ("Clearing previous anti-sharing rules",
      "/ip/firewall/mangle/remove [find comment~\"codevertex-anti-sharing\"]"),
    ("Clearing previous anti-sharing drop",
      "/ip/firewall/filter/remove [find comment~\"codevertex-anti-sharing\"]"),
    ("Clearing previous bridge IP", "/ip/address/remove [find interface=codevertex-bridge]"),
    ("Clearing previous bridge", "/interface/bridge/remove [find name=codevertex-bridge]")].map
    (fun c => optionalCommand (guarded c.2) c.1)

def bridgeCommand (bridge : String) : GeneratedCommand :=
  criticalCommand ("/interface/bridge/add name=" ++ bridge) ("Ensuring bridge " ++ bridge ++ " exists")
    (some ("/interface/bridge/remove [find name=" ++ bridge ++ "]"))

def portCommand (bridge port : String) : GeneratedCommand :=
  criticalCommand
    (guarded ("/interface/bridge/port/remove [find interface=" ++ port ++ "]") ++
      "; /interface/bridge/port/add interface=" ++ port ++ " bridge=" ++ bridge ++ " hw=no")
    ("Adding port " ++ port ++ " to bridge (hw=no: HW-offload bypasses the CPU, so the hotspot " ++
      "can't register clients as hosts → no captive intercept)")
    (some ("/interface/bridge/port/remove [find interface=" ++ port ++ "]"))

/-- The report that the WAN interface is not a port. -/
def wanWarning (wan : String) : GeneratedCommand :=
  optionalCommand "/system/identity/print"
    ("[WARN] WAN interface '" ++ wan ++
      "' was excluded from bridge ports to prevent network lockout")

/-- The commands that follow the bridge: its address, the pool, DNS, DHCP and NAT. -/
def networkCommands (config : ProvisioningConfig) (cidr : ℤ) (net : NetworkConfig) :
    List GeneratedCommand :=
  let bridge := config.bridge
  let pool := config.pool
  let gateway := config.gateway.getD net.gateway
  let address := gateway ++ "/" ++ toString cidr
  let range := config.ipPoolStart.getD net.poolStart ++ "-" ++ config.ipPoolEnd.getD net.poolEnd
  let dhcp := config.dhcpServerName.getD "codevertex-dhcp"
  let dns :=
    match config.dnsServers.getD (.list ["8.8.8.8", "8.8.4.4"]) with
    | .list servers => ",".intercalate servers
    | .text servers => servers
  [criticalCommand ("/ip/address/add address=" ++ address ++ " interface=" ++ bridge)
      ("Assigning gateway IP " ++ address ++ " to bridge")
      (some ("/ip/address/remove [find address=" ++ address ++ "]")),
    criticalCommand ("/ip/pool/add name=" ++ pool ++ " ranges=" ++ range)
      ("Creating IP pool " ++ pool) (some ("/ip/pool/remove [find name=" ++ pool ++ "]")),
    optionalCommand ("/ip/dns/set servers=" ++ dns ++ " allow-remote-requests=yes")
      "Configuring DNS servers",
    criticalCommand ("/ip/dhcp-server/add name=" ++ dhcp ++ " interface=" ++ bridge ++
        " address-pool=" ++ pool ++ " disabled=no")
      ("Creating DHCP server on " ++ bridge)
      (some ("/ip/dhcp-server/remove [find name=" ++ dhcp ++ "]")),
    criticalCommand ("/ip/dhcp-server/network/add address=" ++ config.subnet ++ "/" ++
        toString cidr ++ " gateway=" ++ gateway ++ " dns-server=" ++ gateway ++
        " comment=codevertex-dhcp-network")
      "Configuring DHCP network parameters" none,
    criticalCommand ("/ip/firewall/nat/add chain=srcnat action=masquerade out-interface=" ++
        config.wan ++ " comment=codevertex-masquerade")
      ("Enabling NAT masquerade on " ++ config.wan) none]

/-- `generate_configuration_commands`. -/
def generateConfigurationCommands (lower : String → String) (config : ProvisioningConfig)
    (_serviceType : ServiceType) (version : Option String) : Option (List GeneratedCommand) := do
  let cidr ← config.cidrValue
  let net ← calculateNetworkConfig config.subnet cidr
  let ports := filterWanFromBridgePorts lower config.ports config.wan
  return identityCommands config ++ ntpCommands config version ++ [clockCommand config version] ++
    cleanupCommands ++ [bridgeCommand config.bridge] ++
    (if ports.2 then [wanWarning config.wan] else []) ++
    ports.1.map (portCommand config.bridge) ++ networkCommands config cidr net

/-! ### Hosts of the walled garden -/

/-- The host of a URL that starts here: `https?://([…]+)` for a class of characters. -/
def matchUrlHost (ok : Char → Bool) (cs : List Char) : Option String := do
  let rest ← (cs.dropPrefix? "https://".toList).or (cs.dropPrefix? "http://".toList)
  let host := rest.takeWhile ok
  if host = [] then none else some (String.ofList host)

/-- `re.search` for the host of a URL. -/
def searchUrlHost (ok : Char → Bool) : List Char → Option String
  | [] => none
  | c :: cs => (matchUrlHost ok (c :: cs)).or (searchUrlHost ok cs)

/-- `re.search(r'https?://([^:/]+)', url)`. -/
def urlHost (url : String) : Option String :=
  searchUrlHost (fun c => c != ':' && c != '/') url.toList

/-- A character of `[0-9.]`. -/
def isAddressChar (c : Char) : Bool := c.isDigit || c == '.'

/-- `re.search(r'https?://([0-9.]+)', url)`. -/
def urlAddress (url : String) : Option String := searchUrlHost isAddressChar url.toList

/-- `re.match(r'^[0-9.]+$', host)`; `$` also stands before a last newline. -/
def isNumericHost (host : String) : Bool :=
  let cs := host.toList
  let body := if cs.getLast? = some '\n' then cs.dropLast else cs
  !body.isEmpty && body.all isAddressChar

/-- The settings that the hotspot generator reads. -/
structure TreasurySettings where
  statusHost : String
  payPageUrl : String
deriving DecidableEq, Repr

/-- The hosts of the walled garden, and those of them that are also pinned by address. -/
structure WalledGarden where
  hosts : List String
  cloudHosts : List String
deriving DecidableEq, Repr

/-- A host that unauthenticated clients must reach is added once to each list. -/
def WalledGarden.allow (garden : WalledGarden) (host : String) : WalledGarden where
  hosts := if host ∈ garden.hosts then garden.hosts else garden.hosts ++ [host]
  cloudHosts :=
    if isNumericHost host = true ∨ host ∈ garden.cloudHosts then garden.cloudHosts
    else garden.cloudHosts ++ [host]

/-- The host of a server URL is allowed. -/
def WalledGarden.allowUrl (garden : WalledGarden) (url : String) : WalledGarden :=
  match urlHost url with
  | some host => garden.allow host
  | none => garden

/-- `payment_hosts`. -/
def paymentHosts : List String :=
  ["*.paystack.com", "*.paystack.co", "*.paystackcdn.com", "*.flutterwave.com", "*.mpesa.in",
    "*.safaricom.co.ke"]

/-- `s.strip()`. -/
def stripText (s : String) : String := String.ofList (strip s.toList)

/-- `captive_cloud_hosts`. -/
def captiveCloudHosts (settings : TreasurySettings) (config : ProvisioningConfig) : List String :=
  let status := stripText ((given config.treasuryStatusHost).getD
    ((given (some settings.statusHost)).getD "booksapi.codevertexafrica.com"))
  let ui := stripText ((given config.treasuryUiHost).getD
    ((urlHost settings.payPageUrl).getD "books.codevertexafrica.com"))
  (if status = "" then [] else [status]) ++ (if ui = "" ∨ ui = status then [] else [ui]) ++
    ["api.qrserver.com", "public-files-paystack-prod.s3.eu-west-1.amazonaws.com",
      "cdnjs.cloudflare.com", "s3-eu-west-1.amazonaws.com"]

/-- The walled garden of a session.  The module `re` is imported under `if billing_server`, and as a
local name: an API server without a billing server raises. -/
def walledGarden (settings : TreasurySettings) (config : ProvisioningConfig) :
    Option WalledGarden := do
  let garden : WalledGarden := ⟨config.walledGardenHosts.getD [], []⟩
  let garden ← match given config.billingServerUrl, given config.apiServerUrl with
    | none, none => some garden
    | none, some _ => none
    | some billing, none => some (garden.allowUrl billing)
    | some billing, some api => some ((garden.allowUrl billing).allowUrl api)
  return (captiveCloudHosts settings config).foldl WalledGarden.allow
    { garden with hosts := garden.hosts ++ paymentHosts }

def walledGardenAddresses (config : ProvisioningConfig) : List String :=
  let ips := config.walledGardenIps.getD []
  match (given config.billingServerUrl).bind urlAddress with
  | some ip => if ip ∈ ips then ips else ips ++ [ip]
  | none => ips

/-! ### The hotspot commands -/

/-- The certificates, and FTP for the upload of the templates. -/
def certificateCommands (config : ProvisioningConfig) : List GeneratedCommand :=
  let ca := config.hotspotCaCertName.getD "codevertex-ca"
  let cert := config.hotspotCertName.getD "codevertex-hotspot-cert"
  [optionalCommand "/ip/service/set ftp disabled=no" "Enabling FTP service for template upload",
    optionalCommand ("/certificate/add name=" ++ ca ++ " common-name=codevertex-ca " ++
      "key-usage=key-cert-sign,crl-sign key-size=2048 days-valid=3650")
      "Creating CA certificate for hotspot SSL",
    optionalCommand ("/certificate/sign [find name=" ++ ca ++ "]") "Self-signing CA certificate",
    optionalCommand ("/certificate/add name=" ++ cert ++ " common-name=" ++
      config.hotspotDnsName.getD "hotspot.local" ++ " key-size=2048 days-valid=3650")
      "Creating SSL certificate for hotspot captive portal",
    optionalCommand ("/certificate/sign [find name=" ++ cert ++ "] ca=" ++ ca)
      "Signing hotspot certificate with CA"]

def hotspotServerCommands (config : ProvisioningConfig) (net : NetworkConfig) :
    List GeneratedCommand :=
  let hotspot := config.hotspotName.getD "codevertex-hotspot"
  let profile := config.hotspotProfile.getD "codevertex-hsprof"
  [criticalCommand ("/ip/hotspot/profile/add name=" ++ profile ++ " hotspot-address=" ++
        config.gateway.getD net.gateway ++ " dns-name=" ++
        config.hotspotDnsName.getD "hotspot.local" ++ (" use-radius=no " ++
        "login-by=http-pap,http-chap,mac-cookie http-cookie-lifetime=1d split-user-domain=no"))
      ("Creating hotspot profile " ++ profile) none,
    optionalCommand
      (guarded ("/ip/hotspot/profile/set [find name=" ++ profile ++ "] ssl-certificate=none"))
      "Ensuring hotspot profile has NO ssl-certificate (HTTP-only captive)",
    criticalCommand ("/ip/hotspot/add name=" ++ hotspot ++ " interface=" ++ config.bridge ++
        " address-pool=" ++ config.pool ++ " profile=" ++ profile ++
        " addresses-per-mac=1 idle-timeout=5m keepalive-timeout=none disabled=no")
      ("Creating hotspot " ++ hotspot ++ " on " ++ config.bridge) none]

/-- The fetch of a template, if it has a URL. -/
def templateCommands (url : Option String) (file description : String) : List GeneratedCommand :=
  match given url with
  | some url =>
      [optionalCommand (guarded ("/tool/fetch url=\"" ++ url ++ "\" dst-path=hotspot/" ++ file ++
        " check-certificate=no")) description]
  | none => []

/-- The captive portal's pages, and the gateway's way around the hotspot. -/
def portalCommands (config : ProvisioningConfig) (net : NetworkConfig) : List GeneratedCommand :=
  let gateway := config.gateway.getD net.gateway
  templateCommands config.loginTemplateUrl "login.html"
    "Installing captive-portal login.html (external-redirect page)" ++
  templateCommands config.aloginTemplateUrl "alogin.html"
    "Installing captive-portal alogin.html (post-auth page)" ++
  [optionalCommand (guarded ("/ip/hotspot/profile/set [find name=" ++
      config.hotspotProfile.getD "codevertex-hsprof" ++ "] html-directory=hotspot"))
      "Activating captive-portal templates (html-directory=hotspot)",
    optionalCommand ("/ip/hotspot/ip-binding/add address=" ++ gateway ++
      " type=bypassed comment=codevertex-gateway-bypass")
      ("Bypassing gateway " ++ gateway ++ " from hotspot authentication")]

/-- `doh_providers`. -/
def dohProviders : List (String × String) :=
  [("8.8.8.8", "google-dns-1"), ("8.8.4.4", "google-dns-2"), ("1.1.1.1", "cloudflare-dns-1"),
    ("1.0.0.1", "cloudflare-dns-2"), ("9.9.9.9", "quad9-dns"), ("149.112.112.112", "quad9-dns-2"),
    ("208.67.222.222", "opendns-1"), ("208.67.220.220", "opendns-2")]

/-- A rule that redirects DNS queries to the router. -/
def dnsRedirectCommand (bridge protocol name : String) : GeneratedCommand :=
  optionalCommand ("/ip/firewall/nat/add chain=dstnat action=redirect to-ports=53 protocol=" ++
    protocol ++ " dst-port=53 in-interface=" ++ bridge ++ " comment=codevertex-dns-redirect")
    ("DNS redirect NAT rule (" ++ name ++ ") to force DNS through router")

/-- Queries go to the router, and not to a DNS-over-HTTPS provider. -/
def dnsCommands (bridge : String) : List GeneratedCommand :=
  [dnsRedirectCommand bridge "udp" "UDP", dnsRedirectCommand bridge "tcp" "TCP"] ++
  dohProviders.map (fun p =>
    optionalCommand ("/ip/firewall/address-list/add list=codevertex-doh-providers address=" ++ p.1 ++
      " comment=" ++ p.2) ("Adding DoH provider " ++ p.1 ++ " (" ++ p.2 ++ ") to address list")) ++
  [optionalCommand ("/ip/firewall/filter/add chain=forward action=reject " ++
      "reject-with=icmp-network-unreachable dst-address-list=codevertex-doh-providers " ++
      "protocol=tcp dst-port=443 in-interface=" ++ bridge ++ " comment=codevertex-block-doh")
      "Blocking DNS-over-HTTPS to prevent captive portal bypass"]

def walledGardenCommands (garden : WalledGarden) (addresses : List String) :
    List GeneratedCommand :=
  garden.hosts.map (fun host =>
    optionalCommand ("/ip/hotspot/walled-garden/add dst-host=\"" ++ host ++
      "\" action=allow comment=codevertex-portal") ("Allow unauthenticated access to " ++ host)) ++
  addresses.map (fun ip =>
    optionalCommand ("/ip/hotspot/walled-garden/ip/add dst-address=" ++ ip ++
      " action=accept comment=codevertex-portal") ("Allow unauthenticated access to IP " ++ ip)) ++
  garden.cloudHosts.map (fun host =>
    optionalCommand (guarded ("/ip/hotspot/walled-garden/ip/add dst-address=[:resolve \"" ++ host ++
      "\"] action=accept comment=codevertex-portal-ip"))
      ("Pin cloud host " ++ host ++ " to walled-garden by resolved IP (unauth HTTPS passthrough)"))

/-- The rules against sharing a connection. -/
def antiSharingCommands (config : ProvisioningConfig) : List GeneratedCommand :=
  if config.antiSharing.any id then
    [optionalCommand ("/ip/hotspot/set " ++ config.hotspotName.getD "codevertex-hotspot" ++
        " idle-timeout=5m") "Configure hotspot idle timeout for anti-sharing",
      optionalCommand ("/ip/firewall/mangle/add chain=forward action=change-ttl new-ttl=set:64 " ++
        "passthrough=yes ttl=equal:65 protocol=tcp dst-port=80,443,53 " ++
        "comment=codevertex-anti-sharing") "Anti-sharing TTL rule for TCP (HTTP/HTTPS/DNS)",
      optionalCommand ("/ip/firewall/mangle/add chain=forward action=change-ttl new-ttl=set:64 " ++
        "passthrough=yes ttl=equal:65 protocol=udp dst-port=53,67,68 " ++
        "comment=codevertex-anti-sharing") "Anti-sharing TTL rule for UDP (DNS/DHCP)",
      optionalCommand ("/ip/firewall/filter/add chain=forward action=drop ttl=equal:1 " ++
        "comment=codevertex-anti-sharing") "Block suspicious low-TTL packets"]
  else []

/-- `generate_hotspot_commands`. -/
def generateHotspotCommands (settings : TreasurySettings) (config : ProvisioningConfig)
    (_version : Option String) : Option (List GeneratedCommand) := do
  let net ← config.network
  let garden ← walledGarden settings config
  return certificateCommands config ++ hotspotServerCommands config net ++
    portalCommands config net ++ dnsCommands config.bridge ++
    walledGardenCommands garden (walledGardenAddresses config) ++ antiSharingCommands config

/-! ### The PPPoE commands -/

def pppoeServerCommands (config : ProvisioningConfig) (net : NetworkConfig) :
    List GeneratedCommand :=
  let service := config.serviceName.getD "codevertex-pppoe"
  let profile := config.pppProfileName.getD "codevertex-pppoe-profile"
  let gateway := config.gateway.getD net.gateway
  [criticalCommand ("/ppp/profile/add name=" ++ profile ++ " local-address=" ++ gateway ++
        " remote-address=" ++ config.pool ++ " dns-server=" ++ gateway)
      ("Creating PPP profile " ++ profile) none,
    criticalCommand ("/interface/pppoe-server/server/add service-name=" ++ service ++
        " interface=" ++ config.bridge ++ " default-profile=" ++ profile ++ " disabled=no")
      ("Enabling PPPoE server " ++ service ++ " on " ++ config.bridge) none]

/-- `generate_pppoe_commands`. -/
def generatePppoeCommands (config : ProvisioningConfig) (_version : Option String) :
    Option (List GeneratedCommand) := do
  let net ← config.network
  return pppoeServerCommands config net

end IspBilling
