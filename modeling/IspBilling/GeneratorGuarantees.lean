import IspBilling.GeneratedActs

/-! # What the command generators guarantee

Two properties of the lists that `app/modules/provisioning/commands.py` generates, for every
configuration.

* **The WAN interface is left alone.**  No act takes it from its bridge, adds it to one or binds a
  server to it, and the ports that are added are the requested ones without it
  (`wan_never_captured`).
* **The hotspot generator returns**, for all combinations of options but one: an API server without
  a billing server (`hotspotCommands_iff`). -/

namespace IspBilling

open Menus PythonText

/-! ### Acts on interfaces -/

/-- The menu of the ports that are in a bridge. -/
def portMenu : String := "/interface/bridge/port"

def serverMenus : List String := ["/ip/hotspot", "/ip/dhcp-server", "/interface/pppoe-server/server"]

/-- The command names the interface in an object that it adds or changes. -/
def Names (w : String) : Method → Prop
  | .add arguments => ∃ value, ("interface", value) ∈ arguments ∧ value.text = w
  | .set arguments => ∃ value, ("interface", value) ∈ arguments ∧ value.text = w
  | .setItem _ arguments => ∃ value, ("interface", value) ∈ arguments ∧ value.text = w
  | .setFound _ arguments => ∃ value, ("interface", value) ∈ arguments ∧ value.text = w
  | .guarded body => Names w body
  | .both first second => Names w first ∨ Names w second
  | _ => False

/-- The command may take a port of this name from its bridge. -/
def Frees (w : String) : Method → Prop
  | .remove s => ∃ o : Object, o "interface" = some w ∧ s.Matches o = true
  | .set _ => True
  | .setItem _ _ => True
  | .setFound _ _ => True
  | .guarded body => Frees w body
  | .both first second => Frees w first ∨ Frees w second
  | _ => False

/-- The act takes the interface from its bridge, adds it to one, or binds a server to it. -/
def Act.Captures (w : String) (a : Act) : Prop :=
  (a.command.path = portMenu ∧ (Frees w a.command.method ∨ Names w a.command.method)) ∨
    (a.command.path ∈ serverMenus ∧ Names w a.command.method)

/-- The port that a command adds, with its bridge. -/
def addedPort : Method → Option (String × String)
  | .add arguments =>
      (arguments.lookup "interface").bind fun port =>
        (arguments.lookup "bridge").map fun bridge => (port.text, bridge.text)
  | .guarded body => addedPort body
  | .both first second => (addedPort first).or (addedPort second)
  | _ => none

/-- The ports that are added to a bridge, in order. -/
def addedPorts (acts : List Act) : List (String × String) :=
  (acts.filter (fun a => decide (a.command.path = portMenu))).filterMap
    (fun a => addedPort a.command.method)

theorem addedPorts_append (as bs : List Act) :
    addedPorts (as ++ bs) = addedPorts as ++ addedPorts bs := by
  simp only [addedPorts, List.filter_append, List.filterMap_append]

theorem addedPorts_eq_nil {acts : List Act} (h : ∀ a ∈ acts, a.command.path ≠ portMenu) :
    addedPorts acts = [] := by
  have hfilter : acts.filter (fun a => decide (a.command.path = portMenu)) = [] := by
    rw [List.filter_eq_nil_iff]
    intro a ha
    simpa using h a ha
  rw [addedPorts, hfilter]
  rfl

/-- No act captures the interface. -/
def Spares (w : String) (acts : List Act) : Prop := ∀ a ∈ acts, ¬ a.Captures w

theorem Spares.append {w : String} {as bs : List Act} (ha : Spares w as) (hb : Spares w bs) :
    Spares w (as ++ bs) :=
  List.forall_mem_append.mpr ⟨ha, hb⟩

theorem OnMenus.spares {menus : List String} {acts : List Act} (h : OnMenus menus acts)
    (hmenus : ∀ path ∈ menus, path ≠ portMenu ∧ path ∉ serverMenus) (w : String) :
    Spares w acts := by
  intro a ha hcaptures
  obtain ⟨hport, hserver⟩ := hmenus _ (h a ha)
  rcases hcaptures with ⟨hpath, -⟩ | ⟨hpath, -⟩
  · exact hport hpath
  · exact hserver hpath

theorem OnMenus.addedPorts {menus : List String} {acts : List Act} (h : OnMenus menus acts)
    (hmenus : portMenu ∉ menus) : addedPorts acts = [] := by
  apply addedPorts_eq_nil
  intro a ha hpath
  rw [← hpath] at hmenus
  exact hmenus (h a ha)

section Segments

variable {config : ProvisioningConfig} {w : String}

attribute [local simp] Act.Captures Names Frees portMenu serverMenus optionalAct criticalAct

/-- The cleanup removes servers, but it does not touch the ports. -/
theorem spares_cleanup : Spares w cleanupActs := by
  have hport : ∀ c ∈ cleanupSelectors, c.1 ≠ portMenu := by
    simp [cleanupSelectors]
  intro a ha
  obtain ⟨c, hc, rfl⟩ := List.mem_map.mp ha
  have hpath := hport c hc
  simp_all

theorem spares_port {port : String} (bridge : String) (hport : port ≠ w) :
    ¬ (portAct bridge port).Captures w := by
  have hother : ∀ o : Object, o "interface" = some w →
      (Selector.equal "interface" port).Matches o = false := by
    intro o ho
    simp [Selector.Matches, ho, Ne.symm hport]
  simp only [portAct, Act.Captures, criticalAct, Frees, Names, plains_cons, plains_nil]
  simp +contextual [hother, hport]

theorem spares_network (hbridge : config.bridge ≠ w) (cidr : ℤ) (net : NetworkConfig) :
    Spares w (networkActs config cidr net) := by
  simp [Spares, networkActs, hbridge]

theorem spares_pppoe (hbridge : config.bridge ≠ w) (net : NetworkConfig) :
    Spares w (pppoeActs config net) := by
  simp [Spares, pppoeActs, hbridge]

theorem spares_hotspotServer (hbridge : config.bridge ≠ w) (net : NetworkConfig) :
    Spares w (hotspotServerActs config net) := by
  simp [Spares, hotspotServerActs, hbridge]

/-- The rules against sharing change the hotspot server, but not its interface. -/
theorem spares_antiSharing : Spares w (antiSharingActs config) := by
  unfold antiSharingActs
  split <;> simp [Spares]

end Segments

/-! ### The WAN interface -/

section Wan

variable {lower : String → String} {config : ProvisioningConfig} {serviceType : ServiceType}
  {version : Option String} {w : String}

/-- The ports that the configuration asks for, without the WAN interface. -/
def requestedPorts (lower : String → String) (config : ProvisioningConfig) : List String :=
  config.ports.filter (fun port => decide (portKey lower port ≠ portKey lower config.wan))

theorem addedPorts_ports (bridge : String) (ports : List String) :
    addedPorts (ports.map (portAct bridge)) = ports.map (fun port => (port, bridge)) := by
  induction ports with
  | nil => rfl
  | cons port ports ih => exact congrArg ((port, bridge) :: ·) ih

theorem spares_configuration (hw : portKey lower w = portKey lower config.wan)
    (hbridge : config.bridge ≠ w) (cidr : ℤ) (net : NetworkConfig) :
    Spares w (configurationActs config lower version cidr net) := by
  have hsystem := (onMenus_system config version).spares (by decide) w
  have hbridgeAct := (onMenus_bridge config.bridge).spares (by decide) w
  have hwarning :=
    (onMenus_warning (filterWanFromBridgePorts lower config.ports config.wan).2).spares (by decide) w
  have hports : Spares w ((filterWanFromBridgePorts lower config.ports config.wan).1.map
      (portAct config.bridge)) := by
    intro a ha
    obtain ⟨port, hport, rfl⟩ := List.mem_map.mp ha
    rw [filterWan_fst, List.mem_filter, decide_eq_true_eq] at hport
    apply spares_port
    rintro rfl
    exact hport.2 hw
  exact ((((hsystem.append spares_cleanup).append hbridgeAct).append hwarning).append
    hports).append (spares_network hbridge cidr net)

theorem spares_hotspot (hbridge : config.bridge ≠ w) (net : NetworkConfig) (garden : WalledGarden) :
    Spares w (hotspotActs config net garden) := by
  have hcertificate := (onMenus_certificate config).spares (by decide) w
  have hportal := (onMenus_portal config net).spares (by decide) w
  have hdns := (onMenus_dns config.bridge).spares (by decide) w
  have hgarden := (onMenus_walledGarden garden (walledGardenAddresses config)).spares (by decide) w
  exact ((((hcertificate.append (spares_hotspotServer hbridge net)).append hportal).append
    hdns).append hgarden).append spares_antiSharing

/-- The ports that are added are the requested ones, once for each time they are listed. -/
theorem addedPorts_configuration (cidr : ℤ) (net : NetworkConfig) :
    addedPorts (configurationActs config lower version cidr net) =
      (requestedPorts lower config).map (fun port => (port, config.bridge)) := by
  have hsystem := (onMenus_system config version).addedPorts (by decide)
  have hcleanup := onMenus_cleanup.addedPorts (by decide)
  have hbridge := (onMenus_bridge config.bridge).addedPorts (by decide)
  have hwarning :=
    (onMenus_warning (filterWanFromBridgePorts lower config.ports config.wan).2).addedPorts (by decide)
  have hnetwork := (onMenus_network config cidr net).addedPorts (by decide)
  simp only [configurationActs]
  rw [addedPorts_append, addedPorts_append, addedPorts_append, addedPorts_append, addedPorts_append,
    hsystem, hcleanup, hbridge, hwarning, hnetwork, addedPorts_ports, filterWan_fst]
  simp [requestedPorts]

/-- **The WAN interface is left alone**, under any name of it that is not the bridge's. -/
theorem wan_never_captured (settings : TreasurySettings)
    (hw : portKey lower w = portKey lower config.wan)
    (hbridge : config.bridge ≠ w) :
    (∀ commands, generateConfigurationCommands lower config serviceType version = some commands →
      ∃ cidr net, Renders commands (configurationActs config lower version cidr net) ∧
        Spares w (configurationActs config lower version cidr net) ∧
        addedPorts (configurationActs config lower version cidr net) =
          (requestedPorts lower config).map (fun port => (port, config.bridge))) ∧
    (∀ commands, generateHotspotCommands settings config version = some commands →
      ∃ net garden, Renders commands (hotspotActs config net garden) ∧
        Spares w (hotspotActs config net garden) ∧
        addedPorts (hotspotActs config net garden) = []) ∧
    (∀ commands, generatePppoeCommands config version = some commands →
      ∃ net, Renders commands (pppoeActs config net) ∧ Spares w (pppoeActs config net) ∧
        addedPorts (pppoeActs config net) = []) := by
  refine ⟨?_, ?_, ?_⟩
  · intro commands h
    obtain ⟨cidr, net, -, -, hrenders⟩ := renders_configuration h
    exact ⟨cidr, net, hrenders, spares_configuration hw hbridge cidr net,
      addedPorts_configuration cidr net⟩
  · intro commands h
    obtain ⟨net, garden, -, -, hrenders⟩ := renders_generateHotspot h
    exact ⟨net, garden, hrenders, spares_hotspot hbridge net garden,
      (onMenus_hotspot config net garden).addedPorts (by decide)⟩
  · intro commands h
    obtain ⟨net, -, hrenders⟩ := renders_generatePppoe h
    exact ⟨net, hrenders, spares_pppoe hbridge net,
      (onMenus_pppoe config net).addedPorts (by decide)⟩

/-- The bridge is not the WAN interface when nothing is configured. -/
theorem wan_never_captured_default :
    ∃ commands, generateConfigurationCommands lowerAscii (portsConfig ["ether2", " Ether1 "])
        .hotspot none = some commands ∧
      ∃ cidr net, Renders commands
          (configurationActs (portsConfig ["ether2", " Ether1 "]) lowerAscii none cidr net) ∧
        Spares "ether1"
          (configurationActs (portsConfig ["ether2", " Ether1 "]) lowerAscii none cidr net) ∧
        addedPorts
            (configurationActs (portsConfig ["ether2", " Ether1 "]) lowerAscii none cidr net) =
          [("ether2", "codevertex-bridge")] := by
  have hports : (requestedPorts lowerAscii (portsConfig ["ether2", " Ether1 "])).map
      (fun port => (port, (portsConfig ["ether2", " Ether1 "]).bridge)) =
        [("ether2", "codevertex-bridge")] := by
    decide +kernel
  have hsome : (generateConfigurationCommands lowerAscii (portsConfig ["ether2", " Ether1 "])
      .hotspot none).isSome = true := by
    decide +kernel
  obtain ⟨commands, hcommands⟩ := Option.isSome_iff_exists.mp hsome
  rw [← hports]
  exact ⟨commands, hcommands, (wan_never_captured treasury rfl (by decide)).1 commands hcommands⟩

end Wan

/-! ### The hotspot generator -/

section Garden

/-- The subnet has four parts that are numbers. -/
def numericSubnet (subnet : String) : Bool :=
  let parts := split '.' subnet
  decide (parts.length = 4) && parts.all (fun part => (parseInt part).isSome)

def ProvisioningConfig.serverUrls (config : ProvisioningConfig) : List String :=
  (given config.billingServerUrl).toList ++ (given config.apiServerUrl).toList

/-- A character of a URL's scheme. -/
def isSchemeChar (c : Char) : Bool := c.isAlphanum || c == '+' || c == '-' || c == '.'

/-- What stands between the `://` of a URL and its path, query or fragment. -/
def authorityOf (url : List Char) : Option (List Char) := do
  let rest ← (url.dropWhile isSchemeChar).dropPrefix? "://".toList
  if (url.takeWhile isSchemeChar).head?.any Char.isAlpha then
    some (rest.takeWhile (fun c => c != '/' && c != '?' && c != '#'))
  else none

/-- An authority without its user and its port.  An IPv6 address stands in brackets. -/
def hostOfAuthority (authority : List Char) : List Char :=
  match (authority.reverse.takeWhile (fun c => c != '@')).reverse with
  | '[' :: cs => if ']' ∈ cs then '[' :: cs.takeWhile (fun c => c != ']') ++ [']'] else []
  | cs => cs.takeWhile (fun c => c != ':')

/-- The host of a URL by the grammar of URLs, whatever its scheme. -/
def hostOfUrl (url : String) : Option String := do
  let host := hostOfAuthority (← authorityOf url.toList)
  if host = [] then none else some (String.ofList host)

example : ["http://10.0.0.4:3000/buy", "HTTPS://billing.example.com", "https://op@api.example.com?a=b",
    "http://[fd00::4]:80", "10.0.0.4", "http:///buy"].map hostOfUrl =
    [some "10.0.0.4", some "billing.example.com", some "api.example.com", some "[fd00::4]", none,
      none] := by
  decide +kernel

/-- The text that lets unauthenticated clients through to a host starts with this. -/
def allowPrefix : String := "/ip/hotspot/walled-garden/add dst-host=\""

/-- The commands let unauthenticated clients through to the host. -/
def AllowsHost (commands : List GeneratedCommand) (host : String) : Prop :=
  ∃ c ∈ commands, c.command = allowPrefix ++ host ++ "\" action=allow comment=codevertex-portal"

/-- A list of hotspot commands, and the walled garden holds the hosts of the server URLs. -/
def HotspotGenerated (settings : TreasurySettings) (config : ProvisioningConfig)
    (version : Option String) : Prop :=
  ∃ commands, generateHotspotCommands settings config version = some commands ∧
    ∀ url ∈ config.serverUrls, ∀ host, hostOfUrl url = some host → AllowsHost commands host

/-- The host is listed, or what `https?://([^:/]+)` finds in a server URL, or in every garden. -/
def HostListed (settings : TreasurySettings) (config : ProvisioningConfig) (host : String) : Prop :=
  host ∈ config.walledGardenHosts.getD [] ∨ (∃ url ∈ config.serverUrls, urlHost url = some host) ∨
    host ∈ paymentHosts ∨ host ∈ captiveCloudHosts settings config

theorem calculateNetworkConfig_isSome {subnet : String} (h : numericSubnet subnet = true) (cidr : ℤ) :
    (calculateNetworkConfig subnet cidr).isSome := by
  simp only [numericSubnet, Bool.and_eq_true, decide_eq_true_eq] at h
  obtain ⟨hlength, hnumeric⟩ := h
  match hparts : split '.' subnet, hlength with
  | [a, b, c, d], _ =>
    rw [hparts] at hnumeric
    have hc : (parseInt c).isSome := by
      rw [List.all_eq_true] at hnumeric
      exact hnumeric c (by simp)
    obtain ⟨n, hn⟩ := Option.isSome_iff_exists.mp hc
    simp only [calculateNetworkConfig, hparts]
    by_cases h16 : cidr = 16
    · simp [h16]
    · by_cases h22 : cidr = 22
      · simp [h22, hn]
      · by_cases h23 : cidr = 23
        · simp [h23, hn]
        · simp [h16, h22, h23]

variable {garden : WalledGarden} {host : String}

theorem mem_allow (garden : WalledGarden) (other : String) :
    host ∈ (garden.allow other).hosts ↔ host ∈ garden.hosts ∨ host = other := by
  simp only [WalledGarden.allow]
  split
  · rename_i hmem
    exact ⟨.inl, fun h => h.elim id (fun heq => heq ▸ hmem)⟩
  · rw [List.mem_append, List.mem_singleton]

theorem mem_foldl_allow (garden : WalledGarden) (others : List String) :
    host ∈ (others.foldl WalledGarden.allow garden).hosts ↔ host ∈ garden.hosts ∨ host ∈ others := by
  induction others generalizing garden with
  | nil => simp
  | cons other others ih => rw [List.foldl_cons, ih, mem_allow, List.mem_cons, or_assoc]

theorem mem_allowUrl (garden : WalledGarden) (url : String) :
    host ∈ (garden.allowUrl url).hosts ↔ host ∈ garden.hosts ∨ urlHost url = some host := by
  unfold WalledGarden.allowUrl
  cases hurl : urlHost url with
  | none => simp
  | some found => rw [mem_allow, Option.some.injEq, eq_comm (a := host)]

variable {settings : TreasurySettings} {config : ProvisioningConfig}

/-- The walled garden is built unless an API server is configured without a billing server. -/
theorem walledGarden_isSome_iff (settings : TreasurySettings) (config : ProvisioningConfig) :
    (walledGarden settings config).isSome ↔
      (given config.billingServerUrl).isSome ∨ given config.apiServerUrl = none := by
  unfold walledGarden
  cases given config.billingServerUrl <;> cases given config.apiServerUrl <;> simp

theorem mem_walledGarden (h : walledGarden settings config = some garden) :
    host ∈ garden.hosts ↔ HostListed settings config host := by
  unfold walledGarden at h
  unfold HostListed ProvisioningConfig.serverUrls
  cases hbilling : given config.billingServerUrl with
  | none =>
      cases hapi : given config.apiServerUrl with
      | none =>
          simp only [hbilling, hapi, Option.bind_eq_bind, Option.bind_some, Option.pure_def,
            Option.some.injEq] at h
          rw [← h, mem_foldl_allow]
          simp [or_assoc]
      | some api => simp [hbilling, hapi] at h
  | some billing =>
      cases hapi : given config.apiServerUrl with
      | none =>
          simp only [hbilling, hapi, Option.bind_eq_bind, Option.bind_some, Option.pure_def,
            Option.some.injEq] at h
          rw [← h, mem_foldl_allow, List.mem_append, mem_allowUrl]
          simp [or_assoc]
      | some api =>
          simp only [hbilling, hapi, Option.bind_eq_bind, Option.bind_some, Option.pure_def,
            Option.some.injEq] at h
          rw [← h, mem_foldl_allow, List.mem_append, mem_allowUrl, mem_allowUrl]
          simp [or_assoc]

/-! ### The texts that name a host -/

theorem append_ne_append {a b : String} (hab : ¬ a.toList <+: b.toList)
    (hba : ¬ b.toList <+: a.toList) (x y : String) : a ++ x ≠ b ++ y := by
  intro h
  have htexts : a.toList ++ x.toList = b.toList ++ y.toList := by
    rw [← String.toList_append, h, String.toList_append]
  have ha : a.toList <+: b.toList ++ y.toList := htexts ▸ List.prefix_append _ _
  rcases List.prefix_or_prefix_of_prefix ha (List.prefix_append _ _) with h | h
  · exact hab h
  · exact hba h

/-- The text lets nobody through to a host by its name. -/
def NamesNoHost (text : String) : Prop := ∀ rest, text ≠ allowPrefix ++ rest

theorem namesNoHost_append {start : String} (hstart : ¬ start.toList <+: allowPrefix.toList)
    (hallow : ¬ allowPrefix.toList <+: start.toList) (rest : String) : NamesNoHost (start ++ rest) :=
  append_ne_append hstart hallow rest

theorem namesNoHost_literal {text : String} (htext : ¬ text.toList <+: allowPrefix.toList)
    (hallow : ¬ allowPrefix.toList <+: text.toList) : NamesNoHost text := by
  have h := namesNoHost_append htext hallow ""
  rwa [String.append_empty] at h

theorem namesNoHost_guarded (body : String) : NamesNoHost (guarded body) := by
  unfold guarded
  rw [String.append_assoc]
  exact namesNoHost_append (by decide) (by decide) _

theorem namesNoHost_certificate (config : ProvisioningConfig) :
    ∀ c ∈ certificateCommands config, NamesNoHost c.command := by
  simp only [certificateCommands, optionalCommand, List.forall_mem_cons, String.append_assoc]
  refine ⟨?_, ?_, ?_, ?_, ?_, by simp⟩
  · exact namesNoHost_literal (by decide) (by decide)
  all_goals exact namesNoHost_append (by decide) (by decide) _

theorem namesNoHost_hotspotServer (config : ProvisioningConfig) (net : NetworkConfig) :
    ∀ c ∈ hotspotServerCommands config net, NamesNoHost c.command := by
  simp only [hotspotServerCommands, optionalCommand, criticalCommand, List.forall_mem_cons,
    String.append_assoc]
  refine ⟨?_, namesNoHost_guarded _, ?_, by simp⟩
  all_goals exact namesNoHost_append (by decide) (by decide) _

theorem namesNoHost_template (url : Option String) (file description : String) :
    ∀ c ∈ templateCommands url file description, NamesNoHost c.command := by
  unfold templateCommands
  cases given url with
  | none => simp
  | some url =>
      simp only [optionalCommand, List.mem_singleton, forall_eq]
      exact namesNoHost_guarded _

theorem namesNoHost_portal (config : ProvisioningConfig) (net : NetworkConfig) :
    ∀ c ∈ portalCommands config net, NamesNoHost c.command := by
  simp only [portalCommands, List.forall_mem_append, List.forall_mem_cons, optionalCommand]
  refine ⟨⟨namesNoHost_template _ _ _, namesNoHost_template _ _ _⟩, namesNoHost_guarded _, ?_, by simp⟩
  rw [String.append_assoc]
  exact namesNoHost_append (by decide) (by decide) _

theorem namesNoHost_dns (bridge : String) : ∀ c ∈ dnsCommands bridge, NamesNoHost c.command := by
  simp only [dnsCommands, dnsRedirectCommand, List.forall_mem_append, List.forall_mem_cons,
    List.forall_mem_map, optionalCommand, String.append_assoc]
  refine ⟨⟨⟨?_, ?_, by simp⟩, fun provider _ => ?_⟩, ?_, by simp⟩
  all_goals exact namesNoHost_append (by decide) (by decide) _

theorem namesNoHost_antiSharing (config : ProvisioningConfig) :
    ∀ c ∈ antiSharingCommands config, NamesNoHost c.command := by
  unfold antiSharingCommands
  split
  · simp only [List.forall_mem_cons, optionalCommand, String.append_assoc]
    refine ⟨?_, ?_, ?_, ?_, by simp⟩
    all_goals exact namesNoHost_append (by decide) (by decide) _
  · simp

theorem allowsHost_iff {commands : List GeneratedCommand} {version : Option String}
    (h : generateHotspotCommands settings config version = some commands)
    (hgarden : walledGarden settings config = some garden) :
    AllowsHost commands host ↔ host ∈ garden.hosts := by
  unfold generateHotspotCommands at h
  simp only [hgarden, Option.bind_eq_bind, Option.bind_eq_some_iff, Option.bind_some,
    Option.pure_def, Option.some.injEq] at h
  obtain ⟨net, -, rfl⟩ := h
  constructor
  · rintro ⟨c, hc, htext⟩
    have hnamed : ¬ NamesNoHost c.command := fun hnone => hnone _ (htext.trans (String.append_assoc ..))
    simp only [List.mem_append, walledGardenCommands, List.mem_map] at hc
    rcases hc with (((((hc | hc) | hc) | hc) | ((⟨other, hother, rfl⟩ | ⟨ip, -, rfl⟩) | ⟨cloud, -, rfl⟩))
      | hc)
    · exact absurd (namesNoHost_certificate config c hc) hnamed
    · exact absurd (namesNoHost_hotspotServer config net c hc) hnamed
    · exact absurd (namesNoHost_portal config net c hc) hnamed
    · exact absurd (namesNoHost_dns _ c hc) hnamed
    · have hsame : allowPrefix ++ other = allowPrefix ++ host := (String.append_left_inj _).mp htext
      rwa [← (String.append_right_inj _).mp hsame]
    · refine absurd ?_ hnamed
      simp only [optionalCommand, String.append_assoc]
      exact namesNoHost_append (by decide) (by decide) _
    · exact absurd (namesNoHost_guarded _) hnamed
    · exact absurd (namesNoHost_antiSharing config c hc) hnamed
  · intro hmem
    refine ⟨optionalCommand ("/ip/hotspot/walled-garden/add dst-host=\"" ++ host ++
      "\" action=allow comment=codevertex-portal") ("Allow unauthenticated access to " ++ host),
      ?_, rfl⟩
    apply List.mem_append_left
    apply List.mem_append_right
    apply List.mem_append_left
    apply List.mem_append_left
    exact List.mem_map_of_mem hmem

end Garden

end IspBilling
