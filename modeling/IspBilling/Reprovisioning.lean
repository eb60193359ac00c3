import IspBilling.GeneratorGuarantees

/-! # Provisioning a router again

The command list of a session, run twice in a row on one router.  The cleanup at its head names the
objects of the previous run by their default names, by the bridge `codevertex-bridge` and by
comments, and the adds name them by the configuration.

`Reprovisions`: the second run ends with the router of the first one, and none of its critical adds
meets an object of its name.  `reprovisions_iff` says for which configurations and routers this
holds.  Whether RouterOS refuses an object is up to the `Device`; what its documentation says of the
menus with names is `TellsApart`. -/

namespace IspBilling

open Menus

/-! ### A session on a router -/

def namedMenus : List String :=
  ["/interface/bridge", "/ip/pool", "/ip/dhcp-server", "/ip/hotspot/profile", "/ip/hotspot",
    "/ppp/profile"]

structure TellsApart (device : Device) : Prop where
  name : ∀ path ∈ namedMenus, "name" ∈ device.identity path
  service : "service-name" ∈ device.identity "/interface/pppoe-server/server"
  port : "interface" ∈ device.identity "/interface/bridge/port"
  certificate : device.identity "/certificate" = ["name"]
  addressList : device.identity "/ip/firewall/address-list" = ["list", "address"]

section Session

variable (config : ProvisioningConfig) (net : NetworkConfig) (garden : WalledGarden)

def serviceActs : ServiceType → List Act
  | .hotspot => hotspotActs config net garden
  | .pppoeServer => pppoeActs config net
  | .both => hotspotActs config net garden ++ pppoeActs config net
  | .bridge => hotspotActs config net garden ++ pppoeActs config net

def sessionActs (lower : String → String) (version : Option String) (cidr : ℤ)
    (serviceType : ServiceType) : List Act :=
  configurationActs config lower version cidr net ++ serviceActs config net garden serviceType

end Session

/-- The router after acts: one that fails leaves it as it is. -/
def runActs (device : Device) (acts : List Act) (store : Store) : Store :=
  exec device (acts.map Act.command) store

/-- The command adds an object, and one of its name is there. -/
def takesName : Method → List Object → Bool
  | .add arguments, os =>
      os.any (fun o => ["name", "service-name"].any (fun key =>
        (arguments.lookup key).any (fun value => decide (o key = some value.text))))
  | .guarded body, os => takesName body os
  | .both first second, os => takesName first os || takesName second os
  | _, _ => false

/-- No critical add of the acts meets an object of its name. -/
def NoNameTaken (device : Device) : List Act → Store → Prop
  | [], _ => True
  | a :: acts, store =>
      (a.critical = true → takesName a.command.method (store a.command.path) = false) ∧
        NoNameTaken device acts (a.command.apply device store)

/-- **Provisioning again changes nothing**, and its critical adds do not meet objects of their
names. -/
structure Reprovisions (device : Device) (acts : List Act) (store : Store) : Prop where
  same : runActs device acts (runActs device acts store) = runActs device acts store
  free : NoNameTaken device acts (runActs device acts store)

/-! ### Runs of acts -/

section Runs

variable {device : Device} {acts bs : List Act} {store : Store} {path : String}

theorem runActs_append (acts bs : List Act) (store : Store) :
    runActs device (acts ++ bs) store = runActs device bs (runActs device acts store) := by
  unfold runActs
  rw [List.map_append, exec_append]

/-- The methods of the acts on a menu. -/
def actsAt (path : String) (acts : List Act) : List Method := methodsAt path (acts.map Act.command)

theorem actsAt_append (path : String) (acts bs : List Act) :
    actsAt path (acts ++ bs) = actsAt path acts ++ actsAt path bs := by
  unfold actsAt
  rw [List.map_append, methodsAt_append]

theorem mem_actsAt {m : Method} : m ∈ actsAt path acts ↔
    ∃ a ∈ acts, a.command.path = path ∧ a.command.method = m := by
  simp [actsAt, methodsAt, and_assoc]

theorem runActs_at (acts : List Act) (store : Store) (path : String) :
    runActs device acts store path = execMenu device path (actsAt path acts) (store path) :=
  exec_at ..

theorem OnMenus.actsAt_eq_nil {menus : List String} (h : OnMenus menus acts) (hpath : path ∉ menus) :
    actsAt path acts = [] := by
  rw [List.eq_nil_iff_forall_not_mem]
  intro m hm
  obtain ⟨a, ha, rfl, -⟩ := mem_actsAt.mp hm
  exact hpath (h a ha)

theorem OnMenus.runActs_eq {menus : List String} (h : OnMenus menus acts) (hpath : path ∉ menus)
    (store : Store) : runActs device acts store path = store path := by
  rw [runActs_at, h.actsAt_eq_nil hpath]
  rfl

theorem noNameTaken_append : NoNameTaken device (acts ++ bs) store ↔
    NoNameTaken device acts store ∧ NoNameTaken device bs (runActs device acts store) := by
  induction acts generalizing store with
  | nil => exact (true_and _).symm.to_iff
  | cons a acts ih =>
      rw [List.cons_append, NoNameTaken, NoNameTaken, ih, and_assoc]
      rfl

theorem noNameTaken_of_forall
    (h : ∀ a ∈ acts, a.critical = true → ∀ os, takesName a.command.method os = false)
    (store : Store) : NoNameTaken device acts store := by
  induction acts generalizing store with
  | nil => trivial
  | cons a acts ih =>
      rw [List.forall_mem_cons] at h
      exact ⟨fun ha => h.1 ha _, ih h.2 _⟩

end Runs

/-! ### Names in use -/

section Names

variable {device : Device} {store : Store} {path : String}

/-- No object has this value of the attribute. -/
def Free (key value : String) (os : List Object) : Prop := ∀ o ∈ os, o key ≠ some value

theorem takesName_add (arguments : List (String × Value)) (os : List Object) :
    takesName (.add arguments) os = false ↔
      (∀ value ∈ arguments.lookup "name", Free "name" value.text os) ∧
        ∀ value ∈ arguments.lookup "service-name", Free "service-name" value.text os := by
  cases hname : arguments.lookup "name" <;> cases hservice : arguments.lookup "service-name" <;>
    simp only [takesName, hname, hservice, Free, List.any_cons, List.any_nil, Option.any_none,
      Option.any_some, Bool.or_false, Bool.false_or, List.any_eq_false, Bool.or_eq_true,
      decide_eq_true_eq, not_or, forall_and, Option.mem_def, reduceCtorEq, Option.some.injEq,
      forall_eq', false_imp_iff, implies_true, and_true, true_and, Bool.false_eq_true,
      not_false_eq_true]

/-- What the cleanup removes from a menu. -/
def selectorsAt (path : String) : List Selector :=
  (cleanupSelectors.filter (fun c => decide (c.1 = path))).map Prod.snd

theorem mem_selectorsAt {s : Selector} : s ∈ selectorsAt path ↔ (path, s) ∈ cleanupSelectors := by
  simp [selectorsAt]

theorem actsAt_cleanup (path : String) :
    actsAt path cleanupActs = (selectorsAt path).map (fun s => .guarded (.remove s)) := by
  simp only [actsAt, methodsAt, cleanupActs, selectorsAt, List.map_map, List.filter_map]
  rfl

/-- The objects that the cleanup leaves in a menu. -/
def leftOver (store : Store) (path : String) : List Object :=
  unselected (selectorsAt path) (store path)

variable (config : ProvisioningConfig) (lower : String → String) (version : Option String)
  (cidr : ℤ) (net : NetworkConfig) (garden : WalledGarden)

theorem runActs_cleaned
    (hpath : path ∉ ["/system/identity"] ++ ["/system/ntp/client"] ++ ["/system/clock"]) :
    runActs device (identityActs config ++ ntpActs config version ++ [clockAct config version] ++
      cleanupActs) store path = leftOver store path := by
  rw [runActs_append, runActs_at, (onMenus_system config version).runActs_eq hpath, actsAt_cleanup,
    execMenu_removals]
  rfl

attribute [local simp] NoNameTaken takesName_add criticalAct optionalAct Command.apply
  List.lookup_cons Function.update_apply

theorem noNameTaken_network :
    NoNameTaken device (networkActs config cidr net) store ↔
      Free "name" config.pool (store "/ip/pool") ∧
        Free "name" (config.dhcpServerName.getD "codevertex-dhcp") (store "/ip/dhcp-server") := by
  simp [networkActs]

theorem noNameTaken_pppoe :
    NoNameTaken device (pppoeActs config net) store ↔
      Free "name" (config.pppProfileName.getD "codevertex-pppoe-profile") (store "/ppp/profile") ∧
        Free "service-name" (config.serviceName.getD "codevertex-pppoe")
          (store "/interface/pppoe-server/server") := by
  simp [pppoeActs]

theorem noNameTaken_hotspotServer :
    NoNameTaken device (hotspotServerActs config net) store ↔
      Free "name" (config.hotspotProfile.getD "codevertex-hsprof") (store "/ip/hotspot/profile") ∧
        Free "name" (config.hotspotName.getD "codevertex-hotspot") (store "/ip/hotspot") := by
  simp [hotspotServerActs]

theorem noNameTaken_of_optional {acts : List Act} (h : ∀ a ∈ acts, a.critical = false)
    (store : Store) : NoNameTaken device acts store := by
  apply noNameTaken_of_forall
  intro a ha hcritical
  rw [h a ha] at hcritical
  cases hcritical

/-- Only the profile and the server of the hotspot are critical. -/
theorem noNameTaken_hotspot :
    NoNameTaken device (hotspotActs config net garden) store ↔
      Free "name" (config.hotspotProfile.getD "codevertex-hsprof") (store "/ip/hotspot/profile") ∧
        Free "name" (config.hotspotName.getD "codevertex-hotspot") (store "/ip/hotspot") := by
  have hcertificate : ∀ a ∈ certificateActs config, a.critical = false := by simp [certificateActs]
  have htemplate : ∀ url file, ∀ a ∈ templateActs url file, a.critical = false := by
    intro url file
    unfold templateActs
    split <;> simp
  have hportal : ∀ a ∈ portalActs config net, a.critical = false := by
    refine List.forall_mem_append.mpr ⟨List.forall_mem_append.mpr ⟨htemplate _ _, htemplate _ _⟩, ?_⟩
    simp
  have hdns : ∀ a ∈ dnsActs config.bridge, a.critical = false := by
    refine List.forall_mem_append.mpr ⟨List.forall_mem_append.mpr ⟨?_, ?_⟩, ?_⟩
    · simp [dnsRedirectAct]
    · exact List.forall_mem_map.mpr fun _ _ => rfl
    · simp
  have hgarden : ∀ a ∈ walledGardenActs garden (walledGardenAddresses config),
      a.critical = false := by
    refine List.forall_mem_append.mpr ⟨List.forall_mem_append.mpr ⟨?_, ?_⟩, ?_⟩
    · exact List.forall_mem_map.mpr fun _ _ => rfl
    · exact List.forall_mem_map.mpr fun _ _ => rfl
    · exact List.forall_mem_map.mpr fun _ _ => rfl
  have hsharing : ∀ a ∈ antiSharingActs config, a.critical = false := by
    unfold antiSharingActs
    split <;> simp
  have hprofile : runActs device (certificateActs config) store "/ip/hotspot/profile" =
      store "/ip/hotspot/profile" := (onMenus_certificate config).runActs_eq (by decide) store
  have hserver : runActs device (certificateActs config) store "/ip/hotspot" =
      store "/ip/hotspot" := (onMenus_certificate config).runActs_eq (by decide) store
  unfold hotspotActs
  rw [noNameTaken_append, noNameTaken_append, noNameTaken_append, noNameTaken_append,
    noNameTaken_append, noNameTaken_hotspotServer, hprofile, hserver]
  have hquiet : ∀ acts : List Act, (∀ a ∈ acts, a.critical = false) →
      ∀ store, NoNameTaken device acts store ↔ True :=
    fun acts h store => iff_true_intro (noNameTaken_of_optional h store)
  rw [hquiet _ hcertificate, hquiet _ hportal, hquiet _ hdns, hquiet _ hgarden, hquiet _ hsharing]
  simp only [true_and, and_true]

/-- The service step sets up a hotspot. -/
def hasHotspot : ServiceType → Bool
  | .pppoeServer => false
  | _ => true

/-- The service step sets up a PPPoE server. -/
def hasPppoe : ServiceType → Bool
  | .hotspot => false
  | _ => true

theorem noNameTaken_service (serviceType : ServiceType) :
    NoNameTaken device (serviceActs config net garden serviceType) store ↔
      (hasHotspot serviceType = true →
        Free "name" (config.hotspotProfile.getD "codevertex-hsprof") (store "/ip/hotspot/profile") ∧
          Free "name" (config.hotspotName.getD "codevertex-hotspot") (store "/ip/hotspot")) ∧
      (hasPppoe serviceType = true →
        Free "name" (config.pppProfileName.getD "codevertex-pppoe-profile") (store "/ppp/profile") ∧
          Free "service-name" (config.serviceName.getD "codevertex-pppoe")
            (store "/interface/pppoe-server/server")) := by
  have hprofile : runActs device (hotspotActs config net garden) store "/ppp/profile" =
      store "/ppp/profile" := (onMenus_hotspot config net garden).runActs_eq (by decide) store
  have hserver : runActs device (hotspotActs config net garden) store
      "/interface/pppoe-server/server" = store "/interface/pppoe-server/server" :=
    (onMenus_hotspot config net garden).runActs_eq (by decide) store
  cases serviceType <;>
    simp [serviceActs, hasHotspot, hasPppoe, noNameTaken_append, noNameTaken_hotspot,
      noNameTaken_pppoe, hprofile, hserver]

/-- The first acts only set attributes. -/
theorem noNameTaken_system (store : Store) : NoNameTaken device
    (identityActs config ++ ntpActs config version ++ [clockAct config version]) store := by
  apply noNameTaken_of_optional
  refine List.forall_mem_append.mpr ⟨List.forall_mem_append.mpr ⟨?_, ?_⟩, ?_⟩
  · unfold identityActs
    split <;> simp
  · unfold ntpActs
    split
    · split <;> simp
    · simp
  · unfold clockAct
    split <;> simp

theorem noNameTaken_warning (found : Bool) (store : Store) :
    NoNameTaken device (if found then [warningAct] else []) store := by
  apply noNameTaken_of_optional
  cases found <;> simp [warningAct]

theorem noNameTaken_ports (bridge : String) (ports : List String) (store : Store) :
    NoNameTaken device (ports.map (portAct bridge)) store := by
  apply noNameTaken_of_forall
  refine List.forall_mem_map.mpr fun port _ _ os => ?_
  simp [portAct, takesName]

theorem runActs_bridged (found : Bool) (ports : List String) {path : String}
    (hpath : path ∉ ["/system/identity", "/system/ntp/client", "/system/clock",
      "/interface/bridge", "/interface/bridge/port"]) :
    runActs device (identityActs config ++ ntpActs config version ++ [clockAct config version] ++
      cleanupActs ++ [bridgeAct config.bridge] ++ (if found then [warningAct] else []) ++
      ports.map (portAct config.bridge)) store path = leftOver store path := by
  simp only [List.mem_cons, List.not_mem_nil, or_false, not_or] at hpath
  rw [runActs_append, runActs_append, runActs_append,
    (onMenus_ports config.bridge ports).runActs_eq (by simp [hpath]),
    (onMenus_warning found).runActs_eq (by simp [hpath]),
    (onMenus_bridge config.bridge).runActs_eq (by simp [hpath]),
    runActs_cleaned config version (by simp [hpath])]

theorem noNameTaken_configuration :
    NoNameTaken device (configurationActs config lower version cidr net) store ↔
      Free "name" config.bridge (leftOver store "/interface/bridge") ∧
        Free "name" config.pool (leftOver store "/ip/pool") ∧
        Free "name" (config.dhcpServerName.getD "codevertex-dhcp")
          (leftOver store "/ip/dhcp-server") := by
  have hcleanup : ∀ store, NoNameTaken device cleanupActs store :=
    noNameTaken_of_optional (List.forall_mem_map.mpr fun _ _ => rfl)
  have hbridge : ∀ store, NoNameTaken device [bridgeAct config.bridge] store ↔
      Free "name" config.bridge (store "/interface/bridge") := by
    simp [bridgeAct]
  simp only [configurationActs]
  rw [noNameTaken_append, noNameTaken_append, noNameTaken_append, noNameTaken_append,
    noNameTaken_append, noNameTaken_network, runActs_bridged config version _ _ (by decide),
    runActs_bridged config version _ _ (by decide), hbridge,
    runActs_cleaned config version (by decide)]
  simp only [noNameTaken_system, hcleanup, noNameTaken_warning, noNameTaken_ports, true_and,
    and_true]

/-- The menus that a configuration changes after its cleanup. -/
def configurationMenus : List String :=
  ["/system/identity", "/system/ntp/client", "/system/clock", "/interface/bridge",
    "/interface/bridge/port", "/ip/address", "/ip/pool", "/ip/dns", "/ip/dhcp-server",
    "/ip/dhcp-server/network", "/ip/firewall/nat"]

theorem actsAt_configuration (hpath : path ∉ configurationMenus) :
    actsAt path (configurationActs config lower version cidr net) =
      (selectorsAt path).map (fun s => .guarded (.remove s)) := by
  simp only [configurationMenus, List.mem_cons, List.not_mem_nil, or_false, not_or] at hpath
  simp only [configurationActs]
  rw [actsAt_append, actsAt_append, actsAt_append, actsAt_append, actsAt_append, actsAt_cleanup,
    (onMenus_system config version).actsAt_eq_nil (by simp [hpath]),
    (onMenus_network config cidr net).actsAt_eq_nil (by simp [hpath]),
    (onMenus_ports config.bridge _).actsAt_eq_nil (by simp [hpath]),
    (onMenus_warning _).actsAt_eq_nil (by simp [hpath]),
    (onMenus_bridge config.bridge).actsAt_eq_nil (by simp [hpath])]
  simp only [List.nil_append, List.append_nil]

theorem runActs_configuration (hpath : path ∉ configurationMenus) :
    runActs device (configurationActs config lower version cidr net) store path =
      leftOver store path := by
  rw [runActs_at, actsAt_configuration config lower version cidr net hpath, execMenu_removals]
  rfl

/-- **When no critical add meets its name**: the names are free once the cleanup is done. -/
theorem noNameTaken_session (serviceType : ServiceType) :
    NoNameTaken device (sessionActs config net garden lower version cidr serviceType) store ↔
      (Free "name" config.bridge (leftOver store "/interface/bridge") ∧
        Free "name" config.pool (leftOver store "/ip/pool") ∧
        Free "name" (config.dhcpServerName.getD "codevertex-dhcp")
          (leftOver store "/ip/dhcp-server")) ∧
      (hasHotspot serviceType = true →
        Free "name" (config.hotspotProfile.getD "codevertex-hsprof")
            (leftOver store "/ip/hotspot/profile") ∧
          Free "name" (config.hotspotName.getD "codevertex-hotspot")
            (leftOver store "/ip/hotspot")) ∧
      (hasPppoe serviceType = true →
        Free "name" (config.pppProfileName.getD "codevertex-pppoe-profile")
            (leftOver store "/ppp/profile") ∧
          Free "service-name" (config.serviceName.getD "codevertex-pppoe")
            (leftOver store "/interface/pppoe-server/server")) := by
  unfold sessionActs
  rw [noNameTaken_append, noNameTaken_configuration, noNameTaken_service]
  rw [runActs_configuration _ _ _ _ _ (by decide), runActs_configuration _ _ _ _ _ (by decide),
    runActs_configuration _ _ _ _ _ (by decide), runActs_configuration _ _ _ _ _ (by decide)]

end Names

/-! ### Menus after a run -/

section Menus

variable {device : Device} {store : Store} {path : String}
  (config : ProvisioningConfig) (lower : String → String) (version : Option String)
  (cidr : ℤ) (net : NetworkConfig) (garden : WalledGarden) (serviceType : ServiceType)

def serviceMenus : List String := hotspotMenus ++ ["/ppp/profile", "/interface/pppoe-server/server"]

theorem onMenus_service : OnMenus serviceMenus (serviceActs config net garden serviceType) := by
  have hhotspot := onMenus_hotspot config net garden
  have hpppoe := onMenus_pppoe config net
  cases serviceType with
  | hotspot => exact fun a ha => List.mem_append_left _ (hhotspot a ha)
  | pppoeServer => exact fun a ha => List.mem_append_right _ (hpppoe a ha)
  | both => exact hhotspot.append hpppoe
  | bridge => exact hhotspot.append hpppoe

/-- The acts that follow the cleanup. -/
def laterActs : List Act :=
  let ports := filterWanFromBridgePorts lower config.ports config.wan
  [bridgeAct config.bridge] ++ (if ports.2 then [warningAct] else []) ++
    ports.1.map (portAct config.bridge) ++ networkActs config cidr net ++
    serviceActs config net garden serviceType

theorem actsAt_session (path : String) :
    actsAt path (sessionActs config net garden lower version cidr serviceType) =
      actsAt path (identityActs config ++ ntpActs config version ++ [clockAct config version]) ++
        (selectorsAt path).map (fun s => .guarded (.remove s)) ++
        actsAt path (laterActs config lower cidr net garden serviceType) := by
  simp only [sessionActs, configurationActs, laterActs, actsAt_append, actsAt_cleanup,
    List.append_assoc]

/-- The menu is the same after two runs as after one. -/
def SameTwice (device : Device) (path : String) (acts : List Act) (os : List Object) : Prop :=
  execMenu device path (actsAt path acts) (execMenu device path (actsAt path acts) os) =
    execMenu device path (actsAt path acts) os

/-- The act touches nothing but what the cleanup finds in its menu. -/
def KeepsRest (device : Device) (store : Store) (a : Act) : Prop :=
  Keeps device a.command.path (selectorsAt a.command.path) (leftOver store a.command.path)
    a.command.method

theorem sameTwice_of_keepsRest
    (hpath : path ∉ ["/system/identity"] ++ ["/system/ntp/client"] ++ ["/system/clock"])
    (h : ∀ a ∈ laterActs config lower cidr net garden serviceType, a.command.path = path →
      KeepsRest device store a) :
    SameTwice device path (sessionActs config net garden lower version cidr serviceType)
      (store path) := by
  unfold SameTwice
  rw [actsAt_session, (onMenus_system config version).actsAt_eq_nil hpath, List.nil_append]
  apply execMenu_resets
  intro m hm
  obtain ⟨a, ha, rfl, rfl⟩ := mem_actsAt.mp hm
  exact h a ha rfl

end Menus

/-! ### Names that the cleanup finds -/

/-- The name contains `codevertex`. -/
def ContainsCodevertex (name : String) : Bool :=
  decide ("codevertex".toList <:+: name.toList)

/-- The objects of the session have names that its cleanup looks for, and no other interface has a
hotspot server of the session's name. -/
structure FoundByCleanup (config : ProvisioningConfig) (serviceType : ServiceType) (store : Store) :
    Prop where
  bridge : config.bridge = "codevertex-bridge"
  pool : config.pool = "codevertex-pool"
  dhcp : config.dhcpServerName.getD "codevertex-dhcp" = "codevertex-dhcp"
  profile : hasHotspot serviceType = true →
    config.hotspotProfile.getD "codevertex-hsprof" = "codevertex-hsprof"
  hotspot : hasHotspot serviceType = true → ∀ o ∈ store "/ip/hotspot",
    o "name" = some (config.hotspotName.getD "codevertex-hotspot") →
      o "interface" = some "codevertex-bridge"
  pppProfile : hasPppoe serviceType = true →
    ContainsCodevertex (config.pppProfileName.getD "codevertex-pppoe-profile") = true
  service : hasPppoe serviceType = true →
    ContainsCodevertex (config.serviceName.getD "codevertex-pppoe") = true

section Kept

variable {device : Device} {store : Store} {config : ProvisioningConfig} {cidr : ℤ}
  {net : NetworkConfig} {serviceType : ServiceType}

theorem keepsRest_add {path : String} {critical : Bool} {arguments : List (String × String)}
    (h : Selected (selectorsAt path) (Object.of arguments) = true) :
    KeepsRest device store ⟨critical, path, .add (plains arguments)⟩ := by
  apply keeps_add
  intro attributes hattributes
  rw [evalArguments_plains, Option.some.injEq] at hattributes
  rwa [← hattributes]

theorem selectorsAt_bridge :
    selectorsAt "/interface/bridge" = [.equal "name" "codevertex-bridge"] := by
  simp [selectorsAt, cleanupSelectors]

theorem selectorsAt_address :
    selectorsAt "/ip/address" = [.equal "interface" "codevertex-bridge"] := by
  simp [selectorsAt, cleanupSelectors]

theorem selectorsAt_pool : selectorsAt "/ip/pool" = [.equal "name" "codevertex-pool"] := by
  simp [selectorsAt, cleanupSelectors]

theorem selectorsAt_dhcp : selectorsAt "/ip/dhcp-server" = [.equal "name" "codevertex-dhcp"] := by
  simp [selectorsAt, cleanupSelectors]

theorem selectorsAt_profile :
    selectorsAt "/ip/hotspot/profile" = [.equal "name" "codevertex-hsprof"] := by
  simp [selectorsAt, cleanupSelectors]

theorem selectorsAt_hotspot :
    selectorsAt "/ip/hotspot" = [.equal "interface" "codevertex-bridge"] := by
  simp [selectorsAt, cleanupSelectors]

theorem selectorsAt_pppProfile : selectorsAt "/ppp/profile" = [.like "name" "codevertex"] := by
  simp [selectorsAt, cleanupSelectors]

theorem selectorsAt_service :
    selectorsAt "/interface/pppoe-server/server" = [.like "service-name" "codevertex"] := by
  simp [selectorsAt, cleanupSelectors]

theorem selected_like {path key value part : String} {o : Object} (ho : o key = some value)
    (hpart : part.toList <:+: value.toList) (h : Selector.like key part ∈ selectorsAt path) :
    Selected (selectorsAt path) o = true := by
  unfold Selected
  rw [List.any_eq_true]
  exact ⟨_, h, by simp [Selector.Matches, ho, hpart]⟩

theorem keepsRest_comment {path comment : String} {critical : Bool}
    {arguments : List (String × String)} (hcomment : arguments.lookup "comment" = some comment)
    (h : (path, Selector.like "comment" comment) ∈ cleanupSelectors) :
    KeepsRest device store ⟨critical, path, .add (plains arguments)⟩ :=
  keepsRest_add (selected_like hcomment (List.infix_refl _) (mem_selectorsAt.mpr h))

theorem keepsRest_network (h : FoundByCleanup config serviceType store) :
    ∀ a ∈ networkActs config cidr net, a.command.path ≠ "/ip/dns" → KeepsRest device store a := by
  simp only [networkActs, List.forall_mem_cons, List.not_mem_nil, false_imp_iff, implies_true,
    and_true]
  refine ⟨fun _ => keepsRest_add ?_, fun _ => keepsRest_add ?_, fun hdns => absurd rfl hdns,
    fun _ => keepsRest_add ?_, fun _ => keepsRest_comment rfl (by simp [cleanupSelectors]),
    fun _ => keepsRest_comment rfl (by simp [cleanupSelectors])⟩
  · simp [selectorsAt_address, Selected, Selector.Matches, Object.of, List.lookup_cons, h.bridge]
  · simp [selectorsAt_pool, Selected, Selector.Matches, Object.of, List.lookup_cons, h.pool]
  · simp [selectorsAt_dhcp, Selected, Selector.Matches, Object.of, List.lookup_cons, h.dhcp]

theorem keepsRest_bridge (h : FoundByCleanup config serviceType store) :
    KeepsRest device store (bridgeAct config.bridge) := by
  apply keepsRest_add
  simp [selectorsAt_bridge, Selected, Selector.Matches, Object.of, h.bridge]

theorem keepsRest_profile {profile : String} (hprofile : profile = "codevertex-hsprof")
    {arguments : List (String × String)} (harguments : arguments.lookup "name" = none) :
    KeepsRest device store (optionalAct "/ip/hotspot/profile"
      (.guarded (.setFound (.equal "name" profile) (plains arguments)))) := by
  subst hprofile
  intro os hos
  have hname : ∀ o : Object, (o.setAll arguments) "name" = o "name" := by
    intro o
    unfold Object.setAll
    rw [harguments]
    rfl
  have hstep : (Method.guarded (.setFound (.equal "name" "codevertex-hsprof")
      (plains arguments))).apply device "/ip/hotspot/profile" os =
        os.map (fun o => if (Selector.equal "name" "codevertex-hsprof").Matches o then
          o.setAll arguments else o) := by
    unfold Method.apply Method.step Method.step
    rw [evalArguments_plains]
    rfl
  show unselected _ ((Method.guarded _).apply device "/ip/hotspot/profile" os) = _
  rw [hstep]
  refine unselected_map hos ?_ ?_
  · intro o ho
    have hselected : Selected (selectorsAt "/ip/hotspot/profile") (o.setAll arguments) = true := by
      rw [selected_setAll]
      · exact ho
      · simp [selectorsAt_profile, Selector.Matches, hname]
    split
    · exact hselected
    · exact ho
  · intro o ho
    rw [if_neg]
    have hother : Selected (selectorsAt "/ip/hotspot/profile") o = false := (mem_unselected.mp ho).2
    simpa [Selected, selectorsAt_profile] using hother

theorem keepsRest_hotspotServer (h : FoundByCleanup config serviceType store)
    (hhotspot : hasHotspot serviceType = true) :
    ∀ a ∈ hotspotServerActs config net, KeepsRest device store a := by
  simp only [hotspotServerActs, List.forall_mem_cons, List.not_mem_nil, false_imp_iff,
    implies_true, and_true]
  refine ⟨keepsRest_add ?_, keepsRest_profile (h.profile hhotspot) rfl, keepsRest_add ?_⟩
  · simp [selectorsAt_profile, Selected, Selector.Matches, Object.of, List.lookup_cons,
      h.profile hhotspot]
  · simp [selectorsAt_hotspot, Selected, Selector.Matches, Object.of, List.lookup_cons, h.bridge]

/-- The files that a session downloads are removed by its cleanup. -/
theorem keepsRest_template {file : String} (hfile : file = "login.html" ∨ file = "alogin.html")
    (url : Option String) : ∀ a ∈ templateActs url file, KeepsRest device store a := by
  have hselectors : selectorsAt "/file" =
      [.quoted "name" "hotspot/login.html", .quoted "name" "hotspot/alogin.html"] := by
    simp [selectorsAt, cleanupSelectors]
  unfold templateActs
  split
  · rw [List.forall_mem_singleton]
    apply Keeps.guarded
    apply keeps_fetch
    intro o ho
    rcases hfile with rfl | rfl <;> simp [optionalAct, hselectors, Selected, Selector.Matches, ho]
  · exact fun a ha => absurd ha List.not_mem_nil

theorem keepsRest_portal (h : FoundByCleanup config serviceType store)
    (hhotspot : hasHotspot serviceType = true) :
    ∀ a ∈ portalActs config net, KeepsRest device store a := by
  refine List.forall_mem_append.mpr ⟨List.forall_mem_append.mpr
    ⟨keepsRest_template (.inl rfl) _, keepsRest_template (.inr rfl) _⟩, ?_⟩
  simp only [List.forall_mem_cons, List.not_mem_nil, false_imp_iff, implies_true, and_true]
  exact ⟨keepsRest_profile (h.profile hhotspot) rfl,
    keepsRest_comment rfl (by simp [cleanupSelectors])⟩

theorem keepsRest_dns (bridge : String) :
    ∀ a ∈ dnsActs bridge, a.command.path ≠ "/ip/firewall/address-list" →
      KeepsRest device store a := by
  refine List.forall_mem_append.mpr ⟨List.forall_mem_append.mpr ⟨?_, ?_⟩, ?_⟩
  · simp only [List.forall_mem_cons, List.not_mem_nil, false_imp_iff, implies_true, and_true]
    exact ⟨fun _ => keepsRest_comment rfl (by simp [cleanupSelectors]),
      fun _ => keepsRest_comment rfl (by simp [cleanupSelectors])⟩
  · exact List.forall_mem_map.mpr fun _ _ hpath => absurd rfl hpath
  · rw [List.forall_mem_singleton]
    exact fun _ => keepsRest_comment rfl (by simp [cleanupSelectors])

theorem keepsRest_walledGarden (garden : WalledGarden) (addresses : List String) :
    ∀ a ∈ walledGardenActs garden addresses, KeepsRest device store a := by
  refine List.forall_mem_append.mpr ⟨List.forall_mem_append.mpr ⟨?_, ?_⟩, ?_⟩
  · refine List.forall_mem_map.mpr fun host _ => ?_
    apply keeps_add
    intro attributes hattributes
    obtain rfl : [("dst-host", host), ("action", "allow"), ("comment", "codevertex-portal")] =
        attributes := Option.some.inj hattributes
    have hmem : Selector.like "comment" "codevertex-portal" ∈
        selectorsAt "/ip/hotspot/walled-garden" := mem_selectorsAt.mpr (by simp [cleanupSelectors])
    exact selected_like rfl (List.infix_refl _) hmem
  · exact List.forall_mem_map.mpr fun ip _ =>
      keepsRest_comment rfl (by simp [cleanupSelectors])
  · refine List.forall_mem_map.mpr fun host _ => ?_
    apply Keeps.guarded
    apply keeps_add
    intro attributes hattributes
    have heval : evalArguments device [("dst-address", .resolved host), ("action", .plain "accept"),
        ("comment", .plain "codevertex-portal-ip")] =
          (device.resolve host).map (fun ip => [("dst-address", ip), ("action", "accept"),
            ("comment", "codevertex-portal-ip")]) := by
      unfold evalArguments
      cases hresolve : device.resolve host <;> simp [Value.eval, hresolve]
    rw [heval, Option.map_eq_some_iff] at hattributes
    obtain ⟨ip, -, rfl⟩ := hattributes
    have hmem : Selector.like "comment" "codevertex-portal" ∈
        selectorsAt "/ip/hotspot/walled-garden/ip" :=
      mem_selectorsAt.mpr (by simp [cleanupSelectors])
    exact selected_like rfl (by decide +kernel) hmem

/-- The change of the hotspot server: no other interface has one of its name. -/
theorem keepsRest_antiSharing (h : FoundByCleanup config serviceType store)
    (hhotspot : hasHotspot serviceType = true) :
    ∀ a ∈ antiSharingActs config, KeepsRest device store a := by
  unfold antiSharingActs
  split
  · simp only [List.forall_mem_cons, List.not_mem_nil, false_imp_iff, implies_true, and_true]
    refine ⟨?_, keepsRest_comment rfl (by simp [cleanupSelectors]),
      keepsRest_comment rfl (by simp [cleanupSelectors]),
      keepsRest_comment rfl (by simp [cleanupSelectors])⟩
    intro os hos
    show unselected _ (os.map _) = _
    refine unselected_map hos ?_ ?_
    · intro o ho
      split
      · rw [selected_setAll]
        · exact ho
        · intro s hs
          have hs' : s ∈ selectorsAt "/ip/hotspot" := hs
          rw [selectorsAt_hotspot, List.mem_singleton] at hs'
          subst hs'
          rfl
      · exact ho
    · intro o ho
      obtain ⟨hmem, hother⟩ := mem_unselected.mp ho
      have hrest : Selected (selectorsAt "/ip/hotspot") o = false := hother
      rw [if_neg]
      intro hname
      have hinterface := h.hotspot hhotspot o hmem hname
      have hselected : Selected (selectorsAt "/ip/hotspot") o = true := by
        simp [selectorsAt_hotspot, Selected, Selector.Matches, hinterface]
      rw [hrest] at hselected
      cases hselected
  · exact fun a ha => absurd ha List.not_mem_nil

theorem keepsRest_pppoe (h : FoundByCleanup config serviceType store)
    (hpppoe : hasPppoe serviceType = true) :
    ∀ a ∈ pppoeActs config net, KeepsRest device store a := by
  simp only [pppoeActs, List.forall_mem_cons, List.not_mem_nil, false_imp_iff, implies_true,
    and_true]
  have hprofile : Selector.like "name" "codevertex" ∈ selectorsAt "/ppp/profile" :=
    mem_selectorsAt.mpr (by simp [cleanupSelectors])
  have hservice : Selector.like "service-name" "codevertex" ∈
      selectorsAt "/interface/pppoe-server/server" := mem_selectorsAt.mpr (by simp [cleanupSelectors])
  exact ⟨keepsRest_add (selected_like rfl (of_decide_eq_true (h.pppProfile hpppoe)) hprofile),
    keepsRest_add (selected_like rfl (of_decide_eq_true (h.service hpppoe)) hservice)⟩

end Kept

/-! ### Menus that the cleanup does not touch -/

section Untouched

variable {device : Device} (config : ProvisioningConfig) (lower : String → String)
  (version : Option String) (cidr : ℤ) (net : NetworkConfig) (garden : WalledGarden)
  (serviceType : ServiceType)

theorem actsAt_later (path : String) :
    actsAt path (laterActs config lower cidr net garden serviceType) =
      actsAt path [bridgeAct config.bridge] ++
        actsAt path (if (filterWanFromBridgePorts lower config.ports config.wan).2 then [warningAct]
          else []) ++
        actsAt path ((filterWanFromBridgePorts lower config.ports config.wan).1.map
          (portAct config.bridge)) ++
        actsAt path (networkActs config cidr net) ++
        actsAt path (serviceActs config net garden serviceType) := by
  simp only [laterActs, actsAt_append]

theorem sameTwice_of_set {path : String} {acts : List Act}
    (h : ∃ arguments, ∀ m ∈ actsAt path acts, m = .set (plains arguments) ∨ m = .print)
    (os : List Object) : SameTwice device path acts os := by
  obtain ⟨arguments, hset⟩ := h
  exact execMenu_set_twice (evalArguments_plains device arguments) hset os

theorem exists_set_identity : ∃ arguments, ∀ m ∈ actsAt "/system/identity" (identityActs config),
    m = .set (plains arguments) := by
  unfold identityActs
  cases (given config.identities.1).or (given config.identities.2) with
  | none => exact ⟨[], fun m hm => absurd hm List.not_mem_nil⟩
  | some identity => exact ⟨[("name", identity)], by simp [actsAt, methodsAt, optionalAct]⟩

theorem exists_set_ntp : ∃ arguments, ∀ m ∈ actsAt "/system/ntp/client" (ntpActs config version),
    m = .set (plains arguments) := by
  unfold ntpActs
  split
  · split
    · exact ⟨_, List.forall_mem_singleton.mpr rfl⟩
    · exact ⟨_, List.forall_mem_singleton.mpr rfl⟩
  · exact ⟨[], fun m hm => absurd hm List.not_mem_nil⟩

theorem exists_set_clock : ∃ arguments, ∀ m ∈ actsAt "/system/clock" [clockAct config version],
    m = .set (plains arguments) := by
  unfold clockAct
  split
  · exact ⟨_, List.forall_mem_singleton.mpr rfl⟩
  · exact ⟨_, List.forall_mem_singleton.mpr rfl⟩

theorem exists_set_dns : ∃ arguments, ∀ m ∈ actsAt "/ip/dns" (networkActs config cidr net),
    m = .set (plains arguments) :=
  ⟨_, List.forall_mem_singleton.mpr rfl⟩

theorem exists_set_system {path : String}
    (hpath : path ∈ ["/system/identity"] ++ ["/system/ntp/client"] ++ ["/system/clock"]) :
    ∃ arguments, ∀ m ∈ actsAt path
        (identityActs config ++ ntpActs config version ++ [clockAct config version]),
      m = .set (plains arguments) := by
  rw [actsAt_append, actsAt_append]
  simp only [List.mem_append, List.mem_singleton] at hpath
  rcases hpath with (rfl | rfl) | rfl
  · rw [(onMenus_ntp config version).actsAt_eq_nil (by decide),
      (onMenus_clock config version).actsAt_eq_nil (by decide), List.append_nil, List.append_nil]
    exact exists_set_identity config
  · rw [(onMenus_identity config).actsAt_eq_nil (by decide),
      (onMenus_clock config version).actsAt_eq_nil (by decide), List.nil_append, List.append_nil]
    exact exists_set_ntp config version
  · rw [(onMenus_identity config).actsAt_eq_nil (by decide),
      (onMenus_ntp config version).actsAt_eq_nil (by decide), List.nil_append, List.nil_append]
    exact exists_set_clock config version

theorem actsAt_warning (found : Bool) {path : String} :
    ∀ m ∈ actsAt path (if found then [warningAct] else []), m = .print := by
  intro m hm
  obtain ⟨a, ha, -, rfl⟩ := mem_actsAt.mp hm
  cases found with
  | false => exact absurd ha List.not_mem_nil
  | true =>
      rw [List.mem_singleton.mp ha]
      rfl

theorem sameTwice_system {path : String}
    (hpath : path ∈ ["/system/identity"] ++ ["/system/ntp/client"] ++ ["/system/clock"])
    (os : List Object) :
    SameTwice device path (sessionActs config net garden lower version cidr serviceType) os := by
  have hselectors : ∀ path ∈ ["/system/identity"] ++ ["/system/ntp/client"] ++ ["/system/clock"],
      selectorsAt path = [] := by
    simp [selectorsAt, cleanupSelectors]
  have hmenus : ∀ path ∈ ["/system/identity"] ++ ["/system/ntp/client"] ++ ["/system/clock"],
      path ∉ ["/interface/bridge"] ∧ path ∉ ["/interface/bridge/port"] ∧ path ∉ ["/ip/address",
        "/ip/pool", "/ip/dns", "/ip/dhcp-server", "/ip/dhcp-server/network", "/ip/firewall/nat"] ∧
        path ∉ serviceMenus := by
    simp [serviceMenus, hotspotMenus]
  obtain ⟨hbridge, hport, hnetwork, hservice⟩ := hmenus path hpath
  obtain ⟨arguments, hset⟩ := exists_set_system config version hpath
  refine sameTwice_of_set ⟨arguments, fun m hm => ?_⟩ os
  rw [actsAt_session, actsAt_later, hselectors path hpath,
    (onMenus_bridge config.bridge).actsAt_eq_nil hbridge,
    (onMenus_ports config.bridge _).actsAt_eq_nil hport,
    (onMenus_network config cidr net).actsAt_eq_nil hnetwork,
    (onMenus_service config net garden serviceType).actsAt_eq_nil hservice] at hm
  simp only [List.map_nil, List.nil_append, List.append_nil, List.mem_append] at hm
  rcases hm with hm | hm
  · exact .inl (hset m hm)
  · exact .inr (actsAt_warning _ m hm)

theorem actsAt_session_service {path : String} (hpath : path ∉ configurationMenus)
    (hselectors : selectorsAt path = []) :
    actsAt path (sessionActs config net garden lower version cidr serviceType) =
      actsAt path (serviceActs config net garden serviceType) := by
  unfold sessionActs
  rw [actsAt_append, actsAt_configuration config lower version cidr net hpath, hselectors]
  rfl

theorem actsAt_service_hotspot {path : String}
    (hpath : path ∉ ["/ppp/profile", "/interface/pppoe-server/server"]) :
    actsAt path (serviceActs config net garden serviceType) =
      if hasHotspot serviceType then actsAt path (hotspotActs config net garden) else [] := by
  have hpppoe := (onMenus_pppoe config net).actsAt_eq_nil hpath
  cases serviceType <;> simp [serviceActs, hasHotspot, actsAt_append, hpppoe]

theorem actsAt_service_pppoe {path : String} (hpath : path ∉ hotspotMenus) :
    actsAt path (serviceActs config net garden serviceType) =
      if hasPppoe serviceType then actsAt path (pppoeActs config net) else [] := by
  have hhotspot := (onMenus_hotspot config net garden).actsAt_eq_nil hpath
  cases serviceType <;> simp [serviceActs, hasPppoe, actsAt_append, hhotspot]

theorem sameTwice_dns (os : List Object) :
    SameTwice device "/ip/dns" (sessionActs config net garden lower version cidr serviceType) os := by
  have hselectors : selectorsAt "/ip/dns" = [] := by simp [selectorsAt, cleanupSelectors]
  obtain ⟨arguments, hset⟩ := exists_set_dns config cidr net
  refine sameTwice_of_set ⟨arguments, fun m hm => ?_⟩ os
  rw [actsAt_session, actsAt_later, hselectors,
    (onMenus_system config version).actsAt_eq_nil (by decide),
    (onMenus_bridge config.bridge).actsAt_eq_nil (by decide),
    (onMenus_warning _).actsAt_eq_nil (by decide),
    (onMenus_ports config.bridge _).actsAt_eq_nil (by decide),
    (onMenus_service config net garden serviceType).actsAt_eq_nil
        (by simp [serviceMenus, hotspotMenus])] at hm
  simp only [List.map_nil, List.nil_append, List.append_nil] at hm
  exact .inl (hset m hm)

theorem sameTwice_ports (hdevice : TellsApart device) (os : List Object) :
    SameTwice device "/interface/bridge/port"
      (sessionActs config net garden lower version cidr serviceType) os := by
  have hselectors : selectorsAt "/interface/bridge/port" = [] := by
    simp [selectorsAt, cleanupSelectors]
  have hports : ∀ ports : List String, actsAt "/interface/bridge/port"
      (ports.map (portAct config.bridge)) = ports.map (replace "interface" (fun port =>
        plains [("interface", port), ("bridge", config.bridge), ("hw", "no")])) := by
    intro ports
    induction ports with
    | nil => rfl
    | cons port ports ih => exact congrArg (_ :: ·) ih
  have hacts : actsAt "/interface/bridge/port"
      (sessionActs config net garden lower version cidr serviceType) =
        (filterWanFromBridgePorts lower config.ports config.wan).1.map
          (replace "interface" (fun port =>
            plains [("interface", port), ("bridge", config.bridge), ("hw", "no")])) := by
    rw [actsAt_session, actsAt_later, hselectors,
      (onMenus_system config version).actsAt_eq_nil (by decide),
      (onMenus_bridge config.bridge).actsAt_eq_nil (by decide),
      (onMenus_warning _).actsAt_eq_nil (by decide),
      (onMenus_network config cidr net).actsAt_eq_nil (by decide),
      (onMenus_service config net garden serviceType).actsAt_eq_nil
        (by simp [serviceMenus, hotspotMenus]), hports]
    simp only [List.map_nil, List.nil_append, List.append_nil]
  unfold SameTwice
  rw [hacts]
  exact execMenu_replace_twice hdevice.port (fun _ => evalArguments_plains device _)
    (fun _ => rfl) _ os

theorem sameTwice_hotspot {path : String} (hpath : path ∉ configurationMenus)
    (hselectors : selectorsAt path = [])
    (hpppoe : path ∉ ["/ppp/profile", "/interface/pppoe-server/server"]) {os : List Object}
    (h : SameTwice device path (hotspotActs config net garden) os) :
    SameTwice device path (sessionActs config net garden lower version cidr serviceType) os := by
  unfold SameTwice at h ⊢
  rw [actsAt_session_service config lower version cidr net garden serviceType hpath hselectors]
  rw [actsAt_service_hotspot config net garden serviceType hpppoe]
  split
  · exact h
  · rfl

theorem actsAt_hotspot (path : String) :
    actsAt path (hotspotActs config net garden) = actsAt path (certificateActs config) ++
      actsAt path (hotspotServerActs config net) ++ actsAt path (portalActs config net) ++
      actsAt path (dnsActs config.bridge) ++
      actsAt path (walledGardenActs garden (walledGardenAddresses config)) ++
      actsAt path (antiSharingActs config) := by
  simp only [hotspotActs, actsAt_append]

theorem actsAt_hotspot_certificate {path : String} (hpath : path ∈ ["/ip/service", "/certificate"]) :
    actsAt path (hotspotActs config net garden) = actsAt path (certificateActs config) := by
  have hmenus : ∀ path ∈ ["/ip/service", "/certificate"],
      path ∉ ["/ip/hotspot/profile", "/ip/hotspot"] ∧
      path ∉ ["/file"] ++ ["/file"] ++ ["/ip/hotspot/profile", "/ip/hotspot/ip-binding"] ∧
      path ∉ ["/ip/firewall/nat"] ++ ["/ip/firewall/address-list"] ++ ["/ip/firewall/filter"] ∧
      path ∉ ["/ip/hotspot/walled-garden"] ++ ["/ip/hotspot/walled-garden/ip"] ++
        ["/ip/hotspot/walled-garden/ip"] ∧
      path ∉ ["/ip/hotspot", "/ip/firewall/mangle", "/ip/firewall/filter"] := by
    simp
  obtain ⟨hserver, hportal, hdns, hgarden, hsharing⟩ := hmenus path hpath
  rw [actsAt_hotspot, (onMenus_hotspotServer config net).actsAt_eq_nil hserver,
    (onMenus_portal config net).actsAt_eq_nil hportal, (onMenus_dns config.bridge).actsAt_eq_nil hdns,
    (onMenus_walledGarden garden _).actsAt_eq_nil hgarden,
    (onMenus_antiSharing config).actsAt_eq_nil hsharing]
  simp only [List.append_nil]

theorem sameTwice_ftp (os : List Object) :
    SameTwice device "/ip/service" (sessionActs config net garden lower version cidr serviceType)
      os := by
  have hmenu : "/ip/service" ∉ configurationMenus := by simp [configurationMenus]
  have hselectors : selectorsAt "/ip/service" = [] := by simp [selectorsAt, cleanupSelectors]
  have hacts : actsAt "/ip/service" (certificateActs config) =
      [.setItem "ftp" (plains [("disabled", "no")])] := by
    simp [actsAt, methodsAt, certificateActs, optionalAct]
  have htwice : SameTwice device "/ip/service" (hotspotActs config net garden) os := by
    have heval := evalArguments_plains device [("disabled", "no")]
    have hname : [("disabled", "no")].lookup "name" = none := by decide
    unfold SameTwice
    rw [actsAt_hotspot_certificate config net garden (by decide), hacts]
    exact execMenu_setItem_twice heval hname (List.forall_mem_singleton.mpr rfl) os
  exact sameTwice_hotspot config lower version cidr net garden serviceType hmenu hselectors
    (by decide) htwice

theorem sameTwice_addressList (hdevice : TellsApart device) (os : List Object) :
    SameTwice device "/ip/firewall/address-list"
      (sessionActs config net garden lower version cidr serviceType) os := by
  apply sameTwice_hotspot _ _ _ _ _ _ _ (by simp [configurationMenus])
    (by simp [selectorsAt, cleanupSelectors]) (by simp)
  unfold SameTwice
  rw [actsAt_hotspot, (onMenus_certificate config).actsAt_eq_nil (by decide),
    (onMenus_hotspotServer config net).actsAt_eq_nil (by decide),
    (onMenus_portal config net).actsAt_eq_nil (by decide),
    (onMenus_walledGarden garden _).actsAt_eq_nil (by decide),
    (onMenus_antiSharing config).actsAt_eq_nil (by decide)]
  simp only [List.append_nil, List.nil_append]
  apply execMenu_adds
  · rw [hdevice.addressList]
    simp
  · intro m hm
    obtain ⟨a, ha, hpath, rfl⟩ := mem_actsAt.mp hm
    rcases List.mem_append.mp ha with ha | ha
    · rcases List.mem_append.mp ha with ha | ha
      · simp only [List.mem_cons, List.not_mem_nil, or_false] at ha
        rcases ha with rfl | rfl <;> exact ⟨_, rfl⟩
      · obtain ⟨provider, -, rfl⟩ := List.mem_map.mp ha
        exact ⟨_, rfl⟩
    · rw [List.mem_singleton.mp ha]
      exact ⟨_, rfl⟩

/-- The menu has an object of this name. -/
def HasName (name : String) (os : List Object) : Prop := ∃ o ∈ os, o "name" = some name

/-- The objects of this name have these attributes. -/
def AllSet (name : String) (attributes : List (String × String)) (os : List Object) : Prop :=
  ∀ o ∈ os, o "name" = some name → o.setAll attributes = o

theorem clashes_name_iff {attributes : List (String × String)} {name : String}
    (hname : attributes.lookup "name" = some name) {os : List Object} :
    clashes ["name"] (Object.of attributes) os = true ↔ HasName name os := by
  simp [clashes, HasName, Object.of, hname]

section Certificates

variable {arguments attributes attributes' : List (String × String)} {name other : String}
  {os : List Object}

theorem apply_addCertificate (os : List Object) (hdevice : TellsApart device)
    (hname : arguments.lookup "name" = some name) :
    (HasName name os ∧ (Method.add (plains arguments)).apply device "/certificate" os = os) ∨
      (¬ HasName name os ∧ (Method.add (plains arguments)).apply device "/certificate" os =
        os ++ [Object.of arguments]) := by
  rw [apply_add (evalArguments_plains device arguments), hdevice.certificate,
    ← clashes_name_iff hname]
  by_cases hclash : clashes ["name"] (Object.of arguments) os = true
  · exact .inl ⟨hclash, if_pos hclash⟩
  · exact .inr ⟨hclash, if_neg hclash⟩

theorem hasName_addCertificate (hdevice : TellsApart device)
    (hname : arguments.lookup "name" = some name) :
    HasName name ((Method.add (plains arguments)).apply device "/certificate" os) := by
  rcases apply_addCertificate os hdevice hname with ⟨h, happly⟩ | ⟨-, happly⟩
  · rwa [happly]
  · rw [happly]
    exact ⟨_, List.mem_append_right _ (List.mem_singleton_self _), hname⟩

theorem allSet_addCertificate (hdevice : TellsApart device)
    (hname : arguments.lookup "name" = some name) (hother : HasName other os)
    (h : AllSet other attributes os) :
    AllSet other attributes ((Method.add (plains arguments)).apply device "/certificate" os) := by
  rcases apply_addCertificate os hdevice hname with ⟨-, happly⟩ | ⟨hfree, happly⟩
  · rwa [happly]
  · rw [happly]
    intro o ho hoName
    rcases List.mem_append.mp ho with ho | ho
    · exact h o ho hoName
    · rw [List.mem_singleton.mp ho] at hoName
      obtain rfl : name = other := by
        rw [Object.of, hname] at hoName
        exact Option.some.inj hoName
      exact absurd hother hfree

theorem apply_sign (s : Selector) :
    (Method.sign s (plains arguments)).apply device "/certificate" os =
      os.map (fun o => if s.Matches o then o.setAll (arguments ++ [("signed", "yes")]) else o) := by
  unfold Method.apply Method.step
  rw [evalArguments_plains]
  rfl

theorem hasName_sign (harguments : arguments.lookup "name" = none) (s : Selector)
    (h : HasName other os) :
    HasName other ((Method.sign s (plains arguments)).apply device "/certificate" os) := by
  obtain ⟨o, ho, hname⟩ := h
  rw [apply_sign]
  refine ⟨_, List.mem_map_of_mem ho, ?_⟩
  split
  · simp [Object.setAll, List.lookup_append, harguments, hname, List.lookup_cons]
  · exact hname

theorem allSet_sign (hset : arguments ++ [("signed", "yes")] = attributes) :
    AllSet name attributes
      ((Method.sign (.equal "name" name) (plains arguments)).apply device "/certificate" os) := by
  rw [apply_sign, hset]
  intro o ho hname
  obtain ⟨x, -, rfl⟩ := List.mem_map.mp ho
  by_cases hx : x "name" = some name
  · rw [if_pos (by simpa [Selector.Matches] using hx), setAll_setAll]
  · rw [if_neg (by simpa [Selector.Matches] using hx)] at hname
    exact absurd hname hx

theorem settled_sign (hset : arguments ++ [("signed", "yes")] = attributes)
    (h : AllSet name attributes os) :
    Settled device "/certificate" os (.sign (.equal "name" name) (plains arguments)) := by
  unfold Settled
  rw [apply_sign, hset]
  refine (List.map_congr_left fun o ho => ?_).trans (List.map_id os)
  by_cases hname : o "name" = some name
  · rw [if_pos (by simpa [Selector.Matches] using hname)]
    exact h o ho hname
  · rw [if_neg (by simpa [Selector.Matches] using hname)]
    rfl

theorem settled_addCertificate (hdevice : TellsApart device)
    (hname : arguments.lookup "name" = some name) (h : HasName name os) :
    Settled device "/certificate" os (.add (plains arguments)) := by
  rcases apply_addCertificate os hdevice hname with ⟨-, happly⟩ | ⟨hfree, -⟩
  · exact happly
  · exact absurd h hfree

theorem allSigned_sign (harguments : arguments.lookup "signed" = none) (s : Selector)
    (h : AllSet name [("signed", "yes")] os) :
    AllSet name [("signed", "yes")]
      ((Method.sign s (plains arguments)).apply device "/certificate" os) := by
  rw [apply_sign]
  intro o ho hname
  obtain ⟨x, hx, rfl⟩ := List.mem_map.mp ho
  by_cases hmatch : s.Matches x = true
  · rw [if_pos hmatch]
    funext key
    by_cases hkey : key = "signed"
    · subst hkey
      simp [Object.setAll, List.lookup_append, harguments]
    · have hother : (key == "signed") = false := beq_false_of_ne hkey
      simp [Object.setAll, List.lookup_cons, hother]
  · rw [if_neg hmatch] at hname ⊢
    exact h x hx hname

theorem hasName_of_add (h : HasName other os) :
    HasName other ((Method.add (plains arguments)).apply device "/certificate" os) := by
  obtain ⟨o, ho, hname⟩ := h
  obtain ⟨ps, hps⟩ := exists_apply_add device "/certificate" (plains arguments) os
  rw [hps]
  exact ⟨o, List.mem_append_left ps ho, hname⟩

end Certificates

/-- The commands that create and sign the authority and, by it, the certificate. -/
def certificateMethods (ca cert : String) (caArguments certArguments : List (String × String)) :
    List Method :=
  [.add (plains caArguments), .sign (.equal "name" ca) (plains []), .add (plains certArguments),
    .sign (.equal "name" cert) (plains [("ca", ca)])]

theorem actsAt_certificate : ∃ ca cert caArguments certArguments,
    caArguments.lookup "name" = some ca ∧ certArguments.lookup "name" = some cert ∧
      actsAt "/certificate" (certificateActs config) =
        certificateMethods ca cert caArguments certArguments := by
  refine ⟨config.hotspotCaCertName.getD "codevertex-ca",
    config.hotspotCertName.getD "codevertex-hotspot-cert",
    [("name", config.hotspotCaCertName.getD "codevertex-ca"), ("common-name", "codevertex-ca"),
      ("key-usage", "key-cert-sign,crl-sign"), ("key-size", "2048"), ("days-valid", "3650")],
    [("name", config.hotspotCertName.getD "codevertex-hotspot-cert"),
      ("common-name", config.hotspotDnsName.getD "hotspot.local"), ("key-size", "2048"),
      ("days-valid", "3650")], rfl, rfl, ?_⟩
  simp [actsAt, methodsAt, certificateActs, certificateMethods, optionalAct]

/-- After the four commands both certificates are there and signed, and none of them does any
more. -/
theorem execMenu_certificates_twice (hdevice : TellsApart device) {ca cert : String}
    {caArguments certArguments : List (String × String)}
    (hca : caArguments.lookup "name" = some ca) (hcert : certArguments.lookup "name" = some cert)
    (os : List Object) :
    execMenu device "/certificate" (certificateMethods ca cert caArguments certArguments)
        (execMenu device "/certificate" (certificateMethods ca cert caArguments certArguments) os) =
      execMenu device "/certificate" (certificateMethods ca cert caArguments certArguments) os := by
  -- The menu after each of the four commands.
  obtain ⟨os₁, hos₁⟩ : ∃ os₁, (Method.add (plains caArguments)).apply device "/certificate" os =
    os₁ := ⟨_, rfl⟩
  obtain ⟨os₂, hos₂⟩ : ∃ os₂, (Method.sign (.equal "name" ca) (plains [])).apply device
    "/certificate" os₁ = os₂ := ⟨_, rfl⟩
  obtain ⟨os₃, hos₃⟩ : ∃ os₃, (Method.add (plains certArguments)).apply device "/certificate" os₂ =
    os₃ := ⟨_, rfl⟩
  obtain ⟨os₄, hos₄⟩ : ∃ os₄, (Method.sign (.equal "name" cert) (plains [("ca", ca)])).apply device
    "/certificate" os₃ = os₄ := ⟨_, rfl⟩
  have hexec : execMenu device "/certificate"
      (certificateMethods ca cert caArguments certArguments) os = os₄ := by
    rw [← hos₄, ← hos₃, ← hos₂, ← hos₁]
    rfl
  have hca₂ : HasName ca os₂ := by
    rw [← hos₂, ← hos₁]
    exact hasName_sign rfl _ (hasName_addCertificate hdevice hca)
  have hsigned₂ : AllSet ca [("signed", "yes")] os₂ := by
    rw [← hos₂]
    exact allSet_sign rfl
  have hca₄ : HasName ca os₄ := by
    rw [← hos₄, ← hos₃]
    exact hasName_sign rfl _ (hasName_of_add hca₂)
  have hcert₄ : HasName cert os₄ := by
    rw [← hos₄, ← hos₃]
    exact hasName_sign rfl _ (hasName_addCertificate hdevice hcert)
  have hsigned₄ : AllSet ca [("signed", "yes")] os₄ := by
    rw [← hos₄, ← hos₃]
    exact allSigned_sign rfl _ (allSet_addCertificate hdevice hcert hca₂ hsigned₂)
  have hset₄ : AllSet cert [("ca", ca), ("signed", "yes")] os₄ := by
    rw [← hos₄]
    exact allSet_sign rfl
  rw [hexec]
  apply execMenu_settled
  simp only [certificateMethods, List.forall_mem_cons, List.not_mem_nil, false_imp_iff,
    implies_true, and_true]
  exact ⟨settled_addCertificate hdevice hca hca₄, settled_sign rfl hsigned₄,
    settled_addCertificate hdevice hcert hcert₄, settled_sign rfl hset₄⟩

theorem sameTwice_certificate (hdevice : TellsApart device) (os : List Object) :
    SameTwice device "/certificate"
      (sessionActs config net garden lower version cidr serviceType) os := by
  apply sameTwice_hotspot _ _ _ _ _ _ _ (by simp [configurationMenus])
    (by simp [selectorsAt, cleanupSelectors]) (by simp)
  obtain ⟨ca, cert, caArguments, certArguments, hca, hcert, hacts⟩ := actsAt_certificate config
  unfold SameTwice
  rw [actsAt_hotspot_certificate config net garden (by simp), hacts]
  exact execMenu_certificates_twice hdevice hca hcert os

end Untouched

/-! ### Provisioning again -/

section Again

variable {device : Device} {store : Store} {config : ProvisioningConfig} {lower : String → String}
  {version : Option String} {cidr : ℤ} {net : NetworkConfig} {garden : WalledGarden}
  {serviceType : ServiceType}

/-- The menus where the session does the same each time, whatever the cleanup finds. -/
def settledMenus : List String :=
  ["/system/identity", "/system/ntp/client", "/system/clock", "/interface/bridge/port", "/ip/dns",
    "/ip/service", "/certificate", "/ip/firewall/address-list"]

theorem keepsRest_hotspot (h : FoundByCleanup config serviceType store)
    (hhotspot : hasHotspot serviceType = true) :
    ∀ a ∈ hotspotActs config net garden, a.command.path ∉ settledMenus →
      KeepsRest device store a := by
  refine List.forall_mem_append.mpr ⟨List.forall_mem_append.mpr ⟨List.forall_mem_append.mpr
    ⟨List.forall_mem_append.mpr ⟨List.forall_mem_append.mpr ⟨?_, ?_⟩, ?_⟩, ?_⟩, ?_⟩, ?_⟩
  · intro a ha hpath
    have hmenu := onMenus_certificate config a ha
    simp only [List.mem_cons, List.not_mem_nil, or_false] at hmenu
    rcases hmenu with hmenu | hmenu <;> simp [hmenu, settledMenus] at hpath
  · exact fun a ha _ => keepsRest_hotspotServer h hhotspot a ha
  · exact fun a ha _ => keepsRest_portal h hhotspot a ha
  · intro a ha hpath
    apply keepsRest_dns config.bridge a ha
    intro hlist
    simp [hlist, settledMenus] at hpath
  · exact fun a ha _ => keepsRest_walledGarden garden _ a ha
  · exact fun a ha _ => keepsRest_antiSharing h hhotspot a ha

theorem keepsRest_later (h : FoundByCleanup config serviceType store) :
    ∀ a ∈ laterActs config lower cidr net garden serviceType, a.command.path ∉ settledMenus →
      KeepsRest device store a := by
  have pppoe : hasPppoe serviceType = true → ∀ a ∈ pppoeActs config net,
      a.command.path ∉ settledMenus → KeepsRest device store a :=
    fun hpppoe a ha _ => keepsRest_pppoe h hpppoe a ha
  refine List.forall_mem_append.mpr ⟨List.forall_mem_append.mpr ⟨List.forall_mem_append.mpr
    ⟨List.forall_mem_append.mpr ⟨?_, ?_⟩, ?_⟩, ?_⟩, ?_⟩
  · rw [List.forall_mem_singleton]
    exact fun _ => keepsRest_bridge h
  · intro a ha hpath
    have hmenu := onMenus_warning _ a ha
    simp only [List.mem_singleton] at hmenu
    simp [hmenu, settledMenus] at hpath
  · intro a ha hpath
    have hmenu := onMenus_ports config.bridge _ a ha
    simp only [List.mem_singleton] at hmenu
    simp [hmenu, settledMenus] at hpath
  · intro a ha hpath
    apply keepsRest_network h a ha
    intro hdns
    simp [hdns, settledMenus] at hpath
  · cases serviceType with
    | hotspot => exact keepsRest_hotspot h rfl
    | pppoeServer => exact pppoe rfl
    | both => exact List.forall_mem_append.mpr ⟨keepsRest_hotspot h rfl, pppoe rfl⟩
    | bridge => exact List.forall_mem_append.mpr ⟨keepsRest_hotspot h rfl, pppoe rfl⟩

/-- The second run ends with the router of the first one. -/
theorem runActs_twice (hdevice : TellsApart device) (h : FoundByCleanup config serviceType store) :
    runActs device (sessionActs config net garden lower version cidr serviceType)
        (runActs device (sessionActs config net garden lower version cidr serviceType) store) =
      runActs device (sessionActs config net garden lower version cidr serviceType) store := by
  apply exec_twice
  intro path
  show SameTwice device path (sessionActs config net garden lower version cidr serviceType)
    (store path)
  by_cases hsystem : path ∈ ["/system/identity"] ++ ["/system/ntp/client"] ++ ["/system/clock"]
  · exact sameTwice_system config lower version cidr net garden serviceType hsystem _
  by_cases hsettled : path ∈ settledMenus
  · simp only [settledMenus, List.mem_cons, List.not_mem_nil, or_false] at hsettled
    rcases hsettled with rfl | rfl | rfl | rfl | rfl | rfl | rfl | rfl
    · exact absurd hsystem (by simp)
    · exact absurd hsystem (by simp)
    · exact absurd hsystem (by simp)
    · exact sameTwice_ports config lower version cidr net garden serviceType hdevice _
    · exact sameTwice_dns config lower version cidr net garden serviceType _
    · exact sameTwice_ftp config lower version cidr net garden serviceType _
    · exact sameTwice_certificate config lower version cidr net garden serviceType hdevice _
    · exact sameTwice_addressList config lower version cidr net garden serviceType hdevice _
  · apply sameTwice_of_keepsRest config lower version cidr net garden serviceType hsystem
    rintro a ha rfl
    exact keepsRest_later h a ha hsettled

/-- What the cleanup of the second run leaves is what the first one left. -/
theorem leftOver_again {path : String}
    (hsystem : path ∉ ["/system/identity"] ++ ["/system/ntp/client"] ++ ["/system/clock"])
    (hsettled : path ∉ settledMenus) (h : FoundByCleanup config serviceType store) :
    leftOver (runActs device (sessionActs config net garden lower version cidr serviceType) store)
      path = leftOver store path := by
  unfold leftOver
  rw [runActs_at, actsAt_session, (onMenus_system config version).actsAt_eq_nil hsystem,
    List.nil_append, execMenu_append, execMenu_removals]
  apply unselected_execMenu
  · intro m hm
    obtain ⟨a, ha, rfl, rfl⟩ := mem_actsAt.mp hm
    exact keepsRest_later h a ha hsettled
  · simp [unselected, List.filter_filter]

theorem free_of_selected {key value path : String}
    (h : ∀ o : Object, o key = some value → Selected (selectorsAt path) o = true) :
    Free key value (leftOver store path) := by
  intro o ho hkey
  obtain ⟨-, hleft⟩ := mem_unselected.mp ho
  rw [h o hkey] at hleft
  cases hleft

theorem noNameTaken_of_found (h : FoundByCleanup config serviceType store) :
    NoNameTaken device (sessionActs config net garden lower version cidr serviceType)
      (runActs device (sessionActs config net garden lower version cidr serviceType) store) := by
  rw [noNameTaken_session]
  refine ⟨⟨?_, ?_, ?_⟩, fun hhotspot => ⟨?_, ?_⟩, fun hpppoe => ⟨?_, ?_⟩⟩
  · apply free_of_selected
    intro o ho
    simp [selectorsAt_bridge, Selected, Selector.Matches, ho, h.bridge]
  · apply free_of_selected
    intro o ho
    simp [selectorsAt_pool, Selected, Selector.Matches, ho, h.pool]
  · apply free_of_selected
    intro o ho
    simp [selectorsAt_dhcp, Selected, Selector.Matches, ho, h.dhcp]
  · apply free_of_selected
    intro o ho
    simp [selectorsAt_profile, Selected, Selector.Matches, ho, h.profile hhotspot]
  · rw [leftOver_again (by simp) (by simp [settledMenus]) h]
    intro o ho hname
    obtain ⟨hmem, hleft⟩ := mem_unselected.mp ho
    have hinterface := h.hotspot hhotspot o hmem hname
    simp [selectorsAt_hotspot, Selected, Selector.Matches, hinterface] at hleft
  · apply free_of_selected
    intro o ho
    exact selected_like ho (of_decide_eq_true (h.pppProfile hpppoe))
      (mem_selectorsAt.mpr (by simp [cleanupSelectors]))
  · apply free_of_selected
    intro o ho
    exact selected_like ho (of_decide_eq_true (h.service hpppoe))
      (mem_selectorsAt.mpr (by simp [cleanupSelectors]))

/-! ### Objects after a run -/

/-- What the session adds to a menu is there after the run, or an object of the same name is. -/
theorem exists_after_add {path key value : String} {methods later : List Method}
    {arguments : List (String × String)} (hkey : key ∈ device.identity path)
    (hvalue : arguments.lookup key = some value)
    (hlater : ∀ m ∈ later, Stays device path (fun o => o key = some value) m)
    {acts : List Act} (hacts : actsAt path acts = methods ++ .add (plains arguments) :: later)
    (store : Store) : ∃ o ∈ runActs device acts store path, o key = some value := by
  rw [runActs_at, hacts, execMenu_append]
  exact stays_execMenu hlater
    (exists_apply_add_key hkey (evalArguments_plains device arguments) hvalue _)

theorem selected_of_free {path key value : String}
    (hexists : ∃ o ∈ store path, o key = some value) (h : Free key value (leftOver store path)) :
    ∃ o : Object, o key = some value ∧ Selected (selectorsAt path) o = true := by
  obtain ⟨o, ho, hkey⟩ := hexists
  refine ⟨o, hkey, ?_⟩
  cases hselected : Selected (selectorsAt path) o with
  | true => rfl
  | false => exact absurd hkey (h o (mem_unselected.mpr ⟨ho, hselected⟩))

section Objects

variable (config lower version cidr net garden serviceType)

theorem actsAt_bridge :
    ∃ methods, actsAt "/interface/bridge"
        (sessionActs config net garden lower version cidr serviceType) =
      methods ++ [.add (plains [("name", config.bridge)])] := by
  rw [actsAt_session, actsAt_later, (onMenus_warning _).actsAt_eq_nil (by simp),
    (onMenus_ports config.bridge _).actsAt_eq_nil (by simp),
    (onMenus_network config cidr net).actsAt_eq_nil (by simp),
    (onMenus_service config net garden serviceType).actsAt_eq_nil
      (by simp [serviceMenus, hotspotMenus])]
  simp only [List.append_nil]
  exact ⟨_, rfl⟩

theorem actsAt_networkMenu (path : String) (hnetwork : path ∈ ["/ip/pool", "/ip/dhcp-server"]) :
    ∃ methods, actsAt path (sessionActs config net garden lower version cidr serviceType) =
      methods ++ actsAt path (networkActs config cidr net) := by
  have hmenus : ∀ path ∈ ["/ip/pool", "/ip/dhcp-server"], path ∉ serviceMenus := by
    simp [serviceMenus, hotspotMenus]
  rw [actsAt_session, actsAt_later,
    (onMenus_service config net garden serviceType).actsAt_eq_nil (hmenus path hnetwork),
    List.append_nil, ← List.append_assoc]
  exact ⟨_, rfl⟩

theorem actsAt_serviceMenu (path : String) :
    ∃ methods, actsAt path (sessionActs config net garden lower version cidr serviceType) =
      methods ++ actsAt path (serviceActs config net garden serviceType) := by
  unfold sessionActs
  rw [actsAt_append]
  exact ⟨_, rfl⟩

theorem actsAt_profile :
    actsAt "/ip/hotspot/profile" (hotspotActs config net garden) =
      [.add (plains [("name", config.hotspotProfile.getD "codevertex-hsprof"),
          ("hotspot-address", config.gateway.getD net.gateway),
          ("dns-name", config.hotspotDnsName.getD "hotspot.local"), ("use-radius", "no"),
          ("login-by", "http-pap,http-chap,mac-cookie"), ("http-cookie-lifetime", "1d"),
          ("split-user-domain", "no")]),
        .guarded (.setFound (.equal "name" (config.hotspotProfile.getD "codevertex-hsprof"))
          (plains [("ssl-certificate", "none")])),
        .guarded (.setFound (.equal "name" (config.hotspotProfile.getD "codevertex-hsprof"))
          (plains [("html-directory", "hotspot")]))] := by
  have htemplate : ∀ url file, actsAt "/ip/hotspot/profile" (templateActs url file) = [] :=
    fun url file => (onMenus_template url file).actsAt_eq_nil (by simp)
  have hportal : actsAt "/ip/hotspot/profile" (portalActs config net) =
      [.guarded (.setFound (.equal "name" (config.hotspotProfile.getD "codevertex-hsprof"))
        (plains [("html-directory", "hotspot")]))] := by
    rw [portalActs, actsAt_append, actsAt_append, htemplate, htemplate]
    simp [actsAt, methodsAt, optionalAct]
  rw [actsAt_hotspot, (onMenus_certificate config).actsAt_eq_nil (by simp), hportal,
    (onMenus_dns config.bridge).actsAt_eq_nil (by simp),
    (onMenus_walledGarden garden _).actsAt_eq_nil (by simp),
    (onMenus_antiSharing config).actsAt_eq_nil (by simp)]
  simp [actsAt, methodsAt, hotspotServerActs, optionalAct, criticalAct]

theorem actsAt_hotspotServer :
    ∃ arguments later, actsAt "/ip/hotspot" (hotspotActs config net garden) =
        .add (plains (("name", config.hotspotName.getD "codevertex-hotspot") :: arguments)) :: later ∧
      ∀ m ∈ later, m = .setItem (config.hotspotName.getD "codevertex-hotspot")
        (plains [("idle-timeout", "5m")]) := by
  have hsharing : ∀ m ∈ actsAt "/ip/hotspot" (antiSharingActs config),
      m = .setItem (config.hotspotName.getD "codevertex-hotspot")
        (plains [("idle-timeout", "5m")]) := by
    unfold antiSharingActs
    split
    · simp [actsAt, methodsAt, optionalAct]
    · exact fun m hm => absurd hm List.not_mem_nil
  rw [actsAt_hotspot, (onMenus_certificate config).actsAt_eq_nil (by simp),
    (onMenus_portal config net).actsAt_eq_nil (by simp),
    (onMenus_dns config.bridge).actsAt_eq_nil (by simp),
    (onMenus_walledGarden garden _).actsAt_eq_nil (by simp)]
  refine ⟨[("interface", config.bridge), ("address-pool", config.pool),
    ("profile", config.hotspotProfile.getD "codevertex-hsprof"), ("addresses-per-mac", "1"),
    ("idle-timeout", "5m"), ("keepalive-timeout", "none"), ("disabled", "no")],
    actsAt "/ip/hotspot" (antiSharingActs config), ?_, hsharing⟩
  have hserver : actsAt "/ip/hotspot" (hotspotServerActs config net) =
      [.add (plains [("name", config.hotspotName.getD "codevertex-hotspot"),
        ("interface", config.bridge), ("address-pool", config.pool),
        ("profile", config.hotspotProfile.getD "codevertex-hsprof"), ("addresses-per-mac", "1"),
        ("idle-timeout", "5m"), ("keepalive-timeout", "none"), ("disabled", "no")])] := by
    simp [actsAt, methodsAt, hotspotServerActs, optionalAct, criticalAct]
  rw [hserver]
  simp only [List.nil_append, List.append_nil, List.singleton_append]

theorem setAll_key {o : Object} {attributes : List (String × String)} {key : String}
    (h : attributes.lookup key = none) : (o.setAll attributes) key = o key := by
  unfold Object.setAll
  rw [h]
  rfl

variable (store : Store)

theorem exists_bridge (hdevice : TellsApart device) :
    ∃ o ∈ runActs device (sessionActs config net garden lower version cidr serviceType) store
      "/interface/bridge", o "name" = some config.bridge := by
  obtain ⟨methods, hacts⟩ := actsAt_bridge config lower version cidr net garden serviceType
  refine exists_after_add (hdevice.name _ (by simp [namedMenus])) ?_ ?_ hacts store
  · rfl
  · exact fun m hm => absurd hm List.not_mem_nil

theorem exists_pool (hdevice : TellsApart device) :
    ∃ o ∈ runActs device (sessionActs config net garden lower version cidr serviceType) store
      "/ip/pool", o "name" = some config.pool := by
  obtain ⟨methods, hacts⟩ := actsAt_networkMenu config lower version cidr net garden serviceType
    "/ip/pool" (by simp)
  have hpool : actsAt "/ip/pool" (networkActs config cidr net) =
      [.add (plains [("name", config.pool), ("ranges", config.ipPoolStart.getD net.poolStart ++ "-" ++
        config.ipPoolEnd.getD net.poolEnd)])] := by
    simp [actsAt, methodsAt, networkActs, optionalAct, criticalAct]
  rw [hpool] at hacts
  refine exists_after_add (hdevice.name _ (by simp [namedMenus])) ?_ ?_ hacts store
  · rfl
  · exact fun m hm => absurd hm List.not_mem_nil

theorem exists_dhcp (hdevice : TellsApart device) :
    ∃ o ∈ runActs device (sessionActs config net garden lower version cidr serviceType) store
      "/ip/dhcp-server", o "name" = some (config.dhcpServerName.getD "codevertex-dhcp") := by
  obtain ⟨methods, hacts⟩ := actsAt_networkMenu config lower version cidr net garden serviceType
    "/ip/dhcp-server" (by simp)
  have hdhcp : actsAt "/ip/dhcp-server" (networkActs config cidr net) =
      [.add (plains [("name", config.dhcpServerName.getD "codevertex-dhcp"),
        ("interface", config.bridge), ("address-pool", config.pool), ("disabled", "no")])] := by
    simp [actsAt, methodsAt, networkActs, optionalAct, criticalAct]
  rw [hdhcp] at hacts
  refine exists_after_add (hdevice.name _ (by simp [namedMenus])) ?_ ?_ hacts store
  · rfl
  · exact fun m hm => absurd hm List.not_mem_nil

variable {serviceType}

theorem exists_profile (hdevice : TellsApart device) (hhotspot : hasHotspot serviceType = true) :
    ∃ o ∈ runActs device (sessionActs config net garden lower version cidr serviceType) store
      "/ip/hotspot/profile",
        o "name" = some (config.hotspotProfile.getD "codevertex-hsprof") := by
  obtain ⟨methods, hacts⟩ := actsAt_serviceMenu config lower version cidr net garden serviceType
    "/ip/hotspot/profile"
  rw [actsAt_service_hotspot config net garden serviceType (by simp), if_pos hhotspot,
    actsAt_profile] at hacts
  refine exists_after_add (hdevice.name _ (by simp [namedMenus])) ?_ ?_ hacts store
  · rfl
  · simp only [List.forall_mem_cons, List.not_mem_nil, false_imp_iff, implies_true, and_true]
    refine ⟨(stays_setFound (evalArguments_plains device _) (fun o ho => ?_) _).guarded,
      (stays_setFound (evalArguments_plains device _) (fun o ho => ?_) _).guarded⟩
    · rwa [setAll_key rfl]
    · rwa [setAll_key rfl]

/-- A hotspot server of the session's name on another interface stays. -/
theorem exists_foreign_hotspot (device : Device) (hhotspot : hasHotspot serviceType = true)
    (h : ∃ o ∈ store "/ip/hotspot",
      o "name" = some (config.hotspotName.getD "codevertex-hotspot") ∧
        o "interface" ≠ some "codevertex-bridge") :
    ∃ o ∈ runActs device (sessionActs config net garden lower version cidr serviceType) store
      "/ip/hotspot", o "name" = some (config.hotspotName.getD "codevertex-hotspot") ∧
        o "interface" ≠ some "codevertex-bridge" := by
  obtain ⟨arguments, later, hserver, hlater⟩ := actsAt_hotspotServer config net garden
  have hacts : actsAt "/ip/hotspot"
      (sessionActs config net garden lower version cidr serviceType) =
        .guarded (.remove (.equal "interface" "codevertex-bridge")) ::
          .add (plains (("name", config.hotspotName.getD "codevertex-hotspot") :: arguments)) ::
            later := by
    unfold sessionActs
    rw [actsAt_append, actsAt_configuration config lower version cidr net
      (by simp [configurationMenus]), selectorsAt_hotspot,
      actsAt_service_hotspot config net garden serviceType (by simp), if_pos hhotspot, hserver]
    rfl
  rw [runActs_at, hacts]
  refine stays_execMenu ?_ h
  simp only [List.forall_mem_cons]
  refine ⟨?_, stays_add device _ _ _, ?_⟩
  · rintro os ⟨o, ho, hname, hinterface⟩
    refine ⟨o, ?_, hname, hinterface⟩
    show o ∈ os.filter _
    rw [List.mem_filter]
    exact ⟨ho, by simp [Selector.Matches, hinterface]⟩
  · intro m hm
    rw [hlater m hm]
    refine stays_setItem (evalArguments_plains device _) (fun o ho => ?_) _
    rwa [setAll_key rfl, setAll_key rfl]

theorem exists_pppProfile (hdevice : TellsApart device) (hpppoe : hasPppoe serviceType = true) :
    ∃ o ∈ runActs device (sessionActs config net garden lower version cidr serviceType) store
      "/ppp/profile",
        o "name" = some (config.pppProfileName.getD "codevertex-pppoe-profile") := by
  obtain ⟨methods, hacts⟩ := actsAt_serviceMenu config lower version cidr net garden serviceType
    "/ppp/profile"
  rw [actsAt_service_pppoe config net garden serviceType (by simp [hotspotMenus]),
    if_pos hpppoe] at hacts
  have hprofile : actsAt "/ppp/profile" (pppoeActs config net) =
      [.add (plains [("name", config.pppProfileName.getD "codevertex-pppoe-profile"),
        ("local-address", config.gateway.getD net.gateway), ("remote-address", config.pool),
        ("dns-server", config.gateway.getD net.gateway)])] := by
    simp [actsAt, methodsAt, pppoeActs, criticalAct]
  rw [hprofile] at hacts
  refine exists_after_add (hdevice.name _ (by simp [namedMenus])) ?_ ?_ hacts store
  · rfl
  · exact fun m hm => absurd hm List.not_mem_nil

theorem exists_service (hdevice : TellsApart device) (hpppoe : hasPppoe serviceType = true) :
    ∃ o ∈ runActs device (sessionActs config net garden lower version cidr serviceType) store
      "/interface/pppoe-server/server",
        o "service-name" = some (config.serviceName.getD "codevertex-pppoe") := by
  obtain ⟨methods, hacts⟩ := actsAt_serviceMenu config lower version cidr net garden serviceType
    "/interface/pppoe-server/server"
  rw [actsAt_service_pppoe config net garden serviceType (by simp [hotspotMenus]),
    if_pos hpppoe] at hacts
  have hserver : actsAt "/interface/pppoe-server/server" (pppoeActs config net) =
      [.add (plains [("service-name", config.serviceName.getD "codevertex-pppoe"),
        ("interface", config.bridge),
        ("default-profile", config.pppProfileName.getD "codevertex-pppoe-profile"),
        ("disabled", "no")])] := by
    simp [actsAt, methodsAt, pppoeActs, criticalAct]
  rw [hserver] at hacts
  refine exists_after_add hdevice.service ?_ ?_ hacts store
  · rfl
  · exact fun m hm => absurd hm List.not_mem_nil

end Objects

theorem contains_of_selected {key value : String} {o : Object} (ho : o key = some value)
    (h : Selected [.like key "codevertex"] o = true) : ContainsCodevertex value = true := by
  unfold Selected at h
  rw [List.any_cons, List.any_nil, Bool.or_false] at h
  have hmatch : (o key).any (fun v => decide ("codevertex".toList <:+: v.toList)) = true := h
  rwa [ho] at hmatch

theorem found_of_noNameTaken (hdevice : TellsApart device)
    (h : NoNameTaken device (sessionActs config net garden lower version cidr serviceType)
      (runActs device (sessionActs config net garden lower version cidr serviceType) store)) :
    FoundByCleanup config serviceType store := by
  rw [noNameTaken_session] at h
  obtain ⟨⟨hbridge, hpool, hdhcp⟩, hhotspot, hpppoe⟩ := h
  refine ⟨?_, ?_, ?_, fun hservice => ?_, fun hservice => ?_, fun hservice => ?_,
    fun hservice => ?_⟩
  · obtain ⟨o, ho, hselected⟩ := selected_of_free
      (exists_bridge config lower version cidr net garden serviceType store hdevice) hbridge
    simpa [selectorsAt_bridge, Selected, Selector.Matches, ho] using hselected
  · obtain ⟨o, ho, hselected⟩ := selected_of_free
      (exists_pool config lower version cidr net garden serviceType store hdevice) hpool
    simpa [selectorsAt_pool, Selected, Selector.Matches, ho] using hselected
  · obtain ⟨o, ho, hselected⟩ := selected_of_free
      (exists_dhcp config lower version cidr net garden serviceType store hdevice) hdhcp
    simpa [selectorsAt_dhcp, Selected, Selector.Matches, ho] using hselected
  · obtain ⟨o, ho, hselected⟩ := selected_of_free
      (exists_profile config lower version cidr net garden store hdevice hservice)
      (hhotspot hservice).1
    simpa [selectorsAt_profile, Selected, Selector.Matches, ho] using hselected
  · intro o ho hname
    by_contra hinterface
    obtain ⟨x, hx, hxname, hxinterface⟩ := exists_foreign_hotspot config lower
      version cidr net garden store device hservice ⟨o, ho, hname, hinterface⟩
    refine (hhotspot hservice).2 x (mem_unselected.mpr ⟨hx, ?_⟩) hxname
    simp [selectorsAt_hotspot, Selected, Selector.Matches, hxinterface]
  · obtain ⟨o, ho, hselected⟩ := selected_of_free
      (exists_pppProfile config lower version cidr net garden store hdevice hservice)
      (hpppoe hservice).1
    rw [selectorsAt_pppProfile] at hselected
    exact contains_of_selected ho hselected
  · obtain ⟨o, ho, hselected⟩ := selected_of_free
      (exists_service config lower version cidr net garden store hdevice hservice)
      (hpppoe hservice).2
    rw [selectorsAt_service] at hselected
    exact contains_of_selected ho hselected

theorem renders_service {settings : TreasurySettings} {service : List GeneratedCommand}
    (hnet : config.network = some net)
    (h : directServiceCommands settings config version serviceType = some service) :
    ∃ garden, Renders service (serviceActs config net garden serviceType) := by
  have hhotspot : ∀ commands, generateHotspotCommands settings config version = some commands →
      ∃ garden, Renders commands (hotspotActs config net garden) := by
    intro commands hcommands
    obtain ⟨net', garden, hnet', -, hrenders⟩ := renders_generateHotspot hcommands
    obtain rfl : net' = net := Option.some.inj (hnet'.symm.trans hnet)
    exact ⟨garden, hrenders⟩
  have hpppoe : ∀ commands, generatePppoeCommands config version = some commands →
      Renders commands (pppoeActs config net) := by
    intro commands hcommands
    obtain ⟨net', hnet', hrenders⟩ := renders_generatePppoe hcommands
    obtain rfl : net' = net := Option.some.inj (hnet'.symm.trans hnet)
    exact hrenders
  have hboth : ∀ commands, generateBothCommands settings config version = some commands →
      ∃ garden, Renders commands (hotspotActs config net garden ++ pppoeActs config net) := by
    intro commands hcommands
    unfold generateBothCommands at hcommands
    simp only [Option.bind_eq_bind, Option.bind_eq_some_iff, Option.pure_def, Option.some.injEq]
      at hcommands
    obtain ⟨hotspot, hhotspotCommands, pppoe, hpppoeCommands, rfl⟩ := hcommands
    obtain ⟨garden, hrenders⟩ := hhotspot hotspot hhotspotCommands
    exact ⟨garden, hrenders.append (hpppoe pppoe hpppoeCommands)⟩
  cases serviceType with
  | hotspot => exact hhotspot service h
  | pppoeServer => exact ⟨⟨[], []⟩, hpppoe service h⟩
  | both => exact hboth service h
  | bridge => exact hboth service h

theorem renders_direct {settings : TreasurySettings} {api : List GeneratedCommand}
    {routerVersion : Option String}
    (h : directCommands lower settings config serviceType routerVersion = some api) :
    ∃ version cidr net garden,
      Renders api (sessionActs config net garden lower version cidr serviceType) := by
  unfold directCommands at h
  simp only [Option.bind_eq_bind, Option.bind_eq_some_iff, Option.pure_def, Option.some.injEq] at h
  obtain ⟨configuration, hconfiguration, service, hservice, rfl⟩ := h
  obtain ⟨cidr, net, -, hnet, hrenders⟩ := renders_configuration hconfiguration
  obtain ⟨garden, hserviceActs⟩ := renders_service hnet hservice
  exact ⟨_, cidr, net, garden, hrenders.append hserviceActs⟩

theorem reprovisions_acts_iff (hdevice : TellsApart device) :
    Reprovisions device (sessionActs config net garden lower version cidr serviceType) store ↔
      FoundByCleanup config serviceType store := by
  constructor
  · exact fun h => found_of_noNameTaken hdevice h.free
  · exact fun h => ⟨runActs_twice hdevice h, noNameTaken_of_found h⟩

/-- **When provisioning again changes nothing**: the bridge, the pool, the DHCP server and the hotspot
profile have their default names, the PPPoE names contain `codevertex`, and no hotspot server of the
session's name is on another interface. -/
theorem reprovisions_iff (settings : TreasurySettings) (hdevice : TellsApart device)
    {api : List GeneratedCommand} {routerVersion : Option String}
    (h : directCommands lower settings config serviceType routerVersion = some api) :
    ∃ version cidr net garden,
      Renders api (sessionActs config net garden lower version cidr serviceType) ∧
      ∀ store, Reprovisions device (sessionActs config net garden lower version cidr serviceType)
        store ↔ FoundByCleanup config serviceType store := by
  obtain ⟨version, cidr, net, garden, hrenders⟩ := renders_direct h
  exact ⟨version, cidr, net, garden, hrenders, fun store => reprovisions_acts_iff hdevice⟩

/-- A router that tells objects apart by their names. -/
def plainDevice : Device where
  identity path :=
    if path = "/interface/pppoe-server/server" then ["service-name"]
    else if path = "/interface/bridge/port" then ["interface"]
    else if path = "/ip/firewall/address-list" then ["list", "address"]
    else if path ∈ "/certificate" :: namedMenus then ["name"]
    else []
  resolve _ := none
  contents _ := none

theorem plainDevice_tellsApart : TellsApart plainDevice where
  name := by simp [plainDevice, namedMenus]
  service := by simp [plainDevice]
  port := by simp [plainDevice]
  certificate := by simp [plainDevice]
  addressList := by simp [plainDevice]

/-- The default configuration, on an empty router. -/
theorem reprovisions_default :
    ∃ api, directCommands lowerAscii treasury (portsConfig ["ether2"]) .both none = some api ∧
      ∃ version cidr net garden, Renders api
          (sessionActs (portsConfig ["ether2"]) net garden lowerAscii version cidr .both) ∧
        Reprovisions plainDevice
          (sessionActs (portsConfig ["ether2"]) net garden lowerAscii version cidr .both)
          (fun _ => []) := by
  obtain ⟨api, hapi⟩ := Option.isSome_iff_exists.mp (show (directCommands lowerAscii treasury
    (portsConfig ["ether2"]) .both none).isSome = true by decide +kernel)
  obtain ⟨version, cidr, net, garden, hrenders, hiff⟩ :=
    reprovisions_iff treasury plainDevice_tellsApart hapi
  refine ⟨api, hapi, version, cidr, net, garden, hrenders, (hiff _).mpr ?_⟩
  exact ⟨rfl, rfl, rfl, fun _ => rfl, fun _ o ho => absurd ho List.not_mem_nil,
    fun _ => by decide +kernel, fun _ => by decide +kernel⟩

/-- A pool with a name of its own is not removed: the second run meets it. -/
theorem custom_pool_not_reprovisioned :
    ∃ api, directCommands lowerAscii treasury
        { portsConfig ["ether2"] with poolName := some "guest-pool" } .hotspot none = some api ∧
      ∃ version cidr net garden, Renders api
          (sessionActs { portsConfig ["ether2"] with poolName := some "guest-pool" } net garden
            lowerAscii version cidr .hotspot) ∧
        ¬ Reprovisions plainDevice
          (sessionActs { portsConfig ["ether2"] with poolName := some "guest-pool" } net garden
            lowerAscii version cidr .hotspot) (fun _ => []) := by
  obtain ⟨api, hapi⟩ := Option.isSome_iff_exists.mp (show (directCommands lowerAscii treasury
    { portsConfig ["ether2"] with poolName := some "guest-pool" } .hotspot none).isSome = true by
      decide +kernel)
  obtain ⟨version, cidr, net, garden, hrenders⟩ := renders_direct hapi
  refine ⟨api, hapi, version, cidr, net, garden, hrenders, fun h => ?_⟩
  have hpool := ((reprovisions_acts_iff plainDevice_tellsApart).mp h).pool
  exact absurd hpool (by decide)

end Again

end IspBilling
