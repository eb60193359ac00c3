import IspBilling.RouterOsCommands
import IspBilling.Ipv4

/-! # The addressing of a session

A session gives its router an address, a pool of addresses for its clients and a DHCP network.  The
texts of these come from three places: from the configuration of the session, else from the constants
that `_validate_configuration` fills in for some service types, else from `calculate_network_config`,
which pastes octets of the subnet address together.

`commandRests` reads the addresses back from the finished commands, and `ConsistentAddressing` says
that they belong together: all of them lie in the network of the session, the pool is a range and the
address of the router is not in it.  `addressing_commandRests` says which texts stand in the commands,
`fits_iff` when three addresses belong together, and the rest of the file computes this for each
service type and prefix length. -/

namespace IspBilling

open PythonText Ipv4

/-! ### The defaults of a configuration -/

/-- The URLs of the settings. -/
structure ServerUrls where
  frontendUrl : Option String
  backendUrl : Option String
deriving DecidableEq, Repr

/-- `(https?://[^:]+)` at the start of a text. -/
def matchUrlOrigin (cs : List Char) : Option String :=
  let found := fun (scheme : String) =>
    if scheme.toList.isPrefixOf cs then
      match (cs.drop scheme.length).takeWhile (· != ':') with
      | [] => none
      | host => some (scheme ++ String.ofList host)
    else none
  (found "https://").or (found "http://")

/-- `re.search(r'(https?://[^:]+):?(\d+)?', url)`, its first group. -/
def searchUrlOrigin : List Char → Option String
  | [] => none
  | c :: cs => (matchUrlOrigin (c :: cs)).or (searchUrlOrigin cs)

def defaultBillingUrl (urls : ServerUrls) : Option String :=
  match given urls.frontendUrl with
  | some url => some url
  | none => (given urls.backendUrl).bind fun url =>
      (searchUrlOrigin url.toList).map (· ++ ":3000")

/-- `_validate_configuration`, for the items that the generators read. -/
def validateConfiguration (urls : ServerUrls) (serviceType : ServiceType)
    (config : ProvisioningConfig) : ProvisioningConfig :=
  let config := { config with
    interface := config.interface.or (some "ether2")
    dnsServers := config.dnsServers.or (some (.list ["8.8.8.8", "8.8.4.4"]))
    wanInterface := config.wanInterface.or (some "ether1")
    billingServerUrl := config.billingServerUrl.or (defaultBillingUrl urls)
    apiServerUrl := config.apiServerUrl.or (given urls.backendUrl) }
  match serviceType with
  | .hotspot => { config with
      hotspotName := config.hotspotName.or (some "ISP-Hotspot")
      ipPoolStart := config.ipPoolStart.or (some "172.31.1.1")
      ipPoolEnd := config.ipPoolEnd.or (some "172.31.1.254")
      gateway := config.gateway.or (some "172.31.1.1")
      walledGardenHosts := config.walledGardenHosts.or (some []) }
  | .pppoeServer => { config with
      serviceName := config.serviceName.or (some "ISP-PPPoE")
      ipPoolStart := config.ipPoolStart.or (some "172.31.1.1")
      ipPoolEnd := config.ipPoolEnd.or (some "172.31.1.254") }
  | .both | .bridge => config

/-! ### Reading the commands -/

/-- What follows `front` in the commands that start with it. -/
def commandRests (front : String) (commands : List GeneratedCommand) : List String :=
  commands.filterMap fun c =>
    if front.toList.isPrefixOf c.command.toList then
      some (String.ofList (c.command.toList.drop front.toList.length))
    else none

/-- The addresses lie in the network of `subnet`, the pool is a range and the gateway is not in it. -/
def AddressesFit (cidr : ℕ) (subnet gateway poolStart poolEnd : Address) : Prop :=
  Inside cidr subnet gateway ∧ Inside cidr subnet poolStart ∧ Inside cidr subnet poolEnd ∧
    poolStart.value ≤ poolEnd.value ∧
    ¬ (poolStart.value ≤ gateway.value ∧ gateway.value ≤ poolEnd.value)

/-- The commands set up a router whose address, pool and DHCP network belong to the network of
`subnet`. -/
def ConsistentAddressing (bridge pool : String) (subnet : Address) (cidr : ℕ)
    (commands : List GeneratedCommand) : Prop :=
  ∃ gateway poolStart poolEnd : Address,
    commandRests "/ip/address/add address=" commands =
      [gateway.text ++ "/" ++ toString cidr ++ " interface=" ++ bridge] ∧
    commandRests ("/ip/pool/add name=" ++ pool ++ " ranges=") commands =
      [poolStart.text ++ "-" ++ poolEnd.text] ∧
    commandRests ("/ip/dhcp-server/network/add address=" ++ subnet.text ++ "/" ++ toString cidr)
        commands =
      [" gateway=" ++ gateway.text ++ " dns-server=" ++ gateway.text ++
        " comment=codevertex-dhcp-network"] ∧
    AddressesFit cidr subnet gateway poolStart poolEnd

section Rests

variable {front : String} {c : GeneratedCommand} {cs ds : List GeneratedCommand}

theorem commandRests_append : commandRests front (cs ++ ds) =
    commandRests front cs ++ commandRests front ds :=
  List.filterMap_append

/-- Two texts differ where both have a character. -/
def clash : List Char → List Char → Bool
  | a :: as, b :: bs => a != b || clash as bs
  | _, _ => false

theorem not_prefix_of_clash {p l : List Char} (h : clash p l = true) (p' l' : List Char) :
    ¬ (p ++ p') <+: (l ++ l') := by
  induction p generalizing l with
  | nil => simp [clash] at h
  | cons a as ih =>
      cases l with
      | nil => simp [clash] at h
      | cons b bs =>
          rw [List.cons_append, List.cons_append, List.cons_prefix_cons]
          rintro ⟨rfl, hrest⟩
          simp only [clash, bne_self_eq_false, Bool.false_or] at h
          exact ih h hrest

theorem commandRests_cons_of_clash {fa fb la lb : String} {rest : List GeneratedCommand}
    (hfront : front = fa ++ fb) (hcommand : c.command = la ++ lb)
    (h : clash fa.toList la.toList = true) :
    commandRests front (c :: rest) = commandRests front rest := by
  have hnot := not_prefix_of_clash h fb.toList lb.toList
  unfold commandRests
  rw [List.filterMap_cons_none]
  rw [if_neg]
  rwa [List.isPrefixOf_iff_prefix, hcommand, hfront, String.toList_append, String.toList_append]

theorem commandRests_cons_of_eq {rest : List GeneratedCommand} {s : String}
    (hcommand : c.command = front ++ s) :
    commandRests front (c :: rest) = s :: commandRests front rest := by
  unfold commandRests
  rw [List.filterMap_cons_some]
  rw [if_pos]
  · rw [hcommand, String.toList_append, List.drop_left, String.ofList_toList]
  · rw [List.isPrefixOf_iff_prefix, hcommand, String.toList_append]
    exact List.prefix_append _ _

end Rests

/-! ### The texts in the commands -/

/-- The starts of the commands that hold addresses. -/
def addressFronts : List String :=
  ["/ip/address/add address=", "/ip/pool/add name=", "/ip/dhcp-server/network/add address="]

/-- The command holds no address of the session. -/
def SetsUpOther (c : GeneratedCommand) : Prop :=
  ∃ la lb, c.command = la ++ lb ∧ ∀ front ∈ addressFronts, clash front.toList la.toList = true

theorem commandRests_setsUpOther {front : String} (fa fb : String) {cs : List GeneratedCommand}
    (hfront : front = fa ++ fb) (hfa : fa ∈ addressFronts) (h : ∀ c ∈ cs, SetsUpOther c) :
    commandRests front cs = [] := by
  induction cs with
  | nil => rfl
  | cons c cs ih =>
      obtain ⟨la, lb, hcommand, hclash⟩ := h c List.mem_cons_self
      rw [commandRests_cons_of_clash hfront hcommand (hclash fa hfa)]
      exact ih fun d hd => h d (List.mem_cons_of_mem c hd)

theorem setsUpOther_of_eq {c : GeneratedCommand} (la lb : String) (hcommand : c.command = la ++ lb)
    (h : addressFronts.all (fun front => clash front.toList la.toList) = true) : SetsUpOther c :=
  ⟨la, lb, hcommand, List.all_eq_true.mp h⟩

section Setup

variable (lower : String → String) (config : ProvisioningConfig) (version : Option String)

/-- The commands that come before the addresses. -/
def setupCommands : List GeneratedCommand :=
  let ports := filterWanFromBridgePorts lower config.ports config.wan
  identityCommands config ++ ntpCommands config version ++ [clockCommand config version] ++
    cleanupCommands ++ [bridgeCommand config.bridge] ++
    (if ports.2 then [wanWarning config.wan] else []) ++
    ports.1.map (portCommand config.bridge)

theorem setsUpOther_guarded (body description : String) :
    SetsUpOther (optionalCommand (guarded body) description) := by
  apply setsUpOther_of_eq ":do \x7b "
  · simp only [optionalCommand, guarded, String.append_assoc]
    rfl
  · rfl

theorem setsUpOther_setup : ∀ c ∈ setupCommands lower config version, SetsUpOther c := by
  intro c hc
  simp only [setupCommands, List.mem_append, List.mem_singleton, List.mem_map] at hc
  rcases hc with (((((hc | hc) | rfl) | hc) | rfl) | hc) | ⟨port, -, rfl⟩
  · -- the identity
    unfold identityCommands at hc
    split at hc
    · rw [List.mem_singleton.mp hc]
      exact setsUpOther_of_eq _ _ rfl rfl
    · exact absurd hc List.not_mem_nil
  · -- the time servers
    unfold ntpCommands at hc
    split at hc
    · split at hc
      · rw [List.mem_singleton.mp hc]
        exact setsUpOther_of_eq _ _ rfl rfl
      · rw [List.mem_singleton.mp hc]
        apply setsUpOther_of_eq "/system/ntp/client/set enabled=yes primary-ntp="
        · simp only [optionalCommand, String.append_assoc]
          rfl
        · rfl
    · exact absurd hc List.not_mem_nil
  · -- the clock
    unfold clockCommand
    dsimp only
    split
    · exact setsUpOther_of_eq _ _ rfl rfl
    · apply setsUpOther_of_eq "/system/clock/set time-zone-autodetect=yes" ""
      · rfl
      · rfl
  · -- what an earlier run left behind
    obtain ⟨entry, -, rfl⟩ := List.mem_map.mp hc
    exact setsUpOther_guarded _ _
  · -- the bridge
    exact setsUpOther_of_eq _ _ rfl rfl
  · -- the warning about the WAN interface
    split at hc
    · rw [List.mem_singleton.mp hc]
      apply setsUpOther_of_eq "/system/identity/print" ""
      · rfl
      · rfl
    · exact absurd hc List.not_mem_nil
  · -- a port
    apply setsUpOther_of_eq ":do \x7b "
    · simp only [portCommand, criticalCommand, guarded, String.append_assoc]
      rfl
    · rfl

end Setup

section Network

variable (config : ProvisioningConfig) (cidr : ℤ) (net : NetworkConfig)

theorem networkCommands_address :
    commandRests "/ip/address/add address=" (networkCommands config cidr net) =
      [config.gateway.getD net.gateway ++ "/" ++ toString cidr ++ " interface=" ++ config.bridge] := by
  have hfront : "/ip/address/add address=" = "/ip/address/add address=" ++ "" :=
    String.append_empty.symm
  simp only [networkCommands, criticalCommand, optionalCommand, String.append_assoc]
  refine (commandRests_cons_of_eq rfl).trans (congrArg _ ?_)
  refine (commandRests_cons_of_clash hfront rfl rfl).trans ?_
  refine (commandRests_cons_of_clash hfront rfl rfl).trans ?_
  refine (commandRests_cons_of_clash hfront rfl rfl).trans ?_
  refine (commandRests_cons_of_clash hfront rfl rfl).trans ?_
  exact commandRests_cons_of_clash hfront rfl rfl

theorem networkCommands_pool :
    commandRests ("/ip/pool/add name=" ++ config.pool ++ " ranges=") (networkCommands config cidr net) =
      [config.ipPoolStart.getD net.poolStart ++ "-" ++ config.ipPoolEnd.getD net.poolEnd] := by
  simp only [networkCommands, criticalCommand, optionalCommand, String.append_assoc]
  refine (commandRests_cons_of_clash rfl rfl rfl).trans ?_
  refine (commandRests_cons_of_eq (by simp only [String.append_assoc])).trans (congrArg _ ?_)
  refine (commandRests_cons_of_clash rfl rfl rfl).trans ?_
  refine (commandRests_cons_of_clash rfl rfl rfl).trans ?_
  refine (commandRests_cons_of_clash rfl rfl rfl).trans ?_
  exact commandRests_cons_of_clash rfl rfl rfl

theorem networkCommands_dhcp :
    commandRests ("/ip/dhcp-server/network/add address=" ++ config.subnet ++ "/" ++ toString cidr)
        (networkCommands config cidr net) =
      [" gateway=" ++ config.gateway.getD net.gateway ++ " dns-server=" ++
        config.gateway.getD net.gateway ++ " comment=codevertex-dhcp-network"] := by
  simp only [networkCommands, criticalCommand, optionalCommand, String.append_assoc]
  refine (commandRests_cons_of_clash rfl rfl rfl).trans ?_
  refine (commandRests_cons_of_clash rfl rfl rfl).trans ?_
  refine (commandRests_cons_of_clash rfl rfl rfl).trans ?_
  refine (commandRests_cons_of_clash rfl rfl rfl).trans ?_
  refine (commandRests_cons_of_eq (by simp only [String.append_assoc])).trans (congrArg _ ?_)
  exact commandRests_cons_of_clash rfl rfl rfl

end Network

theorem generate_eq_some {lower : String → String} {config : ProvisioningConfig}
    {serviceType : ServiceType} {version : Option String} {cidr : ℤ} {net : NetworkConfig}
    (hcidr : config.cidrValue = some cidr) (hnet : calculateNetworkConfig config.subnet cidr = some net) :
    generateConfigurationCommands lower config serviceType version =
      some (setupCommands lower config version ++ networkCommands config cidr net) := by
  simp [generateConfigurationCommands, hcidr, hnet, setupCommands]

theorem append_inj_of_notMem {sep : Char} {x y r r' : List Char} (hx : sep ∉ x) (hy : sep ∉ y)
    (h : x ++ sep :: r = y ++ sep :: r') : x = y ∧ r = r' := by
  have hcut := splitFirst_append hx r
  rw [h, splitFirst_append hy] at hcut
  simp only [Prod.mk.injEq, Option.some.injEq] at hcut
  exact ⟨hcut.1.symm, hcut.2.symm⟩

theorem consistentAddressing_iff {lower : String → String} {config : ProvisioningConfig}
    {version : Option String} {subnet : Address} {cidr : ℕ} {net : NetworkConfig}
    {ga gb gc gd sa sb sc sd ea eb ec ed : ℕ} (hsubnet : config.subnet = subnet.text)
    (hgateway : config.gateway.getD net.gateway = dotted ga gb gc gd)
    (hstart : config.ipPoolStart.getD net.poolStart = dotted sa sb sc sd)
    (hend : config.ipPoolEnd.getD net.poolEnd = dotted ea eb ec ed) :
    ConsistentAddressing config.bridge config.pool subnet cidr
        (setupCommands lower config version ++ networkCommands config cidr net) ↔
      ∃ gateway poolStart poolEnd : Address, gateway.text = dotted ga gb gc gd ∧
        poolStart.text = dotted sa sb sc sd ∧ poolEnd.text = dotted ea eb ec ed ∧
        AddressesFit cidr subnet gateway poolStart poolEnd := by
  have hother := setsUpOther_setup lower config version
  have hslash := notMem_dotted (s := '/') rfl (by decide) ga gb gc gd
  have hdash := notMem_dotted (s := '-') rfl (by decide) sa sb sc sd
  have hcidr : toString (cidr : ℤ) = toString cidr := rfl
  unfold ConsistentAddressing
  simp only [commandRests_append]
  rw [commandRests_setsUpOther "/ip/address/add address=" "" String.append_empty.symm
      (by simp [addressFronts]) hother, networkCommands_address,
    commandRests_setsUpOther "/ip/pool/add name=" _ String.append_assoc
      (by simp [addressFronts]) hother, networkCommands_pool, ← hsubnet, ← hcidr,
    commandRests_setsUpOther "/ip/dhcp-server/network/add address=" 
      (config.subnet ++ ("/" ++ toString (cidr : ℤ)))
      (by simp only [String.append_assoc]) (by simp [addressFronts]) hother, networkCommands_dhcp]
  simp only [List.nil_append, List.cons.injEq, and_true, hgateway, hstart, hend]
  constructor
  · rintro ⟨gateway, poolStart, poolEnd, haddress, hpool, -, hfit⟩
    have haddressList := congrArg String.toList haddress
    have hpoolList := congrArg String.toList hpool
    simp only [String.toList_append, List.append_assoc] at haddressList hpoolList
    have hg := append_inj_of_notMem hslash (Address.notMem_text rfl (by decide) gateway) haddressList
    have hs := append_inj_of_notMem hdash (Address.notMem_text rfl (by decide) poolStart) hpoolList
    exact ⟨gateway, poolStart, poolEnd, (String.toList_injective hg.1).symm,
      (String.toList_injective hs.1).symm, (String.toList_injective hs.2).symm, hfit⟩
  · rintro ⟨gateway, poolStart, poolEnd, hg, hs, he, hfit⟩
    refine ⟨gateway, poolStart, poolEnd, ?_, ?_, ?_, hfit⟩
    · rw [hg]
    · rw [hs, he]
    · rw [hg]

/-! ### The calculated addresses -/

theorem parseInt_toString (n : ℕ) : parseInt (toString n) = some (n : ℤ) := by
  rw [Nat.toString_eq_ofList_toDigits,
    parseInt_digits Nat.toDigits_ne_nil Numeral.isDigit_of_mem_toDigits,
    Nat.ofDigitChars_ten_toDigits]

/-- The third octet of the calculated gateway. -/
def firstThird (cidr c : ℕ) : ℕ := if cidr = 16 then 0 else c

/-- The third octet of the calculated end of the pool. -/
def lastThird (cidr c : ℕ) : ℕ :=
  if cidr = 16 then 255 else if cidr = 22 then c + 3 else if cidr = 23 then c + 1 else c

theorem calculateNetworkConfig_dotted (a b c d cidr : ℕ) :
    calculateNetworkConfig (dotted a b c d) cidr = some
      { gateway := dotted a b (firstThird cidr c) 1
        poolStart := dotted a b (firstThird cidr c) 2
        poolEnd := dotted a b (lastThird cidr c) 254
        network := dotted a b c d ++ "/" ++ toString cidr } := by
  have hcidr : toString (cidr : ℤ) = toString cidr := rfl
  have h3 : toString ((c : ℤ) + 3) = toString (c + 3) := rfl
  have h1 : toString ((c : ℤ) + 1) = toString (c + 1) := rfl
  have h16' : ((cidr : ℤ) = 16) = (cidr = 16) := by rw [eq_iff_iff]; omega
  have h22' : ((cidr : ℤ) = 22) = (cidr = 22) := by rw [eq_iff_iff]; omega
  have h23' : ((cidr : ℤ) = 23) = (cidr = 23) := by rw [eq_iff_iff]; omega
  have hdotted : ∀ k n : ℕ, toString a ++ "." ++ toString b ++ "." ++ toString k ++ ("." ++ toString n) =
      dotted a b k n := by
    intro k n
    simp only [dotted, String.append_assoc]
  unfold calculateNetworkConfig
  simp only [split_dotted, hcidr, List.getElem?_cons_zero, List.getElem?_cons_succ,
    Option.bind_eq_bind, Option.bind_some, Option.pure_def, parseInt_toString, h3, h1,
    h16', h22', h23']
  by_cases h16 : cidr = 16
  · simp only [firstThird, lastThird, if_pos h16, ← hdotted, String.append_assoc]
    rfl
  · by_cases h22 : cidr = 22
    · simp only [firstThird, lastThird, if_neg h16, if_pos h22, ← hdotted, String.append_assoc]
      rfl
    · by_cases h23 : cidr = 23
      · simp only [firstThird, lastThird, if_neg h16, if_neg h22, if_pos h23, ← hdotted,
          String.append_assoc]
        rfl
      · simp only [firstThird, lastThird, if_neg h16, if_neg h22, if_neg h23, ← hdotted,
          String.append_assoc]
        rfl

/-! ### When addresses belong together -/

theorem lt_add_of_div_eq {x y k : ℕ} (hk : 0 < k) (h : x / k = y / k) : y < x + k := by
  have hx := Nat.div_mul_le_self x k
  have hy := Nat.lt_div_mul_add hk (a := y)
  rw [h] at hx
  omega

section Blocks

variable {cidr a b c d : ℕ}

theorem div_size_of_le (h24 : cidr ≤ 24) (hd : d < 256) {d' : ℕ} (hd' : d' < 256) :
    Address.number a b c d / size cidr = Address.number a b c d' / size cidr := by
  have hsize : size 24 = 256 := rfl
  rw [size_eq_mul h24 (by decide), ← Nat.div_div_eq_div_mul, ← Nat.div_div_eq_div_mul, hsize]
  congr 1
  unfold Address.number
  omega

theorem size_le_of_lt (h24 : 24 < cidr) : size cidr ≤ 128 := by
  have hsize : size 25 = 128 := rfl
  rw [← hsize]
  exact Nat.pow_le_pow_right (by decide) (by omega)

theorem not_div_size_eq (h24 : 24 < cidr) {n : ℕ}
    (h1 : n / size cidr = Address.number a b c 1 / size cidr)
    (h254 : n / size cidr = Address.number a b c 254 / size cidr) : False := by
  have hle := size_le_of_lt h24
  have hlt := lt_add_of_div_eq (size_pos cidr) (h1.symm.trans h254)
  unfold Address.number at hlt
  omega

end Blocks

theorem exists_addressesFit_iff {cidr : ℕ} {subnet : Address} {ga gb gc gd sa sb sc sd ea eb ec ed : ℕ} :
    (∃ gateway poolStart poolEnd : Address, gateway.text = dotted ga gb gc gd ∧
        poolStart.text = dotted sa sb sc sd ∧ poolEnd.text = dotted ea eb ec ed ∧
        AddressesFit cidr subnet gateway poolStart poolEnd) ↔
      ((ga < 256 ∧ gb < 256 ∧ gc < 256 ∧ gd < 256) ∧ (sa < 256 ∧ sb < 256 ∧ sc < 256 ∧ sd < 256) ∧
        (ea < 256 ∧ eb < 256 ∧ ec < 256 ∧ ed < 256)) ∧
      subnet.value / size cidr = Address.number ga gb gc gd / size cidr ∧
      subnet.value / size cidr = Address.number sa sb sc sd / size cidr ∧
      subnet.value / size cidr = Address.number ea eb ec ed / size cidr ∧
      Address.number sa sb sc sd ≤ Address.number ea eb ec ed ∧
      ¬ (Address.number sa sb sc sd ≤ Address.number ga gb gc gd ∧
        Address.number ga gb gc gd ≤ Address.number ea eb ec ed) := by
  constructor
  · rintro ⟨g, s, e, hg, hs, he, hfit⟩
    obtain ⟨hg, hgv⟩ := Address.text_eq_dotted_iff.mp hg
    obtain ⟨hs, hsv⟩ := Address.text_eq_dotted_iff.mp hs
    obtain ⟨he, hev⟩ := Address.text_eq_dotted_iff.mp he
    unfold AddressesFit Inside at hfit
    rw [hgv, hsv, hev] at hfit
    exact ⟨⟨hg, hs, he⟩, hfit⟩
  · rintro ⟨⟨hg, hs, he⟩, hfit⟩
    exact ⟨.ofOctets _ _ _ _ hg, .ofOctets _ _ _ _ hs, .ofOctets _ _ _ _ he,
      Address.text_ofOctets hg, Address.text_ofOctets hs, Address.text_ofOctets he, hfit⟩

/-- The network of the addresses that `_validate_configuration` fills in. -/
def defaultPool : Address := .ofOctets 172 31 1 0 (by decide)

/-- The subnets whose sessions get addresses that belong together. -/
def AddressingFits (subnet : Address) (cidr : ℕ) : ServiceType → Prop
  | .hotspot => False
  | .pppoeServer =>
      cidr ≤ 23 ∧ Inside cidr subnet defaultPool ∧ (cidr = 16 ∨ ¬ Inside 24 subnet defaultPool)
  | .both | .bridge =>
      cidr ≤ 24 ∧ (cidr = 22 → 4 ∣ subnet.third) ∧ (cidr = 23 → 2 ∣ subnet.third)

section Fits

variable {cidr a b c d : ℕ} {subnet : Address}

theorem calculated_fit_iff (ha : a < 256) (hb : b < 256) (hc : c < 256) (hd : d < 256)
    (hvalue : subnet.value = Address.number a b c d) :
    (∃ gateway poolStart poolEnd : Address, gateway.text = dotted a b (firstThird cidr c) 1 ∧
        poolStart.text = dotted a b (firstThird cidr c) 2 ∧
        poolEnd.text = dotted a b (lastThird cidr c) 254 ∧
        AddressesFit cidr subnet gateway poolStart poolEnd) ↔
      cidr ≤ 24 ∧ (cidr = 22 → 4 ∣ c) ∧ (cidr = 23 → 2 ∣ c) := by
  rw [exists_addressesFit_iff, hvalue]
  by_cases h16 : cidr = 16
  · subst h16
    simp only [firstThird, lastThird, if_true, Address.number, size]
    omega
  · rw [firstThird, if_neg h16, lastThird, if_neg h16]
    by_cases h22 : cidr = 22
    · subst h22
      simp only [if_true, Address.number, size]
      constructor
      · intro h
        exact ⟨by decide, fun _ => by omega, fun h23 => absurd h23 (by decide)⟩
      · rintro ⟨-, hdvd, -⟩
        have h4 := hdvd trivial
        omega
    · rw [if_neg h22]
      by_cases h23 : cidr = 23
      · subst h23
        simp only [if_true, Address.number, size]
        constructor
        · intro h
          exact ⟨by decide, fun h22 => absurd h22 (by decide), fun _ => by omega⟩
        · rintro ⟨-, -, hdvd⟩
          have h2 := hdvd trivial
          omega
      · rw [if_neg h23]
        constructor
        · rintro ⟨-, h1, -, h254, -⟩
          refine ⟨?_, fun h => absurd h h22, fun h => absurd h h23⟩
          by_contra hlong
          exact not_div_size_eq (by omega) h1 h254
        · rintro ⟨h24, -, -⟩
          refine ⟨by omega, div_size_of_le h24 hd (by decide), div_size_of_le h24 hd (by decide),
            div_size_of_le h24 hd (by decide), ?_, ?_⟩
          · unfold Address.number
            omega
          · unfold Address.number
            omega

theorem firstThird_lt (hc : c < 256) : firstThird cidr c < 256 := by
  unfold firstThird
  split <;> omega

theorem div_size_gateway (h24 : cidr ≤ 24) (hc : c < 256) (hd : d < 256) :
    Address.number a b c d / size cidr = Address.number a b (firstThird cidr c) 1 / size cidr := by
  by_cases h16 : cidr = 16
  · subst h16
    simp only [firstThird, if_true, Address.number, size]
    omega
  · rw [firstThird, if_neg h16]
    exact div_size_of_le h24 hd (by decide)

theorem inside_defaultPool_iff (hb : b < 256) (hc : c < 256) (hd : d < 256)
    (hvalue : subnet.value = Address.number a b c d) :
    Inside 24 subnet defaultPool ↔ a = 172 ∧ b = 31 ∧ c = 1 := by
  have hpool : defaultPool.value = Address.number 172 31 1 0 := rfl
  unfold Inside
  rw [hvalue, hpool]
  simp only [Address.number, size]
  omega

theorem gateway_in_defaultPool_iff (hb : b < 256) (hc : c < 256) :
    (Address.number 172 31 1 1 ≤ Address.number a b (firstThird cidr c) 1 ∧
      Address.number a b (firstThird cidr c) 1 ≤ Address.number 172 31 1 254) ↔
      a = 172 ∧ b = 31 ∧ firstThird cidr c = 1 := by
  have hfirst : firstThird cidr c < 256 := firstThird_lt hc
  unfold Address.number
  omega

/-- The pool that `_validate_configuration` fills in, with the calculated gateway. -/
theorem defaultPool_fit_iff (ha : a < 256) (hb : b < 256) (hc : c < 256) (hd : d < 256)
    (hvalue : subnet.value = Address.number a b c d) :
    (∃ gateway poolStart poolEnd : Address, gateway.text = dotted a b (firstThird cidr c) 1 ∧
        poolStart.text = dotted 172 31 1 1 ∧ poolEnd.text = dotted 172 31 1 254 ∧
        AddressesFit cidr subnet gateway poolStart poolEnd) ↔
      cidr ≤ 23 ∧ Inside cidr subnet defaultPool ∧ (cidr = 16 ∨ ¬ Inside 24 subnet defaultPool) := by
  have hpool : defaultPool.value = Address.number 172 31 1 0 := rfl
  have hfirst : firstThird cidr c < 256 := firstThird_lt hc
  rw [exists_addressesFit_iff, gateway_in_defaultPool_iff hb hc,
    inside_defaultPool_iff hb hc hd hvalue]
  unfold Inside
  rw [hvalue, hpool]
  constructor
  · rintro ⟨-, hgateway, h1, h254, -, hout⟩
    have h24 : cidr ≤ 24 := by
      by_contra hlong
      exact not_div_size_eq (by omega) h1 h254
    have hin : Address.number a b c d / size cidr = Address.number 172 31 1 0 / size cidr :=
      h1.trans (div_size_of_le h24 (by decide) (by decide))
    have hne : cidr ≠ 24 := by
      rintro rfl
      have hsize : size 24 = 256 := rfl
      rw [hsize] at hin
      unfold Address.number at hin
      apply hout
      rw [firstThird, if_neg (by decide)]
      omega
    refine ⟨by omega, hin, ?_⟩
    by_cases h16 : cidr = 16
    · exact Or.inl h16
    · rw [firstThird, if_neg h16] at hout
      exact Or.inr hout
  · rintro ⟨h23, hin, hout⟩
    have h24 : cidr ≤ 24 := by omega
    refine ⟨by omega, div_size_gateway h24 hc hd, hin.trans (div_size_of_le h24 (by decide) (by decide)),
      hin.trans (div_size_of_le h24 (by decide) (by decide)), by decide, ?_⟩
    rintro ⟨ha, hb, hthird⟩
    rcases hout with rfl | hout
    · simp [firstThird] at hthird
    · by_cases h16 : cidr = 16
      · rw [firstThird, if_pos h16] at hthird
        omega
      · rw [firstThird, if_neg h16] at hthird
        exact hout ⟨ha, hb, hthird⟩

/-- The gateway that `_validate_configuration` fills in is the first address of its pool. -/
theorem not_default_fit : ¬ ∃ gateway poolStart poolEnd : Address,
    gateway.text = dotted 172 31 1 1 ∧ poolStart.text = dotted 172 31 1 1 ∧
      poolEnd.text = dotted 172 31 1 254 ∧ AddressesFit cidr subnet gateway poolStart poolEnd := by
  rw [exists_addressesFit_iff]
  rintro ⟨-, -, -, -, -, hout⟩
  exact hout (by decide)

end Fits

/-! ### The addressing of a session -/

section Session

variable (lower : String → String) (urls : ServerUrls) (serviceType : ServiceType)
  (version : Option String) (config : ProvisioningConfig) {subnet : Address} {cidr : ℕ}

theorem validateConfiguration_subnet :
    (validateConfiguration urls serviceType config).subnet = config.subnet := by
  cases serviceType <;> rfl

theorem validateConfiguration_cidrValue :
    (validateConfiguration urls serviceType config).cidrValue = config.cidrValue := by
  cases serviceType <;> rfl

/-- A session that leaves its addresses to the defaults gets commands. -/
theorem exists_generated_commands (hsubnet : config.subnetAddress = some subnet.text)
    (hcidr : config.cidrValue = some (cidr : ℤ)) (hgateway : config.gateway = none)
    (hstart : config.ipPoolStart = none) (hend : config.ipPoolEnd = none) :
    ∃ commands, generateConfigurationCommands lower (validateConfiguration urls serviceType config)
        serviceType version = some commands ∧
      (ConsistentAddressing (validateConfiguration urls serviceType config).bridge
        (validateConfiguration urls serviceType config).pool subnet cidr commands ↔
      AddressingFits subnet cidr serviceType) := by
  obtain ⟨a, b, c, d, ha, hb, hc, hd, hvalue, htext, hthird⟩ := subnet.exists_octets
  have hsub : (validateConfiguration urls serviceType config).subnet = subnet.text := by
    rw [validateConfiguration_subnet, ProvisioningConfig.subnet, hsubnet, Option.getD_some]
  have hnet := calculateNetworkConfig_dotted a b c d cidr
  rw [← htext, ← hsub] at hnet
  refine ⟨_, generate_eq_some ((validateConfiguration_cidrValue urls serviceType config).trans hcidr) hnet, ?_⟩
  cases serviceType with
  | hotspot =>
      refine (consistentAddressing_iff hsub ?_ ?_ ?_).trans (iff_of_false not_default_fit id)
      all_goals simp only [validateConfiguration, hgateway, hstart, hend]; rfl
  | pppoeServer =>
      refine (consistentAddressing_iff hsub ?_ ?_ ?_).trans (defaultPool_fit_iff ha hb hc hd hvalue)
      all_goals simp only [validateConfiguration, hgateway, hstart, hend]; rfl
  | both =>
      rw [AddressingFits, hthird]
      refine (consistentAddressing_iff hsub ?_ ?_ ?_).trans (calculated_fit_iff ha hb hc hd hvalue)
      all_goals simp only [validateConfiguration, hgateway, hstart, hend]; rfl
  | bridge =>
      rw [AddressingFits, hthird]
      refine (consistentAddressing_iff hsub ?_ ?_ ?_).trans (calculated_fit_iff ha hb hc hd hvalue)
      all_goals simp only [validateConfiguration, hgateway, hstart, hend]; rfl

/-- The addresses of a session belong together exactly for the subnets of `AddressingFits`. -/
theorem generated_addressing_iff (hsubnet : config.subnetAddress = some subnet.text)
    (hcidr : config.cidrValue = some (cidr : ℤ)) (hgateway : config.gateway = none)
    (hstart : config.ipPoolStart = none) (hend : config.ipPoolEnd = none) :
    (∃ commands, generateConfigurationCommands lower (validateConfiguration urls serviceType config)
        serviceType version = some commands ∧
      ConsistentAddressing (validateConfiguration urls serviceType config).bridge
        (validateConfiguration urls serviceType config).pool subnet cidr commands) ↔
      AddressingFits subnet cidr serviceType := by
  obtain ⟨commands, hcommands, hiff⟩ := exists_generated_commands lower urls serviceType
    version config hsubnet hcidr hgateway hstart hend
  rw [← hiff]
  constructor
  · rintro ⟨commands', hcommands', hconsistent⟩
    rw [hcommands, Option.some.injEq] at hcommands'
    rwa [hcommands']
  · intro hconsistent
    exact ⟨commands, hcommands, hconsistent⟩

end Session

/-- A configuration with nothing but a subnet. -/
def subnetOnly (subnet : Address) (cidr : ℕ) : ProvisioningConfig where
  subnetAddress := some subnet.text
  cidr := some (.int cidr)
  gateway := none
  ipPoolStart := none
  ipPoolEnd := none
  poolName := none
  bridgeName := none
  wanInterface := none
  identities := (none, none)
  ntpServers := none
  timezone := none
  bridgePorts := none
  interface := none
  dnsServers := none
  dhcpServerName := none
  hotspotName := none
  hotspotProfile := none
  hotspotDnsName := none
  hotspotCaCertName := none
  hotspotCertName := none
  loginTemplateUrl := none
  aloginTemplateUrl := none
  walledGardenHosts := none
  walledGardenIps := none
  billingServerUrl := none
  apiServerUrl := none
  treasuryStatusHost := none
  treasuryUiHost := none
  antiSharing := []
  serviceName := none
  pppProfileName := none
  routerosVersion := none
  rollbackOnFailure := none

def sampleSubnet : Address := .ofOctets 172 31 0 0 (by decide)

theorem generated_addressing_both_16 :
    ∃ commands, generateConfigurationCommands id
        (validateConfiguration ⟨none, none⟩ .both (subnetOnly sampleSubnet 16)) .both none =
          some commands ∧
      ConsistentAddressing "codevertex-bridge" "codevertex-pool" sampleSubnet 16 commands :=
  (generated_addressing_iff id ⟨none, none⟩ .both none (subnetOnly sampleSubnet 16)
    rfl rfl rfl rfl rfl).mpr
    ⟨by decide, by decide, by decide⟩

/-- A hotspot in 172.31.0.0/16 has its gateway in its pool. -/
theorem hotspot_gateway_in_pool :
    ∃ commands, generateConfigurationCommands id
        (validateConfiguration ⟨none, none⟩ .hotspot (subnetOnly sampleSubnet 16)) .hotspot none =
          some commands ∧
      ¬ ConsistentAddressing "codevertex-bridge" "codevertex-pool" sampleSubnet 16 commands := by
  obtain ⟨commands, hcommands, hiff⟩ := exists_generated_commands id ⟨none, none⟩ .hotspot
    none (subnetOnly sampleSubnet 16) rfl rfl rfl rfl rfl
  exact ⟨commands, hcommands, fun hconsistent => hiff.mp hconsistent⟩

end IspBilling
