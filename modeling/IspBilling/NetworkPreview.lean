import IspBilling.Addressing

/-! # The preview of a network

The form for a new session shows the addresses that a subnet leads to.  It asks the endpoint `/calc`,
which takes them from the hosts of the network.  A session takes them from `calculate_network_config`,
which pastes octets together.

`exists_preview` says which hosts the endpoint answers with.  The second host of a network is its
gateway there, and `calculate_network_config` never gives a second host: its gateway ends in `.1`
(`preview_gateway_ne`). -/

namespace IspBilling

open Ipv4

/-! ### The endpoint -/

/-- The answer of `/calc`. -/
structure NetworkPreview where
  subnetAddress : String
  cidr : ℕ
  network : String
  gateway : String
  dhcpPoolStart : String
  dhcpPoolEnd : String
  dhcpPool : String
  networkMask : String
  totalHosts : ℕ
deriving DecidableEq, Repr

/-- The errors of `/calc`, by their status code. -/
inductive PreviewError where
  /-- 422: the prefix length is not from 8 to 30. -/
  | unprocessable
  /-- 400. -/
  | invalidNetworkParameters
deriving DecidableEq, Repr

/-- `calculate_network`. -/
def calculateNetwork (subnetAddress : String) (cidr : ℕ) : Except PreviewError NetworkPreview :=
  if h : 8 ≤ cidr ∧ cidr ≤ 30 then
    match parse subnetAddress with
    | none => .error .invalidNetworkParameters
    | some address =>
        let hosts := hosts cidr (by omega) address
        match if 1 < hosts.length then hosts[1]? else hosts[0]?,
          if 10 < hosts.length then hosts[10]? else hosts[0]?, hosts.getLast? with
        | some gateway, some poolStart, some poolEnd =>
            .ok { subnetAddress := subnetAddress
                  cidr := cidr
                  network := (networkAddress cidr (by omega) address).text ++ "/" ++ toString cidr
                  gateway := gateway.text
                  dhcpPoolStart := poolStart.text
                  dhcpPoolEnd := poolEnd.text
                  dhcpPool := poolStart.text ++ " - " ++ poolEnd.text
                  networkMask := (netmask cidr).text
                  totalHosts := hosts.length }
        | _, _, _ => .error .invalidNetworkParameters
  else .error .unprocessable

/-- The preview of a subnet shows the addresses that its sessions get, with the gateway outside the
pool. -/
def PreviewMatches (subnet : Address) (cidr : ℕ) : Prop :=
  ∃ preview net, calculateNetwork subnet.text cidr = .ok preview ∧
    calculateNetworkConfig subnet.text cidr = some net ∧
    preview.gateway = net.gateway ∧ preview.dhcpPoolStart = net.poolStart ∧
    preview.dhcpPoolEnd = net.poolEnd ∧
    ∃ gateway poolStart poolEnd : Address, preview.gateway = gateway.text ∧
      preview.dhcpPoolStart = poolStart.text ∧ preview.dhcpPoolEnd = poolEnd.text ∧
      ¬ (poolStart.value ≤ gateway.value ∧ gateway.value ≤ poolEnd.value)

/-! ### What the endpoint answers -/

section Preview

variable (subnet : Address) {cidr : ℕ}

theorem four_dvd_size (h30 : cidr ≤ 30) : 4 ∣ size cidr := by
  have hsize := size_eq_mul h30 (by decide)
  have h4 : size 30 = 4 := rfl
  rw [h4] at hsize
  exact ⟨_, hsize⟩

theorem ten_lt_hosts_iff (h30 : cidr ≤ 30) : 10 < size cidr - 2 ↔ cidr ≤ 28 := by
  constructor
  · intro hlt
    by_contra hlong
    have hsize : size cidr ≤ size 29 := Nat.pow_le_pow_right (by decide) (by omega)
    have h8 : size 29 = 8 := rfl
    omega
  · intro h28
    have hsize : size 28 ≤ size cidr := Nat.pow_le_pow_right (by decide) (by omega)
    have h16 : size 28 = 16 := rfl
    omega

theorem exists_preview (h8 : 8 ≤ cidr) (h30 : cidr ≤ 30) :
    ∃ preview, calculateNetwork subnet.text cidr = .ok preview ∧
      ∃ gateway poolStart poolEnd : Address, preview.gateway = gateway.text ∧
        preview.dhcpPoolStart = poolStart.text ∧ preview.dhcpPoolEnd = poolEnd.text ∧
        gateway.value = base cidr subnet + 2 ∧
        poolStart.value = base cidr subnet + (if cidr ≤ 28 then 11 else 1) ∧
        poolEnd.value = base cidr subnet + (size cidr - 2) := by
  have h4 := four_dvd_size h30
  have hpos := size_pos cidr
  have hlen : cidr ≤ 32 := by omega
  have hlength := length_hosts cidr hlen subnet
  obtain ⟨gateway, hgateway, hgatewayValue⟩ := getElem?_hosts hlen subnet (k := 1) (by omega)
  obtain ⟨poolEnd, hpoolEnd, hendValue⟩ :=
    getElem?_hosts hlen subnet (k := size cidr - 2 - 1) (by omega)
  have hpoolStart : ∃ poolStart, (if 10 < size cidr - 2 then (hosts cidr hlen subnet)[10]?
      else (hosts cidr hlen subnet)[0]?) = some poolStart ∧
      poolStart.value = base cidr subnet + (if cidr ≤ 28 then 11 else 1) := by
    by_cases h28 : cidr ≤ 28
    · rw [if_pos h28, if_pos ((ten_lt_hosts_iff h30).mpr h28)]
      exact getElem?_hosts hlen subnet ((ten_lt_hosts_iff h30).mpr h28)
    · rw [if_neg h28, if_neg (fun hlt => h28 ((ten_lt_hosts_iff h30).mp hlt))]
      exact getElem?_hosts hlen subnet (by omega)
  obtain ⟨poolStart, hpoolStart, hstartValue⟩ := hpoolStart
  have hpreview : calculateNetwork subnet.text cidr = .ok
      { subnetAddress := subnet.text
        cidr := cidr
        network := (networkAddress cidr hlen subnet).text ++ "/" ++ toString cidr
        gateway := gateway.text
        dhcpPoolStart := poolStart.text
        dhcpPoolEnd := poolEnd.text
        dhcpPool := poolStart.text ++ " - " ++ poolEnd.text
        networkMask := (netmask cidr).text
        totalHosts := size cidr - 2 } := by
    unfold calculateNetwork
    rw [dif_pos ⟨h8, h30⟩, parse_text]
    dsimp only
    rw [hlength, if_pos (by omega), hgateway, hpoolStart, List.getLast?_eq_getElem?, hlength, hpoolEnd]
  refine ⟨_, hpreview, gateway, poolStart, poolEnd, rfl, rfl, rfl, hgatewayValue, hstartValue, ?_⟩
  rw [hendValue]
  omega

/-- The previewed gateway is the second host, and a session's gateway ends in `.1`. -/
theorem preview_gateway_ne (h8 : 8 ≤ cidr) (h30 : cidr ≤ 30) :
    ∃ preview net, calculateNetwork subnet.text cidr = .ok preview ∧
      calculateNetworkConfig subnet.text cidr = some net ∧ preview.gateway ≠ net.gateway := by
  obtain ⟨a, b, c, d, -, -, -, -, -, htext, -⟩ := subnet.exists_octets
  obtain ⟨preview, hpreview, gateway, -, -, hgateway, -, -, hvalue, -⟩ :=
    exists_preview subnet h8 h30
  have hnet := calculateNetworkConfig_dotted a b c d cidr
  rw [← htext] at hnet
  refine ⟨preview, _, hpreview, hnet, ?_⟩
  intro heq
  rw [hgateway] at heq
  have hoctets := (Address.text_eq_dotted_iff.mp heq).2
  -- the first address of the network is a multiple of 4
  have hbase : 4 ∣ base cidr subnet := Dvd.dvd.mul_left (four_dvd_size h30) _
  rw [hvalue] at hoctets
  unfold Address.number at hoctets
  omega

/-- The previewed gateway is in the previewed pool exactly when the network has at most ten hosts. -/
theorem preview_gateway_in_pool_iff (h8 : 8 ≤ cidr) (h30 : cidr ≤ 30) :
    ∃ preview, calculateNetwork subnet.text cidr = .ok preview ∧
      ∃ gateway poolStart poolEnd : Address, preview.gateway = gateway.text ∧
        preview.dhcpPoolStart = poolStart.text ∧ preview.dhcpPoolEnd = poolEnd.text ∧
        ((poolStart.value ≤ gateway.value ∧ gateway.value ≤ poolEnd.value) ↔ 28 < cidr) := by
  obtain ⟨preview, hpreview, gateway, poolStart, poolEnd, hgateway, hstart, hend, hg, hs, he⟩ :=
    exists_preview subnet h8 h30
  refine ⟨preview, hpreview, gateway, poolStart, poolEnd, hgateway, hstart, hend, ?_⟩
  have h4 := four_dvd_size h30
  have hpos := size_pos cidr
  rw [hg, hs, he]
  split <;> omega

/-- The preview never matches what is provisioned: both answer, with different gateways. -/
theorem preview_never_matches (h8 : 8 ≤ cidr) (h30 : cidr ≤ 30) :
    (∃ preview net, calculateNetwork subnet.text cidr = .ok preview ∧
      calculateNetworkConfig subnet.text cidr = some net) ∧ ¬ PreviewMatches subnet cidr := by
  obtain ⟨preview, net, hpreview, hnet, hne⟩ := preview_gateway_ne subnet h8 h30
  refine ⟨⟨preview, net, hpreview, hnet⟩, ?_⟩
  rintro ⟨preview', net', hpreview', hnet', hgateway, -⟩
  rw [hpreview, Except.ok.injEq] at hpreview'
  rw [hnet, Option.some.injEq] at hnet'
  rw [← hpreview', ← hnet'] at hgateway
  exact hne hgateway

end Preview

theorem preview_never_matches_16 :
    8 ≤ 16 ∧ 16 ≤ 30 ∧ ¬ PreviewMatches sampleSubnet 16 :=
  ⟨by decide, by decide, (preview_never_matches sampleSubnet (by decide) (by decide)).2⟩

/-- 172.31.0.0/16: the preview shows another gateway than the session gets. -/
theorem preview_differs_16 :
    ∃ preview net, calculateNetwork "172.31.0.0" 16 = .ok preview ∧
      calculateNetworkConfig "172.31.0.0" 16 = some net ∧
      preview.gateway = "172.31.0.2" ∧ net.gateway = "172.31.0.1" := by
  obtain ⟨preview, hpreview, gateway, -, -, hgateway, -, -, hvalue, -⟩ :=
    exists_preview sampleSubnet (show 8 ≤ 16 by decide) (by decide)
  have htext : gateway.text = dotted 172 31 0 2 :=
    Address.text_eq_dotted_iff.mpr ⟨by decide, hvalue⟩
  exact ⟨preview, _, hpreview, calculateNetworkConfig_dotted 172 31 0 0 16, hgateway.trans htext, rfl⟩

end IspBilling
