import IspBilling.Ipv4
import IspBilling.TenantIsolation

/-! # Tunnel addresses

Every router that is enrolled in the VPN has an address of the tunnel's subnet, which
`WireGuardService` (`app/services/wireguard.py`) assigns: `allocate_ip` takes the first host that is not
the server and that no router has.  `register_peer` assigns one when a router reports its key, and the
bootstrap and enrolment scripts reserve one before that.

`tunnel_addresses` is about any sequence of these, with routers that come and go: the addresses are
distinct hosts, a router keeps the one that it has, and the allocation fails only when no host is
left. -/

namespace IspBilling

open Ipv4 PythonText Rows Runs

/-! ### The subnet -/

/-- `settings.wg_subnet`: an address of the network, and a prefix of at most 30 bits. -/
structure Subnet where
  address : Address
  len : ℕ
  len_le : len ≤ 30

namespace Subnet

variable (subnet : Subnet)

theorem len_le_32 : subnet.len ≤ 32 := by
  have h := subnet.len_le
  omega

theorem four_le_size : 4 ≤ size subnet.len := by
  have hpow : 2 ^ 2 ≤ 2 ^ (32 - subnet.len) := by
    apply Nat.pow_le_pow_right (by decide)
    have h := subnet.len_le
    omega
  exact hpow

/-- The address at a distance from the first one. -/
def nth (k : ℕ) (hk : k < size subnet.len) : Address :=
  ⟨base subnet.len subnet.address + k, base_add_lt subnet.len_le_32 subnet.address hk⟩

/-- `network_address`. -/
def network : Address := networkAddress subnet.len subnet.len_le_32 subnet.address

/-- `broadcast_address`. -/
def broadcast : Address :=
  subnet.nth (size subnet.len - 1) (Nat.sub_lt (size_pos subnet.len) (by decide))

/-- `server_address`: `network_address + 1`. -/
def server : Address :=
  subnet.nth 1 (by
    have h := subnet.four_le_size
    omega)

/-- `hosts()`. -/
def hosts : List Address := Ipv4.hosts subnet.len subnet.len_le_32 subnet.address

/-- The settings with this subnet. -/
def settings (cfg : ProvisioningSettings) : ProvisioningSettings :=
  { cfg with
    tunnelHosts := subnet.hosts.map Address.text
    tunnelServer := subnet.server.text }

variable {subnet}

theorem ne_of_mem_hosts {y : Address} (h : y ∈ subnet.hosts) :
    y ≠ subnet.network ∧ y ≠ subnet.broadcast := by
  obtain ⟨k, hk⟩ := List.mem_ofFn.mp h
  have hvalue : base subnet.len subnet.address + (1 + k) = y.value := congrArg Address.value hk
  have hbound := k.isLt
  refine ⟨?_, ?_⟩
  · rintro rfl
    have hnetwork : subnet.network.value = base subnet.len subnet.address := rfl
    omega
  · rintro rfl
    have hbroadcast : subnet.broadcast.value =
        base subnet.len subnet.address + (size subnet.len - 1) := rfl
    omega

end Subnet

/-! ### The service -/

namespace Provisioning

/-- `allocate_ip(router)`: a router keeps the address that it has.  `none` for `RuntimeError`. -/
def allocateFor (s : Provisioning) (cfg : ProvisioningSettings) (r : ManagedRouter) : Option String :=
  (given r.vpnAddress).or (s.allocateIp cfg)

/-- A router, and an allocated address that `write` puts into it; `none` if there is none. -/
def storeTunnel (s : Provisioning) (cfg : ProvisioningSettings) (routerId : ℕ)
    (write : String → ManagedRouter → ManagedRouter) (hwrite : ∀ a r, (write a r).id = r.id) :
    Option Provisioning :=
  (s.routers.get routerId).bind fun r =>
    (s.allocateFor cfg r).map fun address =>
      { s with routers := s.routers.update r.id (write address) (hwrite address) }

/-- `register_peer`; `none` if it raises. -/
def registerPeer (s : Provisioning) (cfg : ProvisioningSettings) (routerId : ℕ) (publicKey : String) :
    Option Provisioning :=
  let key := String.ofList (strip publicKey.toList)
  if key = "" then none
  else
    s.storeTunnel cfg routerId (ManagedRouter.registerPeer key) (ManagedRouter.registerPeer_id key)

/-- `router.vpn_address = allocate_ip(router)`, as the scripts do; `none` if it raises. -/
def reserveTunnel (s : Provisioning) (cfg : ProvisioningSettings) (routerId : ℕ) :
    Option Provisioning :=
  s.storeTunnel cfg routerId (fun address => ManagedRouter.assignTunnel (some address))
    (fun address => ManagedRouter.assignTunnel_id (some address))

end Provisioning

inductive TunnelEvent where
  /-- A router is created, without a tunnel. -/
  | add (router : ManagedRouter)
  | register (routerId : ℕ) (publicKey : String)
  | reserve (routerId : ℕ)
  | delete (routerId : ℕ)

namespace Provisioning

def tunnelStep (cfg : ProvisioningSettings) (s : Provisioning) : TunnelEvent → Provisioning
  | .add router => { s with routers := s.routers.insert { router with vpnAddress := none } }
  | .register routerId publicKey => (s.registerPeer cfg routerId publicKey).getD s
  | .reserve routerId => (s.reserveTunnel cfg routerId).getD s
  | .delete routerId => { s with routers := s.routers.delete routerId }

/-- The addresses are distinct hosts of the subnet, and none is special. -/
structure TunnelsGood (subnet : Subnet) (s : Provisioning) : Prop where
  host : ∀ r ∈ s.routers.rows, ∀ a, r.vpnAddress = some a → ∃ y ∈ subnet.hosts, y.text = a ∧
    y ≠ subnet.network ∧ y ≠ subnet.broadcast ∧ y ≠ subnet.server
  distinct : ∀ r ∈ s.routers.rows, ∀ r' ∈ s.routers.rows, ∀ a, r.vpnAddress = some a →
    r'.vpnAddress = some a → r = r'

/-- Every host but the server is in use. -/
def TunnelsFull (subnet : Subnet) (s : Provisioning) : Prop :=
  ∀ y ∈ subnet.hosts, y ≠ subnet.server → ∃ r ∈ s.routers.rows, r.vpnAddress = some y.text

def HasTunnel (s : Provisioning) (routerId : ℕ) (address : String) : Prop :=
  ∃ r ∈ s.routers.rows, r.id = routerId ∧ r.vpnAddress = some address

/-! ### The allocation -/

section Allocation

variable {subnet : Subnet} {cfg : ProvisioningSettings} {s : Provisioning}

theorem allocateIp_some {a : String} (h : s.allocateIp (subnet.settings cfg) = some a) :
    (∃ y ∈ subnet.hosts, y.text = a ∧ y ≠ subnet.server) ∧
      ∀ r ∈ s.routers.rows, r.vpnAddress ≠ some a := by
  unfold allocateIp at h
  have hfree := List.find?_some h
  rw [decide_eq_true_eq] at hfree
  obtain ⟨y, hy, rfl⟩ := List.mem_map.mp (List.mem_of_find?_eq_some h)
  refine ⟨⟨y, hy, rfl, ?_⟩, hfree.2⟩
  rintro rfl
  exact hfree.1 rfl

theorem allocateIp_none (h : s.allocateIp (subnet.settings cfg) = none) : s.TunnelsFull subnet := by
  intro y hy hserver
  unfold allocateIp at h
  rw [List.find?_eq_none] at h
  have hused := h y.text (List.mem_map_of_mem hy)
  rw [decide_eq_true_eq, not_and] at hused
  have hsome := hused (fun heq => hserver (Address.text_injective heq))
  push Not at hsome
  exact hsome

theorem allocateFor_none {r : ManagedRouter} (h : s.allocateFor (subnet.settings cfg) r = none) :
    s.TunnelsFull subnet := by
  unfold allocateFor at h
  exact allocateIp_none (Option.or_eq_none_iff.mp h).2

end Allocation

/-! ### One step -/

section Steps

variable {subnet : Subnet} {cfg : ProvisioningSettings} {s : Provisioning}

/-- **Inversion**: an address is stored in the row of a router, or nothing happens. -/
theorem storeTunnel_cases {routerId : ℕ} {write : String → ManagedRouter → ManagedRouter}
    {hwrite : ∀ a r, (write a r).id = r.id} :
    (s.storeTunnel cfg routerId write hwrite).getD s = s ∨
      ∃ r ∈ s.routers.rows, ∃ a, s.allocateFor cfg r = some a ∧
        ((s.storeTunnel cfg routerId write hwrite).getD s).routers =
          s.routers.update r.id (write a) (hwrite a) := by
  unfold storeTunnel
  cases hget : s.routers.get routerId with
  | none => exact Or.inl rfl
  | some r =>
      rw [Option.bind_some]
      cases hallocate : s.allocateFor cfg r with
      | none => exact Or.inl rfl
      | some a => exact Or.inr ⟨r, (Table.get_eq_some.mp hget).1, a, hallocate, rfl⟩

/-- The four things that a step does to the table: nothing, a new row, a row less, or an address for
a row. -/
theorem tunnelStep_cases (s : Provisioning) (cfg : ProvisioningSettings) (e : TunnelEvent) :
    s.tunnelStep cfg e = s ∨
      (∃ r, r.vpnAddress = none ∧ (s.tunnelStep cfg e).routers = s.routers.insert r) ∨
      (∃ routerId, e = .delete routerId ∧
        (s.tunnelStep cfg e).routers = s.routers.delete routerId) ∨
      ∃ r ∈ s.routers.rows, ∃ a, s.allocateFor cfg r = some a ∧
        ∃ f hf, (f r).vpnAddress = some a ∧ (s.tunnelStep cfg e).routers =
          s.routers.update r.id f hf := by
  cases e with
  | add router => exact Or.inr (Or.inl ⟨_, rfl, rfl⟩)
  | delete routerId => exact Or.inr (Or.inr (Or.inl ⟨routerId, rfl, rfl⟩))
  | register routerId publicKey =>
      unfold tunnelStep registerPeer
      dsimp only
      split
      · exact Or.inl rfl
      · rcases storeTunnel_cases with hsame | ⟨r, hr, a, ha, hnew⟩
        · exact Or.inl hsame
        · exact Or.inr (Or.inr (Or.inr
            ⟨r, hr, a, ha, _, ManagedRouter.registerPeer_id _ a, rfl, hnew⟩))
  | reserve routerId =>
      unfold tunnelStep reserveTunnel
      rcases storeTunnel_cases with hsame | ⟨r, hr, a, ha, hnew⟩
      · exact Or.inl hsame
      · exact Or.inr (Or.inr (Or.inr ⟨r, hr, a, ha, _, _, rfl, hnew⟩))

theorem address_update {r r' : ManagedRouter} {a b : String} {f : ManagedRouter → ManagedRouter}
    {hf : ∀ r, (f r).id = r.id} (hr : r ∈ s.routers.rows) (hwrite : (f r).vpnAddress = some a)
    (hr' : r' ∈ (s.routers.update r.id f hf).rows) (hb : r'.vpnAddress = some b) :
    (r' = f r ∧ b = a) ∨ (r' ∈ s.routers.rows ∧ r'.id ≠ r.id) := by
  obtain ⟨r₀, hr₀, rfl⟩ := mem_updateWhere.mp hr'
  by_cases hid : r₀.id = r.id
  · obtain rfl := s.routers.keyed.eq_of_key hr₀ hr hid
    rw [if_pos (by simp)] at hb ⊢
    rw [hwrite] at hb
    exact Or.inl ⟨rfl, (Option.some.inj hb).symm⟩
  · rw [if_neg (by simpa using hid)]
    exact Or.inr ⟨hr₀, hid⟩

/-- The address that a router gets is its own, or one that no router has. -/
theorem allocateFor_some {r : ManagedRouter} {a : String}
    (h : s.allocateFor (subnet.settings cfg) r = some a) :
    r.vpnAddress = some a ∨ ((∃ y ∈ subnet.hosts, y.text = a ∧ y ≠ subnet.server) ∧
      ∀ r' ∈ s.routers.rows, r'.vpnAddress ≠ some a) := by
  unfold allocateFor at h
  rcases Option.or_eq_some_iff.mp h with hown | ⟨_, hfree⟩
  · exact Or.inl (Option.filter_eq_some_iff.mp hown).1
  · exact Or.inr (allocateIp_some hfree)

/-- Rows that go, and rows without an address that come, do no harm. -/
theorem TunnelsGood.of_subset {t : Provisioning} (h : s.TunnelsGood subnet)
    (hsub : ∀ r ∈ t.routers.rows, r.vpnAddress = none ∨ r ∈ s.routers.rows) :
    t.TunnelsGood subnet := by
  have hold : ∀ r ∈ t.routers.rows, ∀ a, r.vpnAddress = some a → r ∈ s.routers.rows := by
    intro r hr a ha
    rcases hsub r hr with hnone | hmem
    · rw [hnone] at ha
      exact absurd ha (by simp)
    · exact hmem
  refine ⟨?_, ?_⟩
  · intro r hr a ha
    exact h.host r (hold r hr a ha) a ha
  · intro r hr r' hr' a ha ha'
    exact h.distinct r (hold r hr a ha) r' (hold r' hr' a ha') a ha ha'

/-- Nor does a write of the router's own address, or of one that no router has. -/
theorem TunnelsGood.of_update {t : Provisioning} (h : s.TunnelsGood subnet) {r : ManagedRouter}
    (hr : r ∈ s.routers.rows) {a : String} (ha : s.allocateFor (subnet.settings cfg) r = some a)
    {f : ManagedRouter → ManagedRouter} {hf : ∀ r, (f r).id = r.id}
    (hwrite : (f r).vpnAddress = some a) (hnew : t.routers = s.routers.update r.id f hf) :
    t.TunnelsGood subnet := by
  have hcases : ∀ r' ∈ t.routers.rows, ∀ b, r'.vpnAddress = some b →
      (r' = f r ∧ b = a) ∨ (r' ∈ s.routers.rows ∧ r'.id ≠ r.id) := by
    rw [hnew]
    exact fun r' hr' b hb => address_update hr hwrite hr' hb
  -- Another router does not have the address that is written.
  have hother : ∀ r' ∈ s.routers.rows, r'.id ≠ r.id → r'.vpnAddress ≠ some a := by
    intro r' hr' hid heq
    rcases allocateFor_some ha with hown | ⟨_, hfree⟩
    · exact hid (congrArg ManagedRouter.id (h.distinct r' hr' r hr a heq hown))
    · exact hfree r' hr' heq
  refine ⟨?_, ?_⟩
  · intro r' hr' b hb
    rcases hcases r' hr' b hb with ⟨_, rfl⟩ | ⟨hmem, _⟩
    · rcases allocateFor_some ha with hown | ⟨⟨y, hy, htext, hserver⟩, _⟩
      · exact h.host r hr b hown
      · obtain ⟨hnetwork, hbroadcast⟩ := Subnet.ne_of_mem_hosts hy
        exact ⟨y, hy, htext, hnetwork, hbroadcast, hserver⟩
    · exact h.host r' hmem b hb
  · intro r₁ hr₁ r₂ hr₂ b hb₁ hb₂
    rcases hcases r₁ hr₁ b hb₁ with ⟨rfl, rfl⟩ | ⟨hmem₁, hid₁⟩
    · rcases hcases r₂ hr₂ b hb₂ with ⟨rfl, -⟩ | ⟨hmem₂, hid₂⟩
      · rfl
      · exact absurd hb₂ (hother r₂ hmem₂ hid₂)
    · rcases hcases r₂ hr₂ b hb₂ with ⟨-, rfl⟩ | ⟨hmem₂, _⟩
      · exact absurd hb₁ (hother r₁ hmem₁ hid₁)
      · exact h.distinct r₁ hmem₁ r₂ hmem₂ b hb₁ hb₂

/-- **One step** keeps the addresses distinct hosts. -/
theorem TunnelsGood.step (h : s.TunnelsGood subnet) (e : TunnelEvent) :
    (s.tunnelStep (subnet.settings cfg) e).TunnelsGood subnet := by
  rcases tunnelStep_cases s (subnet.settings cfg) e with
    hsame | ⟨r, hnone, hnew⟩ | ⟨routerId, -, hnew⟩ | ⟨r, hr, a, ha, f, hf, hwrite, hnew⟩
  · rw [hsame]
    exact h
  · refine h.of_subset ?_
    rw [hnew]
    intro r' hr'
    rcases Table.mem_insert hr' with hmem | rfl
    · exact Or.inr hmem
    · exact Or.inl hnone
  · refine h.of_subset ?_
    rw [hnew]
    exact fun r' hr' => Or.inr (List.mem_of_mem_filter hr')
  · exact h.of_update hr ha hwrite hnew

/-- **One step** keeps the address of a router that it does not delete. -/
theorem HasTunnel.step {routerId : ℕ} {b : String} (h : s.HasTunnel routerId b)
    (hgood : s.TunnelsGood subnet) {e : TunnelEvent} (he : e ≠ .delete routerId) :
    (s.tunnelStep (subnet.settings cfg) e).HasTunnel routerId b := by
  obtain ⟨r₀, hr₀, rfl, hb⟩ := h
  rcases tunnelStep_cases s (subnet.settings cfg) e with
    hsame | ⟨r, hnone, hnew⟩ | ⟨deleted, hdelete, hnew⟩ | ⟨r, hr, a, ha, f, hf, hwrite, hnew⟩
  · rw [hsame]
    exact ⟨r₀, hr₀, rfl, hb⟩
  · refine ⟨r₀, ?_, rfl, hb⟩
    rw [hnew]
    exact Table.mem_insert_of_mem hr₀
  · refine ⟨r₀, ?_, rfl, hb⟩
    rw [hnew]
    refine List.mem_filter.mpr ⟨hr₀, ?_⟩
    rw [decide_eq_true_eq]
    rintro heq
    exact he (heq ▸ hdelete)
  · by_cases hid : r₀.id = r.id
    · obtain rfl := s.routers.keyed.eq_of_key hr₀ hr hid
      refine ⟨f r₀, ?_, hf r₀, ?_⟩
      · rw [hnew]
        exact mem_updateWhere.mpr ⟨r₀, hr₀, by simp⟩
      · -- The router has an address already, and keeps it.
        obtain ⟨y, -, htext, -⟩ := hgood.host r₀ hr₀ b hb
        have hne : b ≠ "" := by
          rintro rfl
          exact y.text_ne_empty htext
        have hgiven : given r₀.vpnAddress = some b := by simp [given, hb, hne]
        unfold allocateFor at ha
        rw [hgiven, Option.some_or] at ha
        rw [hwrite, ha]
    · refine ⟨r₀, ?_, rfl, hb⟩
      rw [hnew]
      exact mem_updateWhere.mpr ⟨r₀, hr₀, by simp [hid]⟩

end Steps

/-! ### Runs -/

section TunnelRuns

variable {subnet : Subnet} {cfg : ProvisioningSettings} {s : Provisioning}

theorem HasTunnel.exec {events : List TunnelEvent} {routerId : ℕ} {a : String}
    (h : s.HasTunnel routerId a) (hgood : s.TunnelsGood subnet)
    (hdelete : TunnelEvent.delete routerId ∉ events) :
    (exec (tunnelStep (subnet.settings cfg)) s events).HasTunnel routerId a := by
  induction events generalizing s with
  | nil => exact h
  | cons e events ih =>
      rw [List.mem_cons, not_or] at hdelete
      exact ih (h.step hgood (Ne.symm hdelete.1)) (hgood.step e) hdelete.2

/-- In every state of the run the addresses are distinct hosts, and the allocation fails only if no
host is left; and an address that a router has it keeps, until the router is deleted. -/
def TunnelsSound (subnet : Subnet) (cfg : ProvisioningSettings) (s : Provisioning)
    (events : List TunnelEvent) : Prop :=
  Always (tunnelStep (subnet.settings cfg)) (fun t => t.TunnelsGood subnet ∧
      ∀ r, t.allocateFor (subnet.settings cfg) r = none → t.TunnelsFull subnet) s events ∧
    ∀ front back routerId a, events = front ++ back →
      (exec (tunnelStep (subnet.settings cfg)) s front).HasTunnel routerId a →
        TunnelEvent.delete routerId ∉ back →
          (exec (tunnelStep (subnet.settings cfg)) s events).HasTunnel routerId a

/-- **Tunnel addresses**, for every subnet and every run from routers without tunnels. -/
theorem tunnel_addresses (subnet : Subnet) (cfg : ProvisioningSettings) (s : Provisioning)
    (hs : ∀ r ∈ s.routers.rows, r.vpnAddress = none) (events : List TunnelEvent) :
    s.TunnelsSound subnet cfg events := by
  have hstart : s.TunnelsGood subnet := by
    refine ⟨?_, ?_⟩
    · intro r hr a ha
      rw [hs r hr] at ha
      exact absurd ha (by simp)
    · intro r hr r' _ a ha
      rw [hs r hr] at ha
      exact absurd ha (by simp)
  have hkeep : ∀ t e, TunnelsGood subnet t →
      TunnelsGood subnet (t.tunnelStep (subnet.settings cfg) e) := fun t e ht => ht.step e
  refine ⟨always_of_invariant hkeep ?_ hstart, ?_⟩
  · exact fun t ht => ⟨ht, fun r hr => allocateFor_none hr⟩
  · rintro front back routerId a rfl htunnel hdelete
    rw [exec_append]
    exact htunnel.exec (exec_of_invariant hkeep hstart front) hdelete

/-- The callback of a router registers the peer that it finds. -/
theorem wgRegister_eq_registerPeer {ctx : CallContext} {identity : Option String} {publicKey : String}
    {r : ManagedRouter} (hkey : String.ofList (strip publicKey.toList) = publicKey)
    (hr : s.correlate identity ctx.clientHost = some (some r)) :
    (s.wgRegister cfg ctx identity publicKey).1 =
      s.tunnelStep cfg (.register r.id publicKey) := by
  have hget : s.routers.get r.id = some r := Table.get_key (correlate_mem hr)
  unfold wgRegister tunnelStep registerPeer storeTunnel
  dsimp only
  rw [hkey, hr]
  split
  · rfl
  · dsimp only
    rw [hget, Option.bind_some]
    unfold allocateFor
    generalize (given r.vpnAddress).or (s.allocateIp cfg) = found
    cases found <;> rfl

end TunnelRuns

end Provisioning

/-- `10.8.0.0/30`: one host beside the server. -/
def smallSubnet : Subnet := ⟨.ofOctets 10 8 0 0 (by decide), 30, by decide⟩

/-- Two routers and one address: the second one gets it when the first one is gone. -/
theorem tunnel_addresses_small :
    sampleProvisioning.TunnelsSound smallSubnet sampleSettings
      [.register 1 "key", .add { sampleRouter with id := 2 }, .register 2 "other", .delete 1,
        .register 2 "other", .register 2 "again"] :=
  Provisioning.tunnel_addresses smallSubnet sampleSettings sampleProvisioning (by decide) _

example : (exec (Provisioning.tunnelStep (smallSubnet.settings sampleSettings)) sampleProvisioning
    [.register 1 "key", .add { sampleRouter with id := 2 }, .register 2 "other", .delete 1,
      .register 2 "other"]).routers.rows.map (fun r => (r.id, r.vpnAddress)) =
    [(2, some "10.8.0.2")] := by decide +kernel

end IspBilling
