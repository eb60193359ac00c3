import IspBilling.ProvisioningCallbacks
import IspBilling.Runs

/-! # Tenants and the bootstrap of routers

A router is looked up by its name when a bootstrap script is generated, and by name and address
when it calls back (`app/api/v1/provisioning/bootstrap.py`).  Names are unique within an
organization only, as `RouterService` checks them, but none of these lookups asks for the
organization.  A notification that matches nothing waits in memory, by address and identity, until
`start_provisioning` (`app/modules/provisioning/service.py`) finds a router that fits.

`tenants_isolated_iff` says that calls stay within the organization of the token's user exactly if
everything they find there belongs to it. -/

namespace IspBilling

open Rows Runs

/-- The columns of `users` that the bootstrap reads. -/
structure ProvisioningUser where
  id : ℤ
  organizationId : Option ℕ
deriving DecidableEq, Repr

/-- The settings of the bootstrap, and the users, which it does not change. -/
structure BootstrapSettings extends ProvisioningSettings where
  wgEnabled : Bool
  agentScriptVersion : String
  users : Table ProvisioningUser.id

/-- A new agent token, with its hash. -/
structure FreshToken where
  plain : String
  hash : String
  nonempty : plain ≠ ""

/-- What matters of a bootstrap script: the agent that it installs (router and token) and the tunnel
address. -/
structure BootstrapScript where
  identity : String
  userId : ℤ
  agent : Option (ℕ × String)
  tunnelIp : Option String
deriving DecidableEq, Repr

/-- The agent token that a router has already. -/
def ManagedRouter.existingToken (r : ManagedRouter) : Option String :=
  (given r.agentToken).bind (fun _ => given r.agentTokenPlain)

/-- The router after the agent token has been reused or generated. -/
def ManagedRouter.installAgent (version : String) (fresh : FreshToken) (r : ManagedRouter) :
    ManagedRouter :=
  match r.existingToken with
  | some _ =>
      { r with
        agentInstalled := true
        agentVersion := some version }
  | none =>
      { r with
        agentToken := some fresh.hash
        agentTokenPlain := some fresh.plain
        agentInstalled := true
        agentVersion := some version }

/-- The router after a tunnel address has been assigned to it. -/
def ManagedRouter.assignTunnel (tunnelIp : Option String) (r : ManagedRouter) : ManagedRouter :=
  { r with vpnAddress := tunnelIp.or r.vpnAddress }

@[simp] theorem ManagedRouter.installAgent_id (version : String) (fresh : FreshToken)
    (r : ManagedRouter) : (r.installAgent version fresh).id = r.id := by
  unfold installAgent
  split <;> rfl

@[simp] theorem ManagedRouter.assignTunnel_id (tunnelIp : Option String) (r : ManagedRouter) :
    (r.assignTunnel tunnelIp).id = r.id := rfl

/-- The session after `start_provisioning` has begun. -/
def ProvisioningSession.started (now : ℤ) (x : ProvisioningSession) : ProvisioningSession :=
  { x with
    status := .inProgress
    startedAt := some now }

/-- The session after a check-in has been consumed for it. -/
def ProvisioningSession.checkedIn (now : ℤ) (x : ProvisioningSession) : ProvisioningSession :=
  { x.started now with
    status := .completed
    success := true
    completedAt := some now
    progressPercentage := 100 }

@[simp] theorem ProvisioningSession.started_sessionId (now : ℤ) (x : ProvisioningSession) :
    (x.started now).sessionId = x.sessionId := rfl

@[simp] theorem ProvisioningSession.checkedIn_sessionId (now : ℤ) (x : ProvisioningSession) :
    (x.checkedIn now).sessionId = x.sessionId := rfl

namespace Provisioning

variable (cfg : BootstrapSettings) (ctx : CallContext) (s : Provisioning)

/-! ### The bootstrap script -/

/-- The router that a script is for; several of the name count as none. -/
def scriptRouter (identity : Option String) : Option ManagedRouter :=
  (s.routerByName ((given identity).getD "MikroTik")).join

/-- The tunnel address of a script; none when the subnet is full. -/
def scriptTunnel (router : Option ManagedRouter) : Option String :=
  router.bind fun r =>
    if cfg.wgEnabled = true ∧ cfg.backendUrl ≠ "" then
      (given r.vpnAddress).or (s.allocateIp cfg.toProvisioningSettings)
    else none

/-- The bootstrap script endpoint.  Every refusal, also that of a bad token, comes out as 500: no
script. -/
def bootstrapScript (identity : Option String) (fresh : FreshToken) :
    Provisioning × Option BootstrapScript :=
  if ctx.token = "" then (s, none)
  else
    match verifyToken cfg.jwt ctx.now ctx.token with
    | .raised => (s, none)
    | .invalid => (s, none)
    | .valid data =>
        match cfg.users.get data.userId with
        | none => (s, none)
        | some _ =>
            let router := s.scriptRouter identity
            let tunnelIp := s.scriptTunnel cfg router
            let agent :=
              if cfg.backendUrl = "" then none
              else router.map (fun r => (r.id, r.existingToken.getD fresh.plain))
            ({ s with
              routers := match router with
                | none => s.routers
                | some r =>
                    (s.routers.update r.id (ManagedRouter.installAgent cfg.agentScriptVersion fresh)
                      (ManagedRouter.installAgent_id cfg.agentScriptVersion fresh)).update r.id
                      (ManagedRouter.assignTunnel tunnelIp)
                      (ManagedRouter.assignTunnel_id tunnelIp) },
              some ⟨(given identity).getD "MikroTik", data.userId, agent, tunnelIp⟩)

/-! ### Check-ins and the start of a session -/

/-- The check-in that a router claims: by its address, else by its name. -/
def pendingFor (r : ManagedRouter) : Option (Option String × DeviceCheckin) :=
  (s.pendingCheckins.find? (fun c => decide (c.1 = some r.ipAddress))).or
    (s.pendingCheckins.find? (fun c => decide (given c.2.identity = some r.name)))

/-- The check-in that the start of a session consumes.  A session that is handed to the router's
agent does not get that far, unless the command cannot be queued. -/
def startConsumes (sessionId : String) (queueFails : Bool) :
    Option (Option String × DeviceCheckin) :=
  (s.sessions.get sessionId).bind fun x =>
    if x.status = .pending then
      (s.routers.get x.routerId).bind fun r =>
        if r.agentInstalled = true ∧ given r.agentToken ≠ none ∧ queueFails = false then none
        else s.pendingFor r
    else none

/-- `start_provisioning`, up to the choice of how the session is carried out. -/
def startProvisioning (sessionId : String) (now : ℤ) (queueFails : Bool) : Provisioning :=
  match s.sessions.get sessionId with
  | none => s
  | some x =>
      if x.status = .pending then
        match s.startConsumes sessionId queueFails with
        | some c =>
            { s with
              sessions := s.sessions.update sessionId (ProvisioningSession.checkedIn now)
                (ProvisioningSession.checkedIn_sessionId now)
              pendingCheckins := s.pendingCheckins.filter (fun d => decide (d.1 ≠ c.1)) }
        | none =>
            { s with
              sessions := s.sessions.update sessionId (ProvisioningSession.started now)
                (ProvisioningSession.started_sessionId now) }
      else s

end Provisioning

/-! ### Runs -/

inductive TenantEvent where
  | script (ctx : CallContext) (identity : Option String) (fresh : FreshToken)
  | callback (ctx : CallContext) (c : Callback)
  | start (sessionId : String) (now : ℤ) (queueFails : Bool)

/-- The callbacks of a bootstrap. -/
def Callback.OfBootstrap : Callback → Prop
  | .notify _ _ _ => True
  | .scanReport _ _ => True
  | .wgRegister _ _ => True
  | .provisionScript _ => False
  | .scriptComplete _ _ => False

namespace Provisioning

variable (cfg : BootstrapSettings) (s : Provisioning)

def tenantStep (s : Provisioning) : TenantEvent → Provisioning
  | .script ctx identity fresh => (s.bootstrapScript cfg ctx identity fresh).1
  | .callback ctx c => (s.handle cfg.toProvisioningSettings ctx c).1
  | .start sessionId now queueFails => s.startProvisioning sessionId now queueFails

def organizationOfUser (userId : ℤ) : Option ℕ :=
  (cfg.users.get userId).bind ProvisioningUser.organizationId

/-- The organization on whose behalf something happens: that of the token's user.  A start acts for
the check-in that it consumes, if it does. -/
def actingOrganization : TenantEvent → Option ℕ
  | .script ctx _ _ => (tokenUser cfg.toProvisioningSettings ctx).bind (organizationOfUser cfg)
  | .callback ctx _ => (tokenUser cfg.toProvisioningSettings ctx).bind (organizationOfUser cfg)
  | .start sessionId _ queueFails =>
      (s.startConsumes sessionId queueFails).bind fun c =>
        c.2.caller.bind (organizationOfUser cfg)

/-- The routers and sessions of other organizations are as before. -/
def ForeignKept (o : ℕ) (t : Provisioning) : Prop :=
  (∀ r ∈ s.routers.rows, r.organizationId ≠ some o → r ∈ t.routers.rows) ∧
    ∀ x ∈ s.sessions.rows, s.organizationOf x ≠ some o → x ∈ t.sessions.rows

/-- **Isolation**: a script for a user of `o` installs the agent of a router of `o`, and bootstrap
calls and consumed check-ins of `o` change routers and sessions of `o` only. -/
def Isolated (e : TenantEvent) : Prop :=
  ∀ o, s.actingOrganization cfg e = some o →
    match e with
    | .script ctx identity fresh =>
        ∀ script ∈ (s.bootstrapScript cfg ctx identity fresh).2, ∀ a ∈ script.agent,
          ∀ r, s.routers.get a.1 = some r → r.organizationId = some o
    | .callback _ c => c.OfBootstrap → s.ForeignKept o (s.tenantStep cfg e)
    | .start _ _ _ => s.ForeignKept o (s.tenantStep cfg e)

/-- What a bootstrap call finds is the organization's own, or has everything already. -/
def FindsOwn (ctx : CallContext) (o : ℕ) : Callback → Prop
  | .notify sessionId identity ipAddress =>
      ctx.token = "" ∨ ∀ session router,
        s.notifyTarget sessionId identity (clientIp ctx ipAddress) = some (session, router) →
          (∀ x ∈ session, s.organizationOf x ≠ some o → x.HasNotification ctx.now) ∧
          ∀ r ∈ router, r.organizationId ≠ some o → ∀ c ∈ ctx.encryptedCredentials,
            r.HasCredentials c ctx.now
  | .scanReport identity body =>
      ∀ d, body = .scan d → ∀ r, s.correlate identity ctx.clientHost = some (some r) →
        r.organizationId ≠ some o → r.HasScan d ctx.now
  | .wgRegister identity publicKey =>
      publicKey ≠ "" → ∀ r, s.correlate identity ctx.clientHost = some (some r) →
        r.organizationId ≠ some o → ∀ address,
          (given r.vpnAddress).or (s.allocateIp cfg.toProvisioningSettings) = some address →
            r.HasPeer publicKey address
  | .provisionScript _ => True
  | .scriptComplete _ _ => True

/-- The lookups of an event find rows of the acting organization. -/
def WithinTenant (e : TenantEvent) : Prop :=
  ∀ o, s.actingOrganization cfg e = some o →
    match e with
    | .script ctx identity _ =>
        ctx.token ≠ "" → (∃ data, verifyToken cfg.jwt ctx.now ctx.token = .valid data) →
          cfg.backendUrl ≠ "" → ∀ r, s.scriptRouter identity = some r → r.organizationId = some o
    | .callback ctx c =>
        verifyToken cfg.jwt ctx.now ctx.token ≠ .raised → s.FindsOwn cfg ctx o c
    | .start sessionId _ _ =>
        ∀ x, s.sessions.get sessionId = some x → s.organizationOf x = some o

variable {cfg} {s}

theorem tokenUser_of_valid {settings : ProvisioningSettings} {ctx : CallContext} {data : TokenData}
    (h : verifyToken settings.jwt ctx.now ctx.token = .valid data) :
    tokenUser settings ctx = some data.userId := by
  unfold verifyToken at h
  unfold tokenUser
  cases hpayload : settings.jwt.decode ctx.now ctx.token with
  | none => simp [hpayload] at h
  | some payload =>
      simp only [hpayload] at h
      split at h
      · cases h
      · split at h
        · next sub username hsub husername =>
            cases hint : parseInt sub with
            | none => simp [hint] at h
            | some userId =>
                simp only [hint, Verification.valid.injEq] at h
                subst h
                simp [hsub, hint]
        · cases h

theorem scriptRouter_mem {identity : Option String} {r : ManagedRouter}
    (h : s.scriptRouter identity = some r) : r ∈ s.routers.rows :=
  List.mem_of_mem_filter (mem_of_oneOrNone (Option.join_eq_some_iff.mp h))

/-- The agent that a script installs is that of the router it was made for. -/
theorem script_agent {ctx : CallContext} {identity : Option String} {fresh : FreshToken}
    {script : BootstrapScript} {a : ℕ × String}
    (hscript : (s.bootstrapScript cfg ctx identity fresh).2 = some script)
    (ha : script.agent = some a) :
    ctx.token ≠ "" ∧ (∃ data, verifyToken cfg.jwt ctx.now ctx.token = .valid data) ∧
      cfg.backendUrl ≠ "" ∧ ∃ r, s.scriptRouter identity = some r ∧ a.1 = r.id := by
  unfold bootstrapScript at hscript
  split at hscript
  · cases hscript
  · next htoken =>
      split at hscript
      · cases hscript
      · cases hscript
      · next data hdata =>
          split at hscript
          · cases hscript
          · obtain rfl := Option.some.inj hscript
            by_cases hurl : cfg.backendUrl = ""
            · simp [hurl] at ha
            · simp only [hurl, ite_false, Option.map_eq_some_iff] at ha
              obtain ⟨r, hr, rfl⟩ := ha
              exact ⟨htoken, ⟨data, hdata⟩, hurl, r, hr, rfl⟩

theorem script_installs {ctx : CallContext} {identity : Option String} (fresh : FreshToken)
    {data : TokenData} {user : ProvisioningUser} {r : ManagedRouter} (htoken : ctx.token ≠ "")
    (hdata : verifyToken cfg.jwt ctx.now ctx.token = .valid data)
    (huser : cfg.users.get data.userId = some user) (hurl : cfg.backendUrl ≠ "")
    (hr : s.scriptRouter identity = some r) :
    ∃ script, (s.bootstrapScript cfg ctx identity fresh).2 = some script ∧
      ∃ a, script.agent = some a ∧ a.1 = r.id := by
  simp [bootstrapScript, htoken, hdata, huser, hurl, hr]

theorem isolated_script_iff {ctx : CallContext} {identity : Option String} {fresh : FreshToken} :
    s.Isolated cfg (.script ctx identity fresh) ↔ s.WithinTenant cfg (.script ctx identity fresh) := by
  unfold Isolated WithinTenant
  refine forall₂_congr fun o ho => ?_
  constructor
  · rintro h htoken ⟨data, hdata⟩ hurl r hr
    rw [actingOrganization, tokenUser_of_valid hdata, Option.bind_some, organizationOfUser] at ho
    obtain ⟨user, huser, -⟩ := Option.bind_eq_some_iff.mp ho
    obtain ⟨script, hscript, a, ha, hid⟩ :=
      script_installs fresh htoken hdata huser hurl hr
    exact h script hscript a ha r (by rw [hid]; exact Table.get_key (scriptRouter_mem hr))
  · intro h script hscript a ha r hr
    obtain ⟨htoken, hdata, hurl, r', hr', hid⟩ := script_agent hscript ha
    rw [hid, Table.get_key (scriptRouter_mem hr')] at hr
    obtain rfl := Option.some.inj hr
    exact h htoken hdata hurl r' hr'

/-! ### Bootstrap calls -/

theorem foreignKept_self (o : ℕ) : s.ForeignKept o s := ⟨fun _ hr _ => hr, fun _ hx _ => hx⟩

theorem foreignKept_notifyWrites_iff {ctx : CallContext} {o : ℕ}
    {session : Option ProvisioningSession} {router : Option ManagedRouter}
    (hsession : ∀ x ∈ session, x ∈ s.sessions.rows) (hrouter : ∀ r ∈ router, r ∈ s.routers.rows) :
    s.ForeignKept o (s.notifyWrites ctx session router) ↔
      (∀ x ∈ session, s.organizationOf x ≠ some o → x.HasNotification ctx.now) ∧
        ∀ r ∈ router, r.organizationId ≠ some o → ∀ c ∈ ctx.encryptedCredentials,
          r.HasCredentials c ctx.now := by
  rw [ForeignKept, and_comm]
  apply and_congr
  · cases session with
    | none => simpa [notifyWrites] using fun x hx _ => hx
    | some x =>
        simp only [notifyWrites, Option.mem_some_iff, forall_eq',
          ← ProvisioningSession.notified_eq_self_iff]
        exact Table.forall_kept_update_iff (hsession x rfl)
  · cases router with
    | none => simpa [notifyWrites] using fun r hr _ => hr
    | some r =>
        cases hc : ctx.encryptedCredentials with
        | none => simpa [notifyWrites, hc] using fun r hr _ => hr
        | some c =>
            simp only [notifyWrites, hc, Option.mem_some_iff, forall_eq',
              ← ManagedRouter.storeCredentials_eq_self_iff]
            exact Table.forall_kept_update_iff (hrouter r rfl)

theorem foreignKept_notify_iff {ctx : CallContext} {o : ℕ}
    {sessionId identity ipAddress : Option String} (ht : ctx.token ≠ "") :
    s.ForeignKept o (s.notify cfg.toProvisioningSettings ctx sessionId identity ipAddress).1 ↔
      s.FindsOwn cfg ctx o (.notify sessionId identity ipAddress) := by
  rcases s.notify_cases cfg.toProvisioningSettings ctx sessionId identity ipAddress with
    ⟨hnone, hsame⟩ | ⟨session, router, pending, sid, htarget, hnew⟩
  · rw [hsame]
    exact iff_of_true (foreignKept_self o) (Or.inr (by simp [hnone]))
  · obtain ⟨hsession, hrouter⟩ := notifyTarget_mem htarget
    have hwrites : s.ForeignKept o
        (s.notify cfg.toProvisioningSettings ctx sessionId identity ipAddress).1 ↔
          s.ForeignKept o (s.notifyWrites ctx session router) := by
      rw [hnew]
      exact Iff.rfl
    rw [hwrites, foreignKept_notifyWrites_iff hsession hrouter]
    simp only [FindsOwn, ht, false_or, htarget, Option.some.injEq, Prod.mk.injEq, and_imp]
    exact ⟨by rintro h _ _ rfl rfl; exact h, fun h => h session router rfl rfl⟩

theorem foreignKept_routers_iff {o : ℕ} {r : ManagedRouter} {f : ManagedRouter → ManagedRouter}
    {hf : ∀ r, (f r).id = r.id} (hr : r ∈ s.routers.rows) :
    s.ForeignKept o { s with routers := s.routers.update r.id f hf } ↔
      (r.organizationId ≠ some o → f r = r) := by
  rw [ForeignKept, Table.forall_kept_update_iff hr]
  exact and_iff_left fun _ hx _ => hx

theorem foreignKept_scanReport_iff {ctx : CallContext} {o : ℕ} {identity : Option String}
    {body : ScanBody} :
    s.ForeignKept o (s.scanReport ctx identity body).1 ↔
      s.FindsOwn cfg ctx o (.scanReport identity body) := by
  rcases s.scanReport_cases ctx identity body with
    ⟨response, -, hsame, hnone⟩ | ⟨d, r, rfl, hr, hnew⟩
  · rw [hsame]
    refine iff_of_true (foreignKept_self o) ?_
    intro d hd r hr
    exact absurd hr (hnone d r hd)
  · rw [hnew, foreignKept_routers_iff (correlate_mem hr),
      ManagedRouter.storeScannedConfig_eq_self_iff]
    simp [FindsOwn, hr]

theorem foreignKept_wgRegister_iff {ctx : CallContext} {o : ℕ} {identity : Option String}
    {publicKey : String} :
    s.ForeignKept o (s.wgRegister cfg.toProvisioningSettings ctx identity publicKey).1 ↔
      s.FindsOwn cfg ctx o (.wgRegister identity publicKey) := by
  rcases s.wgRegister_cases cfg.toProvisioningSettings ctx identity publicKey with
    ⟨response, -, hsame, hnone⟩ | ⟨r, address, hkey, hr, haddr, hnew⟩
  · rw [hsame]
    refine iff_of_true (foreignKept_self o) ?_
    intro hkey r hr _ address haddr
    exact absurd haddr (hnone hkey r address hr)
  · rw [hnew, foreignKept_routers_iff (correlate_mem hr), ManagedRouter.registerPeer_eq_self_iff]
    simp only [FindsOwn, hkey, hr, haddr, ne_eq, not_false_eq_true, true_imp_iff, Option.some.injEq,
      forall_eq']

theorem isolated_callback_iff {ctx : CallContext} {c : Callback} :
    s.Isolated cfg (.callback ctx c) ↔ s.WithinTenant cfg (.callback ctx c) := by
  unfold Isolated WithinTenant
  refine forall₂_congr fun o ho => ?_
  simp only [tenantStep, handle]
  cases hverify : verifyToken cfg.jwt ctx.now ctx.token with
  | raised =>
      simp only [ne_eq, not_true_eq_false, false_imp_iff, iff_true]
      intro _
      split <;> exact foreignKept_self o
  | invalid | valid data =>
      simp only [ne_eq, reduceCtorEq, not_false_eq_true, true_imp_iff]
      cases c with
      | provisionScript sessionId => simp [Callback.OfBootstrap, FindsOwn]
      | scriptComplete sessionId status => simp [Callback.OfBootstrap, FindsOwn]
      | notify sessionId identity ipAddress =>
          simp only [Callback.OfBootstrap, true_imp_iff]
          by_cases ht : ctx.token = ""
          · simp [TokenMissing, ht, FindsOwn, foreignKept_self]
          · have hnot : ¬ TokenMissing ctx (.notify sessionId identity ipAddress) := ht
            rw [if_neg hnot]
            exact foreignKept_notify_iff ht
      | scanReport identity body =>
          simp only [Callback.OfBootstrap, TokenMissing, ite_false, true_imp_iff]
          exact foreignKept_scanReport_iff
      | wgRegister identity publicKey =>
          simp only [Callback.OfBootstrap, TokenMissing, ite_false, true_imp_iff]
          exact foreignKept_wgRegister_iff

/-! ### Check-ins -/

theorem isolated_start_iff {sessionId : String} {now : ℤ} {queueFails : Bool} :
    s.Isolated cfg (.start sessionId now queueFails) ↔
      s.WithinTenant cfg (.start sessionId now queueFails) := by
  unfold Isolated WithinTenant
  refine forall₂_congr fun o ho => ?_
  obtain ⟨checkin, hconsumed, -⟩ := Option.bind_eq_some_iff.mp ho
  obtain ⟨x, hx, hrest⟩ := Option.bind_eq_some_iff.mp hconsumed
  have hpending : x.status = .pending := by
    by_contra hne
    simp [hne] at hrest
  obtain ⟨hmem, rfl⟩ := Table.get_eq_some.mp hx
  -- the session was pending, so being completed is a change
  have hchange : x.checkedIn now ≠ x := by
    intro heq
    have hstatus := congrArg ProvisioningSession.status heq
    rw [hpending] at hstatus
    cases hstatus
  simp only [tenantStep, startProvisioning, hx, hpending, ite_true, hconsumed, ForeignKept,
    Option.some.injEq, forall_eq']
  rw [Table.forall_kept_update_iff hmem]
  constructor
  · intro h
    by_contra hne
    exact hchange (h.2 hne)
  · intro h
    exact ⟨fun _ hr _ => hr, fun hne => absurd h hne⟩

theorem isolated_iff (e : TenantEvent) : s.Isolated cfg e ↔ s.WithinTenant cfg e := by
  cases e with
  | script ctx identity fresh => exact isolated_script_iff
  | callback ctx c => exact isolated_callback_iff
  | start sessionId now queueFails => exact isolated_start_iff

/-- **Tenants are isolated exactly as long as every lookup happens to find the caller's own rows**:
no lookup of the bootstrap asks for the organization. -/
theorem tenants_isolated_iff (cfg : BootstrapSettings) (s : Provisioning) (es : List TenantEvent) :
    Along (tenantStep cfg) (Isolated cfg) s es ↔ Along (tenantStep cfg) (WithinTenant cfg) s es :=
  Along.congr fun _ e => isolated_iff e

end Provisioning

/-! ### Two organizations -/

/-- A library that knows one token, that of a technician of the first organization. -/
def technicianJwt : Jwt where
  encode _ := "technician"
  decode now token :=
    if token = "technician" ∧ now < hours 1 then
      some ⟨some "7", some "amina", some "technician", none, [], some "access", hours 1⟩
    else none

/-- The first organization's settings and users. -/
def tenantSettings : BootstrapSettings :=
  { sampleSettings with
    jwt := technicianJwt
    wgEnabled := false
    agentScriptVersion := "1.0"
    users := ⟨[⟨7, some 1⟩, ⟨8, some 2⟩], by decide⟩ }

/-- A router of the second organization, with an agent. -/
def annexRouter : ManagedRouter :=
  { sampleRouter with
    id := 3
    organizationId := some 2
    name := "annex"
    ipAddress := "192.168.90.1"
    agentToken := some "hash"
    agentTokenPlain := some "secret"
    agentInstalled := true }

/-- Both organizations have a router `office`; the second is about to provision its own. -/
def twoTenants : Provisioning where
  routers := ⟨[sampleRouter,
    { sampleRouter with id := 2, organizationId := some 2, ipAddress := "192.168.89.1" },
    annexRouter], by decide⟩
  sessions := ⟨[{ sampleSession with sessionId := "s-2", routerId := 2, status := .pending }],
    by decide⟩
  organizations := ⟨[⟨1, none, none⟩, ⟨2, none, none⟩], by decide⟩
  pendingCheckins := []

def technicianContext : CallContext := { forgedContext with token := "technician" }

/-- The technician of the first organization is handed the agent token of the second one's annex;
and a check-in of the first organization's office completes the second one's session. -/
theorem tenants_not_isolated :
    ¬ Along (Provisioning.tenantStep tenantSettings) (Provisioning.Isolated tenantSettings) twoTenants
        [.script technicianContext (some "annex") ⟨"new", "hash", by decide⟩] ∧
      ¬ Along (Provisioning.tenantStep tenantSettings) (Provisioning.Isolated tenantSettings)
        twoTenants [.callback technicianContext (.notify none (some "office") none),
          .start "s-2" 60 false] := by
  constructor
  · intro h
    have hown := h.1 1 (by decide) _ rfl _ rfl annexRouter (by decide)
    exact absurd hown (by decide)
  · intro h
    have hkept := (h.2.1 1 (by decide)).2 _ List.mem_cons_self (by decide)
    exact absurd hkept (by decide)

end IspBilling
