import IspBilling.Plan
import IspBilling.Rows
import Mathlib.Logic.Equiv.List
import Mathlib.Tactic.DeriveEncodable

/-! # The callbacks of a router that is being provisioned

A router that runs a provisioning or a bootstrap script calls back into the backend.  Five
endpoints serve it (`app/api/v1/provisioning/workflow.py` and `bootstrap.py`): the provisioning
script and its completion, and the bootstrap's notify, scan report and WireGuard enrolment.  They
take no session cookie; the token in the URL is their only authentication.

Each of them calls `verify_token` (`app/core/security.py`) inside a `try` and answers 401 when it
raises.  But `verify_token` answers a bad token with `None`, and none of the five looks at what it
returns: `callback_refuses_iff` says for which requests a token that does not verify is harmless
all the same.

The signature of tokens is the JWT library's business: it is a parameter, of which only
`Jwt.Correct` is assumed. -/

namespace IspBilling

open Rows

/-! ### Tokens -/

structure Claims where
  sub : Option String
  username : Option String
  role : Option String
  organizationId : Option ℤ
  permissions : List String
  type : Option String
  /-- Microseconds, a whole number of seconds. -/
  exp : ℤ
deriving DecidableEq, Repr

/-- The JWT library under the backend's secret; `decode` has no answer for a token that it rejects
at the given time. -/
structure Jwt where
  encode : Claims → String
  decode : ℤ → String → Option Claims

/-- A token that the backend signed is accepted, with its claims, until it expires. -/
def Jwt.Correct (jwt : Jwt) : Prop :=
  ∀ claims now, jwt.decode now (jwt.encode claims) = if now < claims.exp then some claims else none

/-- `create_access_token`: the library keeps whole seconds of the expiry. -/
def createAccessToken (jwt : Jwt) (claims : Claims) (now delta : ℤ) : String :=
  jwt.encode { claims with
    exp := seconds ((now + delta) / seconds 1)
    type := some "access" }

/-- The value of decimal digits, which single underscores may separate. -/
def digitsValue (value : ℕ) : List Char → Option ℕ
  | [] => none
  | [c] => if c.isDigit then some (value * 10 + (c.toNat - '0'.toNat)) else none
  | c :: '_' :: cs =>
      if c.isDigit then digitsValue (value * 10 + (c.toNat - '0'.toNat)) cs else none
  | c :: cs => if c.isDigit then digitsValue (value * 10 + (c.toNat - '0'.toNat)) cs else none

/-- `int(s)`, for ASCII digits. -/
def parseInt (s : String) : Option ℤ :=
  let stripped := ((s.toList.dropWhile Char.isWhitespace).reverse.dropWhile
    Char.isWhitespace).reverse
  match stripped with
  | '-' :: cs => (digitsValue 0 cs).map (fun n => -(n : ℤ))
  | '+' :: cs => (digitsValue 0 cs).map (fun n => (n : ℤ))
  | cs => (digitsValue 0 cs).map (fun n => (n : ℤ))

theorem digitsValue_eq {cs : List Char} (hne : cs ≠ []) (h : ∀ c ∈ cs, c.isDigit = true) (value : ℕ) :
    digitsValue value cs = some (Nat.ofDigitChars 10 cs value) := by
  induction cs generalizing value with
  | nil => exact absurd rfl hne
  | cons c cs ih =>
      have hc := h c List.mem_cons_self
      have hcs := fun d hd => h d (List.mem_cons_of_mem c hd)
      cases cs with
      | nil => simp [digitsValue, hc, Nat.ofDigitChars_cons, Nat.mul_comm]
      | cons d cs =>
          have hd : d ≠ '_' := by
            rintro rfl
            exact absurd (hcs '_' List.mem_cons_self) (by decide)
          rw [Nat.ofDigitChars_cons, ← ih (List.cons_ne_nil d cs) hcs, Nat.mul_comm 10 value]
          simp [digitsValue, hc, hd]

theorem digitsValue_eq_none {cs : List Char} {c : Char} (hmem : c ∈ cs) (hdigit : c.isDigit = false)
    (hlow : c ≠ '_') (value : ℕ) : digitsValue value cs = none := by
  fun_induction digitsValue value cs with
  | case1 value => cases hmem
  | case2 value d hd =>
      obtain rfl := List.mem_singleton.mp hmem
      simp [hdigit] at hd
  | case3 value d hd => rfl
  | case4 value d cs hd ih =>
      rcases List.mem_cons.mp hmem with rfl | hmem
      · simp [hdigit] at hd
      · rcases List.mem_cons.mp hmem with rfl | hmem
        · exact absurd rfl hlow
        · exact ih hmem
  | case5 value d cs hd => rfl
  | case6 value d cs hne hlow' hd ih =>
      rcases List.mem_cons.mp hmem with rfl | hmem
      · simp [hdigit] at hd
      · exact ih hmem
  | case7 value d cs hne hlow' hd => rfl

theorem parseInt_digits {cs : List Char} (hne : cs ≠ []) (hdigits : ∀ c ∈ cs, c.isDigit = true) :
    parseInt (String.ofList cs) = some (Nat.ofDigitChars 10 cs 0 : ℤ) := by
  have hblank : ∀ c ∈ cs, c.isWhitespace = false := by
    intro c hc
    have hdigit := hdigits c hc
    by_contra hspace
    simp only [Char.isWhitespace, Bool.not_eq_false, Bool.or_eq_true, decide_eq_true_eq] at hspace
    rcases hspace with ((rfl | rfl) | rfl) | rfl <;> exact absurd hdigit (by decide)
  have hstrip : ∀ ds : List Char, (∀ c ∈ ds, c.isWhitespace = false) →
      ds.dropWhile Char.isWhitespace = ds := by
    intro ds hds
    cases ds with
    | nil => rfl
    | cons c ds => exact List.dropWhile_cons_of_neg (by simp [hds c List.mem_cons_self])
  unfold parseInt
  rw [String.toList_ofList, hstrip _ hblank,
    hstrip _ (fun c hc => hblank c (List.mem_reverse.mp hc)), List.reverse_reverse]
  dsimp only
  split
  · exact absurd (hdigits '-' List.mem_cons_self) (by decide)
  · exact absurd (hdigits '+' List.mem_cons_self) (by decide)
  · rw [digitsValue_eq hne hdigits]
    rfl

theorem parseInt_eq_none {s : String} {c : Char} (hmem : c ∈ s.toList) (hdigit : c.isDigit = false)
    (hblank : c.isWhitespace = false) (hsign : c ∉ ['_', '+', '-']) : parseInt s = none := by
  simp only [List.mem_cons, List.not_mem_nil, or_false, not_or] at hsign
  have hkeep : ∀ {cs : List Char}, c ∈ cs → c ∈ cs.dropWhile Char.isWhitespace := by
    intro cs hcs
    rw [← List.takeWhile_append_dropWhile (p := Char.isWhitespace) (l := cs)] at hcs
    rcases List.mem_append.mp hcs with htake | hdrop
    · have hspace := List.all_eq_true.mp List.all_takeWhile c htake
      rw [hblank] at hspace
      cases hspace
    · exact hdrop
  have hstripped : c ∈ ((s.toList.dropWhile Char.isWhitespace).reverse.dropWhile
      Char.isWhitespace).reverse :=
    List.mem_reverse.mpr (hkeep (List.mem_reverse.mpr (hkeep hmem)))
  unfold parseInt
  generalize ((s.toList.dropWhile Char.isWhitespace).reverse.dropWhile
    Char.isWhitespace).reverse = cs at hstripped
  dsimp only
  split
  · rw [digitsValue_eq_none ((List.mem_cons.mp hstripped).resolve_left hsign.2.2) hdigit hsign.1]
    rfl
  · rw [digitsValue_eq_none ((List.mem_cons.mp hstripped).resolve_left hsign.2.1) hdigit hsign.1]
    rfl
  · rw [digitsValue_eq_none hstripped hdigit hsign.1]
    rfl

/-- `TokenData`. -/
structure TokenData where
  userId : ℤ
  username : String
  role : Option String
  organizationId : Option ℤ
deriving DecidableEq, Repr

/-- What a call of `verify_token` does. -/
inductive Verification where
  | valid (data : TokenData)
  /-- `return None`. -/
  | invalid
  /-- The subject is not a number: `int` raises. -/
  | raised
deriving DecidableEq, Repr

/-- `verify_token(token, token_type="access")`. -/
def verifyToken (jwt : Jwt) (now : ℤ) (token : String) : Verification :=
  match jwt.decode now token with
  | none => .invalid
  | some payload =>
      if payload.type ≠ some "access" then .invalid
      else
        match payload.sub, payload.username with
        | some sub, some username =>
            match parseInt sub with
            | some userId => .valid ⟨userId, username, payload.role, payload.organizationId⟩
            | none => .raised
        | _, _ => .invalid

/-! ### Tables -/

/-- `ProvisioningStatus`. -/
inductive ProvisioningStatus where
  | pending | inProgress | completed | failed | cancelled | timeout
deriving DecidableEq, Repr

def ProvisioningStatus.Live (p : ProvisioningStatus) : Prop := p = .pending ∨ p = .inProgress

instance : DecidablePred ProvisioningStatus.Live := fun p =>
  inferInstanceAs (Decidable (p = .pending ∨ p = .inProgress))

/-- `ServiceType`. -/
inductive ServiceType where
  | pppoeServer | hotspot | both | bridge
deriving DecidableEq, Repr

def ServiceType.value : ServiceType → String
  | .pppoeServer => "pppoe_server"
  | .hotspot => "hotspot"
  | .both => "both"
  | .bridge => "bridge"

/-- The data of a scan report, as built from its body. -/
structure DeviceScan where
  interfaces : List String
  services : List (String × Bool)
  networkConfig : List (String × String)
  version : String
  boardName : String
  architecture : String
  cpuCount : ℕ
deriving DecidableEq, Repr

/-- The JSON of `routers.config`. -/
structure RouterConfig where
  /-- `scanned_data`, with `last_scanned_at`. -/
  scannedData : Option (DeviceScan × ℤ)
  provisionedServiceType : Option String
  provisionedAt : Option ℤ
deriving DecidableEq, Repr

/-- The columns of `routers` that provisioning reads and writes. -/
structure ManagedRouter where
  id : ℕ
  organizationId : Option ℕ
  name : String
  ipAddress : String
  apiCredentialsEncrypted : Option String
  bootstrapCompleted : Bool
  provisioningStatus : String
  lastProvisionedAt : Option ℤ
  config : RouterConfig
  routerosVersion : Option String
  boardName : Option String
  architecture : Option String
  cpuCount : Option ℕ
  vpnAddress : Option String
  vpnPublicKey : Option String
  vpnEnabled : Bool
  /-- Hash of the agent token. -/
  agentToken : Option String
  agentTokenPlain : Option String
  agentInstalled : Bool
  agentVersion : Option String
deriving DecidableEq, Repr

/-- The columns of `provisioning_sessions` that the callbacks read and write. -/
structure ProvisioningSession where
  /-- Unique. -/
  sessionId : String
  routerId : ℕ
  userId : ℕ
  status : ProvisioningStatus
  progressPercentage : ℕ
  serviceType : Option ServiceType
  /-- `configuration["routeros_version"]`. -/
  routerosVersion : Option String
  /-- The rest of the configuration. -/
  configuration : List (String × String)
  success : Bool
  startedAt : Option ℤ
  completedAt : Option ℤ
  errorMessage : Option String
  createdAt : ℤ
deriving DecidableEq, Repr

/-- The columns of `organizations` that go into a script. -/
structure ProvisioningOrganization where
  id : ℕ
  timezone : Option String
  slug : Option String
deriving DecidableEq, Repr

/-- A device check-in that no session has claimed yet. -/
structure DeviceCheckin where
  identity : Option String
  timestamp : ℤ
  /-- The user of the token that came with it.  The code means to keep this, as `token_sub`, but
  reads a field that the token data does not have. -/
  caller : Option ℤ
deriving DecidableEq, Repr

/-- The tables, and the check-ins in the memory of the ping monitor, by address. -/
structure Provisioning where
  routers : Table ManagedRouter.id
  sessions : Table ProvisioningSession.sessionId
  organizations : Table ProvisioningOrganization.id
  pendingCheckins : List (Option String × DeviceCheckin)

/-- A command of a provisioning script. -/
structure ScriptCommand where
  command : String
  description : Option String
  critical : Bool
deriving DecidableEq, Repr

structure ProvisioningSettings where
  jwt : Jwt
  backendUrl : String
  /-- The command generators, for a session and the organization of its router; no commands when
  one of them raises. -/
  commands : ProvisioningSession → Option ProvisioningOrganization → Option (List ScriptCommand)
  /-- The host addresses of the WireGuard subnet, in order. -/
  tunnelHosts : List String
  tunnelServer : String

/-- A request: its token, the address it comes from, the time, and the result of encrypting the
API credentials (`none` if that raises). -/
structure CallContext where
  token : String
  clientHost : Option String
  now : ℤ
  encryptedCredentials : Option String
deriving DecidableEq, Repr

/-- A query parameter counts only when it is not empty. -/
def given (value : Option String) : Option String := value.filter (fun v => decide (v ≠ ""))

namespace Provisioning

def routerByName (s : Provisioning) (name : String) : Option (Option ManagedRouter) :=
  oneOrNone (s.routers.rows.filter (fun r => decide (r.name = name)))

def routerByIp (s : Provisioning) (ip : String) : Option (Option ManagedRouter) :=
  oneOrNone (s.routers.rows.filter (fun r => decide (r.ipAddress = ip)))

/-- A query by a parameter that may be missing. -/
def lookupBy (query : String → Option (Option ManagedRouter)) :
    Option String → Option (Option ManagedRouter)
  | some value => query value
  | none => some none

/-- The router of a scan report or an enrolment: by identity, then by the client's address.
`none` when a query finds several. -/
def correlate (s : Provisioning) (identity host : Option String) :
    Option (Option ManagedRouter) :=
  (lookupBy s.routerByName (given identity)).bind fun byName =>
    match byName with
    | some r => some (some r)
    | none => lookupBy s.routerByIp host

def newestLiveSession (s : Provisioning) (r : ManagedRouter) : Option ProvisioningSession :=
  latest ProvisioningSession.createdAt
    (s.sessions.rows.filter (fun x => decide (x.routerId = r.id ∧ x.status.Live)))

/-- The session and the router that a notification is about: by session, else by address, then by
identity.  `none` when several routers have the address; several of the name count as none. -/
def notifyTarget (s : Provisioning) (sessionId identity clientIp : Option String) :
    Option (Option ProvisioningSession × Option ManagedRouter) :=
  match (given sessionId).bind s.sessions.get with
  | some x => some (some x, s.routers.get x.routerId)
  | none =>
      (lookupBy s.routerByIp clientIp).map fun byIp =>
        let router := byIp.or (lookupBy s.routerByName (given identity)).join
        (router.bind s.newestLiveSession, router)

/-- `allocate_ip`: the first free host of the subnet. -/
def allocateIp (s : Provisioning) (cfg : ProvisioningSettings) : Option String :=
  cfg.tunnelHosts.find? (fun host => decide (host ≠ cfg.tunnelServer ∧
    ∀ r ∈ s.routers.rows, r.vpnAddress ≠ some host))

/-- `register_device_checkin`: one entry for an address. -/
def registerCheckin (s : Provisioning) (ip : Option String) (info : DeviceCheckin) :
    Provisioning :=
  { s with
    pendingCheckins :=
      if ∃ c ∈ s.pendingCheckins, c.1 = ip then
        updateWhere (fun c => decide (c.1 = ip)) (fun c => (c.1, info)) s.pendingCheckins
      else s.pendingCheckins ++ [(ip, info)] }

end Provisioning

/-! ### What the endpoints write -/

/-- `store_router_credentials`. -/
def ManagedRouter.storeCredentials (credentials : String) (now : ℤ) (r : ManagedRouter) :
    ManagedRouter :=
  { r with
    apiCredentialsEncrypted := some credentials
    bootstrapCompleted := true
    provisioningStatus := "provisioned"
    lastProvisionedAt := some now }

/-- `store_scanned_config`. -/
def ManagedRouter.storeScannedConfig (scan : DeviceScan) (now : ℤ) (r : ManagedRouter) :
    ManagedRouter :=
  { r with
    config := { r.config with scannedData := some (scan, now) }
    routerosVersion := (given (some scan.version)).or r.routerosVersion
    boardName := (given (some scan.boardName)).or r.boardName
    architecture := (given (some scan.architecture)).or r.architecture
    cpuCount := if scan.cpuCount = 0 then r.cpuCount else some scan.cpuCount }

/-- `mark_provisioning_complete`. -/
def ManagedRouter.markProvisioningComplete (serviceType : String) (now : ℤ) (r : ManagedRouter) :
    ManagedRouter :=
  { r with
    provisioningStatus := "provisioned"
    bootstrapCompleted := true
    lastProvisionedAt := some now
    config := { r.config with
      provisionedServiceType := some serviceType
      provisionedAt := some now } }

/-- `register_peer`, with the router's tunnel address, which may be a new one. -/
def ManagedRouter.registerPeer (publicKey address : String) (r : ManagedRouter) : ManagedRouter :=
  { r with
    vpnAddress := some address
    vpnPublicKey := some publicKey
    vpnEnabled := true }

/-- The session after the report of the provisioning script.  (`progress`, which the endpoint sets
too, is no column.) -/
def ProvisioningSession.report (status : String) (now : ℤ) (x : ProvisioningSession) :
    ProvisioningSession :=
  if status = "completed" then
    { x with status := .completed, completedAt := some now }
  else if status = "failed" then
    { x with
      status := .failed
      completedAt := some now
      errorMessage := some "Script-based provisioning reported failure" }
  else { x with status := .completed, completedAt := some now }

def ProvisioningSession.notified (now : ℤ) (x : ProvisioningSession) : ProvisioningSession :=
  { x with
    status := .completed
    completedAt := some now
    progressPercentage := 100 }

/-- `service_type.value`, or `str(None)`. -/
def ProvisioningSession.serviceTypeStr (x : ProvisioningSession) : String :=
  (x.serviceType.map ServiceType.value).getD "None"

@[simp] theorem ManagedRouter.storeCredentials_id (c : String) (now : ℤ) (r : ManagedRouter) :
    (r.storeCredentials c now).id = r.id := rfl

@[simp] theorem ManagedRouter.storeScannedConfig_id (scan : DeviceScan) (now : ℤ)
    (r : ManagedRouter) : (r.storeScannedConfig scan now).id = r.id := rfl

@[simp] theorem ManagedRouter.markProvisioningComplete_id (serviceType : String) (now : ℤ)
    (r : ManagedRouter) : (r.markProvisioningComplete serviceType now).id = r.id := rfl

@[simp] theorem ManagedRouter.registerPeer_id (publicKey address : String) (r : ManagedRouter) :
    (r.registerPeer publicKey address).id = r.id := rfl

@[simp] theorem ProvisioningSession.report_sessionId (status : String) (now : ℤ)
    (x : ProvisioningSession) : (x.report status now).sessionId = x.sessionId := by
  unfold report
  split_ifs <;> rfl

@[simp] theorem ProvisioningSession.notified_sessionId (now : ℤ) (x : ProvisioningSession) :
    (x.notified now).sessionId = x.sessionId := rfl

/-! ### Rows that have it already -/

/-- The credentials of a notification, at the same time. -/
def ManagedRouter.HasCredentials (credentials : String) (now : ℤ) (r : ManagedRouter) : Prop :=
  r.apiCredentialsEncrypted = some credentials ∧ r.bootstrapCompleted = true ∧
    r.provisioningStatus = "provisioned" ∧ r.lastProvisionedAt = some now

/-- The scan, at the same time. -/
def ManagedRouter.HasScan (scan : DeviceScan) (now : ℤ) (r : ManagedRouter) : Prop :=
  r.config.scannedData = some (scan, now) ∧
    (scan.version ≠ "" → r.routerosVersion = some scan.version) ∧
    (scan.boardName ≠ "" → r.boardName = some scan.boardName) ∧
    (scan.architecture ≠ "" → r.architecture = some scan.architecture) ∧
    (scan.cpuCount ≠ 0 → r.cpuCount = some scan.cpuCount)

/-- The completion for the service, at the same time. -/
def ManagedRouter.HasCompletion (serviceType : String) (now : ℤ) (r : ManagedRouter) : Prop :=
  r.provisioningStatus = "provisioned" ∧ r.bootstrapCompleted = true ∧
    r.lastProvisionedAt = some now ∧ r.config.provisionedServiceType = some serviceType ∧
    r.config.provisionedAt = some now

/-- The key, the address and the flag of an enrolment. -/
def ManagedRouter.HasPeer (publicKey address : String) (r : ManagedRouter) : Prop :=
  r.vpnAddress = some address ∧ r.vpnPublicKey = some publicKey ∧ r.vpnEnabled = true

/-- The report, at the same time. -/
def ProvisioningSession.HasReport (status : String) (now : ℤ) (x : ProvisioningSession) : Prop :=
  x.status = (if status = "failed" then .failed else .completed) ∧ x.completedAt = some now ∧
    (status = "failed" → x.errorMessage = some "Script-based provisioning reported failure")

/-- The notification, at the same time. -/
def ProvisioningSession.HasNotification (now : ℤ) (x : ProvisioningSession) : Prop :=
  x.status = .completed ∧ x.completedAt = some now ∧ x.progressPercentage = 100

theorem ManagedRouter.storeCredentials_eq_self_iff {c : String} {now : ℤ} {r : ManagedRouter} :
    r.storeCredentials c now = r ↔ r.HasCredentials c now := by
  constructor
  · intro h
    rw [← h]
    exact ⟨rfl, rfl, rfl, rfl⟩
  · rintro ⟨hc, hb, hp, hl⟩
    simp [storeCredentials, ← hc, ← hb, ← hp, ← hl]

theorem given_or_eq_self_iff {value : String} {column : Option String} :
    (given (some value)).or column = column ↔ (value ≠ "" → column = some value) := by
  by_cases h : value = ""
  · simp [given, Option.filter, h]
  · simp [given, Option.filter, h, eq_comm]

theorem ManagedRouter.storeScannedConfig_eq_self_iff {scan : DeviceScan} {now : ℤ}
    {r : ManagedRouter} : r.storeScannedConfig scan now = r ↔ r.HasScan scan now := by
  have hcpu : (if scan.cpuCount = 0 then r.cpuCount else some scan.cpuCount) = r.cpuCount ↔
      (scan.cpuCount ≠ 0 → r.cpuCount = some scan.cpuCount) := by
    by_cases h : scan.cpuCount = 0
    · simp [h]
    · simp [h, eq_comm]
  have hconfig : { r.config with scannedData := some (scan, now) } = r.config ↔
      r.config.scannedData = some (scan, now) := by
    constructor
    · intro h
      rw [← h]
    · intro h
      rw [← h]
  unfold HasScan
  rw [← hconfig, ← given_or_eq_self_iff, ← given_or_eq_self_iff, ← given_or_eq_self_iff, ← hcpu]
  constructor
  · intro h
    exact ⟨congrArg config h, congrArg routerosVersion h, congrArg boardName h,
      congrArg architecture h, congrArg cpuCount h⟩
  · rintro ⟨h₁, h₂, h₃, h₄, h₅⟩
    simp only [storeScannedConfig, h₁, h₂, h₃, h₄, h₅]

theorem ManagedRouter.markProvisioningComplete_eq_self_iff {serviceType : String} {now : ℤ}
    {r : ManagedRouter} :
    r.markProvisioningComplete serviceType now = r ↔ r.HasCompletion serviceType now := by
  constructor
  · intro h
    rw [← h]
    exact ⟨rfl, rfl, rfl, rfl, rfl⟩
  · rintro ⟨hp, hb, hl, hs, ha⟩
    have hconfig : (⟨r.config.scannedData, some serviceType, some now⟩ : RouterConfig) =
        r.config := by
      rw [← hs, ← ha]
    simp only [markProvisioningComplete, hconfig]
    simp [← hp, ← hb, ← hl]

theorem ManagedRouter.registerPeer_eq_self_iff {publicKey address : String} {r : ManagedRouter} :
    r.registerPeer publicKey address = r ↔ r.HasPeer publicKey address := by
  constructor
  · intro h
    rw [← h]
    exact ⟨rfl, rfl, rfl⟩
  · rintro ⟨ha, hk, he⟩
    simp [registerPeer, ← ha, ← hk, ← he]

theorem ProvisioningSession.report_eq_self_iff {status : String} {now : ℤ}
    {x : ProvisioningSession} : x.report status now = x ↔ x.HasReport status now := by
  unfold report HasReport
  by_cases hfailed : status = "failed"
  · simp only [hfailed, ite_true, true_imp_iff]
    constructor
    · intro h
      rw [← h]
      exact ⟨rfl, rfl, rfl⟩
    · rintro ⟨hs, hc, he⟩
      simp [← hs, ← hc, ← he]
  · simp only [hfailed, ite_false, ite_self, false_imp_iff, and_true]
    constructor
    · intro h
      rw [← h]
      exact ⟨rfl, rfl⟩
    · rintro ⟨hs, hc⟩
      simp [← hs, ← hc]

theorem ProvisioningSession.notified_eq_self_iff {now : ℤ} {x : ProvisioningSession} :
    x.notified now = x ↔ x.HasNotification now := by
  constructor
  · intro h
    rw [← h]
    exact ⟨rfl, rfl, rfl⟩
  · rintro ⟨hs, hc, hp⟩
    simp [notified, ← hs, ← hc, ← hp]

/-! ### The provisioning script -/

/-- The lines of one command: a critical one aborts the script when it fails. -/
def ScriptCommand.lines (total idx : ℕ) (c : ScriptCommand) : List String :=
  let description := c.description.getD ("Command " ++ toString idx)
  if c.command = "" then []
  else
    ["# [" ++ toString idx ++ "/" ++ toString total ++ "] " ++ description,
      if c.critical then
        ":do \x7b " ++ c.command ++ "; :put \"[OK] " ++ description ++
          "\"; :log info \"[PROVISION] " ++ description ++ "\" \x7d on-error=\x7b :put \"[FAIL] " ++
          description ++ "\"; :log error \"[PROVISION] CRITICAL FAILURE: " ++ description ++
          "\"; :error \"Provisioning aborted: " ++ description ++ "\" \x7d"
      else
        ":do \x7b " ++ c.command ++ "; :put \"[OK] " ++ description ++
          "\"; :log info \"[PROVISION] " ++ description ++ "\" \x7d on-error=\x7b :put \"[WARN] " ++
          description ++ " (non-critical)\"; :log warning \"[PROVISION] " ++ description ++
          " failed (non-critical)\" \x7d",
      ""]

/-- The address at which the router reports the end of the script. -/
def completeUrl (cfg : ProvisioningSettings) (sessionId token : String) : String :=
  cfg.backendUrl ++ "/api/v1/provisioning/provision-script/" ++ sessionId ++ "/complete?token=" ++
    token ++ "&status=completed"

def scriptText (cfg : ProvisioningSettings) (x : ProvisioningSession) (token : String)
    (commands : List ScriptCommand) : String :=
  let rule := ":put \"=========================================\""
  let url := completeUrl cfg x.sessionId token
  let mode := if "https://".toList.isPrefixOf url.toList then "https" else "http"
  "\n".intercalate (
    ["# Codevertex ISP Billing - Provisioning Script",
      "# Generated for session: " ++ x.sessionId,
      "# RouterOS version: " ++ (given x.routerosVersion).getD "auto-detect",
      "# All operations are logged to /log and displayed in terminal", "", ":put \"\"", rule,
      ":put \"Codevertex Provisioning - Starting\"", rule, ""] ++
    (commands.zipIdx 1).flatMap (fun c => c.1.lines commands.length c.2) ++
    [":put \"\"", rule, ":put \"Provisioning completed successfully\"", rule, "",
      "# Notify backend of completion", ":do \x7b",
      "  /tool/fetch mode=" ++ mode ++ " url=\"" ++ url ++
        "\" http-method=post dst-path=provision-complete.result",
      "  :put \"[OK] Backend notified of provisioning completion\"",
      "  :log info \"[PROVISION] Backend notified of completion\"",
      "\x7d on-error=\x7b :put \"[WARN] Failed to notify backend (non-critical)\"; " ++
        ":log warning \"[PROVISION] Failed to notify backend\" \x7d"]) ++
    "\n"

/-! ### The endpoints -/

inductive ScanBody where
  /-- The form data cannot be read. -/
  | unreadable
  /-- A number or an address in it cannot be read. -/
  | malformed
  | scan (data : DeviceScan)
deriving DecidableEq, Repr

inductive Callback where
  | provisionScript (sessionId : String)
  | scriptComplete (sessionId status : String)
  | notify (sessionId identity ipAddress : Option String)
  | scanReport (identity : Option String) (body : ScanBody)
  /-- The key is empty when there is none in the request. -/
  | wgRegister (identity : Option String) (publicKey : String)
deriving DecidableEq, Repr

inductive CallbackResponse where
  | script (text : String)
  | reported (sessionId status : String)
  | notified (sessionId : Option String)
  | scanned (routerId : Option ℕ) (interfacesCount : ℕ) (version : String)
  | enrolled (routerId : ℕ) (vpnAddress : Option String)
  | error (statusCode : ℕ) (detail : String)
deriving DecidableEq, Repr

namespace Provisioning

variable (cfg : ProvisioningSettings) (ctx : CallContext) (s : Provisioning)

/-- `ProvisioningSession` has no organization; the router of the session has. -/
def organizationOf (x : ProvisioningSession) : Option ℕ :=
  (s.routers.get x.routerId).bind ManagedRouter.organizationId

/-- `get_provisioning_script`, after the token. -/
def provisionScript (sessionId : String) : CallbackResponse :=
  match s.sessions.get sessionId with
  | none => .error 404 "Provisioning session not found"
  | some x =>
      match cfg.commands x ((s.organizationOf x).bind s.organizations.get) with
      | none => .error 500 "Internal Server Error"
      | some commands => .script (scriptText cfg x ctx.token commands)

/-- `provisioning_script_complete`, after the token. -/
def scriptComplete (sessionId status : String) : Provisioning × CallbackResponse :=
  match s.sessions.get sessionId with
  | none => (s, .error 404 "Provisioning session not found")
  | some x =>
      ({ s with
        sessions := s.sessions.update sessionId (ProvisioningSession.report status ctx.now)
          (ProvisioningSession.report_sessionId status ctx.now)
        routers :=
          if status = "completed" then
            s.routers.update x.routerId
              (ManagedRouter.markProvisioningComplete x.serviceTypeStr ctx.now)
              (ManagedRouter.markProvisioningComplete_id x.serviceTypeStr ctx.now)
          else s.routers },
        .reported sessionId status)

def tokenUser : Option ℤ :=
  (cfg.jwt.decode ctx.now ctx.token).bind (fun payload => payload.sub.bind parseInt)

/-- `client_ip`. -/
def clientIp (ipAddress : Option String) : Option String := (given ipAddress).or ctx.clientHost

/-- The writes of a notification: credentials of the router (unless they cannot be encrypted) and
status of the session. -/
def notifyWrites (session : Option ProvisioningSession) (router : Option ManagedRouter) :
    Provisioning :=
  { s with
    routers := match router, ctx.encryptedCredentials with
      | some r, some c => s.routers.update r.id (ManagedRouter.storeCredentials c ctx.now)
          (ManagedRouter.storeCredentials_id c ctx.now)
      | _, _ => s.routers
    sessions := match session with
      | some x => s.sessions.update x.sessionId (ProvisioningSession.notified ctx.now)
          (ProvisioningSession.notified_sessionId ctx.now)
      | none => s.sessions }

/-- `provisioning_notify`, after the token. -/
def notify (sessionId identity ipAddress : Option String) : Provisioning × CallbackResponse :=
  match s.notifyTarget sessionId identity (clientIp ctx ipAddress) with
  | none => (s, .error 500 "Failed to handle notify")
  | some (session, router) =>
      let t := s.notifyWrites ctx session router
      match (session.map ProvisioningSession.sessionId).or (given sessionId) with
      | some sid => (t, .notified (some sid))
      | none =>
          (t.registerCheckin (clientIp ctx ipAddress) ⟨identity, ctx.now, tokenUser cfg ctx⟩,
            .notified none)

/-- `bootstrap_scan_report`, after the token. -/
def scanReport (identity : Option String) (body : ScanBody) : Provisioning × CallbackResponse :=
  match body with
  | .unreadable => (s, .error 400 "Failed to parse scan data")
  | .malformed => (s, .error 500 "Internal Server Error")
  | .scan d =>
      match s.correlate identity ctx.clientHost with
      | none => (s, .error 500 "Internal Server Error")
      | some none => (s, .scanned none d.interfaces.length d.version)
      | some (some r) =>
          ({ s with
            routers := s.routers.update r.id (ManagedRouter.storeScannedConfig d ctx.now)
              (ManagedRouter.storeScannedConfig_id d ctx.now) },
            .scanned (some r.id) d.interfaces.length d.version)

/-- `bootstrap_wg_register`, after the token. -/
def wgRegister (identity : Option String) (publicKey : String) : Provisioning × CallbackResponse :=
  if publicKey = "" then (s, .error 400 "Missing public_key")
  else
    match s.correlate identity ctx.clientHost with
    | none => (s, .error 500 "Internal Server Error")
    | some none => (s, .error 404 "Router not found")
    | some (some r) =>
        match (given r.vpnAddress).or (s.allocateIp cfg) with
        | none => (s, .error 500 "Failed to register WireGuard peer")
        | some address =>
            ({ s with
              routers := s.routers.update r.id (ManagedRouter.registerPeer publicKey address)
                (ManagedRouter.registerPeer_id publicKey address) },
              .enrolled r.id (some address))

/-- What an endpoint does once the token has been looked at. -/
def serve : Callback → Provisioning × CallbackResponse
  | .provisionScript sessionId => (s, s.provisionScript cfg ctx sessionId)
  | .scriptComplete sessionId status => s.scriptComplete ctx sessionId status
  | .notify sessionId identity ipAddress => s.notify cfg ctx sessionId identity ipAddress
  | .scanReport identity body => s.scanReport ctx identity body
  | .wgRegister identity publicKey => s.wgRegister cfg ctx identity publicKey

/-- Only the notification asks whether there is a token at all. -/
def TokenMissing : Callback → Prop
  | .notify _ _ _ => ctx.token = ""
  | _ => False

instance (c : Callback) : Decidable (TokenMissing ctx c) :=
  match c with
  | .notify _ _ _ => inferInstanceAs (Decidable (ctx.token = ""))
  | .provisionScript _ => instDecidableFalse
  | .scriptComplete _ _ => instDecidableFalse
  | .scanReport _ _ => instDecidableFalse
  | .wgRegister _ _ => instDecidableFalse

/-- An endpoint.  The token is refused only if `verify_token` raises: its `None` goes unseen. -/
def handle (c : Callback) : Provisioning × CallbackResponse :=
  if TokenMissing ctx c then (s, .error 400 "Token is required")
  else
    match verifyToken cfg.jwt ctx.now ctx.token with
    | .raised => (s, .error 401 "Invalid token")
    | _ => s.serve cfg ctx c

/-! ### Authentication -/

/-- The endpoint has returned no script and changed no row. -/
def Refused (result : Provisioning × CallbackResponse) : Prop :=
  (∀ text, result.2 ≠ .script text) ∧ result.1.routers = s.routers ∧
    result.1.sessions = s.sessions ∧ result.1.organizations = s.organizations

/-- The session whose script or completion a call is for. -/
def scriptSession : Callback → Option String
  | .provisionScript sessionId => some sessionId
  | .scriptComplete sessionId _ => some sessionId
  | _ => none

/-- The claims that `start_provisioning` puts into the token of a session; a `username` is not
among them. -/
def provisioningClaims (x : ProvisioningSession) : Claims where
  sub := some (toString x.userId)
  username := none
  role := none
  organizationId := none
  permissions := ["provisioning.execute", "router.configure"]
  type := some "access"
  exp := 0

/-- The token that `start_provisioning` mints for a session. -/
def provisioningToken (jwt : Jwt) (x : ProvisioningSession) (issuedAt : ℤ) : String :=
  createAccessToken jwt (provisioningClaims x) issuedAt (hours 2)

/-- The expiry of a token that is minted for two hours. -/
def provisioningExpiry (issuedAt : ℤ) : ℤ := seconds ((issuedAt + hours 2) / seconds 1)

/-- **What authentication means**: a token that does not verify gets no script and changes no row,
and the token of a session is accepted by its script and completion endpoints until it expires. -/
def Authenticated (c : Callback) : Prop :=
  (verifyToken cfg.jwt ctx.now ctx.token = .invalid → s.Refused (s.handle cfg ctx c)) ∧
    ∀ x ∈ s.sessions.rows, ∀ issuedAt, scriptSession c = some x.sessionId →
      ctx.token = provisioningToken cfg.jwt x issuedAt → ctx.now < provisioningExpiry issuedAt →
        (s.handle cfg ctx c).2 ≠ .error 401 "Invalid token"

/-- The lookups of the call find nothing to hand out or to write to; or the rows they find have
everything already, down to the time. -/
def Harmless : Callback → Prop
  | .provisionScript sessionId =>
      ∀ x, s.sessions.get sessionId = some x →
        cfg.commands x ((s.organizationOf x).bind s.organizations.get) = none
  | .scriptComplete sessionId status =>
      ∀ x, s.sessions.get sessionId = some x → x.HasReport status ctx.now ∧
        (status = "completed" → ∀ r, s.routers.get x.routerId = some r →
          r.HasCompletion x.serviceTypeStr ctx.now)
  | .notify sessionId identity ipAddress =>
      ctx.token = "" ∨ ∀ session router,
        s.notifyTarget sessionId identity (clientIp ctx ipAddress) = some (session, router) →
          (∀ x ∈ session, x.HasNotification ctx.now) ∧
          ∀ r ∈ router, ∀ c ∈ ctx.encryptedCredentials, r.HasCredentials c ctx.now
  | .scanReport identity body =>
      ∀ d, body = .scan d → ∀ r, s.correlate identity ctx.clientHost = some (some r) →
        r.HasScan d ctx.now
  | .wgRegister identity publicKey =>
      publicKey ≠ "" → ∀ r, s.correlate identity ctx.clientHost = some (some r) →
        ∀ address, (given r.vpnAddress).or (s.allocateIp cfg) = some address →
          r.HasPeer publicKey address

variable {s} {ctx} {cfg}

theorem lookupBy_mem {column : ManagedRouter → String} {value : Option String} {r : ManagedRouter}
    (h : lookupBy (fun v => oneOrNone (s.routers.rows.filter (fun r => decide (column r = v))))
      value = some (some r)) : r ∈ s.routers.rows := by
  cases value with
  | none => simp [lookupBy] at h
  | some v => exact List.mem_of_mem_filter (mem_of_oneOrNone h)

theorem correlate_mem {identity host : Option String} {r : ManagedRouter}
    (h : s.correlate identity host = some (some r)) : r ∈ s.routers.rows := by
  obtain ⟨byName, hname, hrest⟩ := Option.bind_eq_some_iff.mp h
  cases byName with
  | some r' =>
      obtain rfl : r' = r := by simpa using hrest
      exact lookupBy_mem hname
  | none => exact lookupBy_mem hrest

theorem notifyTarget_mem {sessionId identity ip : Option String}
    {session : Option ProvisioningSession} {router : Option ManagedRouter}
    (h : s.notifyTarget sessionId identity ip = some (session, router)) :
    (∀ x ∈ session, x ∈ s.sessions.rows) ∧ ∀ r ∈ router, r ∈ s.routers.rows := by
  unfold notifyTarget at h
  cases hx : (given sessionId).bind s.sessions.get with
  | some x =>
      simp only [hx, Option.some.injEq, Prod.mk.injEq] at h
      obtain ⟨rfl, rfl⟩ := h
      obtain ⟨sid, -, hget⟩ := Option.bind_eq_some_iff.mp hx
      refine ⟨?_, fun r hr => (Table.get_eq_some.mp hr).1⟩
      intro y hy
      obtain rfl := Option.some.inj hy
      exact (Table.get_eq_some.mp hget).1
  | none =>
      simp only [hx] at h
      obtain ⟨byIp, hip, hrest⟩ := Option.map_eq_some_iff.mp h
      simp only [Prod.mk.injEq] at hrest
      obtain ⟨rfl, rfl⟩ := hrest
      constructor
      · intro x hx
        obtain ⟨r, -, hnew⟩ := Option.bind_eq_some_iff.mp hx
        exact List.mem_of_mem_filter (latest_spec hnew).1
      · intro r hr
        cases byIp with
        | some r' =>
            obtain rfl : r' = r := by simpa using hr
            exact lookupBy_mem hip
        | none =>
            have hname : (lookupBy s.routerByName (given identity)).join = some r := by
              simpa using hr
            exact lookupBy_mem (Option.join_eq_some_iff.mp hname)

/-- A result that hands out no script is refused exactly if it leaves the two tables alone. -/
theorem refused_iff {routers : Table ManagedRouter.id}
    {sessions : Table ProvisioningSession.sessionId} {pending : List (Option String × DeviceCheckin)}
    {response : CallbackResponse} (h : ∀ text, response ≠ .script text) :
    s.Refused (⟨routers, sessions, s.organizations, pending⟩, response) ↔
      routers = s.routers ∧ sessions = s.sessions := by
  unfold Refused
  exact ⟨fun hr => ⟨hr.2.1, hr.2.2.1⟩, fun hr => ⟨h, hr.1, hr.2, rfl⟩⟩

theorem refused_error (statusCode : ℕ) (detail : String) :
    s.Refused (s, .error statusCode detail) := (refused_iff (by simp)).mpr ⟨rfl, rfl⟩

theorem provisionScript_refused_iff {sessionId : String} :
    s.Refused (s, s.provisionScript cfg ctx sessionId) ↔
      s.Harmless cfg ctx (.provisionScript sessionId) := by
  cases hx : s.sessions.get sessionId with
  | none => simp [provisionScript, Harmless, hx, refused_error]
  | some x =>
      cases hc : cfg.commands x ((s.organizationOf x).bind s.organizations.get) with
      | none => simp [provisionScript, Harmless, hx, hc, refused_error]
      | some commands => simp [provisionScript, Harmless, hx, hc, Refused]

theorem scriptComplete_refused_iff {sessionId status : String} :
    s.Refused (s.scriptComplete ctx sessionId status) ↔
      s.Harmless cfg ctx (.scriptComplete sessionId status) := by
  cases hx : s.sessions.get sessionId with
  | none => simp [scriptComplete, Harmless, hx, refused_error]
  | some x =>
      simp only [scriptComplete, Harmless, hx, Option.some.injEq, forall_eq']
      rw [refused_iff (by simp), Table.update_eq_self_iff, hx, and_comm]
      simp only [Option.some.injEq, forall_eq', ProvisioningSession.report_eq_self_iff]
      by_cases hs : status = "completed"
      · rw [if_pos hs, Table.update_eq_self_iff]
        simp only [hs, true_imp_iff, ManagedRouter.markProvisioningComplete_eq_self_iff]
      · simp only [hs, ite_false, false_imp_iff]

theorem notifyWrites_eq_iff {session : Option ProvisioningSession} {router : Option ManagedRouter}
    (hsession : ∀ x ∈ session, x ∈ s.sessions.rows) (hrouter : ∀ r ∈ router, r ∈ s.routers.rows) :
    (s.notifyWrites ctx session router).routers = s.routers ∧
        (s.notifyWrites ctx session router).sessions = s.sessions ↔
      (∀ x ∈ session, x.HasNotification ctx.now) ∧
        ∀ r ∈ router, ∀ c ∈ ctx.encryptedCredentials, r.HasCredentials c ctx.now := by
  rw [and_comm]
  apply and_congr
  · cases session with
    | none => simp [notifyWrites]
    | some x =>
        have hx := hsession x rfl
        simp [notifyWrites, Table.update_key_eq_self_iff hx,
          ProvisioningSession.notified_eq_self_iff]
  · cases router with
    | none => simp [notifyWrites]
    | some r =>
        have hr := hrouter r rfl
        cases hc : ctx.encryptedCredentials with
        | none => simp [notifyWrites, hc]
        | some c =>
            simp [notifyWrites, hc, Table.update_key_eq_self_iff hr,
              ManagedRouter.storeCredentials_eq_self_iff]

/-- **Inversion of a notification**: several routers have the address, or the two tables are those of
`notifyWrites` for what was found.  The check-in is not a row. -/
theorem notify_cases (s : Provisioning) (cfg : ProvisioningSettings) (ctx : CallContext)
    (sessionId identity ipAddress : Option String) :
    (s.notifyTarget sessionId identity (clientIp ctx ipAddress) = none ∧
        s.notify cfg ctx sessionId identity ipAddress = (s, .error 500 "Failed to handle notify")) ∨
      ∃ session router pending sid,
        s.notifyTarget sessionId identity (clientIp ctx ipAddress) = some (session, router) ∧
        s.notify cfg ctx sessionId identity ipAddress =
          ({ s.notifyWrites ctx session router with pendingCheckins := pending },
            .notified sid) := by
  unfold notify
  split
  · next hnone => exact Or.inl ⟨hnone, rfl⟩
  · next session router htarget =>
      right
      simp only
      split
      · exact ⟨session, router, _, _, htarget, rfl⟩
      · exact ⟨session, router, _, _, htarget, rfl⟩

theorem notify_refused_iff {sessionId identity ipAddress : Option String} (ht : ctx.token ≠ "") :
    s.Refused (s.notify cfg ctx sessionId identity ipAddress) ↔
      s.Harmless cfg ctx (.notify sessionId identity ipAddress) := by
  rcases s.notify_cases cfg ctx sessionId identity ipAddress with
    ⟨hnone, hsame⟩ | ⟨session, router, pending, sid, htarget, hnew⟩
  · rw [hsame]
    exact iff_of_true (refused_error 500 _) (Or.inr (by simp [hnone]))
  · obtain ⟨hsession, hrouter⟩ := notifyTarget_mem htarget
    have hrefused : s.Refused (s.notify cfg ctx sessionId identity ipAddress) ↔
        (s.notifyWrites ctx session router).routers = s.routers ∧
          (s.notifyWrites ctx session router).sessions = s.sessions := by
      rw [hnew]
      exact refused_iff (by simp)
    rw [hrefused, notifyWrites_eq_iff hsession hrouter]
    simp only [Harmless, ht, false_or, htarget, Option.some.injEq, Prod.mk.injEq, and_imp]
    exact ⟨by rintro h _ _ rfl rfl; exact h, fun h => h session router rfl rfl⟩

/-- **Inversion of a scan report**: it changes nothing, for want of a scan or a router, or it stores
the scan with the router that it finds. -/
theorem scanReport_cases (s : Provisioning) (ctx : CallContext) (identity : Option String)
    (body : ScanBody) :
    (∃ response, (∀ text, response ≠ .script text) ∧
        s.scanReport ctx identity body = (s, response) ∧
        ∀ d r, body = .scan d → s.correlate identity ctx.clientHost ≠ some (some r)) ∨
      ∃ d r, body = .scan d ∧ s.correlate identity ctx.clientHost = some (some r) ∧
        s.scanReport ctx identity body = ({ s with
          routers := s.routers.update r.id (ManagedRouter.storeScannedConfig d ctx.now)
            (ManagedRouter.storeScannedConfig_id d ctx.now) },
          .scanned (some r.id) d.interfaces.length d.version) := by
  cases body with
  | unreadable => exact Or.inl ⟨_, by simp, rfl, by simp⟩
  | malformed => exact Or.inl ⟨_, by simp, rfl, by simp⟩
  | scan d =>
      simp only [scanReport]
      cases s.correlate identity ctx.clientHost with
      | none => exact Or.inl ⟨_, by simp, rfl, by simp⟩
      | some found =>
          cases found with
          | none => exact Or.inl ⟨_, by simp, rfl, by simp⟩
          | some r => exact Or.inr ⟨d, r, rfl, rfl, rfl⟩

theorem scanReport_refused_iff {identity : Option String} {body : ScanBody} :
    s.Refused (s.scanReport ctx identity body) ↔ s.Harmless cfg ctx (.scanReport identity body) := by
  rcases s.scanReport_cases ctx identity body with
    ⟨response, hresponse, hsame, hnone⟩ | ⟨d, r, rfl, hr, hnew⟩
  · rw [hsame]
    refine iff_of_true ((refused_iff hresponse).mpr ⟨rfl, rfl⟩) ?_
    intro d hd r hr
    exact absurd hr (hnone d r hd)
  · rw [hnew, refused_iff (by simp), Table.update_key_eq_self_iff (correlate_mem hr),
      ManagedRouter.storeScannedConfig_eq_self_iff]
    simp [Harmless, hr]

/-- **Inversion of an enrolment**: it changes nothing, for want of a key, a router or an address, or
it enrols the router that it finds. -/
theorem wgRegister_cases (s : Provisioning) (cfg : ProvisioningSettings) (ctx : CallContext)
    (identity : Option String) (publicKey : String) :
    (∃ response, (∀ text, response ≠ .script text) ∧
        s.wgRegister cfg ctx identity publicKey = (s, response) ∧
        (publicKey ≠ "" → ∀ r address, s.correlate identity ctx.clientHost = some (some r) →
          (given r.vpnAddress).or (s.allocateIp cfg) ≠ some address)) ∨
      ∃ r address, publicKey ≠ "" ∧ s.correlate identity ctx.clientHost = some (some r) ∧
        (given r.vpnAddress).or (s.allocateIp cfg) = some address ∧
        s.wgRegister cfg ctx identity publicKey = ({ s with
          routers := s.routers.update r.id (ManagedRouter.registerPeer publicKey address)
            (ManagedRouter.registerPeer_id publicKey address) },
          .enrolled r.id (some address)) := by
  unfold wgRegister
  split
  · next hkey => exact Or.inl ⟨_, by simp, rfl, fun hne => absurd hkey hne⟩
  · next hkey =>
      split
      · next hr => exact Or.inl ⟨_, by simp, rfl, by simp [hr]⟩
      · next hr => exact Or.inl ⟨_, by simp, rfl, by simp [hr]⟩
      · next r hr =>
          split
          · next haddr =>
              refine Or.inl ⟨_, by simp, rfl, ?_⟩
              intro _ r' address hr'
              rw [hr] at hr'
              obtain rfl := Option.some.inj (Option.some.inj hr')
              rw [haddr]
              simp
          · next address haddr => exact Or.inr ⟨r, address, hkey, hr, haddr, rfl⟩

theorem wgRegister_refused_iff {identity : Option String} {publicKey : String} :
    s.Refused (s.wgRegister cfg ctx identity publicKey) ↔
      s.Harmless cfg ctx (.wgRegister identity publicKey) := by
  rcases s.wgRegister_cases cfg ctx identity publicKey with
    ⟨response, hresponse, hsame, hnone⟩ | ⟨r, address, hkey, hr, haddr, hnew⟩
  · rw [hsame]
    refine iff_of_true ((refused_iff hresponse).mpr ⟨rfl, rfl⟩) ?_
    intro hkey r hr address haddr
    exact absurd haddr (hnone hkey r address hr)
  · rw [hnew, refused_iff (by simp), Table.update_key_eq_self_iff (correlate_mem hr),
      ManagedRouter.registerPeer_eq_self_iff]
    simp only [Harmless, hkey, hr, haddr, ne_eq, not_false_eq_true, true_imp_iff, Option.some.injEq,
      forall_eq', and_true]

theorem serve_refused_iff {c : Callback} (hc : ¬ TokenMissing ctx c) :
    s.Refused (s.serve cfg ctx c) ↔ s.Harmless cfg ctx c := by
  cases c with
  | provisionScript sessionId => exact provisionScript_refused_iff
  | scriptComplete sessionId status => exact scriptComplete_refused_iff
  | notify sessionId identity ipAddress => exact notify_refused_iff hc
  | scanReport identity body => exact scanReport_refused_iff
  | wgRegister identity publicKey => exact wgRegister_refused_iff

theorem harmless_of_tokenMissing {c : Callback} (hc : TokenMissing ctx c) :
    s.Harmless cfg ctx c := by
  cases c with
  | notify sessionId identity ipAddress => exact Or.inl hc
  | provisionScript _ | scriptComplete _ _ | scanReport _ _ | wgRegister _ _ => exact hc.elim

/-- The token of a session does not verify: it lacks the `username`. -/
theorem verifyToken_provisioningToken {jwt : Jwt} (hjwt : jwt.Correct) (x : ProvisioningSession)
    (issuedAt now : ℤ) : verifyToken jwt now (provisioningToken jwt x issuedAt) = .invalid := by
  unfold verifyToken provisioningToken createAccessToken
  rw [hjwt]
  split
  · rfl
  · next claims hclaims =>
      split at hclaims
      · obtain rfl := Option.some.inj hclaims
        rfl
      · cases hclaims

theorem serve_ne_unauthorized (c : Callback) :
    (s.serve cfg ctx c).2 ≠ .error 401 "Invalid token" := by
  cases c with
  | provisionScript sessionId =>
      simp only [serve, provisionScript]
      split <;> [simp; split <;> simp]
  | scriptComplete sessionId status =>
      simp only [serve, scriptComplete]
      split <;> simp
  | notify sessionId identity ipAddress =>
      simp only [serve, notify]
      split <;> [simp; split <;> simp]
  | scanReport identity body =>
      simp only [serve, scanReport]
      split <;> [simp; simp; split <;> simp]
  | wgRegister identity publicKey =>
      simp only [serve, wgRegister]
      split <;> [simp; split <;> [simp; simp; split <;> simp]]

/-- **The callbacks are authenticated only where there is nothing to protect**: a token of a session
is accepted as it should be, but so is any other string, so authentication fails unless the
lookups of the call find nothing. -/
theorem callback_authenticated_iff (hjwt : cfg.jwt.Correct) (c : Callback) :
    s.Authenticated cfg ctx c ↔
      (verifyToken cfg.jwt ctx.now ctx.token = .invalid → s.Harmless cfg ctx c) := by
  have haccept : ∀ x ∈ s.sessions.rows, ∀ issuedAt, scriptSession c = some x.sessionId →
      ctx.token = provisioningToken cfg.jwt x issuedAt → ctx.now < provisioningExpiry issuedAt →
        (s.handle cfg ctx c).2 ≠ .error 401 "Invalid token" := by
    intro x _ issuedAt _ htoken _
    unfold handle
    rw [htoken, verifyToken_provisioningToken hjwt]
    split
    · simp
    · exact serve_ne_unauthorized c
  have hrefuse : verifyToken cfg.jwt ctx.now ctx.token = .invalid →
      (s.Refused (s.handle cfg ctx c) ↔ s.Harmless cfg ctx c) := by
    intro hinvalid
    unfold handle
    rw [hinvalid]
    by_cases hc : TokenMissing ctx c
    · simp [hc, refused_error, harmless_of_tokenMissing hc]
    · rw [if_neg hc]
      exact serve_refused_iff hc
  constructor
  · intro h hinvalid
    exact (hrefuse hinvalid).mp (h.1 hinvalid)
  · intro h
    exact ⟨fun hinvalid => (hrefuse hinvalid).mpr (h hinvalid), haccept⟩

end Provisioning

/-! ### A forged token -/

instance encodableChar : Encodable Char := Encodable.ofLeftInverse Char.toNat Char.ofNat Char.ofNat_toNat

instance encodableString : Encodable String :=
  Encodable.ofLeftInverse String.toList String.ofList (fun _ => String.ofList_toList)

deriving instance Encodable for Claims

/-- A library without cryptography: the number of dots is the token's content. -/
def unaryJwt : Jwt where
  encode claims := String.ofList ('.' :: List.replicate (Encodable.encode claims) '.')
  decode now token :=
    match token.toList with
    | '.' :: body =>
        (Encodable.decode body.length : Option Claims).filter (fun c => decide (now < c.exp))
    | _ => none

theorem unaryJwt_correct : unaryJwt.Correct := by
  intro claims now
  simp only [unaryJwt, String.toList_ofList, List.length_replicate, Encodable.encodek]
  split_ifs <;> simp_all

def sampleSettings : ProvisioningSettings where
  jwt := unaryJwt
  backendUrl := "https://isp.example"
  commands := fun _ _ => some [⟨"/ip/dns/set servers=8.8.8.8", some "DNS", false⟩]
  tunnelHosts := ["10.8.0.1", "10.8.0.2"]
  tunnelServer := "10.8.0.1"

/-- A router of the first organization, not yet provisioned. -/
def sampleRouter : ManagedRouter where
  id := 1
  organizationId := some 1
  name := "office"
  ipAddress := "192.168.88.1"
  apiCredentialsEncrypted := none
  bootstrapCompleted := false
  provisioningStatus := "pending"
  lastProvisionedAt := none
  config := ⟨none, none, none⟩
  routerosVersion := none
  boardName := none
  architecture := none
  cpuCount := none
  vpnAddress := none
  vpnPublicKey := none
  vpnEnabled := false
  agentToken := none
  agentTokenPlain := none
  agentInstalled := false
  agentVersion := none

def sampleSession : ProvisioningSession where
  sessionId := "s-1"
  routerId := 1
  userId := 7
  status := .inProgress
  progressPercentage := 0
  serviceType := some .hotspot
  routerosVersion := none
  configuration := []
  success := false
  startedAt := some 0
  completedAt := none
  errorMessage := none
  createdAt := 0

def sampleProvisioning : Provisioning where
  routers := ⟨[sampleRouter], by decide⟩
  sessions := ⟨[sampleSession], by decide⟩
  organizations := ⟨[⟨1, none, none⟩], by decide⟩
  pendingCheckins := []

/-- A request with a token that nobody signed. -/
def forgedContext : CallContext where
  token := "forged"
  clientHost := some "203.0.113.9"
  now := 60
  encryptedCredentials := some "gAAAA"

/-- For a session that does not exist the forged token does no harm. -/
theorem callback_authenticated_unknown :
    sampleProvisioning.Authenticated sampleSettings forgedContext
      (.scriptComplete "s-2" "completed") := by
  have hjwt : sampleSettings.jwt.Correct := unaryJwt_correct
  refine (Provisioning.callback_authenticated_iff hjwt _).mpr ?_
  intro _ x hx
  have hnone : sampleProvisioning.sessions.get "s-2" = none := by decide
  rw [hnone] at hx
  cases hx

/-- For one that does, the forged token is handed the script, and marks the session as completed. -/
theorem callback_forged :
    ¬ sampleProvisioning.Authenticated sampleSettings forgedContext (.provisionScript "s-1") ∧
      ¬ sampleProvisioning.Authenticated sampleSettings forgedContext
        (.scriptComplete "s-1" "completed") := by
  have hinvalid : verifyToken unaryJwt 60 "forged" = .invalid := by decide
  constructor
  · intro h
    exact (h.1 hinvalid).1 _ rfl
  · intro h
    have hsame := (h.1 hinvalid).2.2.1
    have hrows : [sampleSession.report "completed" 60] = [sampleSession] := congrArg Table.rows hsame
    exact absurd hrows (by decide)

end IspBilling
