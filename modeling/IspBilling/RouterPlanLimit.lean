import IspBilling.IdentityLinks

/-! # The plan limit on routers

The number of routers of a tenant is limited by its plan.  `enforce_plan_limit` (`app/api/deps.py`)
is a dependency that counts the routers of the user's organization and refuses the request when they
have reached the limit of the claims, or of subscriptions-api.

Routers come into being in three places: `create_router` and `upsert_router`
(`app/api/v1/network/routers.py`) and the pre-creation of `get_bootstrap_command`
(`app/api/v1/provisioning/bootstrap.py`).  All three end in `RouterService.create_router`, but only
the first has the dependency, and its count is read before the checks and the insert.  A request is
therefore in flight between its start, the checks of `create_router` and its commit, and requests
interleave in any order.

`router_plan_limit_iff` says which runs keep a tenant within its plan. -/

namespace IspBilling

open Rows Runs

/-! ### Rows and requests -/

/-- The columns of `routers` that the requests read. -/
structure TenantRouter where
  id : ℕ
  organizationId : Option ℕ
  name : String
  ipAddress : String
  winboxPort : Option ℕ
deriving DecidableEq, Repr

/-- What `int` makes of the value of a limit. -/
inductive LimitValue where
  | int (n : ℤ)
  | unparsable
deriving DecidableEq, Repr

/-- The claims of an SSO token that the dependency reads. -/
structure PlanClaims where
  isPlatformOwner : Bool
  isDemo : Bool
  billingMode : String
  roles : List String
  tenantSlug : String
  tenantId : Option String
  /-- `max_routers` in `sub_limits`. -/
  maxRouters : Option LimitValue
deriving DecidableEq, Repr

/-- What the dependency knows about a request. -/
structure PlanContext where
  internalService : Bool
  role : UserRole
  organizationId : Option ℕ
  claims : Option PlanClaims
  /-- `max_routers` in the answer of subscriptions-api; nothing when the lookup fails. -/
  subscription : Option LimitValue
deriving DecidableEq, Repr

structure RouterData where
  name : String
  ipAddress : String
  port : ℤ
deriving DecidableEq, Repr

/-- What is fixed during a run: the functions on texts, the credentials of the settings and the
Winbox ports of an organization. -/
structure RouterEnvironment where
  txt : IdentityText
  validIp : String → Bool
  username : String
  password : String
  winboxRange : Option ℕ → ℕ × ℕ

inductive RequestPhase where
  /-- `upsert_router` has found the router and will update it. -/
  | matched (routerId : ℕ)
  /-- `create_router` is about to make its checks. -/
  | creating
  /-- The checks are made, and a Winbox port is chosen. -/
  | checked (winboxPort : ℕ)
deriving DecidableEq, Repr

structure RouterRequest where
  organizationId : Option ℕ
  data : RouterData
  /-- The number of routers that the dependency has counted, if it was asked. -/
  counted : Option ℕ
  phase : RequestPhase
deriving DecidableEq, Repr

/-- The routers of all tenants and the requests in flight. -/
structure RouterSystem where
  routers : Table TenantRouter.id
  requests : List RouterRequest

inductive RouterEvent where
  /-- `POST /routers/`, up to the dependency. -/
  | create (ctx : PlanContext) (data : RouterData)
  /-- `POST /routers/upsert`, up to its lookup. -/
  | upsert (organizationId : Option ℕ) (data : RouterData)
  /-- `GET /bootstrap/command`, up to the lookup of the identity. -/
  | preCreate (organizationId : Option ℕ) (identity : String) (ipAddress : Option String)
      (apiPort : ℤ)
  /-- The checks of `create_router`. -/
  | check (request : ℕ)
  /-- The commit of a request; a new router gets the id. -/
  | commit (request : ℕ) (id : ℕ)
  /-- `DELETE /routers/{id}`; `busy` when the router has subscriptions that are not over. -/
  | delete (organizationId : Option ℕ) (routerId : ℕ) (busy : Bool)
deriving DecidableEq, Repr

/-! ### The dependency -/

section Dependency

variable (txt : IdentityText)

/-- `_claims_is_exempt`. -/
def PlanClaims.IsExempt (c : PlanClaims) : Prop :=
  c.isPlatformOwner = true ∨ c.isDemo = true ∨ txt.normalize c.billingMode = "service_charge" ∨
    (∃ r ∈ c.roles, txt.normalize r ∈ ["platform_owner", "superuser"]) ∨
    txt.normalize c.tenantSlug ∈ ["codevertex", "codevertex-demo"]

instance (c : PlanClaims) : Decidable (c.IsExempt txt) :=
  inferInstanceAs (Decidable (_ ∨ _ ∨ _ ∨ _ ∨ _))

/-- The limit of the claims, else that of subscriptions-api. -/
def PlanContext.limitValue (ctx : PlanContext) (c : PlanClaims) : Option LimitValue :=
  c.maxRouters <|> if (given c.tenantId).isSome then ctx.subscription else none

/-- The limit that `enforce_plan_limit` compares with; without one it lets the request pass. -/
def PlanContext.planLimit (ctx : PlanContext) : Option ℤ :=
  if ctx.internalService ∨ ctx.role = .platformOwner then none
  else
    match ctx.claims with
    | none => none
    | some c =>
        if c.IsExempt txt then none
        else
          match ctx.limitValue c with
          | some (.int n) => if n ≤ 0 then none else some n
          | _ => none

end Dependency

/-! ### `RouterService` -/

/-- The filter on the organization; no organization, and the id `0`, filter nothing. -/
def TenantRouter.InScope (organizationId : Option ℕ) (r : TenantRouter) : Prop :=
  ∀ o ∈ organizationId, o ≠ 0 → r.organizationId = some o

instance (organizationId : Option ℕ) (r : TenantRouter) : Decidable (r.InScope organizationId) :=
  inferInstanceAs (Decidable (∀ o ∈ organizationId, o ≠ 0 → r.organizationId = some o))

namespace RouterSystem

/-- `_count_routers`. -/
def countRouters (s : RouterSystem) : Option ℕ → ℕ
  | none => s.routers.rows.length
  | some o => s.routers.rows.countP (fun r => decide (r.organizationId = some o))

/-- `enforce_plan_limit`. -/
def Allows (txt : IdentityText) (s : RouterSystem) (ctx : PlanContext) : Prop :=
  ∀ limit ∈ ctx.planLimit txt, (s.countRouters ctx.organizationId : ℤ) < limit

instance (txt : IdentityText) (s : RouterSystem) (ctx : PlanContext) : Decidable (s.Allows txt ctx) :=
  inferInstanceAs
    (Decidable (∀ limit ∈ ctx.planLimit txt, (s.countRouters ctx.organizationId : ℤ) < limit))

/-- The routers of an organization that satisfy a condition. -/
def routersWhere (s : RouterSystem) (organizationId : Option ℕ) (p : TenantRouter → Prop)
    [DecidablePred p] : List TenantRouter :=
  s.routers.rows.filter (fun r => decide (p r ∧ r.InScope organizationId))

/-- `_assign_winbox_port`. -/
def assignWinboxPort (s : RouterSystem) (range : ℕ × ℕ) : Option ℕ :=
  (List.range' range.1 (range.2 + 1 - range.1)).find?
    (fun port => decide (port ∉ s.routers.rows.filterMap TenantRouter.winboxPort))

end RouterSystem

section Service

variable (env : RouterEnvironment)

/-- The checks of `create_router` on its arguments. -/
def RouterData.Valid (d : RouterData) : Prop :=
  d.name ≠ "" ∧ 3 ≤ (env.txt.strip d.name).length ∧ env.validIp d.ipAddress = true ∧
    (env.username ≠ "" ∧ env.username.length ≤ 50 ∧ env.password.length ≤ 255) ∧
    1 ≤ d.port ∧ d.port ≤ 65535

instance (d : RouterData) : Decidable (d.Valid env) :=
  inferInstanceAs (Decidable (_ ∧ _ ∧ _ ∧ (_ ∧ _ ∧ _) ∧ _ ∧ _))

namespace RouterSystem

/-- The Winbox port of a new router, when `create_router` gets as far as the insert. -/
def checkedPort (s : RouterSystem) (organizationId : Option ℕ) (d : RouterData) : Option ℕ :=
  if d.Valid env ∧ s.routersWhere organizationId (fun r => r.ipAddress = d.ipAddress) = [] ∧
      s.routersWhere organizationId (fun r => r.name = env.txt.strip d.name) = [] then
    s.assignWinboxPort (env.winboxRange organizationId)
  else none

/-- Whether `update_router` accepts the data of `upsert_router` for a router; its lookups for
duplicates go over all organizations. -/
def AcceptsUpdate (s : RouterSystem) (d : RouterData) (r : TenantRouter) : Prop :=
  env.validIp d.ipAddress = true ∧ (1 ≤ d.port ∧ d.port ≤ 65535) ∧
    (d.ipAddress ≠ r.ipAddress →
      s.routersWhere none (fun x => x.ipAddress = d.ipAddress ∧ x.id ≠ r.id) = []) ∧
    (d.name ≠ r.name →
      s.routersWhere none (fun x => x.name = env.txt.strip d.name ∧ x.id ≠ r.id) = []) ∧
    env.txt.strip d.name ≠ ""

instance (s : RouterSystem) (d : RouterData) (r : TenantRouter) :
    Decidable (s.AcceptsUpdate env d r) :=
  inferInstanceAs (Decidable (_ ∧ (_ ∧ _) ∧ (_ → _) ∧ (_ → _) ∧ _))

/-- `update_router` on the row it has loaded. -/
def updated (s : RouterSystem) (d : RouterData) (r : TenantRouter) : TenantRouter :=
  if s.AcceptsUpdate env d r then
    { r with name := env.txt.strip d.name, ipAddress := d.ipAddress }
  else r

/-- `update_router`, for a router in scope. -/
def updateRouter (s : RouterSystem) (organizationId : Option ℕ) (routerId : ℕ) (d : RouterData) :
    Table TenantRouter.id :=
  s.routers.update routerId
    (fun r => if r.InScope organizationId then s.updated env d r else r)
    (fun r => by unfold updated; split <;> [split; skip] <;> rfl)

/-! ### Runs -/

/-- The request that an event starts, if it gets that far. -/
def started (s : RouterSystem) : RouterEvent → Option RouterRequest
  | .create ctx d =>
      if s.Allows env.txt ctx then
        some ⟨ctx.organizationId, d, some (s.countRouters ctx.organizationId), .creating⟩
      else none
  | .upsert org d =>
      match s.routersWhere org
        (fun r => r.ipAddress = d.ipAddress ∨ d.name ≠ "" ∧ r.name = d.name) with
      | r :: _ => some ⟨org, d, none, .matched r.id⟩
      | [] => some ⟨org, d, none, .creating⟩
  | .preCreate org identity ip apiPort =>
      match s.routersWhere org (fun r => r.name = identity) with
      | _ :: _ => none
      | [] => some ⟨org, ⟨identity, (given ip).getD "192.168.88.1", apiPort⟩, none, .creating⟩
  | _ => none

/-- The request whose commit inserts a router, and the row: the Winbox port is unique. -/
def inserted (s : RouterSystem) : RouterEvent → Option (RouterRequest × TenantRouter)
  | .commit i id =>
      (s.requests[i]?).bind fun q =>
        match q.phase with
        | .checked port =>
            if id ∈ s.routers.rows.map TenantRouter.id ∨
                port ∈ s.routers.rows.filterMap TenantRouter.winboxPort then none
            else
              some (q, ⟨id, q.organizationId, env.txt.strip q.data.name, q.data.ipAddress, some port⟩)
        | _ => none
  | _ => none

/-- The routers after an event that inserts none. -/
def rewritten (s : RouterSystem) : RouterEvent → Table TenantRouter.id
  | .commit i _ =>
      match s.requests[i]? with
      | some ⟨org, d, _, .matched routerId⟩ => s.updateRouter env org routerId d
      | _ => s.routers
  | .delete org routerId busy =>
      if 0 < routerId ∧ (∃ r ∈ s.routers.get routerId, r.InScope org) ∧ busy = false then
        s.routers.delete routerId
      else s.routers
  | _ => s.routers

/-- The requests in flight after an event; a request that fails a check is over. -/
def nextRequests (s : RouterSystem) : RouterEvent → List RouterRequest
  | .check i =>
      match s.requests[i]? with
      | some ⟨org, d, counted, .creating⟩ =>
          match s.checkedPort env org d with
          | some port => s.requests.set i ⟨org, d, counted, .checked port⟩
          | none => s.requests.eraseIdx i
      | _ => s.requests
  | .commit i _ => s.requests.eraseIdx i
  | e => s.requests ++ (s.started env e).toList

def step (s : RouterSystem) (e : RouterEvent) : RouterSystem where
  routers :=
    match s.inserted env e with
    | some (_, row) => s.routers.insert row
    | none => s.rewritten env e
  requests := s.nextRequests env e

end RouterSystem

/-! ### The limit -/

/-- The requests of a tenant with plan limit `L` are those for which the dependency knows it. -/
def RouterEvent.UnderPlan (o L : ℕ) : RouterEvent → Prop
  | .create ctx _ => ctx.organizationId = some o → ctx.planLimit env.txt = some (L : ℤ)
  | _ => True

/-- The request has counted the routers, and there are no more of them by now. -/
def RouterRequest.UpToDate (q : RouterRequest) (n : ℕ) : Prop := ∃ counted ∈ q.counted, n ≤ counted

instance (q : RouterRequest) (n : ℕ) : Decidable (q.UpToDate n) :=
  inferInstanceAs (Decidable (∃ counted ∈ q.counted, n ≤ counted))

namespace RouterSystem

def tenantRouters (s : RouterSystem) (o : ℕ) : ℕ := s.countRouters (some o)

/-- A router of the tenant is inserted only on a count that is still up to date, or while the
tenant has fewer than `bound` routers anyway. -/
def InsertsBelow (o bound : ℕ) (s : RouterSystem) (e : RouterEvent) : Prop :=
  ∀ x ∈ s.inserted env e, x.1.organizationId = some o →
    x.1.UpToDate (s.tenantRouters o) ∨ s.tenantRouters o < bound

instance (o bound : ℕ) (s : RouterSystem) (e : RouterEvent) :
    Decidable (s.InsertsBelow env o bound e) :=
  inferInstanceAs (Decidable (∀ x ∈ s.inserted env e, x.1.organizationId = some o →
    x.1.UpToDate (s.tenantRouters o) ∨ s.tenantRouters o < bound))

/-- The number of routers of the tenant never exceeds the initial number or the limit. -/
def KeepsPlan (o L : ℕ) (s : RouterSystem) (es : List RouterEvent) : Prop :=
  Always (step env) (fun s' => s'.tenantRouters o ≤ max (s.tenantRouters o) L) s es

instance (o L : ℕ) (s : RouterSystem) (es : List RouterEvent) : Decidable (s.KeepsPlan env o L es) :=
  inferInstanceAs
    (Decidable (Always (step env) (fun s' => s'.tenantRouters o ≤ max (s.tenantRouters o) L) s es))

/-- What the requests of the tenant have counted is below its limit. -/
def CountedBelow (o L : ℕ) (s : RouterSystem) : Prop :=
  ∀ q ∈ s.requests, q.organizationId = some o → ∀ counted ∈ q.counted, counted < L

variable {env} {s : RouterSystem} {o L : ℕ} {e : RouterEvent}

theorem inserted_eq_some {q : RouterRequest} {row : TenantRouter}
    (h : s.inserted env e = some (q, row)) :
    q ∈ s.requests ∧ row.organizationId = q.organizationId ∧
      row.id ∉ s.routers.rows.map TenantRouter.id := by
  cases e with
  | commit i id =>
      obtain ⟨q', hq', h⟩ := Option.bind_eq_some_iff.mp h
      split at h
      · split at h
        · cases h
        · next hfree =>
            cases h
            exact ⟨List.mem_of_getElem? hq', rfl, fun hid => hfree (Or.inl hid)⟩
      · cases h
  | _ => cases h

theorem tenantRouters_insert {q : RouterRequest} {row : TenantRouter}
    (h : s.inserted env e = some (q, row)) :
    (s.step env e).tenantRouters o =
      s.tenantRouters o + if q.organizationId = some o then 1 else 0 := by
  obtain ⟨-, horg, hid⟩ := inserted_eq_some h
  simp only [tenantRouters, countRouters, step, h, Table.rows_insert hid, List.countP_append,
    List.countP_singleton, horg, decide_eq_true_eq]

theorem countP_updateRouter {org : Option ℕ} {routerId : ℕ} {d : RouterData} :
    (s.updateRouter env org routerId d).rows.countP (fun r => decide (r.organizationId = some o)) =
      s.tenantRouters o := by
  apply countP_updateWhere
  intro r
  unfold updated
  split
  · split <;> rfl
  · rfl

/-- Updates and deletions never add a router. -/
theorem tenantRouters_rewritten_le (h : s.inserted env e = none) :
    (s.step env e).tenantRouters o ≤ s.tenantRouters o := by
  have hstep : (s.step env e).routers = s.rewritten env e := by simp only [step, h]
  simp only [tenantRouters, countRouters, hstep]
  cases e with
  | commit i id =>
      simp only [rewritten]
      split
      · exact countP_updateRouter.le
      · exact le_rfl
  | delete org routerId busy =>
      simp only [rewritten]
      split
      · exact List.filter_sublist.countP_le
      · exact le_rfl
  | _ => exact le_rfl

/-- The dependency lets a request of the tenant start only below the limit. -/
theorem counted_lt_of_started {q : RouterRequest} (he : e.UnderPlan env o L)
    (hq : s.started env e = some q) (horg : q.organizationId = some o) {counted : ℕ}
    (hc : counted ∈ q.counted) : counted < L := by
  cases e with
  | create ctx d =>
      simp only [started] at hq
      split at hq
      · next hallow =>
          cases hq
          have hlt := hallow L (he horg)
          cases hc
          exact_mod_cast hlt
      · cases hq
  | upsert org d =>
      simp only [started] at hq
      split at hq <;> cases hq <;> cases hc
  | preCreate org identity ip apiPort =>
      simp only [started] at hq
      split at hq <;> cases hq
      cases hc
  | _ => cases hq

theorem mem_nextRequests {q : RouterRequest} (h : q ∈ s.nextRequests env e) :
    (∃ q' ∈ s.requests, q'.organizationId = q.organizationId ∧ q'.counted = q.counted) ∨
      s.started env e = some q := by
  have hstarts : ∀ {x : Option RouterRequest}, q ∈ s.requests ++ x.toList →
      q ∈ s.requests ∨ x = some q := by
    intro x hx
    rcases List.mem_append.mp hx with hx | hx
    · exact Or.inl hx
    · exact Or.inr (Option.mem_toList.mp hx)
  have hold : q ∈ s.requests → ∃ q' ∈ s.requests, q'.organizationId = q.organizationId ∧
      q'.counted = q.counted := fun hq => ⟨q, hq, rfl, rfl⟩
  cases e with
  | check i =>
      left
      simp only [nextRequests] at h
      split at h
      · next hget =>
          split at h
          · rcases List.mem_or_eq_of_mem_set h with h | rfl
            · exact hold h
            · exact ⟨_, List.mem_of_getElem? hget, rfl, rfl⟩
          · exact hold (List.mem_of_mem_eraseIdx h)
      · exact hold h
  | commit i id => exact Or.inl (hold (List.mem_of_mem_eraseIdx h))
  | create ctx d => exact (hstarts h).imp_left hold
  | upsert org d => exact (hstarts h).imp_left hold
  | preCreate org identity ip apiPort => exact (hstarts h).imp_left hold
  | delete org routerId busy => exact (hstarts h).imp_left hold

theorem countedBelow_step (he : e.UnderPlan env o L) (hs : s.CountedBelow o L) :
    (s.step env e).CountedBelow o L := by
  intro q hq horg counted hc
  rcases mem_nextRequests hq with ⟨q', hq', horg', hc'⟩ | hstart
  · exact hs q' hq' (horg'.trans horg) counted (hc' ▸ hc)
  · exact counted_lt_of_started he hstart horg hc

/-- **Step lemma**: a tenant within its bound stays there exactly if the event inserts no router
of it, inserts it on a count that is up to date, or has room. -/
theorem tenantRouters_step_le_iff {n : ℕ} (hc : s.CountedBelow o L)
    (hs : s.tenantRouters o ≤ max n L) :
    (s.step env e).tenantRouters o ≤ max n L ↔ s.InsertsBelow env o (max n L) e := by
  unfold InsertsBelow
  cases hins : s.inserted env e with
  | none =>
      refine ⟨fun _ => by simp, fun _ => ?_⟩
      exact (tenantRouters_rewritten_le hins).trans hs
  | some x =>
      obtain ⟨q, row⟩ := x
      obtain ⟨hq, -, -⟩ := inserted_eq_some hins
      rw [tenantRouters_insert hins]
      simp only [Option.mem_some_iff, forall_eq']
      by_cases horg : q.organizationId = some o
      · simp only [horg, if_true, forall_const]
        constructor
        · intro h
          exact Or.inr (by omega)
        · rintro (⟨counted, hcounted, hle⟩ | hlt)
          · have hlimit := hc q hq horg counted hcounted
            omega
          · omega
      · simpa [horg] using hs

variable (env) in
/-- **A tenant keeps within its plan exactly if every router of it is inserted on a count that is
still up to date, or while there is room**: `upsert_router` and the pre-creation count nothing, and
the count of `create_router` is out of date once another request has inserted. -/
theorem router_plan_limit_iff {s : RouterSystem} {o L : ℕ} {es : List RouterEvent}
    (hplan : ∀ e ∈ es, e.UnderPlan env o L) (hstart : s.requests = []) :
    s.KeepsPlan env o L es ↔
      Along (step env) (InsertsBelow env o (max (s.tenantRouters o) L)) s es := by
  have hbelow : s.CountedBelow o L := by simp [CountedBelow, hstart]
  exact always_iff_along_of (E := RouterEvent.UnderPlan env o L)
    (fun _ _ he hs => countedBelow_step he hs) (fun _ _ _ hc hs => tenantRouters_step_le_iff hc hs)
    hplan hbelow (le_max_left _ _)

end RouterSystem

end Service

/-- The settings of the examples below. -/
def exampleEnvironment : RouterEnvironment where
  txt := asciiText
  validIp := fun _ => true
  username := "provisioner"
  password := "secret"
  winboxRange := fun _ => (51000, 59999)

/-- A request of organization 1, whose plan has one router. -/
def oneRouterPlan : PlanContext where
  internalService := false
  role := .ispAdmin
  organizationId := some 1
  claims := some
    { isPlatformOwner := false
      isDemo := false
      billingMode := "subscription"
      roles := ["admin"]
      tenantSlug := "acme"
      tenantId := some "00000000-0000-0000-0000-000000000001"
      maxRouters := some (.int 1) }
  subscription := none

namespace RouterSystem

def noRouters : RouterSystem := ⟨⟨[], by decide⟩, []⟩

def firstRouter : RouterData := ⟨"office", "10.0.0.1", 8728⟩

def secondRouter : RouterData := ⟨"annex", "10.0.0.2", 8728⟩

/-- A router is created, deleted, and another one created; a third request is refused. -/
def replacedRouter : List RouterEvent :=
  [.create oneRouterPlan firstRouter, .check 0, .commit 0 1, .delete (some 1) 1 false,
    .create oneRouterPlan secondRouter, .check 0, .commit 0 2, .create oneRouterPlan firstRouter]

theorem router_plan_limit_replaced :
    noRouters.KeepsPlan exampleEnvironment 1 1 replacedRouter := by
  have hlimit : oneRouterPlan.planLimit asciiText = some 1 := by decide
  have hplan : ∀ e ∈ replacedRouter, e.UnderPlan exampleEnvironment 1 1 := by
    simp [replacedRouter, RouterEvent.UnderPlan, exampleEnvironment, hlimit]
  exact (router_plan_limit_iff exampleEnvironment hplan rfl).mpr (by decide)

/-- Two upserts, two pre-creations, and two creations that count before either inserts. -/
theorem router_plan_exceeded :
    oneRouterPlan.planLimit asciiText = some 1 ∧
      ¬ noRouters.KeepsPlan exampleEnvironment 1 1
        [.upsert (some 1) firstRouter, .check 0, .commit 0 1,
          .upsert (some 1) secondRouter, .check 0, .commit 0 2] ∧
      ¬ noRouters.KeepsPlan exampleEnvironment 1 1
        [.preCreate (some 1) "office" none 8728, .check 0, .commit 0 1,
          .preCreate (some 1) "annex" (some "10.0.0.2") 8728, .check 0, .commit 0 2] ∧
      ¬ noRouters.KeepsPlan exampleEnvironment 1 1
        [.create oneRouterPlan firstRouter, .create oneRouterPlan secondRouter,
          .check 0, .commit 0 1, .check 0, .commit 0 2] := by
  decide

end RouterSystem

end IspBilling
