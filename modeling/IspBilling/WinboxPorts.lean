import IspBilling.PythonText
import IspBilling.Runs
import Mathlib.Logic.Function.Basic

/-! # Winbox ports

A router is reached from outside at a port of the VPN server.  `_assign_winbox_port`
(`app/modules/routers/service.py`) takes the first port of the organization's range that no router
has; `get_winbox_url` gives a URL only for a port between 51000 and 59999 (`_is_vpn_winbox_port`).

Requests run side by side: a request picks a port in one step and commits its router in a later one.
The column `winbox_port` is unique, so that of two requests with the same port the second one fails
(`PortTable` carries the constraint).  The range is another matter: it is the organization's own.
`winboxPorts_iff` says for which runs all ports are good. -/

namespace IspBilling

open PythonText Runs

/-! ### The ports -/

/-- The port columns of `OrganizationSettings`. -/
structure WinboxSettings where
  winboxPortStart : ℤ
  winboxPortEnd : ℤ
deriving DecidableEq, Repr

/-- `port or default`. -/
def portOr (port default : ℤ) : ℤ := if port = 0 then default else port

/-- The range in which a port is looked for; an organization may have no settings. -/
def winboxRange (settings : Option WinboxSettings) : ℤ × ℤ :=
  match settings with
  | some s => (portOr s.winboxPortStart 51000, portOr s.winboxPortEnd 59999)
  | none => (51000, 59999)

/-- The first of `n` ports from `port` on that is not used. -/
def firstFreePort (used : List ℤ) (port : ℤ) : ℕ → Option ℤ
  | 0 => none
  | n + 1 => if port ∈ used then firstFreePort used (port + 1) n else some port

/-- `_assign_winbox_port`; `none` for `RouterOperationError`. -/
def assignWinboxPort (settings : Option WinboxSettings) (used : List ℤ) : Option ℤ :=
  let range := winboxRange settings
  firstFreePort used range.1 (range.2 + 1 - range.1).toNat

/-- `_is_vpn_winbox_port`. -/
def isVpnWinboxPort (port : Option ℤ) : Bool :=
  match port with
  | some port => decide (port ≠ 0) && decide (51000 ≤ port ∧ port ≤ 59999)
  | none => false

/-! ### Routers and their URLs -/

/-- A router, as far as its remote address goes. -/
structure WinboxRouter where
  id : ℕ
  organizationId : Option ℕ
  winboxPort : Option ℤ
deriving DecidableEq, Repr

/-- The VPN domains: of the platform, and of the organizations that have settings. -/
structure VpnDomains where
  platform : String
  organization : ℕ → Option String

/-- `resolve_vpn_domain`. -/
def resolveVpnDomain (domains : VpnDomains) (router : WinboxRouter) : String :=
  let platform := String.ofList (strip domains.platform.toList)
  match router.organizationId with
  | some organization =>
      let override := String.ofList (strip ((domains.organization organization).getD "").toList)
      -- The second one is an old default with a typo, which is ignored.
      if override ≠ "" ∧ override ≠ "vpn.codevertex.com" then override else platform
  | none => platform

/-- `get_winbox_url`, for a router that exists. -/
def getWinboxUrl (domains : VpnDomains) (router : WinboxRouter) : Option String :=
  match router.winboxPort with
  | some port =>
      if isVpnWinboxPort (some port) = true then
        let domain := resolveVpnDomain domains router
        if domain = "" then none else some (domain ++ ":" ++ toString port)
      else none
  | none => none

/-- The ports of some routers. -/
def portsOf (rows : List WinboxRouter) : List ℤ := rows.filterMap WinboxRouter.winboxPort

structure PortTable where
  rows : List WinboxRouter
  unique : (portsOf rows).Nodup

/-- The table after a commit.  A port that is there twice is an `IntegrityError`. -/
def PortTable.commit (table : PortTable) (rows : List WinboxRouter) : PortTable :=
  if h : (portsOf rows).Nodup then ⟨rows, h⟩ else table

/-- The table without a router. -/
def PortTable.delete (table : PortTable) (id : ℕ) : PortTable where
  rows := table.rows.filter (fun r => decide (r.id ≠ id))
  unique := table.unique.sublist (List.filter_sublist.filterMap _)

/-! ### Requests side by side -/

/-- The routers, and the ports of the requests that have picked one and not committed yet. -/
structure PortState where
  table : PortTable
  picked : ℕ → Option ℤ

inductive PortEvent where
  /-- A request of an organization with these settings runs `_assign_winbox_port`. -/
  | pick (request : ℕ) (settings : Option WinboxSettings)
  /-- `create_router` commits its router. -/
  | create (request id : ℕ) (organizationId : Option ℕ)
  /-- `regenerate-winbox` commits the port of a router that exists. -/
  | regenerate (request id : ℕ)
  | delete (id : ℕ)
deriving DecidableEq, Repr

namespace PortState

/-- The port that an event assigns. -/
def assigns (s : PortState) : PortEvent → Option ℤ
  | .pick _ settings => assignWinboxPort settings (portsOf s.table.rows)
  | _ => none

def settle (s : PortState) (request : ℕ) (table : PortTable) : PortState :=
  ⟨table, Function.update s.picked request none⟩

def step (s : PortState) (e : PortEvent) : PortState :=
  match e with
  | .pick request _ => { s with picked := Function.update s.picked request (s.assigns e) }
  | .create request id organizationId =>
      match s.picked request with
      | some port =>
          s.settle request (s.table.commit (s.table.rows ++ [⟨id, organizationId, some port⟩]))
      | none => s
  | .regenerate request id =>
      match s.picked request with
      | some port =>
          s.settle request (s.table.commit
            (s.table.rows.map (fun r => if r.id = id then { r with winboxPort := some port } else r)))
      | none => s
  | .delete id => { s with table := s.table.delete id }

def assigned : PortState → List PortEvent → List ℤ
  | _, [] => []
  | s, e :: es => (s.assigns e).toList ++ assigned (s.step e) es

end PortState

/-! ### The range -/

theorem firstFreePort_eq_some_iff {used : List ℤ} {port p : ℤ} {n : ℕ} :
    firstFreePort used port n = some p ↔
      port ≤ p ∧ p < port + n ∧ p ∉ used ∧ ∀ q, port ≤ q → q < p → q ∈ used := by
  induction n generalizing port with
  | zero =>
      simp only [firstFreePort, reduceCtorEq, false_iff]
      rintro ⟨hlow, hhigh, _⟩
      omega
  | succ n ih =>
      unfold firstFreePort
      by_cases hused : port ∈ used
      · rw [if_pos hused, ih]
        constructor
        · rintro ⟨hlow, hhigh, hfree, hbelow⟩
          refine ⟨by omega, by omega, hfree, ?_⟩
          intro q hq hqp
          rcases eq_or_ne q port with rfl | hne
          · exact hused
          · exact hbelow q (by omega) hqp
        · rintro ⟨hlow, hhigh, hfree, hbelow⟩
          have hne : p ≠ port := by
            rintro rfl
            exact hfree hused
          exact ⟨by omega, by omega, hfree, fun q hq hqp => hbelow q (by omega) hqp⟩
      · rw [if_neg hused]
        constructor
        · intro h
          obtain rfl : port = p := Option.some.inj h
          exact ⟨by omega, by omega, hused, fun q hq hqp => by omega⟩
        · rintro ⟨hlow, _, _, hbelow⟩
          have hle : p ≤ port := by
            by_contra hlt
            exact hused (hbelow port (by omega) (by omega))
          rw [show port = p by omega]

theorem assignWinboxPort_eq_some_iff {settings : Option WinboxSettings} {used : List ℤ} {p : ℤ} :
    assignWinboxPort settings used = some p ↔
      ((winboxRange settings).1 ≤ p ∧ p ≤ (winboxRange settings).2) ∧ p ∉ used ∧
        ∀ q, (winboxRange settings).1 ≤ q → q < p → q ∈ used := by
  unfold assignWinboxPort
  dsimp only
  rw [firstFreePort_eq_some_iff]
  constructor
  · rintro ⟨hlow, hhigh, hfree, hbelow⟩
    exact ⟨⟨hlow, by omega⟩, hfree, hbelow⟩
  · rintro ⟨⟨hlow, hhigh⟩, hfree, hbelow⟩
    exact ⟨hlow, by omega, hfree, hbelow⟩

/-- A free port of the range. -/
def FreePort (settings : Option WinboxSettings) (used : List ℤ) (p : ℤ) : Prop :=
  ((winboxRange settings).1 ≤ p ∧ p ≤ (winboxRange settings).2) ∧ p ∉ used

theorem exists_assignWinboxPort {settings : Option WinboxSettings} {used : List ℤ} {p : ℤ}
    (h : FreePort settings used p) :
    ∃ q, assignWinboxPort settings used = some q ∧ FreePort settings used q ∧ q ≤ p := by
  obtain ⟨⟨hlow, hhigh⟩, hfree⟩ := h
  cases hassign : assignWinboxPort settings used with
  | some q =>
      obtain ⟨hrange, hq, hbelow⟩ := assignWinboxPort_eq_some_iff.mp hassign
      refine ⟨q, rfl, ⟨hrange, hq⟩, ?_⟩
      by_contra hlt
      exact hfree (hbelow p hlow (by omega))
  | none =>
      -- Without an assignment, induction on the distance finds all ports in use.
      have hused : ∀ n : ℕ, (winboxRange settings).1 + n ≤ (winboxRange settings).2 →
          (winboxRange settings).1 + n ∈ used := by
        intro n
        induction n using Nat.strong_induction_on with
        | _ n ih =>
            intro hn
            by_contra hnot
            have hsome : assignWinboxPort settings used = some ((winboxRange settings).1 + n) := by
              refine assignWinboxPort_eq_some_iff.mpr ⟨⟨by omega, hn⟩, hnot, ?_⟩
              intro q hq hqn
              obtain ⟨m, rfl⟩ := Int.le.dest hq
              exact ih m (by omega) (by omega)
            rw [hassign] at hsome
            exact absurd hsome (by simp)
      obtain ⟨n, rfl⟩ := Int.le.dest hlow
      exact absurd (hused n hhigh) hfree

theorem isVpnWinboxPort_iff {p : ℤ} :
    isVpnWinboxPort (some p) = true ↔ 51000 ≤ p ∧ p ≤ 59999 := by
  simp only [isVpnWinboxPort, Bool.and_eq_true, decide_eq_true_eq]
  omega

/-- No free port of the range is below 51000, and one above 59999 is not the only choice. -/
def FreeInRange (settings : Option WinboxSettings) (used : List ℤ) : Prop :=
  (∀ p, FreePort settings used p → 51000 ≤ p) ∧
    ∀ p, FreePort settings used p → 59999 < p → ∃ q, FreePort settings used q ∧ q ≤ 59999

theorem assignWinboxPort_vpn_iff {settings : Option WinboxSettings} {used : List ℤ} :
    (∀ p ∈ assignWinboxPort settings used, isVpnWinboxPort (some p) = true) ↔
      FreeInRange settings used := by
  constructor
  · intro h
    refine ⟨?_, ?_⟩
    · intro p hp
      obtain ⟨q, hq, _, hle⟩ := exists_assignWinboxPort hp
      have hvpn := isVpnWinboxPort_iff.mp (h q hq)
      omega
    · intro p hp _
      obtain ⟨q, hq, hfree, _⟩ := exists_assignWinboxPort hp
      exact ⟨q, hfree, (isVpnWinboxPort_iff.mp (h q hq)).2⟩
  · rintro ⟨hlow, hhigh⟩ p hp
    obtain ⟨hrange, hfree, hbelow⟩ := assignWinboxPort_eq_some_iff.mp hp
    rw [isVpnWinboxPort_iff]
    refine ⟨hlow p ⟨hrange, hfree⟩, ?_⟩
    by_contra hover
    obtain ⟨q, ⟨hqrange, hq⟩, hle⟩ := hhigh p ⟨hrange, hfree⟩ (by omega)
    exact hq (hbelow q hqrange.1 (by omega))

/-! ### The URLs -/

theorem isSome_getWinboxUrl_iff {domains : VpnDomains} {router : WinboxRouter} :
    (getWinboxUrl domains router).isSome = true ↔
      isVpnWinboxPort router.winboxPort = true ∧ resolveVpnDomain domains router ≠ "" := by
  unfold getWinboxUrl
  cases router.winboxPort with
  | none => simp [isVpnWinboxPort]
  | some port =>
      dsimp only
      split_ifs with hvpn hdomain
      · simp [hdomain]
      · simp [hvpn, hdomain]
      · simp [hvpn]

/-! ### Runs -/

/-- Whoever picks a port finds the free ports of the range in the VPN's. -/
def PicksInRange (s : PortState) (e : PortEvent) : Prop :=
  match e with
  | .pick _ settings => FreeInRange settings (portsOf s.table.rows)
  | _ => True

/-- All ports that the run assigns are good: they pass `_is_vpn_winbox_port`, a router that has one
gets a URL if there is a VPN domain, and no two routers ever have the same. -/
def WinboxPortsGood (s : PortState) (events : List PortEvent) : Prop :=
  (∀ port ∈ s.assigned events, isVpnWinboxPort (some port) = true ∧
    ∀ domains router, router.winboxPort = some port → resolveVpnDomain domains router ≠ "" →
      (getWinboxUrl domains router).isSome = true) ∧
    Always PortState.step (fun t => (portsOf t.table.rows).Nodup) s events

theorem assigns_vpn_iff {s : PortState} {e : PortEvent} :
    (∀ port ∈ s.assigns e, isVpnWinboxPort (some port) = true) ↔ PicksInRange s e := by
  cases e with
  | pick request settings => exact assignWinboxPort_vpn_iff
  | create request id organizationId => simp [PortState.assigns, PicksInRange]
  | regenerate request id => simp [PortState.assigns, PicksInRange]
  | delete id => simp [PortState.assigns, PicksInRange]

theorem assigned_vpn_iff {s : PortState} {events : List PortEvent} :
    (∀ port ∈ s.assigned events, isVpnWinboxPort (some port) = true) ↔
      Along PortState.step PicksInRange s events := by
  induction events generalizing s with
  | nil => simp [PortState.assigned, Along]
  | cons e events ih =>
      unfold PortState.assigned Along
      rw [← assigns_vpn_iff, ← ih]
      simp only [List.forall_mem_append, Option.mem_toList, Option.mem_def]

/-- For every interleaving: the ports are unique in any case, and good exactly if every request that
picks one finds the free ports of its range between 51000 and 59999. -/
theorem winboxPorts_iff (s : PortState) (events : List PortEvent) :
    WinboxPortsGood s events ↔ Along PortState.step PicksInRange s events := by
  have hunique : Always PortState.step (fun t => (portsOf t.table.rows).Nodup) s events := by
    refine always_of_invariant (I := fun _ => True) (fun _ _ _ => trivial) ?_ trivial
    exact fun t _ => t.table.unique
  unfold WinboxPortsGood
  rw [← assigned_vpn_iff]
  constructor
  · rintro ⟨hports, _⟩ port hport
    exact (hports port hport).1
  · intro hports
    refine ⟨?_, hunique⟩
    intro port hport
    refine ⟨hports port hport, ?_⟩
    intro domains router hrouter hdomain
    rw [isSome_getWinboxUrl_iff, hrouter]
    exact ⟨hports port hport, hdomain⟩

def emptyPorts : PortState := ⟨⟨[], List.nodup_nil⟩, fun _ => none⟩

/-- A range that starts at 40000: its first port is assigned, and the router has no remote URL. -/
theorem low_range_port :
    emptyPorts.assigned [.pick 0 (some ⟨40000, 59999⟩), .create 0 1 (some 1)] = [40000] ∧
      (∀ domains, getWinboxUrl domains ⟨1, some 1, some 40000⟩ = none) ∧
      ¬ WinboxPortsGood emptyPorts [.pick 0 (some ⟨40000, 59999⟩), .create 0 1 (some 1)] := by
  refine ⟨by decide, fun domains => rfl, ?_⟩
  rw [winboxPorts_iff]
  rintro ⟨⟨hlow, _⟩, _⟩
  have hfree : FreePort (some ⟨40000, 59999⟩) (portsOf emptyPorts.table.rows) 40000 := by
    refine ⟨?_, List.not_mem_nil⟩
    decide
  exact absurd (hlow 40000 hfree) (by decide)

/-- Two requests pick the same port; the second one fails. -/
example : (portsOf (exec PortState.step emptyPorts
    [.pick 0 none, .pick 1 none, .create 1 7 none, .create 0 8 none]).table.rows) = [51000] := by
  decide

end IspBilling
