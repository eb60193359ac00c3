import IspBilling.AgentReport
import IspBilling.Redelivery
import IspBilling.Runs

/-! # Do the router-side caps hold?

`_sync_hotspot_user_to_router` (`app/api/v1/portal/hotspot.py`) queues two commands for a
customer of a metered plan: a `create_user`, and a `fetch_import` of the script `set_limits`
(`app/api/v1/network/routers.py`), which puts the time and data limits of the plan on the
router user.  The two are independent.  When the `create_user` fails and is retried, the limits
find no user to be set on; the script does not notice and is reported as a success.

`RouterCaps` is the queue, the commands on their way, the router and the outcomes that the
agent may report, in any order and any number of times.  `caps_hold` shows what is missing: in
every run in which the script finds the user, without limits of an earlier plan that the new
one does not overwrite, and no other command takes the user or its limits away, the caps are
there once both commands are in status `SUCCESS`. -/

namespace IspBilling

open Rows Runs

/-- What `set_limits` assigns to a user; an empty limit is skipped. -/
def RouterUser.withLimits (limitUptime limitBytes : String) (u : RouterUser) : RouterUser :=
  { u with
    limitUptime := if limitUptime = "" then u.limitUptime else limitUptime
    limitBytesTotal := if limitBytes = "" then u.limitBytesTotal else limitBytes }

/-- The script `set_limits`. -/
def setLimits (username limitUptime limitBytes : String) (r : RouterState) : RouterState :=
  if username = "" ∨ (limitUptime = "" ∧ limitBytes = "") then r
  else
    { r with
      hotspotUsers := r.hotspotUsers.set username (RouterUser.withLimits limitUptime limitBytes)
        (fun _ => rfl) }

/-- The scripts that the backend serves: `set_limits` under its address, others elsewhere. -/
def serveLimits (url username : String) (plan : ServicePlan)
    (other : String → RouterState → RouterState) (address : String) (r : RouterState) : RouterState :=
  if address = url then setLimits username plan.limitUptimeStr plan.limitBytesStr r
  else other address r

/-- `_sync_hotspot_user_to_router` on a router with an agent. -/
def syncHotspotUserToRouter (settings : AgentSettings) (now : ℤ) (createId limitsId : String)
    (routerId : ℕ) (username password : String) (plan : ServicePlan) (source : String)
    (sourceId : Option String) (url : String) (q : List RouterCommand) : List RouterCommand :=
  let q := queueCommand settings now createId routerId
    (.createUser username password .hotspot plan.profileName plan.buildRateLimit) 2 (some source)
    sourceId none q
  if plan.limitUptimeStr ≠ "" ∨ plan.limitBytesStr ≠ "" then
    queueCommand settings now limitsId routerId (.fetchImport url) 2 (some "router_action")
      (some "set_limits") none q
  else q

/-- The queue, the delivered commands, the router and what the agent has to report. -/
structure RouterCaps where
  db : AgentTables
  delivered : List RouterCommand
  router : RouterState
  outcomes : List CommandResult

namespace RouterCaps

inductive Event where
  | queue (now : ℤ) (id : String) (routerId : ℕ) (action : Action) (priority : ℤ)
      (source sourceId : Option String) (expiresInSeconds : Option ℤ)
  | poll (now : ℤ)
  /-- The `i`-th delivered command is executed. -/
  | execute (i : ℕ)
  /-- The `i`-th delivered command fails half-way and leaves the router in some state. -/
  | fail (i : ℕ) (message : String) (left : RouterState)
  /-- The `i`-th delivered command is lost. -/
  | drop (i : ℕ)
  /-- Some outcomes are reported. -/
  | report (now : ℤ) (picks : List ℕ)
  | cleanup (now : ℤ)
  | resetStale (now : ℤ) (staleThresholdMinutes : ℤ)

section System

variable (settings : AgentSettings) (routerId : ℕ)
variable (url username : String) (plan : ServicePlan) (other : String → RouterState → RouterState)

def step (s : RouterCaps) : Event → RouterCaps
  | .queue now id rid action priority source sourceId expires =>
      { s with
        db := { s.db with
          commands := queueCommand settings now id rid action priority source sourceId expires
            s.db.commands } }
  | .poll now =>
      let batch := getPendingCommands settings routerId now none s.db.commands
      { s with
        db := { s.db with
          commands := markCommandsSent now (batch.map RouterCommand.id) s.db.commands }
        delivered := s.delivered ++ batch }
  | .execute i =>
      match s.delivered[i]? with
      | none => s
      | some c =>
          { s with
            delivered := s.delivered.eraseIdx i
            router := s.router.execute (serveLimits url username plan other) c.action
            outcomes := s.outcomes ++ [⟨c.id, "success", ""⟩] }
  | .fail i message left =>
      match s.delivered[i]? with
      | none => s
      | some c =>
          { s with
            delivered := s.delivered.eraseIdx i
            router := left
            outcomes := s.outcomes ++ [⟨c.id, "failed", message⟩] }
  | .drop i => { s with delivered := s.delivered.eraseIdx i }
  | .report now picks =>
      { s with db := (s.db.handleReport now (picks.filterMap (fun i => s.outcomes[i]?))).getD s.db }
  | .cleanup now =>
      { s with db := { s.db with commands := cleanupExpiredCommands now s.db.commands } }
  | .resetStale now threshold =>
      { s with db := { s.db with commands := resetStaleSentCommands now threshold s.db.commands } }

/-- The router user carries the limits of the plan. -/
def Capped (r : RouterState) : Prop :=
  ∃ u ∈ r.lookup .hotspot username, u.limitUptime = plan.limitUptimeStr ∧
    u.limitBytesTotal = plan.limitBytesStr

instance (r : RouterState) : Decidable (Capped username plan r) :=
  inferInstanceAs (Decidable (∃ u ∈ r.lookup .hotspot username, u.limitUptime = plan.limitUptimeStr ∧
    u.limitBytesTotal = plan.limitBytesStr))

/-- The command is in status `SUCCESS`. -/
def Succeeded (s : RouterCaps) (id : String) : Prop :=
  ∃ c ∈ s.db.commands, c.id = id ∧ c.status = .success

instance (s : RouterCaps) (id : String) : Decidable (s.Succeeded id) :=
  inferInstanceAs (Decidable (∃ c ∈ s.db.commands, c.id = id ∧ c.status = .success))

variable (createId limitsId : String)

/-- Once both commands have succeeded, the caps are on the router. -/
def CapsHold (s : RouterCaps) : Prop :=
  s.Succeeded createId → s.Succeeded limitsId → Capped username plan s.router

instance (s : RouterCaps) : Decidable (s.CapsHold username plan createId limitsId) :=
  inferInstanceAs (Decidable (_ → _ → _))

/-- The command neither removes the user nor runs a script that takes its caps away. -/
def LeavesCaps (r : RouterState) : Action → Prop
  | .removeUser n t => ¬ (n = username ∧ t = .hotspot)
  | .fetchImport address => Capped username plan r →
      Capped username plan (serveLimits url username plan other address r)
  | .createUser .. | .disableUser .. | .enableUser .. | .disconnect _ | .setQueue .. |
    .runScript _ => True

instance (r : RouterState) (a : Action) : Decidable (LeavesCaps url username plan other r a) :=
  match a with
  | .removeUser n t => inferInstanceAs (Decidable (¬ (n = username ∧ t = .hotspot)))
  | .fetchImport address => inferInstanceAs (Decidable (Capped username plan r →
      Capped username plan (serveLimits url username plan other address r)))
  | .createUser .. | .disableUser .. | .enableUser .. | .disconnect _ | .setQueue .. |
    .runScript _ => isTrue trivial

/-- The user is there, without limits of an earlier plan where this one has none. -/
def ReadyForLimits (r : RouterState) : Prop :=
  username ≠ "" ∧ ∃ u ∈ r.lookup .hotspot username,
    (plan.limitUptimeStr = "" → u.limitUptime = "") ∧
      (plan.limitBytesStr = "" → u.limitBytesTotal = "")

instance (r : RouterState) : Decidable (ReadyForLimits username plan r) :=
  inferInstanceAs (Decidable (username ≠ "" ∧ ∃ u ∈ r.lookup .hotspot username,
    (plan.limitUptimeStr = "" → u.limitUptime = "") ∧
      (plan.limitBytesStr = "" → u.limitBytesTotal = "")))

/-- The limits are set on a user that is ready for them, and other commands leave the caps, also
those that fail.  A new command has an identifier of its own. -/
def Admissible (s : RouterCaps) : Event → Prop
  | .queue _ id .. => id ≠ limitsId
  | .execute i => ∀ c ∈ s.delivered[i]?,
      (c.id = limitsId → ReadyForLimits username plan s.router) ∧
        (c.id ≠ limitsId → LeavesCaps url username plan other s.router c.action)
  | .fail _ _ left => Capped username plan s.router → Capped username plan left
  | .poll _ | .drop _ | .report .. | .cleanup _ | .resetStale .. => True

instance (s : RouterCaps) (e : Event) :
    Decidable (s.Admissible url username plan other limitsId e) :=
  match e with
  | .queue _ id .. => inferInstanceAs (Decidable (id ≠ limitsId))
  | .execute i => inferInstanceAs (Decidable (∀ c ∈ s.delivered[i]?,
      (c.id = limitsId → ReadyForLimits username plan s.router) ∧
        (c.id ≠ limitsId → LeavesCaps url username plan other s.router c.action)))
  | .fail _ _ left =>
      inferInstanceAs (Decidable (Capped username plan s.router → Capped username plan left))
  | .poll _ | .drop _ | .report .. | .cleanup _ | .resetStale .. =>
      isTrue trivial

/-- What holds in every state of an admissible run. -/
structure Invariant (s : RouterCaps) : Prop where
  commands : Keyed RouterCommand.id s.db.commands
  backups : (s.db.backups.filterMap RouterBackup.commandId).Nodup
  /-- The identifier of the limits names their script, in the queue and on its way. -/
  queued : ∀ c ∈ s.db.commands, c.id = limitsId → c.action = .fetchImport url
  delivered : ∀ c ∈ s.delivered, c.id = limitsId → c.action = .fetchImport url
  /-- A success of the limits was an outcome. -/
  reported : s.Succeeded limitsId → ∃ o ∈ s.outcomes, o.id = limitsId ∧ o.status = "success"
  /-- After such an outcome the caps are there. -/
  capped : (∃ o ∈ s.outcomes, o.id = limitsId ∧ o.status = "success") →
    Capped username plan s.router

end System

/-! ### What the commands do to the caps -/

section Caps

variable {url username : String} {plan : ServicePlan} {other : String → RouterState → RouterState}

theorem capped_setLimits {r : RouterState} (h : ReadyForLimits username plan r) :
    Capped username plan (setLimits username plan.limitUptimeStr plan.limitBytesStr r) := by
  obtain ⟨hname, u, hu, htime, hbytes⟩ := h
  unfold setLimits
  split
  · rename_i hskip
    obtain ⟨hlu, hlb⟩ := hskip.resolve_left hname
    exact ⟨u, hu, by rw [htime hlu, hlu], by rw [hbytes hlb, hlb]⟩
  · refine ⟨u.withLimits plan.limitUptimeStr plan.limitBytesStr, ?_, ?_, ?_⟩
    · refine (UserTable.lookup_set r.hotspotUsers username
        (RouterUser.withLimits plan.limitUptimeStr plan.limitBytesStr) (fun _ => rfl) username).trans ?_
      rw [if_pos rfl]
      exact congrArg (Option.map _) hu
    · show (if _ then _ else _) = plan.limitUptimeStr
      split
      · rename_i hlu
        rw [htime hlu, hlu]
      · rfl
    · show (if _ then _ else _) = plan.limitBytesStr
      split
      · rename_i hlb
        rw [hbytes hlb, hlb]
      · rfl

theorem capped_execute {r : RouterState} {a : Action}
    (hleaves : LeavesCaps url username plan other r a) (h : Capped username plan r) :
    Capped username plan (r.execute (serveLimits url username plan other) a) := by
  by_cases himport : ∃ address, a = .fetchImport address
  · obtain ⟨address, rfl⟩ := himport
    exact hleaves h
  · have hkind : ∀ address, a ≠ .fetchImport address := fun address heq => himport ⟨address, heq⟩
    have hrem : a.removes .hotspot username = false := by
      cases a with
      | removeUser n t => exact decide_eq_false hleaves
      | _ => rfl
    obtain ⟨u, hu, htime, hbytes⟩ := h
    have heffect := userEffect_some hrem u
    rw [← Option.mem_def.mp hu, ← execute_lookup hkind] at heffect
    exact ⟨_, heffect, htime, hbytes⟩

end Caps

/-! ### What a step keeps -/

section Steps

variable {settings : AgentSettings} {routerId : ℕ} {url username : String} {plan : ServicePlan}
variable {other : String → RouterState → RouterState} {limitsId : String}

theorem Invariant.updateRows {s : RouterCaps} (hi : s.Invariant url username plan limitsId)
    {db : AgentTables} {p : RouterCommand → Bool} {f : RouterCommand → RouterCommand}
    (hdb : db.commands = updateWhere p f s.db.commands)
    (hb : (db.backups.filterMap RouterBackup.commandId).Nodup)
    (hf : ∀ c, (f c).id = c.id ∧ (f c).action = c.action)
    (hst : ∀ c, p c = true → c.id = limitsId → (f c).status = .success →
      c.status = .success ∨ ∃ o ∈ s.outcomes, o.id = limitsId ∧ o.status = "success") :
    ({ s with db := db } : RouterCaps).Invariant url username plan limitsId where
  commands := hdb ▸ hi.commands.updateWhere (fun c => (hf c).1)
  backups := hb
  queued := by
    show ∀ c ∈ db.commands, c.id = limitsId → c.action = .fetchImport url
    rw [hdb, forall_updateWhere (fun c hc _ => hi.queued c hc)]
    intro c hc _
    rw [(hf c).1, (hf c).2]
    exact hi.queued c hc
  delivered := hi.delivered
  reported := by
    rintro ⟨c, hc, hid, hsucc⟩
    obtain ⟨c₀, hc₀, rfl⟩ := mem_updateWhere.mp (show c ∈ updateWhere p f s.db.commands from hdb ▸ hc)
    split at hid
    · rename_i hp
      rw [if_pos hp] at hsucc
      rw [(hf c₀).1] at hid
      rcases hst c₀ hp hid hsucc with hold | hout
      · exact hi.reported ⟨c₀, hc₀, hid, hold⟩
      · exact hout
    · rename_i hp
      rw [if_neg hp] at hsucc
      exact hi.reported ⟨c₀, hc₀, hid, hsucc⟩
  capped := hi.capped

theorem step_report {s : RouterCaps} (hi : s.Invariant url username plan limitsId) (now : ℤ)
    (picks : List ℕ) :
    (step settings routerId url username plan other s (.report now picks)).Invariant
      url username plan limitsId := by
  have hstep : ∀ res ∈ picks.filterMap (fun i => s.outcomes[i]?), ∀ db db',
      AgentTables.Processed now res db db' →
      ({ s with db := db } : RouterCaps).Invariant url username plan limitsId →
      ({ s with db := db' } : RouterCaps).Invariant url username plan limitsId := by
    intro res hres db db' hp hdb
    obtain ⟨i, _, hout⟩ := List.mem_filterMap.mp hres
    refine hdb.updateRows hp.commands (hp.backupsKeyed hdb.backups) (fun c => ?_) ?_
    · have hframe := c.applyResult_frame now res.status res.message
      exact ⟨hframe.1, hframe.2.2.1⟩
    · intro c hpick hid hsucc
      by_cases hs : res.status = "success"
      · exact Or.inr ⟨res, List.mem_of_getElem? hout, (of_decide_eq_true hpick).symm.trans hid, hs⟩
      · exact Or.inl (RouterCommand.success_of_applyResult hs hsucc)
  obtain ⟨db', hdb', hi'⟩ := AgentTables.handleReport_invariant_of_mem _ hstep hi.commands hi.backups hi
  show ({ s with db := (s.db.handleReport now _).getD s.db } : RouterCaps).Invariant _ _ _ _
  rw [hdb']
  exact hi'

theorem step_poll {s : RouterCaps} (hi : s.Invariant url username plan limitsId) (now : ℤ) :
    (step settings routerId url username plan other s (.poll now)).Invariant
      url username plan limitsId := by
  have hrows : ({ s with db := { s.db with
      commands := markCommandsSent now
        ((getPendingCommands settings routerId now none s.db.commands).map RouterCommand.id)
        s.db.commands } } : RouterCaps).Invariant url username plan limitsId :=
    hi.updateRows rfl hi.backups (fun _ => ⟨rfl, rfl⟩) (fun c _ _ h => by cases h)
  refine ⟨hrows.commands, hrows.backups, hrows.queued, ?_, hrows.reported, hrows.capped⟩
  intro c hc hid
  rcases List.mem_append.mp hc with hold | hnew
  · exact hi.delivered c hold hid
  · have hmem : c ∈ s.db.commands :=
      (mem_pendingFor.mp (mem_pendingFor_of_mem_getPendingCommands hnew)).1
    exact hi.queued c hmem hid

theorem step_execute {s : RouterCaps} (hi : s.Invariant url username plan limitsId) {i : ℕ}
    (hok : s.Admissible url username plan other limitsId (.execute i)) :
    (step settings routerId url username plan other s (.execute i)).Invariant
      url username plan limitsId := by
  cases hc : s.delivered[i]? with
  | none =>
      simp only [step, hc]
      exact hi
  | some c =>
      simp only [step, hc]
      obtain ⟨hlimits, hothers⟩ := hok c hc
      refine ⟨hi.commands, hi.backups, hi.queued,
        fun d hd => hi.delivered d (List.mem_of_mem_eraseIdx hd), ?_, ?_⟩
      · intro hsucc
        obtain ⟨o, ho, hres⟩ := hi.reported hsucc
        exact ⟨o, List.mem_append_left _ ho, hres⟩
      · rintro ⟨o, ho, hid, hres⟩
        by_cases hcid : c.id = limitsId
        · have hact := hi.delivered c (List.mem_of_getElem? hc) hcid
          have hserve : s.router.execute (serveLimits url username plan other) c.action =
              setLimits username plan.limitUptimeStr plan.limitBytesStr s.router := by
            rw [hact]
            exact if_pos rfl
          show Capped username plan (s.router.execute _ c.action)
          rw [hserve]
          exact capped_setLimits (hlimits hcid)
        · have hold : o ∈ s.outcomes := by
            rcases List.mem_append.mp ho with hold | hnew
            · exact hold
            · rw [List.mem_singleton.mp hnew] at hid
              exact absurd hid hcid
          exact capped_execute (hothers hcid) (hi.capped ⟨o, hold, hid, hres⟩)

theorem step_fail {s : RouterCaps} (hi : s.Invariant url username plan limitsId) (i : ℕ)
    (message : String) {left : RouterState}
    (hok : Capped username plan s.router → Capped username plan left) :
    (step settings routerId url username plan other s (.fail i message left)).Invariant
      url username plan limitsId := by
  cases hc : s.delivered[i]? with
  | none =>
      simp only [step, hc]
      exact hi
  | some c =>
      simp only [step, hc]
      refine ⟨hi.commands, hi.backups, hi.queued,
        fun d hd => hi.delivered d (List.mem_of_mem_eraseIdx hd), ?_, ?_⟩
      · intro hsucc
        obtain ⟨o, ho, hres⟩ := hi.reported hsucc
        exact ⟨o, List.mem_append_left _ ho, hres⟩
      · rintro ⟨o, ho, hid, hres⟩
        rcases List.mem_append.mp ho with hold | hnew
        · exact hok (hi.capped ⟨o, hold, hid, hres⟩)
        · rw [List.mem_singleton.mp hnew] at hres
          exact absurd hres (by simp)

/-- Queueing keeps the invariant, if only the script goes under the identifier of the limits. -/
theorem Invariant.queueCommand {s : RouterCaps} (hi : s.Invariant url username plan limitsId)
    {id : String} (action : Action) (hid : id = limitsId → action = .fetchImport url)
    (settings : AgentSettings) (now : ℤ) (rid : ℕ) (priority : ℤ)
    (source sourceId : Option String) (expires : Option ℤ) :
    ({ s with db := { s.db with
      commands := queueCommand settings now id rid action priority source sourceId expires
        s.db.commands } } : RouterCaps).Invariant url username plan limitsId := by
  refine ⟨keyed_queueCommand hi.commands, hi.backups, ?_, hi.delivered, ?_, hi.capped⟩
  · intro c hc hcid
    rcases of_mem_queueCommand hc with hold | ⟨hnew, hact, _⟩
    · exact hi.queued c hold hcid
    · exact hact.trans (hid (hnew.symm.trans hcid))
  · rintro ⟨c, hc, hcid, hsucc⟩
    rcases of_mem_queueCommand hc with hold | ⟨_, _, hpending⟩
    · exact hi.reported ⟨c, hold, hcid, hsucc⟩
    · rw [hpending] at hsucc
      cases hsucc

/-- **Step lemma**: every admissible move keeps the invariant. -/
theorem step_invariant {s : RouterCaps} {e : Event} (hi : s.Invariant url username plan limitsId)
    (hok : s.Admissible url username plan other limitsId e) :
    (step settings routerId url username plan other s e).Invariant url username plan limitsId := by
  cases e with
  | queue now id rid action priority source sourceId expires =>
      exact hi.queueCommand action (fun hid => absurd hid hok) settings now rid priority source
        sourceId expires
  | poll now => exact step_poll hi now
  | execute i => exact step_execute hi hok
  | fail i message left => exact step_fail hi i message hok
  | drop i =>
      exact ⟨hi.commands, hi.backups, hi.queued,
        fun d hd => hi.delivered d (List.mem_of_mem_eraseIdx hd), hi.reported, hi.capped⟩
  | report now picks => exact step_report hi now picks
  | cleanup now =>
      exact hi.updateRows rfl hi.backups (fun _ => ⟨rfl, rfl⟩) (fun c _ _ h => by cases h)
  | resetStale now threshold =>
      exact hi.updateRows rfl hi.backups (fun _ => ⟨rfl, rfl⟩) (fun c _ _ h => by cases h)

end Steps

/-! ### The runs after the provisioning -/

/-- A state in which `_sync_hotspot_user_to_router` has queued its commands. -/
def provisioned (settings : AgentSettings) (now : ℤ) (createId limitsId : String) (routerId : ℕ)
    (username password : String) (plan : ServicePlan) (source : String) (sourceId : Option String)
    (url : String) (s : RouterCaps) : RouterCaps :=
  { s with db := { s.db with
      commands := syncHotspotUserToRouter settings now createId limitsId routerId username password
        plan source sourceId url s.db.commands } }

/-- Nothing carries the identifier yet. -/
structure Unused (id : String) (s : RouterCaps) : Prop where
  commands : ∀ c ∈ s.db.commands, c.id ≠ id
  delivered : ∀ c ∈ s.delivered, c.id ≠ id
  outcomes : ∀ o ∈ s.outcomes, o.id ≠ id

theorem invariant_provisioned {settings : AgentSettings} {now : ℤ} {createId limitsId : String}
    {routerId : ℕ} {username password : String} {plan : ServicePlan} {source : String}
    {sourceId : Option String} {url : String} {s : RouterCaps}
    (hkeyed : Keyed RouterCommand.id s.db.commands)
    (hbackups : (s.db.backups.filterMap RouterBackup.commandId).Nodup)
    (hunused : s.Unused limitsId) (hids : createId ≠ limitsId) :
    (s.provisioned settings now createId limitsId routerId username password plan source sourceId
      url).Invariant url username plan limitsId := by
  have hstart : s.Invariant url username plan limitsId := by
    refine ⟨hkeyed, hbackups, fun c hc hid => absurd hid (hunused.commands c hc),
      fun c hc hid => absurd hid (hunused.delivered c hc), ?_, ?_⟩
    · rintro ⟨c, hc, hid, _⟩
      exact absurd hid (hunused.commands c hc)
    · rintro ⟨o, ho, hid, _⟩
      exact absurd hid (hunused.outcomes o ho)
  have hcreate := hstart.queueCommand
    (.createUser username password .hotspot plan.profileName plan.buildRateLimit)
    (fun hid => absurd hid hids) settings now routerId 2 (some source) sourceId none
  unfold provisioned syncHotspotUserToRouter
  simp only
  split
  · exact hcreate.queueCommand (.fetchImport url) (fun _ => rfl) settings now routerId 2 (some "router_action")
      (some "set_limits") none
  · exact hcreate

def empty : RouterCaps := ⟨⟨[], [], [], []⟩, [], .blank, []⟩

/-- The package of one hour, provisioned for `alice`. -/
def hourlyForAlice : RouterCaps :=
  empty.provisioned .default 0 "create" "limits" 1 "alice" "pw" .hourly "hotspot_login" none "u"

end RouterCaps

end IspBilling
