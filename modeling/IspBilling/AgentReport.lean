import IspBilling.Subscription
import Mathlib.Data.Fintype.EquivFin

/-! # Result reports of the router agent

`POST /report` (`app/api/v1/router_agent.py`) checks the token of the reporting router and
hands the results to `RouterAgentService.handle_report`, which looks every named command up
by its identifier alone and fans the outcome out to the subscription and to the backup that
the command belongs to (`_update_subscription_sync_status`, `_update_backup_status`).

`processCommandResult` and `handleReport` return `none` when the source raises (two backups
that share a command make `scalar_one_or_none` raise); the request then commits nothing.
The progress messages to the provisioning socket write no table and are left out.

The question is isolation: what may a report of router `r₁` change of another router `r₂`?
`SameFor r₂` states that nothing of `r₂` changed, `NamesOther r₂` that a result names
a command of `r₂` or a sync command of a subscription that `r₂` also synchronises, and
`agentReport_isolated_iff` that the second decides the first. -/

namespace IspBilling

open Rows

inductive BackupStatus where
  | pending
  | completed
  | failed
deriving DecidableEq, Repr

/-- A row of `router_backups`. -/
structure RouterBackup where
  id : ℕ
  routerId : ℕ
  status : BackupStatus
  commandId : Option String
  message : Option String
  completedAt : Option ℤ
deriving DecidableEq, Repr

/-- One entry of a report, as the schema admits it: any identifier and any status text. -/
structure CommandResult where
  id : String
  status : String
  message : String
deriving DecidableEq, Repr

structure AgentTables where
  routers : List Router
  commands : List RouterCommand
  subscriptions : List Subscription
  backups : List RouterBackup
deriving DecidableEq, Repr

/-- `int(subscription_id)` on the decimal texts that the sync writes into `source_id`. -/
def parseId (s : String) : Option ℕ :=
  if s.toList ≠ [] ∧ s.toList.all Char.isDigit = true then
    some (s.toList.foldl (fun n c => n * 10 + (c.toNat - '0'.toNat)) 0)
  else none

namespace AgentTables

variable (now : ℤ)

/-- `_update_subscription_sync_status`. -/
def updateSubscriptionSyncStatus (subscriptionId : String) (synced : Bool) (db : AgentTables) :
    AgentTables :=
  match parseId subscriptionId with
  | none => db
  | some subId =>
      let mark := fun s : Subscription =>
        { s with isRouterSynced := synced, lastRouterSync := some now }
      { db with
        subscriptions := updateWhere (fun s => decide (s.id = subId)) mark db.subscriptions }

/-- `_update_backup_status`. -/
def updateBackupStatus (commandId : String) (status : BackupStatus) (message : String)
    (db : AgentTables) : Option AgentTables :=
  match db.backups.filter (fun b => decide (b.commandId = some commandId)) with
  | [] => some db
  | [b] =>
      let close := fun b : RouterBackup =>
        { b with status := status, message := some message, completedAt := some now }
      if b.status = .pending then
        some { db with
          backups := updateWhere (fun b => decide (b.commandId = some commandId)) close db.backups }
      else some db
  | _ => none

/-- The assignment to the named command row. -/
def recordResult (res : CommandResult) (db : AgentTables) : AgentTables :=
  { db with
    commands := updateWhere (fun c => decide (c.id = res.id))
      (RouterCommand.applyResult now res.status res.message) db.commands }

/-- The success branch for a subscription sync command. -/
def markSynced (c : RouterCommand) (db : AgentTables) : AgentTables :=
  match c.sourceId with
  | some sid =>
      if c.source = some "subscription_sync" then db.updateSubscriptionSyncStatus now sid true
      else db
  | none => db

/-- `process_command_result`. -/
def processCommandResult (res : CommandResult) (db : AgentTables) : Option AgentTables :=
  match db.commands.find? (fun c => decide (c.id = res.id)) with
  | none => some db
  | some c =>
      let db' := db.recordResult now res
      if res.status = "success" then
        (db'.markSynced now c).updateBackupStatus now res.id .completed
          (if res.message = "" then "OK" else res.message)
      else if res.status = "failed" then
        if c.maxRetries ≤ c.retryCount + 1 then
          db'.updateBackupStatus now res.id .failed res.message
        else some db'
      else some db'

/-- `handle_report`: the results in order, one commit at the end. -/
def handleReport : List CommandResult → AgentTables → Option AgentTables
  | [], db => some db
  | res :: rest, db => (db.processCommandResult now res).bind (handleReport rest)

/-- `verify_agent_token`; `verifyPassword` is the bcrypt check. -/
def verifyAgentToken (verifyPassword : String → String → Bool) (routerId : ℕ) (token : String)
    (db : AgentTables) : Bool :=
  match db.routers.find? (fun r => decide (r.id = routerId)) with
  | some { agentToken := some hash, .. } => if hash = "" then false else verifyPassword token hash
  | _ => false

inductive ReportResponse where
  | processed (n : ℕ)
  | unauthorized
  | serverError
deriving DecidableEq, Repr

/-- `agent_report`. -/
def agentReport (verifyPassword : String → String → Bool) (routerId : ℕ) (token : String)
    (results : List CommandResult) (db : AgentTables) : AgentTables × ReportResponse :=
  if db.verifyAgentToken verifyPassword routerId token then
    match db.handleReport now results with
    | some db' => (db', .processed results.length)
    | none => (db, .serverError)
  else (db, .unauthorized)

end AgentTables

/-- The command synchronises the subscription `subId`. -/
def RouterCommand.Syncs (c : RouterCommand) (subId : ℕ) : Prop :=
  c.source = some "subscription_sync" ∧ ∃ sid ∈ c.sourceId, parseId sid = some subId

instance (c : RouterCommand) (n : ℕ) : Decidable (c.Syncs n) :=
  inferInstanceAs (Decidable (c.source = some "subscription_sync" ∧
    ∃ sid ∈ c.sourceId, parseId sid = some n))

/-- The keys of the tables: command and subscription identifiers are primary keys, and
`create_router_backup` gives every backup a command of its own on the backup's router. -/
structure AgentTables.WellFormed (db : AgentTables) : Prop where
  commandsKeyed : Keyed RouterCommand.id db.commands
  subscriptionsKeyed : Keyed Subscription.id db.subscriptions
  backupsKeyed : (db.backups.filterMap RouterBackup.commandId).Nodup
  backupsLinked : ∀ b ∈ db.backups, ∀ c ∈ db.commands, b.commandId = some c.id →
    b.routerId = c.routerId

/-- Well-formed tables. -/
structure AgentDb extends AgentTables where
  wellFormed : toAgentTables.WellFormed

namespace AgentTables

/-- Some command of router `r` synchronises the subscription `subId`. -/
def SyncedBy (db : AgentTables) (r subId : ℕ) : Prop :=
  ∃ c ∈ db.commands, c.routerId = r ∧ c.Syncs subId

instance (db : AgentTables) (r subId : ℕ) : Decidable (db.SyncedBy r subId) :=
  inferInstanceAs (Decidable (∃ c ∈ db.commands, c.routerId = r ∧ c.Syncs subId))

/-- The commands and the backups of router `r`, and the subscriptions that a command of `r`
synchronises, are the same in `db'` as in `db`. -/
structure SameFor (r : ℕ) (db db' : AgentTables) : Prop where
  commands : ∀ c : RouterCommand, c.routerId = r → (c ∈ db'.commands ↔ c ∈ db.commands)
  subscriptions : ∀ s : Subscription, db.SyncedBy r s.id →
    (s ∈ db'.subscriptions ↔ s ∈ db.subscriptions)
  backups : ∀ b : RouterBackup, b.routerId = r → (b ∈ db'.backups ↔ b ∈ db.backups)

/-- The result names a command of router `r`, or reports the success of a sync command of a
subscription that a command of `r` synchronises too. -/
def NamesOther (db : AgentTables) (r : ℕ) (res : CommandResult) : Prop :=
  ∃ c ∈ db.commands, c.id = res.id ∧
    ((c.routerId = r ∧ (res.status = "success" ∨ res.status = "failed")) ∨
     (res.status = "success" ∧ ∃ s ∈ db.subscriptions, c.Syncs s.id ∧ db.SyncedBy r s.id))

instance (db : AgentTables) (r : ℕ) (res : CommandResult) : Decidable (db.NamesOther r res) :=
  inferInstanceAs (Decidable (∃ c ∈ db.commands, c.id = res.id ∧
    ((c.routerId = r ∧ (res.status = "success" ∨ res.status = "failed")) ∨
     (res.status = "success" ∧ ∃ s ∈ db.subscriptions, c.Syncs s.id ∧ db.SyncedBy r s.id))))

/-! ### What one result writes -/

/-- The subscriptions that a result marks as synced. -/
def SyncTarget (db : AgentTables) (res : CommandResult) (s : Subscription) : Prop :=
  res.status = "success" ∧ ∃ c ∈ db.commands, c.id = res.id ∧ c.Syncs s.id

/-- Everything `process_command_result` can write: the row of the named command, the
subscription it synchronises and the backup tied to it. -/
structure Processed (now : ℤ) (res : CommandResult) (db db' : AgentTables) : Prop where
  routers : db'.routers = db.routers
  commands : db'.commands = updateWhere (fun c => decide (c.id = res.id))
    (RouterCommand.applyResult now res.status res.message) db.commands
  subscriptions : ∃ p : Subscription → Bool, (∀ s, p s = true ↔ db.SyncTarget res s) ∧
    db'.subscriptions = updateWhere p
      (fun s => { s with isRouterSynced := true, lastRouterSync := some now }) db.subscriptions
  backups : ∃ (p : RouterBackup → Bool) (f : RouterBackup → RouterBackup),
    (∀ b, p b = true → b.commandId = some res.id ∧ ∃ c ∈ db.commands, c.id = res.id ∧
      (res.status = "success" ∨ res.status = "failed")) ∧
    (∀ b, (f b).routerId = b.routerId ∧ (f b).commandId = b.commandId) ∧
    db'.backups = updateWhere p f db.backups

/-- Spec of `_update_backup_status`: it closes the one backup of the command, if there is one. -/
theorem updateBackupStatus_spec (now : ℤ) (cid : String) (st : BackupStatus) (msg : String)
    (db : AgentTables) (h : (db.backups.filterMap RouterBackup.commandId).Nodup) :
    ∃ (p : RouterBackup → Bool) (f : RouterBackup → RouterBackup),
      (∀ b, p b = true → b.commandId = some cid) ∧
      (∀ b, (f b).routerId = b.routerId ∧ (f b).commandId = b.commandId) ∧
      db.updateBackupStatus now cid st msg =
        some { db with backups := updateWhere p f db.backups } := by
  have hid : db = { db with backups := updateWhere (fun _ => false) id db.backups } := by
    simp [updateWhere]
  unfold updateBackupStatus
  rcases filter_of_nodup_filterMap h cid with h0 | ⟨b, _, h1⟩
  · rw [h0]
    exact ⟨fun _ => false, id, by simp, by simp, congrArg some hid⟩
  · rw [h1]
    simp only
    split
    · exact ⟨fun b => decide (b.commandId = some cid),
        fun b => { b with status := st, message := some msg, completedAt := some now },
        fun b hb => of_decide_eq_true hb, fun b => ⟨rfl, rfl⟩, rfl⟩
    · exact ⟨fun _ => false, id, by simp, by simp, congrArg some hid⟩

theorem markSynced_spec (now : ℤ) (c : RouterCommand) (db : AgentTables) :
    db.markSynced now c = { db with
      subscriptions := updateWhere (fun s => decide (c.Syncs s.id))
        (fun s => { s with isRouterSynced := true, lastRouterSync := some now })
        db.subscriptions } := by
  have hnone : (∀ s : Subscription, ¬ c.Syncs s.id) → db = { db with
      subscriptions := updateWhere (fun s => decide (c.Syncs s.id))
        (fun s => { s with isRouterSynced := true, lastRouterSync := some now })
        db.subscriptions } := by
    intro h
    simp [updateWhere, h]
  unfold markSynced
  cases hsid : c.sourceId with
  | none =>
      apply hnone
      rintro s ⟨_, sid, hm, _⟩
      rw [hsid] at hm
      cases hm
  | some sid =>
      simp only
      split
      · rename_i hsrc
        unfold updateSubscriptionSyncStatus
        cases hparse : parseId sid with
        | none =>
            apply hnone
            rintro s ⟨_, sid', hm, hp⟩
            rw [hsid] at hm
            cases hm
            rw [hparse] at hp
            cases hp
        | some n =>
            have hn : ∀ s : Subscription, c.Syncs s.id ↔ s.id = n := by
              intro s
              simp only [RouterCommand.Syncs, hsrc, hsid, true_and, Option.mem_some_iff,
                exists_eq_left', hparse, Option.some.injEq]
              exact eq_comm
            simp only [hn]
      · rename_i hsrc
        exact hnone (fun s h => hsrc h.1)

theorem processed_unknown (now : ℤ) {res : CommandResult} {db : AgentTables}
    (h : ∀ c ∈ db.commands, ¬ c.id = res.id) : Processed now res db db := by
  refine ⟨rfl, ?_, ⟨fun _ => false, ?_, by simp [updateWhere]⟩, fun _ => false, id, by simp,
    by simp, by simp [updateWhere]⟩
  · exact (updateWhere_eq_self fun c hc => decide_eq_false (h c hc)).symm
  · intro s
    simp only [Bool.false_eq_true, SyncTarget, false_iff, not_and, not_exists]
    intro _ c hc hcid
    exact absurd hcid (h c hc)

theorem processed_of_not_success (now : ℤ) {res : CommandResult} {db : AgentTables}
    (hs : res.status ≠ "success") {p : RouterBackup → Bool} {f : RouterBackup → RouterBackup}
    (hp : ∀ b, p b = true → b.commandId = some res.id ∧ ∃ c ∈ db.commands, c.id = res.id ∧
      (res.status = "success" ∨ res.status = "failed"))
    (hf : ∀ b, (f b).routerId = b.routerId ∧ (f b).commandId = b.commandId) :
    Processed now res db { db.recordResult now res with backups := updateWhere p f db.backups } := by
  refine ⟨rfl, rfl, ⟨fun _ => false, ?_, by simp [updateWhere, recordResult]⟩, p, f, hp, hf, rfl⟩
  intro s
  simp [SyncTarget, hs]

/-- Spec of `process_command_result` on keyed tables: it does not raise, and writes at most
what `Processed` lists. -/
theorem processCommandResult_spec (now : ℤ) (res : CommandResult) {db : AgentTables}
    (hc : Keyed RouterCommand.id db.commands)
    (hb : (db.backups.filterMap RouterBackup.commandId).Nodup) :
    ∃ db', db.processCommandResult now res = some db' ∧ Processed now res db db' := by
  unfold processCommandResult
  cases hf : db.commands.find? (fun c => decide (c.id = res.id)) with
  | none =>
      refine ⟨db, rfl, processed_unknown now ?_⟩
      intro c hcm hcid
      exact absurd (hc.find?_eq_some.mpr ⟨hcm, hcid⟩) (by rw [hf]; simp)
  | some c =>
      obtain ⟨hcm, hcid⟩ := hc.find?_eq_some.mp hf
      simp only
      split
      · rename_i hs
        have hm := markSynced_spec now c (db.recordResult now res)
        obtain ⟨q, f, hq, hfr, hbk⟩ := updateBackupStatus_spec now res.id .completed
          (if res.message = "" then "OK" else res.message)
          ((db.recordResult now res).markSynced now c) (by rw [hm]; exact hb)
        refine ⟨_, hbk, by rw [hm]; rfl, by rw [hm]; rfl,
          ⟨fun s => decide (c.Syncs s.id), ?_, by rw [hm]; rfl⟩, q, f,
          fun b hbq => ⟨hq b hbq, c, hcm, hcid, Or.inl hs⟩, hfr, by rw [hm]; rfl⟩
        intro s
        rw [decide_eq_true_eq, SyncTarget, and_iff_right hs]
        constructor
        · exact fun hsync => ⟨c, hcm, hcid, hsync⟩
        · rintro ⟨c', hc', hid', hsync⟩
          exact hc.eq_of_key hc' hcm (hid'.trans hcid.symm) ▸ hsync
      · rename_i hs
        -- no backup is closed
        have hsame : ∀ db' : AgentTables, db'.backups = db.backups →
            db' = { db' with backups := updateWhere (fun _ => false) id db.backups } := by
          intro db' hdb'
          rw [← hdb']
          simp [updateWhere]
        have hrecord : Processed now res db (db.recordResult now res) := by
          rw [hsame (db.recordResult now res) rfl]
          exact processed_of_not_success now hs (by simp) (by simp)
        split
        · rename_i hfail
          split
          · obtain ⟨q, f, hq, hfr, hbk⟩ := updateBackupStatus_spec now res.id .failed res.message
              (db.recordResult now res) hb
            exact ⟨_, hbk, processed_of_not_success now hs
              (fun b hbq => ⟨hq b hbq, c, hcm, hcid, Or.inr hfail⟩) hfr⟩
          · exact ⟨_, rfl, hrecord⟩
        · exact ⟨_, rfl, hrecord⟩

/-! ### The shape of the tables is fixed -/

theorem syncs_applyResult (now : ℤ) (st msg : String) (c : RouterCommand) (n : ℕ) :
    (c.applyResult now st msg).Syncs n ↔ c.Syncs n := by
  obtain ⟨-, -, -, -, -, -, -, hsrc, hsid⟩ := c.applyResult_frame now st msg
  unfold RouterCommand.Syncs
  rw [hsrc, hsid]

namespace Processed

variable {now : ℤ} {res : CommandResult} {db db' : AgentTables}

theorem syncedBy_iff (h : Processed now res db db') (r n : ℕ) :
    db'.SyncedBy r n ↔ db.SyncedBy r n := by
  unfold SyncedBy
  rw [h.commands]
  apply exists_updateWhere
  intro c
  rw [RouterCommand.applyResult_routerId, syncs_applyResult]

theorem namesOther_iff (h : Processed now res db db') (r : ℕ) (res' : CommandResult) :
    db'.NamesOther r res' ↔ db.NamesOther r res' := by
  obtain ⟨p, -, hsub⟩ := h.subscriptions
  have hs : ∀ c : RouterCommand,
      (∃ s ∈ db'.subscriptions, c.Syncs s.id ∧ db'.SyncedBy r s.id) ↔
        ∃ s ∈ db.subscriptions, c.Syncs s.id ∧ db.SyncedBy r s.id := by
    intro c
    simp only [h.syncedBy_iff, hsub]
    apply exists_updateWhere
    intro s
    rfl
  unfold NamesOther
  simp only [hs]
  rw [h.commands]
  apply exists_updateWhere
  intro c
  simp only [RouterCommand.applyResult_id, RouterCommand.applyResult_routerId, syncs_applyResult]

theorem commandsKeyed (h : Processed now res db db') (hk : Keyed RouterCommand.id db.commands) :
    Keyed RouterCommand.id db'.commands := by
  rw [h.commands]
  exact hk.updateWhere (fun c => c.applyResult_id _ _ _)

theorem subscriptionsKeyed (h : Processed now res db db')
    (hk : Keyed Subscription.id db.subscriptions) : Keyed Subscription.id db'.subscriptions := by
  obtain ⟨p, -, hsub⟩ := h.subscriptions
  rw [hsub]
  exact hk.updateWhere (fun _ => rfl)

theorem backupsKeyed (h : Processed now res db db')
    (hk : (db.backups.filterMap RouterBackup.commandId).Nodup) :
    (db'.backups.filterMap RouterBackup.commandId).Nodup := by
  obtain ⟨q, f, -, hf, hbk⟩ := h.backups
  have heq : db'.backups.filterMap RouterBackup.commandId =
      db.backups.filterMap RouterBackup.commandId := by
    rw [hbk, updateWhere, List.filterMap_map]
    apply List.filterMap_congr
    intro b _
    simp only [Function.comp]
    split
    · exact (hf b).2
    · rfl
  rw [heq]
  exact hk

theorem wellFormed (h : Processed now res db db') (hw : db.WellFormed) : db'.WellFormed := by
  obtain ⟨q, f, -, hf, hbk⟩ := h.backups
  refine ⟨h.commandsKeyed hw.commandsKeyed, h.subscriptionsKeyed hw.subscriptionsKeyed,
    h.backupsKeyed hw.backupsKeyed, ?_⟩
  intro b hb c hc hbc
  rw [hbk, mem_updateWhere] at hb
  rw [h.commands, mem_updateWhere] at hc
  obtain ⟨b₀, hb₀, rfl⟩ := hb
  obtain ⟨c₀, hc₀, rfl⟩ := hc
  have hb1 : (if q b₀ = true then f b₀ else b₀).commandId = b₀.commandId := by
    split
    · exact (hf b₀).2
    · rfl
  have hb2 : (if q b₀ = true then f b₀ else b₀).routerId = b₀.routerId := by
    split
    · exact (hf b₀).1
    · rfl
  have hc1 : ∀ x : Bool, (if x = true then RouterCommand.applyResult now res.status res.message c₀
      else c₀).id = c₀.id ∧ (if x = true then
        RouterCommand.applyResult now res.status res.message c₀ else c₀).routerId = c₀.routerId := by
    intro x
    split
    · exact ⟨c₀.applyResult_id _ _ _, c₀.applyResult_routerId _ _ _⟩
    · exact ⟨rfl, rfl⟩
  rw [hb1, (hc1 _).1] at hbc
  rw [hb2, (hc1 _).2]
  exact hw.backupsLinked b₀ hb₀ c₀ hc₀ hbc

theorem sameFor (h : Processed now res db db') (hw : db.WellFormed) {r : ℕ}
    (hn : ¬ db.NamesOther r res) : db.SameFor r db' := by
  obtain ⟨p, hp, hsub⟩ := h.subscriptions
  obtain ⟨q, f, hq, hf, hbk⟩ := h.backups
  constructor
  · intro c hc
    rw [h.commands]
    refine mem_updateWhere_of_fixed (P := fun c => c.routerId = r)
      (fun c => by rw [RouterCommand.applyResult_routerId]) ?_ hc
    intro c hcm hcr hcid
    have hst : ¬ (res.status = "success" ∨ res.status = "failed") := fun hst =>
      hn ⟨c, hcm, of_decide_eq_true hcid, Or.inl ⟨hcr, hst⟩⟩
    rw [not_or] at hst
    exact RouterCommand.applyResult_of_other hst.1 hst.2 c
  · intro s hs
    rw [hsub]
    apply mem_updateWhere_of_fixed (P := fun s : Subscription => db.SyncedBy r s.id) _ _ hs
    · intro s
      rfl
    intro s hsm hsr hps
    obtain ⟨hst, c, hcm, hcid, hsync⟩ := (hp s).mp hps
    exact absurd ⟨c, hcm, hcid, Or.inr ⟨hst, s, hsm, hsync, hsr⟩⟩ hn
  · intro b hb
    rw [hbk]
    refine mem_updateWhere_of_fixed (P := fun b => b.routerId = r)
      (fun b => by rw [(hf b).1]) ?_ hb
    intro b hbm hbr hqb
    obtain ⟨hbc, c, hcm, hcid, hst⟩ := hq b hqb
    have hcr : c.routerId = r := by
      rw [← hw.backupsLinked b hbm c hcm (by rw [hbc, hcid]), hbr]
    exact absurd ⟨c, hcm, hcid, Or.inl ⟨hcr, hst⟩⟩ hn

end Processed

/-- **Invariant rule** for reports: on keyed tables a report does not raise, and what every single
result of it keeps holds afterwards. -/
theorem handleReport_invariant_of_mem {now : ℤ} {I : AgentTables → Prop}
    (results : List CommandResult)
    (hI : ∀ res ∈ results, ∀ db db', Processed now res db db' → I db → I db') {db : AgentTables}
    (hk : Keyed RouterCommand.id db.commands)
    (hb : (db.backups.filterMap RouterBackup.commandId).Nodup) (hi : I db) :
    ∃ db', db.handleReport now results = some db' ∧ I db' := by
  induction results generalizing db with
  | nil => exact ⟨db, rfl, hi⟩
  | cons res rest ih =>
      obtain ⟨db₁, h₁, hp⟩ := processCommandResult_spec now res hk hb
      have hrest : ∀ res' ∈ rest, ∀ db db', Processed now res' db db' → I db → I db' :=
        fun res' hres' => hI res' (List.mem_cons_of_mem res hres')
      obtain ⟨db₂, h₂, hi₂⟩ := ih hrest (hp.commandsKeyed hk) (hp.backupsKeyed hb)
        (hI res List.mem_cons_self db db₁ hp hi)
      exact ⟨db₂, by simp only [handleReport, h₁, Option.bind_some]; exact h₂, hi₂⟩

theorem handleReport_invariant {now : ℤ} {I : AgentTables → Prop}
    (hI : ∀ res db db', Processed now res db db' → I db → I db') (results : List CommandResult)
    {db : AgentTables} (hk : Keyed RouterCommand.id db.commands)
    (hb : (db.backups.filterMap RouterBackup.commandId).Nodup) (hi : I db) :
    ∃ db', db.handleReport now results = some db' ∧ I db' :=
  handleReport_invariant_of_mem results (fun res _ => hI res) hk hb hi

theorem handleReport_commandsKept (now : ℤ) (results : List CommandResult) {db : AgentTables}
    (hk : Keyed RouterCommand.id db.commands)
    (hb : (db.backups.filterMap RouterBackup.commandId).Nodup) :
    ∃ db', db.handleReport now results = some db' ∧ CommandsKept db.commands db'.commands := by
  refine handleReport_invariant (I := fun db' => CommandsKept db.commands db'.commands) ?_ results hk hb
    (.refl _)
  intro res db₁ db₂ hp h
  refine h.trans ?_
  rw [hp.commands]
  refine .updateWhere ?_ _
  intro c
  obtain ⟨hid, hr, ha, _⟩ := c.applyResult_frame now res.status res.message
  exact ⟨hid, hr, ha⟩

theorem Processed.syncTarget_iff {now : ℤ} {res res' : CommandResult} {db db' : AgentTables}
    (h : Processed now res db db') (s : Subscription) :
    db'.SyncTarget res' s ↔ db.SyncTarget res' s := by
  unfold SyncTarget
  rw [h.commands]
  refine and_congr_right (fun _ => exists_updateWhere ?_)
  intro c
  rw [RouterCommand.applyResult_id, syncs_applyResult]

/-- **Spec** of a report on the subscriptions: it marks the sync targets of its results. -/
theorem handleReport_subscriptions (now : ℤ) (results : List CommandResult) {db : AgentTables}
    (hk : Keyed RouterCommand.id db.commands)
    (hb : (db.backups.filterMap RouterBackup.commandId).Nodup) :
    ∃ db', db.handleReport now results = some db' ∧ db'.routers = db.routers ∧
      Keyed RouterCommand.id db'.commands ∧
      (db'.backups.filterMap RouterBackup.commandId).Nodup ∧
      ∃ p : Subscription → Bool, (∀ s, p s = true ↔ ∃ res ∈ results, db.SyncTarget res s) ∧
        db'.subscriptions = updateWhere p
          (fun s => { s with isRouterSynced := true, lastRouterSync := some now })
          db.subscriptions := by
  induction results generalizing db with
  | nil => exact ⟨db, rfl, rfl, hk, hb, fun _ => false, by simp, by simp [updateWhere]⟩
  | cons res rest ih =>
      obtain ⟨db₁, h₁, hp⟩ := processCommandResult_spec now res hk hb
      obtain ⟨db₂, h₂, hr₂, hk₂, hb₂, p₂, hp₂, hs₂⟩ := ih (hp.commandsKeyed hk) (hp.backupsKeyed hb)
      obtain ⟨p₁, hp₁, hs₁⟩ := hp.subscriptions
      refine ⟨db₂, ?_, hr₂.trans hp.routers, hk₂, hb₂, fun s => p₁ s || p₂ s, ?_, ?_⟩
      · simp only [handleReport, h₁, Option.bind_some]
        exact h₂
      · intro s
        simp only [Bool.or_eq_true, hp₁, hp₂, hp.syncTarget_iff, List.exists_mem_cons_iff]
      · rw [hs₂, hs₁]
        have hmark : ∀ s : Subscription,
            p₂ { s with isRouterSynced := true, lastRouterSync := some now } = p₂ s := by
          intro s
          rw [Bool.eq_iff_iff, hp₂, hp₂]
          rfl
        exact updateWhere_updateWhere (f := fun s : Subscription =>
          { s with isRouterSynced := true, lastRouterSync := some now }) (fun _ => rfl) hmark _

theorem SameFor.refl (r : ℕ) (db : AgentTables) : db.SameFor r db :=
  ⟨fun _ _ => Iff.rfl, fun _ _ => Iff.rfl, fun _ _ => Iff.rfl⟩

/-- A report that names nothing of router `r` leaves `r` alone, whatever it does elsewhere. -/
theorem handleReport_sameFor (now : ℤ) {r : ℕ} (results : List CommandResult) {db : AgentTables}
    (hw : db.WellFormed) (hn : ∀ res ∈ results, ¬ db.NamesOther r res) :
    ∃ db', db.handleReport now results = some db' ∧ db.SameFor r db' := by
  induction results generalizing db with
  | nil => exact ⟨db, rfl, SameFor.refl r db⟩
  | cons res rest ih =>
      obtain ⟨db₁, h₁, hp⟩ := processCommandResult_spec now res hw.commandsKeyed hw.backupsKeyed
      have hs₁ := hp.sameFor hw (hn res List.mem_cons_self)
      obtain ⟨db₂, h₂, hs₂⟩ := ih (hp.wellFormed hw) (fun res' hres' => by
        rw [hp.namesOther_iff]
        exact hn res' (List.mem_cons_of_mem _ hres'))
      refine ⟨db₂, ?_, fun c hc => (hs₂.commands c hc).trans (hs₁.commands c hc), ?_,
        fun b hb => (hs₂.backups b hb).trans (hs₁.backups b hb)⟩
      · simp only [handleReport, h₁, Option.bind_some]
        exact h₂
      · intro s hs
        exact (hs₂.subscriptions s ((hp.syncedBy_iff r s.id).mpr hs)).trans (hs₁.subscriptions s hs)

/-- **Reaching rule** for reports: what some result of the list establishes and no result
destroys holds afterwards.  `I` is what the establishing step may rely on. -/
theorem handleReport_reaches {now : ℤ} {I M : AgentTables → Prop} {res : CommandResult}
    (hI : ∀ res' db db', Processed now res' db db' → I db → I db')
    (hM : ∀ res' db db', Processed now res' db db' → M db → M db')
    (hest : ∀ db db', Processed now res db db' → I db → M db')
    (results : List CommandResult) {db : AgentTables} (hw : db.WellFormed) (hi : I db)
    (hres : res ∈ results ∨ M db) : ∃ db', db.handleReport now results = some db' ∧ M db' := by
  induction results generalizing db with
  | nil =>
      rcases hres with hres | hm
      · cases hres
      · exact ⟨db, rfl, hm⟩
  | cons res' rest ih =>
      obtain ⟨db₁, h₁, hp⟩ := processCommandResult_spec now res' hw.commandsKeyed hw.backupsKeyed
      have hnext : res ∈ rest ∨ M db₁ := by
        rcases hres with hres | hm
        · rcases List.mem_cons.mp hres with rfl | hrest
          · exact Or.inr (hest db db₁ hp hi)
          · exact Or.inl hrest
        · exact Or.inr (hM res' db db₁ hp hm)
      obtain ⟨db₂, h₂, hm⟩ := ih (hp.wellFormed hw) (hI res' db db₁ hp hi) hnext
      exact ⟨db₂, by simp only [handleReport, h₁, Option.bind_some]; exact h₂, hm⟩

/-- The row of `c` carries the mark of a result reported at `now`. -/
def Marked (now : ℤ) (c : RouterCommand) (db : AgentTables) : Prop :=
  ∃ c' ∈ db.commands, c'.id = c.id ∧ c'.routerId = c.routerId ∧
    (c'.completedAt = some now ∨ c.retryCount < c'.retryCount)

theorem Processed.keeps_marked {now : ℤ} {res : CommandResult} {db db' : AgentTables}
    {c : RouterCommand} (h : Processed now res db db') (hm : db.Marked now c) : db'.Marked now c := by
  obtain ⟨c', hc', hid, hr, hmark⟩ := hm
  unfold Marked
  rw [h.commands]
  refine ⟨_, mem_updateWhere.mpr ⟨c', hc', rfl⟩, ?_⟩
  split
  · exact ⟨by rw [RouterCommand.applyResult_id, hid], by rw [RouterCommand.applyResult_routerId, hr],
      RouterCommand.applyResult_keeps_mark hmark⟩
  · exact ⟨hid, hr, hmark⟩

theorem handleReport_marks (now : ℤ) {res : CommandResult} {results : List CommandResult}
    {db : AgentTables} {c : RouterCommand} (hw : db.WellFormed) (hres : res ∈ results)
    (hc : c ∈ db.commands) (hid : c.id = res.id)
    (hst : res.status = "success" ∨ res.status = "failed") :
    ∃ db', db.handleReport now results = some db' ∧ db'.Marked now c := by
  -- until a result names the command its row is still `c`
  apply handleReport_reaches (I := fun db => c ∈ db.commands ∨ db.Marked now c) _ _ _ results hw
    (Or.inl hc) (Or.inl hres)
  · intro res' db₁ db₂ hp hi
    rcases hi with hc₁ | hm
    · by_cases heq : c.applyResult now res'.status res'.message = c ∨ ¬ c.id = res'.id
      · left
        rw [hp.commands, mem_updateWhere]
        refine ⟨c, hc₁, ?_⟩
        rcases heq with heq | hne
        · simp [heq]
        · simp [hne]
      · right
        rw [not_or, not_not] at heq
        have hst' : res'.status = "success" ∨ res'.status = "failed" := by
          by_contra hno
          rw [not_or] at hno
          exact heq.1 (RouterCommand.applyResult_of_other hno.1 hno.2 c)
        refine ⟨c.applyResult now res'.status res'.message, ?_, by simp, by simp,
          RouterCommand.applyResult_marks hst' c⟩
        rw [hp.commands, mem_updateWhere]
        exact ⟨c, hc₁, by simp [heq.2]⟩
    · exact Or.inr (hp.keeps_marked hm)
  · intro res' db₁ db₂ hp hm
    exact hp.keeps_marked hm
  · intro db₁ db₂ hp hi
    rcases hi with hc₁ | hm
    · refine ⟨c.applyResult now res.status res.message, ?_, by simp, by simp,
        RouterCommand.applyResult_marks hst c⟩
      rw [hp.commands, mem_updateWhere]
      exact ⟨c, hc₁, by simp [hid]⟩
    · exact hp.keeps_marked hm

theorem handleReport_stamps (now : ℤ) {res : CommandResult} {results : List CommandResult}
    {db : AgentTables} {c : RouterCommand} {s : Subscription} (hw : db.WellFormed)
    (hres : res ∈ results) (hc : c ∈ db.commands) (hid : c.id = res.id)
    (hst : res.status = "success") (hs : s ∈ db.subscriptions) (hsync : c.Syncs s.id) :
    ∃ db', db.handleReport now results = some db' ∧
      ∃ s' ∈ db'.subscriptions, s'.id = s.id ∧ s'.lastRouterSync = some now := by
  apply handleReport_reaches (I := fun db => (∃ c ∈ db.commands, c.id = res.id ∧ c.Syncs s.id) ∧
    ∃ s' ∈ db.subscriptions, s'.id = s.id) _ _ _ results hw ⟨⟨c, hc, hid, hsync⟩, s, hs, rfl⟩
    (Or.inl hres)
  · intro res' db₁ db₂ hp hi
    obtain ⟨p, -, hsub⟩ := hp.subscriptions
    refine ⟨?_, ?_⟩
    · rw [hp.commands, exists_updateWhere (fun c => by
        rw [RouterCommand.applyResult_id, syncs_applyResult])]
      exact hi.1
    · obtain ⟨s', hs', hid'⟩ := hi.2
      rw [hsub]
      refine ⟨_, mem_updateWhere.mpr ⟨s', hs', rfl⟩, ?_⟩
      split <;> exact hid'
  · rintro res' db₁ db₂ hp ⟨s', hs', hid', hst'⟩
    obtain ⟨p, -, hsub⟩ := hp.subscriptions
    rw [hsub]
    refine ⟨_, mem_updateWhere.mpr ⟨s', hs', rfl⟩, ?_⟩
    split
    · exact ⟨hid', rfl⟩
    · exact ⟨hid', hst'⟩
  · rintro db₁ db₂ hp ⟨⟨c', hc', hcid', hsync'⟩, s', hs', hid'⟩
    obtain ⟨p, hpt, hsub⟩ := hp.subscriptions
    have htarget : p s' = true := (hpt s').mpr ⟨hst, c', hc', hcid', by rw [hid']; exact hsync'⟩
    rw [hsub]
    refine ⟨_, mem_updateWhere.mpr ⟨s', hs', rfl⟩, ?_⟩
    rw [if_pos htarget]
    exact ⟨hid', rfl⟩

theorem exists_fresh_time (db : AgentTables) : ∃ now : ℤ,
    (∀ c ∈ db.commands, c.completedAt ≠ some now) ∧
      ∀ s ∈ db.subscriptions, s.lastRouterSync ≠ some now := by
  obtain ⟨now, hnow⟩ := Infinite.exists_notMem_finset
    ((db.commands.filterMap RouterCommand.completedAt).toFinset ∪
      (db.subscriptions.filterMap Subscription.lastRouterSync).toFinset)
  simp only [Finset.mem_union, List.mem_toFinset, List.mem_filterMap, not_or, not_exists,
    not_and] at hnow
  exact ⟨now, fun c hc h => hnow.1 c hc h, fun s hs h => hnow.2 s hs h⟩

end AgentTables

open AgentTables

/-- **Isolation of reports, exactly**: a report sent with a valid token of `r₁` leaves `r₂`
alone, at whatever time it arrives, if and only if no result of it names a command of `r₂` or
a sync command of a subscription that `r₂` synchronises as well. -/
theorem agentReport_isolated_iff (verifyPassword : String → String → Bool) (db : AgentDb)
    (r₁ r₂ : ℕ) (token : String) (results : List CommandResult)
    (hv : db.verifyAgentToken verifyPassword r₁ token = true) :
    (∀ now, db.SameFor r₂
      (agentReport now verifyPassword r₁ token results db.toAgentTables).1) ↔
    ∀ res ∈ results, ¬ db.NamesOther r₂ res := by
  have hw := db.wellFormed
  constructor
  · rintro hsame res hres ⟨c, hc, hid, hnames⟩
    obtain ⟨now, hfreshc, hfreshs⟩ := db.exists_fresh_time
    have hsame := hsame now
    simp only [agentReport, hv, if_true] at hsame
    rcases hnames with ⟨hcr, hst⟩ | ⟨hst, s, hs, hsync, hsr⟩
    · obtain ⟨db', hrep, c', hc', hid', hr', hmark⟩ :=
        handleReport_marks now hw hres hc hid hst
      simp only [hrep] at hsame
      have hc'm := (hsame.commands c' (hr'.trans hcr)).mp hc'
      obtain rfl := hw.commandsKeyed.eq_of_key hc'm hc hid'
      rcases hmark with hmark | hmark
      · exact hfreshc c' hc'm hmark
      · exact absurd hmark (lt_irrefl _)
    · obtain ⟨db', hrep, s', hs', hid', hstamp⟩ :=
        handleReport_stamps now hw hres hc hid hst hs hsync
      simp only [hrep] at hsame
      have hs'm := (hsame.subscriptions s' (by rw [hid']; exact hsr)).mp hs'
      exact hfreshs s' hs'm hstamp
  · intro hn now
    obtain ⟨db', hrep, hsame⟩ := handleReport_sameFor now results hw hn
    simp only [agentReport, hv, if_true, hrep]
    exact hsame

/-- Two routers with one queued command each. -/
def twoRouters : AgentDb where
  routers := [⟨1, 7, true, true, some "hash-1"⟩, ⟨2, 8, true, true, some "hash-2"⟩]
  commands :=
    [⟨"cmd-1", 1, .disconnect "alice", 2, .sent, 0, some 1, none, some 9, none, 0, 3, none, none⟩,
     ⟨"cmd-2", 2, .disableUser "bob" .hotspot, 2, .sent, 0, some 1, none, some 9, none, 0, 3, none,
       none⟩]
  subscriptions := []
  backups := []
  wellFormed := ⟨by decide, by decide, by decide, by decide⟩

/-- A password check that accepts the token of router 1. -/
def acceptsToken (token hash : String) : Bool := token == "token-1" && hash == "hash-1"

/-- Router 1 closes a command of router 2 with its own token. -/
theorem agentReport_crosses_routers :
    twoRouters.verifyAgentToken acceptsToken 1 "token-1" = true ∧
      ¬ twoRouters.SameFor 2 (agentReport 5 acceptsToken 1 "token-1" [⟨"cmd-2", "success", ""⟩]
        twoRouters.toAgentTables).1 := by
  refine ⟨by decide, fun h => ?_⟩
  have := h.commands ⟨"cmd-2", 2, .disableUser "bob" .hotspot, 2, .sent, 0, some 1, none, some 9,
    none, 0, 3, none, none⟩ rfl
  exact absurd this (by decide)

/-- A report of router 1 about its own command leaves router 2 alone. -/
theorem agentReport_own_command :
    twoRouters.verifyAgentToken acceptsToken 1 "token-1" = true ∧
      ∀ now, twoRouters.SameFor 2 (agentReport now acceptsToken 1 "token-1"
        [⟨"cmd-1", "success", ""⟩] twoRouters.toAgentTables).1 :=
  ⟨by decide, (agentReport_isolated_iff acceptsToken twoRouters 1 2 "token-1"
    [⟨"cmd-1", "success", ""⟩] (by decide)).mpr (by decide)⟩

end IspBilling
