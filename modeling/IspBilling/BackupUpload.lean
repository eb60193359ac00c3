import IspBilling.AgentReport
import IspBilling.Runs

/-! # Uploads of router backups

A backup is requested by staff, which inserts a row of `router_backups` and queues a command; the
agent saves the backup on the router and posts the file to `agent_backup_upload`
(`app/api/v1/router_agent.py`).  The upload names its row by `backup_id`.  When the router has no such
row, the file goes to the newest row of the router instead.

`BackupTables` are the tables of the reports with the columns of the files.  Backups are also closed by
reports, deleted by staff and churned by a daily task; the checks on the requests of staff are left
out, so that their steps here can come at any time.

`uploads_keep_to_their_row` says which row an upload can change and how long a completed row stays as
it is, over every run. -/

namespace IspBilling

open Rows Runs

/-! ### The tables -/

/-- A row of `router_backups`, with the columns of the file. -/
structure StoredBackup extends RouterBackup where
  name : String
  sizeBytes : Option ℕ
  fileData : Option (List UInt8)
  createdAt : ℤ
deriving DecidableEq, Repr

/-- The tables that uploads and reports read and write. -/
structure BackupTables where
  routers : List Router
  commands : List RouterCommand
  subscriptions : List Subscription
  backups : List StoredBackup
deriving DecidableEq, Repr

structure UploadRequest where
  routerId : ℕ
  token : String
  backupId : Option ℤ
  name : Option String
  /-- The parameter `status` of the diagnostic ping. -/
  status : Option String
  body : List UInt8
deriving DecidableEq, Repr

inductive UploadResponse where
  | stored (backupId size : ℕ)
  | uploadFailed
  | error (code : ℕ) (detail : String)
deriving DecidableEq, Repr

/-- The assignments of an upload; an empty `name` counts as none. -/
def StoredBackup.store (now : ℤ) (req : UploadRequest) (row : StoredBackup) : StoredBackup :=
  { row with
    fileData := some req.body
    sizeBytes := some req.body.length
    status := .completed
    completedAt := some now
    name := (req.name.filter fun n => decide (n ≠ "")).getD row.name }

namespace BackupTables

/-- The tables as a report sees them. -/
def toAgent (t : BackupTables) : AgentTables :=
  ⟨t.routers, t.commands, t.subscriptions, t.backups.map StoredBackup.toRouterBackup⟩

/-- The tables after a report: the columns of the files are not its own. -/
def withAgent (t : BackupTables) (db : AgentTables) : BackupTables where
  routers := db.routers
  commands := db.commands
  subscriptions := db.subscriptions
  backups := List.zipWith (fun row b => { row with toRouterBackup := b }) t.backups db.backups

def newestBackup (t : BackupTables) (routerId : ℕ) : Option StoredBackup :=
  latest StoredBackup.createdAt (t.backups.filter fun row => decide (row.routerId = routerId))

/-- The row that an upload is stored on; `none` when the lookup raises. -/
def uploadRow (t : BackupTables) (req : UploadRequest) : Option (Option StoredBackup) :=
  match req.backupId with
  | none => some (t.newestBackup req.routerId)
  | some b =>
      if b = 0 then some (t.newestBackup req.routerId)
      else
        match oneOrNone (t.backups.filter fun row =>
            decide ((row.id : ℤ) = b ∧ row.routerId = req.routerId)) with
        | some none => some (t.newestBackup req.routerId)
        | found => found

variable (verifyPassword : String → String → Bool)

/-- `agent_backup_upload`. -/
def agentBackupUpload (now : ℤ) (req : UploadRequest) (t : BackupTables) :
    BackupTables × UploadResponse :=
  if t.toAgent.verifyAgentToken verifyPassword req.routerId req.token = false then
    (t, .error 401 "Invalid router agent token")
  else if req.body = [] then
    if req.status = some "failed" then (t, .uploadFailed) else (t, .error 400 "Empty backup body")
  else
    match t.uploadRow req with
    | none => (t, .error 500 "Internal Server Error")
    | some none => (t, .error 404 "No backup row to attach the file to")
    | some (some row) =>
        ({ t with
            backups := updateWhere (fun r => decide (r.id = row.id)) (StoredBackup.store now req)
              t.backups },
          .stored row.id req.body.length)

/-- `agent_report` on the tables with the files. -/
def agentReport (now : ℤ) (routerId : ℕ) (token : String) (results : List CommandResult)
    (t : BackupTables) : BackupTables :=
  t.withAgent (t.toAgent.agentReport now verifyPassword routerId token results).1

/-- `create_router_backup` up to its first commit: the row is there and has no command yet. -/
def createRouterBackup (now : ℤ) (routerId id : ℕ) (name : String) (t : BackupTables) : BackupTables :=
  if id ∈ t.backups.map (fun row => row.id) then t
  else { t with backups := t.backups ++ [{
    id := id, routerId := routerId, status := .pending, commandId := none, message := none
    completedAt := none, name := name, sizeBytes := none, fileData := none, createdAt := now }] }

/-- The second commit of `create_router_backup`. -/
def linkBackup (id : ℕ) (commandId : String) (t : BackupTables) : BackupTables :=
  { t with
    backups := updateWhere (fun row => decide (row.id = id))
      (fun row => { row with commandId := some commandId }) t.backups }

/-- `delete_router_backup`. -/
def deleteRouterBackup (routerId backupId : ℕ) (t : BackupTables) : BackupTables :=
  { t with
    backups := t.backups.filter fun row =>
      decide (¬ (row.id = backupId ∧ row.routerId = routerId)) }

/-- `cleanup_old_router_backups`. -/
def cleanupOldRouterBackups (now daysOld : ℤ) (t : BackupTables) : BackupTables :=
  { t with backups := t.backups.filter fun row => decide (¬ row.createdAt < now - days daysOld) }

end BackupTables

inductive BackupStep where
  | upload (now : ℤ) (req : UploadRequest)
  | report (now : ℤ) (routerId : ℕ) (token : String) (results : List CommandResult)
  | create (now : ℤ) (routerId id : ℕ) (name : String)
  | link (id : ℕ) (commandId : String)
  | delete (routerId backupId : ℕ)
  | cleanup (now daysOld : ℤ)
  /-- Any other request: it leaves `router_backups` alone. -/
  | elsewhere (routers : List Router) (commands : List RouterCommand)
      (subscriptions : List Subscription)
deriving DecidableEq, Repr

namespace BackupTables

variable (verifyPassword : String → String → Bool)

def step (t : BackupTables) : BackupStep → BackupTables
  | .upload now req => (t.agentBackupUpload verifyPassword now req).1
  | .report now routerId token results => t.agentReport verifyPassword now routerId token results
  | .create now routerId id name => t.createRouterBackup now routerId id name
  | .link id commandId => t.linkBackup id commandId
  | .delete routerId backupId => t.deleteRouterBackup routerId backupId
  | .cleanup now daysOld => t.cleanupOldRouterBackups now daysOld
  | .elsewhere routers commands subscriptions => ⟨routers, commands, subscriptions, t.backups⟩

/-! ### Whose row it is -/

/-- The upload names the row. -/
def Names (t : BackupTables) (req : UploadRequest) (row : StoredBackup) : Prop :=
  row ∈ t.backups ∧ row.routerId = req.routerId ∧ row.id ≠ 0 ∧ req.backupId = some (row.id : ℤ)

/-- No backup of the router is newer. -/
def Newest (t : BackupTables) (routerId : ℕ) (row : StoredBackup) : Prop :=
  row ∈ t.backups ∧ row.routerId = routerId ∧
    ∀ other ∈ t.backups, other.routerId = routerId → other.createdAt ≤ row.createdAt

/-- The upload is for the row: it names the row, or it names none of the router and the row is the
newest of the router. -/
def AddressedTo (t : BackupTables) (req : UploadRequest) (row : StoredBackup) : Prop :=
  t.Names req row ∨ (∀ other, ¬ t.Names req other) ∧ t.Newest req.routerId row

/-- Nothing changed but at most the rows with the identifier `id`. -/
def SameExcept (id : ℤ) (t t' : BackupTables) : Prop :=
  ∀ row : StoredBackup, (row.id : ℤ) ≠ id → (row ∈ t'.backups ↔ row ∈ t.backups)

/-- The upload changes no row, or one row that it is for. -/
def UploadsToItsRow (t : BackupTables) (req : UploadRequest) (t' : BackupTables) : Prop :=
  t'.backups = t.backups ∨ ∃ row, t.AddressedTo req row ∧ SameExcept row.id t t'

/-- A step changes pending rows only, and takes none away. -/
def ChangesPending (t t' : BackupTables) : Prop :=
  ∃ f : StoredBackup → StoredBackup,
    (∀ row, (f row).id = row.id ∧ (row.status ≠ .pending → f row = row)) ∧ t'.backups = t.backups.map f

/-- The step is not for the row: no upload to it and no deletion of it. -/
def Spares (row : StoredBackup) (t : BackupTables) : BackupStep → Prop
  | .upload _ req => ∀ other, t.AddressedTo req other → other.id ≠ row.id
  | .delete routerId backupId => ¬ (row.id = backupId ∧ row.routerId = routerId)
  | .cleanup now daysOld => ¬ row.createdAt < now - days daysOld
  | _ => True

end BackupTables

/-- `row'` is `row`, up to the link to the command. -/
def StoredBackup.KeptAs (row row' : StoredBackup) : Prop :=
  { row' with commandId := row.commandId } = row

theorem StoredBackup.KeptAs.columns {row row' : StoredBackup} (h : row.KeptAs row') :
    row'.id = row.id ∧ row'.routerId = row.routerId ∧ row'.status = row.status ∧
      row'.createdAt = row.createdAt := by
  rw [← h]
  exact ⟨rfl, rfl, rfl, rfl⟩

/-! ### Reports -/

/-- A change of backups that a report can make: rows keep their identifiers, and only pending rows
change. -/
def KeepsClosed (f : RouterBackup → RouterBackup) : Prop :=
  ∀ b, (f b).id = b.id ∧ (b.status ≠ .pending → f b = b)

/-- The backups after a report. -/
def ReportedTo (bs bs' : List RouterBackup) : Prop := ∃ f, KeepsClosed f ∧ bs' = bs.map f

namespace ReportedTo

theorem refl (bs : List RouterBackup) : ReportedTo bs bs :=
  ⟨id, fun _ => ⟨rfl, fun _ => rfl⟩, (List.map_id bs).symm⟩

theorem trans {bs bs' bs'' : List RouterBackup} (h : ReportedTo bs bs') (h' : ReportedTo bs' bs'') :
    ReportedTo bs bs'' := by
  obtain ⟨f, hf, rfl⟩ := h
  obtain ⟨g, hg, rfl⟩ := h'
  refine ⟨g ∘ f, fun b => ⟨((hg (f b)).1).trans (hf b).1, fun hb => ?_⟩, List.map_map⟩
  rw [Function.comp, (hf b).2 hb]
  exact (hg b).2 hb

end ReportedTo

namespace AgentTables

theorem updateBackupStatus_reportedTo {now : ℤ} {cid : String} {st : BackupStatus} {msg : String}
    {db db' : AgentTables} (h : db.updateBackupStatus now cid st msg = some db') :
    ReportedTo db.backups db'.backups := by
  unfold updateBackupStatus at h
  split at h
  · obtain rfl := Option.some.inj h
    exact .refl _
  · rename_i b hone
    split at h
    · rename_i hpending
      obtain rfl := Option.some.inj h
      refine ⟨fun x => if x.commandId = some cid ∧ x.status = .pending then
        { x with status := st, message := some msg, completedAt := some now } else x, ?_, ?_⟩
      · intro x
        refine ⟨by dsimp only; split <;> rfl, ?_⟩
        intro hx
        exact if_neg (fun hc => hx hc.2)
      · apply List.map_congr_left
        intro x hx
        -- the row of the command is the one that was found
        by_cases hc : x.commandId = some cid
        · have hmem : x ∈ db.backups.filter (fun b => decide (b.commandId = some cid)) :=
            List.mem_filter.mpr ⟨hx, decide_eq_true hc⟩
          rw [hone, List.mem_singleton] at hmem
          subst hmem
          simp [hc, hpending]
        · simp [hc]
    · obtain rfl := Option.some.inj h
      exact .refl _
  · cases h

theorem processCommandResult_reportedTo {now : ℤ} {res : CommandResult} {db db' : AgentTables}
    (h : db.processCommandResult now res = some db') : ReportedTo db.backups db'.backups := by
  unfold processCommandResult at h
  split at h
  · obtain rfl := Option.some.inj h
    exact .refl _
  · rename_i c _
    simp only at h
    split at h
    · have hsame : ((db.recordResult now res).markSynced now c).backups = db.backups := by
        rw [markSynced_spec]
        rfl
      rw [← hsame]
      exact updateBackupStatus_reportedTo h
    · split at h
      · split at h
        · have hclosed := updateBackupStatus_reportedTo h
          exact hclosed
        · obtain rfl := Option.some.inj h
          exact .refl _
      · obtain rfl := Option.some.inj h
        exact .refl _

theorem handleReport_reportedTo {now : ℤ} {results : List CommandResult} {db db' : AgentTables}
    (h : db.handleReport now results = some db') : ReportedTo db.backups db'.backups := by
  induction results generalizing db with
  | nil =>
      obtain rfl := Option.some.inj h
      exact .refl _
  | cons res rest ih =>
      obtain ⟨mid, hmid, hrest⟩ := Option.bind_eq_some_iff.mp h
      exact (processCommandResult_reportedTo hmid).trans (ih hrest)

theorem agentReport_reportedTo (now : ℤ) (verifyPassword : String → String → Bool) (routerId : ℕ)
    (token : String) (results : List CommandResult) (db : AgentTables) :
    ReportedTo db.backups (db.agentReport now verifyPassword routerId token results).1.backups := by
  unfold agentReport
  split
  · split
    · rename_i db' h
      exact handleReport_reportedTo h
    · exact .refl _
  · exact .refl _

end AgentTables

namespace BackupTables

variable (verifyPassword : String → String → Bool)

theorem withAgent_backups {t : BackupTables} {db : AgentTables} {f : RouterBackup → RouterBackup}
    (h : db.backups = t.toAgent.backups.map f) :
    (t.withAgent db).backups =
      t.backups.map (fun row => { row with toRouterBackup := f row.toRouterBackup }) := by
  rw [withAgent, h, toAgent, List.map_map, List.zipWith_map_right, List.zipWith_self]
  rfl

theorem agentReport_backups (now : ℤ) (routerId : ℕ) (token : String) (results : List CommandResult)
    (t : BackupTables) :
    ∃ f, KeepsClosed f ∧ (t.agentReport verifyPassword now routerId token results).backups =
      t.backups.map (fun row => { row with toRouterBackup := f row.toRouterBackup }) := by
  obtain ⟨f, hf, hb⟩ :=
    t.toAgent.agentReport_reportedTo now verifyPassword routerId token results
  exact ⟨f, hf, withAgent_backups hb⟩

theorem agentReport_changesPending (now : ℤ) (routerId : ℕ) (token : String)
    (results : List CommandResult) (t : BackupTables) :
    t.ChangesPending (t.agentReport verifyPassword now routerId token results) := by
  obtain ⟨f, hf, hb⟩ := t.agentReport_backups verifyPassword now routerId token results
  refine ⟨fun row => { row with toRouterBackup := f row.toRouterBackup }, fun row => ⟨?_, ?_⟩, hb⟩
  · exact (hf row.toRouterBackup).1
  · intro hclosed
    show { row with toRouterBackup := f row.toRouterBackup } = row
    rw [(hf row.toRouterBackup).2 hclosed]

theorem toAgent_agentReport (now : ℤ) (routerId : ℕ) (token : String) (results : List CommandResult)
    (t : BackupTables) :
    (t.agentReport verifyPassword now routerId token results).toAgent =
      (t.toAgent.agentReport now verifyPassword routerId token results).1 := by
  obtain ⟨f, -, hb⟩ :=
    t.toAgent.agentReport_reportedTo now verifyPassword routerId token results
  have hrows : (t.agentReport verifyPassword now routerId token results).backups.map
      StoredBackup.toRouterBackup =
        (t.toAgent.agentReport now verifyPassword routerId token results).1.backups := by
    rw [agentReport, withAgent_backups hb, hb, toAgent, List.map_map, List.map_map]
    rfl
  rw [toAgent, hrows]
  rfl

/-! ### Uploads -/

theorem newestBackup_spec {t : BackupTables} {routerId : ℕ} {row : StoredBackup}
    (h : t.newestBackup routerId = some row) : t.Newest routerId row := by
  obtain ⟨hmem, hmax⟩ := latest_spec h
  obtain ⟨hrow, hrouter⟩ := List.mem_filter.mp hmem
  refine ⟨hrow, of_decide_eq_true hrouter, ?_⟩
  intro other ho horouter
  exact hmax other (List.mem_filter.mpr ⟨ho, decide_eq_true horouter⟩)

theorem uploadRow_spec {t : BackupTables} {req : UploadRequest} {row : StoredBackup}
    (h : t.uploadRow req = some (some row)) : t.AddressedTo req row := by
  have hfallback : (∀ other, ¬ t.Names req other) → some (t.newestBackup req.routerId) =
      some (some row) → t.AddressedTo req row :=
    fun hnone hrow => Or.inr ⟨hnone, newestBackup_spec (Option.some.inj hrow)⟩
  unfold uploadRow at h
  split at h
  · rename_i hid
    apply hfallback _ h
    rintro other ⟨-, -, -, hnamed⟩
    rw [hid] at hnamed
    cases hnamed
  · rename_i b hid
    split at h
    · rename_i hzero
      apply hfallback _ h
      rintro other ⟨-, -, hne, hnamed⟩
      rw [hid, hzero, Option.some.injEq] at hnamed
      omega
    · rename_i hzero
      split at h
      · rename_i hnone
        apply hfallback _ h
        rintro other ⟨hmem, hrouter, -, hnamed⟩
        rw [hid, Option.some.injEq] at hnamed
        have hfound : other ∈ t.backups.filter fun row =>
            decide ((row.id : ℤ) = b ∧ row.routerId = req.routerId) :=
          List.mem_filter.mpr ⟨hmem, decide_eq_true ⟨hnamed.symm, hrouter⟩⟩
        rw [oneOrNone_eq_some_none.mp hnone] at hfound
        cases hfound
      · obtain ⟨hmem, hp⟩ := List.mem_filter.mp (mem_of_oneOrNone h)
        obtain ⟨hb, hrouter⟩ := of_decide_eq_true hp
        exact Or.inl ⟨hmem, hrouter, by omega, by rw [hid, hb]⟩

/-- Spec of `agent_backup_upload`: it writes nothing, or stores the file on a row that it is for. -/
theorem agentBackupUpload_spec (now : ℤ) (req : UploadRequest) (t : BackupTables) :
    (t.agentBackupUpload verifyPassword now req).1 = t ∨
      ∃ row, t.AddressedTo req row ∧ (t.agentBackupUpload verifyPassword now req).1 =
        { t with
          backups := updateWhere (fun r => decide (r.id = row.id)) (StoredBackup.store now req)
            t.backups } := by
  unfold agentBackupUpload
  split
  · exact Or.inl rfl
  · split
    · exact Or.inl (by split <;> rfl)
    · split
      · exact Or.inl rfl
      · exact Or.inl rfl
      · rename_i row hrow
        exact Or.inr ⟨row, uploadRow_spec hrow, rfl⟩

theorem upload_uploadsToItsRow (now : ℤ) (req : UploadRequest) (t : BackupTables) :
    t.UploadsToItsRow req (t.agentBackupUpload verifyPassword now req).1 := by
  rcases t.agentBackupUpload_spec verifyPassword now req with hsame | ⟨row, hrow, hstored⟩
  · exact Or.inl (by rw [hsame])
  · refine Or.inr ⟨row, hrow, ?_⟩
    intro other hother
    rw [hstored]
    -- the stored row keeps its identifier, so it is never `other`
    apply mem_updateWhere_of_fixed (P := fun r : StoredBackup => r.id ≠ row.id)
    · intro r
      rfl
    · intro r _ hr hp
      exact absurd (of_decide_eq_true hp) hr
    · omega

/-! ### Completed rows -/

variable {verifyPassword} in
theorem keptAs_step {row : StoredBackup} (hclosed : row.status = .completed) {t : BackupTables}
    {e : BackupStep} (h : ∃ row' ∈ t.backups, row.KeptAs row') (hspares : Spares row t e) :
    ∃ row' ∈ (t.step verifyPassword e).backups, row.KeptAs row' := by
  obtain ⟨row', hmem, hkept⟩ := h
  obtain ⟨hid, hrouter, hstatus, hcreated⟩ := hkept.columns
  cases e with
  | upload now req =>
      rcases t.agentBackupUpload_spec verifyPassword now req with hsame | ⟨target, htarget, hstored⟩
      · exact ⟨row', by rw [step, hsame]; exact hmem, hkept⟩
      · refine ⟨row', ?_, hkept⟩
        rw [step, hstored]
        have hne : row'.id ≠ target.id := by
          rw [hid]
          exact (hspares target htarget).symm
        exact mem_updateWhere.mpr ⟨row', hmem, by simp [hne]⟩
  | report now routerId token results =>
      obtain ⟨f, hf, hb⟩ := t.agentReport_backups verifyPassword now routerId token results
      have hsame : f row'.toRouterBackup = row'.toRouterBackup := by
        apply (hf row'.toRouterBackup).2
        rw [hstatus, hclosed]
        decide
      refine ⟨row', ?_, hkept⟩
      rw [step, hb]
      exact List.mem_map.mpr ⟨row', hmem, by rw [hsame]⟩
  | create now routerId id name =>
      refine ⟨row', ?_, hkept⟩
      rw [step, createRouterBackup]
      split
      · exact hmem
      · exact List.mem_append_left _ hmem
  | link id commandId =>
      -- the link is the one column that may still be written
      refine ⟨_, mem_updateWhere.mpr ⟨row', hmem, rfl⟩, ?_⟩
      split
      · exact hkept
      · exact hkept
  | delete routerId backupId =>
      refine ⟨row', List.mem_filter.mpr ⟨hmem, ?_⟩, hkept⟩
      rw [hid, hrouter]
      exact decide_eq_true hspares
  | cleanup now daysOld =>
      refine ⟨row', List.mem_filter.mpr ⟨hmem, ?_⟩, hkept⟩
      rw [hcreated]
      exact decide_eq_true hspares
  | elsewhere routers commands subscriptions => exact ⟨row', hmem, hkept⟩

/-- In every run: an upload changes at most one row, the one it names, or the newest of its router when
it names none of that router; a report changes pending rows only; a completed row stays as it is as long
as no upload is for it and it is not deleted. -/
theorem uploads_keep_to_their_row (t : BackupTables) (es : List BackupStep) :
    Along (step verifyPassword)
      (fun s e => ∀ now req, e = .upload now req → s.UploadsToItsRow req (s.step verifyPassword e)) t es ∧
    Along (step verifyPassword)
      (fun s e => ∀ now routerId token results, e = .report now routerId token results →
        s.ChangesPending (s.step verifyPassword e)) t es ∧
    ∀ row ∈ t.backups, row.status = .completed → Along (step verifyPassword) (Spares row) t es →
      ∃ row' ∈ (exec (step verifyPassword) t es).backups, row.KeptAs row' := by
  refine ⟨?_, ?_, ?_⟩
  · apply along_of_invariant (I := fun _ => True) (fun _ _ _ => trivial) _ trivial
    rintro s e - now req rfl
    exact s.upload_uploadsToItsRow verifyPassword now req
  · apply along_of_invariant (I := fun _ => True) (fun _ _ _ => trivial) _ trivial
    rintro s e - now routerId token results rfl
    exact s.agentReport_changesPending verifyPassword now routerId token results
  · intro row hrow hclosed hspares
    exact exec_of_along (I := fun s => ∃ row' ∈ s.backups, row.KeptAs row')
      (fun s e h ok => keptAs_step hclosed h ok) ⟨row, hrow, rfl⟩ hspares

end BackupTables

/-- A backup with its file. -/
def firstBackup : StoredBackup :=
  ⟨⟨1, 1, .completed, some "cmd-1", some "OK", some 3⟩, "monday", some 1, some [7], 2⟩

/-- A router with a completed backup and one that is under way. -/
def twoBackups : BackupTables where
  routers := [⟨1, 7, true, true, some "hash-1"⟩]
  commands := []
  subscriptions := []
  backups := [firstBackup, ⟨⟨2, 1, .pending, some "cmd-2", none, none⟩, "tuesday", none, none, 4⟩]

/-- The upload for the second backup. -/
def secondUpload : UploadRequest := ⟨1, "token-1", some 2, some "tuesday", none, [8, 9]⟩

namespace BackupTables

/-- The upload for the second backup, and the report after it, leave the first one as it is. -/
theorem uploads_keep_firstBackup :
    ∃ row' ∈ (exec (step acceptsToken) twoBackups
      [.upload 5 secondUpload, .report 6 1 "token-1" [⟨"cmd-2", "success", ""⟩]]).backups,
      firstBackup.KeptAs row' := by
  refine (uploads_keep_to_their_row acceptsToken twoBackups _).2.2 firstBackup (by decide) rfl
    ⟨?_, trivial, trivial⟩
  rintro other (⟨-, -, -, hid⟩ | ⟨hnone, -⟩)
  · have hid : (2 : ℤ) = other.id := Option.some.inj hid
    have hfirst : firstBackup.id = 1 := rfl
    omega
  · exact absurd ⟨by decide, rfl, by decide, rfl⟩
      (hnone ⟨⟨2, 1, .pending, some "cmd-2", none, none⟩, "tuesday", none, none, 4⟩)

/-- When the second backup is deleted before its upload arrives, the upload names row 2 and overwrites
the completed file of row 1. -/
theorem late_upload_overwrites_firstBackup :
    ¬ SameExcept 2 (exec (step acceptsToken) twoBackups [.delete 1 2])
      (exec (step acceptsToken) twoBackups [.delete 1 2, .upload 9 secondUpload]) ∧
    ∀ row ∈ (exec (step acceptsToken) twoBackups [.delete 1 2, .upload 9 secondUpload]).backups,
      row.id = firstBackup.id → row.fileData ≠ firstBackup.fileData := by
  constructor
  · intro h
    have hkept := (h firstBackup (by decide)).mpr (by decide)
    exact absurd hkept (by decide)
  · decide

end BackupTables

end IspBilling
