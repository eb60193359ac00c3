import IspBilling.Plan
import IspBilling.Rows
import Mathlib.Data.List.Sort

/-! # The router command queue

The table `router_commands` (`app/models/router_command.py`) and the queue operations of
`RouterAgentService` (`app/services/router_agent.py`).  A command is queued by the backend,
handed out by a poll (`getPendingCommands`, then `markCommandsSent`), executed by the agent on
the router and closed by a report (`RouterCommand.applyResult`); `cleanupExpiredCommands` and
`resetStaleSentCommands` are the two periodic bulk updates.

The service functions return the new table.  `datetime.utcnow()` is the argument `now`, and
the `uuid4` of a new row is an argument too: inserting an identifier that is already taken
violates the primary key, so the insert leaves the table as it is. -/

namespace IspBilling

/-- `CommandStatus`. -/
inductive CommandStatus where
  | pending
  | sent
  | success
  | failed
  | expired
deriving DecidableEq, Repr

/-- The statuses that close a command. -/
def CommandStatus.Terminal (s : CommandStatus) : Prop :=
  s = .success ∨ s = .failed ∨ s = .expired

instance : DecidablePred CommandStatus.Terminal :=
  fun s => inferInstanceAs (Decidable (s = .success ∨ s = .failed ∨ s = .expired))

/-- The `type` parameter of a user command: it selects the router table. -/
inductive UserType where
  | hotspot
  | pppoe
deriving DecidableEq, Repr

/-- The actions of the queue with their parameters. -/
inductive Action where
  | createUser (username password : String) (type : UserType) (profile rateLimit : String)
  | disableUser (username : String) (type : UserType)
  | enableUser (username : String) (type : UserType)
  | removeUser (username : String) (type : UserType)
  | disconnect (username : String)
  | setQueue (target maxLimit : String)
  | fetchImport (url : String)
  | runScript (script : String)
deriving DecidableEq, Repr

/-- A row of `router_commands`. -/
structure RouterCommand where
  id : String
  routerId : ℕ
  action : Action
  priority : ℤ
  status : CommandStatus
  createdAt : ℤ
  sentAt : Option ℤ
  completedAt : Option ℤ
  expiresAt : Option ℤ
  resultMessage : Option String
  retryCount : ℕ
  maxRetries : ℕ
  source : Option String
  sourceId : Option String
deriving DecidableEq, Repr

/-- The settings of the agent that the queue reads. -/
structure AgentSettings where
  commandExpiryHours : ℤ
  maxCommandsPerPoll : ℕ
deriving DecidableEq, Repr

/-- The defaults of `app/core/config.py`. -/
def AgentSettings.default : AgentSettings := ⟨1, 10⟩

namespace RouterCommand

/-- The command has passed its expiry at `now`; rows without expiry never do. -/
def PastExpiry (c : RouterCommand) (now : ℤ) : Prop := ∃ x, c.expiresAt = some x ∧ x ≤ now

instance (c : RouterCommand) (now : ℤ) : Decidable (c.PastExpiry now) :=
  match h : c.expiresAt with
  | none => isFalse (by rintro ⟨x, hx, _⟩; rw [h] at hx; cases hx)
  | some x => decidable_of_iff (x ≤ now)
      ⟨fun hx => ⟨x, h, hx⟩, fun ⟨y, hy, hle⟩ => by rw [h] at hy; cases hy; exact hle⟩

theorem PastExpiry.mono {c : RouterCommand} {now now' : ℤ} (h : c.PastExpiry now)
    (hle : now ≤ now') : c.PastExpiry now' := by
  obtain ⟨x, hx, hxn⟩ := h
  exact ⟨x, hx, hxn.trans hle⟩

/-- The order of a poll: `ORDER BY priority ASC, created_at ASC`. -/
def Before (c d : RouterCommand) : Prop :=
  c.priority < d.priority ∨ (c.priority = d.priority ∧ c.createdAt ≤ d.createdAt)

instance : DecidableRel Before := fun c d =>
  inferInstanceAs (Decidable (c.priority < d.priority ∨
    (c.priority = d.priority ∧ c.createdAt ≤ d.createdAt)))

instance : Std.Total Before := ⟨fun c d => by unfold Before; omega⟩

instance : IsTrans RouterCommand Before := ⟨fun c d e h h' => by unfold Before at *; omega⟩

/-- The row update of `process_command_result`: the columns it assigns when the agent reports
`status` with `message`.  Any other status string changes nothing. -/
def applyResult (now : ℤ) (status message : String) (c : RouterCommand) : RouterCommand :=
  if status = "success" then
    { c with status := .success, completedAt := some now
             resultMessage := some (if message = "" then "OK" else message) }
  else if status = "failed" then
    let c := { c with retryCount := c.retryCount + 1, resultMessage := some message }
    if c.maxRetries ≤ c.retryCount then { c with status := .failed, completedAt := some now }
    else { c with status := .pending, sentAt := none }
  else c

/-- A report never touches the identity, the target, the payload or the origin of a command. -/
theorem applyResult_frame (now : ℤ) (status message : String) (c : RouterCommand) :
    (c.applyResult now status message).id = c.id ∧
    (c.applyResult now status message).routerId = c.routerId ∧
    (c.applyResult now status message).action = c.action ∧
    (c.applyResult now status message).priority = c.priority ∧
    (c.applyResult now status message).createdAt = c.createdAt ∧
    (c.applyResult now status message).expiresAt = c.expiresAt ∧
    (c.applyResult now status message).maxRetries = c.maxRetries ∧
    (c.applyResult now status message).source = c.source ∧
    (c.applyResult now status message).sourceId = c.sourceId := by
  unfold applyResult
  split
  · simp
  · split
    · simp only
      split <;> simp
    · simp

/-- Only the texts `success` and `failed` have an effect. -/
theorem applyResult_of_other {now : ℤ} {status message : String} (h : status ≠ "success")
    (h' : status ≠ "failed") (c : RouterCommand) : c.applyResult now status message = c := by
  simp [applyResult, h, h']

theorem success_of_applyResult {now : ℤ} {status message : String} {c : RouterCommand}
    (hs : status ≠ "success") (h : (c.applyResult now status message).status = .success) :
    c.status = .success := by
  rw [applyResult, if_neg hs] at h
  split at h
  · simp only at h
    split at h <;> cases h
  · exact h

/-- A report leaves its mark: it sets the completion time or counts one more failure. -/
theorem applyResult_marks {now : ℤ} {status message : String}
    (h : status = "success" ∨ status = "failed") (c : RouterCommand) :
    (c.applyResult now status message).completedAt = some now ∨
      c.retryCount < (c.applyResult now status message).retryCount := by
  rcases h with rfl | rfl
  · exact Or.inl (by simp [applyResult])
  · right
    simp only [applyResult, String.reduceEq, ite_false, ite_true]
    split <;> simp

theorem applyResult_keeps_mark {now : ℤ} {status message : String} {n : ℕ} {c : RouterCommand}
    (h : c.completedAt = some now ∨ n < c.retryCount) :
    (c.applyResult now status message).completedAt = some now ∨
      n < (c.applyResult now status message).retryCount := by
  unfold applyResult
  split
  · exact Or.inl rfl
  · split
    · simp only
      split
      · exact Or.inl rfl
      · rcases h with h | h
        · exact Or.inl h
        · exact Or.inr (Nat.lt_succ_of_lt h)
    · exact h

@[simp] theorem applyResult_id (now : ℤ) (status message : String) (c : RouterCommand) :
    (c.applyResult now status message).id = c.id := (c.applyResult_frame now status message).1

@[simp] theorem applyResult_routerId (now : ℤ) (status message : String) (c : RouterCommand) :
    (c.applyResult now status message).routerId = c.routerId :=
  (c.applyResult_frame now status message).2.1

end RouterCommand

open Rows RouterCommand

/-- `queue_command`: insert a `PENDING` row that expires `expires_in_seconds` after `now`, by
default after `agent_command_expiry_hours`. -/
def queueCommand (settings : AgentSettings) (now : ℤ) (id : String) (routerId : ℕ)
    (action : Action) (priority : ℤ) (source sourceId : Option String)
    (expiresInSeconds : Option ℤ) (q : List RouterCommand) : List RouterCommand :=
  if id ∈ q.map RouterCommand.id then q
  else q ++ [{
    id := id, routerId := routerId, action := action, priority := priority
    status := .pending, createdAt := now, sentAt := none, completedAt := none
    expiresAt := some (now + seconds (expiresInSeconds.getD (settings.commandExpiryHours * 3600)))
    resultMessage := none, retryCount := 0, maxRetries := 3
    source := source, sourceId := sourceId }]

/-- The rows that `get_pending_commands` selects, before ordering. -/
def pendingFor (routerId : ℕ) (now : ℤ) (q : List RouterCommand) : List RouterCommand :=
  q.filter (fun c => decide (c.routerId = routerId ∧ c.status = .pending ∧ ¬ c.PastExpiry now))

/-- `get_pending_commands`: pending and unexpired, by priority then age, at most `limit`. -/
def getPendingCommands (settings : AgentSettings) (routerId : ℕ) (now : ℤ)
    (limit : Option ℕ) (q : List RouterCommand) : List RouterCommand :=
  ((pendingFor routerId now q).insertionSort Before).take
    (limit.getD settings.maxCommandsPerPoll)

/-- `mark_commands_sent`: the bulk update after a poll, by identifier only. -/
def markCommandsSent (now : ℤ) (ids : List String) (q : List RouterCommand) :
    List RouterCommand :=
  updateWhere (fun c => decide (c.id ∈ ids)) (fun c => { c with status := .sent, sentAt := some now })
    q

/-- `cleanup_expired_commands`. -/
def cleanupExpiredCommands (now : ℤ) (q : List RouterCommand) : List RouterCommand :=
  updateWhere
    (fun c => decide ((c.status = .pending ∨ c.status = .sent) ∧ ∃ x ∈ c.expiresAt, x < now))
    (fun c => { c with status := .expired, completedAt := some now }) q

/-- `reset_stale_sent_commands`. -/
def resetStaleSentCommands (now : ℤ) (staleThresholdMinutes : ℤ) (q : List RouterCommand) :
    List RouterCommand :=
  updateWhere
    (fun c => decide (c.status = .sent ∧ (∃ t ∈ c.sentAt, t < now - minutes staleThresholdMinutes) ∧
      c.retryCount < c.maxRetries))
    (fun c => { c with status := .pending, sentAt := none }) q

/-! ### What the operations do to single rows -/

theorem mem_pendingFor {r : ℕ} {now : ℤ} {q : List RouterCommand} {c : RouterCommand} :
    c ∈ pendingFor r now q ↔
      c ∈ q ∧ c.routerId = r ∧ c.status = .pending ∧ ¬ c.PastExpiry now := by
  simp [pendingFor, List.mem_filter]

theorem mem_pendingFor_of_mem_getPendingCommands {s : AgentSettings} {r : ℕ} {now : ℤ}
    {limit : Option ℕ} {q : List RouterCommand} {c : RouterCommand}
    (h : c ∈ getPendingCommands s r now limit q) : c ∈ pendingFor r now q :=
  (List.mem_insertionSort _).mp (List.mem_of_mem_take h)

/-- A command that a poll leaves behind comes after every command it hands out. -/
theorem before_of_mem_getPendingCommands {s : AgentSettings} {r : ℕ} {now : ℤ}
    {limit : Option ℕ} {q : List RouterCommand} {c d : RouterCommand}
    (hc : c ∈ getPendingCommands s r now limit q) (hd : d ∈ pendingFor r now q)
    (hd' : d ∉ getPendingCommands s r now limit q) : c.Before d := by
  set n := limit.getD s.maxCommandsPerPoll with hn
  set l := (pendingFor r now q).insertionSort Before with hl
  have hsorted : l.Pairwise Before := List.pairwise_insertionSort _ _
  rw [← List.take_append_drop n l, List.pairwise_append] at hsorted
  have hdl : d ∈ l.take n ++ l.drop n := by
    rw [List.take_append_drop]
    exact (List.mem_insertionSort _).mpr hd
  rcases List.mem_append.mp hdl with hdt | hdd
  · exact absurd hdt hd'
  · exact hsorted.2.2 c hc d hdd

theorem getPendingCommands_pairwise (s : AgentSettings) (r : ℕ) (now : ℤ) (limit : Option ℕ)
    (q : List RouterCommand) : (getPendingCommands s r now limit q).Pairwise Before :=
  (List.pairwise_insertionSort Before _).sublist (List.take_sublist _ _)

/-- The row of a command that a poll has handed out. -/
def RouterCommand.markSent (now : ℤ) (c : RouterCommand) : RouterCommand :=
  { c with status := .sent, sentAt := some now }

/-- **Spec of a poll**: the table afterwards has the rows that were not handed out, as they were,
and the rows that were, marked as sent. -/
theorem mem_markCommandsSent_iff {now : ℤ} {batch q : List RouterCommand}
    (hq : Keyed RouterCommand.id q) (hb : ∀ c ∈ batch, c ∈ q) {c : RouterCommand} :
    c ∈ markCommandsSent now (batch.map RouterCommand.id) q ↔
      (c ∈ q ∧ c ∉ batch) ∨ ∃ b ∈ batch, b.markSent now = c := by
  have hid : ∀ c ∈ q, c.id ∈ batch.map RouterCommand.id ↔ c ∈ batch := by
    intro c hc
    constructor
    · intro h
      obtain ⟨b, hbb, hbid⟩ := List.mem_map.mp h
      exact hq.eq_of_key (hb b hbb) hc hbid ▸ hbb
    · exact List.mem_map_of_mem
  rw [markCommandsSent, mem_updateWhere]
  constructor
  · rintro ⟨c₀, hc₀, rfl⟩
    split
    · rename_i h
      exact Or.inr ⟨c₀, (hid c₀ hc₀).mp (of_decide_eq_true h), rfl⟩
    · rename_i h
      exact Or.inl ⟨hc₀, fun hcb => h (decide_eq_true ((hid c₀ hc₀).mpr hcb))⟩
  · rintro (⟨hc, hnot⟩ | ⟨b, hbb, rfl⟩)
    · exact ⟨c, hc, if_neg (fun h => hnot ((hid c hc).mp (of_decide_eq_true h)))⟩
    · exact ⟨b, hb b hbb, if_pos (decide_eq_true (List.mem_map_of_mem hbb))⟩

theorem keyed_getPendingCommands {s : AgentSettings} {r : ℕ} {now : ℤ} {limit : Option ℕ}
    {q : List RouterCommand} (h : Keyed RouterCommand.id q) :
    Keyed RouterCommand.id (getPendingCommands s r now limit q) := by
  have hfilter : Keyed RouterCommand.id (pendingFor r now q) :=
    h.sublist (List.filter_sublist.map RouterCommand.id)
  have hsort : Keyed RouterCommand.id ((pendingFor r now q).insertionSort Before) :=
    ((List.perm_insertionSort Before _).map RouterCommand.id).nodup_iff.mpr hfilter
  exact hsort.sublist ((List.take_sublist _ _).map RouterCommand.id)

theorem queueCommand_of_fresh (s : AgentSettings) (now : ℤ) {id : String} (r : ℕ) (a : Action)
    (p : ℤ) (src srcId : Option String) (x : Option ℤ) {q : List RouterCommand}
    (h : id ∉ q.map RouterCommand.id) : ∃ c, queueCommand s now id r a p src srcId x q = q ++ [c] ∧
      c.id = id ∧ c.routerId = r ∧ c.action = a ∧ c.priority = p ∧ c.status = .pending ∧
      c.expiresAt = some (now + seconds (x.getD (s.commandExpiryHours * 3600))) := by
  unfold queueCommand
  rw [if_neg h]
  exact ⟨_, rfl, rfl, rfl, rfl, rfl, rfl, rfl⟩

theorem mem_queueCommand {s : AgentSettings} {now : ℤ} {id : String} {r : ℕ} {a : Action}
    {p : ℤ} {src srcId : Option String} {x : Option ℤ} {q : List RouterCommand}
    {c : RouterCommand} (h : c ∈ q) : c ∈ queueCommand s now id r a p src srcId x q := by
  unfold queueCommand
  split
  · exact h
  · exact List.mem_append_left _ h

theorem of_mem_queueCommand {s : AgentSettings} {now : ℤ} {id : String} {r : ℕ} {a : Action}
    {p : ℤ} {src srcId : Option String} {x : Option ℤ} {q : List RouterCommand}
    {c : RouterCommand} (h : c ∈ queueCommand s now id r a p src srcId x q) :
    c ∈ q ∨ (c.id = id ∧ c.action = a ∧ c.status = .pending) := by
  unfold queueCommand at h
  split at h
  · exact Or.inl h
  · rcases List.mem_append.mp h with hq | hnew
    · exact Or.inl hq
    · rw [List.mem_singleton.mp hnew]
      exact Or.inr ⟨rfl, rfl, rfl⟩

theorem keyed_queueCommand {s : AgentSettings} {now : ℤ} {id : String} {r : ℕ} {a : Action}
    {p : ℤ} {src srcId : Option String} {x : Option ℤ} {q : List RouterCommand}
    (h : Keyed RouterCommand.id q) :
    Keyed RouterCommand.id (queueCommand s now id r a p src srcId x q) := by
  unfold queueCommand
  split
  · exact h
  · exact h.append_singleton ‹_›

theorem keyed_markCommandsSent {now : ℤ} {ids : List String} {q : List RouterCommand}
    (h : Keyed RouterCommand.id q) : Keyed RouterCommand.id (markCommandsSent now ids q) :=
  h.updateWhere (fun _ => rfl)

/-! ### The table only grows -/

/-- No command leaves the table, and none changes its router or its action. -/
def CommandsKept (q q' : List RouterCommand) : Prop :=
  ∀ c ∈ q, ∃ c' ∈ q', c'.id = c.id ∧ c'.routerId = c.routerId ∧ c'.action = c.action

theorem CommandsKept.of_mem {q q' : List RouterCommand} (h : ∀ c ∈ q, c ∈ q') : CommandsKept q q' :=
  fun c hc => ⟨c, h c hc, rfl, rfl, rfl⟩

theorem CommandsKept.refl (q : List RouterCommand) : CommandsKept q q := .of_mem (fun _ hc => hc)

theorem CommandsKept.trans {q q' q'' : List RouterCommand} (h : CommandsKept q q')
    (h' : CommandsKept q' q'') : CommandsKept q q'' := by
  intro c hc
  obtain ⟨c₁, hc₁, hid, hr, ha⟩ := h c hc
  obtain ⟨c₂, hc₂, hid', hr', ha'⟩ := h' c₁ hc₁
  exact ⟨c₂, hc₂, hid'.trans hid, hr'.trans hr, ha'.trans ha⟩

theorem CommandsKept.updateWhere {p : RouterCommand → Bool} {f : RouterCommand → RouterCommand}
    (hf : ∀ c, (f c).id = c.id ∧ (f c).routerId = c.routerId ∧ (f c).action = c.action)
    (q : List RouterCommand) : CommandsKept q (updateWhere p f q) := by
  intro c hc
  refine ⟨_, mem_updateWhere.mpr ⟨c, hc, rfl⟩, ?_⟩
  split
  · exact hf c
  · exact ⟨rfl, rfl, rfl⟩

end IspBilling
