import IspBilling.CliDelivery
import IspBilling.ProvisioningWorkflow

/-! # Rolling back a failed session

The direct execution records every command that it sends, with the command that undoes it
(`execute_command_with_retry`, `app/modules/provisioning/commands.py`), and gives the session up when
a critical one keeps failing.  Two functions then roll back.  `execute_rollback`
(`app/modules/provisioning/rollback.py`) runs after a failure, and asks `RouterService` for an API
that it does not have.  `_execute_rollback` (`app/modules/provisioning/service.py`) runs after a
cancellation, through the same client as the commands; but the commands that undo are written for the
console of the router, and address their object with `[find …]`.

A session is its generated commands and the router's answers, which may be any.
`rollback_restores_iff` says after which failures a rollback leaves the router as it was. -/

namespace IspBilling

open PythonText

/-! ### The session -/

/-- The attempts for one command, from one of them on. -/
def attemptCommand (reply : ℕ → CommandOutcome) (attempt : ℕ) : ℕ → CommandOutcome
  | 0 => reply attempt
  | retries + 1 =>
      match reply attempt with
      | .error => attemptCommand reply (attempt + 1) retries
      | outcome => outcome

/-- `execute_command_with_retry`, for the router's answer to each attempt. -/
def executeCommandWithRetry (reply : ℕ → CommandOutcome) : CommandOutcome :=
  attemptCommand reply 0 maxRetries

structure CommandRecord where
  command : GeneratedCommand
  outcome : CommandOutcome
deriving DecidableEq, Repr

namespace CommandRecord

variable (r : CommandRecord)

/-- The column `success`: an object that is there already counts. -/
def success : Bool := decide (r.outcome ≠ .error)

def created : Bool := decide (r.outcome = .ok) && (executeCommand r.command.command).isAdd

/-- The row of a record. -/
def row : WorkflowCommand where
  command := r.command.command
  order := r.command.order.getD 0
  critical := r.command.critical.getD true
  rollback := r.command.rollback
  recorded := true

end CommandRecord

/-- The records of a session, and whether a critical command failed; the answers are those to each
attempt for each command. -/
def runSession (replies : ℕ → ℕ → CommandOutcome) (i : ℕ) :
    List GeneratedCommand → List CommandRecord × Bool
  | [] => ([], false)
  | c :: cs =>
      let outcome := executeCommandWithRetry (replies i)
      if outcome = .error ∧ c.aborts directDefault = true then ([⟨c, outcome⟩], true)
      else
        let rest := runSession replies (i + 1) cs
        (⟨c, outcome⟩ :: rest.1, rest.2)

/-- The objects that a session created, in the order of execution. -/
def createdObjects (log : List CommandRecord) : List CommandRecord :=
  log.filter CommandRecord.created

def rollbackLines (log : List CommandRecord) : List String :=
  rollbackCommands ((log.filter CommandRecord.success).map CommandRecord.row)

/-! ### The rollbacks -/

/-- What a rollback did: the commands that it ran without an error, and `rollback_completed`. -/
structure RollbackOutcome where
  executed : List String
  completed : Bool
deriving DecidableEq, Repr

/-- The loop over the commands: errors are logged, and the flag is set at the end. -/
def sendRollbacks (execute : String → Bool) (lines : List String) : RollbackOutcome :=
  ⟨lines.filter execute, true⟩

/-- A rollback that raises is logged, and changes nothing. -/
def rollbackRaised : RollbackOutcome := ⟨[], false⟩

/-- `execute_rollback`, with the API of the router service, if it has one. -/
def executeRollback (api : Option (String → Bool)) (lines : List String) : RollbackOutcome :=
  match api with
  | some execute => sendRollbacks execute lines
  | none => rollbackRaised

/-- `RouterService` has neither `api_cls` nor `get_api`. -/
def routerServiceApi : Option (String → Bool) := none

/-- The rollback of `_handle_provisioning_error`. -/
def rollbackAfterFailure (config : ProvisioningConfig) (log : List CommandRecord) :
    RollbackOutcome :=
  if config.rollbackOnFailure.getD true then executeRollback routerServiceApi (rollbackLines log)
  else rollbackRaised

/-- `_execute_rollback`: the router may be out of reach. -/
def rollbackAfterCancel (accepts : ApiRequest → Bool) (connected : Bool)
    (log : List CommandRecord) : RollbackOutcome :=
  if connected then sendRollbacks (fun line => accepts (executeCommand line)) (rollbackLines log)
  else rollbackRaised

/-- What the documentation of RouterOS says of `remove`: it takes items, and no other parameter. -/
def RemovesItems (accepts : ApiRequest → Bool) : Prop :=
  ∀ path params, accepts (.operation ⟨path, "remove", params⟩) = true →
    ∀ p ∈ params, p.1 = "id" ∨ p.1 = ".id" ∨ p.1 = "numbers"

/-- **What a rollback owes**: what it undoes is what the session created, the last object first; its
commands can be executed, and it is complete only if all of them were. -/
structure Restores (accepts : ApiRequest → Bool) (log : List CommandRecord)
    (outcome : RollbackOutcome) : Prop where
  undone : outcome.executed.map some = (createdObjects log).reverse.map (·.command.rollback)
  executable : ∀ line ∈ rollbackLines log, accepts (executeCommand line) = true
  completed : outcome.completed = true → ∀ line ∈ rollbackLines log, line ∈ outcome.executed

/-- No critical command of the session has succeeded. -/
def NoCriticalDone (log : List CommandRecord) : Prop :=
  ∀ r ∈ log, r.command.aborts directDefault = true → r.outcome = .error

/-! ### What the rollbacks undo -/

section Rollbacks

variable {accepts : ApiRequest → Bool} {log : List CommandRecord}

theorem mem_rollbackLines {line : String} :
    line ∈ rollbackLines log ↔
      ∃ r ∈ log, r.success = true ∧ r.command.rollback = some line := by
  unfold rollbackLines rollbackCommands
  rw [List.mem_filterMap]
  constructor
  · rintro ⟨row, hrow, hline⟩
    rw [List.mem_insertionSort, List.mem_map] at hrow
    obtain ⟨r, hr, rfl⟩ := hrow
    obtain ⟨hlog, hsuccess⟩ := List.mem_filter.mp hr
    exact ⟨r, hlog, hsuccess, hline⟩
  · rintro ⟨r, hlog, hsuccess, hline⟩
    refine ⟨r.row, ?_, hline⟩
    rw [List.mem_insertionSort]
    exact List.mem_map_of_mem (List.mem_filter.mpr ⟨hlog, hsuccess⟩)

/-- After a failure nothing is ever undone. -/
theorem rollbackAfterFailure_eq (config : ProvisioningConfig) (log : List CommandRecord) :
    rollbackAfterFailure config log = rollbackRaised := by
  unfold rollbackAfterFailure
  split <;> rfl

theorem created_nil_of_restores {config : ProvisioningConfig}
    (h : Restores accepts log (rollbackAfterFailure config log)) : createdObjects log = [] := by
  have hundone := h.undone
  rw [rollbackAfterFailure_eq] at hundone
  simpa [rollbackRaised] using hundone.symm

/-- There is nothing to do when nothing was created and nothing is recorded for a rollback. -/
theorem restores_of_nil {outcome : RollbackOutcome} (hcreated : createdObjects log = [])
    (hlines : rollbackLines log = []) (hexecuted : outcome.executed = []) :
    Restores accepts log outcome where
  undone := by simp [hcreated, hexecuted]
  executable := by simp [hlines]
  completed := by simp [hlines]

end Rollbacks

/-! ### The run of a session -/

section Session

variable {replies : ℕ → ℕ → CommandOutcome}

theorem runSession_stop {c : GeneratedCommand} {i : ℕ}
    (herror : executeCommandWithRetry (replies i) = .error) (hc : c.aborts directDefault = true)
    (cs : List GeneratedCommand) : runSession replies i (c :: cs) = ([⟨c, .error⟩], true) := by
  simp [runSession, herror, hc]

theorem runSession_next {c : GeneratedCommand} {i : ℕ}
    (h : executeCommandWithRetry (replies i) = .error → c.aborts directDefault = false)
    (cs : List GeneratedCommand) :
    runSession replies i (c :: cs) =
      (⟨c, executeCommandWithRetry (replies i)⟩ :: (runSession replies (i + 1) cs).1,
        (runSession replies (i + 1) cs).2) := by
  have hgo : ¬ (executeCommandWithRetry (replies i) = .error ∧ c.aborts directDefault = true) := by
    rintro ⟨herror, hc⟩
    rw [h herror] at hc
    exact absurd hc (by decide)
  simp [runSession, hgo]

theorem runSession_append (replies : ℕ → ℕ → CommandOutcome) {opening : List GeneratedCommand}
    (h : ∀ c ∈ opening, c.aborts directDefault = false) (cs : List GeneratedCommand) (i : ℕ) :
    ∃ log, log.map CommandRecord.command = opening ∧
      runSession replies i (opening ++ cs) =
        (log ++ (runSession replies (i + opening.length) cs).1,
          (runSession replies (i + opening.length) cs).2) := by
  induction opening generalizing i with
  | nil => exact ⟨[], rfl, rfl⟩
  | cons c opening ih =>
      obtain ⟨log, hcommands, hrun⟩ := ih (fun d hd => h d (by simp [hd])) (i + 1)
      have hc : c.aborts directDefault = false := h c (by simp)
      refine ⟨⟨c, executeCommandWithRetry (replies i)⟩ :: log, by simp [hcommands], ?_⟩
      have hnext : i + (c :: opening).length = i + 1 + opening.length := by
        rw [List.length_cons]
        omega
      rw [List.cons_append, runSession_next (fun _ => hc), hrun, hnext, List.cons_append]

def openingCommands (config : ProvisioningConfig) (version : Option String) :
    List GeneratedCommand :=
  identityCommands config ++ ntpCommands config version ++ [clockCommand config version] ++
    cleanupCommands

/-- Nothing hangs on the failure of the command, there is nothing to undo, and it creates nothing. -/
def IsHarmless (c : GeneratedCommand) : Prop :=
  c.aborts directDefault = false ∧ c.rollback = none ∧ (executeCommand c.command).isAdd = false

instance : DecidablePred IsHarmless := fun c =>
  inferInstanceAs (Decidable (c.aborts directDefault = false ∧ c.rollback = none ∧
    (executeCommand c.command).isAdd = false))

theorem isHarmless_set (path : String) (c : Char) (rest : String) {command : String}
    (hcommand : command.toList = '/' :: path.toList ++ ' ' :: c :: rest.toList)
    (hset : (noSpace ('/' :: path.toList) && !isSpace c &&
      (splitMethod ('/' :: path.toList)).2 == "set") = true) (description : String) :
    IsHarmless (optionalCommand command description) := by
  rw [Bool.and_eq_true, Bool.and_eq_true, beq_iff_eq] at hset
  obtain ⟨⟨hword, hc⟩, hset⟩ := hset
  have hmethod : (parseCliCommand command).method = "set" :=
    (method_parseCliCommand hcommand (isSpace_of_noSpace hword) (by simpa using hc)).trans hset
  have hadd : (executeCommand command).isAdd = false := by
    refine isAdd_executeCommand ?_
    rw [hmethod]
    decide
  exact ⟨rfl, rfl, hadd⟩

/-- The client takes a guarded command for a query. -/
theorem isHarmless_guarded (body description : String) :
    IsHarmless (optionalCommand (guarded body) description) := by
  have hcommand : (guarded body).toList = ":do".toList ++ ' ' ::
      (("\x7b " ++ body ++ " \x7d on-error=\x7b").toList ++ ['\x7d']) := by
    simp [guarded]
  obtain ⟨params, hrequest⟩ := executeCommand_do hcommand List.getLast?_concat (by decide)
  have hadd : (executeCommand (guarded body)).isAdd = false := by
    rw [hrequest]
    rfl
  exact ⟨rfl, rfl, hadd⟩

theorem isHarmless_opening (config : ProvisioningConfig) (version : Option String) :
    ∀ c ∈ openingCommands config version, IsHarmless c := by
  intro c hc
  simp only [openingCommands, List.mem_append, List.mem_singleton] at hc
  rcases hc with ((hc | hc) | rfl) | hc
  · unfold identityCommands at hc
    split at hc
    · next identity _ =>
        rw [List.mem_singleton.mp hc]
        exact isHarmless_set "system/identity/set" 'n' ("ame=" ++ identity) (by simp)
          (by decide +kernel) _
    · simp at hc
  · unfold ntpCommands at hc
    split at hc
    · next primary others _ =>
        split at hc
        · rw [List.mem_singleton.mp hc]
          exact isHarmless_set "system/ntp/client/set" 'e'
            ("nabled=yes servers=" ++ ",".intercalate (primary :: others)) (by simp)
            (by decide +kernel) _
        · rw [List.mem_singleton.mp hc]
          exact isHarmless_set "system/ntp/client/set" 'e' ("nabled=yes primary-ntp=" ++ primary ++
            " secondary-ntp=" ++ others.head?.getD "time.google.com") (by simp) (by decide +kernel) _
    · simp at hc
  · unfold clockCommand
    dsimp only
    split
    · exact isHarmless_set "system/clock/set" 't'
        ("ime-zone-name=" ++ (given config.timezone).getD "Africa/Nairobi") (by simp)
        (by decide +kernel) _
    · exact isHarmless_set "system/clock/set" 't' "ime-zone-autodetect=yes" (by simp)
        (by decide +kernel) _
  · obtain ⟨cleanup, _, rfl⟩ := List.mem_map.mp hc
    exact isHarmless_guarded cleanup.2 cleanup.1

theorem directCommands_eq {lower : String → String} {settings : TreasurySettings}
    {config : ProvisioningConfig} {serviceType : ServiceType} {version : Option String}
    {commands : List GeneratedCommand}
    (h : directCommands lower settings config serviceType version = some commands) :
    ∃ rest, commands = openingCommands config ((given config.routerosVersion).or version) ++
      bridgeCommand config.bridge :: rest := by
  unfold directCommands generateConfigurationCommands at h
  simp only [Option.bind_eq_bind, Option.bind_eq_some_iff, Option.pure_def, Option.some.injEq] at h
  obtain ⟨_, ⟨cidr, _, net, _, rfl⟩, service, _, rfl⟩ := h
  exact ⟨_, by simp [openingCommands]; rfl⟩

/-- The records of a session: either the bridge fails, and the session ends with it, or the bridge is
recorded as done. -/
theorem runSession_cases (replies : ℕ → ℕ → CommandOutcome) {lower : String → String}
    {settings : TreasurySettings} {config : ProvisioningConfig} {serviceType : ServiceType}
    {version : Option String} {commands : List GeneratedCommand}
    (h : directCommands lower settings config serviceType version = some commands) :
    ∃ opened : List CommandRecord, (∀ r ∈ opened, IsHarmless r.command) ∧
      ((runSession replies 0 commands).1 = opened ++ [⟨bridgeCommand config.bridge, .error⟩] ∨
        ∃ outcome rest, outcome ≠ .error ∧
          (runSession replies 0 commands).1 =
            opened ++ ⟨bridgeCommand config.bridge, outcome⟩ :: rest) := by
  obtain ⟨rest, rfl⟩ := directCommands_eq h
  have hopening := isHarmless_opening config ((given config.routerosVersion).or version)
  obtain ⟨opened, hcommands, hrun⟩ := runSession_append replies
    (fun c hc => (hopening c hc).1) (bridgeCommand config.bridge :: rest) 0
  refine ⟨opened, ?_, ?_⟩
  · intro r hr
    refine hopening r.command ?_
    rw [← hcommands]
    exact List.mem_map_of_mem hr
  · rw [hrun]
    by_cases herror : executeCommandWithRetry (replies (0 + (openingCommands config
        ((given config.routerosVersion).or version)).length)) = .error
    · left
      rw [runSession_stop herror rfl]
    · right
      rw [runSession_next (fun h => absurd h herror)]
      exact ⟨_, _, herror, rfl⟩

end Session

/-! ### When a rollback restores the router -/

section Restoring

variable {accepts : ApiRequest → Bool} {replies : ℕ → ℕ → CommandOutcome}
  {lower : String → String} {settings : TreasurySettings} {config : ProvisioningConfig}
  {serviceType : ServiceType} {version : Option String} {commands : List GeneratedCommand}
  {log : List CommandRecord}

theorem created_of_isHarmless {r : CommandRecord} (h : IsHarmless r.command) :
    r.created = false := by
  simp [CommandRecord.created, h.2.2]

theorem nothing_of_bridge_error {opened : List CommandRecord}
    (hopened : ∀ r ∈ opened, IsHarmless r.command) (bridge : String) :
    createdObjects (opened ++ [⟨bridgeCommand bridge, .error⟩]) = [] ∧
      rollbackLines (opened ++ [⟨bridgeCommand bridge, .error⟩]) = [] := by
  constructor
  · unfold createdObjects
    rw [List.filter_eq_nil_iff]
    intro r hr
    rcases List.mem_append.mp hr with hr | hr
    · simp [created_of_isHarmless (hopened r hr)]
    · rw [List.mem_singleton.mp hr]
      simp [CommandRecord.created]
  · rw [List.eq_nil_iff_forall_not_mem]
    intro line hline
    obtain ⟨r, hr, hsuccess, hrollback⟩ := mem_rollbackLines.mp hline
    rcases List.mem_append.mp hr with hr | hr
    · rw [(hopened r hr).2.1] at hrollback
      exact absurd hrollback (by simp)
    · rw [List.mem_singleton.mp hr] at hsuccess
      simp [CommandRecord.success] at hsuccess

theorem noCriticalDone_of_bridge_error {opened : List CommandRecord}
    (hopened : ∀ r ∈ opened, IsHarmless r.command) (bridge : String) :
    NoCriticalDone (opened ++ [⟨bridgeCommand bridge, .error⟩]) := by
  intro r hr hcritical
  rcases List.mem_append.mp hr with hr | hr
  · rw [(hopened r hr).1] at hcritical
    exact absurd hcritical (by decide)
  · rw [List.mem_singleton.mp hr]

/-- The command that removes the bridge is refused: the client makes a `remove` by name of it. -/
theorem bridge_rollback_refused (h : RemovesItems accepts) {bridge : String}
    (hbridge : IsBare (bridge ++ "]").toList) :
    accepts (executeCommand ("/interface/bridge/remove [find name=" ++ bridge ++ "]")) = false := by
  have htext : "/interface/bridge/remove [find name=" ++ bridge ++ "]" =
      "/interface/bridge" ++ "/remove [find " ++ "name" ++ "=" ++ bridge ++ "]" := rfl
  have hpath : ∀ c ∈ "/interface/bridge".toList, isSpace c = false :=
    isSpace_of_noSpace (by decide +kernel)
  have hkey : IsKey "name".toList := isKey_of_all (by decide +kernel)
  have hrequest := executeCommand_find hpath (by decide) hkey (by decide) hbridge
  rw [← htext] at hrequest
  rw [hrequest, ← Bool.not_eq_true]
  intro haccepts
  rcases h _ _ haccepts _ (List.mem_singleton_self _) with hid | hid | hid
  · exact absurd hid (by simp)
  · exact absurd hid (by simp)
  · exact absurd hid (by simp)

/-- **When a rollback restores the router**: when the session has failed at its first critical
command, the bridge, so that there is nothing to roll back.  The converse is for bridge names of one
unquoted word; whatever the name, the rollback after a failure undoes no object. -/
theorem rollback_restores_iff (haccepts : RemovesItems accepts) (connected : Bool)
    (hcommands : directCommands lower settings config serviceType version = some commands)
    (hrun : runSession replies 0 commands = (log, true)) :
    (NoCriticalDone log →
      Restores accepts log (rollbackAfterFailure config log) ∧
        Restores accepts log (rollbackAfterCancel accepts connected log)) ∧
    (IsBare (config.bridge ++ "]").toList →
      Restores accepts log (rollbackAfterFailure config log) ∨
        Restores accepts log (rollbackAfterCancel accepts connected log) → NoCriticalDone log) ∧
    (Restores accepts log (rollbackAfterFailure config log) → createdObjects log = []) := by
  obtain ⟨opened, hopened, hlog⟩ := runSession_cases replies hcommands
  rw [hrun] at hlog
  rcases hlog with rfl | ⟨outcome, rest, houtcome, rfl⟩
  · obtain ⟨hcreated, hlines⟩ := nothing_of_bridge_error hopened config.bridge
    refine ⟨fun _ => ⟨?_, ?_⟩, fun _ _ => noCriticalDone_of_bridge_error hopened config.bridge,
      created_nil_of_restores⟩
    · refine restores_of_nil hcreated hlines ?_
      rw [rollbackAfterFailure_eq]
      rfl
    · refine restores_of_nil hcreated hlines ?_
      unfold rollbackAfterCancel
      split
      · simp [sendRollbacks, hlines]
      · rfl
  · -- The bridge is recorded as done, and the client cannot undo it.
    have hbridge : (⟨bridgeCommand config.bridge, outcome⟩ : CommandRecord) ∈
        opened ++ ⟨bridgeCommand config.bridge, outcome⟩ :: rest := by simp
    refine ⟨fun hnone => absurd (hnone _ hbridge rfl) houtcome, ?_, created_nil_of_restores⟩
    intro hbare hrestores
    have hline : "/interface/bridge/remove [find name=" ++ config.bridge ++ "]" ∈
        rollbackLines (opened ++ ⟨bridgeCommand config.bridge, outcome⟩ :: rest) := by
      refine mem_rollbackLines.mpr ⟨_, hbridge, ?_, rfl⟩
      exact decide_eq_true houtcome
    have hexecutable := hrestores.elim (fun h => h.executable _ hline) (fun h => h.executable _ hline)
    rw [bridge_rollback_refused haccepts hbare] at hexecutable
    exact absurd hexecutable (by decide)

end Restoring

/-- A router that removes items by their identifier. -/
def removesById (request : ApiRequest) : Bool :=
  match request with
  | .operation op => op.method != "remove" || op.params.all (fun p => p.1 == "id")
  | _ => false

theorem removesById_removesItems : RemovesItems removesById := by
  intro path params h p hp
  have hall : params.all (fun p => p.1 == "id") = true := by simpa [removesById] using h
  left
  simpa using List.all_eq_true.mp hall p hp

/-- The answers when one command of the session fails and the others succeed. -/
def failsAt (k : ℕ) (i _attempt : ℕ) : CommandOutcome := if i = k then .error else .ok

/-- The commands of a hotspot session with one port. -/
def samplePlan : Option (List GeneratedCommand) :=
  directCommands lowerAscii treasury (portsConfig ["ether2"]) .hotspot none

/-- The bridge is the first command that fails. -/
theorem rollback_restores_bridge :
    ∃ commands log, samplePlan = some commands ∧ runSession (failsAt 26) 0 commands = (log, true) ∧
      Restores removesById log (rollbackAfterFailure (portsConfig ["ether2"]) log) ∧
      Restores removesById log (rollbackAfterCancel removesById true log) := by
  obtain ⟨commands, hcommands⟩ := Option.isSome_iff_exists.mp
    (show samplePlan.isSome = true by decide +kernel)
  have hfailed : samplePlan.map (fun cs => (runSession (failsAt 26) 0 cs).2) = some true := by
    decide +kernel
  have hnone : ∀ cs ∈ samplePlan, NoCriticalDone (runSession (failsAt 26) 0 cs).1 := by
    unfold NoCriticalDone
    decide +kernel
  rw [hcommands, Option.map_some, Option.some.injEq] at hfailed
  have hrun : runSession (failsAt 26) 0 commands = ((runSession (failsAt 26) 0 commands).1, true) :=
    Prod.ext rfl hfailed
  exact ⟨commands, _, hcommands, hrun,
    (rollback_restores_iff removesById_removesItems true hcommands hrun).1 (hnone _ hcommands)⟩

/-- The bridge is created, and the port fails: the bridge stays. -/
theorem rollback_leaves_bridge :
    ∃ commands log, samplePlan = some commands ∧ runSession (failsAt 27) 0 commands = (log, true) ∧
      ∀ accepts, ¬ Restores accepts log (rollbackAfterFailure (portsConfig ["ether2"]) log) := by
  obtain ⟨commands, hcommands⟩ := Option.isSome_iff_exists.mp
    (show samplePlan.isSome = true by decide +kernel)
  have hfailed : samplePlan.map (fun cs => (runSession (failsAt 27) 0 cs).2) = some true := by
    decide +kernel
  have hcreated : ∀ cs ∈ samplePlan,
      createdObjects ((runSession (failsAt 27) 0 cs).1.drop 26) ≠ [] := by
    decide +kernel
  rw [hcommands, Option.map_some, Option.some.injEq] at hfailed
  refine ⟨commands, (runSession (failsAt 27) 0 commands).1, hcommands, Prod.ext rfl hfailed, ?_⟩
  intro accepts hrestores
  refine hcreated commands hcommands ?_
  have hnil := created_nil_of_restores hrestores
  unfold createdObjects at hnil ⊢
  rw [List.filter_eq_nil_iff] at hnil ⊢
  exact fun r hr => hnil r (List.mem_of_mem_drop hr)

end IspBilling
