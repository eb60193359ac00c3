import IspBilling.ProvisioningCallbacks
import IspBilling.Runs
import Mathlib.Data.List.Sort

/-! # Cancelling a provisioning workflow

`_execute_provisioning_workflow` (`app/modules/provisioning/service.py`) sends the generated commands
of a session to its router, one after the other; a recorded command is tried again a few times, and
a critical one that keeps failing ends the workflow.  Between its steps the workflow looks at the
session's status, but at the status in its own memory: no loop reads the row again.

`cancel_provisioning` runs in another request.  It commits `CANCELLED` and schedules the rollback,
which undoes the recorded commands in reverse order while the workflow goes on.

The system is one session: `cancel_stops_iff` says at which moments a cancellation stops what is
sent to the router. -/

namespace IspBilling

open Runs

structure WorkflowCommand where
  command : String
  order : ℕ
  critical : Bool
  rollback : Option String
  /-- Whether it goes through `execute_command_with_retry`.  Cleanup, template and security
  commands are sent directly, and their errors are only logged. -/
  recorded : Bool
deriving DecidableEq, Repr

/-- What a session is to do. -/
structure WorkflowPlan where
  cleanup : List WorkflowCommand
  configuration : List WorkflowCommand
  service : List WorkflowCommand
  security : List WorkflowCommand
  rollbackOnFailure : Bool
  rollbackOnCancel : Bool
deriving DecidableEq, Repr

/-- The commands in the order of the steps. -/
def WorkflowPlan.commands (plan : WorkflowPlan) : List WorkflowCommand :=
  plan.cleanup ++ plan.configuration ++ plan.service ++ plan.security

/-- The answer of the router. -/
inductive CommandOutcome where
  | ok
  /-- An error that counts as success. -/
  | alreadyExists
  | error
deriving DecidableEq, Repr

/-- A workflow under way: what is left to send, the attempts made for the first command, and the
session's status in its memory. -/
structure Workflow where
  remaining : List WorkflowCommand
  attempts : ℕ
  status : ProvisioningStatus
deriving DecidableEq, Repr

/-- What has been sent to the router. -/
inductive SentCommand where
  | config (command : String)
  | rollback (command : String)
deriving DecidableEq, Repr

def SentCommand.IsConfig : SentCommand → Prop
  | .config _ => True
  | .rollback _ => False

/-- One session and all that is under way for it. -/
structure WorkflowSystem where
  status : ProvisioningStatus
  /-- Calls of `start_provisioning` that have loaded a pending session. -/
  starts : ℕ
  workflows : List Workflow
  /-- Calls of `cancel_provisioning` that have loaded a live session, with `force`. -/
  cancels : List Bool
  /-- Scheduled rollbacks; `none` before the commands are read. -/
  rollbacks : List (Option (List String))
  /-- The recorded commands that succeeded. -/
  executed : List WorkflowCommand
  trace : List SentCommand
deriving DecidableEq, Repr

inductive WorkflowEvent where
  | loadStart
  /-- The first commit of `start_provisioning`; not `direct` when no workflow follows. -/
  | commitStart (direct : Bool)
  /-- A workflow sends its next command. -/
  | command (workflow : ℕ) (outcome : CommandOutcome)
  /-- A workflow fails elsewhere: no connection, or a verification. -/
  | raise (workflow : ℕ)
  | finish (workflow : ℕ)
  | loadCancel (force : Bool)
  | commitCancel (cancel : ℕ)
  | loadRollback (rollback : ℕ)
  | rollback (rollback : ℕ)
deriving DecidableEq, Repr

/-- `ProvisioningCommand.max_retries`. -/
def maxRetries : ℕ := 3

/-- The commands of a rollback: those that succeeded, in descending order. -/
def rollbackCommands (executed : List WorkflowCommand) : List String :=
  (executed.insertionSort (fun a b => b.order ≤ a.order)).filterMap WorkflowCommand.rollback

namespace WorkflowSystem

variable (plan : WorkflowPlan) (s : WorkflowSystem)

/-- `_handle_provisioning_error`: the workflow ends. -/
def failWorkflow (i : ℕ) : WorkflowSystem :=
  { s with
    status := .failed
    workflows := s.workflows.set i ⟨[], 0, .failed⟩
    rollbacks := if plan.rollbackOnFailure then s.rollbacks ++ [none] else s.rollbacks }

/-- A workflow sends the first of its commands. -/
def sendCommand (i : ℕ) (c : WorkflowCommand) (rest : List WorkflowCommand) (wf : Workflow)
    (outcome : CommandOutcome) : WorkflowSystem :=
  let t := { s with trace := s.trace ++ [SentCommand.config c.command] }
  let next := { t with workflows := t.workflows.set i ⟨rest, 0, wf.status⟩ }
  match outcome with
  | .ok => { next with executed := if c.recorded then s.executed ++ [c] else s.executed }
  | .alreadyExists => { next with executed := if c.recorded then s.executed ++ [c] else s.executed }
  | .error =>
      if c.recorded = false then next
      else if wf.attempts < maxRetries then
        { t with workflows := t.workflows.set i ⟨c :: rest, wf.attempts + 1, wf.status⟩ }
      else if c.critical then t.failWorkflow plan i
      else next

/-- The commit of `cancel_provisioning`. -/
def commitCancel (i : ℕ) (force : Bool) : WorkflowSystem :=
  { s with
    status := .cancelled
    cancels := s.cancels.eraseIdx i
    rollbacks := if force || plan.rollbackOnCancel then s.rollbacks ++ [none] else s.rollbacks }

def step (s : WorkflowSystem) : WorkflowEvent → WorkflowSystem
  | .loadStart => if s.status = .pending then { s with starts := s.starts + 1 } else s
  | .commitStart direct =>
      if s.starts = 0 then s
      else
        { s with
          status := .inProgress
          starts := s.starts - 1
          workflows :=
            if direct then s.workflows ++ [⟨plan.commands, 0, .inProgress⟩] else s.workflows }
  | .command i outcome =>
      match s.workflows[i]? with
      | some wf =>
          match wf.remaining with
          | c :: rest => s.sendCommand plan i c rest wf outcome
          | [] => s
      | none => s
  | .raise i =>
      match s.workflows[i]? with
      | some wf => if wf.status = .failed then s else s.failWorkflow plan i
      | none => s
  | .finish i =>
      match s.workflows[i]? with
      | some wf =>
          if wf.remaining = [] ∧ wf.status = .inProgress then
            { s with
              status := .completed
              workflows := s.workflows.set i { wf with status := .completed } }
          else s
      | none => s
  | .loadCancel force => if s.status.Live then { s with cancels := s.cancels ++ [force] } else s
  | .commitCancel i =>
      match s.cancels[i]? with
      | some force => s.commitCancel plan i force
      | none => s
  | .loadRollback i =>
      match s.rollbacks[i]? with
      | some none => { s with rollbacks := s.rollbacks.set i (some (rollbackCommands s.executed)) }
      | _ => s
  | .rollback i =>
      match s.rollbacks[i]? with
      | some (some (c :: rest)) =>
          { s with
            rollbacks := s.rollbacks.set i (some rest)
            trace := s.trace ++ [.rollback c] }
      | _ => s

/-! ### Stopping -/

/-- **What cancelling means**: whatever happens after the commit, no configuration command is sent
any more, and none follows a rollback command. -/
def CancelStops (i : ℕ) : Prop :=
  ∀ es, let t := exec (step plan) s (.commitCancel i :: es)
    (∀ c ∈ t.trace.drop s.trace.length, ¬ c.IsConfig) ∧
      ∀ i j a b, s.trace.length ≤ i → i < j → t.trace[i]? = some (.rollback a) →
        t.trace[j]? ≠ some (.config b)

/-- Nothing is left to send: every workflow is through with its commands, and none is about to
start. -/
def Quiescent : Prop :=
  (plan.commands = [] ∨ s.starts = 0) ∧ ∀ wf ∈ s.workflows, wf.remaining = []

instance : Decidable (s.Quiescent plan) :=
  inferInstanceAs (Decidable ((plan.commands = [] ∨ s.starts = 0) ∧
    ∀ wf ∈ s.workflows, wf.remaining = []))

/-- The session is not pending, so that it cannot be started, and nothing is left to send. -/
def Stopped : Prop := s.status ≠ .pending ∧ s.Quiescent plan

/-- The session is stopped, and no configuration command has been sent since. -/
def QuietSince (trace : List SentCommand) : Prop :=
  s.Stopped plan ∧ ∃ sent, s.trace = trace ++ sent ∧ ∀ c ∈ sent, ¬ c.IsConfig

variable {plan} {s}

theorem Quiescent.set {i : ℕ} {wf : Workflow} (h : s.Quiescent plan) (hwf : wf.remaining = []) :
    ∀ x ∈ s.workflows.set i wf, x.remaining = [] := by
  intro x hx
  rcases List.mem_or_eq_of_mem_set hx with hx | rfl
  · exact h.2 x hx
  · exact hwf

theorem Stopped.failWorkflow (h : s.Stopped plan) (i : ℕ) : (s.failWorkflow plan i).Stopped plan :=
  ⟨by simp [WorkflowSystem.failWorkflow], h.2.1, h.2.set rfl⟩

theorem Stopped.commitStart (h : s.Stopped plan) (direct : Bool) :
    (s.step plan (.commitStart direct)).Stopped plan := by
  simp only [WorkflowSystem.step]
  split
  · exact h
  · next hstarts =>
      have hempty : plan.commands = [] := h.2.1.resolve_right hstarts
      refine ⟨by simp, Or.inl hempty, ?_⟩
      intro wf hwf
      split at hwf
      · rcases List.mem_append.mp hwf with hwf | hwf
        · exact h.2.2 wf hwf
        · rw [List.mem_singleton.mp hwf]
          exact hempty
      · exact h.2.2 wf hwf

theorem Stopped.step (h : s.Stopped plan) (e : WorkflowEvent) :
    (s.step plan e).Stopped plan ∧
      ((s.step plan e).trace = s.trace ∨
        ∃ c, (s.step plan e).trace = s.trace ++ [.rollback c]) := by
  obtain ⟨hstatus, hplan, hworkflows⟩ := h
  have hstay : s.Stopped plan := ⟨hstatus, hplan, hworkflows⟩
  cases e with
  | loadStart =>
      simp only [WorkflowSystem.step]
      rw [if_neg hstatus]
      exact ⟨hstay, Or.inl rfl⟩
  | commitStart direct =>
      refine ⟨hstay.commitStart direct, Or.inl ?_⟩
      simp only [WorkflowSystem.step]
      split <;> rfl
  | command i outcome =>
      simp only [WorkflowSystem.step]
      split
      · next wf hwf =>
          rw [hworkflows wf (List.mem_of_getElem? hwf)]
          exact ⟨hstay, Or.inl rfl⟩
      · exact ⟨hstay, Or.inl rfl⟩
  | raise i =>
      simp only [WorkflowSystem.step]
      split
      · split
        · exact ⟨hstay, Or.inl rfl⟩
        · exact ⟨hstay.failWorkflow i, Or.inl rfl⟩
      · exact ⟨hstay, Or.inl rfl⟩
  | finish i =>
      simp only [WorkflowSystem.step]
      split
      · split
        · next hdone => exact ⟨⟨by simp, hplan, hstay.2.set hdone.1⟩, Or.inl rfl⟩
        · exact ⟨hstay, Or.inl rfl⟩
      · exact ⟨hstay, Or.inl rfl⟩
  | loadCancel force =>
      simp only [WorkflowSystem.step]
      split
      · exact ⟨⟨hstatus, hplan, hworkflows⟩, Or.inl rfl⟩
      · exact ⟨hstay, Or.inl rfl⟩
  | commitCancel i =>
      simp only [WorkflowSystem.step]
      split
      · exact ⟨⟨by simp [WorkflowSystem.commitCancel], hplan, hworkflows⟩, Or.inl rfl⟩
      · exact ⟨hstay, Or.inl rfl⟩
  | loadRollback i =>
      simp only [WorkflowSystem.step]
      split
      · exact ⟨⟨hstatus, hplan, hworkflows⟩, Or.inl rfl⟩
      · exact ⟨hstay, Or.inl rfl⟩
  | rollback i =>
      simp only [WorkflowSystem.step]
      split
      · exact ⟨⟨hstatus, hplan, hworkflows⟩, Or.inr ⟨_, rfl⟩⟩
      · exact ⟨hstay, Or.inl rfl⟩

theorem QuietSince.step {trace : List SentCommand} (h : s.QuietSince plan trace)
    (e : WorkflowEvent) : (s.step plan e).QuietSince plan trace := by
  obtain ⟨hs, sent, htrace, hsent⟩ := h
  obtain ⟨hstopped, hsame | ⟨c, hc⟩⟩ := hs.step e
  · exact ⟨hstopped, sent, hsame.trans htrace, hsent⟩
  · refine ⟨hstopped, sent ++ [.rollback c], by rw [hc, htrace, List.append_assoc], ?_⟩
    intro d hd
    rcases List.mem_append.mp hd with hd | hd
    · exact hsent d hd
    · rw [List.mem_singleton.mp hd]
      exact id

/-- When nothing is left to send, only rollback commands are sent from then on. -/
theorem Stopped.exec (h : s.Stopped plan) (es : List WorkflowEvent) :
    (exec (WorkflowSystem.step plan) s es).QuietSince plan s.trace :=
  exec_of_invariant (I := fun t => QuietSince plan t s.trace) (fun _ e ht => ht.step e)
    ⟨h, [], by simp, by simp⟩ es

theorem step_commitCancel (plan : WorkflowPlan) {i : ℕ} (hi : i < s.cancels.length) :
    ∃ force, s.step plan (.commitCancel i) = s.commitCancel plan i force := by
  refine ⟨s.cancels[i], ?_⟩
  simp [step, List.getElem?_eq_getElem hi]

theorem trace_command {i : ℕ} {wf : Workflow} (hwf : s.workflows[i]? = some wf)
    {c : WorkflowCommand} {rest : List WorkflowCommand} (hrest : wf.remaining = c :: rest) :
    (s.step plan (.command i .ok)).trace = s.trace ++ [.config c.command] := by
  simp [step, hwf, hrest, sendCommand]

theorem exists_config_of_not_quiescent (i : ℕ) (force : Bool) (h : ¬ s.Quiescent plan) :
    ∃ es c, (exec (step plan) (s.commitCancel plan i force) es).trace = s.trace ++ [.config c] := by
  by_cases hworkflows : ∀ wf ∈ s.workflows, wf.remaining = []
  · -- then a start is under way: it commits and sends the first command
    have hstart : ¬ (plan.commands = [] ∨ s.starts = 0) := fun hor => h ⟨hor, hworkflows⟩
    obtain ⟨hplan, hstarts⟩ := not_or.mp hstart
    obtain ⟨c, rest, hcommands⟩ := List.exists_cons_of_ne_nil hplan
    refine ⟨[.commitStart true, .command s.workflows.length .ok], c.command, ?_⟩
    have hnew : ((s.commitCancel plan i force).step plan (.commitStart true)).workflows[
        s.workflows.length]? = some ⟨plan.commands, 0, .inProgress⟩ := by
      simp [step, commitCancel, hstarts]
    rw [exec_cons, exec_cons, exec_nil, trace_command hnew hcommands]
    simp [step, commitCancel, hstarts]
  · push Not at hworkflows
    obtain ⟨wf, hmem, hne⟩ := hworkflows
    obtain ⟨j, hwf⟩ := List.mem_iff_getElem?.mp hmem
    obtain ⟨c, rest, hrest⟩ := List.exists_cons_of_ne_nil hne
    refine ⟨[.command j .ok], c.command, ?_⟩
    exact trace_command (s := s.commitCancel plan i force) hwf hrest

/-- **A cancellation stops the workflow exactly if there is nothing left to stop**: at its commit
every workflow of the session has sent its last command and no start is under way. -/
theorem cancel_stops_iff (plan : WorkflowPlan) (s : WorkflowSystem) (i : ℕ)
    (hi : i < s.cancels.length) : s.CancelStops plan i ↔ s.Quiescent plan := by
  obtain ⟨force, hcommit⟩ := step_commitCancel plan hi
  unfold CancelStops
  simp only [exec_cons, hcommit]
  constructor
  · intro h
    by_contra hnot
    obtain ⟨es, c, htrace⟩ := exists_config_of_not_quiescent i force hnot
    have hnone := (h es).1 (.config c)
    rw [htrace] at hnone
    exact hnone (by simp) trivial
  · intro h es
    have hstopped : (s.commitCancel plan i force).Stopped plan := ⟨by simp [commitCancel], h⟩
    obtain ⟨-, sent, htrace, hsent⟩ := hstopped.exec es
    have hdrop : (Runs.exec (step plan) (s.commitCancel plan i force) es).trace = s.trace ++ sent :=
      htrace
    simp only [hdrop, List.drop_left]
    refine ⟨hsent, ?_⟩
    intro k l a b hk hkl _ hl
    rw [List.getElem?_append_right (hk.trans hkl.le)] at hl
    exact hsent _ (List.mem_of_getElem? hl) trivial

/-- A session that is cancelled before it has been started. -/
theorem cancel_stops_pending :
    (⟨.pending, 0, [], [false], [], [], []⟩ : WorkflowSystem).CancelStops
      ⟨[], [⟨"/interface/bridge/add name=bridge", 1, true, none, true⟩], [], [], true, true⟩ 0 :=
  (cancel_stops_iff _ _ 0 (by decide)).mpr (by decide)

def bridgeAndPool : WorkflowPlan where
  cleanup := []
  configuration := [⟨"/interface/bridge/add name=bridge", 1, true,
      some "/interface/bridge/remove bridge", true⟩,
    ⟨"/ip/pool/add name=pool", 2, true, some "/ip/pool/remove pool", true⟩]
  service := []
  security := []
  rollbackOnFailure := true
  rollbackOnCancel := true

/-- A session that is cancelled after the first of its two commands: the rollback removes the
bridge, then the workflow adds the pool. -/
theorem cancel_does_not_stop :
    ¬ (exec (step bridgeAndPool) ⟨.pending, 0, [], [], [], [], []⟩ [.loadStart, .commitStart true,
      .command 0 .ok, .loadCancel false]).CancelStops bridgeAndPool 0 := by
  intro h
  have hlast := (h [.loadRollback 0, .rollback 0, .command 0 .ok]).2 1 2
    "/interface/bridge/remove bridge" "/ip/pool/add name=pool" (by decide) (by decide) (by decide)
  exact hlast (by decide)

end WorkflowSystem

end IspBilling
