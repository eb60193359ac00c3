import IspBilling.ProvisioningCallbacks
import IspBilling.Runs

/-! # The life of a provisioning session

A session is `PENDING`, then `IN_PROGRESS`, and ends `COMPLETED`, `FAILED`, `CANCELLED` or `TIMEOUT`;
a failed one may be retried.  Its status is written from many places: `start_provisioning` and the
workflow behind it (`app/modules/provisioning/service.py`), the Celery task that dispatches it, the
timeout monitor (`app/tasks/provisioning_tasks.py`), cancel, retry, and the callbacks of the router
(`app/api/v1/provisioning`).

Each writer loads the session, looks at the status it has loaded (some do not look at all), and
commits later; no row is locked and no status is read again.  So a writer is a task in flight with
the status it has loaded, and a run interleaves the tasks in any order.  A commit sends only what
differs from the loaded value.

`status_final_iff` says when final states stay final: four writers check nothing (`Unguarded`) and must
come before the session has ended, and the check of the others must still be true when they commit.
`single_live_always` says when a router has at most one live session: creations of one router do not
overlap, and the writers that open a session again, which look for no other one, find the router free. -/

namespace IspBilling

open Rows Runs

/-! ### Writers -/

/-- The places that write the status of a session. -/
inductive StatusWriter where
  /-- `start_provisioning`, its first commit. -/
  | start
  /-- `cancel_provisioning`, and the cancellation of all live sessions of a router. -/
  | cancel
  /-- `monitor_provisioning_sessions`, for a session past its timeout. -/
  | timeout
  /-- `provisioning_script_complete`. -/
  | scriptReport (status : String)
  /-- `provisioning_notify`, with the session in the URL. -/
  | notify
  /-- `provisioning_notify`, with a session found by its router. -/
  | notifyByRouter
  /-- `process_scheduled_provisioning`, when the dispatch raises. -/
  | scheduleFailed
  /-- `retry_provisioning`. -/
  | retry
  /-- `_mark_failed` of `execute_provisioning_workflow`. -/
  | markFailed
  /-- `start_provisioning`, on a device check-in. -/
  | checkIn
  /-- `start_provisioning`, for a private address without agent. -/
  | natGuard
  /-- `_execute_provisioning_workflow`, at its end. -/
  | workflowDone
  /-- `_handle_provisioning_error`. -/
  | workflowError
deriving DecidableEq, Repr

namespace StatusWriter

/-- The statuses that a writer lets pass, among those it has loaded. -/
def Admits : StatusWriter → ProvisioningStatus → Prop
  | .start, p => p = .pending
  | .cancel, p => p.Live
  | .timeout, p => p = .inProgress
  | .scriptReport _, _ => True
  | .notify, _ => True
  | .notifyByRouter, p => p.Live
  | .scheduleFailed, p => p = .pending
  | .retry, p => p = .failed
  | .markFailed, _ => True
  | .checkIn, p => p = .inProgress
  | .natGuard, p => p = .inProgress
  | .workflowDone, p => p = .inProgress
  | .workflowError, _ => True

instance (w : StatusWriter) (p : ProvisioningStatus) : Decidable (w.Admits p) :=
  match w with
  | .start => inferInstanceAs (Decidable (p = .pending))
  | .cancel => inferInstanceAs (Decidable p.Live)
  | .timeout => inferInstanceAs (Decidable (p = .inProgress))
  | .scriptReport _ => instDecidableTrue
  | .notify => instDecidableTrue
  | .notifyByRouter => inferInstanceAs (Decidable p.Live)
  | .scheduleFailed => inferInstanceAs (Decidable (p = .pending))
  | .retry => inferInstanceAs (Decidable (p = .failed))
  | .markFailed => instDecidableTrue
  | .checkIn => inferInstanceAs (Decidable (p = .inProgress))
  | .natGuard => inferInstanceAs (Decidable (p = .inProgress))
  | .workflowDone => inferInstanceAs (Decidable (p = .inProgress))
  | .workflowError => instDecidableTrue

def result : StatusWriter → ProvisioningStatus
  | .start => .inProgress
  | .cancel => .cancelled
  | .timeout => .timeout
  | .scriptReport status => if status = "failed" then .failed else .completed
  | .notify => .completed
  | .notifyByRouter => .completed
  | .scheduleFailed => .failed
  | .retry => .pending
  | .markFailed => .failed
  | .checkIn => .completed
  | .natGuard => .failed
  | .workflowDone => .completed
  | .workflowError => .failed

/-- The writers that load the session themselves; the others go on with a session in memory. -/
def Loads (w : StatusWriter) : Prop :=
  w ∉ [.markFailed, .checkIn, .natGuard, .workflowDone, .workflowError]

instance (w : StatusWriter) : Decidable w.Loads :=
  inferInstanceAs (Decidable (w ∉ [.markFailed, .checkIn, .natGuard, .workflowDone,
    .workflowError]))

/-- The writers of a session that has been started. -/
def Continues (w : StatusWriter) : Prop :=
  w ∈ [.checkIn, .natGuard, .workflowDone, .workflowError]

instance (w : StatusWriter) : Decidable w.Continues :=
  inferInstanceAs (Decidable (w ∈ [.checkIn, .natGuard, .workflowDone, .workflowError]))

/-- The writers that look at no status. -/
def Unguarded (w : StatusWriter) : Prop :=
  w = .notify ∨ w = .markFailed ∨ w = .workflowError ∨ ∃ status, w = .scriptReport status

instance : DecidablePred Unguarded
  | .scriptReport status => isTrue (Or.inr (Or.inr (Or.inr ⟨status, rfl⟩)))
  | .notify => isTrue (Or.inl rfl)
  | .markFailed => isTrue (Or.inr (Or.inl rfl))
  | .workflowError => isTrue (Or.inr (Or.inr (Or.inl rfl)))
  | .start | .cancel | .timeout | .notifyByRouter | .scheduleFailed | .retry | .checkIn | .natGuard |
    .workflowDone => isFalse (by simp [Unguarded])

theorem Admits.open_of_guarded {w : StatusWriter} {p : ProvisioningStatus} (h : w.Admits p)
    (hw : ¬ w.Unguarded) : p.Live ∨ p = .failed ∧ w = .retry := by
  cases w with
  | start => exact Or.inl (Or.inl h)
  | cancel => exact Or.inl h
  | timeout => exact Or.inl (Or.inr h)
  | scriptReport status => exact absurd (Or.inr (Or.inr (Or.inr ⟨status, rfl⟩))) hw
  | notify => exact absurd (Or.inl rfl) hw
  | notifyByRouter => exact Or.inl h
  | scheduleFailed => exact Or.inl (Or.inl h)
  | retry => exact Or.inr ⟨h, rfl⟩
  | markFailed => exact absurd (Or.inr (Or.inl rfl)) hw
  | checkIn => exact Or.inl (Or.inr h)
  | natGuard => exact Or.inl (Or.inr h)
  | workflowDone => exact Or.inl (Or.inr h)
  | workflowError => exact absurd (Or.inr (Or.inr (Or.inl rfl))) hw

end StatusWriter

/-! ### The system -/

/-- Where a task stands. -/
inductive TaskPhase where
  /-- It has loaded the session and will commit. -/
  | writing (w : StatusWriter)
  /-- `start_provisioning` after its first commit, or the workflow. -/
  | running
  /-- The Celery task whose session was not started. -/
  | failing
  | ended
deriving DecidableEq, Repr

/-- A task in flight, with the session's status as it has it in memory. -/
structure SessionTask where
  /-- The position of the session. -/
  session : ℕ
  loaded : ProvisioningStatus
  phase : TaskPhase
  /-- Whether it is the Celery task. -/
  dispatched : Bool
deriving DecidableEq, Repr

/-- A task after it has committed: only `start_provisioning` goes on. -/
def SessionTask.committed (t : SessionTask) : SessionTask :=
  match t.phase with
  | .writing w =>
      { t with
        loaded := w.result
        phase := if w = .start then .running else .ended }
  | _ => t

/-- A started task after it has written: a consumed check-in ends it, and so does the NAT guard,
after which the Celery task has failed. -/
def SessionTask.advanced (t : SessionTask) (w : StatusWriter) : SessionTask :=
  if t.phase = .running ∧ w.Continues ∧ w.Admits t.loaded then
    { t with
      loaded := w.result
      phase :=
        if w = .checkIn then .ended
        else if w = .natGuard then (if t.dispatched then .failing else .ended)
        else .running }
  else t

/-- The task has passed the check of its writer. -/
def SessionTask.Checked (t : SessionTask) : Prop :=
  match t.phase with
  | .writing w => w.Admits t.loaded
  | .running | .failing | .ended => True

/-- A session: its router and its status. -/
structure SessionRow where
  routerId : ℕ
  status : ProvisioningStatus
deriving DecidableEq, Repr

/-- The sessions, the tasks in flight, and the routers for which `create_provisioning_session` has
found no active session and is about to insert one. -/
structure SessionSystem where
  sessions : List SessionRow
  tasks : List SessionTask
  creations : List ℕ
deriving DecidableEq, Repr

inductive SessionEvent where
  /-- A writer loads a session. -/
  | load (w : StatusWriter) (session : ℕ)
  /-- `execute_provisioning_workflow` loads a session. -/
  | dispatch (session : ℕ)
  /-- A task commits. -/
  | commit (task : ℕ)
  /-- A started task writes and commits. -/
  | advance (task : ℕ) (w : StatusWriter)
  /-- `start_provisioning` fails before its first commit. -/
  | fail (task : ℕ)
  /-- `_mark_failed` loads the session. -/
  | mark (task : ℕ)
  /-- `create_provisioning_session` looks for an active session. -/
  | create (routerId : ℕ)
  /-- `create_provisioning_session` inserts. -/
  | insert (creation : ℕ)
deriving DecidableEq, Repr

namespace SessionSystem

def statusOf (s : SessionSystem) (session : ℕ) : Option ProvisioningStatus :=
  (s.sessions[session]?).map SessionRow.status

def liveSessions (s : SessionSystem) (routerId : ℕ) : List SessionRow :=
  s.sessions.filter (fun x => decide (x.routerId = routerId ∧ x.status.Live))

/-- `_get_active_session`; `none` when it raises. -/
def activeSession (s : SessionSystem) (routerId : ℕ) : Option (Option SessionRow) :=
  oneOrNone (s.liveSessions routerId)

/-- The status that an event writes, if that differs from what its task has loaded: the session and
the writer. -/
def writeOf (s : SessionSystem) : SessionEvent → Option (ℕ × StatusWriter)
  | .commit i =>
      (s.tasks[i]?).bind fun t =>
        match t.phase with
        | .writing w => if t.loaded = w.result then none else some (t.session, w)
        | _ => none
  | .advance i w =>
      (s.tasks[i]?).bind fun t =>
        if t.phase = .running ∧ w.Continues ∧ w.Admits t.loaded ∧ t.loaded ≠ w.result then
          some (t.session, w)
        else none
  | _ => none

/-- The router for which an event inserts a session. -/
def insertOf (s : SessionSystem) : SessionEvent → Option ℕ
  | .insert i => s.creations[i]?
  | _ => none

def nextSessions (s : SessionSystem) (e : SessionEvent) : List SessionRow :=
  match s.writeOf e with
  | some (k, w) => s.sessions.modify k (fun x => { x with status := w.result })
  | none =>
      match s.insertOf e with
      | some routerId => s.sessions ++ [⟨routerId, .pending⟩]
      | none => s.sessions

def nextTasks (s : SessionSystem) : SessionEvent → List SessionTask
  | .load w k =>
      match s.statusOf k with
      | some p =>
          if w.Loads ∧ w.Admits p then s.tasks ++ [⟨k, p, .writing w, false⟩] else s.tasks
      | none => s.tasks
  | .dispatch k =>
      match s.statusOf k with
      | some p =>
          s.tasks ++ [⟨k, p, if p = .pending then .writing .start else .failing, true⟩]
      | none => s.tasks
  | .commit i => s.tasks.modify i SessionTask.committed
  | .advance i w => s.tasks.modify i (fun t => t.advanced w)
  | .fail i =>
      s.tasks.modify i fun t =>
        if t.phase = .writing .start then
          { t with phase := if t.dispatched then .failing else .ended }
        else t
  | .mark i =>
      s.tasks.modify i fun t =>
        match t.phase, s.statusOf t.session with
        | .failing, some p => { t with loaded := p, phase := .writing .markFailed }
        | _, _ => t
  | .create _ => s.tasks
  | .insert _ => s.tasks

def nextCreations (s : SessionSystem) : SessionEvent → List ℕ
  | .create routerId =>
      if s.activeSession routerId = some none then s.creations ++ [routerId] else s.creations
  | .insert i => s.creations.eraseIdx i
  | _ => s.creations

def step (s : SessionSystem) (e : SessionEvent) : SessionSystem where
  sessions := s.nextSessions e
  tasks := s.nextTasks e
  creations := s.nextCreations e

theorem statusOf_step {s : SessionSystem} {k : ℕ} {p : ProvisioningStatus}
    (h : s.statusOf k = some p) (e : SessionEvent) :
    (s.step e).statusOf k =
      match s.writeOf e with
      | some (j, w) => if j = k then some w.result else some p
      | none => some p := by
  obtain ⟨x, hx, rfl⟩ := Option.map_eq_some_iff.mp h
  have hlt : k < s.sessions.length := (List.getElem?_eq_some_iff.mp hx).1
  simp only [step, nextSessions, statusOf]
  cases s.writeOf e with
  | none =>
      cases s.insertOf e with
      | none => simp [hx]
      | some routerId => simp [List.getElem?_append_left hlt, hx]
  | some write =>
      obtain ⟨j, w⟩ := write
      by_cases hj : j = k
      · simp [hj, hx]
      · simp [hj, hx]

/-! ### Final states -/

end SessionSystem

/-- The states that a session never leaves. -/
def ProvisioningStatus.Final (p : ProvisioningStatus) : Prop :=
  p = .completed ∨ p = .cancelled ∨ p = .timeout

theorem ProvisioningStatus.cases (p : ProvisioningStatus) : p.Live ∨ p.Final ∨ p = .failed := by
  cases p <;> simp [Live, Final]

theorem ProvisioningStatus.Final.not_live {p : ProvisioningStatus} (h : p.Final) : ¬ p.Live := by
  rcases h with rfl | rfl | rfl <;> simp [Live]

theorem ProvisioningStatus.Final.ne_failed {p : ProvisioningStatus} (h : p.Final) :
    p ≠ .failed := by
  rcases h with rfl | rfl | rfl <;> simp

namespace SessionSystem

/-- No session that is completed, cancelled or timed out is anything else later in the run. -/
def FinalKept (s : SessionSystem) (es : List SessionEvent) : Prop :=
  ∀ (k : ℕ) (p : ProvisioningStatus), p.Final → Stays step (fun s => s.statusOf k = some p) s es

/-- An event leaves a failed session alone, unless it is the commit of a retry. -/
def LeavesFailed (s : SessionSystem) (e : SessionEvent) : Prop :=
  ∀ k, s.statusOf k = some .failed →
    (s.step e).statusOf k = some .failed ∨ s.writeOf e = some (k, .retry)

def FindsOpen (s : SessionSystem) (e : SessionEvent) : Prop :=
  ∀ k w p, s.writeOf e = some (k, w) → s.statusOf k = some p →
    p.Live ∨ p = w.result ∨ p = .failed ∧ w = .retry

theorem FindsOpen.statusOf_step {s : SessionSystem} {e : SessionEvent} (h : s.FindsOpen e) {k : ℕ}
    {p : ProvisioningStatus} (hp : s.statusOf k = some p) :
    (s.step e).statusOf k = some p ∨ p.Live ∨ p = .failed ∧ s.writeOf e = some (k, .retry) := by
  rw [SessionSystem.statusOf_step hp]
  cases hwrite : s.writeOf e with
  | none => exact Or.inl rfl
  | some write =>
      obtain ⟨j, w⟩ := write
      by_cases hj : j = k
      · subst hj
        rcases h j w p hwrite hp with hlive | rfl | ⟨rfl, rfl⟩
        · exact Or.inr (Or.inl hlive)
        · exact Or.inl (by simp)
        · exact Or.inr (Or.inr ⟨rfl, rfl⟩)
      · exact Or.inl (by simp [hj])

theorem findsOpen_iff (s : SessionSystem) (e : SessionEvent) :
    (∀ (k : ℕ) (p : ProvisioningStatus), p.Final → s.statusOf k = some p →
        (s.step e).statusOf k = some p) ∧ s.LeavesFailed e ↔ s.FindsOpen e := by
  constructor
  · rintro ⟨hfinal, hfailed⟩ k w p hwrite hp
    have hafter : (s.step e).statusOf k = some w.result := by
      rw [statusOf_step hp, hwrite]
      simp
    rcases p.cases with hlive | hp' | rfl
    · exact Or.inl hlive
    · have hsame := hfinal k p hp' hp
      rw [hafter] at hsame
      exact Or.inr (Or.inl (Option.some.inj hsame).symm)
    · rcases hfailed k hp with hsame | hretry
      · rw [hafter] at hsame
        exact Or.inr (Or.inl (Option.some.inj hsame).symm)
      · rw [hwrite] at hretry
        exact Or.inr (Or.inr ⟨rfl, congrArg Prod.snd (Option.some.inj hretry)⟩)
  · intro h
    constructor
    · intro k p hfinal hp
      rcases h.statusOf_step hp with hsame | hlive | ⟨hfailed, -⟩
      · exact hsame
      · exact absurd hlive hfinal.not_live
      · exact absurd hfailed hfinal.ne_failed
    · intro k hp
      rcases h.statusOf_step hp with hsame | hlive | ⟨-, hretry⟩
      · exact Or.inl hsame
      · simp [ProvisioningStatus.Live] at hlive
      · exact Or.inr hretry

/-! ### The order of the writers -/

def taskOf (s : SessionSystem) : SessionEvent → Option SessionTask
  | .commit i | .advance i _ => s.tasks[i]?
  | .load .. | .dispatch _ | .fail _ | .mark _ | .create _ | .insert _ => none

/-- When a task commits, its session is still live, or has the status already; or the task has checked
the status that it loaded, and nobody has written another one since. -/
def InOrder (s : SessionSystem) (e : SessionEvent) : Prop :=
  ∀ x ∈ s.writeOf e, ∀ p ∈ s.statusOf x.1,
    p.Live ∨ p = x.2.result ∨ ¬ x.2.Unguarded ∧ ∃ t ∈ s.taskOf e, t.loaded = p

instance (s : SessionSystem) : DecidablePred s.InOrder := fun e =>
  inferInstanceAs (Decidable (∀ x ∈ s.writeOf e, ∀ p ∈ s.statusOf x.1,
    p.Live ∨ p = x.2.result ∨ ¬ x.2.Unguarded ∧ ∃ t ∈ s.taskOf e, t.loaded = p))

/-- Every task in flight has passed the check of its writer. -/
def Checked (s : SessionSystem) : Prop := ∀ t ∈ s.tasks, t.Checked

theorem checked_of_mem_modify {s : SessionSystem} (h : s.Checked) {i : ℕ}
    {f : SessionTask → SessionTask} (hf : ∀ t, t.Checked → (f t).Checked) :
    ∀ t ∈ s.tasks.modify i f, t.Checked := by
  intro t ht
  obtain ⟨j, hj⟩ := List.mem_iff_getElem?.mp ht
  rw [List.getElem?_modify] at hj
  obtain ⟨u, hu, rfl⟩ := Option.map_eq_some_iff.mp hj
  have hu := h u (List.mem_of_getElem? hu)
  split
  · exact hf u hu
  · exact hu

/-- **Step lemma**: the guards are passed before a task writes. -/
theorem checked_step {s : SessionSystem} (h : s.Checked) (e : SessionEvent) : (s.step e).Checked := by
  cases e with
  | load w k =>
      simp only [Checked, step, nextTasks]
      split
      · split
        · rename_i hadmits
          intro t ht
          rcases List.mem_append.mp ht with ht | ht
          · exact h t ht
          · rw [List.mem_singleton.mp ht]
            exact hadmits.2
        · exact h
      · exact h
  | dispatch k =>
      simp only [Checked, step, nextTasks]
      split
      · rename_i p _
        intro t ht
        rcases List.mem_append.mp ht with ht | ht
        · exact h t ht
        · rw [List.mem_singleton.mp ht]
          by_cases hp : p = .pending
          · simp [SessionTask.Checked, hp, StatusWriter.Admits]
          · simp [SessionTask.Checked, hp]
      · exact h
  | commit i =>
      refine checked_of_mem_modify h ?_
      rintro ⟨k, p, phase, dispatched⟩ ht
      cases phase with
      | writing w => by_cases hw : w = .start <;> simp [SessionTask.committed, SessionTask.Checked, hw]
      | running => exact ht
      | failing => exact ht
      | ended => exact ht
  | advance i w =>
      refine checked_of_mem_modify h ?_
      intro t ht
      unfold SessionTask.advanced
      split
      · by_cases hcheck : w = .checkIn
        · simp [SessionTask.Checked, hcheck]
        · by_cases hnat : w = .natGuard
          · by_cases hd : t.dispatched = true
            · simp [SessionTask.Checked, hnat, hd]
            · simp [SessionTask.Checked, hnat, hd]
          · simp [SessionTask.Checked, hcheck, hnat]
      · exact ht
  | fail i =>
      refine checked_of_mem_modify h ?_
      intro t ht
      split
      · by_cases hd : t.dispatched = true
        · simp [SessionTask.Checked, hd]
        · simp [SessionTask.Checked, hd]
      · exact ht
  | mark i =>
      refine checked_of_mem_modify h ?_
      intro t ht
      split
      · exact trivial
      · exact ht
  | create routerId => exact h
  | insert i => exact h

theorem admits_of_writeOf {s : SessionSystem} (h : s.Checked) {e : SessionEvent} {k : ℕ}
    {w : StatusWriter} (hwrite : s.writeOf e = some (k, w)) :
    ∃ t ∈ s.taskOf e, t.session = k ∧ w.Admits t.loaded := by
  cases e with
  | commit i =>
      obtain ⟨t, ht, hif⟩ := Option.bind_eq_some_iff.mp hwrite
      have hcheck := h t (List.mem_of_getElem? ht)
      refine ⟨t, ht, ?_⟩
      split at hif
      · rename_i w' hphase
        split at hif
        · cases hif
        · obtain ⟨rfl, rfl⟩ := Prod.mk.inj (Option.some.inj hif)
          rw [SessionTask.Checked, hphase] at hcheck
          exact ⟨rfl, hcheck⟩
      · cases hif
  | advance i w' =>
      obtain ⟨t, ht, hif⟩ := Option.bind_eq_some_iff.mp hwrite
      refine ⟨t, ht, ?_⟩
      split at hif
      · rename_i hrun
        obtain ⟨rfl, rfl⟩ := Prod.mk.inj (Option.some.inj hif)
        exact ⟨rfl, hrun.2.2.1⟩
      · cases hif
  | load w k => cases hwrite
  | dispatch k => cases hwrite
  | fail i => cases hwrite
  | mark i => cases hwrite
  | create routerId => cases hwrite
  | insert i => cases hwrite

/-- The guards make the order enough. -/
theorem findsOpen_iff_inOrder {s : SessionSystem} (h : s.Checked) (e : SessionEvent) :
    s.FindsOpen e ↔ s.InOrder e := by
  constructor
  · rintro hopen ⟨k, w⟩ hwrite p hp
    rcases hopen k w p hwrite hp with hlive | hsame | ⟨rfl, rfl⟩
    · exact Or.inl hlive
    · exact Or.inr (Or.inl hsame)
    · obtain ⟨t, ht, _, hadmits⟩ := admits_of_writeOf h hwrite
      exact Or.inr (Or.inr ⟨by simp [StatusWriter.Unguarded], t, ht, hadmits⟩)
  · intro horder k w p hwrite hp
    rcases horder (k, w) hwrite p hp with hlive | hsame | ⟨hguarded, t, ht, rfl⟩
    · exact Or.inl hlive
    · exact Or.inr (Or.inl hsame)
    · obtain ⟨t', ht', _, hadmits⟩ := admits_of_writeOf h hwrite
      obtain rfl := Option.some.inj (ht.symm.trans ht')
      rcases hadmits.open_of_guarded hguarded with hlive | hretry
      · exact Or.inl hlive
      · exact Or.inr (Or.inr hretry)

/-- **Final states stay final exactly if the writers come in order**: those that check nothing before the
session has ended, and the others while what they checked is still true. -/
theorem status_final_iff (s : SessionSystem) (hs : s.Checked) (es : List SessionEvent) :
    s.FinalKept es ∧ Along step LeavesFailed s es ↔ Along step InOrder s es := by
  unfold FinalKept
  simp only [stays_iff_along]
  rw [← along_congr_of_invariant (J := Checked) (fun _ e h => checked_step h e)
    (fun _ e h => findsOpen_iff_inOrder h e) hs, ← Along.congr findsOpen_iff, ← along_and]
  simp only [along_forall]

def onePending : SessionSystem where
  sessions := [⟨1, .pending⟩]
  tasks := []
  creations := []

/-- A session that fails, is retried, started again and completed by the report of its script. -/
theorem status_final_retried :
    let es : List SessionEvent := [.dispatch 0, .commit 0, .load (.scriptReport "failed") 0, .commit 1,
      .load .retry 0, .commit 2, .load .start 0, .commit 3, .load (.scriptReport "completed") 0, .commit 4]
    onePending.FinalKept es ∧ Along step LeavesFailed onePending es :=
  (status_final_iff onePending (fun _ ht => by cases ht) _).mpr (by decide)

/-- The task is dispatched, the router's script reports the end, and a second dispatch of the task
marks the completed session as failed; and a report of the script revives a cancelled session. -/
theorem final_left :
    (¬ (onePending.FinalKept [.dispatch 0, .commit 0, .load (.scriptReport "completed") 0, .commit 1,
          .dispatch 0, .mark 2, .commit 2] ∧
        Along step LeavesFailed onePending [.dispatch 0, .commit 0,
          .load (.scriptReport "completed") 0, .commit 1, .dispatch 0, .mark 2, .commit 2])) ∧
      ¬ (onePending.FinalKept [.load .start 0, .commit 0, .load .cancel 0, .commit 1,
          .load (.scriptReport "completed") 0, .commit 2] ∧
        Along step LeavesFailed onePending [.load .start 0, .commit 0, .load .cancel 0, .commit 1,
          .load (.scriptReport "completed") 0, .commit 2]) := by
  constructor
  · intro h
    have hlater := h.1 0 .completed (Or.inl rfl) 4 7 (by decide) (by decide) (by decide)
    exact absurd hlater (by decide)
  · intro h
    have hlater := h.1 0 .cancelled (Or.inr (Or.inl rfl)) 4 6 (by decide) (by decide) (by decide)
    exact absurd hlater (by decide)

/-! ### One live session for a router -/

/-- Every router has at most one live session, and looking for it does not raise. -/
def OneLive (s : SessionSystem) : Prop :=
  ∀ routerId, (s.liveSessions routerId).length ≤ 1 ∧ s.activeSession routerId ≠ none

/-- The router whose session an event opens again: a retry, or a start whose session has ended since it
was loaded. -/
def reopensOf (s : SessionSystem) (e : SessionEvent) : Option ℕ :=
  (s.writeOf e).bind fun x =>
    (s.sessions[x.1]?).bind fun row =>
      if x.2.result.Live ∧ ¬ row.status.Live then some row.routerId else none

/-- The router for which a creation begins. -/
def createOf : SessionEvent → Option ℕ
  | .create routerId => some routerId
  | .load .. | .dispatch _ | .commit _ | .advance .. | .fail _ | .mark _ | .insert _ => none

/-- No creation begins while another one of its router is between its check and its insert; and a session
is opened again while its router has no live one and no creation under way. -/
def OneByOne (s : SessionSystem) (e : SessionEvent) : Prop :=
  (∀ routerId ∈ createOf e, routerId ∉ s.creations) ∧
    ∀ routerId ∈ s.reopensOf e, s.liveSessions routerId = [] ∧ routerId ∉ s.creations

instance (s : SessionSystem) : DecidablePred s.OneByOne := fun e =>
  inferInstanceAs (Decidable ((∀ routerId ∈ createOf e, routerId ∉ s.creations) ∧
    ∀ routerId ∈ s.reopensOf e, s.liveSessions routerId = [] ∧ routerId ∉ s.creations))

theorem activeSession_ne_none_iff {s : SessionSystem} {routerId : ℕ} :
    s.activeSession routerId ≠ none ↔ (s.liveSessions routerId).length ≤ 1 := by
  unfold activeSession
  match s.liveSessions routerId with
  | [] => simp [oneOrNone]
  | [x] => simp [oneOrNone]
  | x :: y :: l => simp [oneOrNone]

def liveCount (s : SessionSystem) (routerId : ℕ) : ℕ :=
  s.sessions.countP (fun x => decide (x.routerId = routerId ∧ x.status.Live))

theorem length_liveSessions (s : SessionSystem) (routerId : ℕ) :
    (s.liveSessions routerId).length = s.liveCount routerId :=
  List.countP_eq_length_filter.symm

theorem oneLive_iff {s : SessionSystem} : s.OneLive ↔ ∀ routerId, s.liveCount routerId ≤ 1 := by
  unfold OneLive
  simp only [activeSession_ne_none_iff, and_self, length_liveSessions]

theorem liveCount_write {s : SessionSystem} {e : SessionEvent} {k : ℕ} {w : StatusWriter}
    {x : SessionRow} (hwrite : s.writeOf e = some (k, w)) (hx : s.sessions[k]? = some x)
    (routerId : ℕ) :
    (s.step e).liveCount routerId + (if x.routerId = routerId ∧ x.status.Live then 1 else 0) =
      s.liveCount routerId + if x.routerId = routerId ∧ w.result.Live then 1 else 0 := by
  have hcount := countP_set_add (p := fun x => decide (x.routerId = routerId ∧ x.status.Live))
    (b := { x with status := w.result }) hx
  simp only [liveCount, step, nextSessions, hwrite, List.modify_eq_set_getElem?, hx,
    Option.map_eq_map, Option.map_some, Option.getD_some]
  simpa using hcount

theorem liveCount_step_of_reopens {s : SessionSystem} {e : SessionEvent} {r : ℕ}
    (h : s.reopensOf e = some r) (routerId : ℕ) :
    (s.step e).liveCount routerId = s.liveCount routerId + if r = routerId then 1 else 0 := by
  obtain ⟨⟨k, w⟩, hwrite, hrow⟩ := Option.bind_eq_some_iff.mp h
  obtain ⟨x, hx, hif⟩ := Option.bind_eq_some_iff.mp hrow
  split at hif
  · next hopen =>
      obtain rfl := Option.some.inj hif
      simpa [hopen.1, hopen.2] using liveCount_write hwrite hx routerId
  · cases hif

theorem liveCount_step_of_insert {s : SessionSystem} {i r : ℕ} (h : s.creations[i]? = some r)
    (routerId : ℕ) : (s.step (.insert i)).liveCount routerId =
      s.liveCount routerId + if r = routerId then 1 else 0 := by
  simp [liveCount, step, nextSessions, writeOf, insertOf, h, ProvisioningStatus.Live]

theorem liveCount_step_le {s : SessionSystem} {e : SessionEvent} (h : s.reopensOf e = none)
    (hinsert : s.insertOf e = none) (routerId : ℕ) :
    (s.step e).liveCount routerId ≤ s.liveCount routerId := by
  cases hwrite : s.writeOf e with
  | none => simp [liveCount, step, nextSessions, hwrite, hinsert]
  | some write =>
      obtain ⟨k, w⟩ := write
      cases hx : s.sessions[k]? with
      | none => simp [liveCount, step, nextSessions, hwrite, List.modify_eq_set_getElem?, hx]
      | some x =>
          have hclosed : w.result.Live → x.status.Live := by
            simpa [reopensOf, hwrite, hx] using h
          have hcount := liveCount_write hwrite hx routerId
          by_cases hnew : x.routerId = routerId ∧ w.result.Live
          · rw [if_pos ⟨hnew.1, hclosed hnew.2⟩, if_pos hnew] at hcount
            omega
          · rw [if_neg hnew] at hcount
            omega

/-- Creations under way are for different routers, without a live session. -/
structure Reserved (s : SessionSystem) : Prop where
  distinct : s.creations.Nodup
  free : ∀ routerId ∈ s.creations, s.liveCount routerId = 0

/-- A router for which something is created has no live session: `create_provisioning_session` has looked
for one. -/
theorem liveCount_of_create {s : SessionSystem} {routerId : ℕ}
    (h : s.activeSession routerId = some none) : s.liveCount routerId = 0 := by
  unfold activeSession at h
  rw [← length_liveSessions]
  match hl : s.liveSessions routerId with
  | [] => rfl
  | [x] => rw [hl] at h; cases h
  | x :: y :: l => rw [hl] at h; cases h

theorem reserved_step_of_creations {s : SessionSystem} (hr : s.Reserved) {e : SessionEvent}
    (hcreations : (s.step e).creations = s.creations)
    (hfree : ∀ routerId ∈ s.creations, (s.step e).liveCount routerId = 0) : (s.step e).Reserved :=
  ⟨hcreations ▸ hr.distinct, fun routerId hmem => hfree routerId (hcreations ▸ hmem)⟩

theorem creations_step_of_none {s : SessionSystem} {e : SessionEvent} (hcreate : createOf e = none)
    (hinsert : s.insertOf e = none) : (s.step e).creations = s.creations := by
  cases e with
  | create routerId => cases hcreate
  | insert i => exact List.eraseIdx_of_length_le (List.getElem?_eq_none_iff.mp hinsert)
  | load w k => rfl
  | dispatch k => rfl
  | commit i => rfl
  | advance i w => rfl
  | fail i => rfl
  | mark i => rfl

/-- A retry and a late start neither begin a creation nor end one. -/
theorem creations_step_of_reopens {s : SessionSystem} {e : SessionEvent} {r : ℕ}
    (hopen : s.reopensOf e = some r) : (s.step e).creations = s.creations := by
  obtain ⟨x, hwrite, -⟩ := Option.bind_eq_some_iff.mp hopen
  cases e with
  | commit i => rfl
  | advance i w => rfl
  | create routerId => cases hwrite
  | insert i => cases hwrite
  | load w k => cases hwrite
  | dispatch k => cases hwrite
  | fail i => cases hwrite
  | mark i => cases hwrite

/-- One more live session of a router that has none. -/
theorem liveCount_le_of_add {s : SessionSystem} {e : SessionEvent} {r : ℕ}
    (hs : ∀ routerId, s.liveCount routerId ≤ 1) (hnone : s.liveCount r = 0)
    (hcount : ∀ routerId, (s.step e).liveCount routerId =
      s.liveCount routerId + if r = routerId then 1 else 0) (routerId : ℕ) :
    (s.step e).liveCount routerId ≤ 1 := by
  rw [hcount]
  by_cases heq : r = routerId
  · subst heq
    simp [hnone]
  · simpa [heq] using hs routerId

theorem reserved_step_of_reopens {s : SessionSystem} {e : SessionEvent} {r : ℕ} (hr : s.Reserved)
    (hopen : s.reopensOf e = some r) (hfree : r ∉ s.creations) : (s.step e).Reserved := by
  refine reserved_step_of_creations hr (creations_step_of_reopens hopen) ?_
  intro routerId hmem
  have hne : r ≠ routerId := fun heq => hfree (heq.symm ▸ hmem)
  rw [liveCount_step_of_reopens hopen, hr.free routerId hmem, if_neg hne]

/-- An insert uses its reservation up. -/
theorem reserved_step_of_insert {s : SessionSystem} {i r : ℕ} (hr : s.Reserved)
    (hinsert : s.insertOf (.insert i) = some r) : (s.step (.insert i)).Reserved := by
  obtain ⟨hlt, rfl⟩ := List.getElem?_eq_some_iff.mp hinsert
  have hperm : (s.creations[i] :: s.creations.eraseIdx i).Perm s.creations :=
    List.getElem_cons_eraseIdx_perm hlt
  obtain ⟨hgone, hdistinct⟩ := List.nodup_cons.mp (hperm.nodup_iff.mpr hr.distinct)
  refine ⟨hdistinct, fun routerId hkept => ?_⟩
  have hne : s.creations[i] ≠ routerId := fun heq => hgone (heq.symm ▸ hkept)
  rw [liveCount_step_of_insert hinsert, hr.free routerId (List.mem_of_mem_eraseIdx hkept), if_neg hne]

/-- A creation reserves its router, when it has found it free. -/
theorem reserved_step_of_create {s : SessionSystem} {routerId : ℕ} (hr : s.Reserved)
    (hnew : routerId ∉ s.creations)
    (hle : ∀ r, (s.step (.create routerId)).liveCount r ≤ s.liveCount r) :
    (s.step (.create routerId)).Reserved := by
  have hfree : ∀ r ∈ s.creations, (s.step (.create routerId)).liveCount r = 0 :=
    fun r hmem => Nat.le_zero.mp ((hle r).trans (hr.free r hmem).le)
  by_cases hactive : s.activeSession routerId = some none
  · have hcreations : (s.step (.create routerId)).creations = s.creations ++ [routerId] := if_pos hactive
    refine ⟨?_, ?_⟩
    · rw [hcreations]
      exact List.nodup_append.mpr ⟨hr.distinct, List.nodup_singleton _,
        fun x hx y hy heq => hnew (List.mem_singleton.mp hy ▸ heq ▸ hx)⟩
    · rw [hcreations]
      intro r hmem
      rcases List.mem_append.mp hmem with hold | hmem
      · exact hfree r hold
      · obtain rfl := List.mem_singleton.mp hmem
        exact Nat.le_zero.mp ((hle r).trans (liveCount_of_create hactive).le)
  · exact reserved_step_of_creations hr (if_neg hactive) hfree

/-- **Step lemma**: one by one, a router keeps to one live session. -/
theorem oneByOne_step {s : SessionSystem} {e : SessionEvent} (hr : s.Reserved)
    (hs : ∀ routerId, s.liveCount routerId ≤ 1) (ho : s.OneByOne e) :
    (s.step e).Reserved ∧ ∀ routerId, (s.step e).liveCount routerId ≤ 1 := by
  cases hopen : s.reopensOf e with
  | some r =>
      obtain ⟨hnone, hfree⟩ := ho.2 r hopen
      rw [← List.length_eq_zero_iff, length_liveSessions] at hnone
      exact ⟨reserved_step_of_reopens hr hopen hfree,
        liveCount_le_of_add hs hnone (liveCount_step_of_reopens hopen)⟩
  | none =>
      cases hinsert : s.insertOf e with
      | some r =>
          cases e with
          | insert i =>
              have hnone : s.liveCount r = 0 := hr.free r (List.mem_of_getElem? hinsert)
              exact ⟨reserved_step_of_insert hr hinsert,
                liveCount_le_of_add hs hnone (liveCount_step_of_insert hinsert)⟩
          | create routerId => cases hinsert
          | load w k => cases hinsert
          | dispatch k => cases hinsert
          | commit i => cases hinsert
          | advance i w => cases hinsert
          | fail i => cases hinsert
          | mark i => cases hinsert
      | none =>
          have hle := liveCount_step_le hopen hinsert
          refine ⟨?_, fun routerId => (hle routerId).trans (hs routerId)⟩
          cases hcreate : createOf e with
          | some routerId =>
              cases e with
              | create r => exact reserved_step_of_create hr (ho.1 r rfl) hle
              | load w k => cases hcreate
              | dispatch k => cases hcreate
              | commit i => cases hcreate
              | advance i w => cases hcreate
              | fail i => cases hcreate
              | mark i => cases hcreate
              | insert i => cases hcreate
          | none =>
              exact reserved_step_of_creations hr (creations_step_of_none hcreate hinsert)
                fun routerId hmem => Nat.le_zero.mp ((hle routerId).trans (hr.free routerId hmem).le)

/-- **A router keeps to one live session if its sessions are opened one by one**: the check of
`create_provisioning_session` is made before the insert, and retry makes none. -/
theorem single_live_always {s : SessionSystem} (hs : s.OneLive) (hnew : s.creations = [])
    (es : List SessionEvent) (ho : Along step OneByOne s es) : Always step OneLive s es := by
  refine always_of_along (I := fun s => s.Reserved ∧ ∀ routerId, s.liveCount routerId ≤ 1) ?_
    (fun s h => oneLive_iff.mpr h.2) ⟨?_, oneLive_iff.mp hs⟩ ho
  · rintro s e ⟨hr, hs⟩ ho
    exact oneByOne_step hr hs ho
  · exact ⟨hnew ▸ List.nodup_nil, fun routerId hmem => by rw [hnew] at hmem; cases hmem⟩

def noSessions : SessionSystem where
  sessions := []
  tasks := []
  creations := []

theorem noSessions_oneLive : noSessions.OneLive := by
  intro routerId
  simp [noSessions, liveSessions, activeSession, oneOrNone]

/-- A session is created, cancelled, and another one created. -/
theorem single_live_cancelled :
    Always step OneLive noSessions
      [.create 1, .insert 0, .load .cancel 0, .commit 0, .create 1, .insert 0] :=
  single_live_always noSessions_oneLive rfl _ (by decide)

/-- Two requests look for an active session before either inserts one; and a failed session is
retried while a newer one is pending. -/
theorem two_live :
    ¬ Always step OneLive noSessions [.create 1, .create 1, .insert 0, .insert 0] ∧
      ¬ Always step OneLive { noSessions with sessions := [⟨1, .failed⟩] }
        [.create 1, .insert 0, .load .retry 0, .commit 0] := by
  constructor
  · intro h
    exact absurd (h.2.2.2.2 1).1 (by decide)
  · intro h
    exact absurd (h.2.2.2.2 1).1 (by decide)

end SessionSystem

end IspBilling
