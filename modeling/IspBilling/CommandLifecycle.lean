import IspBilling.CommandQueue
import IspBilling.Runs

/-! # The life cycle of a command under concurrent writers

The writers of `router_commands` interleave: a poll selects rows and marks them as sent in a
second statement, a report loads a row and flushes the assigned columns when its request
commits, and the two periodic clean-ups run in between.  `Lifecycle` is the committed table
together with what the open requests hold in memory; `step` lets one of them advance.

The statuses `SUCCESS`, `FAILED` and `EXPIRED` close a command, but neither
`mark_commands_sent` nor `process_command_result` looks at the status it overwrites.
`StatusChecked` is the check they leave out, made on the row the statement writes, and
`terminal_absorbing` shows that it is all that is missing: in a run in which every mark and
every report meets it, a closed command keeps its status, its message and its completion
time. -/

namespace IspBilling

open Rows Runs

/-- The flush of a changed object: the columns that differ from the loaded ones are written. -/
def RouterCommand.flush (loaded changed row : RouterCommand) : RouterCommand :=
  { row with
    status := if changed.status = loaded.status then row.status else changed.status
    sentAt := if changed.sentAt = loaded.sentAt then row.sentAt else changed.sentAt
    completedAt := if changed.completedAt = loaded.completedAt then row.completedAt
      else changed.completedAt
    resultMessage := if changed.resultMessage = loaded.resultMessage then row.resultMessage
      else changed.resultMessage
    retryCount := if changed.retryCount = loaded.retryCount then row.retryCount
      else changed.retryCount }

/-- The committed commands and the open requests. -/
structure Lifecycle where
  commands : List RouterCommand
  keyed : Keyed RouterCommand.id commands
  /-- Polls that have selected commands and not marked them yet. -/
  polls : List (List String)
  /-- Results whose command is loaded and changed in memory, not committed yet. -/
  reports : List (RouterCommand × RouterCommand)

namespace Lifecycle

inductive Event where
  | queue (now : ℤ) (id : String) (routerId : ℕ) (action : Action) (priority : ℤ)
      (source sourceId : Option String) (expiresInSeconds : Option ℤ)
  | pollSelect (routerId : ℕ) (now : ℤ)
  | pollMark (i : ℕ) (now : ℤ)
  | reportLoad (now : ℤ) (id status message : String)
  | reportCommit (i : ℕ)
  | cleanup (now : ℤ)
  | resetStale (now : ℤ) (staleThresholdMinutes : ℤ)
deriving DecidableEq, Repr

variable (settings : AgentSettings)

def step (s : Lifecycle) : Event → Lifecycle
  | .queue now id routerId action priority source sourceId expires =>
      { s with
        commands := queueCommand settings now id routerId action priority source sourceId expires
          s.commands
        keyed := keyed_queueCommand s.keyed }
  | .pollSelect routerId now =>
      let ids := (getPendingCommands settings routerId now none s.commands).map RouterCommand.id
      { s with polls := s.polls ++ [ids] }
  | .pollMark i now =>
      match s.polls[i]? with
      | some ids =>
          { s with
            commands := markCommandsSent now ids s.commands
            keyed := keyed_markCommandsSent s.keyed
            polls := s.polls.eraseIdx i }
      | none => s
  | .reportLoad now id status message =>
      match s.commands.find? (fun c => decide (c.id = id)) with
      | some c => { s with reports := s.reports ++ [(c, c.applyResult now status message)] }
      | none => s
  | .reportCommit i =>
      match s.reports[i]? with
      | some (loaded, changed) =>
          { s with
            commands := updateWhere (fun c => decide (c.id = loaded.id))
              (RouterCommand.flush loaded changed) s.commands
            keyed := s.keyed.updateWhere (fun _ => rfl)
            reports := s.reports.eraseIdx i }
      | none => s
  | .cleanup now =>
      { s with
        commands := cleanupExpiredCommands now s.commands
        keyed := s.keyed.updateWhere (fun _ => rfl) }
  | .resetStale now threshold =>
      { s with
        commands := resetStaleSentCommands now threshold s.commands
        keyed := s.keyed.updateWhere (fun _ => rfl) }

/-- The row `id` of the table is open. -/
def OpenRow (s : Lifecycle) (id : String) : Prop :=
  ∀ c ∈ s.commands, c.id = id → ¬ c.status.Terminal

instance (s : Lifecycle) (id : String) : Decidable (s.OpenRow id) :=
  inferInstanceAs (Decidable (∀ c ∈ s.commands, c.id = id → ¬ c.status.Terminal))

/-- The check that the writers leave out: a poll marks and a report changes open rows only. -/
def StatusChecked (s : Lifecycle) : Event → Prop
  | .pollMark i _ => ∀ ids ∈ s.polls[i]?, ∀ id ∈ ids, s.OpenRow id
  | .reportCommit i => ∀ r ∈ s.reports[i]?, r.2 = r.1 ∨ s.OpenRow r.1.id
  | _ => True

instance (s : Lifecycle) (e : Event) : Decidable (s.StatusChecked e) :=
  match e with
  | .pollMark i _ => inferInstanceAs (Decidable (∀ ids ∈ s.polls[i]?, ∀ id ∈ ids, s.OpenRow id))
  | .reportCommit i =>
      inferInstanceAs (Decidable (∀ r ∈ s.reports[i]?, r.2 = r.1 ∨ s.OpenRow r.1.id))
  | .queue .. | .pollSelect .. | .reportLoad .. | .cleanup .. | .resetStale .. => isTrue trivial

/-! ### A closed row stays as it is -/

/-- The closed row `c` is still there, with its outcome. -/
def Kept (c : RouterCommand) (s : Lifecycle) : Prop :=
  ∃ c' ∈ s.commands, c'.id = c.id ∧ c'.status = c.status ∧ c'.resultMessage = c.resultMessage ∧
    c'.completedAt = c.completedAt

theorem kept_of_updateWhere {c : RouterCommand} {s t : Lifecycle} {p : RouterCommand → Bool}
    {f : RouterCommand → RouterCommand} (ht : t.commands = updateWhere p f s.commands)
    (hc : c.status.Terminal) (hk : s.Kept c)
    (hskip : ∀ c' ∈ s.commands, c'.id = c.id → c'.status.Terminal → p c' = true → f c' = c') :
    t.Kept c := by
  obtain ⟨c', hc', hid, hst, hmsg, hat⟩ := hk
  refine ⟨c', ?_, hid, hst, hmsg, hat⟩
  rw [ht, mem_updateWhere]
  refine ⟨c', hc', ?_⟩
  split
  · exact hskip c' hc' hid (by rw [hst]; exact hc) ‹_›
  · rfl

/-- **Step lemma**: a move that meets the check keeps every closed row. -/
theorem step_kept {s : Lifecycle} {e : Event} {c : RouterCommand} (hok : s.StatusChecked e)
    (hc : c.status.Terminal) (hk : s.Kept c) : (s.step settings e).Kept c := by
  have hopen : ∀ c' : RouterCommand, c'.status.Terminal →
      ¬ (c'.status = .pending ∨ c'.status = .sent) := by
    intro c' ht
    rcases ht with h | h | h <;> simp [h]
  cases e with
  | queue now id routerId action priority source sourceId expires =>
      obtain ⟨c', hc', h⟩ := hk
      exact ⟨c', mem_queueCommand hc', h⟩
  | pollSelect routerId now => exact hk
  | pollMark i now =>
      cases hi : s.polls[i]? with
      | none => simpa only [step, hi] using hk
      | some ids =>
          simp only [step, hi]
          refine kept_of_updateWhere rfl hc hk ?_
          intro c' hc' _ ht hp
          have hrow := hok ids (by rw [hi]; rfl) c'.id (of_decide_eq_true hp)
          exact absurd ht (hrow c' hc' rfl)
  | reportLoad now id status message =>
      cases hf : s.commands.find? (fun c => decide (c.id = id)) with
      | none => simpa only [step, hf] using hk
      | some c₀ =>
          simp only [step, hf]
          exact hk
  | reportCommit i =>
      cases hi : s.reports[i]? with
      | none => simpa only [step, hi] using hk
      | some r =>
          obtain ⟨loaded, changed⟩ := r
          simp only [step, hi]
          refine kept_of_updateWhere rfl hc hk ?_
          intro c' hc' _ ht hp
          rcases hok (loaded, changed) (by rw [hi]; rfl) with heq | hrow
          · simp only at heq
            subst heq
            simp [RouterCommand.flush]
          · exact absurd ht (hrow c' hc' (of_decide_eq_true hp))
  | cleanup now =>
      refine kept_of_updateWhere rfl hc hk ?_
      intro c' _ _ ht hp
      exact absurd (of_decide_eq_true hp).1 (hopen c' ht)
  | resetStale now threshold =>
      refine kept_of_updateWhere rfl hc hk ?_
      intro c' _ _ ht hp
      exact absurd (Or.inr (of_decide_eq_true hp).1) (hopen c' ht)

/-- **Terminal states are absorbing under the missing check**: in every run whose marks and
reports all meet `StatusChecked`, a command that is closed at some point has the same status,
message and completion time at every later point. -/
theorem terminal_absorbing (s : Lifecycle) (es fs : List Event)
    (hok : Along (step settings) StatusChecked s (es ++ fs)) :
    ∀ c ∈ (exec (step settings) s es).commands, c.status.Terminal →
      (exec (step settings) s (es ++ fs)).Kept c := by
  intro c hc ht
  rw [exec_append]
  refine exec_of_along (I := fun s => s.Kept c) ?_ ⟨c, hc, rfl, rfl, rfl, rfl⟩
    (Along.append_iff.mp hok).2
  intro s e hk he
  exact step_kept settings he ht hk

/-- One command that a poll has handed out. -/
def oneSent : Lifecycle where
  commands := [⟨"cmd-1", 1, .disableUser "alice" .hotspot, 2, .sent, 0, some 1, none, some 3600, none,
    0, 3, none, none⟩]
  keyed := by decide
  polls := []
  reports := []

/-- A late `failed` report reopens a command that has succeeded. -/
theorem late_failure_reopens :
    ((exec (step .default) oneSent
        [.reportLoad 5 "cmd-1" "success" "", .reportCommit 0]).commands.map (·.status) = [.success]) ∧
      (exec (step .default) oneSent
        ([.reportLoad 5 "cmd-1" "success" "", .reportCommit 0] ++
          [.reportLoad 9 "cmd-1" "failed" "timeout", .reportCommit 0])).commands.map (·.status) =
        [.pending] := by
  decide

/-- A run that meets the check: one success report, a clean-up and a stale reset. -/
theorem terminal_absorbing_oneSent :
    Along (step .default) StatusChecked oneSent
        ([.reportLoad 5 "cmd-1" "success" "", .reportCommit 0] ++
          [.cleanup 7200, .resetStale 7200 5]) ∧
      ∀ c ∈ (exec (step .default) oneSent
          [.reportLoad 5 "cmd-1" "success" "", .reportCommit 0]).commands, c.status.Terminal →
        (exec (step .default) oneSent
          ([.reportLoad 5 "cmd-1" "success" "", .reportCommit 0] ++
            [.cleanup 7200, .resetStale 7200 5])).Kept c :=
  ⟨by decide, terminal_absorbing .default oneSent _ _ (by decide)⟩

end Lifecycle

end IspBilling
