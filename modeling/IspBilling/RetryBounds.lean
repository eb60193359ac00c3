import IspBilling.CommandQueue
import IspBilling.Runs

/-! # How often a command is tried

A command carries `retry_count` and `max_retries`, and a failed report closes it when the count has
reached the limit.  Two mechanisms put a command back to `PENDING`: the failed report, which counts,
and `reset_stale_sent_commands`, which does not; and a report is accepted in every status, also when
the command is closed.

`Polling` is the queue with the record of the poll responses, and `step` runs its operations one
after the other.  `Counted` is what the source leaves out: a failed report finds a retry left, and
no stale reset puts the command back.  `retries_bounded` shows that the two bounds hold in every run
in which this is met. -/

namespace IspBilling

open Rows Runs

/-- The queue and the identifiers in the poll responses. -/
structure Polling where
  commands : List RouterCommand
  keyed : Keyed RouterCommand.id commands
  responses : List (List String)

namespace Polling

/-- The operations.  A report with several results is several events. -/
inductive Event where
  | queue (now : ℤ) (id : String) (routerId : ℕ) (action : Action) (priority : ℤ)
      (source sourceId : Option String) (expiresInSeconds : Option ℤ)
  | poll (routerId : ℕ) (now : ℤ)
  | report (now : ℤ) (id status message : String)
  | resetStale (now : ℤ) (staleThresholdMinutes : ℤ)
  | cleanup (now : ℤ)
deriving DecidableEq, Repr

/-- The row has waited in `SENT` for too long, and `reset_stale_sent_commands` puts it back. -/
def Stale (now threshold : ℤ) (c : RouterCommand) : Prop :=
  c.status = .sent ∧ (∃ t ∈ c.sentAt, t < now - minutes threshold) ∧ c.retryCount < c.maxRetries

instance (now threshold : ℤ) : DecidablePred (Stale now threshold) := fun c =>
  inferInstanceAs (Decidable (c.status = .sent ∧
    (∃ t ∈ c.sentAt, t < now - minutes threshold) ∧ c.retryCount < c.maxRetries))

variable (settings : AgentSettings)

def step (s : Polling) : Event → Polling
  | .queue now id routerId action priority source sourceId expires =>
      { s with
        commands := queueCommand settings now id routerId action priority source sourceId expires
          s.commands
        keyed := keyed_queueCommand s.keyed }
  | .poll routerId now =>
      let ids := (getPendingCommands settings routerId now none s.commands).map RouterCommand.id
      { commands := markCommandsSent now ids s.commands
        keyed := keyed_markCommandsSent s.keyed
        responses := s.responses ++ [ids] }
  | .report now id status message =>
      { s with
        commands := updateWhere (fun c => decide (c.id = id))
          (RouterCommand.applyResult now status message) s.commands
        keyed := s.keyed.updateWhere (RouterCommand.applyResult_id now status message) }
  | .resetStale now threshold =>
      { s with
        commands := resetStaleSentCommands now threshold s.commands
        keyed := s.keyed.updateWhere (fun _ => rfl) }
  | .cleanup now =>
      { s with
        commands := cleanupExpiredCommands now s.commands
        keyed := s.keyed.updateWhere (fun _ => rfl) }

/-- The number of poll responses that contain the command. -/
def handedOut (s : Polling) (id : String) : ℕ := s.responses.countP (fun ids => decide (id ∈ ids))

/-- The two bounds on a command. -/
def Bounded (id : String) (s : Polling) : Prop :=
  ∀ c ∈ s.commands, c.id = id →
    c.retryCount ≤ c.maxRetries ∧ s.handedOut id ≤ c.maxRetries + 1

instance (id : String) (s : Polling) : Decidable (s.Bounded id) :=
  inferInstanceAs (Decidable (∀ c ∈ s.commands, c.id = id →
    c.retryCount ≤ c.maxRetries ∧ s.handedOut id ≤ c.maxRetries + 1))

/-- Every new try is counted: a failed report finds a retry left, and no stale reset puts the
command back. -/
def Counted (id : String) (s : Polling) : Event → Prop
  | .report _ i status _ => i = id → status = "failed" →
      ∀ c ∈ s.commands, c.id = id → c.retryCount < c.maxRetries
  | .resetStale now threshold => ∀ c ∈ s.commands, c.id = id → ¬ Stale now threshold c
  | _ => True

instance (id : String) (s : Polling) (e : Event) : Decidable (s.Counted id e) :=
  match e with
  | .report _ i status _ => inferInstanceAs (Decidable (i = id → status = "failed" →
      ∀ c ∈ s.commands, c.id = id → c.retryCount < c.maxRetries))
  | .resetStale now threshold =>
      inferInstanceAs (Decidable (∀ c ∈ s.commands, c.id = id → ¬ Stale now threshold c))
  | .queue .. | .poll .. | .cleanup _ => isTrue trivial

/-- The command waits in the queue and was never tried. -/
def Fresh (id : String) (s : Polling) : Prop :=
  (∃ c ∈ s.commands, c.id = id ∧ c.status = .pending ∧ c.retryCount = 0) ∧ s.handedOut id = 0

/-! ### The tries are counted -/

/-- A pending command was handed out at most once per failure, any other one once more. -/
def Accounted (n : ℕ) (c : RouterCommand) : Prop :=
  c.retryCount ≤ c.maxRetries ∧ n ≤ c.retryCount + 1 ∧ (c.status = .pending → n ≤ c.retryCount)

/-- What holds in every state of an admissible run. -/
structure Invariant (id : String) (s : Polling) : Prop where
  present : id ∈ s.commands.map RouterCommand.id
  accounted : ∀ c ∈ s.commands, c.id = id → Accounted (s.handedOut id) c

theorem Invariant.bounded {id : String} {s : Polling} (h : s.Invariant id) : s.Bounded id := by
  intro c hc hid
  obtain ⟨hle, hn, _⟩ := h.accounted c hc hid
  exact ⟨hle, by omega⟩

theorem Fresh.invariant {id : String} {s : Polling} (h : s.Fresh id) : s.Invariant id := by
  obtain ⟨⟨c, hc, hid, _, hzero⟩, hnone⟩ := h
  refine ⟨hid ▸ List.mem_map_of_mem hc, ?_⟩
  intro c' hc' hid'
  obtain rfl : c' = c := s.keyed.eq_of_key hc' hc (hid'.trans hid.symm)
  rw [hnone]
  exact ⟨by omega, by omega, fun _ => by omega⟩

theorem Accounted.applyResult {n : ℕ} {c : RouterCommand} (h : Accounted n c) {now : ℤ}
    {status message : String} (hleft : status = "failed" → c.retryCount < c.maxRetries) :
    Accounted n (c.applyResult now status message) := by
  obtain ⟨hle, hn, hpending⟩ := h
  unfold RouterCommand.applyResult
  split
  · exact ⟨hle, hn, fun hst => by cases hst⟩
  · split
    · have hlt := hleft ‹_›
      -- the failure is counted, and the command is closed or pending again
      simp only
      split
      · exact ⟨hlt, by simp only; omega, fun hst => by cases hst⟩
      · exact ⟨hlt, by simp only; omega, fun _ => hn⟩
    · exact ⟨hle, hn, hpending⟩

variable {settings} {id : String} {s : Polling}

theorem Invariant.updateWhere {t : Polling} {p : RouterCommand → Bool}
    {f : RouterCommand → RouterCommand} (h : s.Invariant id)
    (ht : t.commands = updateWhere p f s.commands) (hresp : t.responses = s.responses)
    (hf : ∀ c, (f c).id = c.id)
    (hacc : ∀ c ∈ s.commands, c.id = id → p c = true → Accounted (s.handedOut id) (f c)) :
    t.Invariant id := by
  have hcount : t.handedOut id = s.handedOut id := by rw [handedOut, hresp]; rfl
  refine ⟨?_, ?_⟩
  · rw [ht, map_key_updateWhere hf]
    exact h.present
  · intro c hc hid
    rw [ht] at hc
    obtain ⟨c₀, hc₀, rfl⟩ := mem_updateWhere.mp hc
    rw [hcount]
    by_cases hp : p c₀ = true
    · rw [if_pos hp] at hid ⊢
      exact hacc c₀ hc₀ ((hf c₀).symm.trans hid) hp
    · rw [if_neg hp] at hid ⊢
      exact h.accounted c₀ hc₀ hid

theorem Invariant.queue (h : s.Invariant id) (now : ℤ) (i : String) (routerId : ℕ) (action : Action)
    (priority : ℤ) (source sourceId : Option String) (expires : Option ℤ) :
    (s.step settings (.queue now i routerId action priority source sourceId expires)).Invariant
      id := by
  obtain ⟨c₀, hc₀, hid₀⟩ := List.mem_map.mp h.present
  refine ⟨hid₀ ▸ List.mem_map_of_mem (mem_queueCommand hc₀), ?_⟩
  intro c hc hid
  refine h.accounted c ?_ hid
  rcases of_mem_queueCommand hc with hold | ⟨hnew, _⟩
  · exact hold
  · have htaken : i ∈ s.commands.map RouterCommand.id := by rw [← hnew, hid]; exact h.present
    simpa only [step, queueCommand, if_pos htaken] using hc

theorem Invariant.poll (h : s.Invariant id) (routerId : ℕ) (now : ℤ) :
    (s.step settings (.poll routerId now)).Invariant id := by
  set batch := getPendingCommands settings routerId now none s.commands with hbatch
  have hpending : ∀ b ∈ batch, b ∈ s.commands ∧ b.status = .pending := by
    intro b hb
    have hb' := mem_pendingFor.mp (mem_pendingFor_of_mem_getPendingCommands hb)
    exact ⟨hb'.1, hb'.2.2.1⟩
  have hcount : (s.step settings (.poll routerId now)).handedOut id =
      s.handedOut id + if id ∈ batch.map RouterCommand.id then 1 else 0 := by
    simp [handedOut, step, List.countP_append, List.countP_singleton, ← hbatch]
  refine ⟨?_, ?_⟩
  · have hkeys : (s.step settings (.poll routerId now)).commands.map RouterCommand.id =
        s.commands.map RouterCommand.id := by
      apply map_key_updateWhere
      intro c
      rfl
    rw [hkeys]
    exact h.present
  · intro c hc hid
    rw [hcount]
    rcases (mem_markCommandsSent_iff s.keyed (fun b hb => (hpending b hb).1)).mp hc with
      ⟨hold, hnot⟩ | ⟨b, hb, rfl⟩
    · -- the row was left behind, so its identifier is not in the response
      have hout : id ∉ batch.map RouterCommand.id := by
        intro hmem
        obtain ⟨b, hb, hbid⟩ := List.mem_map.mp hmem
        exact hnot (s.keyed.eq_of_key (hpending b hb).1 hold (hbid.trans hid.symm) ▸ hb)
      rw [if_neg hout]
      exact h.accounted c hold hid
    · obtain ⟨hmem, hst⟩ := hpending b hb
      obtain ⟨hle, _, hn⟩ := h.accounted b hmem hid
      have hin : id ∈ batch.map RouterCommand.id := List.mem_map.mpr ⟨b, hb, hid⟩
      rw [if_pos hin]
      exact ⟨hle, Nat.succ_le_succ (hn hst), fun hst' => by cases hst'⟩

/-- **Step lemma**: an operation that counts its tries keeps the account. -/
theorem step_invariant (h : s.Invariant id) {e : Event} (hok : s.Counted id e) :
    (s.step settings e).Invariant id := by
  cases e with
  | queue now i routerId action priority source sourceId expires =>
      exact h.queue now i routerId action priority source sourceId expires
  | poll routerId now => exact h.poll routerId now
  | report now i status message =>
      refine h.updateWhere rfl rfl (RouterCommand.applyResult_id now status message) ?_
      intro c hc hid hp
      refine (h.accounted c hc hid).applyResult ?_
      intro hfailed
      exact hok ((of_decide_eq_true hp).symm.trans hid) hfailed c hc hid
  | resetStale now threshold =>
      refine h.updateWhere rfl rfl (fun _ => rfl) ?_
      intro c hc hid hp
      exact absurd (of_decide_eq_true hp) (hok c hc hid)
  | cleanup now =>
      refine h.updateWhere rfl rfl (fun _ => rfl) ?_
      intro c hc hid _
      obtain ⟨hle, hn, _⟩ := h.accounted c hc hid
      exact ⟨hle, hn, fun hst => by cases hst⟩

/-- **Bounded retries under the missing checks**: in every run from a fresh command in which a
failed report finds a retry left and no stale reset puts the command back, `retry_count` never
exceeds `max_retries`, and at most `max_retries + 1` poll responses contain the command. -/
theorem retries_bounded (settings : AgentSettings) (id : String) (s : Polling) (hs : s.Fresh id)
    (es : List Event) (hok : Along (step settings) (Counted id) s es) :
    Always (step settings) (Bounded id) s es :=
  always_of_along (fun _ _ h hok => step_invariant h hok) (fun _ h => h.bounded) hs.invariant hok

def oneFresh : Polling where
  commands := [⟨"cmd-1", 1, .disableUser "alice" .hotspot, 2, .pending, 0, none, none,
    some (hours 1), none, 0, 3, none, none⟩]
  keyed := by decide
  responses := []

/-- A poll whose report is lost, and the stale reset six minutes later. -/
def lostReport (k : ℤ) : List Event := [.poll 1 (minutes (6 * k)), .resetStale (minutes (6 * k + 6)) 5]

/-- Four failed reports of one dispatch count to four, and four lost reports lead to five poll
responses; the limit is three retries. -/
theorem retries_exceed_limit :
    ¬ (exec (step .default) oneFresh ([.poll 1 1] ++
        List.replicate 4 (.report 2 "cmd-1" "failed" "timeout"))).Bounded "cmd-1" ∧
      ¬ (exec (step .default) oneFresh
        (lostReport 0 ++ lostReport 1 ++ lostReport 2 ++ lostReport 3 ++
          [.poll 1 (minutes 24)])).Bounded "cmd-1" := by
  decide

/-- Three failed tries, each counted, and the clean-ups in between. -/
theorem retries_bounded_three_failures :
    oneFresh.Fresh "cmd-1" ∧
      Always (step .default) (Bounded "cmd-1") oneFresh
        [.poll 1 1, .report 2 "cmd-1" "failed" "timeout", .poll 1 3, .resetStale 4 5,
          .report 5 "cmd-1" "failed" "timeout", .cleanup 6, .poll 1 7,
          .report 8 "cmd-1" "failed" "timeout", .poll 1 9, .resetStale (minutes 10) 5] :=
  have hfresh : oneFresh.Fresh "cmd-1" := ⟨⟨_, List.mem_singleton.mpr rfl, rfl, rfl, rfl⟩, rfl⟩
  ⟨hfresh, retries_bounded .default "cmd-1" oneFresh hfresh _ (by decide)⟩

end Polling

end IspBilling
