import IspBilling.CommandLifecycle

/-! # Exclusive dispatch of commands

A poll selects its commands in one statement and marks them in another, which looks at nothing but
their identifiers.  What keeps two polls of one router apart is the row of the router: `handle_poll`
stamps it (`last_seen`, `last_poll_at`, `status`) before it selects, the autoflush of the session sends
that `UPDATE` ahead of the `SELECT`, and its row lock is held until the commit after the mark.  A poll
that finds the row locked waits, and selects only when the other poll is done.

`Dispatch` are the committed commands with the open polls: `updated` are the routers of the polls that
hold the lock and have not selected, `polls` those that have, with the identifiers they selected.  `log`
are the identifiers in poll responses, each as long as its command has not been reset to `PENDING`
since.  The dispatch is exclusive when the log has no duplicates; `exclusive_dispatch` shows it for
every interleaving. -/

namespace IspBilling

open Rows Runs

/-- The commands, the open requests, and the commands answered since their last reset. -/
structure Dispatch where
  commands : List RouterCommand
  keyed : Keyed RouterCommand.id commands
  updated : List ℕ
  polls : List (ℕ × List String)
  reports : List (RouterCommand × RouterCommand)
  log : List String

namespace Dispatch

inductive Event where
  | queue (now : ℤ) (id : String) (routerId : ℕ) (action : Action) (priority : ℤ)
      (source sourceId : Option String) (expiresInSeconds : Option ℤ)
  /-- The flush of the stamped router row. -/
  | pollUpdate (routerId : ℕ)
  /-- The `i`-th poll that holds its lock selects. -/
  | pollSelect (i : ℕ) (now : ℤ)
  /-- The `i`-th poll that has selected marks, commits and responds. -/
  | pollMark (i : ℕ) (now : ℤ)
  /-- A poll fails before it selects, or before its commit: rolled back, it answers nothing. -/
  | updateAbort (i : ℕ)
  | selectAbort (i : ℕ)
  | reportLoad (now : ℤ) (id status message : String)
  | reportCommit (i : ℕ)
  | cleanup (now : ℤ)
  | resetStale (now : ℤ) (staleThresholdMinutes : ℤ)
deriving DecidableEq, Repr

/-- The routers whose rows are locked. -/
def locked (s : Dispatch) : List ℕ := s.updated ++ s.polls.map Prod.fst

/-- The committed commands and the open requests, without the locks. -/
def life (s : Dispatch) : Lifecycle where
  commands := s.commands
  keyed := s.keyed
  polls := s.polls.map Prod.snd
  reports := s.reports

/-- The writers of the commands that are not polls. -/
def write (s : Dispatch) (l : Lifecycle) : Dispatch :=
  { s with commands := l.commands, keyed := l.keyed, reports := l.reports }

variable (settings : AgentSettings)

/-- One move on the tables and the requests.  An `UPDATE` of a locked row waits. -/
def move (s : Dispatch) : Event → Dispatch
  | .queue now id routerId action priority source sourceId expires =>
      s.write (s.life.step settings
        (.queue now id routerId action priority source sourceId expires))
  | .pollUpdate routerId =>
      if routerId ∈ s.locked then s else { s with updated := s.updated ++ [routerId] }
  | .pollSelect i now =>
      match s.updated[i]? with
      | some routerId =>
          let ids := (getPendingCommands settings routerId now none s.commands).map RouterCommand.id
          { s with updated := s.updated.eraseIdx i, polls := s.polls ++ [(routerId, ids)] }
      | none => s
  | .pollMark i now =>
      match s.polls[i]? with
      | some (_, ids) =>
          { s with
            commands := markCommandsSent now ids s.commands
            keyed := keyed_markCommandsSent s.keyed
            polls := s.polls.eraseIdx i }
      | none => s
  | .updateAbort i => { s with updated := s.updated.eraseIdx i }
  | .selectAbort i => { s with polls := s.polls.eraseIdx i }
  | .reportLoad now id status message =>
      s.write (s.life.step settings (.reportLoad now id status message))
  | .reportCommit i => s.write (s.life.step settings (.reportCommit i))
  | .cleanup now => s.write (s.life.step settings (.cleanup now))
  | .resetStale now threshold => s.write (s.life.step settings (.resetStale now threshold))

/-- The commands in the poll response of a move. -/
def response (s : Dispatch) : Event → List String
  | .pollMark i _ => (s.polls[i]?.map Prod.snd).getD []
  | .queue .. | .pollUpdate _ | .pollSelect .. | .updateAbort _ | .selectAbort _ | .reportLoad .. |
    .reportCommit _ | .cleanup _ | .resetStale .. => []

/-- The command turns from another status to `PENDING`. -/
def Reset (q q' : List RouterCommand) (id : String) : Prop :=
  (∃ c ∈ q, c.id = id ∧ c.status ≠ .pending) ∧ ∃ c ∈ q', c.id = id ∧ c.status = .pending

instance (q q' : List RouterCommand) (id : String) : Decidable (Reset q q' id) :=
  inferInstanceAs (Decidable ((∃ c ∈ q, c.id = id ∧ c.status ≠ .pending) ∧
    ∃ c ∈ q', c.id = id ∧ c.status = .pending))

def step (s : Dispatch) (e : Event) : Dispatch :=
  { s.move settings e with
    log := (s.log ++ s.response e).filter
      (fun id => decide (¬ Reset s.commands (s.move settings e).commands id)) }

/-- A table of commands and loaded reports, before the first poll. -/
def start (q : List RouterCommand) (hq : Keyed RouterCommand.id q)
    (reports : List (RouterCommand × RouterCommand)) : Dispatch where
  commands := q
  keyed := hq
  updated := []
  polls := []
  reports := reports
  log := []

/-- An open poll holds distinct commands of its router, and none that was answered since its last
reset. -/
structure PollOk (s : Dispatch) (p : ℕ × List String) : Prop where
  nodup : p.2.Nodup
  fresh : ∀ id ∈ p.2, id ∉ s.log
  rows : ∀ id ∈ p.2, ∃ c ∈ s.commands, c.id = id ∧ c.routerId = p.1

structure Invariant (s : Dispatch) : Prop where
  exclusive : s.log.Nodup
  /-- What was answered and not reset is in the table, and not pending. -/
  answered : ∀ id ∈ s.log, ∃ c ∈ s.commands, c.id = id ∧ c.status ≠ .pending
  /-- A router row is locked by one poll at most. -/
  locks : s.locked.Nodup
  polls : ∀ p ∈ s.polls, s.PollOk p

theorem start_invariant (q : List RouterCommand) (hq : Keyed RouterCommand.id q)
    (reports : List (RouterCommand × RouterCommand)) : (start q hq reports).Invariant :=
  ⟨List.nodup_nil, (fun _ h => by cases h), List.nodup_nil, (fun _ h => by cases h)⟩

/-! ### The moves -/

section Moves

variable {settings} {s : Dispatch}

theorem commandsKept_life {l : Lifecycle} (e : Lifecycle.Event) :
    CommandsKept l.commands (l.step settings e).commands := by
  have hupdate : ∀ (p : RouterCommand → Bool) (f : RouterCommand → RouterCommand),
      (∀ c, (f c).id = c.id ∧ (f c).routerId = c.routerId ∧ (f c).action = c.action) →
        CommandsKept l.commands (updateWhere p f l.commands) :=
    fun _ _ hf => .updateWhere hf _
  cases e with
  | queue now i routerId action priority source sourceId expires =>
      exact .of_mem (fun _ hc => mem_queueCommand hc)
  | pollSelect routerId now => exact .refl _
  | pollMark i now =>
      simp only [Lifecycle.step]
      split
      · exact hupdate _ _ (fun _ => ⟨rfl, rfl, rfl⟩)
      · exact .refl _
  | reportLoad now i status message =>
      simp only [Lifecycle.step]
      split
      · exact .refl _
      · exact .refl _
  | reportCommit i =>
      simp only [Lifecycle.step]
      split
      · exact hupdate _ _ (fun _ => ⟨rfl, rfl, rfl⟩)
      · exact .refl _
  | cleanup now => exact hupdate _ _ (fun _ => ⟨rfl, rfl, rfl⟩)
  | resetStale now threshold => exact hupdate _ _ (fun _ => ⟨rfl, rfl, rfl⟩)

theorem commandsKept_move (e : Event) : CommandsKept s.commands (s.move settings e).commands := by
  cases e with
  | queue now id routerId action priority source sourceId expires =>
      exact commandsKept_life (l := s.life) _
  | pollUpdate routerId =>
      simp only [move]
      split
      · exact .refl _
      · exact .refl _
  | pollSelect i now =>
      simp only [move]
      split
      · exact .refl _
      · exact .refl _
  | pollMark i now =>
      simp only [move]
      split
      · refine .updateWhere ?_ _
        exact fun _ => ⟨rfl, rfl, rfl⟩
      · exact .refl _
  | updateAbort i => exact .refl _
  | selectAbort i => exact .refl _
  | reportLoad now id status message => exact commandsKept_life (l := s.life) _
  | reportCommit i => exact commandsKept_life (l := s.life) _
  | cleanup now => exact commandsKept_life (l := s.life) _
  | resetStale now threshold => exact commandsKept_life (l := s.life) _

theorem router_ne_of_mem_eraseIdx (hi : s.Invariant) {i : ℕ} {p p' : ℕ × List String}
    (hp : s.polls[i]? = some p) (hp' : p' ∈ s.polls.eraseIdx i) : p'.1 ≠ p.1 := by
  obtain ⟨hlt, rfl⟩ := List.getElem?_eq_some_iff.mp hp
  have hperm : (s.polls[i] :: s.polls.eraseIdx i).Perm s.polls :=
    List.getElem_cons_eraseIdx_perm hlt
  have hnodup : (s.polls.map Prod.fst).Nodup := (List.nodup_append.mp hi.locks).2.1
  have hcons := (hperm.map Prod.fst).nodup_iff.mpr hnodup
  rw [List.map_cons, List.nodup_cons] at hcons
  intro heq
  exact hcons.1 (heq ▸ List.mem_map_of_mem hp')

theorem locks_move (hi : s.Invariant) (e : Event) : (s.move settings e).locked.Nodup := by
  have hold := hi.locks
  cases e with
  | pollUpdate routerId =>
      simp only [move]
      split
      · exact hold
      · rename_i hfree
        have hperm : (s.updated ++ [routerId] ++ s.polls.map Prod.fst).Perm (routerId :: s.locked) := by
          rw [List.append_assoc]
          exact List.perm_middle
        exact hperm.nodup_iff.mpr (List.nodup_cons.mpr ⟨hfree, hold⟩)
  | pollSelect i now =>
      cases hr : s.updated[i]? with
      | none => simpa only [move, hr] using hold
      | some routerId =>
          obtain ⟨hlt, rfl⟩ := List.getElem?_eq_some_iff.mp hr
          simp only [move, hr, locked, List.map_append, List.map_cons, List.map_nil]
          have hperm : (s.updated.eraseIdx i ++ (s.polls.map Prod.fst ++ [s.updated[i]])).Perm
              s.locked := by
            rw [← List.append_assoc]
            exact List.perm_append_comm.trans
              ((List.getElem_cons_eraseIdx_perm hlt).append_right (s.polls.map Prod.fst))
          exact hperm.nodup_iff.mpr hold
  | pollMark i now =>
      cases hp : s.polls[i]? with
      | none => simpa only [move, hp] using hold
      | some p =>
          simp only [move, hp]
          exact hold.sublist (((List.eraseIdx_sublist _ _).map Prod.fst).append_left _)
  | updateAbort i => exact hold.sublist ((List.eraseIdx_sublist _ _).append_right _)
  | selectAbort i => exact hold.sublist (((List.eraseIdx_sublist _ _).map Prod.fst).append_left _)
  | queue now id routerId action priority source sourceId expires => exact hold
  | reportLoad now id status message => exact hold
  | reportCommit i => exact hold
  | cleanup now => exact hold
  | resetStale now threshold => exact hold

variable (settings) in
/-- What a poll answers was not answered since its last reset, has no duplicates, and is marked as
sent. -/
theorem response_spec (hi : s.Invariant) (e : Event) :
    (s.response e).Nodup ∧ (∀ id ∈ s.response e, id ∉ s.log) ∧
      ∀ id ∈ s.response e, ∃ c ∈ (s.move settings e).commands, c.id = id ∧ c.status ≠ .pending := by
  cases e with
  | pollMark i now =>
      cases hp : s.polls[i]? with
      | none => simp [response, hp]
      | some p =>
          obtain ⟨hnodup, hfresh, hrows⟩ := hi.polls p (List.mem_of_getElem? hp)
          simp only [response, hp, Option.map_some, Option.getD_some]
          refine ⟨hnodup, hfresh, ?_⟩
          intro id hid
          obtain ⟨c, hc, rfl, _⟩ := hrows id hid
          refine ⟨c.markSent now, ?_, rfl, by simp [RouterCommand.markSent]⟩
          simp only [move, hp]
          exact mem_updateWhere.mpr ⟨c, hc, if_pos (decide_eq_true hid)⟩
  | queue now id routerId action priority source sourceId expires => simp [response]
  | pollUpdate routerId => simp [response]
  | pollSelect i now => simp [response]
  | updateAbort i => simp [response]
  | selectAbort i => simp [response]
  | reportLoad now id status message => simp [response]
  | reportCommit i => simp [response]
  | cleanup now => simp [response]
  | resetStale now threshold => simp [response]

theorem pollOk_select (hi : s.Invariant) (routerId : ℕ) (now : ℤ) :
    s.PollOk (routerId,
      (getPendingCommands settings routerId now none s.commands).map RouterCommand.id) := by
  have hpending : ∀ c ∈ getPendingCommands settings routerId now none s.commands,
      c ∈ s.commands ∧ c.routerId = routerId ∧ c.status = .pending := by
    intro c hc
    obtain ⟨hmem, hr, hst, _⟩ := mem_pendingFor.mp (mem_pendingFor_of_mem_getPendingCommands hc)
    exact ⟨hmem, hr, hst⟩
  refine ⟨keyed_getPendingCommands s.keyed, ?_, ?_⟩
  · intro id hid hlog
    obtain ⟨c, hc, rfl⟩ := List.mem_map.mp hid
    obtain ⟨hmem, _, hst⟩ := hpending c hc
    obtain ⟨c', hc', hid', hne⟩ := hi.answered c.id hlog
    obtain rfl := s.keyed.eq_of_key hmem hc' hid'.symm
    exact hne hst
  · intro id hid
    obtain ⟨c, hc, rfl⟩ := List.mem_map.mp hid
    obtain ⟨hmem, hr, _⟩ := hpending c hc
    exact ⟨c, hmem, rfl, hr⟩

/-- The commands of another open poll are not among those that a mark answers: they belong to another
router. -/
theorem not_mem_response (hi : s.Invariant) {i : ℕ} {now : ℤ} {p : ℕ × List String}
    (hp : p ∈ s.polls.eraseIdx i) {id : String} (hid : id ∈ p.2) :
    id ∉ s.response (.pollMark i now) := by
  cases hq : s.polls[i]? with
  | none => simp [response, hq]
  | some q =>
      simp only [response, hq, Option.map_some, Option.getD_some]
      intro hid'
      obtain ⟨c, hc, hcid, hr⟩ := (hi.polls p (List.mem_of_mem_eraseIdx hp)).rows id hid
      obtain ⟨c', hc', hcid', hr'⟩ := (hi.polls q (List.mem_of_getElem? hq)).rows id hid'
      obtain rfl := s.keyed.eq_of_key hc hc' (hcid.trans hcid'.symm)
      exact router_ne_of_mem_eraseIdx hi hq hp (hr.symm.trans hr')

theorem polls_move (hi : s.Invariant) (e : Event) :
    ∀ p ∈ (s.move settings e).polls, s.PollOk p ∧ ∀ id ∈ p.2, id ∉ s.response e := by
  have hold : ∀ p ∈ s.polls, s.response e = [] → s.PollOk p ∧ ∀ id ∈ p.2, id ∉ s.response e := by
    intro p hp hnone
    refine ⟨hi.polls p hp, ?_⟩
    rw [hnone]
    exact fun _ _ => List.not_mem_nil
  cases e with
  | pollUpdate routerId =>
      intro p hp
      refine hold p ?_ rfl
      simp only [move] at hp
      split at hp
      · exact hp
      · exact hp
  | pollSelect i now =>
      intro p hp
      cases hr : s.updated[i]? with
      | none =>
          simp only [move, hr] at hp
          exact hold p hp rfl
      | some routerId =>
          simp only [move, hr] at hp
          rcases List.mem_append.mp hp with hp | hp
          · exact hold p hp rfl
          · obtain rfl := List.mem_singleton.mp hp
            exact ⟨pollOk_select hi routerId now, fun _ _ => List.not_mem_nil⟩
  | pollMark i now =>
      intro p hp
      cases hq : s.polls[i]? with
      | none =>
          simp only [move, hq] at hp
          exact hold p hp (by simp [response, hq])
      | some q =>
          simp only [move, hq] at hp
          exact ⟨hi.polls p (List.mem_of_mem_eraseIdx hp), fun _ hid => not_mem_response hi hp hid⟩
  | updateAbort i => exact fun p hp => hold p hp rfl
  | selectAbort i => exact fun p hp => hold p (List.mem_of_mem_eraseIdx hp) rfl
  | queue now id routerId action priority source sourceId expires => exact fun p hp => hold p hp rfl
  | reportLoad now id status message => exact fun p hp => hold p hp rfl
  | reportCommit i => exact fun p hp => hold p hp rfl
  | cleanup now => exact fun p hp => hold p hp rfl
  | resetStale now threshold => exact fun p hp => hold p hp rfl

/-- **Step lemma**: every move keeps the invariant. -/
theorem step_invariant (hi : s.Invariant) (e : Event) : (s.step settings e).Invariant := by
  obtain ⟨hnodup, hnew, hsent⟩ := response_spec settings hi e
  have hkept : CommandsKept s.commands (s.step settings e).commands := commandsKept_move e
  refine ⟨?_, ?_, locks_move hi e, ?_⟩
  · refine (List.nodup_append.mpr ⟨hi.exclusive, hnodup, ?_⟩).filter _
    rintro id hid _ hid' rfl
    exact hnew id hid' hid
  · intro id hid
    obtain ⟨hmem, hreset⟩ := List.mem_filter.mp hid
    rcases List.mem_append.mp hmem with hlog | hresp
    · obtain ⟨c, hc, hcid, hne⟩ := hi.answered id hlog
      obtain ⟨c', hc', hcid', _⟩ := hkept c hc
      refine ⟨c', hc', hcid'.trans hcid, ?_⟩
      intro hpending
      exact of_decide_eq_true hreset ⟨⟨c, hc, hcid, hne⟩, c', hc', hcid'.trans hcid, hpending⟩
    · exact hsent id hresp
  · intro p hp
    obtain ⟨⟨hdistinct, hfresh, hrows⟩, hother⟩ := polls_move hi e p hp
    refine ⟨hdistinct, ?_, ?_⟩
    · intro id hid hlog
      rcases List.mem_append.mp (List.mem_filter.mp hlog).1 with hlog | hresp
      · exact hfresh id hid hlog
      · exact hother id hid hresp
    · intro id hid
      obtain ⟨c, hc, hcid, hr⟩ := hrows id hid
      obtain ⟨c', hc', hcid', hr', _⟩ := hkept c hc
      exact ⟨c', hc', hcid'.trans hcid, hr'.trans hr⟩

end Moves

/-- **Exclusive dispatch**: in every interleaving of polls, reports, clean-ups and resets no command is
in two poll responses between two of its resets. -/
theorem exclusive_dispatch (settings : AgentSettings) (q : List RouterCommand)
    (hq : Keyed RouterCommand.id q) (reports : List (RouterCommand × RouterCommand))
    (es : List Event) : Always (step settings) (fun s => s.log.Nodup) (start q hq reports) es :=
  always_of_invariant (fun _ e hi => step_invariant hi e) (fun _ hi => hi.exclusive)
    (start_invariant q hq reports)

def waitingCommand : RouterCommand :=
  ⟨"cmd-1", 1, .disconnect "alice", 2, .pending, 0, none, none, some 3600, none, 0, 3, none, none⟩

/-- Two polls of one router at once, and a third after a reset. -/
def overlappingPolls : List Event :=
  [.pollUpdate 1, .pollUpdate 1, .pollSelect 0 1, .pollUpdate 1, .pollMark 0 2, .pollUpdate 1,
    .pollSelect 0 3, .pollMark 0 4, .resetStale (minutes 10) 5, .pollUpdate 1, .pollSelect 0 5,
    .pollMark 0 6]

theorem exclusive_dispatch_overlapping :
    Always (step .default) (fun s => s.log.Nodup) (start [waitingCommand] (by decide) [])
      overlappingPolls :=
  exclusive_dispatch .default [waitingCommand] (by decide) [] overlappingPolls

end Dispatch

end IspBilling
