import IspBilling.Subscription
import Mathlib.Data.List.Forall2

/-! # The fallback check of active sessions

`check_and_disconnect_expired_sessions` (`app/modules/subscriptions/expiry_manager.py`) asks every
router for its active sessions, looks for a lapsed subscription of the username of each one and
removes the session when it finds one.  The lookup expects at most one row: a second lapsed row raises,
and the handler around the loop gives the router up.  A row that is `ACTIVE` and runs on is not looked
at.

A `SessionTurn` is a session when the loop comes to it, with the clock at that moment and whether the
router carries out a removal.  `session_check_exact_iff` says for which sessions and rows the check is
exact. -/

namespace IspBilling

open Rows

/-! ### The check -/

/-- A session, as `get_active_connections` returns it. -/
structure ActiveConnection where
  user : Option String
  name : Option String
  /-- The key `.id`. -/
  dotId : Option String
  type : UserType
deriving DecidableEq, Repr

/-- `conn.get("user") or conn.get("name")`; an empty name is none. -/
def ActiveConnection.username (c : ActiveConnection) : Option String :=
  (c.user.filter fun n => decide (n ≠ "")).or (c.name.filter fun n => decide (n ≠ ""))

/-- A session at its turn. -/
structure SessionTurn where
  connection : ActiveConnection
  now : ℤ
  /-- Whether the router carries out a removal from the active table of a type. -/
  accepts : UserType → String → Bool

/-- What becomes of a session. -/
inductive SessionOutcome where
  /-- It has no username. -/
  | nameless
  /-- No lapsed row. -/
  | kept
  | disconnected
  /-- `_disconnect_session` returned `False`. -/
  | notDisconnected
  /-- The lookup raised. -/
  | raised
  /-- The loop did not get there. -/
  | unchecked
deriving DecidableEq, Repr

/-- The condition of the lookup on status and date. -/
def Subscription.HasLapsed (now : ℤ) (s : Subscription) : Prop :=
  s.status = .expired ∨ s.status = .suspended ∨ s.status = .cancelled ∨ ∃ e ∈ s.endDate, e < now

instance (now : ℤ) : DecidablePred (Subscription.HasLapsed now) :=
  fun s => inferInstanceAs (Decidable (s.status = .expired ∨ s.status = .suspended ∨
    s.status = .cancelled ∨ ∃ e ∈ s.endDate, e < now))

/-- The rows of the lookup. -/
def lapsedRows (subs : List Subscription) (routerId : ℕ) (now : ℤ) (username : String) :
    List Subscription :=
  subs.filter fun s =>
    decide (s.username = username ∧ s.routerId = routerId ∧ s.HasLapsed now)

/-- `_disconnect_session`. -/
def SessionTurn.disconnectSession (t : SessionTurn) : Bool :=
  match t.connection.dotId with
  | none => false
  | some id => if id = "" then false else t.accepts t.connection.type id

section
variable (subs : List Subscription) (routerId : ℕ)

/-- The loop over the sessions of a router. -/
def checkSessions : List SessionTurn → List SessionOutcome
  | [] => []
  | t :: rest =>
      match t.connection.username with
      | none => .nameless :: checkSessions rest
      | some username =>
          match oneOrNone (lapsedRows subs routerId t.now username) with
          -- the exception leaves the loop
          | none => .raised :: rest.map fun _ => .unchecked
          | some none => .kept :: checkSessions rest
          | some (some _) =>
              (if t.disconnectSession then .disconnected else .notDisconnected) :: checkSessions rest

end

/-- A router, with its sessions or the error of the connection. -/
structure CheckedRouter where
  id : ℕ
  online : Bool
  sessions : Except String (List SessionTurn)

def CheckedRouter.turns (r : CheckedRouter) : List SessionTurn :=
  match r.sessions with
  | .error _ => []
  | .ok turns => turns

/-- The results of the check, and what became of the sessions of each router. -/
structure SessionReport where
  routersChecked : ℕ
  sessionsChecked : ℕ
  disconnected : ℕ
  errors : List (ℕ × String)
  outcomes : List (List SessionOutcome)
deriving DecidableEq, Repr

/-- One round of the loop over the routers. -/
def visitRouter (subs : List Subscription) (report : SessionReport) (r : CheckedRouter) :
    SessionReport :=
  match r.sessions with
  | .error message =>
      { report with
        routersChecked := report.routersChecked + 1
        errors := report.errors ++ [(r.id, message)]
        outcomes := report.outcomes ++ [[]] }
  | .ok turns =>
      let outcomes := checkSessions subs r.id turns
      { routersChecked := report.routersChecked + 1
        sessionsChecked := report.sessionsChecked + turns.length
        disconnected := report.disconnected + outcomes.count .disconnected
        errors := report.errors ++ (if .raised ∈ outcomes then
          [(r.id, "Multiple rows were found when one or none was required")] else [])
        outcomes := report.outcomes ++ [outcomes] }

/-- The routers of the check: the one that is asked for, else those that are online. -/
def routersToCheck (routerId : Option ℕ) (routers : List CheckedRouter) : List CheckedRouter :=
  match routerId with
  | none => routers.filter fun r => r.online
  | some id => if id = 0 then routers.filter fun r => r.online
      else routers.filter fun r => decide (r.id = id)

/-- `check_and_disconnect_expired_sessions`. -/
def checkAndDisconnectExpiredSessions (subs : List Subscription) (routerId : Option ℕ)
    (routers : List CheckedRouter) : SessionReport :=
  (routersToCheck routerId routers).foldl (visitRouter subs) ⟨0, 0, 0, [], []⟩

/-! ### What it should do -/

section
variable (subs : List Subscription) (routerId : ℕ)

/-- Some subscription of the username on the router has lapsed. -/
def SessionTurn.SomeLapsed (t : SessionTurn) : Prop :=
  ∃ username ∈ t.connection.username, ∃ s ∈ subs,
    s.username = username ∧ s.routerId = routerId ∧ s.HasLapsed t.now

/-- Some subscription of the username on the router is `ACTIVE` and ends later. -/
def SessionTurn.SomeRunning (t : SessionTurn) : Prop :=
  ∃ username ∈ t.connection.username, ∃ s ∈ subs,
    s.username = username ∧ s.routerId = routerId ∧ s.status = .active ∧ ∃ e ∈ s.endDate, t.now < e

/-- The session is to be disconnected. -/
def SessionTurn.Due (t : SessionTurn) : Prop := t.SomeLapsed subs routerId ∧ ¬ t.SomeRunning subs routerId

/-- The check of a router is exact: it disconnects the sessions that are due, and gets to all that have
a username. -/
def CheckExact (turns : List SessionTurn) (outcomes : List SessionOutcome) : Prop :=
  List.Forall₂ (fun t o => (o = .disconnected ↔ t.Due subs routerId) ∧
    (o = .unchecked → t.connection.username = none)) turns outcomes

/-! ### When it does -/

/-- The number of rows that the lookup finds. -/
def SessionTurn.lapsedCount (t : SessionTurn) : ℕ :=
  match t.connection.username with
  | none => 0
  | some username => (lapsedRows subs routerId t.now username).length

/-- The session has the key `.id`, and the router carries out its removal. -/
def SessionTurn.Removable (t : SessionTurn) : Prop :=
  ∃ id ∈ t.connection.dotId, id ≠ "" ∧ t.accepts t.connection.type id = true

/-- One lapsed row: the session is removable exactly if no row is running.  Several: some row is
running, so that nothing is to be done. -/
def SessionTurn.Answered (t : SessionTurn) : Prop :=
  (t.lapsedCount subs routerId = 1 → (t.Removable ↔ ¬ t.SomeRunning subs routerId)) ∧
    (2 ≤ t.lapsedCount subs routerId → t.SomeRunning subs routerId)

/-- Every session is answered, and after one with several lapsed rows no username follows. -/
def Answerable (turns : List SessionTurn) : Prop :=
  (∀ t ∈ turns, t.Answered subs routerId) ∧
    turns.Pairwise fun t t' => 2 ≤ t.lapsedCount subs routerId → t'.connection.username = none

/-! ### Single sessions -/

variable {subs routerId}

theorem SessionTurn.disconnectSession_iff (t : SessionTurn) :
    t.disconnectSession = true ↔ t.Removable := by
  unfold disconnectSession Removable
  cases t.connection.dotId with
  | none => simp
  | some id => simp

theorem SessionTurn.someLapsed_iff {t : SessionTurn} :
    t.SomeLapsed subs routerId ↔ 0 < t.lapsedCount subs routerId := by
  unfold SomeLapsed lapsedCount
  cases t.connection.username with
  | none => simp
  | some username =>
      simp only [Option.mem_some_iff, exists_eq_left', lapsedRows, List.length_pos_iff_exists_mem,
        List.mem_filter, decide_eq_true_eq]

namespace SessionTurn

variable {t : SessionTurn}

theorem lapsedCount_of_nameless (h : t.connection.username = none) :
    t.lapsedCount subs routerId = 0 := by
  rw [lapsedCount, h]

theorem not_due_of_count_zero (h : t.lapsedCount subs routerId = 0) : ¬ t.Due subs routerId := by
  rintro ⟨hlapsed, -⟩
  have := someLapsed_iff.mp hlapsed
  omega

theorem answered_of_count_zero (h : t.lapsedCount subs routerId = 0) : t.Answered subs routerId := by
  constructor <;> omega

theorem due_iff_of_count_pos (h : 0 < t.lapsedCount subs routerId) :
    t.Due subs routerId ↔ ¬ t.SomeRunning subs routerId :=
  and_iff_right (someLapsed_iff.mpr h)

end SessionTurn

/-! ### The loop -/

variable (subs routerId) in
theorem checkSessions_cons (t : SessionTurn) (rest : List SessionTurn) :
    (t.lapsedCount subs routerId = 0 ∧ ∃ o, (o = .nameless ∨ o = .kept) ∧
      checkSessions subs routerId (t :: rest) = o :: checkSessions subs routerId rest) ∨
    (t.lapsedCount subs routerId = 1 ∧ ∃ o, (o = .disconnected ∨ o = .notDisconnected) ∧
      (o = .disconnected ↔ t.Removable) ∧
      checkSessions subs routerId (t :: rest) = o :: checkSessions subs routerId rest) ∨
    (2 ≤ t.lapsedCount subs routerId ∧
      checkSessions subs routerId (t :: rest) = .raised :: rest.map fun _ => .unchecked) := by
  unfold SessionTurn.lapsedCount
  rw [checkSessions]
  cases t.connection.username with
  | none => exact Or.inl ⟨rfl, .nameless, Or.inl rfl, rfl⟩
  | some username =>
      simp only
      match hrows : lapsedRows subs routerId t.now username with
      | [] => exact Or.inl ⟨rfl, .kept, Or.inr rfl, rfl⟩
      | [s] =>
          refine Or.inr (Or.inl ⟨rfl, _, ?_, ?_, rfl⟩)
          · split
            · exact Or.inl rfl
            · exact Or.inr rfl
          · rw [← t.disconnectSession_iff]
            split
            · rename_i h
              simp [h]
            · rename_i h
              simp [h]
      | s :: s' :: more => exact Or.inr (Or.inr ⟨by simp, rfl⟩)

theorem checkExact_unchecked {turns : List SessionTurn} :
    CheckExact subs routerId turns (turns.map fun _ => .unchecked) ↔
      ∀ t ∈ turns, t.connection.username = none := by
  rw [CheckExact, List.forall₂_map_right_iff, List.forall₂_same]
  constructor
  · intro h t ht
    exact (h t ht).2 rfl
  · intro h t ht
    have hcount : t.lapsedCount subs routerId = 0 := SessionTurn.lapsedCount_of_nameless (h t ht)
    refine ⟨?_, fun _ => h t ht⟩
    simp [SessionTurn.not_due_of_count_zero hcount]

theorem answerable_cons {t : SessionTurn} {rest : List SessionTurn} :
    Answerable subs routerId (t :: rest) ↔ t.Answered subs routerId ∧
      (2 ≤ t.lapsedCount subs routerId → ∀ t' ∈ rest, t'.connection.username = none) ∧
      Answerable subs routerId rest := by
  unfold Answerable
  rw [List.forall_mem_cons, List.pairwise_cons]
  constructor
  · rintro ⟨⟨ht, hrest⟩, hlast, hpairs⟩
    exact ⟨ht, fun hc t' ht' => hlast t' ht' hc, hrest, hpairs⟩
  · rintro ⟨ht, hlast, hrest, hpairs⟩
    exact ⟨⟨ht, hrest⟩, fun t' ht' hc => hlast hc t' ht', hpairs⟩

theorem answerable_of_nameless {turns : List SessionTurn}
    (h : ∀ t ∈ turns, t.connection.username = none) : Answerable subs routerId turns := by
  refine ⟨fun t ht => ?_, ?_⟩
  · exact SessionTurn.answered_of_count_zero (SessionTurn.lapsedCount_of_nameless (h t ht))
  · rw [List.pairwise_iff_forall_sublist]
    intro t t' hsub hc
    have ht := h t (hsub.subset List.mem_cons_self)
    rw [SessionTurn.lapsedCount_of_nameless ht] at hc
    omega

/-- The loop over the sessions of a router is exact exactly if they can be answered. -/
theorem checkSessions_exact_iff (turns : List SessionTurn) :
    CheckExact subs routerId turns (checkSessions subs routerId turns) ↔
      Answerable subs routerId turns := by
  induction turns with
  | nil => simp [CheckExact, Answerable, checkSessions]
  | cons t rest ih =>
      rw [answerable_cons, ← ih]
      rcases checkSessions_cons subs routerId t rest with
        ⟨hcount, o, ho, heq⟩ | ⟨hcount, o, ho, hremovable, heq⟩ | ⟨hcount, heq⟩
      · -- no lapsed row: nothing to do, and nothing is done
        have hdue := SessionTurn.not_due_of_count_zero hcount
        have hanswered := SessionTurn.answered_of_count_zero hcount
        rw [heq, CheckExact, List.forall₂_cons]
        rcases ho with rfl | rfl <;> simp [hdue, hanswered, hcount, CheckExact]
      · -- one lapsed row: the session is removed if it can be
        have hpos : 0 < t.lapsedCount subs routerId := by omega
        have hdue := SessionTurn.due_iff_of_count_pos hpos
        have hanswered : t.Answered subs routerId ↔
            (t.Removable ↔ ¬ t.SomeRunning subs routerId) := by
          simp [SessionTurn.Answered, hcount]
        have hchecked : o ≠ .unchecked := by
          rcases ho with rfl | rfl <;> simp
        rw [heq, CheckExact, List.forall₂_cons, hremovable, hdue, hanswered]
        simp [hchecked, hcount, CheckExact]
      · -- several: the lookup raises, and the rest is left
        have hpos : 0 < t.lapsedCount subs routerId := by omega
        have hdue := SessionTurn.due_iff_of_count_pos hpos
        have hanswered : t.Answered subs routerId ↔ t.SomeRunning subs routerId := by
          have hne : t.lapsedCount subs routerId ≠ 1 := by omega
          simp [SessionTurn.Answered, hcount, hne]
        rw [heq, CheckExact, List.forall₂_cons, ← CheckExact, checkExact_unchecked, hanswered, hdue,
          ih]
        simp only [reduceCtorEq, false_iff, not_not, false_implies, and_true, hcount, true_implies]
        constructor
        · rintro ⟨hrunning, hnameless⟩
          exact ⟨hrunning, hnameless, answerable_of_nameless hnameless⟩
        · rintro ⟨hrunning, hnameless, -⟩
          exact ⟨hrunning, hnameless⟩

end

/-! ### All routers -/

def CheckedRouter.outcomes (subs : List Subscription) (r : CheckedRouter) : List SessionOutcome :=
  checkSessions subs r.id r.turns

theorem visitRouter_outcomes (subs : List Subscription) (report : SessionReport) (r : CheckedRouter) :
    (visitRouter subs report r).outcomes = report.outcomes ++ [r.outcomes subs] := by
  unfold visitRouter CheckedRouter.outcomes CheckedRouter.turns
  cases r.sessions with
  | error message => rfl
  | ok turns => rfl

theorem foldl_visitRouter_outcomes (subs : List Subscription) (routers : List CheckedRouter)
    (report : SessionReport) :
    (routers.foldl (visitRouter subs) report).outcomes =
      report.outcomes ++ routers.map (CheckedRouter.outcomes subs) := by
  induction routers generalizing report with
  | nil => simp
  | cons r rest ih =>
      rw [List.foldl_cons, ih, visitRouter_outcomes, List.append_assoc]
      rfl

/-- The fallback check is exact on every router exactly if the sessions of every router can be
answered. -/
theorem session_check_exact_iff (subs : List Subscription) (routerId : Option ℕ)
    (routers : List CheckedRouter) :
    List.Forall₂ (fun r outcomes => CheckExact subs r.id r.turns outcomes)
      (routersToCheck routerId routers)
      (checkAndDisconnectExpiredSessions subs routerId routers).outcomes ↔
    ∀ r ∈ routersToCheck routerId routers, Answerable subs r.id r.turns := by
  rw [checkAndDisconnectExpiredSessions, foldl_visitRouter_outcomes, List.nil_append,
    List.forall₂_map_right_iff, List.forall₂_same]
  apply forall₂_congr
  intro r _
  exact checkSessions_exact_iff r.turns

/-- Two expired subscriptions of one username, and one of another. -/
def lapsedSubscriptions : List Subscription :=
  [⟨1, some 7, 1, 1, .hotspot, .expired, "ann", "pw", 0, some 5, true, none⟩,
   ⟨2, some 7, 1, 1, .pppoe, .expired, "ann", "pw", 0, some 5, true, none⟩,
   ⟨3, some 7, 1, 1, .hotspot, .expired, "bob", "pw", 0, some 5, true, none⟩]

/-- A router that carries out every removal, with a session of each username. -/
def annAndBob : CheckedRouter where
  id := 1
  online := true
  sessions := .ok
    [⟨⟨some "ann", none, some "*1", .hotspot⟩, 9, fun _ _ => true⟩,
     ⟨⟨some "bob", none, some "*2", .hotspot⟩, 9, fun _ _ => true⟩]

/-- The two rows of the first username keep both sessions connected, and the second is not checked. -/
theorem annAndBob_stay_connected :
    (checkAndDisconnectExpiredSessions lapsedSubscriptions none [annAndBob]).outcomes =
      [[.raised, .unchecked]] ∧
    ¬ List.Forall₂ (fun r outcomes => CheckExact lapsedSubscriptions r.id r.turns outcomes)
      (routersToCheck none [annAndBob])
      (checkAndDisconnectExpiredSessions lapsedSubscriptions none [annAndBob]).outcomes := by
  have houtcomes : (checkAndDisconnectExpiredSessions lapsedSubscriptions none [annAndBob]).outcomes =
      [[.raised, .unchecked]] := by decide
  refine ⟨houtcomes, ?_⟩
  rw [houtcomes]
  intro h
  obtain ⟨hrouter, -⟩ := List.forall₂_cons.mp h
  obtain ⟨-, hrest⟩ := List.forall₂_cons.mp hrouter
  obtain ⟨⟨-, hbob⟩, -⟩ := List.forall₂_cons.mp hrest
  exact absurd (hbob rfl) (by decide)

end IspBilling
