import IspBilling.PingMonitor
import IspBilling.Rows

/-! # Stopping and notifying a monitored session

`stop_monitoring` cancels the loop of a session, waits for it and then deletes its entry; but the loop
deletes the entry itself when it ends, and the result with it.  So a stop of a loop that has begun
raises `KeyError`, and `mark_online_from_notify`, which stops the loop after it has recorded the
result, loses the result.

`ping_monitor_safe` says when none of this happens, for all interleavings of any number of sessions:
no stop and no notification meets a loop that has begun (`Permitted`, `Careful`).  Then a session has
at most one task that is still to do something, and it is the registered one (`Inv`). -/

namespace IspBilling.Ping

open Rows Runs

/-! ### What is promised -/

namespace Coroutine

/-- The request notifies the session and has not come to its stop. -/
def records (session : String) : Coroutine → Bool
  | .markMirror m | .markIdentity m => m.session = session
  | _ => false

/-- The request notifies the session and has come past its stop. -/
def sends (session : String) : Coroutine → Bool
  | .markMessages s _ => s = session
  | _ => false

end Coroutine

namespace PingMonitor

section Specification

variable (p : PingMonitor)

/-- `get_latest_result` answers that both stages are verified. -/
def isVerified (session : String) : Bool := (p.getLatestResult session).any PingResult.verified

/-- No `stop_monitoring` has raised `KeyError`, and the results that are promised are there. -/
def Safe : Prop :=
  p.keyErrors = 0 ∧ ∀ session, (p.promises session).isSome → p.isVerified session = true

/-- No loop of the session has begun and is not over. -/
def NoneRunning (session : String) : Prop :=
  ∀ l ∈ p.loops, l.session = session → l.isRunning = false

/-- A `mark_online_from_notify` has recorded its result and has not come to its stop. -/
def Recording (session : String) : Prop :=
  ∃ c ∈ p.coroutines, c.records session = true

/-- A `mark_online_from_notify` has come past its stop and has not returned. -/
def Sending (session : String) : Prop :=
  ∃ c ∈ p.coroutines, c.sends session = true

/-- When a part of a request does no harm. -/
def Permitted : Act → Prop
  | .mark _ m _ => p.NoneRunning m.session
  | .create a => p.activeMonitors a.session = none ∧ ¬ p.Sending a.session
  | .stop session _ => ∀ task ∈ p.activeMonitors session,
      ∃ l ∈ p.loops[task]?, l.point = .fresh ∧ l.cancelled = false
  | _ => True

/-- When an event does no harm: a notification begins while no loop of its session runs, and no such loop
begins before it has come to its stop; a stop that finds a monitor finds a loop that has neither begun
nor been cancelled; a loop is created when none is registered and no notification is on its way to the
end. -/
def Careful : Event → Prop
  | .loop task _ => ∀ l ∈ p.loops[task]?, l.point = .fresh → l.cancelled = false →
      ¬ p.Recording l.session
  | e => ∀ act ∈ p.actOf e, p.Permitted act

instance : DecidablePred p.Permitted
  | .mark _ m _ => inferInstanceAs (Decidable (∀ l ∈ p.loops, l.session = m.session →
      l.isRunning = false))
  | .create a => inferInstanceAs (Decidable (p.activeMonitors a.session = none ∧
      ¬ ∃ c ∈ p.coroutines, c.sends a.session = true))
  | .stop session _ => inferInstanceAs (Decidable (∀ task ∈ p.activeMonitors session,
      ∃ l ∈ p.loops[task]?, l.point = .fresh ∧ l.cancelled = false))
  | .goOn _ | .release .. | .markReturns _ => isTrue trivial

instance : DecidablePred p.Careful
  | .loop task _ => inferInstanceAs (Decidable (∀ l ∈ p.loops[task]?, l.point = .fresh →
      l.cancelled = false → ¬ ∃ c ∈ p.coroutines, c.records l.session = true))
  | .start a now => inferInstanceAs (Decidable (∀ act ∈ p.actOf (.start a now), p.Permitted act))
  | .mark m now => inferInstanceAs (Decidable (∀ act ∈ p.actOf (.mark m now), p.Permitted act))
  | .stop session => inferInstanceAs (Decidable (∀ act ∈ p.actOf (.stop session), p.Permitted act))
  | .checkin ipAddress pending =>
      inferInstanceAs (Decidable (∀ act ∈ p.actOf (.checkin ipAddress pending), p.Permitted act))
  | .resume i answer =>
      inferInstanceAs (Decidable (∀ act ∈ p.actOf (.resume i answer), p.Permitted act))

end Specification

end PingMonitor

/-! ### The loop -/

namespace MonitorLoop

variable {l : MonitorLoop} {isPrivate : String → Bool} {input : LoopInput}

/-- What every stretch of a loop that begins or runs does. -/
structure Moves (l : MonitorLoop) (o : LoopOutcome) : Prop where
  session : o.loop.session = l.session
  cancelled : o.loop.cancelled = l.cancelled
  begun : o.loop.point ≠ .fresh
  cleanup : o.cleanup = true → o.loop.isEnded = true

theorem moves_waitAt {l' : MonitorLoop} (hs : l'.session = l.session) (hc : l'.cancelled = l.cancelled)
    {point : LoopPoint} (hp : point ≠ .fresh) : Moves l (l'.waitAt point) :=
  ⟨hs, hc, hp, fun h => absurd h Bool.false_ne_true⟩

theorem moves_finish (l : MonitorLoop) (failed : Bool) : Moves l (l.finish failed) :=
  ⟨rfl, rfl, LoopPoint.noConfusion, fun _ => rfl⟩

theorem moves_nextAttempt {l' : MonitorLoop} (hs : l'.session = l.session)
    (hc : l'.cancelled = l.cancelled) : Moves l l'.nextAttempt := by
  unfold nextAttempt
  split
  · refine ⟨hs, hc, ?_, fun h => absurd h Bool.false_ne_true⟩
    dsimp only
    split
    · exact LoopPoint.noConfusion
    · split <;> exact LoopPoint.noConfusion
  · apply moves_waitAt
    · exact hs
    · exact hc
    · simp

theorem moves_afterChecks {l' : MonitorLoop} (hs : l'.session = l.session)
    (hc : l'.cancelled = l.cancelled) : Moves l l'.afterChecks := by
  unfold afterChecks
  split <;> exact moves_waitAt hs hc (by simp)

theorem moves_afterPing {l' : MonitorLoop} (hs : l'.session = l.session)
    (hc : l'.cancelled = l.cancelled) : Moves l l'.afterPing := by
  unfold afterPing
  split
  · exact moves_waitAt hs hc (by simp)
  · exact moves_afterChecks hs hc

theorem moves_countPing (reachable : Bool) : Moves l (l.countPing reachable) := by
  unfold countPing
  split
  · dsimp only
    split
    · apply moves_waitAt
      · rfl
      · rfl
      · simp
    · exact moves_afterPing rfl rfl
  · exact moves_afterPing rfl rfl

theorem moves_countApi (isOpen : Bool) : Moves l (l.countApi isOpen) := by
  unfold countApi
  split
  · dsimp only
    split
    · apply moves_waitAt
      · rfl
      · rfl
      · simp
    · exact moves_afterChecks rfl rfl
  · exact moves_afterChecks rfl rfl

theorem moves_answered (positive : Bool) : Moves l (l.answered isPrivate positive) := by
  unfold answered
  split
  · split
    · exact moves_waitAt rfl rfl (by simp)
    · exact moves_nextAttempt rfl rfl
  · exact ⟨rfl, rfl, LoopPoint.noConfusion, fun _ => rfl⟩
  · exact moves_waitAt rfl rfl (by simp)
  · exact moves_countPing _
  · exact moves_afterPing rfl rfl
  · exact moves_waitAt rfl rfl (by simp)
  · exact moves_countApi _
  · exact moves_afterChecks rfl rfl
  · exact moves_finish l false
  · exact moves_nextAttempt rfl rfl
  · exact moves_waitAt rfl rfl (by simp)
  · exact moves_waitAt rfl rfl (by simp)
  · exact moves_nextAttempt rfl rfl
  · exact moves_finish l false
  · exact moves_waitAt rfl rfl (by simp)

theorem moves_interrupted : Moves l (l.interrupted isPrivate) := by
  unfold interrupted
  split
  · exact moves_answered false
  · exact moves_nextAttempt rfl rfl
  · exact moves_finish l true
  · exact moves_waitAt rfl rfl (by simp)
  · exact moves_waitAt rfl rfl (by simp)

theorem moves_advance (h : l.cancelled = false) : Moves l (l.advance isPrivate input) := by
  unfold advance
  rw [if_neg (by rw [h]; exact Bool.false_ne_true)]
  cases input with
  | answer positive => exact moves_answered positive
  | raised => exact moves_interrupted

theorem advance_of_idle {failed : Bool}
    (h : l.point = .ended failed ∨ l.cancelled = true ∧ l.point = .fresh ∧ failed = false) :
    l.advance isPrivate input = l.waitAt (.ended failed) := by
  obtain h | ⟨hc, h, rfl⟩ := h
  · cases input <;> simp only [advance, stopped, answered, interrupted, h, ite_self]
  · simp only [advance, hc, if_true, stopped, h]

end MonitorLoop

/-! ### The invariant -/

/-- The session that a request acts on after it has written. -/
def Coroutine.subject : Coroutine → Option String
  | .markMirror m | .markIdentity m => some m.session
  | .markStop session _ | .markMessages session _ | .stopWait session _ => some session
  | _ => none

/-- The session whose task a request waits for. -/
def Coroutine.stops : Coroutine → Option String
  | .markStop session _ | .stopWait session _ => some session
  | _ => none

namespace PingMonitor

section Invariant

variable (p : PingMonitor)

/-- The session is verified, and no loop is running that could change that. -/
def Held (session : String) : Prop := p.isVerified session = true ∧ p.NoneRunning session

/-- The registered task of the session has been cancelled. -/
def Stopping (session : String) (task : ℕ) : Prop :=
  p.activeMonitors session = some task ∧ ∃ l, p.loops[task]? = some l ∧ l.cancelled = true

/-- What a request relies on while it waits. -/
def Fits : Coroutine → Prop
  | .markMirror m | .markIdentity m => p.Held m.session
  | .markStop session task => p.Held session ∧ p.Stopping session task
  | .markMessages session _ => p.Held session ∧ p.activeMonitors session = none
  | .stopWait session task => p.Stopping session task
  | _ => True

structure Core : Prop where
  noError : p.keyErrors = 0
  registered : ∀ t l, p.loops[t]? = some l → l.isLive = true → p.activeMonitors l.session = some t
  cancelled : ∀ l ∈ p.loops, l.cancelled = true → l.point = .fresh ∨ l.point = .ended false
  promised : ∀ s n, p.promises s = some n → p.Held s ∧ n ≤ p.loops.length ∧
    ∀ t l, p.loops[t]? = some l → l.session = s → l.isLive = true → n ≤ t

/-- The invariant: also, every request finds what it relies on, and no two wait for the task of one
session. -/
structure Inv : Prop extends p.Core where
  fits : ∀ c ∈ p.coroutines, p.Fits c
  oneStop : ∀ (i j : ℕ) (c d : Coroutine) (s : String), p.coroutines[i]? = some c →
    p.coroutines[j]? = some d → c.stops = some s → d.stops = some s → i = j

/-- What an act leaves behind when the `i`-th request does it and waits at `next` then: the monitor `q`,
on which the other requests can still rely. -/
structure Keeps (i : ℕ) (q : PingMonitor) (next : Coroutine) : Prop where
  core : q.Core
  fits : ∀ (j : ℕ) (c : Coroutine), p.coroutines[j]? = some c → j ≠ i → q.Fits c
  alone : ∀ s, next.stops = some s →
    ∀ (j : ℕ) (c : Coroutine), p.coroutines[j]? = some c → j ≠ i → c.stops ≠ some s
  nextFits : q.Fits next

end Invariant

variable {p q : PingMonitor}

/-- The invariant for a list of requests in which only the `i`-th one has moved. -/
theorem Keeps.inv (hp : p.Inv) {i : ℕ} {next : Coroutine} (h : p.Keeps i q next)
    {cs : List Coroutine}
    (hcs : ∀ j c, cs[j]? = some c → j = i ∧ c = next ∨ j ≠ i ∧ p.coroutines[j]? = some c) :
    Inv { q with coroutines := cs } where
  noError := h.core.noError
  registered := h.core.registered
  cancelled := h.core.cancelled
  promised := h.core.promised
  fits := by
    intro c hc
    obtain ⟨j, hj⟩ := List.mem_iff_getElem?.mp hc
    obtain ⟨rfl, rfl⟩ | ⟨hne, hold⟩ := hcs j c hj
    · exact h.nextFits
    · exact h.fits j c hold hne
  oneStop := by
    intro j k c d s hj hk hc hd
    obtain ⟨rfl, rfl⟩ | ⟨hjne, hjold⟩ := hcs j c hj
    · obtain ⟨rfl, rfl⟩ | ⟨hkne, hkold⟩ := hcs k d hk
      · rfl
      · exact absurd hd (h.alone s hc k d hkold hkne)
    · obtain ⟨rfl, rfl⟩ | ⟨hkne, hkold⟩ := hcs k d hk
      · exact absurd hc (h.alone s hd j c hjold hjne)
      · exact hp.oneStop j k c d s hjold hkold hc hd

theorem Fits.carry {c : Coroutine} (h : p.Fits c)
    (hheld : ∀ s, c.subject = some s → p.Held s → q.Held s)
    (hstop : ∀ s t, c.stops = some s → p.Stopping s t → q.Stopping s t)
    (hfree : ∀ s left, c = .markMessages s left → p.activeMonitors s = none →
      q.activeMonitors s = none) : q.Fits c := by
  cases c with
  | startLookup a => trivial
  | startIdentity a => trivial
  | markMirror m => exact hheld _ rfl h
  | markIdentity m => exact hheld _ rfl h
  | markStop s t => exact ⟨hheld s rfl h.1, hstop s t rfl h.2⟩
  | markMessages s left => exact ⟨hheld s rfl h.1, hfree s left rfl h.2⟩
  | stopWait s t => exact hstop s t rfl h
  | returned => trivial

theorem Fits.stopping {c : Coroutine} (h : p.Fits c) {s : String} (hs : c.stops = some s) :
    ∃ t, p.Stopping s t := by
  cases c with
  | markStop s₁ t =>
      obtain rfl : s₁ = s := Option.some_inj.mp hs
      exact ⟨t, h.2⟩
  | stopWait s₁ t =>
      obtain rfl : s₁ = s := Option.some_inj.mp hs
      exact ⟨t, h⟩
  | _ => exact absurd hs (by simp [Coroutine.stops])

theorem isLive_iff {l : MonitorLoop} : l.isLive = true ↔ l.cancelled = false ∧ l.isEnded = false := by
  simp [MonitorLoop.isLive]

theorem Stopping.task_ne {s : String} {t u : ℕ} {l : MonitorLoop} (h : p.Stopping s u)
    (hl : p.loops[t]? = some l) (hc : l.cancelled = false) : u ≠ t := by
  obtain ⟨_, k, hk, hkc⟩ := h
  rintro rfl
  obtain rfl := Option.some_inj.mp (hl.symm.trans hk)
  rw [hc] at hkc
  exact absurd hkc Bool.false_ne_true

theorem Core.not_live (h : p.Core) {s : String} (hfree : p.activeMonitors s = none) {t : ℕ}
    {l : MonitorLoop} (hl : p.loops[t]? = some l) (hs : l.session = s) : l.isLive ≠ true := by
  intro hlive
  have hreg := h.registered t l hl hlive
  rw [hs, hfree] at hreg
  exact absurd hreg (by simp)

theorem Core.not_live_of_stopping (h : p.Core) {s : String} {t : ℕ} (hstop : p.Stopping s t) {t' : ℕ}
    {l : MonitorLoop} (hl : p.loops[t']? = some l) (hs : l.session = s) : l.isLive ≠ true := by
  intro hlive
  have hreg := h.registered t' l hl hlive
  rw [hs, hstop.1] at hreg
  exact hstop.task_ne hl (isLive_iff.mp hlive).1 (Option.some_inj.mp hreg)

/-! ### The acts -/

/-- A task is replaced by one that is not to do anything any more. -/
def retire (p : PingMonitor) (t : ℕ) (l : MonitorLoop) : PingMonitor :=
  { p with loops := p.loops.set t l }

section Retired

variable {t : ℕ} {l l' : MonitorLoop}

theorem Held.retire {s : String} (h : p.Held s) (hrunning : l'.isRunning = false) :
    (p.retire t l').Held s := by
  refine ⟨h.1, ?_⟩
  intro k hk hks
  obtain hk | rfl := List.mem_or_eq_of_mem_set hk
  · exact h.2 k hk hks
  · exact hrunning

theorem Stopping.retire {s : String} {u : ℕ} (h : p.Stopping s u) (hl : p.loops[t]? = some l)
    (hc : l.cancelled = true → l'.cancelled = true) : (p.retire t l').Stopping s u := by
  obtain ⟨hs, k, hk, hkc⟩ := h
  by_cases hu : u = t
  · subst hu
    obtain rfl := Option.some_inj.mp (hl.symm.trans hk)
    exact ⟨hs, l', List.getElem?_set_self (List.getElem?_eq_some_iff.mp hl).1, hc hkc⟩
  · exact ⟨hs, k, (List.getElem?_set_ne (Ne.symm hu)).trans hk, hkc⟩

theorem Core.retire (h : p.Core) (hrunning : l'.isRunning = false) (hlive : l'.isLive ≠ true)
    (hc : l'.cancelled = true → l'.point = .fresh ∨ l'.point = .ended false) :
    (p.retire t l').Core := by
  have hold : ∀ (u : ℕ) (k : MonitorLoop), (p.retire t l').loops[u]? = some k → k.isLive = true →
      p.loops[u]? = some k := by
    intro u k hk hklive
    obtain ⟨_, rfl⟩ | ⟨_, hk⟩ := getElem?_set_cases hk
    · exact absurd hklive hlive
    · exact hk
  refine ⟨h.noError, ?_, ?_, ?_⟩
  · intro u k hk hklive
    exact h.registered u k (hold u k hk hklive) hklive
  · intro k hk hkc
    obtain hk | rfl := List.mem_or_eq_of_mem_set hk
    · exact h.cancelled k hk hkc
    · exact hc hkc
  · intro s n hn
    obtain ⟨hs, hle, hrest⟩ := h.promised s n hn
    have hlength : (p.retire t l').loops.length = p.loops.length := List.length_set
    refine ⟨hs.retire hrunning, by omega, ?_⟩
    intro u k hk hks hklive
    exact hrest u k (hold u k hk hklive) hks hklive

end Retired

section Acts

variable {i : ℕ}

theorem keeps_goOn (h : p.Inv) {next : Coroutine} (hfits : p.Fits next) (hstops : next.stops = none) :
    p.Keeps i p next where
  core := h.toCore
  fits j c hc _ := h.fits c (List.mem_of_getElem? hc)
  alone s hs := by
    rw [hstops] at hs
    exact absurd hs (by simp)
  nextFits := hfits

theorem monitorResults_mark (checkin : Option String) (m : MarkArgs) (now : ℤ) (s : String) :
    ((p.useCheckin m.session checkin).markOnlineFromNotify m now).monitorResults s =
      if s = m.session then some (notified m) else p.monitorResults s := by
  simp only [markOnlineFromNotify, useCheckin, Function.update_apply]
  split
  · rfl
  · next hne =>
      cases checkin with
      | none => rfl
      | some ipAddress => exact Function.update_of_ne hne _ _

theorem isVerified_mark (checkin : Option String) (m : MarkArgs) (now : ℤ) {s : String}
    (hs : s = m.session ∨ p.isVerified s = true) :
    ((p.useCheckin m.session checkin).markOnlineFromNotify m now).isVerified s = true := by
  unfold isVerified getLatestResult
  rw [monitorResults_mark]
  split
  · rfl
  · next hne => exact hs.resolve_left hne

theorem keeps_mark (h : p.Inv) (checkin : Option String) (m : MarkArgs) (now : ℤ)
    (hquiet : p.NoneRunning m.session) :
    p.Keeps i ((p.useCheckin m.session checkin).markOnlineFromNotify m now) (.markMirror m) := by
  have hheld : ∀ s, p.Held s →
      ((p.useCheckin m.session checkin).markOnlineFromNotify m now).Held s := by
    intro s hs
    exact ⟨isVerified_mark checkin m now (Or.inr hs.1), hs.2⟩
  refine ⟨⟨h.noError, h.registered, h.cancelled, ?_⟩, ?_, ?_, ?_⟩
  · intro s n hn
    obtain ⟨hs, hrest⟩ := h.promised s n hn
    exact ⟨hheld s hs, hrest⟩
  · intro j c hc _
    refine (h.fits c (List.mem_of_getElem? hc)).carry (fun s _ hs => hheld s hs) ?_ ?_
    · exact fun s t _ hs => hs
    · exact fun s left _ hs => hs
  · intro s hs
    exact absurd hs (by simp [Coroutine.stops])
  · exact ⟨isVerified_mark checkin m now (Or.inl rfl), hquiet⟩

section Created

variable {a : StartArgs}

theorem activeMonitors_createLoop {s : String} (hs : s ≠ a.session) :
    (p.createLoop a).activeMonitors s = p.activeMonitors s := Function.update_of_ne hs _ _

theorem Held.createLoop {s : String} (h : p.Held s) : (p.createLoop a).Held s := by
  refine ⟨h.1, ?_⟩
  intro l hl hls
  obtain hl | hl := List.mem_append.mp hl
  · exact h.2 l hl hls
  · rw [List.mem_singleton.mp hl]
    rfl

theorem Stopping.createLoop {s : String} {t : ℕ} (h : p.Stopping s t)
    (hfree : p.activeMonitors a.session = none) : (p.createLoop a).Stopping s t := by
  obtain ⟨hs, l, hl, hlc⟩ := h
  have hne : s ≠ a.session := by
    rintro rfl
    rw [hfree] at hs
    exact absurd hs (by simp)
  have hlt : t < p.loops.length := (List.getElem?_eq_some_iff.mp hl).1
  exact ⟨(activeMonitors_createLoop hne).trans hs, l, (List.getElem?_append_left hlt).trans hl, hlc⟩

theorem Core.createLoop (h : p.Core) (hfree : p.activeMonitors a.session = none) :
    (p.createLoop a).Core := by
  refine ⟨h.noError, ?_, ?_, ?_⟩
  · intro t l hl hlive
    obtain ⟨rfl, rfl⟩ | ⟨_, hl⟩ := getElem?_concat_cases hl
    · exact Function.update_self _ _ _
    · have hne : l.session ≠ a.session := fun hs => h.not_live hfree hl hs hlive
      exact (activeMonitors_createLoop hne).trans (h.registered t l hl hlive)
  · intro l hl hc
    obtain hl | hl := List.mem_append.mp hl
    · exact h.cancelled l hl hc
    · rw [List.mem_singleton.mp hl] at hc
      exact absurd hc Bool.false_ne_true
  · intro s n hn
    obtain ⟨hs, hle, hlive⟩ := h.promised s n hn
    have hlength : (p.createLoop a).loops.length = p.loops.length + 1 := List.length_append
    refine ⟨hs.createLoop, by omega, ?_⟩
    intro t l hl hls hl'
    obtain ⟨rfl, rfl⟩ | ⟨_, hl⟩ := getElem?_concat_cases hl
    · exact hle
    · exact hlive t l hl hls hl'

end Created

theorem keeps_create (h : p.Inv) (a : StartArgs) (hfree : p.activeMonitors a.session = none)
    (hsending : ¬ p.Sending a.session) : p.Keeps i (p.createLoop a) .returned := by
  refine ⟨h.toCore.createLoop hfree, ?_, ?_, trivial⟩
  · intro j c hc _
    have hmem := List.mem_of_getElem? hc
    refine (h.fits c hmem).carry (fun s _ hs => hs.createLoop) ?_ ?_
    · exact fun s t _ hs => hs.createLoop hfree
    · intro s left hcs hs
      have hne : s ≠ a.session := by
        rintro rfl
        exact hsending ⟨c, hmem, by simp [hcs, Coroutine.sends]⟩
      exact (activeMonitors_createLoop hne).trans hs
  · intro s hs
    exact absurd hs (by simp [Coroutine.stops])

theorem keeps_cancel (h : p.Inv) {s : String} {t : ℕ} {l : MonitorLoop}
    (hactive : p.activeMonitors s = some t) (hl : p.loops[t]? = some l) (hfresh : l.point = .fresh)
    (hc : l.cancelled = false) {next : Coroutine} (hstops : next.stops = some s)
    (hnext : (p.cancel t).Stopping s t → (∀ s, p.Held s → (p.cancel t).Held s) →
      (p.cancel t).Fits next) :
    p.Keeps i (p.cancel t) next := by
  have hcancel : p.cancel t = p.retire t { l with cancelled := true } := by
    unfold cancel retire
    rw [List.modify_eq_set_getElem?, hl]
    rfl
  have hrunning : l.isRunning = false := by simp [MonitorLoop.isRunning, hfresh]
  rw [hcancel] at hnext ⊢
  have hheld : ∀ s, p.Held s → (p.retire t { l with cancelled := true }).Held s :=
    fun s hs => hs.retire hrunning
  refine ⟨h.toCore.retire hrunning (by simp [isLive_iff]) (fun _ => Or.inl hfresh), ?_, ?_, ?_⟩
  · intro j c hcj _
    refine (h.fits c (List.mem_of_getElem? hcj)).carry (fun s _ hs => hheld s hs) ?_ ?_
    · exact fun s u _ hs => hs.retire hl (fun _ => rfl)
    · exact fun s left _ hs => hs
  · intro s' hs' j c hcj _ hcs
    obtain rfl : s = s' := Option.some_inj.mp (hstops.symm.trans hs')
    -- a request that waits for the task of the session would have found it cancelled
    obtain ⟨u, hstop⟩ := (h.fits c (List.mem_of_getElem? hcj)).stopping hcs
    exact hstop.task_ne hl hc (Option.some_inj.mp (hstop.1.symm.trans hactive))
  · have hset : (p.loops.set t { l with cancelled := true })[t]? = some { l with cancelled := true } :=
      List.getElem?_set_self (List.getElem?_eq_some_iff.mp hl).1
    exact hnext ⟨hactive, _, hset, rfl⟩ hheld

theorem keeps_stop (h : p.Inv) (s : String) (forMark : Bool) (hheld : forMark = true → p.Held s)
    (hperm : ∀ t ∈ p.activeMonitors s,
      ∃ l ∈ p.loops[t]?, l.point = .fresh ∧ l.cancelled = false) :
    p.Keeps i (p.stopMonitoring s forMark).1 (p.stopMonitoring s forMark).2 := by
  unfold stopMonitoring
  cases hactive : p.activeMonitors s with
  | none =>
      cases forMark with
      | true => exact keeps_goOn h ⟨hheld rfl, hactive⟩ rfl
      | false => exact keeps_goOn h trivial rfl
  | some t =>
      obtain ⟨l, hl, hfresh, hc⟩ := hperm t hactive
      have hdone : p.isDone t = false := by
        simp [isDone, Option.mem_def.mp hl, MonitorLoop.isEnded, hfresh]
      simp only [hdone, Bool.false_eq_true, if_false]
      cases forMark with
      | true => exact keeps_cancel h hactive hl hfresh hc rfl (fun hs hh => ⟨hh s (hheld rfl), hs⟩)
      | false => exact keeps_cancel h hactive hl hfresh hc rfl (fun hs _ => hs)

theorem keeps_release (h : p.Inv) {s : String} {t : ℕ} (forMark : Bool)
    (hheld : forMark = true → p.Held s) (hstop : p.Stopping s t) {c : Coroutine}
    (hc : p.coroutines[i]? = some c) (hcs : c.stops = some s) :
    p.Keeps i (p.releaseMonitor s t) (afterStop s forMark) := by
  obtain ⟨hactive, l, hl, hlc⟩ := hstop
  have hfailed : p.hasFailed t = false := by
    obtain hpoint | hpoint := h.cancelled l (List.mem_of_getElem? hl) hlc <;>
      simp [hasFailed, hl, hpoint]
  have hq : p.releaseMonitor s t =
      { p with activeMonitors := Function.update p.activeMonitors s none } := by
    simp only [releaseMonitor, hfailed, hactive, Bool.false_eq_true, if_false]
  rw [hq]
  refine ⟨⟨h.noError, ?_, h.cancelled, h.promised⟩, ?_, ?_, ?_⟩
  · intro t' l' hl' hlive
    have hne : l'.session ≠ s := fun hs =>
      h.not_live_of_stopping ⟨hactive, l, hl, hlc⟩ hl' hs hlive
    exact (Function.update_of_ne hne _ _).trans (h.registered t' l' hl' hlive)
  · intro j d hd hji
    refine (h.fits d (List.mem_of_getElem? hd)).carry (fun s _ hs => hs) ?_ ?_
    · rintro s' t' hds ⟨hs', hrest⟩
      -- this request is the only one that waits for the task of the session
      have hne : s' ≠ s := by
        rintro rfl
        exact hji (h.oneStop j i d c s' hd hc hds hcs)
      exact ⟨(Function.update_of_ne hne _ _).trans hs', hrest⟩
    · intro s' left _ hs'
      show Function.update p.activeMonitors s none s' = none
      rw [Function.update_apply, hs', ite_self]
  · intro s' hs'
    cases forMark <;> exact absurd hs' (by simp [afterStop, Coroutine.stops])
  · cases forMark with
    | true => exact ⟨hheld rfl, Function.update_self _ _ _⟩
    | false => trivial

theorem keeps_markReturns (h : p.Inv) {s : String} (hheld : p.Held s)
    (hfree : p.activeMonitors s = none) :
    p.Keeps i { p with promises := Function.update p.promises s (some p.loops.length) } .returned where
  core := by
    refine ⟨h.noError, h.registered, h.cancelled, ?_⟩
    intro s' n hn
    by_cases hs : s' = s
    · subst hs
      have hself : Function.update p.promises s' (some p.loops.length) s' = some p.loops.length :=
        Function.update_self _ _ _
      obtain rfl : p.loops.length = n := Option.some_inj.mp (hself.symm.trans hn)
      refine ⟨hheld, Nat.le_refl _, ?_⟩
      intro t l hl hls hlive
      exact absurd hlive (h.not_live hfree hl hls)
    · exact h.promised s' n ((Function.update_of_ne hs _ _).symm.trans hn)
  fits j c hc _ := h.fits c (List.mem_of_getElem? hc)
  alone s hs := absurd hs (by simp [Coroutine.stops])
  nextFits := trivial

/-- What the part of a request that an act belongs to has established. -/
def Prepared (p : PingMonitor) (i : ℕ) : Act → Prop
  | .goOn next => p.Fits next ∧ next.stops = none
  | .stop s forMark => forMark = true → p.Held s
  | .release s t forMark => (forMark = true → p.Held s) ∧ p.Stopping s t ∧
      ∃ c, p.coroutines[i]? = some c ∧ c.stops = some s
  | .markReturns s => p.Held s ∧ p.activeMonitors s = none
  | _ => True

theorem prepared_afterCheckin (a : StartArgs) (c : Option Checkin) (now : ℤ) :
    p.Prepared i (afterCheckin a c now) := by
  unfold afterCheckin
  split
  · split <;> trivial
  · trivial

theorem prepared_afterLookup (a : StartArgs) (existing : Option PingResult) (now : ℤ) :
    p.Prepared i (p.afterLookup a existing now) := by
  unfold afterLookup
  split
  · trivial
  · split
    · trivial
    · split
      · exact prepared_afterCheckin a _ now
      · exact ⟨trivial, rfl⟩

theorem prepared_startMonitoring (a : StartArgs) (now : ℤ) :
    p.Prepared i (p.startMonitoring a now) := by
  unfold startMonitoring
  split
  · exact ⟨trivial, rfl⟩
  · split
    · trivial
    · split
      · trivial
      · exact ⟨trivial, rfl⟩

theorem prepared_resumed (h : p.Inv) {c : Coroutine} (hc : p.coroutines[i]? = some c) {answer : Answer}
    {act : Act} (hact : p.resumed answer c = some act) : p.Prepared i act := by
  have hfits := h.fits c (List.mem_of_getElem? hc)
  cases c with
  | startLookup a =>
      obtain rfl := Option.some_inj.mp hact
      exact prepared_afterLookup a _ _
  | startIdentity a =>
      obtain rfl := Option.some_inj.mp hact
      exact prepared_afterCheckin a _ _
  | markMirror m =>
      simp only [resumed] at hact
      split at hact
      · obtain rfl := Option.some_inj.mp hact
        exact ⟨hfits, rfl⟩
      · obtain rfl := Option.some_inj.mp hact
        exact fun _ => hfits
  | markIdentity m =>
      obtain rfl := Option.some_inj.mp hact
      exact fun _ => hfits
  | markStop s t =>
      simp only [resumed] at hact
      split at hact
      · obtain rfl := Option.some_inj.mp hact
        exact ⟨fun _ => hfits.1, hfits.2, _, hc, rfl⟩
      · exact absurd hact (by simp)
  | markMessages s left =>
      cases left with
      | zero =>
          obtain rfl := Option.some_inj.mp hact
          exact hfits
      | succ left =>
          obtain rfl := Option.some_inj.mp hact
          exact ⟨hfits, rfl⟩
  | stopWait s t =>
      simp only [resumed] at hact
      split at hact
      · obtain rfl := Option.some_inj.mp hact
        exact ⟨fun hf => absurd hf Bool.false_ne_true, hfits, _, hc, rfl⟩
      · exact absurd hact (by simp)
  | returned => exact absurd hact (by simp [resumed])

theorem keeps_perform (h : p.Inv) {act : Act} (hprep : p.Prepared i act) (hperm : p.Permitted act) :
    p.Keeps i (p.perform act).1 (p.perform act).2 := by
  cases act with
  | goOn next => exact keeps_goOn h hprep.1 hprep.2
  | mark checkin m now => exact keeps_mark h checkin m now hperm
  | create a => exact keeps_create h a hperm.1 hperm.2
  | stop s forMark => exact keeps_stop h s forMark hprep hperm
  | release s t forMark =>
      obtain ⟨hheld, hstop, c, hc, hcs⟩ := hprep
      exact keeps_release h forMark hheld hstop hc hcs
  | markReturns s => exact keeps_markReturns h hprep.1 hprep.2

theorem coroutines_perform (act : Act) : (p.perform act).1.coroutines = p.coroutines := by
  cases act with
  | goOn next => rfl
  | mark checkin m now => rfl
  | create a => rfl
  | stop s forMark =>
      simp only [perform, stopMonitoring]
      split
      · rfl
      · split
        · simp only [releaseMonitor]
          split
          · rfl
          · split <;> rfl
        · rfl
  | release s t forMark =>
      simp only [perform, releaseMonitor]
      split
      · rfl
      · split <;> rfl
  | markReturns s => rfl

theorem inv_serve (h : p.Inv) {act : Act} (hprep : p.Prepared p.coroutines.length act)
    (hperm : p.Permitted act) : (p.serve act).Inv := by
  refine (keeps_perform h hprep hperm).inv h ?_
  intro j c hc
  rw [coroutines_perform] at hc
  exact getElem?_concat_cases hc

theorem inv_proceed (h : p.Inv) {act : Act} (hprep : p.Prepared i act) (hperm : p.Permitted act) :
    (p.proceed i act).Inv := by
  refine (keeps_perform h hprep hperm).inv h ?_
  intro j c hc
  rw [coroutines_perform] at hc
  exact getElem?_set_cases hc

end Acts

/-! ### The tasks -/

section Tasks

variable {t : ℕ} {l : MonitorLoop} {isPrivate : String → Bool} {input : LoopInput}

theorem inv_runLoop_idle (h : p.Inv) (hl : p.loops[t]? = some l) (hidle : l.isLive ≠ true) :
    (p.runLoop isPrivate t l input).Inv := by
  obtain ⟨failed, hpoint, hc⟩ : ∃ failed,
      (l.point = .ended failed ∨ l.cancelled = true ∧ l.point = .fresh ∧ failed = false) ∧
        (l.cancelled = true → failed = false) := by
    cases hc : l.cancelled with
    | true =>
        obtain hpoint | hpoint := h.cancelled l (List.mem_of_getElem? hl) hc
        · exact ⟨false, Or.inr ⟨rfl, hpoint, rfl⟩, fun _ => rfl⟩
        · exact ⟨false, Or.inl hpoint, fun _ => rfl⟩
    | false =>
        cases hp : l.point with
        | ended failed => exact ⟨failed, Or.inl rfl, fun hf => absurd hf Bool.false_ne_true⟩
        | _ => exact absurd (isLive_iff.mpr ⟨hc, by simp [MonitorLoop.isEnded, hp]⟩) hidle
  have hkeep : p.keepPromise t l = p.promises l.session := by
    refine if_neg ?_
    rintro ⟨hfresh, hnot⟩
    obtain hpoint | ⟨hcan, _⟩ := hpoint
    · rw [hfresh] at hpoint
      exact absurd hpoint (by simp)
    · rw [hnot] at hcan
      exact absurd hcan Bool.false_ne_true
  have hq : p.runLoop isPrivate t l input = p.retire t { l with point := .ended failed } := by
    simp only [runLoop, MonitorLoop.advance_of_idle hpoint, MonitorLoop.waitAt, hkeep,
      Function.update_eq_self, Option.none_or, Bool.false_eq_true, if_false]
    rfl
  have hrunning : ({ l with point := .ended failed } : MonitorLoop).isRunning = false := by
    simp [MonitorLoop.isRunning, MonitorLoop.isEnded]
  have hlive : ({ l with point := .ended failed } : MonitorLoop).isLive ≠ true := by
    simp [MonitorLoop.isLive, MonitorLoop.isEnded]
  rw [hq]
  refine ⟨h.toCore.retire hrunning hlive (fun hcan => Or.inr ?_), ?_, h.oneStop⟩
  · rw [hc hcan]
  · intro c hcm
    refine (h.fits c hcm).carry (fun s _ hs => hs.retire hrunning) ?_ ?_
    · exact fun s u _ hs => hs.retire hl id
    · exact fun s left _ hs => hs

theorem Coroutine.subject_of_stops {c : Coroutine} {s : String} (h : c.stops = some s) :
    c.subject = some s := by
  cases c <;> first | exact h | exact absurd h (by simp [Coroutine.stops])

/-- While a task is to do something, no request relies on the data of its session. -/
theorem subject_ne (h : p.Inv) (hl : p.loops[t]? = some l) (hlive : l.isLive = true)
    (hbegin : l.point = .fresh → ¬ p.Recording l.session) {c : Coroutine} (hc : c ∈ p.coroutines) :
    c.subject ≠ some l.session := by
  intro hs
  have hfits := h.fits c hc
  have hreg := h.registered t l hl hlive
  have hrecording : ∀ m : MarkArgs, m.session = l.session → p.Held m.session →
      p.Recording l.session → False := by
    intro m hm hheld hrec
    by_cases hfresh : l.point = .fresh
    · exact hbegin hfresh hrec
    · have hrunning : l.isRunning = true := by
        simp [MonitorLoop.isRunning, hfresh, (isLive_iff.mp hlive).2]
      have hnot := hheld.2 l (List.mem_of_getElem? hl) hm.symm
      rw [hrunning] at hnot
      exact absurd hnot (by decide)
  cases c with
  | startLookup a => exact absurd hs (by simp [Coroutine.subject])
  | startIdentity a => exact absurd hs (by simp [Coroutine.subject])
  | markMirror m =>
      have hm : m.session = l.session := Option.some_inj.mp hs
      exact hrecording m hm hfits ⟨_, hc, by simp [Coroutine.records, hm]⟩
  | markIdentity m =>
      have hm : m.session = l.session := Option.some_inj.mp hs
      exact hrecording m hm hfits ⟨_, hc, by simp [Coroutine.records, hm]⟩
  | markStop s u =>
      obtain rfl : s = l.session := Option.some_inj.mp hs
      exact h.not_live_of_stopping hfits.2 hl rfl hlive
  | markMessages s left =>
      obtain rfl : s = l.session := Option.some_inj.mp hs
      exact h.not_live hfits.2 hl rfl hlive
  | stopWait s u =>
      obtain rfl : s = l.session := Option.some_inj.mp hs
      exact h.not_live_of_stopping hfits hl rfl hlive
  | returned => exact absurd hs (by simp [Coroutine.subject])

/-- While a task of a session runs, or when one begins that was created after it, nothing is promised. -/
theorem keepPromise_of_live (h : p.Inv) (hl : p.loops[t]? = some l) (hlive : l.isLive = true) :
    p.keepPromise t l = none := by
  unfold keepPromise
  cases hprom : p.promises l.session with
  | none => simp
  | some n =>
      obtain ⟨hheld, _, hrest⟩ := h.promised l.session n hprom
      have hn := hrest t l hl rfl hlive
      have hnot := hheld.2 l (List.mem_of_getElem? hl) rfl
      obtain ⟨hc, hended⟩ := isLive_iff.mp hlive
      have hfresh : l.point = .fresh := by simpa [MonitorLoop.isRunning, hended] using hnot
      rw [if_pos ⟨hfresh, hc⟩]
      simpa using hn

/-! The data of other sessions, and of other tasks, stay as they are. -/

theorem activeMonitors_runLoop {s : String} (hs : s ≠ l.session) :
    (p.runLoop isPrivate t l input).activeMonitors s = p.activeMonitors s := by
  simp only [runLoop]
  split
  · exact Function.update_of_ne hs _ _
  · rfl

theorem isVerified_runLoop {s : String} (hs : s ≠ l.session) :
    (p.runLoop isPrivate t l input).isVerified s = p.isVerified s := by
  simp only [isVerified, getLatestResult, runLoop]
  split <;> rw [Function.update_of_ne hs]

theorem Held.runLoop {s : String} (h : p.Held s) (hc : l.cancelled = false) (hs : s ≠ l.session) :
    (p.runLoop isPrivate t l input).Held s := by
  have hmoves : MonitorLoop.Moves l (l.advance isPrivate input) := MonitorLoop.moves_advance hc
  refine ⟨(isVerified_runLoop hs).trans h.1, ?_⟩
  intro k hk hks
  obtain hk | rfl := List.mem_or_eq_of_mem_set hk
  · exact h.2 k hk hks
  · exact absurd (hks.symm.trans hmoves.session) hs

theorem Stopping.runLoop {s : String} {u : ℕ} (h : p.Stopping s u) (hl : p.loops[t]? = some l)
    (hc : l.cancelled = false) (hs : s ≠ l.session) :
    (p.runLoop isPrivate t l input).Stopping s u := by
  have hu := h.task_ne hl hc
  obtain ⟨hsu, k, hk, hkc⟩ := h
  exact ⟨(activeMonitors_runLoop hs).trans hsu, k, (List.getElem?_set_ne (Ne.symm hu)).trans hk, hkc⟩

theorem registered_runLoop (h : p.Core) (hl : p.loops[t]? = some l) (hlive : l.isLive = true) {u : ℕ}
    {k : MonitorLoop} (hk : (p.runLoop isPrivate t l input).loops[u]? = some k)
    (hklive : k.isLive = true) :
    (p.runLoop isPrivate t l input).activeMonitors k.session = some u := by
  have hmoves : MonitorLoop.Moves l (l.advance isPrivate input) :=
    MonitorLoop.moves_advance (isLive_iff.mp hlive).1
  have hreg := h.registered t l hl hlive
  obtain ⟨rfl, rfl⟩ | ⟨hu, hk⟩ := getElem?_set_cases hk
  · have hclean : (l.advance isPrivate input).cleanup = false := by
      by_contra hnot
      have hend := hmoves.cleanup (by simpa using hnot)
      rw [(isLive_iff.mp hklive).2] at hend
      exact absurd hend Bool.false_ne_true
    simp only [runLoop, hclean, Bool.false_eq_true, if_false, hmoves.session]
    exact hreg
  · -- another task of the session would be the registered one
    have hkreg := h.registered u k hk hklive
    have hne : k.session ≠ l.session := by
      intro hs
      rw [hs, hreg] at hkreg
      exact hu (Option.some_inj.mp hkreg).symm
    exact (activeMonitors_runLoop hne).trans hkreg

theorem core_runLoop (h : p.Inv) (hl : p.loops[t]? = some l) (hlive : l.isLive = true) :
    (p.runLoop isPrivate t l input).Core := by
  have hc := (isLive_iff.mp hlive).1
  have hmoves : MonitorLoop.Moves l (l.advance isPrivate input) := MonitorLoop.moves_advance hc
  refine ⟨h.noError, fun u k hk => registered_runLoop h.toCore hl hlive hk, ?_, ?_⟩
  · intro k hk hkc
    obtain hk | rfl := List.mem_or_eq_of_mem_set hk
    · exact h.cancelled k hk hkc
    · rw [hmoves.cancelled, hc] at hkc
      exact absurd hkc Bool.false_ne_true
  · intro s n hn
    have hlength : (p.runLoop isPrivate t l input).loops.length = p.loops.length := List.length_set
    by_cases hs : s = l.session
    · subst hs
      have hnone : (p.runLoop isPrivate t l input).promises l.session = none :=
        (Function.update_self _ _ _).trans (keepPromise_of_live h hl hlive)
      rw [hnone] at hn
      exact absurd hn (by simp)
    · have hold : p.promises s = some n := (Function.update_of_ne hs _ _).symm.trans hn
      obtain ⟨hp, hle, hrest⟩ := h.promised s n hold
      refine ⟨hp.runLoop hc hs, by omega, ?_⟩
      intro u k hk hks hklive
      obtain ⟨_, rfl⟩ | ⟨_, hk⟩ := getElem?_set_cases hk
      · exact absurd (hks.symm.trans hmoves.session) hs
      · exact hrest u k hk hks hklive

theorem inv_runLoop_live (h : p.Inv) (hl : p.loops[t]? = some l) (hlive : l.isLive = true)
    (hbegin : l.point = .fresh → ¬ p.Recording l.session) : (p.runLoop isPrivate t l input).Inv := by
  have hc := (isLive_iff.mp hlive).1
  refine ⟨core_runLoop h hl hlive, ?_, h.oneStop⟩
  intro c hcm
  have hsession : ∀ s, c.subject = some s → s ≠ l.session := by
    rintro s hs rfl
    exact subject_ne h hl hlive hbegin hcm hs
  refine (h.fits c hcm).carry (fun s hs hp => hp.runLoop hc (hsession s hs)) ?_ ?_
  · intro s u hs hp
    exact hp.runLoop hl hc (hsession s (Coroutine.subject_of_stops hs))
  · rintro s left rfl hs
    exact (activeMonitors_runLoop (hsession s rfl)).trans hs

end Tasks

/-! ### Runs -/

variable {isPrivate : String → Bool}

theorem inv_init : init.Inv where
  noError := rfl
  registered := by simp [init]
  cancelled := by simp [init]
  promised := by simp [init]
  fits := by simp [init]
  oneStop := by simp [init]

theorem inv_step (h : p.Inv) {e : Event} (hcareful : p.Careful e) : (p.step isPrivate e).Inv := by
  cases e with
  | start a now => exact inv_serve h (prepared_startMonitoring a now) (hcareful _ rfl)
  | mark m now => exact inv_serve h trivial (hcareful _ rfl)
  | stop s => exact inv_serve h (fun hf => absurd hf Bool.false_ne_true) (hcareful _ rfl)
  | checkin ipAddress pending =>
      exact ⟨⟨h.noError, h.registered, h.cancelled, h.promised⟩, h.fits, h.oneStop⟩
  | resume i answer =>
      simp only [step]
      cases hact : p.actOf (.resume i answer) with
      | none => exact h
      | some act =>
          obtain ⟨c, hc, hres⟩ := Option.bind_eq_some_iff.mp hact
          exact inv_proceed h (prepared_resumed h hc hres) (hcareful act hact)
  | loop t input =>
      simp only [step]
      cases hl : p.loops[t]? with
      | none => exact h
      | some l =>
          by_cases hlive : l.isLive = true
          · refine inv_runLoop_live h hl hlive ?_
            intro hfresh
            exact hcareful l hl hfresh (isLive_iff.mp hlive).1
          · exact inv_runLoop_idle h hl hlive

theorem Inv.safe (h : p.Inv) : p.Safe := by
  refine ⟨h.noError, ?_⟩
  intro s hs
  obtain ⟨n, hn⟩ := Option.isSome_iff_exists.mp hs
  exact (h.promised s n hn).1.1

/-- **Safety of the ping monitor**: in every interleaving of requests and loops, for any number of
sessions, all of whose steps are careful, no `stop_monitoring` raises `KeyError`, and what
`mark_online_from_notify` has recorded stays until a loop begins that was created after it. -/
theorem ping_monitor_safe (isPrivate : String → Bool) (es : List Event)
    (h : Along (fun p e => step p isPrivate e) Careful init es) :
    Always (fun p e => step p isPrivate e) Safe init es :=
  always_of_along (I := Inv) (fun _ _ hp hc => inv_step hp hc) (fun _ hp => hp.safe) inv_init h

/-- A session of the wizard. -/
def wizardStart : StartArgs := ⟨"wizard", "192.168.88.1", 8728, 30, none⟩

/-- Redis knows nothing. -/
def noAnswer : Answer := ⟨none, none, 0⟩

/-- The session is monitored, and its loop has begun. -/
def monitored : List Event :=
  [.start wizardStart 0, .resume 0 noAnswer, .loop 0 (.answer true)]

/-- The router calls home, and `mark_online_from_notify` runs to its end. -/
def callsHome : List Event :=
  [.mark ⟨"wizard", some "102.0.4.7", none⟩ 1, .resume 1 noAnswer, .loop 0 (.answer true),
    .resume 1 noAnswer, .resume 1 noAnswer, .resume 1 noAnswer, .resume 1 noAnswer]

/-- A stop of a loop that has begun raises `KeyError`; a notification during such a loop has lost its
result when it returns. -/
theorem begun_loop_breaks_stop_and_notify :
    ¬ Safe (exec (fun p e => step p (fun _ => false) e) init
        (monitored ++ [.stop "wizard", .loop 0 (.answer true), .resume 1 noAnswer])) ∧
      ¬ Safe (exec (fun p e => step p (fun _ => false) e) init (monitored ++ callsHome)) ∧
      (exec (fun p e => step p (fun _ => false) e) init (monitored ++ callsHome)).promises "wizard" =
        some 1 ∧
      (exec (fun p e => step p (fun _ => false) e) init (monitored ++ callsHome)).getLatestResult
        "wizard" = none := by
  refine ⟨fun h => ?_, fun h => ?_, by decide +kernel, by decide +kernel⟩
  · exact absurd h.1 (by decide +kernel)
  · exact absurd (h.2 "wizard" (by decide +kernel)) (by decide +kernel)

/-- The loop gives up because the address is private; the notification comes after that. -/
theorem ping_monitor_safe_after_private_address :
    Along (fun p e => step p (fun _ => true) e) Careful init
        (monitored ++ .loop 0 (.answer true) :: callsHome) ∧
      Always (fun p e => step p (fun _ => true) e) Safe init
        (monitored ++ .loop 0 (.answer true) :: callsHome) := by
  have h : Along (fun p e => step p (fun _ => true) e) Careful init
      (monitored ++ .loop 0 (.answer true) :: callsHome) := by
    decide +kernel
  exact ⟨h, ping_monitor_safe (fun _ => true) _ h⟩

end PingMonitor

end IspBilling.Ping
