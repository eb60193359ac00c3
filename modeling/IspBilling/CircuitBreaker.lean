import IspBilling.Runs
import IspBilling.Streaks
import Mathlib.Algebra.Order.Ring.Int

/-! # Calls behind a circuit breaker

Every client of an external service sends its operations through `execute_with_resilience` of
`app/integrations/base.py`: a check of the circuit, the retries of tenacity, and for every attempt
another check and a timeout.  The client keeps a breaker of the library pybreaker, which opens after
`fail_max` consecutive failures that are recorded through it.  `_execute_with_circuit_breaker` notes
successes and failures on its own listener only, so the breaker learns of none of them.

The library is the parameter `Pybreaker`.  Instants and durations are in microseconds.  The log of the
attempts is kept for the specification. -/

namespace IspBilling

open Runs Streaks

/-! ### The library -/

inductive CircuitState
  | closed | open | halfOpen
deriving DecidableEq, Repr

/-- A breaker: a new one for `fail_max` and `reset_timeout`, what it shows, and the effect of a call
that is made through it at some instant and succeeds or not. -/
structure Pybreaker where
  State : Type
  new : ℕ → ℕ → State
  currentState : State → CircuitState
  record : State → ℤ → Bool → State

namespace Pybreaker

/-- A new breaker after calls that were made through it. -/
def after (B : Pybreaker) (failMax resetTimeout : ℕ) (calls : List (ℤ × Bool)) : B.State :=
  calls.foldl (fun s call => B.record s call.1 call.2) (B.new failMax resetTimeout)

/-- What the library documents: a new breaker is closed, and it is open after `fail_max` consecutive
failures. -/
structure Documented (B : Pybreaker) : Prop where
  closed : ∀ failMax resetTimeout, B.currentState (B.new failMax resetTimeout) = .closed
  opens : ∀ failMax resetTimeout calls, 0 < failMax →
    failMax ≤ streak (fun call : ℤ × Bool => !call.2) calls →
      B.currentState (B.after failMax resetTimeout calls) = .open

end Pybreaker

/-! ### The client -/

/-- Exceptions of an operation; `TimeoutError` is also the one of asyncio. -/
inductive Fault
  | connectionError | timeoutError | osError | circuitBreakerError | retryError
  | other (name : String)
deriving DecidableEq, Repr

/-- `CircuitBreakerConfig`; the timeout is in seconds. -/
structure CircuitBreakerConfig where
  failMax : ℕ := 5
  resetTimeout : ℕ := 60

/-- `RetryConfig`; `retries` says which faults are instances of `retry_exceptions`. -/
structure RetryConfig where
  maxAttempts : ℕ := 3
  minWait : ℕ := 1000000
  maxWait : ℕ := 10000000
  retries : Fault → Bool := fun e => e = .connectionError || e = .timeoutError

/-- `wait_exponential` after the attempt with this index. -/
def RetryConfig.wait (r : RetryConfig) (index : ℕ) : ℕ :=
  max r.minWait (min (2 ^ index * 1000000) r.maxWait)

/-- The settings of a `BaseIntegrationClient`. -/
structure Integration where
  name : String
  circuit : CircuitBreakerConfig
  retry : RetryConfig
  defaultTimeout : ℕ := 30000000

/-- An invocation of an operation, for the specification. -/
structure Attempt where
  start : ℤ
  finish : ℤ
  fault : Option Fault
deriving DecidableEq, Repr

def Attempt.failed (a : Attempt) : Bool := a.fault.isSome

/-- A client: its breaker and its listener, the clock, and the attempts made so far. -/
structure ServiceClient (B : Pybreaker) where
  breaker : B.State
  lastFailure : Option ℤ
  lastSuccess : Option ℤ
  now : ℤ
  log : List Attempt

/-- What an operation does when it is invoked. -/
structure Reaction (T : Type) where
  duration : ℕ
  result : Except Fault T

/-- `asyncio.wait_for`. -/
def Reaction.waitFor {T : Type} (r : Reaction T) (timeout : ℕ) : Reaction T :=
  if timeout < r.duration then ⟨timeout, .error .timeoutError⟩ else r

/-- A call: the time since the one before it, its timeout, and the reactions of the operation to the
attempts. -/
structure ServiceCall (T : Type) where
  delay : ℕ
  timeout : Option ℕ
  reactions : ℕ → Reaction T

/-- The error that a call ends with: an `ExternalServiceError`, or the fault itself. -/
inductive CallError
  | external (code message : String) (details : List (String × String))
  | raised (e : Fault)
deriving DecidableEq, Repr

section Code

variable {T : Type} {B : Pybreaker} (i : Integration)

def ServiceClient.new (B : Pybreaker) (now : ℤ) : ServiceClient B :=
  ⟨B.new i.circuit.failMax i.circuit.resetTimeout, none, none, now, []⟩

/-- `is_circuit_open`. -/
def ServiceClient.isCircuitOpen (c : ServiceClient B) : Bool := B.currentState c.breaker = .open

/-- `timeout or self.default_timeout`. -/
def ServiceCall.effectiveTimeout (call : ServiceCall T) : ℕ :=
  (call.timeout.filter (fun t => t ≠ 0)).getD i.defaultTimeout

/-- The listener after an attempt that ended at `finish`, and the record of the attempt. -/
def ServiceClient.noted (c : ServiceClient B) (finish : ℤ) (fault : Option Fault) : ServiceClient B :=
  { c with
    lastFailure := if fault.isSome then some finish else c.lastFailure
    lastSuccess := if fault.isSome then c.lastSuccess else some finish
    now := finish
    log := c.log ++ [⟨c.now, finish, fault⟩] }

/-- `_execute_with_circuit_breaker`. -/
def executeWithCircuitBreaker (c : ServiceClient B) (timeout : ℕ) (operation : Reaction T) :
    ServiceClient B × Except Fault T :=
  if c.isCircuitOpen then (c, .error .circuitBreakerError)
  else
    let reaction := operation.waitFor timeout
    let finish := c.now + reaction.duration
    match reaction.result with
    | .ok value => (c.noted finish none, .ok value)
    | .error e => (c.noted finish (some e), .error e)

/-- The loop of `AsyncRetrying` from the attempt with this index on, with `left` retries left.  The last
fault is raised again. -/
def retrying (timeout : ℕ) (reactions : ℕ → Reaction T) :
    ℕ → ℕ → ServiceClient B → ServiceClient B × Except Fault T
  | 0, index, c => executeWithCircuitBreaker c timeout (reactions index)
  | left + 1, index, c =>
      let answer := executeWithCircuitBreaker c timeout (reactions index)
      match answer.2 with
      | .ok _ => answer
      | .error e =>
          if i.retry.retries e then
            retrying timeout reactions left (index + 1)
              { answer.1 with now := answer.1.now + i.retry.wait index }
          else answer

/-- The handlers of `execute_with_resilience`; `seconds` writes the timeout. -/
def callError (seconds : ℕ → String) (timeout : ℕ) : Fault → CallError
  | .circuitBreakerError =>
      .external "SYS_5010" ("Service " ++ i.name ++ " is temporarily unavailable") [("service", i.name)]
  | .retryError =>
      .external "EXT_4099"
        ("Service " ++ i.name ++ " failed after " ++ toString i.retry.maxAttempts ++ " attempts")
        [("attempts", toString i.retry.maxAttempts), ("service", i.name)]
  | .timeoutError =>
      .external "EXT_4099" ("Service " ++ i.name ++ " timed out after " ++ seconds timeout ++ "s")
        [("timeout_seconds", seconds timeout), ("service", i.name)]
  | e => .raised e

/-- `execute_with_resilience`. -/
def executeWithResilience (seconds : ℕ → String) (c : ServiceClient B) (call : ServiceCall T) :
    ServiceClient B × Except CallError T :=
  let timeout := call.effectiveTimeout i
  if c.isCircuitOpen then
    (c, .error (.external "SYS_5010"
      ("Service " ++ i.name ++ " is temporarily unavailable (circuit open)") [("service", i.name)]))
  else
    let answer := retrying i timeout call.reactions (i.retry.maxAttempts - 1) 0 c
    match answer.2 with
    | .ok value => (answer.1, .ok value)
    | .error e => (answer.1, .error (callError i seconds timeout e))

/-- The client after a call that comes `delay` after the one before. -/
def serviceStep (seconds : ℕ → String) (c : ServiceClient B) (call : ServiceCall T) : ServiceClient B :=
  (executeWithResilience i seconds { c with now := c.now + call.delay } call).1

/-! ### What is promised, and when it is kept -/

/-- `reset_timeout` in microseconds. -/
def Integration.resetTimeout : ℤ := i.circuit.resetTimeout * 1000000

/-- After `fail_max` failed attempts in a row, no operation is invoked until `reset_timeout` has
passed. -/
def CircuitOpens (c : ServiceClient B) : Prop :=
  Pauses Attempt.failed Attempt.start Attempt.finish i.circuit.failMax i.resetTimeout c.log

/-- The attempt with this index fails with an exception that is retried. -/
def ServiceCall.retried (call : ServiceCall T) (index : ℕ) : Bool :=
  match ((call.reactions index).waitFor (call.effectiveTimeout i)).result with
  | .ok _ => false
  | .error e => i.retry.retries e

/-- The time without attempts before the attempt with this index. -/
def ServiceCall.pause (call : ServiceCall T) : ℕ → ℕ
  | 0 => call.delay
  | index + 1 => i.retry.wait index

/-- The call never asks for an attempt while the circuit should be open: whenever it comes to the attempt
with some index and the streak of failures has reached `fail_max` by then, `reset_timeout` has passed
since the last of them. -/
def Spared (c : ServiceClient B) (call : ServiceCall T) : Prop :=
  ∀ index < i.retry.maxAttempts - 1 + 1, (∀ k < index, call.retried i k) →
    i.circuit.failMax ≤ streak Attempt.failed c.log + index →
      0 < streak Attempt.failed c.log + index → i.resetTimeout ≤ call.pause i index

instance (c : ServiceClient B) : DecidablePred (Spared (T := T) i c) := fun call =>
  inferInstanceAs (Decidable (∀ index < i.retry.maxAttempts - 1 + 1, (∀ k < index, call.retried i k) →
    i.circuit.failMax ≤ streak Attempt.failed c.log + index →
      0 < streak Attempt.failed c.log + index → i.resetTimeout ≤ call.pause i index))

end Code

/-! ### One attempt -/

section Attempts

variable {T : Type} {B : Pybreaker} {i : Integration}

/-- The fault of a reaction. -/
def Reaction.fault (r : Reaction T) : Option Fault :=
  match r.result with
  | .ok _ => none
  | .error e => some e

/-- The circuit is not open, and the last attempt ended `pause` ago. -/
structure ServiceClient.Settled (c : ServiceClient B) (pause : ℕ) : Prop where
  closed : c.isCircuitOpen = false
  last : ∀ l ∈ c.log.getLast?, l.finish + pause = c.now
  starts : ∀ a ∈ c.log, a.start ≤ c.now

theorem ServiceClient.Settled.wait {c : ServiceClient B} (h : c.Settled 0) (d : ℕ) :
    ServiceClient.Settled { c with now := c.now + d } d where
  closed := h.closed
  last := by
    intro l hl
    have hlast := h.last l hl
    show l.finish + d = c.now + d
    omega
  starts := by
    intro a ha
    have hstart := h.starts a ha
    show a.start ≤ c.now + d
    omega

theorem executeWithCircuitBreaker_of_closed {c : ServiceClient B} (h : c.isCircuitOpen = false)
    (timeout : ℕ) (r : Reaction T) :
    executeWithCircuitBreaker c timeout r =
      (c.noted (c.now + (r.waitFor timeout).duration) (r.waitFor timeout).fault,
        (r.waitFor timeout).result) := by
  unfold executeWithCircuitBreaker Reaction.fault
  rw [if_neg (by simp [h])]
  cases hr : (r.waitFor timeout).result with
  | ok value => simp only [hr]
  | error e => simp only [hr]

theorem ServiceClient.Settled.noted {c : ServiceClient B} {pause : ℕ} (h : c.Settled pause) (d : ℕ)
    (fault : Option Fault) : (c.noted (c.now + d) fault).Settled 0 where
  closed := h.closed
  last := by
    intro l hl
    have hlast : (c.noted (c.now + d) fault).log.getLast? = some ⟨c.now, c.now + d, fault⟩ :=
      List.getLast?_concat
    rw [hlast] at hl
    obtain rfl := Option.some_inj.mp hl
    exact Int.add_zero _
  starts := by
    intro a ha
    have ha' : a ∈ c.log ∨ a = ⟨c.now, c.now + d, fault⟩ := by
      simpa [ServiceClient.noted] using ha
    show a.start ≤ c.now + d
    obtain ha | rfl := ha'
    · have hstart := h.starts a ha
      omega
    · show c.now ≤ c.now + d
      omega

/-- An attempt respects the circuit exactly when it comes late enough after a long streak. -/
theorem circuitOpens_noted_iff {c : ServiceClient B} {pause : ℕ} (h : c.Settled pause) (finish : ℤ)
    (fault : Option Fault) :
    CircuitOpens i (c.noted finish fault) ↔
      CircuitOpens i c ∧ (i.circuit.failMax ≤ streak Attempt.failed c.log →
        0 < streak Attempt.failed c.log → i.resetTimeout ≤ pause) := by
  unfold CircuitOpens ServiceClient.noted
  rw [pauses_concat_iff h.starts]
  refine and_congr_right fun _ => forall_congr' fun _ => forall_congr' fun hpos => ?_
  constructor
  · intro hall
    have hne : c.log ≠ [] := by
      intro hnil
      rw [hnil, streak_nil] at hpos
      omega
    have hmem := List.getLast?_eq_some_getLast hne
    have hlast := h.last _ hmem
    have hstart := hall _ hmem
    simp only at hstart
    omega
  · intro hpause l hl
    have hlast := h.last l hl
    show l.finish + i.resetTimeout ≤ c.now
    omega

end Attempts

/-! ### A call -/

section Calls

variable {T : Type} {B : Pybreaker} {i : Integration}

/-- The condition of `Spared` for a part of a call: its attempts, from some index on, are made while the
ones before are retried, and find a streak of `s` failures. -/
def Timely (i : Integration) (retried : ℕ → Bool) (s : ℕ) (pauses : ℕ → ℕ) (n : ℕ) : Prop :=
  ∀ index < n, (∀ k < index, retried k) → i.circuit.failMax ≤ s + index → 0 < s + index →
    i.resetTimeout ≤ pauses index

theorem timely_succ_iff {retried : ℕ → Bool} {s : ℕ} {pauses : ℕ → ℕ} {n : ℕ} :
    Timely i retried s pauses (n + 1) ↔
      (i.circuit.failMax ≤ s → 0 < s → i.resetTimeout ≤ pauses 0) ∧
        (retried 0 = true →
          Timely i (fun k => retried (k + 1)) (s + 1) (fun k => pauses (k + 1)) n) := by
  unfold Timely
  rw [Nat.forall_lt_succ_left]
  refine and_congr (by simp) ?_
  constructor
  · intro h hfirst index hindex hrest hmax hpos
    refine h index hindex ?_ (by omega) (by omega)
    rw [Nat.forall_lt_succ_left]
    exact ⟨hfirst, hrest⟩
  · intro h index hindex hretried hmax hpos
    rw [Nat.forall_lt_succ_left] at hretried
    exact h hretried.1 index hindex hretried.2 (by omega) (by omega)

/-- What precedes the attempts of a call from some index on. -/
def pausesFrom (i : Integration) (pause index : ℕ) : ℕ → ℕ
  | 0 => pause
  | k + 1 => i.retry.wait (index + k)

theorem timely_zero (retried : ℕ → Bool) (s : ℕ) (pauses : ℕ → ℕ) : Timely i retried s pauses 0 := by
  intro index hindex
  omega

variable (call : ServiceCall T) {c : ServiceClient B} {pause : ℕ}

theorem circuitOpens_last_iff (h : c.Settled pause) (finish : ℤ) (fault : Option Fault)
    {left index : ℕ} (hlast : left = 0 ∨ call.retried i index = false) :
    CircuitOpens i (c.noted finish fault) ↔
      CircuitOpens i c ∧ Timely i (fun k => call.retried i (index + k)) (streak Attempt.failed c.log)
        (pausesFrom i pause index) (left + 1) := by
  rw [circuitOpens_noted_iff h, timely_succ_iff]
  refine and_congr_right fun _ => ⟨fun hp => ⟨hp, fun hretried => ?_⟩, fun hp => hp.1⟩
  obtain rfl | hnot := hlast
  · exact timely_zero _ _ _
  · rw [Nat.add_zero, hnot] at hretried
    exact absurd hretried (by decide)

theorem circuitOpens_retry_iff (h : c.Settled pause) (finish : ℤ) (fault : Option Fault)
    {left index : ℕ} (hretried : call.retried i index = true) :
    CircuitOpens i (c.noted finish fault) ∧
        Timely i (fun k => call.retried i (index + 1 + k)) (streak Attempt.failed c.log + 1)
          (pausesFrom i (i.retry.wait index) (index + 1)) (left + 1) ↔
      CircuitOpens i c ∧ Timely i (fun k => call.retried i (index + k)) (streak Attempt.failed c.log)
        (pausesFrom i pause index) (left + 1 + 1) := by
  have hretriedShift : (fun k => call.retried i (index + (k + 1))) =
      fun k => call.retried i (index + 1 + k) := by
    funext k
    rw [Nat.add_right_comm, Nat.add_assoc]
  have hpauseShift : (fun k => pausesFrom i pause index (k + 1)) =
      pausesFrom i (i.retry.wait index) (index + 1) := by
    funext k
    cases k with
    | zero => rfl
    | succ k =>
        show i.retry.wait (index + (k + 1)) = i.retry.wait (index + 1 + k)
        rw [Nat.add_right_comm, Nat.add_assoc]
  rw [circuitOpens_noted_iff h, timely_succ_iff (n := left + 1), and_assoc, hretriedShift, hpauseShift]
  simp only [Nat.add_zero, hretried, true_imp_iff]
  exact Iff.rfl

/-- The reaction to the attempt with this index, within the timeout. -/
def ServiceCall.reaction (i : Integration) (call : ServiceCall T) (index : ℕ) : Reaction T :=
  (call.reactions index).waitFor (call.effectiveTimeout i)

theorem ServiceCall.isSome_fault {index : ℕ} (h : call.retried i index = true) :
    (call.reaction i index).fault.isSome = true := by
  unfold ServiceCall.retried at h
  unfold Reaction.fault ServiceCall.reaction
  split at h
  · exact absurd h (by decide)
  · next e he => rfl

/-- The client after the attempt with this index. -/
def ServiceClient.attempted (c : ServiceClient B) (i : Integration) (call : ServiceCall T) (index : ℕ) :
    ServiceClient B :=
  c.noted (c.now + (call.reaction i index).duration) (call.reaction i index).fault

theorem retrying_last (h : c.isCircuitOpen = false) {left index : ℕ}
    (hlast : left = 0 ∨ call.retried i index = false) :
    (retrying i (call.effectiveTimeout i) call.reactions left index c).1 = c.attempted i call index := by
  cases left with
  | zero =>
      simp only [retrying, executeWithCircuitBreaker_of_closed h]
      rfl
  | succ left =>
      have hnot := hlast.resolve_left (Nat.succ_ne_zero left)
      simp only [ServiceCall.retried] at hnot
      simp only [retrying, executeWithCircuitBreaker_of_closed h]
      split
      · rfl
      · next e he =>
          rw [he] at hnot
          rw [if_neg (by simp [hnot])]
          rfl

theorem retrying_retry (h : c.isCircuitOpen = false) {left index : ℕ}
    (hretried : call.retried i index = true) :
    retrying i (call.effectiveTimeout i) call.reactions (left + 1) index c =
      retrying i (call.effectiveTimeout i) call.reactions left (index + 1)
        { c.attempted i call index with
          now := (c.attempted i call index).now + i.retry.wait index } := by
  simp only [ServiceCall.retried] at hretried
  simp only [retrying, executeWithCircuitBreaker_of_closed h]
  split
  · next value hv =>
      rw [hv] at hretried
      exact absurd hretried Bool.false_ne_true
  · next e he =>
      rw [he] at hretried
      rw [if_pos hretried]
      rfl

/-- The attempts of a call respect the circuit exactly when they are made in time. -/
theorem retrying_spec (left index pause : ℕ) {c : ServiceClient B} (h : c.Settled pause) :
    ((retrying i (call.effectiveTimeout i) call.reactions left index c).1.Settled 0) ∧
      (CircuitOpens i (retrying i (call.effectiveTimeout i) call.reactions left index c).1 ↔
        CircuitOpens i c ∧ Timely i (fun k => call.retried i (index + k)) (streak Attempt.failed c.log)
          (pausesFrom i pause index) (left + 1)) := by
  have hnoted : (c.attempted i call index).Settled 0 := h.noted _ _
  induction left generalizing index pause c with
  | zero =>
      rw [retrying_last call h.closed (Or.inl rfl)]
      exact ⟨hnoted, circuitOpens_last_iff call h _ _ (Or.inl rfl)⟩
  | succ left ih =>
      cases hretried : call.retried i index with
      | false =>
          rw [retrying_last call h.closed (Or.inr hretried)]
          exact ⟨hnoted, circuitOpens_last_iff call h _ _ (Or.inr hretried)⟩
      | true =>
          have hwait := hnoted.wait (i.retry.wait index)
          have hstreak : streak Attempt.failed (c.attempted i call index).log =
              streak Attempt.failed c.log + 1 := by
            show streak Attempt.failed (c.log ++ [_]) = _
            rw [streak_concat]
            exact if_pos (call.isSome_fault hretried)
          obtain ⟨hsettled, hiff⟩ := ih (index + 1) (i.retry.wait index) hwait (hwait.noted _ _)
          rw [retrying_retry call h.closed hretried]
          refine ⟨hsettled, hiff.trans ?_⟩
          rw [← circuitOpens_retry_iff call h _ _ hretried, ← hstreak]
          exact Iff.rfl

variable (seconds : ℕ → String)

theorem serviceStep_of_closed (h : c.isCircuitOpen = false) :
    serviceStep i seconds c call =
      (retrying i (call.effectiveTimeout i) call.reactions (i.retry.maxAttempts - 1) 0
        { c with now := c.now + call.delay }).1 := by
  have hopen : ServiceClient.isCircuitOpen { c with now := c.now + call.delay } = false := h
  simp only [serviceStep, executeWithResilience, hopen, Bool.false_eq_true, if_false]
  split <;> rfl

/-- Whatever failed before, the next call leaves the circuit as it is, and respects it exactly when it is
spared. -/
theorem serviceStep_spec (h : c.Settled 0) :
    (serviceStep i seconds c call).Settled 0 ∧
      (CircuitOpens i (serviceStep i seconds c call) ↔ CircuitOpens i c ∧ Spared i c call) := by
  have hpauses : pausesFrom i call.delay 0 = call.pause i := by
    funext k
    cases k with
    | zero => rfl
    | succ k =>
        show i.retry.wait (0 + k) = i.retry.wait k
        rw [Nat.zero_add]
  obtain ⟨hsettled, hiff⟩ := retrying_spec call (i.retry.maxAttempts - 1) 0 call.delay (i := i)
    (h.wait call.delay)
  rw [serviceStep_of_closed call seconds h.closed]
  refine ⟨hsettled, hiff.trans ?_⟩
  simp only [hpauses, Nat.zero_add]
  exact Iff.rfl

end Calls

/-! ### Runs -/

section CallRuns

variable {T : Type} (i : Integration) (B : Pybreaker)

/-- **When the circuit opens**: for every sequence of calls on one service, no operation is invoked for
`reset_timeout` after `fail_max` failed attempts in a row, if and only if no call asks for it. -/
theorem circuit_opens_iff (hB : B.Documented) (seconds : ℕ → String) (now : ℤ)
    (calls : List (ServiceCall T)) :
    CircuitOpens i (exec (serviceStep i seconds) (ServiceClient.new i B now) calls) ↔
      Along (serviceStep i seconds) (Spared i) (ServiceClient.new i B now) calls := by
  have hnew : (ServiceClient.new i B now).Settled 0 := by
    refine ⟨?_, ?_, ?_⟩
    · simp [ServiceClient.isCircuitOpen, ServiceClient.new, hB.closed]
    · simp [ServiceClient.new]
    · simp [ServiceClient.new]
  refine exec_iff_along (G := fun c => c.Settled 0 ∧ CircuitOpens i c)
    (B := fun c => c.Settled 0 ∧ ¬ CircuitOpens i c) ?_ ?_ ?_ (fun c h => h.2) (fun c h => h.2)
    ⟨hnew, pauses_nil _ _ _ _ _⟩
  · intro c call h hspared
    obtain ⟨hsettled, hiff⟩ := serviceStep_spec call seconds h.1 (i := i)
    exact ⟨hsettled, hiff.mpr ⟨h.2, hspared⟩⟩
  · intro c call h hnot
    obtain ⟨hsettled, hiff⟩ := serviceStep_spec call seconds h.1 (i := i)
    exact ⟨hsettled, fun hopens => hnot (hiff.mp hopens).2⟩
  · intro c call h
    obtain ⟨hsettled, hiff⟩ := serviceStep_spec call seconds h.1 (i := i)
    exact ⟨hsettled, fun hopens => h.2 (hiff.mp hopens).1⟩

end CallRuns

/-- A breaker that counts the failures in a row. -/
def counter : Pybreaker where
  State := ℕ × ℕ
  new failMax _ := (failMax, 0)
  currentState s := if 0 < s.1 ∧ s.1 ≤ s.2 then .open else .closed
  record s _ ok := if ok then (s.1, 0) else (s.1, s.2 + 1)

theorem counter_after (failMax resetTimeout : ℕ) (calls : List (ℤ × Bool)) :
    counter.after failMax resetTimeout calls =
      (failMax, streak (fun call : ℤ × Bool => !call.2) calls) := by
  induction calls using List.reverseRecOn with
  | nil => rfl
  | append_singleton calls call ih =>
      unfold Pybreaker.after at ih ⊢
      rw [List.foldl_append, ih, streak_concat]
      obtain ⟨t, ok⟩ := call
      cases ok <;> rfl

theorem counter_documented : counter.Documented where
  closed failMax resetTimeout := by
    refine if_neg ?_
    show ¬ (0 < failMax ∧ failMax ≤ 0)
    omega
  opens failMax resetTimeout calls hpos hstreak := by
    rw [counter_after]
    exact if_pos ⟨hpos, hstreak⟩

/-- The settings of the client for MikroTik routers. -/
def mikrotik : Integration where
  name := "mikrotik"
  circuit := { failMax := 3, resetTimeout := 30 }
  retry := { retries := fun e => e = .connectionError || e = .timeoutError || e = .osError }
  defaultTimeout := 10000000

/-- A call one second after the one before; the router refuses the connection. -/
def refusedCall : ServiceCall Unit := ⟨1000000, none, fun _ => ⟨1000, .error .connectionError⟩⟩

/-- A call half a minute after the one before that succeeds at once. -/
def recoveredCall : ServiceCall Unit := ⟨30000000, none, fun _ => ⟨1000, .ok ()⟩⟩

/-- Three failed attempts do not open the circuit: the operation of the next call is invoked one second
later. -/
theorem invoked_after_three_failures :
    counter.Documented ∧ ¬ CircuitOpens mikrotik (exec (serviceStep mikrotik toString)
      (ServiceClient.new mikrotik counter 0) [refusedCall, refusedCall]) := by
  refine ⟨counter_documented, ?_⟩
  intro h
  have hpause := h []
    [⟨1000000, 1001000, some .connectionError⟩, ⟨2001000, 2002000, some .connectionError⟩,
      ⟨4002000, 4003000, some .connectionError⟩]
    [⟨5003000, 5004000, some .connectionError⟩, ⟨6004000, 6005000, some .connectionError⟩,
      ⟨8005000, 8006000, some .connectionError⟩] (by decide +kernel) (by decide) (by decide)
    ⟨4002000, 4003000, some .connectionError⟩ (by decide) ⟨5003000, 5004000, some .connectionError⟩
    (by decide)
  exact absurd hpause (by decide +kernel)

/-- The circuit is respected when the next call comes after half a minute and succeeds. -/
theorem circuit_opens_recovered :
    counter.Documented ∧ CircuitOpens mikrotik (exec (serviceStep mikrotik toString)
      (ServiceClient.new mikrotik counter 0) [refusedCall, recoveredCall]) := by
  refine ⟨counter_documented, ?_⟩
  refine (circuit_opens_iff mikrotik counter counter_documented toString 0
    [refusedCall, recoveredCall]).mpr ?_
  decide +kernel

end IspBilling
