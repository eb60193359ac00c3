import IspBilling.Runs
import Mathlib.Data.Int.Notation
import Mathlib.Logic.Function.Basic

/-! # The ping monitor

While a router is provisioned, `PingMonitor` (`app/services/ping_monitor.py`) watches it with a
background loop per session, unless the router calls home by itself.  Its dictionaries are shared by
the loops and by the requests that start, stop and notify, which run as coroutines on one event loop:
they are interleaved at their `await`s and nowhere else.

The model has one event per stretch of code between two `await`s.  `Coroutine` says where a request
waits, `LoopPoint` where a loop waits.  What an awaited operation answers (Redis, the pings, the
sockets) comes with the event.  `keyErrors` and `promises` are kept for the specification: how often
`stop_monitoring` raised `KeyError`, and for which sessions the result of `mark_online_from_notify`
has to stay. -/

namespace IspBilling.Ping

open Runs

/-! ### Results and loops -/

/-- Who wrote a result. -/
inductive ResultSource
  | deviceCheckin
  | deviceNotify
  | privateAddress
  | attempt (attempt cycleAttempt maxAttempts retryCycle apiPort : ℕ)
deriving DecidableEq, Repr

/-- An entry of `monitor_results`, without its timestamp. -/
structure PingResult where
  pingVerified : Bool
  apiVerified : Bool
  ipAddress : Option String
  source : ResultSource
deriving DecidableEq, Repr

/-- Both stages are verified. -/
def PingResult.verified (r : PingResult) : Bool := r.pingVerified && r.apiVerified

inductive LoopPoint
  | fresh
  | privateMessage
  | ping
  | pingMessage (reachable : Bool)
  | stageOneMessage
  | apiCheck
  | apiMessage (isOpen : Bool)
  | stageTwoMessage
  | onlineMessage
  | pause
  | backoffMessage
  | backoff
  | retryMessage
  | errorMessage
  | ended (failed : Bool)
deriving DecidableEq, Repr

/-- A task that runs `_monitor_loop`, with its local variables. -/
structure MonitorLoop where
  session : String
  ipAddress : String
  apiPort : ℕ
  maxAttempts : ℕ
  attempt : ℕ
  cycleAttempts : ℕ
  retryCycle : ℕ
  pingVerified : Bool
  apiVerified : Bool
  consecutivePing : ℕ
  consecutiveApi : ℕ
  point : LoopPoint
  cancelled : Bool
deriving DecidableEq, Repr

/-- The answer of what a loop waited for: whether the device was reached, or an exception. -/
inductive LoopInput
  | answer (positive : Bool)
  | raised
deriving DecidableEq, Repr

/-- What a stretch of a loop does: the loop after it, the result that it writes, and whether it reached
the `finally` block. -/
structure LoopOutcome where
  loop : MonitorLoop
  written : Option PingResult
  cleanup : Bool

namespace MonitorLoop

variable (l : MonitorLoop)

/-- The loop waits at another point; nothing is written. -/
def waitAt (point : LoopPoint) : LoopOutcome := ⟨{ l with point := point }, none, false⟩

/-- The loop is over and has cleaned up. -/
def finish (failed : Bool) : LoopOutcome := ⟨{ l with point := .ended failed }, none, true⟩

/-- The inner `while`: the next attempt stores the current state; after the last one of a cycle the loop
backs off. -/
def nextAttempt : LoopOutcome :=
  if l.cycleAttempts < l.maxAttempts then
    let l := { l with attempt := l.attempt + 1, cycleAttempts := l.cycleAttempts + 1 }
    let result : PingResult := ⟨l.pingVerified, l.apiVerified, some l.ipAddress,
      .attempt l.attempt l.cycleAttempts l.maxAttempts l.retryCycle l.apiPort⟩
    let point := if l.pingVerified = false then LoopPoint.ping
      else if l.apiVerified = false then .apiCheck else .onlineMessage
    ⟨{ l with point := point }, some result, false⟩
  else ({ l with retryCycle := l.retryCycle + 1 } : MonitorLoop).waitAt .backoffMessage

/-- The end of an attempt. -/
def afterChecks : LoopOutcome :=
  if l.pingVerified && l.apiVerified then l.waitAt .onlineMessage else l.waitAt .pause

/-- The second stage, which needs the first. -/
def afterPing : LoopOutcome :=
  if l.pingVerified && !l.apiVerified then l.waitAt .apiCheck else l.afterChecks

/-- The first stage after its message. -/
def countPing (reachable : Bool) : LoopOutcome :=
  if reachable then
    let l := { l with consecutivePing := l.consecutivePing + 1 }
    if 2 ≤ l.consecutivePing then ({ l with pingVerified := true } : MonitorLoop).waitAt .stageOneMessage
    else l.afterPing
  else ({ l with consecutivePing := 0 } : MonitorLoop).afterPing

/-- The second stage after its message. -/
def countApi (isOpen : Bool) : LoopOutcome :=
  if isOpen then
    let l := { l with consecutiveApi := l.consecutiveApi + 1 }
    if 2 ≤ l.consecutiveApi then ({ l with apiVerified := true } : MonitorLoop).waitAt .stageTwoMessage
    else l.afterChecks
  else ({ l with consecutiveApi := 0 } : MonitorLoop).afterChecks

/-- The result for an address that the backend cannot reach. -/
def privateResult : PingResult := ⟨false, false, some l.ipAddress, .privateAddress⟩

variable (isPrivate : String → Bool)

/-- `_monitor_loop` up to its next `await`, when what it waited for has answered. -/
def answered (positive : Bool) : LoopOutcome :=
  match l.point with
  | .fresh => if isPrivate l.ipAddress then l.waitAt .privateMessage else l.nextAttempt
  | .privateMessage => { l.finish false with written := some l.privateResult }
  | .ping => l.waitAt (.pingMessage positive)
  | .pingMessage reachable => l.countPing reachable
  | .stageOneMessage => l.afterPing
  | .apiCheck => l.waitAt (.apiMessage positive)
  | .apiMessage isOpen => l.countApi isOpen
  | .stageTwoMessage => l.afterChecks
  | .onlineMessage => l.finish false
  | .pause => l.nextAttempt
  | .backoffMessage => l.waitAt .backoff
  | .backoff => l.waitAt .retryMessage
  | .retryMessage => ({ l with cycleAttempts := 0 } : MonitorLoop).nextAttempt
  | .errorMessage => l.finish false
  | .ended failed => l.waitAt (.ended failed)

/-- The same when what it waited for has raised an exception.  The message about a private address may
fail, any other exception ends the loop, after a message. -/
def interrupted : LoopOutcome :=
  match l.point with
  | .fresh => l.answered isPrivate false
  | .privateMessage => l.nextAttempt
  | .errorMessage => l.finish true
  | .ended failed => l.waitAt (.ended failed)
  | _ => l.waitAt .errorMessage

/-- A loop that was cancelled goes through its `finally` block, unless it had not begun. -/
def stopped : LoopOutcome :=
  match l.point with
  | .fresh => l.waitAt (.ended false)
  | .ended failed => l.waitAt (.ended failed)
  | _ => l.finish false

def advance (input : LoopInput) : LoopOutcome :=
  if l.cancelled then l.stopped
  else
    match input with
    | .answer positive => l.answered isPrivate positive
    | .raised => l.interrupted isPrivate

def isEnded : Bool :=
  match l.point with
  | .ended _ => true
  | _ => false

def isRunning : Bool := decide (l.point ≠ .fresh) && !l.isEnded

/-- The task will still do something. -/
def isLive : Bool := !l.cancelled && !l.isEnded

end MonitorLoop

/-! ### Requests -/

/-- The arguments of `start_monitoring` that decide what it does. -/
structure StartArgs where
  session : String
  ipAddress : String
  apiPort : ℕ
  maxAttempts : ℕ
  identity : Option String
deriving DecidableEq, Repr

/-- The arguments of `mark_online_from_notify`. -/
structure MarkArgs where
  session : String
  ipAddress : Option String
  identity : Option String
deriving DecidableEq, Repr

/-- The check-in of a router identity; a time that cannot be read is missing. -/
structure Checkin where
  ipAddress : Option String
  ts : Option ℤ
deriving DecidableEq, Repr

/-- Where a request waits. -/
inductive Coroutine
  /-- `start_monitoring` reads the verified result of the session from Redis. -/
  | startLookup (a : StartArgs)
  /-- `start_monitoring` reads the check-in of the identity from Redis. -/
  | startIdentity (a : StartArgs)
  /-- `mark_online_from_notify` mirrors the result. -/
  | markMirror (m : MarkArgs)
  /-- `mark_online_from_notify` mirrors the check-in. -/
  | markIdentity (m : MarkArgs)
  /-- `mark_online_from_notify` waits for the loop that it stops. -/
  | markStop (session : String) (task : ℕ)
  /-- `mark_online_from_notify` sends a message, with some left. -/
  | markMessages (session : String) (left : ℕ)
  /-- `stop_monitoring` waits for the loop. -/
  | stopWait (session : String) (task : ℕ)
  | returned
deriving DecidableEq, Repr

/-- The dictionaries of the monitor, its tasks, and the requests that it is serving. -/
structure PingMonitor where
  activeMonitors : String → Option ℕ
  monitorResults : String → Option PingResult
  pendingCheckins : String → Bool
  identityCheckins : String → Option Checkin
  loops : List MonitorLoop
  coroutines : List Coroutine
  keyErrors : ℕ
  promises : String → Option ℕ

namespace PingMonitor

def init : PingMonitor :=
  ⟨fun _ => none, fun _ => none, fun _ => false, fun _ => none, [], [], 0, fun _ => none⟩

variable (p : PingMonitor)

/-- `get_latest_result`. -/
def getLatestResult (session : String) : Option PingResult := p.monitorResults session

/-- `is_monitoring`. -/
def isMonitoring (session : String) : Bool := (p.activeMonitors session).isSome

/-! ### What a request does between two `await`s -/

inductive Act
  /-- Nothing is written before the next `await`. -/
  | goOn (next : Coroutine)
  /-- `mark_online_from_notify` begins, at some time; `start_monitoring` may have used a check-in from an
  address for it. -/
  | mark (checkin : Option String) (m : MarkArgs) (now : ℤ)
  /-- `start_monitoring` creates the loop. -/
  | create (a : StartArgs)
  /-- `stop_monitoring` begins, by itself or for `mark_online_from_notify`. -/
  | stop (session : String) (forMark : Bool)
  /-- `stop_monitoring` goes on after the task. -/
  | release (session : String) (task : ℕ) (forMark : Bool)
  /-- `mark_online_from_notify` returns. -/
  | markReturns (session : String)

/-- A string that counts as true. -/
def truthy (s : Option String) : Option String := s.filter (fun t => t ≠ "")

/-- `start_monitoring` when it knows the check-in of the identity: one of the last 30 minutes counts. -/
def afterCheckin (a : StartArgs) (c : Option Checkin) (now : ℤ) : Act :=
  match c with
  | some ⟨ipAddress, some ts⟩ =>
      if now - ts < 30 * 60 * 1000000 then .mark none ⟨a.session, ipAddress, a.identity⟩ now
      else .create a
  | _ => .create a

/-- `start_monitoring` when Redis has answered for the session. -/
def afterLookup (a : StartArgs) (existing : Option PingResult) (now : ℤ) : Act :=
  match existing.filter PingResult.verified with
  | some r => .mark none ⟨a.session, r.ipAddress, a.identity⟩ now
  | none =>
      match truthy a.identity with
      | none => .create a
      | some identity =>
          match p.identityCheckins identity with
          | some c => afterCheckin a (some c) now
          | none => .goOn (.startIdentity a)

/-- `start_monitoring` up to its first `await`. -/
def startMonitoring (a : StartArgs) (now : ℤ) : Act :=
  if p.isMonitoring a.session then .goOn .returned
  else if p.pendingCheckins a.ipAddress then
    .mark (some a.ipAddress) ⟨a.session, some a.ipAddress, none⟩ now
  else
    match (p.monitorResults a.session).filter PingResult.verified with
    | some r => .mark none ⟨a.session, r.ipAddress, a.identity⟩ now
    | none => .goOn (.startLookup a)

def isDone (task : ℕ) : Bool := (p.loops[task]?.map MonitorLoop.isEnded).getD true

/-- What Redis answers, and the time. -/
structure Answer where
  existing : Option PingResult
  checkin : Option Checkin
  now : ℤ

/-- What a request does when it runs on; nothing while the task that it waits for is not done. -/
def resumed (answer : Answer) : Coroutine → Option Act
  | .startLookup a => some (p.afterLookup a answer.existing answer.now)
  | .startIdentity a => some (afterCheckin a answer.checkin answer.now)
  | .markMirror m =>
      if (truthy m.identity).isSome then some (.goOn (.markIdentity m)) else some (.stop m.session true)
  | .markIdentity m => some (.stop m.session true)
  | .markStop session task => if p.isDone task then some (.release session task true) else none
  | .markMessages session 0 => some (.markReturns session)
  | .markMessages session (left + 1) => some (.goOn (.markMessages session left))
  | .stopWait session task => if p.isDone task then some (.release session task false) else none
  | .returned => none

/-- The record of `mark_online_from_notify`. -/
def notified (m : MarkArgs) : PingResult := ⟨true, true, m.ipAddress, .deviceNotify⟩

/-- The record of a check-in that `start_monitoring` finds. -/
def checkedIn (ipAddress : String) : PingResult := ⟨true, true, some ipAddress, .deviceCheckin⟩

/-- The check-in from an address, if there is one, is used up. -/
def useCheckin (session : String) (checkin : Option String) : PingMonitor :=
  { p with
    monitorResults :=
      match checkin with
      | none => p.monitorResults
      | some ipAddress => Function.update p.monitorResults session (some (checkedIn ipAddress))
    pendingCheckins :=
      match checkin with
      | none => p.pendingCheckins
      | some ipAddress => Function.update p.pendingCheckins ipAddress false }

/-- The first part of `mark_online_from_notify`. -/
def markOnlineFromNotify (m : MarkArgs) (now : ℤ) : PingMonitor :=
  { p with
    monitorResults := Function.update p.monitorResults m.session (some (notified m))
    identityCheckins :=
      match truthy m.identity with
      | none => p.identityCheckins
      | some identity =>
          Function.update p.identityCheckins identity (some ⟨m.ipAddress, some now⟩) }

/-- A task for `_monitor_loop`. -/
def newLoop (a : StartArgs) : MonitorLoop :=
  ⟨a.session, a.ipAddress, a.apiPort, a.maxAttempts, 0, 0, 0, false, false, 0, 0, .fresh, false⟩

/-- The last part of `start_monitoring`. -/
def createLoop (a : StartArgs) : PingMonitor :=
  { p with
    loops := p.loops ++ [newLoop a]
    activeMonitors := Function.update p.activeMonitors a.session (some p.loops.length) }

/-- `task.cancel()`. -/
def cancel (task : ℕ) : PingMonitor :=
  { p with loops := p.loops.modify task (fun l => { l with cancelled := true }) }

/-- What follows `stop_monitoring`. -/
def afterStop (session : String) (forMark : Bool) : Coroutine :=
  if forMark then .markMessages session 2 else .returned

/-- The task ended with an exception of its own, which `await` raises again. -/
def hasFailed (task : ℕ) : Bool :=
  decide ((p.loops[task]?.map MonitorLoop.point) = some (.ended true))

/-- `stop_monitoring` behind its `await`: `del` raises `KeyError` when the entry is gone. -/
def releaseMonitor (session : String) (task : ℕ) : PingMonitor :=
  if p.hasFailed task then p
  else
    match p.activeMonitors session with
    | none => { p with keyErrors := p.keyErrors + 1 }
    | some _ => { p with activeMonitors := Function.update p.activeMonitors session none }

/-- `stop_monitoring` up to its `await`, which does not wait for a task that is done. -/
def stopMonitoring (session : String) (forMark : Bool) : PingMonitor × Coroutine :=
  match p.activeMonitors session with
  | none => (p, afterStop session forMark)
  | some task =>
      if p.isDone task then (p.releaseMonitor session task, afterStop session forMark)
      else (p.cancel task, if forMark then .markStop session task else .stopWait session task)

/-- The monitor after an act, and where the request waits then. -/
def perform : Act → PingMonitor × Coroutine
  | .goOn next => (p, next)
  | .mark checkin m now => ((p.useCheckin m.session checkin).markOnlineFromNotify m now, .markMirror m)
  | .create a => (p.createLoop a, .returned)
  | .stop session forMark => p.stopMonitoring session forMark
  | .release session task forMark => (p.releaseMonitor session task, afterStop session forMark)
  | .markReturns session =>
      ({ p with promises := Function.update p.promises session (some p.loops.length) }, .returned)

/-! ### The steps -/

inductive Event
  /-- A request `start_monitoring`. -/
  | start (a : StartArgs) (now : ℤ)
  /-- A request `mark_online_from_notify`. -/
  | mark (m : MarkArgs) (now : ℤ)
  /-- A request `stop_monitoring`. -/
  | stop (session : String)
  /-- `register_device_checkin`, or the provisioning service uses a check-in up. -/
  | checkin (ipAddress : String) (pending : Bool)
  /-- The `i`-th request runs on. -/
  | resume (i : ℕ) (answer : Answer)
  /-- The task runs on. -/
  | loop (task : ℕ) (input : LoopInput)

/-- What an event does on behalf of a request. -/
def actOf : Event → Option Act
  | .start a now => some (p.startMonitoring a now)
  | .mark m now => some (.mark none m now)
  | .stop session => some (.stop session false)
  | .checkin .. => none
  | .resume i answer => p.coroutines[i]?.bind (p.resumed answer)
  | .loop .. => none

/-- A request that comes in. -/
def serve (act : Act) : PingMonitor :=
  let q := p.perform act
  { q.1 with coroutines := q.1.coroutines ++ [q.2] }

/-- A request that runs on. -/
def proceed (i : ℕ) (act : Act) : PingMonitor :=
  let q := p.perform act
  { q.1 with coroutines := q.1.coroutines.set i q.2 }

variable (isPrivate : String → Bool)

/-- A promise ends when a loop that was created after it begins. -/
def keepPromise (task : ℕ) (l : MonitorLoop) : Option ℕ :=
  if l.point = .fresh ∧ l.cancelled = false then
    (p.promises l.session).filter (fun n => task < n)
  else p.promises l.session

/-- A task runs up to its next `await`. -/
def runLoop (task : ℕ) (l : MonitorLoop) (input : LoopInput) : PingMonitor :=
  let o := l.advance isPrivate input
  { p with
    loops := p.loops.set task o.loop
    activeMonitors :=
      if o.cleanup then Function.update p.activeMonitors l.session none else p.activeMonitors
    monitorResults :=
      if o.cleanup then Function.update p.monitorResults l.session none
      else Function.update p.monitorResults l.session (o.written.or (p.monitorResults l.session))
    promises := Function.update p.promises l.session (p.keepPromise task l) }

def step (e : Event) : PingMonitor :=
  match e with
  | .checkin ipAddress pending =>
      { p with pendingCheckins := Function.update p.pendingCheckins ipAddress pending }
  | .loop task input =>
      match p.loops[task]? with
      | none => p
      | some l => p.runLoop isPrivate task l input
  | .resume i _ =>
      match p.actOf e with
      | none => p
      | some act => p.proceed i act
  | _ =>
      match p.actOf e with
      | none => p
      | some act => p.serve act

end PingMonitor

end IspBilling.Ping
