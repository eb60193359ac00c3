import IspBilling.FixedWindow
import Mathlib.Algebra.Order.Ring.Nat

/-! # The rate limiter of the credential endpoints

`enforce` (`app/core/rate_limit.py`) counts a call in Redis with one atomic script: `INCR`, a TTL on the
first call of a window, and over the limit an answer with the TTL that is left, which becomes the
`Retry-After` of a 429.  All replicas share the keys, so that a run of the system is one sequence of
calls in the order of their scripts.  Times are those of Redis, in milliseconds; a key with a TTL
disappears when it has elapsed.

`rateBounded` is what the calls on one key can rely on.  It comes from the counters of `FixedWindow`:
`records_eq_calls` says that the script is one. -/

namespace IspBilling

open FixedWindow

/-! ### Redis -/

/-- A counter in Redis, and when it disappears, if it has a TTL. -/
structure RedisCounter where
  count : ℕ
  expiresAt : Option ℕ
deriving DecidableEq, Repr

def RedisKeys : Type := String → Option RedisCounter

def RedisKeys.get (r : RedisKeys) (now : ℕ) (key : String) : Option RedisCounter :=
  (r key).filter (fun c => decide (∀ e ∈ c.expiresAt, now < e))

def RedisKeys.set (r : RedisKeys) (key : String) (c : RedisCounter) : RedisKeys :=
  fun k => if k = key then some c else r k

@[simp] theorem RedisKeys.set_self (r : RedisKeys) (key : String) (c : RedisCounter) :
    r.set key c key = some c := if_pos rfl

theorem RedisKeys.set_ne (r : RedisKeys) {key k : String} (h : k ≠ key) (c : RedisCounter) :
    r.set key c k = r k := if_neg h

/-- `PEXPIRE`. -/
def RedisCounter.pexpire (now ms : ℕ) (c : RedisCounter) : RedisCounter :=
  { c with expiresAt := some (now + ms) }

/-- `PTTL` of a key that is there. -/
def RedisCounter.pttl (now : ℕ) (c : RedisCounter) : ℤ :=
  match c.expiresAt with
  | some e => (e : ℤ) - now
  | none => -1

/-- `INCR`: the value of a key that is there, with its TTL, or a new one. -/
def RedisKeys.incr (r : RedisKeys) (now : ℕ) (key : String) : RedisCounter :=
  match r.get now key with
  | some c => { c with count := c.count + 1 }
  | none => ⟨1, none⟩

/-- `_HIT_SCRIPT`. -/
def hitScript (r : RedisKeys) (now : ℕ) (key : String) (limit windowMs : ℕ) : RedisKeys × ℤ :=
  let n := r.incr now key
  let c := if n.count = 1 then n.pexpire now windowMs else n
  if limit < c.count then
    let ttl := c.pttl now
    if ttl < 0 then (r.set key (c.pexpire now windowMs), windowMs) else (r.set key c, ttl)
  else (r.set key c, -1)

/-! ### The limiter -/

/-- The limit of a key, and its window in seconds. -/
structure RatePolicy where
  limit : ℕ
  windowSeconds : ℕ
  window_pos : 0 < windowSeconds

def RatePolicy.windowMs (p : RatePolicy) : ℕ := p.windowSeconds * 1000

theorem RatePolicy.windowMs_pos (p : RatePolicy) : 0 < p.windowMs := by
  have hpos := p.window_pos
  unfold windowMs
  omega

/-- `RATE_LIMIT_ENABLED`, and what the callers pass for a key. -/
structure RateLimiter where
  enabled : Bool
  policy : String → RatePolicy

/-- A call of `enforce`, at the time of its script. -/
structure RateHit where
  key : String
  time : ℕ
  redisUp : Bool
deriving DecidableEq, Repr

/-- A call returns, or raises a 429. -/
inductive RateOutcome where
  | admitted
  | tooManyRequests (retryAfter : ℤ)
deriving DecidableEq, Repr

def redisKey (key : String) : String := "isp:rl:" ++ key

/-- Milliseconds, rounded up to seconds. -/
def retryAfter (ttlMs : ℤ) : ℤ := max 1 (-(-ttlMs / 1000))

/-- `enforce`. -/
def RateLimiter.enforce (limiter : RateLimiter) (r : RedisKeys) (hit : RateHit) :
    RedisKeys × RateOutcome :=
  if limiter.enabled = false then (r, .admitted)
  else if hit.redisUp = false then (r, .admitted)
  else
    let policy := limiter.policy hit.key
    let result := hitScript r hit.time (redisKey hit.key) policy.limit policy.windowMs
    if 0 ≤ result.2 then (result.1, .tooManyRequests (retryAfter result.2))
    else (result.1, .admitted)

/-- A call, with the key as it finds and as it leaves it, and the outcome. -/
structure RateRecord where
  hit : RateHit
  found : Option RedisCounter
  left : Option RedisCounter
  outcome : RateOutcome
deriving DecidableEq, Repr

def RateLimiter.records (limiter : RateLimiter) : RedisKeys → List RateHit → List RateRecord
  | _, [] => []
  | r, hit :: hits =>
      let next := limiter.enforce r hit
      ⟨hit, r.get hit.time (redisKey hit.key), next.1 (redisKey hit.key), next.2⟩ ::
        limiter.records next.1 hits

theorem RateLimiter.records_cons (limiter : RateLimiter) (r : RedisKeys) (hit : RateHit)
    (hits : List RateHit) : limiter.records r (hit :: hits) =
      ⟨hit, r.get hit.time (redisKey hit.key), (limiter.enforce r hit).1 (redisKey hit.key),
        (limiter.enforce r hit).2⟩ :: limiter.records (limiter.enforce r hit).1 hits := rfl

def noKeys : RedisKeys := fun _ => none

def RateLimiter.recordsOf (limiter : RateLimiter) (key : String) (hits : List RateHit) :
    List RateRecord :=
  (limiter.records noKeys hits).filter (fun x => decide (x.hit.key = key))

/-- What the calls on a key can rely on. -/
structure RateLimiter.RateBounded (limiter : RateLimiter) (key : String) (hits : List RateHit) :
    Prop where
  /-- While the key lives, as many calls are admitted as the limit says. -/
  life : ∀ front life back, limiter.recordsOf key hits = front ++ life ++ back →
    (∀ x ∈ life.tail, x.found ≠ none) →
      life.countP (fun x => decide (x.outcome = .admitted)) ≤ (limiter.policy key).limit
  /-- In an interval as long as the window, twice as many. -/
  interval : ∀ start, (limiter.recordsOf key hits).countP
      (fun x => decide (x.outcome = .admitted ∧ start ≤ x.hit.time ∧
        x.hit.time ≤ start + (limiter.policy key).windowMs)) ≤ 2 * (limiter.policy key).limit
  /-- After a call the key has a TTL. -/
  ttl : ∀ x ∈ limiter.recordsOf key hits, ∃ c e, x.left = some c ∧ c.expiresAt = some e ∧
    x.hit.time < e ∧ e ≤ x.hit.time + (limiter.policy key).windowMs
  retry : ∀ x ∈ limiter.recordsOf key hits, ∀ seconds, x.outcome = .tooManyRequests seconds →
    1 ≤ seconds ∧ seconds ≤ (limiter.policy key).windowSeconds
  /-- A call that waits for `Retry-After`, and is the next one, starts a new window. -/
  restart : ∀ front x y back, limiter.recordsOf key hits = front ++ x :: y :: back →
    ∀ seconds, x.outcome = .tooManyRequests seconds →
      (x.hit.time : ℤ) + seconds * 1000 ≤ y.hit.time → y.found = none ∧
        y.left = some ⟨1, some (y.hit.time + (limiter.policy key).windowMs)⟩
  /-- Calls on other keys make no difference. -/
  alone : limiter.recordsOf key hits =
    limiter.records noKeys (hits.filter (fun hit => decide (hit.key = key)))

/-! ### One call -/

/-- A counter with its window. -/
def RedisCounter.ofWindow (c : Window ℕ) : RedisCounter := ⟨c.count, some c.expires⟩

/-- The outcome of a call that leaves a counter. -/
def outcomeOf (limit now : ℕ) (c : Window ℕ) : RateOutcome :=
  if c.count ≤ limit then .admitted else .tooManyRequests (retryAfter ((c.expires : ℤ) - now))

theorem get_ofWindow {r : RedisKeys} {key : String} {entry : Option (Window ℕ)}
    (h : r key = entry.map RedisCounter.ofWindow) (now : ℕ) :
    r.get now key = (live entry now).map RedisCounter.ofWindow := by
  unfold RedisKeys.get
  rw [h]
  cases entry with
  | none => rfl
  | some c =>
      by_cases hlt : now < c.expires
      · rw [live_of_lt hlt]
        simp [RedisCounter.ofWindow, hlt]
      · rw [live_of_le (not_lt.mp hlt)]
        simpa [RedisCounter.ofWindow] using hlt

/-- After `INCR` and `PEXPIRE` the key has the counter of `FixedWindow`. -/
theorem incr_pexpire {r : RedisKeys} {key : String} {entry : Option (Window ℕ)}
    (h : r key = entry.map RedisCounter.ofWindow) (hpos : ∀ c ∈ entry, 1 ≤ c.count)
    (windowMs now : ℕ) :
    (if (r.incr now key).count = 1 then (r.incr now key).pexpire now windowMs
      else r.incr now key) = RedisCounter.ofWindow (hit windowMs entry now) := by
  have hget := get_ofWindow h now
  unfold hit
  cases hlive : live entry now with
  | none =>
      have hincr : r.incr now key = ⟨1, none⟩ := by simp [RedisKeys.incr, hget, hlive]
      rw [hincr]
      rfl
  | some c =>
      have hone := hpos c (Option.filter_eq_some_iff.mp hlive).1
      have hincr : r.incr now key = ⟨c.count + 1, some c.expires⟩ := by
        simp [RedisKeys.incr, hget, hlive, RedisCounter.ofWindow]
      rw [hincr]
      exact if_neg (by dsimp only; omega)

/-- The script is the counter of `FixedWindow`; the branch for a key without a TTL is never taken. -/
theorem hitScript_eq {r : RedisKeys} {key : String} {entry : Option (Window ℕ)}
    (h : r key = entry.map RedisCounter.ofWindow) (hpos : ∀ c ∈ entry, 1 ≤ c.count) {windowMs : ℕ}
    (hw : 0 < windowMs) (now limit : ℕ) :
    hitScript r now key limit windowMs =
      (r.set key (RedisCounter.ofWindow (hit windowMs entry now)),
        if (hit windowMs entry now).count ≤ limit then -1
        else ((hit windowMs entry now).expires : ℤ) - now) := by
  have hlt := lt_hit hw entry now
  have hcounter := incr_pexpire h hpos windowMs now
  unfold hitScript
  dsimp only
  rw [hcounter]
  by_cases hlimit : (hit windowMs entry now).count ≤ limit
  · have hnot : ¬ limit < (RedisCounter.ofWindow (hit windowMs entry now)).count :=
      Nat.not_lt.mpr hlimit
    rw [if_neg hnot, if_pos hlimit]
  · have hover : limit < (RedisCounter.ofWindow (hit windowMs entry now)).count :=
      Nat.lt_of_not_le hlimit
    have hpttl : (RedisCounter.ofWindow (hit windowMs entry now)).pttl now =
        ((hit windowMs entry now).expires : ℤ) - now := rfl
    rw [if_pos hover, if_neg hlimit, hpttl, if_neg (by omega)]

section Enforce

variable {limiter : RateLimiter} {r r' : RedisKeys} {h : RateHit}

/-- **One call** of a limiter that is on, while Redis is up. -/
theorem enforce_eq {entry : Option (Window ℕ)} (hon : limiter.enabled = true) (hup : h.redisUp = true)
    (hr : r (redisKey h.key) = entry.map RedisCounter.ofWindow) (hpos : ∀ c ∈ entry, 1 ≤ c.count) :
    limiter.enforce r h =
      (r.set (redisKey h.key)
          (RedisCounter.ofWindow (hit (limiter.policy h.key).windowMs entry h.time)),
        outcomeOf (limiter.policy h.key).limit h.time
          (hit (limiter.policy h.key).windowMs entry h.time)) := by
  have hw := (limiter.policy h.key).windowMs_pos
  have hlt := lt_hit hw entry h.time
  unfold RateLimiter.enforce
  rw [if_neg (by simp [hon]), if_neg (by simp [hup])]
  dsimp only
  rw [hitScript_eq hr hpos hw]
  unfold outcomeOf
  by_cases hlimit : (hit (limiter.policy h.key).windowMs entry h.time).count ≤
      (limiter.policy h.key).limit
  · simp only [if_pos hlimit]
    rw [if_neg (by decide)]
  · simp only [if_neg hlimit]
    rw [if_pos (by omega)]

/-- **Frame of the script**: it writes its key, and what it writes and answers comes from the key. -/
theorem hitScript_frame (r : RedisKeys) (now : ℕ) (key : String) (limit windowMs : ℕ) :
    ∃ c ttl, ∀ r' : RedisKeys, r' key = r key →
      hitScript r' now key limit windowMs = (r'.set key c, ttl) := by
  have hincr : ∀ r' : RedisKeys, r' key = r key → r'.incr now key = r.incr now key := by
    intro r' hr
    unfold RedisKeys.incr RedisKeys.get
    rw [hr]
  generalize hn : (if (r.incr now key).count = 1 then (r.incr now key).pexpire now windowMs
    else r.incr now key) = n
  have hscript : ∀ r' : RedisKeys, r' key = r key → hitScript r' now key limit windowMs =
      if limit < n.count then
        if n.pttl now < 0 then (r'.set key (n.pexpire now windowMs), (windowMs : ℤ))
        else (r'.set key n, n.pttl now)
      else (r'.set key n, -1) := by
    intro r' hr
    unfold hitScript
    dsimp only
    rw [hincr r' hr, hn]
  by_cases hover : limit < n.count
  · by_cases hneg : n.pttl now < 0
    · exact ⟨n.pexpire now windowMs, windowMs, fun r' hr => by
        rw [hscript r' hr, if_pos hover, if_pos hneg]⟩
    · exact ⟨n, n.pttl now, fun r' hr => by rw [hscript r' hr, if_pos hover, if_neg hneg]⟩
  · exact ⟨n, -1, fun r' hr => by rw [hscript r' hr, if_neg hover]⟩

/-- **Frame of a call**: nothing happens, or the call writes its key, and what it writes and its outcome
come from the key. -/
theorem enforce_frame (limiter : RateLimiter) (r : RedisKeys) (h : RateHit) :
    (∃ outcome, ∀ r', limiter.enforce r' h = (r', outcome)) ∨
      ∃ c outcome, ∀ r' : RedisKeys, r' (redisKey h.key) = r (redisKey h.key) →
        limiter.enforce r' h = (r'.set (redisKey h.key) c, outcome) := by
  unfold RateLimiter.enforce
  by_cases hon : limiter.enabled = false
  · exact Or.inl ⟨.admitted, fun r' => if_pos hon⟩
  by_cases hup : h.redisUp = false
  · exact Or.inl ⟨.admitted, fun r' => by rw [if_neg hon, if_pos hup]⟩
  obtain ⟨c, ttl, hscript⟩ := hitScript_frame r h.time (redisKey h.key)
    (limiter.policy h.key).limit (limiter.policy h.key).windowMs
  right
  by_cases httl : 0 ≤ ttl
  · refine ⟨c, .tooManyRequests (retryAfter ttl), fun r' hr => ?_⟩
    rw [if_neg hon, if_neg hup]
    dsimp only
    rw [hscript r' hr]
    exact if_pos httl
  · refine ⟨c, .admitted, fun r' hr => ?_⟩
    rw [if_neg hon, if_neg hup]
    dsimp only
    rw [hscript r' hr]
    exact if_neg httl

theorem redisKey_injective {a b : String} (h : redisKey a = redisKey b) : a = b :=
  (String.append_right_inj _).mp h

theorem enforce_other {key : String} (hkey : h.key ≠ key) :
    (limiter.enforce r h).1 (redisKey key) = r (redisKey key) := by
  rcases enforce_frame limiter r h with ⟨outcome, hsame⟩ | ⟨c, outcome, hwrite⟩
  · rw [hsame r]
  · rw [hwrite r rfl]
    exact r.set_ne (fun heq => hkey (redisKey_injective heq).symm) c

theorem enforce_congr (limiter : RateLimiter) (hr : r (redisKey h.key) = r' (redisKey h.key)) :
    (limiter.enforce r h).2 = (limiter.enforce r' h).2 ∧
      (limiter.enforce r h).1 (redisKey h.key) = (limiter.enforce r' h).1 (redisKey h.key) := by
  rcases enforce_frame limiter r h with ⟨outcome, hsame⟩ | ⟨c, outcome, hwrite⟩
  · rw [hsame r, hsame r']
    exact ⟨rfl, hr⟩
  · rw [hwrite r rfl, hwrite r' hr.symm]
    simp

end Enforce

/-! ### The calls on a key -/

section Records

variable {limiter : RateLimiter} {key : String}

/-- **Calls on other keys make no difference**: the records of a key are those of its own calls. -/
theorem records_filter {r r' : RedisKeys} (hr : r (redisKey key) = r' (redisKey key))
    (hits : List RateHit) :
    (limiter.records r hits).filter (fun x => decide (x.hit.key = key)) =
      limiter.records r' (hits.filter (fun h => decide (h.key = key))) := by
  induction hits generalizing r r' with
  | nil => rfl
  | cons h hits ih =>
      rw [RateLimiter.records_cons]
      by_cases hkey : h.key = key
      · subst hkey
        obtain ⟨houtcome, hkeys⟩ := enforce_congr limiter hr
        have hget : r.get h.time (redisKey h.key) = r'.get h.time (redisKey h.key) := by
          unfold RedisKeys.get
          rw [hr]
        rw [List.filter_cons_of_pos (by simp), List.filter_cons_of_pos (by simp),
          RateLimiter.records_cons, ih hkeys, houtcome, hkeys, hget]
      · rw [List.filter_cons_of_neg (by simpa using hkey), List.filter_cons_of_neg (by simpa using hkey)]
        exact ih ((enforce_other hkey).trans hr)

/-- A call of `FixedWindow` as a record. -/
def recordOf (limiter : RateLimiter) (key : String) (c : Call ℕ) : RateRecord where
  hit := ⟨key, c.time, true⟩
  found := c.found.map RedisCounter.ofWindow
  left := some (RedisCounter.ofWindow c.left)
  outcome := outcomeOf (limiter.policy key).limit c.time c.left

/-- **Refinement**: the calls on a key are those of a counter with a fixed window. -/
theorem records_eq_calls (hon : limiter.enabled = true) {r : RedisKeys} {entry : Option (Window ℕ)}
    (hr : r (redisKey key) = entry.map RedisCounter.ofWindow) (hpos : ∀ c ∈ entry, 1 ≤ c.count)
    {hits : List RateHit} (hkey : ∀ h ∈ hits, h.key = key) (hup : ∀ h ∈ hits, h.redisUp = true) :
    limiter.records r hits =
      (calls (limiter.policy key).windowMs entry (hits.map RateHit.time)).map
        (recordOf limiter key) := by
  induction hits generalizing r entry with
  | nil => rfl
  | cons h hits ih =>
      obtain ⟨hfirst, hrest⟩ := List.forall_mem_cons.mp hkey
      obtain ⟨hupFirst, hupRest⟩ := List.forall_mem_cons.mp hup
      obtain ⟨k, time, up⟩ := h
      obtain rfl : k = key := hfirst
      obtain rfl : up = true := hupFirst
      have hcall := enforce_eq (h := ⟨k, time, true⟩) hon rfl hr hpos
      have hnext : (limiter.enforce r ⟨k, time, true⟩).1 (redisKey k) =
          (some (hit (limiter.policy k).windowMs entry time)).map RedisCounter.ofWindow := by
        rw [hcall]
        exact r.set_self (redisKey k) _
      have hposNext : ∀ c ∈ some (hit (limiter.policy k).windowMs entry time), 1 ≤ c.count := by
        rintro c hc
        obtain rfl := Option.some.inj hc
        exact hit_pos _ entry time
      rw [RateLimiter.records_cons, List.map_cons, calls, List.map_cons]
      dsimp only
      rw [ih hnext hposNext hrest hupRest, hnext, get_ofWindow hr, hcall]
      rfl

theorem outcomeOf_admitted_iff {limit now : ℕ} {c : Window ℕ} :
    outcomeOf limit now c = .admitted ↔ c.count ≤ limit := by
  unfold outcomeOf
  split <;> simp_all

theorem seconds_of_outcomeOf {limit now : ℕ} {c : Window ℕ} {seconds : ℤ}
    (h : outcomeOf limit now c = .tooManyRequests seconds) :
    seconds = retryAfter ((c.expires : ℤ) - now) := by
  unfold outcomeOf at h
  split at h
  · cases h
  · exact (RateOutcome.tooManyRequests.inj h).symm

/-- The rounding: not less than the time that is left, and not more than the window. -/
theorem retryAfter_bounds {ttl seconds : ℤ} (hpos : 0 < ttl) (hle : ttl ≤ seconds * 1000) :
    1 ≤ retryAfter ttl ∧ retryAfter ttl ≤ seconds ∧ ttl ≤ retryAfter ttl * 1000 := by
  unfold retryAfter
  omega

theorem recordsOf_eq_calls (limiter : RateLimiter) (key : String) (hon : limiter.enabled = true)
    {hits : List RateHit}
    (horder : hits.Pairwise (fun a b => a.time ≤ b.time)) (hup : ∀ h ∈ hits, h.redisUp = true) :
    ∃ ts : List ℕ, ts.Pairwise (· ≤ ·) ∧ limiter.recordsOf key hits =
      (calls (limiter.policy key).windowMs none ts).map (recordOf limiter key) := by
  refine ⟨(hits.filter (fun h => decide (h.key = key))).map RateHit.time, ?_, ?_⟩
  · rw [List.pairwise_map]
    exact horder.filter _
  · unfold RateLimiter.recordsOf
    have hsame : noKeys (redisKey key) = noKeys (redisKey key) := rfl
    rw [records_filter hsame]
    refine records_eq_calls hon rfl (by simp) ?_ ?_
    · intro h hh
      simpa using (List.mem_filter.mp hh).2
    · exact fun h hh => hup h (List.mem_of_mem_filter hh)

theorem countP_admitted (cs : List (Call ℕ)) :
    (cs.map (recordOf limiter key)).countP (fun x => decide (x.outcome = .admitted)) =
      admitted (limiter.policy key).limit cs := by
  rw [List.countP_map]
  unfold admitted
  congr 1
  funext c
  simp only [Function.comp, recordOf, outcomeOf_admitted_iff]

theorem countP_admittedIn (a b : ℕ) (cs : List (Call ℕ)) :
    (cs.map (recordOf limiter key)).countP
        (fun x => decide (x.outcome = .admitted ∧ a ≤ x.hit.time ∧ x.hit.time ≤ b)) =
      admittedIn (limiter.policy key).limit a b cs := by
  rw [List.countP_map]
  unfold admittedIn
  congr 1
  funext c
  simp only [Function.comp, recordOf, outcomeOf_admitted_iff]

theorem retry_of_call {w : ℕ} (hw : w = (limiter.policy key).windowMs) {ts : List ℕ}
    (hsorted : ts.Pairwise (· ≤ ·)) {c : Call ℕ} (hc : c ∈ calls w none ts) {seconds : ℤ}
    (hrejected : (recordOf limiter key c).outcome = .tooManyRequests seconds) :
    1 ≤ seconds ∧ seconds ≤ (limiter.policy key).windowSeconds ∧
      (c.left.expires : ℤ) ≤ c.time + seconds * 1000 := by
  subst hw
  have hlt := lt_expires (limiter.policy key).windowMs_pos c hc
  have hle := expires_le hsorted (by simp) c hc
  have hms : ((limiter.policy key).windowMs : ℤ) = (limiter.policy key).windowSeconds * 1000 := by
    simp [RatePolicy.windowMs]
  have hpos : 0 < (c.left.expires : ℤ) - c.time := by omega
  have hwindow : (c.left.expires : ℤ) - c.time ≤
      ((limiter.policy key).windowSeconds : ℤ) * 1000 := by omega
  have hbounds := retryAfter_bounds hpos hwindow
  rw [seconds_of_outcomeOf hrejected]
  exact ⟨hbounds.1, hbounds.2.1, by omega⟩

/-- **The rate limiter**, for every key and every sequence of calls in the order of their times: with
the limiter on, and Redis up. -/
theorem rateBounded (limiter : RateLimiter) (hon : limiter.enabled = true) (key : String)
    (hits : List RateHit) (horder : hits.Pairwise (fun a b => a.time ≤ b.time))
    (hup : ∀ h ∈ hits, h.redisUp = true) : limiter.RateBounded key hits := by
  obtain ⟨ts, hsorted, hrecords⟩ := recordsOf_eq_calls limiter key hon horder hup
  have hpos := (limiter.policy key).windowMs_pos
  constructor
  · intro front life back hsplit hfound
    rw [hrecords] at hsplit
    obtain ⟨cs, back', hcalls, hcs, rfl⟩ := List.map_eq_append_iff.mp hsplit
    obtain ⟨front', life', rfl, rfl, rfl⟩ := List.map_eq_append_iff.mp hcs
    rw [countP_admitted]
    refine admitted_life hcalls ?_
    intro c hc hnone
    rw [← List.map_tail] at hfound
    exact hfound _ (List.mem_map_of_mem hc) (by simp [recordOf, hnone])
  · intro start
    rw [hrecords, countP_admittedIn]
    exact admitted_interval hpos hsorted
  · intro x hx
    rw [hrecords] at hx
    obtain ⟨c, hc, rfl⟩ := List.mem_map.mp hx
    exact ⟨_, _, rfl, rfl, lt_expires hpos c hc, expires_le hsorted (by simp) c hc⟩
  · intro x hx seconds hseconds
    rw [hrecords] at hx
    obtain ⟨c, hc, rfl⟩ := List.mem_map.mp hx
    have hretry := retry_of_call rfl hsorted hc hseconds
    exact ⟨hretry.1, hretry.2.1⟩
  · intro front x y back hsplit seconds hseconds hwait
    rw [hrecords] at hsplit
    obtain ⟨front', rest, hcalls, rfl, hrest⟩ := List.map_eq_append_iff.mp hsplit
    obtain ⟨c, later, rfl, rfl, hlater⟩ := List.map_eq_cons_iff.mp hrest
    obtain ⟨d, later, rfl, rfl, rfl⟩ := List.map_eq_cons_iff.mp hlater
    have hc : c ∈ calls (limiter.policy key).windowMs none ts := by simp [hcalls]
    have hretry := retry_of_call rfl hsorted hc hseconds
    have hend : c.left.expires ≤ d.time := by
      have htime : (c.time : ℤ) + seconds * 1000 ≤ d.time := hwait
      omega
    obtain ⟨hnone, hleft⟩ := restart hcalls hend
    refine ⟨by simp [recordOf, hnone], ?_⟩
    simp only [recordOf, hleft]
    rfl
  · exact records_filter rfl hits

end Records

/-- One attempt in ten seconds. -/
def strictLimiter : RateLimiter := ⟨true, fun _ => ⟨1, 10, by decide⟩⟩

/-- The second of three attempts is rejected. -/
def threeHits : List RateHit := [⟨"a", 0, true⟩, ⟨"a", 2500, true⟩, ⟨"a", 10500, true⟩]

theorem rateBounded_strict : strictLimiter.RateBounded "a" threeHits :=
  rateBounded strictLimiter rfl "a" threeHits (by decide) (by decide)

example : (strictLimiter.recordsOf "a" threeHits).map RateRecord.outcome =
    [.admitted, .tooManyRequests 8, .admitted] := by decide

end IspBilling
