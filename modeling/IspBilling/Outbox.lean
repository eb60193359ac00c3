import IspBilling.Rows
import IspBilling.Runs

/-! # The transactional outbox

Domain events are rows of `outbox_events`, written in the transaction of what they report.  A Celery
beat task runs `publish_pending` (`app/events/outbox.py`) every few seconds: it reads the oldest rows
that are not published, publishes them one by one, and at the end commits a `published_at` for those
that went through and one more attempt for the others.

Nothing claims the rows that a run has read, so runs may overlap; a run that crashes has published
rows and committed nothing; a publication may be stored although its acknowledgement is lost; and a
row that fails is left behind while the run goes on.  `_envelope` draws a new uuid for every attempt.
`Orderly` is a schedule without these: the runs come one after the other, none crashes after it has
published, no acknowledgement is lost, and when a row has failed the later rows of its aggregate fail as
well.  `outbox_delivery_always` shows that then a row keeps one envelope id and an aggregate its order: a
run reads unpublished rows only, oldest first, and its commit stamps what it has published. -/

namespace IspBilling

open Rows Runs

/-! ### Rows, envelopes and runs -/

/-- A row of `outbox_events`; the payload is its JSON text. -/
structure OutboxEvent where
  id : ℕ
  aggregateType : String
  aggregateId : Option String
  eventType : String
  payload : String
  tenantId : Option String
  createdAt : ℤ
  publishedAt : Option ℤ
  attempts : ℕ
deriving DecidableEq, Repr

/-- The JSON envelope of an event. -/
structure Envelope where
  id : ℕ
  eventType : String
  aggregateType : String
  aggregateId : Option String
  tenantId : Option String
  payload : String
  timestamp : ℤ
  version : String
deriving DecidableEq, Repr

/-- `_envelope`, with the uuid that it draws. -/
def OutboxEvent.envelope (evt : OutboxEvent) (uuid : ℕ) : Envelope where
  id := uuid
  eventType := evt.eventType
  aggregateType := evt.aggregateType
  aggregateId := evt.aggregateId
  tenantId := evt.tenantId
  payload := evt.payload
  timestamp := evt.createdAt
  version := "1.0"

/-- What the broker has stored: the row that it comes from, the subject and the envelope. -/
structure Publication where
  rowId : ℕ
  subject : String
  envelope : Envelope
deriving DecidableEq, Repr

/-- What becomes of a call of `js.publish`. -/
inductive PublishOutcome where
  | acknowledged
  /-- The broker stores the message, but the call raises. -/
  | lost
  | failed
deriving DecidableEq, Repr

/-- A run of `publish_pending`, with the attempts of each row as it has read them: the rows ahead, and
the rows behind it with whether they went through. -/
structure OutboxRun where
  ahead : List (ℕ × ℕ)
  behind : List (ℕ × ℕ × Bool)
deriving DecidableEq, Repr

/-- The table, what the broker has stored, the runs under way, and the next uuid. -/
structure OutboxSystem where
  rows : Table OutboxEvent.id
  log : List Publication
  runs : List OutboxRun
  nextUuid : ℕ

inductive OutboxStep where
  /-- A run reads its batch. -/
  | read (batch : List ℕ)
  /-- A run publishes its next row. -/
  | publish (run : ℕ) (outcome : PublishOutcome)
  /-- A run commits. -/
  | commit (run : ℕ) (now : ℤ)
  /-- A run ends without a commit. -/
  | crash (run : ℕ)
deriving DecidableEq, Repr

/-- `MAX_PUBLISH_ATTEMPTS`. -/
def maxPublishAttempts : ℕ := 10

/-- `PUBLISH_BATCH`. -/
def publishBatch : ℕ := 100

def OutboxRun.settle (run : OutboxRun) (now : ℤ) (evt : OutboxEvent) : OutboxEvent :=
  match run.behind.find? (fun x => decide (x.1 = evt.id)) with
  | some (_, attempts, through) =>
      if through then { evt with publishedAt := some now } else { evt with attempts := attempts + 1 }
  | none => evt

theorem OutboxRun.settle_fixed (run : OutboxRun) (now : ℤ) (evt : OutboxEvent) :
    (run.settle now evt).id = evt.id ∧ (run.settle now evt).aggregateId = evt.aggregateId ∧
      (run.settle now evt).createdAt = evt.createdAt := by
  unfold settle
  split
  · split <;> simp
  · simp

namespace OutboxSystem

/-- The rows that a run may read. -/
def pendingRows (s : OutboxSystem) : List OutboxEvent :=
  s.rows.rows.filter fun evt =>
    decide (evt.publishedAt = none ∧ evt.attempts < maxPublishAttempts)

/-- A batch: the oldest rows that are pending, oldest first, at most `publishBatch` of them.  Rows
of the same time come in any order. -/
def IsBatch (s : OutboxSystem) (batch : List ℕ) : Prop :=
  batch.Nodup ∧ batch.length = min publishBatch s.pendingRows.length ∧
    (∀ id ∈ batch, id ∈ s.pendingRows.map OutboxEvent.id) ∧
    (batch.filterMap s.rows.get).Pairwise (fun a b => a.createdAt ≤ b.createdAt) ∧
    ∀ evt ∈ s.pendingRows, evt.id ∉ batch →
      ∀ evt' ∈ batch.filterMap s.rows.get, evt'.createdAt ≤ evt.createdAt

instance (s : OutboxSystem) (batch : List ℕ) : Decidable (s.IsBatch batch) :=
  inferInstanceAs (Decidable (batch.Nodup ∧ _ ∧ (∀ id ∈ batch, _) ∧ List.Pairwise _ _ ∧
    ∀ evt ∈ s.pendingRows, _ → ∀ evt' ∈ batch.filterMap s.rows.get, _))

def nextOf (s : OutboxSystem) (run : ℕ) : Option OutboxEvent :=
  (s.runs[run]?).bind fun r => (r.ahead.head?).bind fun x => s.rows.get x.1

def stored (s : OutboxSystem) : OutboxStep → Option OutboxEvent
  | .publish run outcome => if outcome = .failed then none else s.nextOf run
  | _ => none

/-- A run after its next row. -/
def advanced (outcome : PublishOutcome) (r : OutboxRun) : OutboxRun :=
  match r.ahead with
  | [] => r
  | (id, attempts) :: ahead =>
      ⟨ahead, r.behind ++ [(id, attempts, decide (outcome = .acknowledged))]⟩

/-- The runs after a step. -/
def nextRuns (s : OutboxSystem) : OutboxStep → List OutboxRun
  | .read batch =>
      if s.IsBatch batch then
        s.runs ++ [⟨(batch.filterMap s.rows.get).map (fun evt => (evt.id, evt.attempts)), []⟩]
      else s.runs
  | .publish run outcome => s.runs.modify run (advanced outcome)
  | .commit run _ =>
      match s.runs[run]? with
      | some ⟨[], _⟩ => s.runs.set run ⟨[], []⟩
      | _ => s.runs
  | .crash run => s.runs.set run ⟨[], []⟩

def nextRows (s : OutboxSystem) : OutboxStep → Table OutboxEvent.id
  | .commit run now =>
      match s.runs[run]? with
      | some ⟨[], behind⟩ =>
          s.rows.map ((⟨[], behind⟩ : OutboxRun).settle now)
            (fun evt => (OutboxRun.settle_fixed _ now evt).1)
      | _ => s.rows
  | _ => s.rows

def step (s : OutboxSystem) (e : OutboxStep) : OutboxSystem where
  rows := s.nextRows e
  log :=
    match s.stored e with
    | some evt =>
        s.log ++ [⟨evt.id, evt.aggregateType ++ "." ++ evt.eventType, evt.envelope s.nextUuid⟩]
    | none => s.log
  runs := s.nextRuns e
  nextUuid := s.nextUuid + (s.stored e).toList.length

def start (rows : Table OutboxEvent.id) : OutboxSystem := ⟨rows, [], [], 0⟩

/-! ### What consumers rely on -/

/-- The rows that have been published, in the order of the publications. -/
def publishedIds (s : OutboxSystem) : List ℕ := s.log.map Publication.rowId

/-- All publications of a row carry the same envelope id. -/
def SameEnvelope (s : OutboxSystem) : Prop :=
  ∀ p ∈ s.log, ∀ q ∈ s.log, p.rowId = q.rowId → p.envelope.id = q.envelope.id

/-- The first publications of the rows of an aggregate are in the order of `created_at`. -/
def InOrder (s : OutboxSystem) : Prop :=
  ∀ evt ∈ s.rows.rows, ∀ evt' ∈ s.rows.rows, ∀ a, evt.aggregateId = some a →
    evt'.aggregateId = some a → evt.createdAt < evt'.createdAt →
    evt.id ∈ s.publishedIds → evt'.id ∈ s.publishedIds →
    s.publishedIds.idxOf evt.id < s.publishedIds.idxOf evt'.id

/-- The delivery contract. -/
def Delivers (s : OutboxSystem) : Prop := s.SameEnvelope ∧ s.InOrder

/-- No later row of its aggregate has been published. -/
def Leads (s : OutboxSystem) (evt : OutboxEvent) : Prop :=
  ∀ evt' ∈ s.rows.rows, ∀ a, evt.aggregateId = some a → evt'.aggregateId = some a →
    evt.createdAt < evt'.createdAt → evt'.id ∉ s.publishedIds

/-- What the contract comes to in one step: what the broker stores comes from a row that it has not heard
of, nor of a later one of its aggregate. -/
def StoresFirst (s : OutboxSystem) (e : OutboxStep) : Prop :=
  ∀ evt ∈ s.stored e, evt.id ∉ s.publishedIds ∧ s.Leads evt

/-- Only commits touch the table, and they leave ids, aggregates and times alone. -/
theorem inOrder_of_stored_none {s : OutboxSystem} {e : OutboxStep} (h : s.stored e = none) :
    (s.step e).InOrder ↔ s.InOrder := by
  have hids : (s.step e).publishedIds = s.publishedIds := by simp [publishedIds, step, h]
  unfold InOrder
  rw [hids]
  cases e with
  | commit run now =>
      simp only [step, nextRows]
      split
      · next behind _ =>
          have hfixed := OutboxRun.settle_fixed ⟨[], behind⟩ now
          simp only [Table.map, List.forall_mem_map, (hfixed _).1, (hfixed _).2.1, (hfixed _).2.2]
      · rfl
  | read batch => exact Iff.rfl
  | publish run outcome => exact Iff.rfl
  | crash run => exact Iff.rfl

theorem rows_of_stored {s : OutboxSystem} {e : OutboxStep} {evt : OutboxEvent}
    (h : s.stored e = some evt) : (s.step e).rows = s.rows ∧ evt ∈ s.rows.rows := by
  cases e with
  | publish run outcome =>
      refine ⟨rfl, ?_⟩
      simp only [stored] at h
      split at h
      · cases h
      · obtain ⟨r, -, h⟩ := Option.bind_eq_some_iff.mp h
        obtain ⟨x, -, h⟩ := Option.bind_eq_some_iff.mp h
        exact (Table.get_eq_some.mp h).1
  | read batch => cases h
  | commit run now => cases h
  | crash run => cases h

theorem publishedIds_of_stored {s : OutboxSystem} {e : OutboxStep} {evt : OutboxEvent}
    (h : s.stored e = some evt) : (s.step e).publishedIds = s.publishedIds ++ [evt.id] := by
  simp [publishedIds, step, h]

/-- The uuids drawn so far are in the log. -/
def UuidsDrawn (s : OutboxSystem) : Prop := ∀ p ∈ s.log, p.envelope.id < s.nextUuid

theorem UuidsDrawn.step {s : OutboxSystem} (h : s.UuidsDrawn) (e : OutboxStep) :
    (s.step e).UuidsDrawn := by
  unfold UuidsDrawn OutboxSystem.step
  cases s.stored e with
  | none => exact h
  | some evt =>
      simp only [List.mem_append, List.mem_singleton, Option.toList_some, List.length_singleton]
      rintro p (hp | rfl)
      · exact (h p hp).trans (Nat.lt_succ_self _)
      · exact Nat.lt_succ_self _

theorem sameEnvelope_of_stored {s : OutboxSystem} (hdrawn : s.UuidsDrawn) (hsame : s.SameEnvelope)
    {e : OutboxStep} {evt : OutboxEvent} (h : s.stored e = some evt) :
    (s.step e).SameEnvelope ↔ evt.id ∉ s.publishedIds := by
  have hlog : (s.step e).log = s.log ++
      [⟨evt.id, evt.aggregateType ++ "." ++ evt.eventType, evt.envelope s.nextUuid⟩] := by
    simp [step, h]
  unfold SameEnvelope
  rw [hlog]
  constructor
  · intro hall hmem
    obtain ⟨p, hp, hid⟩ := List.mem_map.mp hmem
    have heq := hall p (List.mem_append_left _ hp) _
      (List.mem_append_right _ (List.mem_singleton_self _)) hid
    exact absurd heq (Nat.ne_of_lt (hdrawn p hp))
  · intro hnew p hp q hq hpq
    simp only [List.mem_append, List.mem_singleton] at hp hq
    rcases hp with hp | rfl
    · rcases hq with hq | rfl
      · exact hsame p hp q hq hpq
      · exact absurd (List.mem_map.mpr ⟨p, hp, hpq⟩) hnew
    · rcases hq with hq | rfl
      · exact absurd (List.mem_map.mpr ⟨q, hq, hpq.symm⟩) hnew
      · rfl

/-- The first publication of a row keeps the order exactly if no later one has been published. -/
theorem inOrder_of_stored {s : OutboxSystem} (horder : s.InOrder) {e : OutboxStep}
    {evt : OutboxEvent} (h : s.stored e = some evt) (hnew : evt.id ∉ s.publishedIds) :
    (s.step e).InOrder ↔ s.Leads evt := by
  obtain ⟨hrows, hevt⟩ := rows_of_stored h
  have hids := publishedIds_of_stored h
  have hold : ∀ id ∈ s.publishedIds, (s.publishedIds ++ [evt.id]).idxOf id =
      s.publishedIds.idxOf id := fun id hid => List.idxOf_append_of_mem hid
  have hlast : (s.publishedIds ++ [evt.id]).idxOf evt.id = s.publishedIds.length := by
    rw [List.idxOf_append_of_notMem hnew]
    simp
  unfold InOrder
  rw [hrows, hids]
  constructor
  · intro hall evt' hevt' a ha ha' hlt hmem
    have hidx := hall evt hevt evt' hevt' a ha ha' hlt (by simp) (by simp [hmem])
    rw [hlast, hold _ hmem] at hidx
    exact absurd (List.idxOf_lt_length_iff.mpr hmem) (Nat.lt_asymm hidx)
  · intro hleads x hx y hy a hxa hya hlt hxm hym
    simp only [List.mem_append, List.mem_singleton] at hxm hym
    rcases hym with hym | hye
    · rcases hxm with hxm | hxe
      · rw [hold _ hxm, hold _ hym]
        exact horder x hx y hy a hxa hya hlt hxm hym
      · obtain rfl := s.rows.keyed.eq_of_key hx hevt hxe
        exact absurd hym (hleads y hy a hxa hya hlt)
    · rcases hxm with hxm | hxe
      · rw [hold _ hxm, hye, hlast]
        exact List.idxOf_lt_length_iff.mpr hxm
      · obtain rfl := s.rows.keyed.eq_of_key hx hy (hxe.trans hye.symm)
        exact absurd hlt (lt_irrefl _)

theorem delivers_step_iff {s : OutboxSystem} (hdrawn : s.UuidsDrawn) (hs : s.Delivers)
    (e : OutboxStep) : (s.step e).Delivers ↔ s.StoresFirst e := by
  cases h : s.stored e with
  | none =>
      have hlog : (s.step e).log = s.log := by simp [step, h]
      have hsame : (s.step e).SameEnvelope ↔ s.SameEnvelope := by
        unfold SameEnvelope
        rw [hlog]
      unfold Delivers
      rw [hsame, inOrder_of_stored_none h]
      exact iff_of_true hs (by simp [StoresFirst, h])
  | some evt =>
      unfold Delivers
      rw [sameEnvelope_of_stored hdrawn hs.1 h]
      simp only [StoresFirst, h, Option.mem_some_iff, forall_eq']
      exact and_congr_right (fun hnew => inOrder_of_stored hs.2 h hnew)

/-! ### Orderly schedules -/

/-- The commit takes the row out of the pending ones: it went through, or it has failed for the last
time. -/
def Closes (x : ℕ × ℕ × Bool) : Prop := x.2.2 = true ∨ maxPublishAttempts ≤ x.2.1 + 1

instance : DecidablePred Closes := fun x =>
  inferInstanceAs (Decidable (x.2.2 = true ∨ maxPublishAttempts ≤ x.2.1 + 1))

/-- The run has failed to publish an earlier row of the aggregate, which will be tried again. -/
def FailedBefore (s : OutboxSystem) (r : OutboxRun) (evt : OutboxEvent) : Prop :=
  ∃ x ∈ r.behind, ¬ Closes x ∧ ∃ evt' ∈ s.rows.get x.1, ∃ a ∈ evt.aggregateId,
    evt'.aggregateId = some a ∧ evt'.createdAt < evt.createdAt

instance (s : OutboxSystem) (r : OutboxRun) (evt : OutboxEvent) : Decidable (s.FailedBefore r evt) :=
  inferInstanceAs (Decidable (∃ x ∈ r.behind, ¬ Closes x ∧ ∃ evt' ∈ s.rows.get x.1,
    ∃ a ∈ evt.aggregateId, evt'.aggregateId = some a ∧ evt'.createdAt < evt.createdAt))

/-- A run reads when no other one is under way; no acknowledgement is lost, and a row goes through only if
no earlier row of its aggregate has failed in the run; and a run that has published does not crash. -/
def Orderly (s : OutboxSystem) : OutboxStep → Prop
  | .read batch => s.IsBatch batch → ∀ r ∈ s.runs, r = ⟨[], []⟩
  | .publish run outcome => outcome ≠ .lost ∧ (outcome = .acknowledged →
      ∀ r ∈ s.runs[run]?, ∀ evt ∈ s.nextOf run, ¬ s.FailedBefore r evt)
  | .commit .. => True
  | .crash run => ∀ r ∈ s.runs[run]?, ∀ x ∈ r.behind, x.2.2 = false

instance (s : OutboxSystem) : DecidablePred s.Orderly
  | .read batch => inferInstanceAs (Decidable (s.IsBatch batch → ∀ r ∈ s.runs, r = ⟨[], []⟩))
  | .publish run outcome =>
      inferInstanceAs (Decidable (outcome ≠ .lost ∧ (outcome = .acknowledged →
        ∀ r ∈ s.runs[run]?, ∀ evt ∈ s.nextOf run, ¬ s.FailedBefore r evt)))
  | .commit .. => isTrue trivial
  | .crash run =>
      inferInstanceAs (Decidable (∀ r ∈ s.runs[run]?, ∀ x ∈ r.behind, x.2.2 = false))

/-- The run `r` is the only one under way, if any is. -/
def Only (s : OutboxSystem) (r : OutboxRun) : Prop :=
  (r = ⟨[], []⟩ ∧ ∀ r' ∈ s.runs, r' = ⟨[], []⟩) ∨
    ∃ i, s.runs[i]? = some r ∧
      ∀ (j : ℕ) (r' : OutboxRun), s.runs[j]? = some r' → j ≠ i → r' = ⟨[], []⟩

/-- What holds while `r` is under way.  The rows of its batch are pending, and the oldest ones; what is
published and pending was published by it; and an earlier row that is still pending while a later one of
its aggregate is published is behind the run, which will close it. -/
structure Good (s : OutboxSystem) (r : OutboxRun) : Prop where
  delivers : s.Delivers
  drawn : s.UuidsDrawn
  distinct : (r.behind.map Prod.fst ++ r.ahead.map Prod.fst).Nodup
  known : ∀ id ∈ r.behind.map Prod.fst ++ r.ahead.map Prod.fst, ∃ evt ∈ s.pendingRows, evt.id = id
  fresh : ∀ x ∈ r.ahead, x.1 ∉ s.publishedIds
  sorted : r.ahead.Pairwise (fun x y => ∀ evt ∈ s.rows.get x.1, ∀ evt' ∈ s.rows.get y.1,
    evt.createdAt ≤ evt'.createdAt)
  oldest : ∀ evt ∈ s.pendingRows, evt.id ∉ r.behind.map Prod.fst → evt.id ∉ r.ahead.map Prod.fst →
    ∀ x ∈ r.ahead, ∀ evt' ∈ s.rows.get x.1, evt'.createdAt ≤ evt.createdAt
  stamped : ∀ evt ∈ s.pendingRows, evt.id ∈ s.publishedIds →
    ∃ x ∈ r.behind, x.1 = evt.id ∧ x.2.2 = true
  earlier : ∀ evt ∈ s.pendingRows, ∀ evt' ∈ s.rows.rows, ∀ a, evt.aggregateId = some a →
    evt'.aggregateId = some a → evt.createdAt < evt'.createdAt → evt'.id ∈ s.publishedIds →
      evt' ∈ s.pendingRows ∧ ∃ x ∈ r.behind, x.1 = evt.id ∧ Closes x

section Runs

variable {s t : OutboxSystem} {r : OutboxRun}

theorem mem_pendingRows {evt : OutboxEvent} : evt ∈ s.pendingRows ↔
    evt ∈ s.rows.rows ∧ evt.publishedAt = none ∧ evt.attempts < maxPublishAttempts := by
  simp only [pendingRows, List.mem_filter, decide_eq_true_eq]

theorem Only.eq_or_idle (h : s.Only r) {i : ℕ} {r' : OutboxRun} (hr' : s.runs[i]? = some r') :
    r' = ⟨[], []⟩ ∨ r' = r := by
  rcases h with ⟨_, hidle⟩ | ⟨j, hj, hother⟩
  · exact Or.inl (hidle r' (List.mem_of_getElem? hr'))
  · by_cases hij : i = j
    · subst hij
      exact Or.inr (Option.some.inj (hr'.symm.trans hj))
    · exact Or.inl (hother i r' hr' hij)

theorem Only.congr (h : s.Only r) (ht : t.runs = s.runs) : t.Only r := by
  unfold Only
  rw [ht]
  exact h

theorem Only.set (h : s.Only r) {i : ℕ} (hi : s.runs[i]? = some r) (hactive : r ≠ ⟨[], []⟩)
    {r' : OutboxRun} (ht : t.runs = s.runs.set i r') : t.Only r' := by
  have hlt : i < s.runs.length := (List.getElem?_eq_some_iff.mp hi).1
  refine Or.inr ⟨i, by rw [ht, List.getElem?_set_self hlt], ?_⟩
  intro j q hq hne
  rw [ht, List.getElem?_set_ne (Ne.symm hne)] at hq
  rcases h with ⟨hr, _⟩ | ⟨k, _, hother⟩
  · exact absurd hr hactive
  · by_cases hik : i = k
    · exact hother j q hq (hik ▸ hne)
    · exact absurd (hother i r hi hik) hactive

theorem runs_set_idle {i : ℕ} (hi : s.runs[i]? = some ⟨[], []⟩) : s.runs.set i ⟨[], []⟩ = s.runs := by
  obtain ⟨hlt, heq⟩ := List.getElem?_eq_some_iff.mp hi
  rw [← heq, List.set_getElem_self]

/-- **Frame rule**: the runs do not matter. -/
theorem Good.frame (h : s.Good r) (hrows : t.rows = s.rows) (hlog : t.log = s.log)
    (hdrawn : t.UuidsDrawn) : t.Good r := by
  obtain ⟨rows, log, runs, nextUuid⟩ := s
  obtain ⟨rows', log', runs', nextUuid'⟩ := t
  obtain rfl := hrows
  obtain rfl := hlog
  exact ⟨h.delivers, hdrawn, h.distinct, h.known, h.fresh, h.sorted, h.oldest, h.stamped, h.earlier⟩

theorem good_start (rows : Table OutboxEvent.id) : (start rows).Good ⟨[], []⟩ where
  delivers := by simp [Delivers, SameEnvelope, InOrder, publishedIds, start]
  drawn := by simp [UuidsDrawn, start]
  distinct := List.nodup_nil
  known _ h := by cases h
  fresh _ h := by cases h
  sorted := .nil
  oldest _ _ _ _ _ h := by cases h
  stamped _ _ h := by cases h
  earlier _ _ _ _ _ _ _ _ h := by cases h

theorem Good.of_idle (hdelivers : s.Delivers) (hdrawn : s.UuidsDrawn)
    (hstamped : ∀ evt ∈ s.pendingRows, evt.id ∉ s.publishedIds)
    (hearlier : ∀ evt ∈ s.pendingRows, ∀ evt' ∈ s.rows.rows, ∀ a, evt.aggregateId = some a →
      evt'.aggregateId = some a → evt.createdAt < evt'.createdAt → evt'.id ∉ s.publishedIds) :
    s.Good ⟨[], []⟩ where
  delivers := hdelivers
  drawn := hdrawn
  distinct := List.nodup_nil
  known _ h := by cases h
  fresh _ h := by cases h
  sorted := .nil
  oldest _ _ _ _ _ h := by cases h
  stamped evt hevt h := absurd h (hstamped evt hevt)
  earlier evt hevt evt' hevt' a ha ha' hlt h := absurd h (hearlier evt hevt evt' hevt' a ha ha' hlt)

/-- A run that has published nothing leaves nothing behind. -/
theorem Good.crash (h : s.Good r) (hnone : ∀ x ∈ r.behind, x.2.2 = false) : s.Good ⟨[], []⟩ := by
  have hstamped : ∀ evt ∈ s.pendingRows, evt.id ∉ s.publishedIds := by
    intro evt hevt hmem
    obtain ⟨x, hx, _, hthrough⟩ := h.stamped evt hevt hmem
    exact absurd (hthrough.symm.trans (hnone x hx)) (by decide)
  refine .of_idle h.delivers h.drawn hstamped ?_
  intro evt hevt evt' hevt' a ha ha' hlt hmem
  exact hstamped evt' (h.earlier evt hevt evt' hevt' a ha ha' hlt hmem).1 hmem

theorem batch_ids (s : OutboxSystem) (batch : List ℕ) :
    (((batch.filterMap s.rows.get).map (fun evt => (evt.id, evt.attempts))).map Prod.fst).Sublist
      batch := by
  induction batch with
  | nil => exact List.Sublist.refl _
  | cons id batch ih =>
      cases hget : s.rows.get id with
      | none =>
          rw [List.filterMap_cons_none hget]
          exact ih.cons id
      | some evt =>
          rw [List.filterMap_cons_some hget, List.map_cons, List.map_cons, (Table.get_eq_some.mp hget).2]
          exact ih.cons_cons id

theorem Good.read (h : s.Good ⟨[], []⟩) {batch : List ℕ} (hbatch : s.IsBatch batch) :
    s.Good ⟨(batch.filterMap s.rows.get).map (fun evt => (evt.id, evt.attempts)), []⟩ := by
  obtain ⟨hnodup, _, hpending, hsorted, holdest⟩ := hbatch
  have hrow : ∀ x ∈ (batch.filterMap s.rows.get).map (fun evt => (evt.id, evt.attempts)),
      ∀ evt ∈ s.rows.get x.1, evt ∈ batch.filterMap s.rows.get := by
    intro x hx evt hevt
    obtain ⟨evt₀, hevt₀, rfl⟩ := List.mem_map.mp hx
    obtain ⟨id, hid, hget⟩ := List.mem_filterMap.mp hevt₀
    rw [(Table.get_eq_some.mp hget).2, Option.mem_def, hget] at hevt
    exact Option.some.inj hevt ▸ hevt₀
  refine ⟨h.delivers, h.drawn, hnodup.sublist (batch_ids s batch), ?_, ?_, ?_, ?_, ?_, ?_⟩
  · intro id hid
    exact List.mem_map.mp (hpending id ((batch_ids s batch).subset hid))
  · intro x hx hmem
    have hid := (batch_ids s batch).subset (List.mem_map_of_mem hx)
    obtain ⟨evt, hevt, hevtid⟩ := List.mem_map.mp (hpending x.1 hid)
    obtain ⟨_, hnone, _⟩ := h.stamped evt hevt (hevtid ▸ hmem)
    cases hnone
  · refine List.pairwise_map.mpr (hsorted.imp_of_mem ?_)
    intro a b ha hb hle evt hevt evt' hevt'
    have hself : ∀ c ∈ batch.filterMap s.rows.get, s.rows.get c.id = some c := by
      intro c hc
      obtain ⟨id, _, hget⟩ := List.mem_filterMap.mp hc
      exact Table.get_key (Table.get_eq_some.mp hget).1
    obtain rfl := Option.some.inj ((hself a ha).symm.trans hevt)
    obtain rfl := Option.some.inj ((hself b hb).symm.trans hevt')
    exact hle
  · intro evt hevt _ hout x hx evt' hevt'
    refine holdest evt hevt ?_ evt' (hrow x hx evt' hevt')
    intro hmem
    have hget : s.rows.get evt.id = some evt := Table.get_key (mem_pendingRows.mp hevt).1
    refine hout ?_
    rw [List.map_map]
    exact List.mem_map.mpr ⟨evt, List.mem_filterMap.mpr ⟨evt.id, hmem, hget⟩, rfl⟩
  · intro evt hevt hmem
    obtain ⟨_, hnone, _⟩ := h.stamped evt hevt hmem
    cases hnone
  · intro evt hevt evt' hevt' a ha ha' hlt hmem
    obtain ⟨_, _, hnone, _⟩ := h.earlier evt hevt evt' hevt' a ha ha' hlt hmem
    cases hnone

theorem Good.leads {id n : ℕ} {ahead : List (ℕ × ℕ)} {behind : List (ℕ × ℕ × Bool)}
    (h : s.Good ⟨(id, n) :: ahead, behind⟩) {evt : OutboxEvent} (hevt : s.rows.get id = some evt) :
    evt ∈ s.pendingRows ∧ evt.id = id ∧ evt.id ∉ s.publishedIds ∧ s.Leads evt := by
  obtain ⟨hmem, hid⟩ := Table.get_eq_some.mp hevt
  obtain ⟨evt₀, hevt₀, hid₀⟩ := h.known id (by simp)
  obtain rfl := s.rows.keyed.eq_of_key (mem_pendingRows.mp hevt₀).1 hmem (hid₀.trans hid.symm)
  refine ⟨hevt₀, hid, hid ▸ h.fresh (id, n) List.mem_cons_self, ?_⟩
  intro evt' hevt' a ha ha' hlt hpub
  obtain ⟨_, x, hx, hxid, _⟩ := h.earlier evt₀ hevt₀ evt' hevt' a ha ha' hlt hpub
  have hdistinct := (List.nodup_append.mp h.distinct).2.2 x.1 (List.mem_map_of_mem hx) id (by simp)
  exact hdistinct (hxid.trans hid)

/-- A pending row that is older than the next one of the run is in the batch, and was there before it. -/
theorem Good.mem_behind {id n : ℕ} {ahead : List (ℕ × ℕ)} {behind : List (ℕ × ℕ × Bool)}
    (h : s.Good ⟨(id, n) :: ahead, behind⟩) {evt evt' : OutboxEvent} (hevt : evt ∈ s.pendingRows)
    (hget : s.rows.get id = some evt') (hlt : evt.createdAt < evt'.createdAt) :
    evt.id ∈ behind.map Prod.fst := by
  obtain ⟨hevt', hid⟩ := Table.get_eq_some.mp hget
  have hevtget : s.rows.get evt.id = some evt := Table.get_key (mem_pendingRows.mp hevt).1
  by_contra hout
  by_cases hin : evt.id ∈ ((id, n) :: ahead).map Prod.fst
  · rcases List.mem_cons.mp hin with heq | hin
    · have hsame : evt = evt' :=
        s.rows.keyed.eq_of_key (mem_pendingRows.mp hevt).1 hevt' (heq.trans hid.symm)
      exact absurd (hsame ▸ hlt) (lt_irrefl _)
    · obtain ⟨y, hy, hyid⟩ := List.mem_map.mp hin
      have hfirst := (List.pairwise_cons.mp h.sorted).1 y hy evt' hget
      exact absurd (hfirst evt (hyid.symm ▸ hevtget)) (not_le.mpr hlt)
  · exact absurd (h.oldest evt hevt hout hin (id, n) List.mem_cons_self evt' hget) (not_le.mpr hlt)

theorem Good.publish {id n : ℕ} {ahead : List (ℕ × ℕ)} {behind : List (ℕ × ℕ × Bool)}
    (h : s.Good ⟨(id, n) :: ahead, behind⟩) {through : Bool}
    (hrows : t.rows = s.rows) (hdelivers : t.Delivers) (hdrawn : t.UuidsDrawn)
    (hids : t.publishedIds = s.publishedIds ++ if through then [id] else [])
    (hok : through = true → ∀ evt ∈ s.rows.get id,
      ¬ s.FailedBefore ⟨(id, n) :: ahead, behind⟩ evt) :
    t.Good ⟨ahead, behind ++ [(id, n, through)]⟩ := by
  have hpending : t.pendingRows = s.pendingRows := by unfold pendingRows; rw [hrows]
  have hperm : ((behind ++ [(id, n, through)]).map Prod.fst ++ ahead.map Prod.fst).Perm
      (behind.map Prod.fst ++ ((id, n) :: ahead).map Prod.fst) := by
    rw [List.map_append, List.append_assoc]
    exact List.Perm.refl _
  have hrest := (List.pairwise_cons.mp h.sorted).2
  refine ⟨hdelivers, hdrawn, hperm.nodup_iff.mpr h.distinct, ?_, ?_, ?_, ?_, ?_, ?_⟩
  · rw [hpending]
    exact fun i hi => h.known i (hperm.mem_iff.mp hi)
  · intro x hx hmem
    rw [hids] at hmem
    rcases List.mem_append.mp hmem with hold | hnew
    · exact h.fresh x (List.mem_cons_of_mem _ hx) hold
    · have hne : id ∉ ahead.map Prod.fst :=
        (List.nodup_cons.mp (List.nodup_append.mp h.distinct).2.1).1
      split at hnew
      · rw [List.mem_singleton] at hnew
        exact hne (hnew ▸ List.mem_map_of_mem hx)
      · cases hnew
  · rw [hrows]
    exact hrest
  · rw [hpending, hrows]
    intro evt hevt hbehind hahead x hx
    rw [List.map_append, List.mem_append, not_or] at hbehind
    refine h.oldest evt hevt hbehind.1 ?_ x (List.mem_cons_of_mem _ hx)
    rw [List.map_cons, List.mem_cons, not_or]
    exact ⟨fun heq => hbehind.2 (by simp [heq]), hahead⟩
  · rw [hpending, hids]
    intro evt hevt hmem
    rcases List.mem_append.mp hmem with hold | hnew
    · obtain ⟨x, hx, hxid, hthrough⟩ := h.stamped evt hevt hold
      exact ⟨x, List.mem_append_left _ hx, hxid, hthrough⟩
    · split at hnew
      · rename_i hthrough
        exact ⟨(id, n, through), by simp, (List.mem_singleton.mp hnew).symm, hthrough⟩
      · cases hnew
  · rw [hpending, hrows, hids]
    intro evt hevt evt' hevt' a ha ha' hlt hmem
    rcases List.mem_append.mp hmem with hold | hnew
    · obtain ⟨hpend, x, hx, hxid, hcloses⟩ := h.earlier evt hevt evt' hevt' a ha ha' hlt hold
      exact ⟨hpend, x, List.mem_append_left _ hx, hxid, hcloses⟩
    · split at hnew
      · rename_i hthrough
        rw [List.mem_singleton] at hnew
        have hget : s.rows.get id = some evt' := hnew ▸ Table.get_key hevt'
        refine ⟨(h.leads hget).1, ?_⟩
        have hevtget : s.rows.get evt.id = some evt := Table.get_key (mem_pendingRows.mp hevt).1
        obtain ⟨x, hx, hxid⟩ := List.mem_map.mp (h.mem_behind hevt hget hlt)
        refine ⟨x, List.mem_append_left _ hx, hxid, ?_⟩
        by_contra hopen
        exact hok hthrough evt' hget ⟨x, hx, hopen, evt, hxid.symm ▸ hevtget, a, ha', ha, hlt⟩
      · cases hnew

/-- A row that is pending after the commit of a run was pending before it, and the run has not closed it. -/
theorem pending_of_settle {behind : List (ℕ × ℕ × Bool)} (h : s.Good ⟨[], behind⟩) {now : ℤ}
    {evt : OutboxEvent} (hevt : evt ∈ s.rows.rows)
    (hnone : ((⟨[], behind⟩ : OutboxRun).settle now evt).publishedAt = none)
    (hfew : ((⟨[], behind⟩ : OutboxRun).settle now evt).attempts < maxPublishAttempts) :
    evt ∈ s.pendingRows ∧ ∀ x ∈ behind, x.1 = evt.id → ¬ Closes x := by
  have hdistinct : (behind.map Prod.fst).Nodup := by simpa using h.distinct
  by_cases hin : evt.id ∈ behind.map Prod.fst
  · obtain ⟨x, hx, hxid⟩ := List.mem_map.mp hin
    have hfind : behind.find? (fun y => decide (y.1 = evt.id)) = some x := by
      have hsome : (behind.find? (fun y => decide (y.1 = evt.id))).isSome = true :=
        List.find?_isSome.mpr ⟨x, hx, decide_eq_true hxid⟩
      obtain ⟨y, hy⟩ := Option.isSome_iff_exists.mp hsome
      have hyid : y.1 = evt.id := by simpa using List.find?_some hy
      rw [hy, List.inj_on_of_nodup_map hdistinct (List.mem_of_find?_eq_some hy) hx
        (hyid.trans hxid.symm)]
    obtain ⟨evt₀, hevt₀, hid₀⟩ := h.known evt.id (by simpa using hin)
    obtain rfl := s.rows.keyed.eq_of_key (mem_pendingRows.mp hevt₀).1 hevt hid₀
    refine ⟨hevt₀, ?_⟩
    intro y hy hyid hcloses
    obtain rfl := List.inj_on_of_nodup_map hdistinct hy hx (hyid.trans hxid.symm)
    obtain ⟨id, n, through⟩ := y
    simp only [OutboxRun.settle, hfind] at hnone hfew
    rcases hcloses with hthrough | hlast
    · simp only at hthrough
      rw [hthrough] at hnone
      cases hnone
    · simp only at hlast
      cases through with
      | true => cases hnone
      | false => exact absurd hfew (not_lt.mpr hlast)
  · have hfind : behind.find? (fun y => decide (y.1 = evt.id)) = none :=
      List.find?_eq_none.mpr fun y hy heq => hin (List.mem_map.mpr ⟨y, hy, of_decide_eq_true heq⟩)
    simp only [OutboxRun.settle, hfind] at hnone hfew
    exact ⟨mem_pendingRows.mpr ⟨hevt, hnone, hfew⟩,
      fun x hx hxid => absurd (List.mem_map.mpr ⟨x, hx, hxid⟩) hin⟩

theorem Good.commit {behind : List (ℕ × ℕ × Bool)} (h : s.Good ⟨[], behind⟩) {now : ℤ}
    (hrows : t.rows.rows = s.rows.rows.map ((⟨[], behind⟩ : OutboxRun).settle now))
    (hdelivers : t.Delivers) (hdrawn : t.UuidsDrawn) (hids : t.publishedIds = s.publishedIds) :
    t.Good ⟨[], []⟩ := by
  have hfixed := OutboxRun.settle_fixed ⟨[], behind⟩ now
  have hbefore : ∀ evt ∈ t.pendingRows, ∃ evt₀ ∈ s.pendingRows, evt₀.id = evt.id ∧
      evt₀.aggregateId = evt.aggregateId ∧ evt₀.createdAt = evt.createdAt ∧
      ∀ x ∈ behind, x.1 = evt.id → ¬ Closes x := by
    intro evt hevt
    obtain ⟨hmem, hnone, hfew⟩ := mem_pendingRows.mp hevt
    rw [hrows] at hmem
    obtain ⟨evt₀, hevt₀, rfl⟩ := List.mem_map.mp hmem
    obtain ⟨hpending, hopen⟩ := pending_of_settle h hevt₀ hnone hfew
    obtain ⟨hid, hagg, hat⟩ := hfixed evt₀
    exact ⟨evt₀, hpending, hid.symm, hagg.symm, hat.symm, hid.symm ▸ hopen⟩
  refine .of_idle hdelivers hdrawn ?_ ?_
  · intro evt hevt hmem
    obtain ⟨evt₀, hpending, hid, _, _, hopen⟩ := hbefore evt hevt
    obtain ⟨x, hx, hxid, hthrough⟩ := h.stamped evt₀ hpending (hids ▸ hid ▸ hmem)
    exact hopen x hx (hxid.trans hid) (Or.inl hthrough)
  · intro evt hevt evt' hevt' a ha ha' hlt hmem
    obtain ⟨evt₀, hpending, hid, hagg, hat, hopen⟩ := hbefore evt hevt
    rw [hrows] at hevt'
    obtain ⟨evt₁, hevt₁, rfl⟩ := List.mem_map.mp hevt'
    obtain ⟨hid₁, hagg₁, hat₁⟩ := hfixed evt₁
    rw [hids, hid₁] at hmem
    rw [hagg₁] at ha'
    rw [hat₁, ← hat] at hlt
    obtain ⟨_, x, hx, hxid, hcloses⟩ :=
      h.earlier evt₀ hpending evt₁ hevt₁ a (hagg.trans ha) ha' hlt hmem
    exact hopen x hx (hxid.trans hid) hcloses

end Runs

theorem good_read {s : OutboxSystem} {r : OutboxRun} (honly : s.Only r) (h : s.Good r)
    {batch : List ℕ} (ho : s.Orderly (.read batch)) :
    ∃ r', (s.step (.read batch)).Only r' ∧ (s.step (.read batch)).Good r' := by
  have hdrawn := h.drawn.step (.read batch)
  by_cases hbatch : s.IsBatch batch
  · have hidle := ho hbatch
    have hgood : s.Good ⟨[], []⟩ := by
      rcases honly with ⟨rfl, _⟩ | ⟨i, hi, _⟩
      · exact h
      · exact hidle r (List.mem_of_getElem? hi) ▸ h
    have hruns : (s.step (.read batch)).runs = s.runs ++
        [⟨(batch.filterMap s.rows.get).map (fun evt => (evt.id, evt.attempts)), []⟩] := if_pos hbatch
    refine ⟨_, Or.inr ⟨s.runs.length, ?_, ?_⟩, (hgood.read hbatch).frame rfl rfl hdrawn⟩
    · rw [hruns, List.getElem?_concat_length]
    · intro j q hq hne
      have hlt := (List.getElem?_eq_some_iff.mp hq).1
      rw [hruns, List.length_append, List.length_singleton] at hlt
      rw [hruns, List.getElem?_append_left (by omega)] at hq
      exact hidle q (List.mem_of_getElem? hq)
  · have hruns : (s.step (.read batch)).runs = s.runs := if_neg hbatch
    exact ⟨r, honly.congr hruns, h.frame rfl rfl hdrawn⟩

/-- A run without rows ahead publishes nothing. -/
theorem good_publish_of_nil {s : OutboxSystem} {r : OutboxRun} (honly : s.Only r) (h : s.Good r) {i : ℕ}
    (outcome : PublishOutcome) (hahead : ∀ r' ∈ s.runs[i]?, r'.ahead = []) :
    ∃ r', (s.step (.publish i outcome)).Only r' ∧ (s.step (.publish i outcome)).Good r' := by
  have hsame : (s.step (.publish i outcome)).runs = s.runs := by
    have hruns : (s.step (.publish i outcome)).runs = s.runs.modify i (advanced outcome) := rfl
    rw [hruns, List.modify_eq_set_getElem?]
    cases hi : s.runs[i]? with
    | none => rfl
    | some r' =>
        obtain ⟨hlt, heq⟩ := List.getElem?_eq_some_iff.mp hi
        have hr' : advanced outcome r' = r' := by
          simp only [advanced, hahead r' hi]
        simp only [Option.map_eq_map, Option.map_some, Option.getD_some, hr']
        rw [← heq, List.set_getElem_self]
  have hstored : s.stored (.publish i outcome) = none := by
    simp only [stored, nextOf]
    split
    · rfl
    · cases hi : s.runs[i]? with
      | none => rfl
      | some r' => simp [hahead r' hi]
  exact ⟨r, honly.congr hsame,
    h.frame rfl (by simp [step, hstored]) (h.drawn.step (.publish i outcome))⟩

theorem good_publish {s : OutboxSystem} {r : OutboxRun} (honly : s.Only r) (h : s.Good r) {i : ℕ}
    {outcome : PublishOutcome} (ho : s.Orderly (.publish i outcome)) :
    ∃ r', (s.step (.publish i outcome)).Only r' ∧ (s.step (.publish i outcome)).Good r' := by
  have hdrawn := h.drawn.step (.publish i outcome)
  have hruns : (s.step (.publish i outcome)).runs = s.runs.modify i (advanced outcome) := rfl
  cases hi : s.runs[i]? with
  | none => exact good_publish_of_nil honly h outcome (by simp [hi])
  | some r' =>
      obtain ⟨ahead, behind⟩ := r'
      cases ahead with
      | nil => exact good_publish_of_nil honly h outcome (by simp [hi])
      | cons x ahead =>
          obtain ⟨id, n⟩ := x
          have hr : (⟨(id, n) :: ahead, behind⟩ : OutboxRun) = r := by
            rcases honly.eq_or_idle hi with hidle | hr
            · cases hidle
            · exact hr
          subst hr
          have hnext : s.nextOf i = s.rows.get id := by simp [nextOf, hi]
          obtain ⟨evt, hevt, hid⟩ := h.known id (by simp)
          have hget : s.rows.get id = some evt := hid ▸ Table.get_key (mem_pendingRows.mp hevt).1
          obtain ⟨_, _, hnew, hleads⟩ := h.leads hget
          have hset : (s.step (.publish i outcome)).runs =
              s.runs.set i ⟨ahead, behind ++ [(id, n, decide (outcome = .acknowledged))]⟩ := by
            rw [hruns, List.modify_eq_set_getElem?, hi]
            rfl
          refine ⟨⟨ahead, behind ++ [(id, n, decide (outcome = .acknowledged))]⟩,
            honly.set hi (by simp) hset, h.publish rfl ?_ hdrawn ?_ ?_⟩
          · refine (delivers_step_iff h.drawn h.delivers _).mpr ?_
            intro evt' hevt'
            simp only [stored, hnext, hget] at hevt'
            split at hevt'
            · cases hevt'
            · obtain rfl := Option.some.inj hevt'
              exact ⟨hnew, hleads⟩
          · cases outcome with
            | acknowledged => simp [publishedIds, step, stored, hnext, hget, hid]
            | lost => exact absurd rfl ho.1
            | failed => simp [publishedIds, step, stored]
          · intro hthrough evt' hevt'
            exact ho.2 (of_decide_eq_true hthrough) _ hi evt' (hnext ▸ hevt')

theorem good_commit {s : OutboxSystem} {r : OutboxRun} (honly : s.Only r) (h : s.Good r) (i : ℕ)
    (now : ℤ) : ∃ r', (s.step (.commit i now)).Only r' ∧ (s.step (.commit i now)).Good r' := by
  have hdrawn := h.drawn.step (.commit i now)
  have hdelivers : (s.step (.commit i now)).Delivers :=
    (delivers_step_iff h.drawn h.delivers _).mpr (fun _ hevt => by cases hevt)
  cases hi : s.runs[i]? with
  | none =>
      exact ⟨r, honly.congr (by simp [step, nextRuns, hi]),
        h.frame (by simp [step, nextRows, hi]) rfl hdrawn⟩
  | some r' =>
      obtain ⟨ahead, behind⟩ := r'
      cases ahead with
      | cons x ahead =>
          exact ⟨r, honly.congr (by simp [step, nextRuns, hi]),
            h.frame (by simp [step, nextRows, hi]) rfl hdrawn⟩
      | nil =>
          have hset : (s.step (.commit i now)).runs = s.runs.set i ⟨[], []⟩ := by
            simp [step, nextRuns, hi]
          have hrows : (s.step (.commit i now)).rows.rows =
              s.rows.rows.map ((⟨[], behind⟩ : OutboxRun).settle now) := by
            simp [step, nextRows, hi, Table.map]
          rcases honly.eq_or_idle hi with hidle | hr
          · obtain ⟨-, rfl⟩ := OutboxRun.mk.inj hidle
            have hsame : (s.step (.commit i now)).rows = s.rows := by
              refine Table.ext (hrows.trans ?_)
              exact List.map_id'' (fun _ => rfl) _
            exact ⟨r, honly.congr (hset.trans (runs_set_idle hi)), h.frame hsame rfl hdrawn⟩
          · subst hr
            by_cases hactive : (⟨[], behind⟩ : OutboxRun) = ⟨[], []⟩
            · rw [hactive] at hi honly
              exact ⟨⟨[], []⟩, honly.congr (hset.trans (runs_set_idle hi)),
                h.commit hrows hdelivers hdrawn rfl⟩
            · exact ⟨⟨[], []⟩, honly.set hi hactive hset, h.commit hrows hdelivers hdrawn rfl⟩

theorem good_crash {s : OutboxSystem} {r : OutboxRun} (honly : s.Only r) (h : s.Good r) {i : ℕ}
    (ho : s.Orderly (.crash i)) :
    ∃ r', (s.step (.crash i)).Only r' ∧ (s.step (.crash i)).Good r' := by
  have hdrawn := h.drawn.step (.crash i)
  have hset : (s.step (.crash i)).runs = s.runs.set i ⟨[], []⟩ := rfl
  -- a run that is not under way
  have hnothing : s.runs.set i ⟨[], []⟩ = s.runs →
      ∃ r', (s.step (.crash i)).Only r' ∧ (s.step (.crash i)).Good r' := by
    intro hsame
    exact ⟨r, honly.congr (hset.trans hsame), h.frame rfl rfl hdrawn⟩
  cases hi : s.runs[i]? with
  | none => exact hnothing (List.set_eq_of_length_le (List.getElem?_eq_none_iff.mp hi))
  | some r' =>
      by_cases hidle : r' = ⟨[], []⟩
      · exact hnothing (runs_set_idle (hidle ▸ hi))
      · obtain rfl := (honly.eq_or_idle hi).resolve_left hidle
        exact ⟨⟨[], []⟩, honly.set hi hidle hset, (h.crash (ho r' hi)).frame rfl rfl hdrawn⟩

/-- **Step lemma**: an orderly step keeps the contract. -/
theorem good_step {s : OutboxSystem} (h : ∃ r, s.Only r ∧ s.Good r) {e : OutboxStep}
    (ho : s.Orderly e) : ∃ r, (s.step e).Only r ∧ (s.step e).Good r := by
  obtain ⟨r, honly, h⟩ := h
  cases e with
  | read batch => exact good_read honly h ho
  | publish i outcome => exact good_publish honly h ho
  | commit i now => exact good_commit honly h i now
  | crash i => exact good_crash honly h ho

/-- **The delivery contract holds in the orderly schedules**: the runs come one after the other, none
crashes after it has published or loses an acknowledgement, and no later row of an aggregate goes through
after an earlier one has failed. -/
theorem outbox_delivery_always (rows : Table OutboxEvent.id) (es : List OutboxStep)
    (ho : Along step Orderly (start rows) es) : Always step Delivers (start rows) es :=
  always_of_along (I := fun s => ∃ r, s.Only r ∧ s.Good r) (fun _ _ h ho => good_step h ho)
    (fun _ h => h.choose_spec.2.delivers)
    ⟨⟨[], []⟩, Or.inl ⟨rfl, fun _ h => by cases h⟩, good_start rows⟩ ho

def firstEvent : OutboxEvent :=
  ⟨1, "isp", some "purchase-1", "payment.received", "null", none, 10, none, 0⟩

def secondEvent : OutboxEvent :=
  ⟨2, "isp", some "purchase-1", "subscriber.created", "null", none, 20, none, 0⟩

def twoEvents : Table OutboxEvent.id := ⟨[firstEvent, secondEvent], by decide⟩

/-- The second event fails at first and goes through in the next run. -/
theorem outbox_delivery_retry :
    Always step Delivers (start twoEvents)
      [.read [1, 2], .publish 0 .acknowledged, .publish 0 .failed, .commit 0 30, .read [2],
        .publish 1 .acknowledged, .commit 1 40] :=
  outbox_delivery_always twoEvents _ (by decide)

/-- Two runs overlap, and the first event is published twice with two ids; and the first event fails,
the second goes through, and the next run publishes the first. -/
theorem outbox_contract_broken :
    ¬ Always step Delivers (start twoEvents)
        [.read [1, 2], .read [1, 2], .publish 0 .acknowledged, .publish 1 .acknowledged] ∧
      ¬ Always step Delivers (start twoEvents)
        [.read [1, 2], .publish 0 .failed, .publish 0 .acknowledged, .commit 0 30, .read [1],
          .publish 1 .acknowledged] := by
  constructor
  · intro h
    have hsame := h.2.2.2.2.1 ⟨1, "isp.payment.received", firstEvent.envelope 0⟩ (by decide)
      ⟨1, "isp.payment.received", firstEvent.envelope 1⟩ (by decide) rfl
    exact absurd hsame (by decide)
  · intro h
    have horder := h.2.2.2.2.2.2.2 { firstEvent with attempts := 1 } (by decide)
      { secondEvent with publishedAt := some 30 } (by decide) "purchase-1" rfl rfl (by decide)
      (by decide) (by decide)
    exact absurd horder (by decide)

end OutboxSystem

end IspBilling
