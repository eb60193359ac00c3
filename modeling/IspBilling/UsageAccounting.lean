import IspBilling.LostUpdates
import IspBilling.UsageColumns

/-! # The usage counters of a subscription and its usage logs

`update_usage` (`app/modules/subscriptions/service.py`) loads the subscription, adds to its counters in
memory, and commits them with a log entry.  There is no row lock, and the flush writes the columns
whose value differs from the loaded one.  `UsageRace` is the row of one subscription with its open
calls and its logs; calls start and commit in any order.

Each counter with its open calls is a `LostUpdates.Counter` (`column_run`), so no counter exceeds what
the logs say, and it says the same precisely if no commit that adds to it has been overtaken
(`usage_agrees_iff`). -/

namespace IspBilling

open Runs LostUpdates

/-- An open call of `update_usage`: the request, and the row as it was loaded. -/
structure UsageCall where
  update : UsageUpdate
  loaded : Usage
deriving DecidableEq, Repr

/-- The row of a subscription, the open calls and the log entries. -/
structure UsageRace where
  row : Usage
  calls : List UsageCall
  logs : List UsageLog
deriving DecidableEq, Repr

/-- The flush of a changed row: the columns that differ from the loaded ones are written. -/
def Usage.flush (loaded changed row : Usage) : Usage :=
  { row with
    bytesUploaded := if changed.bytesUploaded = loaded.bytesUploaded then row.bytesUploaded
      else changed.bytesUploaded
    bytesDownloaded := if changed.bytesDownloaded = loaded.bytesDownloaded then row.bytesDownloaded
      else changed.bytesDownloaded
    totalBytesUsed := if changed.totalBytesUsed = loaded.totalBytesUsed then row.totalBytesUsed
      else changed.totalBytesUsed
    sessionCount := if changed.sessionCount = loaded.sessionCount then row.sessionCount
      else changed.sessionCount
    lastActivity := if changed.lastActivity = loaded.lastActivity then row.lastActivity
      else changed.lastActivity }

namespace UsageRace

/-- A call loads the row, or the `i`-th call commits. -/
inductive Event where
  | load (update : UsageUpdate)
  | commit (i : ℕ) (now : ℤ)
deriving DecidableEq, Repr

/-- One event; a commit that the database refuses changes nothing. -/
def step (s : UsageRace) : Event → UsageRace
  | .load update => { s with calls := s.calls ++ [⟨update, s.row⟩] }
  | .commit i now =>
      match s.calls[i]? with
      | none => s
      | some c =>
          if (c.update.log now).Accepted (c.loaded.add now c.update) then
            { row := c.loaded.flush (c.loaded.add now c.update) s.row
              calls := s.calls.eraseIdx i
              logs := s.logs ++ [c.update.log now] }
          else { s with calls := s.calls.eraseIdx i }

/-! ### Columns -/

inductive Column where
  | uploaded | downloaded | total | sessions
deriving DecidableEq, Repr

namespace Column

def value : Column → Usage → ℤ
  | uploaded, u => u.bytesUploaded
  | downloaded, u => u.bytesDownloaded
  | total, u => u.totalBytesUsed
  | sessions, u => u.sessionCount

def amount : Column → UsageUpdate → ℕ
  | uploaded, r => r.bytesUploaded
  | downloaded, r => r.bytesDownloaded
  | total, r => r.bytesUploaded + r.bytesDownloaded
  | sessions, _ => 1

/-- What a log entry says about a counter. -/
def logged : Column → UsageLog → ℤ
  | uploaded, l => l.bytesUploaded
  | downloaded, l => l.bytesDownloaded
  | total, l => l.bytesUploaded + l.bytesDownloaded
  | sessions, _ => 1

end Column

/-- A commit that adds to the counter finds the value that its call has loaded. -/
def NotOvertaken (column : Column) (s : UsageRace) : Event → Prop
  | .load _ => True
  | .commit i now => ∀ c ∈ s.calls[i]?, (c.update.log now).Accepted (c.loaded.add now c.update) →
      column.amount c.update ≠ 0 → column.value s.row = column.value c.loaded

instance (column : Column) (s : UsageRace) (e : Event) : Decidable (s.NotOvertaken column e) :=
  match e with
  | .load _ => isTrue trivial
  | .commit i now => inferInstanceAs (Decidable (∀ c ∈ s.calls[i]?,
      (c.update.log now).Accepted (c.loaded.add now c.update) →
        column.amount c.update ≠ 0 → column.value s.row = column.value c.loaded))

section Columns

variable (column : Column) (s : UsageRace)

def counter : Counter := ⟨column.value s.row, s.calls.map fun c => column.value c.loaded⟩

/-- What an event is for a counter. -/
def move : Event → Move
  | .load _ => .load
  | .commit i now =>
      match s.calls[i]? with
      | none => .close i
      | some c =>
          if (c.update.log now).Accepted (c.loaded.add now c.update) then
            .write i (column.amount c.update)
          else .close i

theorem value_add (now : ℤ) (r : UsageUpdate) (u : Usage) :
    column.value (u.add now r) = column.value u + column.amount r := by
  cases column <;> simp [Column.value, Column.amount, Usage.add]

theorem logged_log (now : ℤ) (r : UsageUpdate) : column.logged (r.log now) = column.amount r := by
  cases column <;> simp [Column.logged, Column.amount, UsageUpdate.log]

/-- The flush writes a counter unless nothing was added to it. -/
theorem value_flush (loaded changed row : Usage) :
    column.value (loaded.flush changed row) =
      if column.value changed = column.value loaded then column.value row else column.value changed := by
  cases column <;> rfl

theorem counter_step (e : Event) : (s.step e).counter column = (s.counter column).step (s.move column e) := by
  cases e with
  | load update => simp [step, move, counter, Counter.step]
  | commit i now =>
      cases hi : s.calls[i]? with
      | none =>
          have hlen : (s.calls.map fun c => column.value c.loaded).length ≤ i := by
            rw [List.length_map]
            exact List.getElem?_eq_none_iff.mp hi
          simp only [step, move, counter, Counter.step, hi]
          rw [List.eraseIdx_of_length_le hlen]
      | some c =>
          simp only [step, move, hi]
          by_cases haccepted : (c.update.log now).Accepted (c.loaded.add now c.update)
          · simp only [if_pos haccepted, counter, Counter.step, List.getElem?_map, hi, Option.map_some,
              List.eraseIdx_map]
            rw [value_flush, value_add]
            by_cases hzero : column.amount c.update = 0
            · simp [hzero]
            · have hne : column.value c.loaded + column.amount c.update ≠ column.value c.loaded := by
                omega
              rw [if_neg hne, if_neg hzero]
          · simp only [if_neg haccepted, counter, Counter.step, List.eraseIdx_map]

theorem written_move (e : Event) :
    ((s.step e).logs.map column.logged).sum =
      (s.logs.map column.logged).sum + ((s.counter column).written (s.move column e)).sum := by
  cases e with
  | load update => simp [step, move, Counter.written]
  | commit i now =>
      cases hi : s.calls[i]? with
      | none => simp [step, move, hi, Counter.written]
      | some c =>
          obtain ⟨hlen, -⟩ := List.getElem?_eq_some_iff.mp hi
          by_cases haccepted : (c.update.log now).Accepted (c.loaded.add now c.update)
          · simp only [step, move, hi, if_pos haccepted, Counter.written, counter, List.length_map, if_pos hlen,
              List.map_append, List.sum_append, List.map_cons, List.map_nil, List.sum_singleton, logged_log]
          · simp only [step, move, hi, if_neg haccepted, Counter.written, List.sum_nil, add_zero]

theorem fresh_move_iff (e : Event) :
    (s.counter column).Fresh (s.move column e) ↔ s.NotOvertaken column e := by
  cases e with
  | load update => exact Iff.rfl
  | commit i now =>
      cases hi : s.calls[i]? with
      | none => simp [move, hi, Counter.Fresh, NotOvertaken]
      | some c =>
          by_cases haccepted : (c.update.log now).Accepted (c.loaded.add now c.update)
          · simp [move, hi, haccepted, Counter.Fresh, NotOvertaken, counter]
          · simp [move, hi, haccepted, Counter.Fresh, NotOvertaken]

/-- The moves of a counter in a run. -/
def moves : List Event → List Move := outputs step (fun s e => [s.move column e]) s

theorem counter_run (es : List Event) :
    (exec step s es).counter column = exec Counter.step (s.counter column) (s.moves column es) :=
  exec_projection (fun s e => s.counter_step column e) s es

theorem written_run (es : List Event) :
    ((exec step s es).logs.map column.logged).sum = (s.logs.map column.logged).sum +
      (outputs Counter.step Counter.written (s.counter column) (s.moves column es)).sum := by
  induction es generalizing s with
  | nil => simp [moves]
  | cons e es ih =>
      have hfirst := s.written_move column e
      have hrest := ih (s.step e)
      have hmoves : s.moves column (e :: es) = s.move column e :: (s.step e).moves column es := rfl
      rw [exec_cons, hmoves, outputs_cons, List.sum_append, ← counter_step]
      omega

end Columns

/-- What a counter is to be after a run: what it was, and what was logged since. -/
def expected (column : Column) (s t : UsageRace) : ℤ :=
  column.value s.row + ((t.logs.map column.logged).sum - (s.logs.map column.logged).sum)

/-- For every order in which calls of `update_usage` load and commit, no counter of the subscription
exceeds what it was and what has been logged; and it is that precisely if no commit that adds to the
counter found another value than its call had loaded. -/
theorem usage_agrees_iff (s : UsageRace) (hcalls : s.calls = []) (es : List Event) (column : Column) :
    column.value (exec step s es).row ≤ expected column s (exec step s es) ∧
      (column.value (exec step s es).row = expected column s (exec step s es) ↔
        Along step (NotOvertaken column) s es) := by
  have hwithin : Counter.Within (column.value s.row) (s.counter column) := by
    refine ⟨le_refl _, fun v hv => ?_⟩
    simp [counter, hcalls] at hv
  have hvalue : column.value (exec step s es).row =
      (exec Counter.step (s.counter column) (s.moves column es)).value := by
    rw [← counter_run]
    rfl
  have hexpected : expected column s (exec step s es) = column.value s.row +
      (outputs Counter.step Counter.written (s.counter column) (s.moves column es)).sum := by
    rw [expected, written_run]
    omega
  rw [hvalue, hexpected]
  refine ⟨Counter.value_le hwithin, ?_⟩
  rw [Counter.value_eq_iff hwithin rfl]
  exact along_projection (fun s e => s.counter_step column e) (fun s e => s.fresh_move_iff column e) s es

/-- If no commit is overtaken, the total stays the sum of the two directions. -/
theorem balanced_of_not_overtaken (s : UsageRace) (hcalls : s.calls = []) (hrow : s.row.Balanced)
    (es : List Event) (hes : ∀ column, Along step (NotOvertaken column) s es) :
    (exec step s es).row.Balanced := by
  have hup := (usage_agrees_iff s hcalls es .uploaded).2.mpr (hes _)
  have hdown := (usage_agrees_iff s hcalls es .downloaded).2.mpr (hes _)
  have htotal := (usage_agrees_iff s hcalls es .total).2.mpr (hes _)
  -- the entries add up
  have hlogged (l : List UsageLog) : (l.map Column.total.logged).sum =
      (l.map Column.uploaded.logged).sum + (l.map Column.downloaded.logged).sum := by
    induction l with
    | nil => rfl
    | cons x l ih =>
        have hx : Column.total.logged x = Column.uploaded.logged x + Column.downloaded.logged x := rfl
        rw [List.map_cons, List.map_cons, List.map_cons, List.sum_cons, List.sum_cons, List.sum_cons, ih, hx]
        omega
  unfold Usage.Balanced at hrow ⊢
  simp only [Column.value, expected, hlogged] at hup hdown htotal
  omega

/-- A subscription without usage. -/
def unused : UsageRace := ⟨⟨1, 0, 0, 0, 0, none⟩, [], []⟩

/-- Two calls that overlap. -/
def overlap : List Event :=
  [.load ⟨1, 5, 0, 0, none, none⟩, .load ⟨1, 0, 7, 0, none, none⟩, .commit 0 10, .commit 0 11]

theorem usage_agrees_iff_overlap :
    Column.total.value (exec step unused overlap).row ≤ expected .total unused (exec step unused overlap) ∧
      (Column.total.value (exec step unused overlap).row =
          expected .total unused (exec step unused overlap) ↔
        Along step (NotOvertaken .total) unused overlap) :=
  usage_agrees_iff unused rfl overlap .total

/-- The upload of the first call is kept, but the total forgets it. -/
example : (exec step unused overlap).row = ⟨1, 5, 7, 7, 1, some 11⟩ := by decide

end UsageRace

end IspBilling
