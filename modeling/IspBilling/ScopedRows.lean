import IspBilling.Rows
import IspBilling.Traces
import Mathlib.Logic.Function.Basic

/-! # Rows of several owners, read and written back by requests

The rows of a table belong to owners.  A request of an owner reads one row of that owner, decides on
its copy what becomes of the row, and commits this later: the columns that it has changed, or the
deletion.  Other requests may commit in between, and nothing locks the row.  New rows take their ids
from a sequence, which never gives an id twice and may leave gaps; a unique column may keep them out.

* `exec_of`: if no new row clashes with one of another owner, what an owner sees of a run is the run of
  that owner's own moves, in which the rows of the others are gaps of the sequence.
* `uniform_exec` is the invariant rule for all rows.
* `store_exec_of_fresh`: if every request that writes finds the row as it has read it, the rows are
  those of the requests carried out one at a time, in the order of their commits.
* `kept_of_settled`: let requests refuse to change what is frozen in a final row.  If no request under
  way has read an older version, it does not change in any interleaving that follows. -/

namespace ScopedRows

open Rows Runs

/-- What a request makes of its copy of a row. -/
inductive Outcome (ρ : Type*) where
  | refused
  | updated (row : ρ)
  | deleted
deriving DecidableEq, Repr

/-- The requests `κ` on rows `ρ`, which are created from data `γ`.  A unique column keeps a new row out
if its data `clashes` with a stored row.  `merge old new row` is the stored row after the commit of a
request that has read `old` and left `new`. -/
structure Service (ρ γ κ : Type*) where
  id : ρ → ℕ
  owner : ρ → ℕ
  create : γ → ℕ → ℕ → ρ
  clashes : γ → ρ → Bool
  handle : κ → ρ → Outcome ρ
  merge : ρ → ρ → ρ → ρ
  id_create : ∀ data owner id', id (create data owner id') = id'
  owner_create : ∀ data owner' id, owner (create data owner' id) = owner'
  id_merge : ∀ old new row, id (merge old new row) = id row
  owner_merge : ∀ old new row, owner (merge old new row) = owner row

/-- A request that has read its row. -/
structure Pending (ρ κ : Type*) where
  request : κ
  copy : ρ
deriving DecidableEq, Repr

variable {ρ γ κ : Type*}

/-- What happens next. -/
inductive Move (γ κ : Type*) where
  | create (owner : ℕ) (data : γ)
  /-- The sequence gives an id to a row that is never stored. -/
  | skip
  | read (i owner id : ℕ) (request : κ)
  | commit (i : ℕ)
  /-- A request ends without a commit. -/
  | abandon (i : ℕ)
deriving DecidableEq, Repr

/-- What an owner sees of a move. -/
def Move.seen (o : ℕ) : Move γ κ → Move γ κ
  | .create owner data => if owner = o then .create owner data else .skip
  | .skip => .skip
  | .read i owner id q => if owner = o then .read i owner id q else .abandon i
  | .commit i => .commit i
  | .abandon i => .abandon i

inductive Command (γ κ : Type*) where
  | create (owner : ℕ) (data : γ)
  | skip
  | request (owner id : ℕ) (request : κ)
deriving DecidableEq, Repr

variable (S : Service ρ γ κ)

/-- A table whose ids come from a sequence. -/
structure Store where
  rows : Table S.id
  nextId : ℕ

/-- The store, and the requests under way. -/
structure Shared where
  store : Store S
  pending : ℕ → Option (Pending ρ κ)

variable {S}

namespace Store

def find (t : Store S) (owner id : ℕ) : Option ρ :=
  (t.rows.get id).filter fun r => decide (S.owner r = owner)

/-- Store a new row; one that is kept out has used up its id as well. -/
def add (t : Store S) (owner : ℕ) (data : γ) : Store S where
  rows :=
    if t.rows.rows.any (S.clashes data) = true then t.rows
    else t.rows.insert (S.create data owner t.nextId)
  nextId := t.nextId + 1

def settle (t : Store S) (p : Pending ρ κ) : Store S :=
  match S.handle p.request p.copy with
  | .refused => t
  | .updated new => { t with rows := t.rows.update (S.id p.copy) (S.merge p.copy new) (S.id_merge _ _) }
  | .deleted => { t with rows := t.rows.delete (S.id p.copy) }

def perform (t : Store S) : Command γ κ → Store S
  | .create owner data => t.add owner data
  | .skip => { t with nextId := t.nextId + 1 }
  | .request owner id q =>
      match t.find owner id with
      | some r => t.settle ⟨q, r⟩
      | none => t

/-- The rows of an owner. -/
def of (o : ℕ) (t : Store S) : Store S where
  rows := ⟨t.rows.rows.filter fun r => decide (S.owner r = o), t.rows.keyed.sublist (List.filter_sublist.map _)⟩
  nextId := t.nextId

end Store

namespace Shared

def step (s : Shared S) : Move γ κ → Shared S
  | .create owner data => { s with store := s.store.add owner data }
  | .skip => { s with store := { s.store with nextId := s.store.nextId + 1 } }
  | .read i owner id q =>
      { s with pending := Function.update s.pending i ((s.store.find owner id).map (Pending.mk q)) }
  | .commit i =>
      match s.pending i with
      | some p => ⟨s.store.settle p, Function.update s.pending i none⟩
      | none => s
  | .abandon i => { s with pending := Function.update s.pending i none }

variable (S) in
def empty : Shared S := ⟨⟨⟨[], List.nodup_nil⟩, 0⟩, fun _ => none⟩

/-- What an owner sees. -/
def of (o : ℕ) (s : Shared S) : Shared S where
  store := s.store.of o
  pending := fun i => (s.pending i).filter fun p => decide (S.owner p.copy = o)

/-- The commands that a move commits. -/
def committed (s : Shared S) : Move γ κ → List (Command γ κ)
  | .create owner data => [.create owner data]
  | .skip => [.skip]
  | .commit i =>
      match s.pending i with
      | some p =>
          match S.handle p.request p.copy with
          | .refused => []
          | _ => [.request (S.owner p.copy) (S.id p.copy) p.request]
      | none => []
  | .read .. | .abandon _ => []

end Shared

/-! ### Ids and owners -/

theorem Store.mem_add {t : Store S} {owner : ℕ} {data : γ} {r : ρ}
    (h : r ∈ (t.add owner data).rows.rows) :
    r ∈ t.rows.rows ∨ r = S.create data owner t.nextId := by
  simp only [add] at h
  split at h
  · exact .inl h
  · exact Table.mem_insert h

theorem Store.mem_add_of_mem {t : Store S} {r : ρ} (h : r ∈ t.rows.rows) (owner : ℕ) (data : γ) :
    r ∈ (t.add owner data).rows.rows := by
  simp only [add]
  split
  · exact h
  · exact Table.mem_insert_of_mem h

theorem Store.ext {t t' : Store S} (hrows : t.rows.rows = t'.rows.rows) (hnext : t.nextId = t'.nextId) :
    t = t' := by
  obtain ⟨⟨rows, _⟩, nextId⟩ := t
  obtain ⟨⟨rows', _⟩, nextId'⟩ := t'
  cases hrows
  cases hnext
  rfl

theorem Store.mem_settle {t : Store S} {p : Pending ρ κ} {r : ρ} (h : r ∈ (t.settle p).rows.rows) :
    ∃ r₀ ∈ t.rows.rows, S.id r₀ = S.id r ∧ S.owner r₀ = S.owner r := by
  unfold settle at h
  split at h
  · exact ⟨r, h, rfl, rfl⟩
  · obtain ⟨r₀, hr₀, rfl⟩ := mem_updateWhere.mp h
    refine ⟨r₀, hr₀, ?_⟩
    split
    · exact ⟨(S.id_merge _ _ _).symm, (S.owner_merge _ _ _).symm⟩
    · exact ⟨rfl, rfl⟩
  · exact ⟨r, (List.mem_filter.mp h).1, rfl, rfl⟩

@[simp] theorem Store.nextId_settle (t : Store S) (p : Pending ρ κ) : (t.settle p).nextId = t.nextId := by
  unfold settle
  split <;> rfl

theorem Store.find_eq_some {t : Store S} {owner id : ℕ} {r : ρ} :
    t.find owner id = some r ↔ r ∈ t.rows.rows ∧ S.id r = id ∧ S.owner r = owner := by
  unfold find
  rw [Option.filter_eq_some_iff, Table.get_eq_some, decide_eq_true_eq, and_assoc]

/-- The sequence is ahead of all ids, and a copy has the owner of its row. -/
structure Shared.WellFormed (s : Shared S) : Prop where
  rows : ∀ r ∈ s.store.rows.rows, S.id r < s.store.nextId
  pending : ∀ i p, s.pending i = some p → S.id p.copy < s.store.nextId
  owner : ∀ i p, s.pending i = some p → ∀ r ∈ s.store.rows.rows, S.id r = S.id p.copy →
    S.owner r = S.owner p.copy

namespace Shared

variable {s : Shared S}

variable (S) in
theorem wellFormed_empty : (empty S).WellFormed :=
  ⟨fun _ h => absurd h List.not_mem_nil, fun _ _ h => absurd h (by simp [empty]),
    fun _ _ h => absurd h (by simp [empty])⟩

theorem step_commit {i : ℕ} {p : Pending ρ κ} (h : s.pending i = some p) :
    s.step (.commit i) = ⟨s.store.settle p, Function.update s.pending i none⟩ := by
  simp only [step, h]

theorem step_commit_of_none {i : ℕ} (h : s.pending i = none) : s.step (.commit i) = s := by
  simp only [step, h]

theorem pending_of_update_none {i j : ℕ} {p : Pending ρ κ}
    (h : Function.update s.pending i none j = some p) : s.pending j = some p := by
  by_cases hj : j = i
  · simp [hj] at h
  · rwa [Function.update_of_ne hj] at h

theorem pending_of_read {i j owner id : ℕ} {q : κ} {p : Pending ρ κ}
    (h : (s.step (.read i owner id q)).pending j = some p) :
    s.pending j = some p ∨ p.request = q ∧ s.store.find owner id = some p.copy := by
  by_cases hj : j = i
  · subst hj
    simp only [step, Function.update_self] at h
    obtain ⟨r, hr, rfl⟩ := Option.map_eq_some_iff.mp h
    exact .inr ⟨rfl, hr⟩
  · simp only [step, Function.update_of_ne hj] at h
    exact .inl h

theorem WellFormed.settle (h : s.WellFormed) (i : ℕ) (p : Pending ρ κ) :
    WellFormed ⟨s.store.settle p, Function.update s.pending i none⟩ := by
  refine ⟨fun r hr => ?_, fun j q hq => ?_, fun j q hq r hr hid => ?_⟩
  · obtain ⟨r₀, hr₀, hid, -⟩ := Store.mem_settle hr
    rw [← hid, Store.nextId_settle]
    exact h.rows r₀ hr₀
  · rw [Store.nextId_settle]
    exact h.pending j q (pending_of_update_none hq)
  · obtain ⟨r₀, hr₀, hid₀, howner⟩ := Store.mem_settle hr
    rw [← howner]
    exact h.owner j q (pending_of_update_none hq) r₀ hr₀ (hid₀.trans hid)

theorem WellFormed.step (h : s.WellFormed) (m : Move γ κ) : (s.step m).WellFormed := by
  cases m with
  | create owner data =>
      have hmem : ∀ r ∈ (s.step (.create owner data)).store.rows.rows,
          r ∈ s.store.rows.rows ∨ S.id r = s.store.nextId := by
        intro r hr
        refine (Store.mem_add hr).imp_right fun heq => ?_
        rw [heq, S.id_create]
      refine ⟨fun r hr => ?_, fun i p hp => Nat.lt_succ_of_lt (h.pending i p hp), ?_⟩
      · rcases hmem r hr with hr | hr
        · exact Nat.lt_succ_of_lt (h.rows r hr)
        · exact hr ▸ Nat.lt_succ_self _
      · intro i p hp r hr hid
        rcases hmem r hr with hr | hr
        · exact h.owner i p hp r hr hid
        · have hlt := h.pending i p hp
          omega
  | skip =>
      exact ⟨fun r hr => Nat.lt_succ_of_lt (h.rows r hr),
        fun i p hp => Nat.lt_succ_of_lt (h.pending i p hp), h.owner⟩
  | read i owner id q =>
      refine ⟨h.rows, fun j p hp => ?_, fun j p hp r hr hid => ?_⟩
      · rcases pending_of_read hp with hp | ⟨-, hp⟩
        · exact h.pending j p hp
        · exact h.rows _ (Store.find_eq_some.mp hp).1
      · rcases pending_of_read hp with hp | ⟨-, hp⟩
        · exact h.owner j p hp r hr hid
        · rw [s.store.rows.keyed.eq_of_key hr (Store.find_eq_some.mp hp).1 hid]
  | commit i =>
      cases hi : s.pending i with
      | none =>
          rw [step_commit_of_none hi]
          exact h
      | some p =>
          rw [step_commit hi]
          exact h.settle i p
  | abandon i =>
      exact ⟨h.rows, fun j q hq => h.pending j q (pending_of_update_none hq),
        fun j q hq => h.owner j q (pending_of_update_none hq)⟩

end Shared

/-! ### What an owner sees -/

namespace Store

variable {t : Store S} {o : ℕ}

theorem find_of (t : Store S) (o id : ℕ) : (t.of o).find o id = t.find o id := by
  apply Option.ext
  intro r
  rw [find_eq_some, find_eq_some]
  simp only [of, List.mem_filter, decide_eq_true_eq]
  tauto

theorem of_add (hfresh : ∀ r ∈ t.rows.rows, S.id r < t.nextId) {owner : ℕ} {data : γ}
    (hapart : ∀ r ∈ t.rows.rows, S.owner r ≠ owner → S.clashes data r = false) :
    (t.add owner data).of o =
      if owner = o then (t.of o).add owner data else { t.of o with nextId := t.nextId + 1 } := by
  have hnew : ∀ rows : List ρ, (∀ r ∈ rows, S.id r < t.nextId) →
      S.id (S.create data owner t.nextId) ∉ rows.map S.id := by
    intro rows hrows hmem
    obtain ⟨r, hr, hid⟩ := List.mem_map.mp hmem
    rw [S.id_create] at hid
    exact absurd (hrows r hr) (by omega)
  have hall : (t.add owner data).rows.rows = t.rows.rows ++
      (if t.rows.rows.any (S.clashes data) = true then [] else [S.create data owner t.nextId]) := by
    simp only [add]
    split
    · rw [List.append_nil]
    · exact Table.rows_insert (hnew _ hfresh)
  by_cases ho : owner = o
  · subst ho
    rw [if_pos rfl]
    refine Store.ext ?_ rfl
    -- only the owner's rows can keep the new one out
    have hclash : (t.of owner).rows.rows.any (S.clashes data) = t.rows.rows.any (S.clashes data) := by
      rw [Bool.eq_iff_iff, List.any_eq_true, List.any_eq_true]
      constructor
      · rintro ⟨r, hr, hclash⟩
        exact ⟨r, (List.mem_filter.mp hr).1, hclash⟩
      · rintro ⟨r, hr, hclash⟩
        refine ⟨r, List.mem_filter.mpr ⟨hr, decide_eq_true ?_⟩, hclash⟩
        by_contra howner
        rw [hapart r hr howner] at hclash
        cases hclash
    have hown : ((t.of owner).add owner data).rows.rows = (t.of owner).rows.rows ++
        (if t.rows.rows.any (S.clashes data) = true then [] else [S.create data owner t.nextId]) := by
      simp only [add, hclash]
      split
      · rw [List.append_nil]
      · exact Table.rows_insert (hnew _ fun r hr => hfresh r (List.mem_filter.mp hr).1)
    rw [hown]
    simp only [of, hall, List.filter_append]
    split <;> simp [S.owner_create]
  · rw [if_neg ho]
    refine Store.ext ?_ rfl
    simp only [of, hall, List.filter_append]
    split <;> simp [S.owner_create, ho]

theorem of_settle {p : Pending ρ κ}
    (howner : ∀ r ∈ t.rows.rows, S.id r = S.id p.copy → S.owner r = S.owner p.copy) :
    (t.settle p).of o = if S.owner p.copy = o then (t.of o).settle p else t.of o := by
  have hfilter : ∀ f : ρ → ρ, (∀ r, S.owner (f r) = S.owner r) →
      (updateWhere (fun r => decide (S.id r = S.id p.copy)) f t.rows.rows).filter
          (fun r => decide (S.owner r = o)) =
        updateWhere (fun r => decide (S.id r = S.id p.copy)) f (t.of o).rows.rows := by
    intro f hf
    exact filter_updateWhere (fun r => by rw [hf]) _
  have hother : S.owner p.copy ≠ o → ∀ r ∈ (t.of o).rows.rows, S.id r ≠ S.id p.copy := by
    intro hne r hr hid
    simp only [of, List.mem_filter, decide_eq_true_eq] at hr
    exact hne (by rw [← howner r hr.1 hid, hr.2])
  cases hhandle : S.handle p.request p.copy with
  | refused => simp [settle, hhandle]
  | updated new =>
      have hrows := hfilter (S.merge p.copy new) (S.owner_merge _ _)
      split
      · refine Store.ext ?_ ?_
        · simpa [settle, hhandle, of, Table.update] using hrows
        · simp [settle, hhandle, of]
      · next hne =>
          refine Store.ext ?_ ?_
          · have hself := updateWhere_eq_self (f := S.merge p.copy new)
              fun r hr => decide_eq_false (hother hne r hr)
            rw [hself] at hrows
            simpa [settle, hhandle, of, Table.update] using hrows
          · simp [settle, hhandle, of]
  | deleted =>
      split
      · refine Store.ext ?_ ?_
        · simp [settle, hhandle, of, Table.delete, List.filter_filter, Bool.and_comm]
        · simp [settle, hhandle, of]
      · next hne =>
          refine Store.ext ?_ ?_
          · simp only [settle, hhandle, of, Table.delete]
            rw [List.filter_comm, List.filter_eq_self]
            intro r hr
            simpa using hother hne r hr
          · simp [settle, hhandle, of]

end Store

namespace Shared

variable {s : Shared S} {o : ℕ}

theorem ext {s' : Shared S} (hstore : s.store = s'.store) (hpending : s.pending = s'.pending) :
    s = s' := by
  cases s
  cases s'
  cases hstore
  cases hpending
  rfl

theorem of_update_none (i : ℕ) :
    (fun j => (Function.update s.pending i none j).filter fun p => decide (S.owner p.copy = o)) =
      Function.update (s.of o).pending i none := by
  funext j
  by_cases hj : j = i
  · simp [hj]
  · simp [Function.update_of_ne hj, of]

/-- A new row does not clash with those of other owners. -/
def Apart (s : Shared S) : Move γ κ → Prop
  | .create owner data => ∀ r ∈ s.store.rows.rows, S.owner r ≠ owner → S.clashes data r = false
  | _ => True

instance (s : Shared S) (m : Move γ κ) : Decidable (s.Apart m) :=
  match m with
  | .create owner data => inferInstanceAs (Decidable (∀ r ∈ s.store.rows.rows,
      S.owner r ≠ owner → S.clashes data r = false))
  | .skip | .read _ _ _ _ | .commit _ | .abandon _ => isTrue trivial

theorem along_apart (hunique : ∀ data r, S.clashes data r = false) (s : Shared S)
    (ms : List (Move γ κ)) : Along step Apart s ms := by
  refine along_of_invariant (I := fun _ => True) (fun _ _ h => h) (fun s m _ => ?_) trivial
  cases m with
  | create owner data => exact fun r _ _ => hunique data r
  | _ => trivial

theorem of_read (i owner id : ℕ) (q : κ) :
    (s.step (.read i owner id q)).of o = (s.of o).step (Move.seen o (.read i owner id q)) := by
  have hread : ∀ r, s.store.find owner id = some r → S.owner r = owner :=
    fun r hr => (Store.find_eq_some.mp hr).2.2
  by_cases ho : owner = o
  · subst ho
    rw [Move.seen, if_pos rfl]
    refine ext rfl ?_
    funext j
    by_cases hj : j = i
    · subst hj
      cases hfind : s.store.find owner id with
      | none => simp [step, of, hfind, Store.find_of]
      | some r => simp [step, of, hfind, Store.find_of, hread r hfind]
    · simp [step, of, Function.update_of_ne hj]
  · rw [Move.seen, if_neg ho]
    refine ext rfl ?_
    funext j
    by_cases hj : j = i
    · subst hj
      cases hfind : s.store.find owner id with
      | none => simp [step, of, hfind]
      | some r => simp [step, of, hfind, hread r hfind, ho]
    · simp [step, of, Function.update_of_ne hj]

theorem of_step (h : s.WellFormed) {m : Move γ κ} (hm : s.Apart m) :
    (s.step m).of o = (s.of o).step (m.seen o) := by
  cases m with
  | create owner data =>
      have hadd := Store.of_add (o := o) h.rows hm
      by_cases ho : owner = o
      · rw [Move.seen, if_pos ho]
        exact ext (hadd.trans (if_pos ho)) rfl
      · rw [Move.seen, if_neg ho]
        exact ext (hadd.trans (if_neg ho)) rfl
  | skip => rfl
  | read i owner id q => exact of_read i owner id q
  | commit i =>
      cases hi : s.pending i with
      | none =>
          have hnone : (s.of o).pending i = none := by simp [of, hi]
          rw [step_commit_of_none hi, Move.seen, step_commit_of_none hnone]
      | some p =>
          rw [step_commit hi, Move.seen]
          by_cases ho : S.owner p.copy = o
          · have hsome : (s.of o).pending i = some p := by simp [of, hi, ho]
            rw [step_commit hsome]
            exact ext ((Store.of_settle (h.owner i p hi)).trans (if_pos ho)) (of_update_none i)
          · have hnone : (s.of o).pending i = none := by simp [of, hi, ho]
            rw [step_commit_of_none hnone]
            refine ext ((Store.of_settle (h.owner i p hi)).trans (if_neg ho)) ?_
            refine (of_update_none i).trans ?_
            rw [Function.update_eq_self_iff]
            exact hnone.symm
  | abandon i => exact ext rfl (of_update_none i)

/-- **Isolation**: what an owner sees of a run is the run of that owner's own moves. -/
theorem exec_of (h : s.WellFormed) (o : ℕ) {ms : List (Move γ κ)} (hms : Along step Apart s ms) :
    (exec step s ms).of o = exec step (s.of o) (ms.map (Move.seen o)) := by
  induction ms generalizing s with
  | nil => rfl
  | cons m ms ih =>
      rw [exec_cons, List.map_cons, exec_cons, ih (h.step m) hms.2, of_step h hms.1]

end Shared

/-! ### What all rows have in common -/

namespace Shared

variable {s : Shared S} {Q : ρ → Prop} {A : ℕ → κ → Prop}

/-- The rows and the copies have `Q`, and every request under way is allowed to the owner of its row. -/
structure Uniform (Q : ρ → Prop) (A : ℕ → κ → Prop) (s : Shared S) : Prop where
  rows : ∀ r ∈ s.store.rows.rows, Q r
  pending : ∀ i p, s.pending i = some p → Q p.copy ∧ A (S.owner p.copy) p.request

variable (S Q A) in
theorem uniform_empty : (empty S).Uniform Q A :=
  ⟨fun _ h => absurd h List.not_mem_nil, fun _ _ h => absurd h (by simp [empty])⟩

/-- The request of a move is allowed to the owner that it is for. -/
def Allowed (A : ℕ → κ → Prop) : Move γ κ → Prop
  | .read _ owner _ q => A owner q
  | _ => True

theorem Uniform.step (hcreate : ∀ data owner id, Q (S.create data owner id))
    (hupdate : ∀ q old new row, A (S.owner old) q → S.owner row = S.owner old → Q old → Q row →
      S.handle q old = .updated new → Q (S.merge old new row))
    (hs : s.WellFormed) (h : s.Uniform Q A) {m : Move γ κ} (hm : Allowed A m) : (s.step m).Uniform Q A := by
  cases m with
  | create owner data =>
      refine ⟨fun r hr => ?_, h.pending⟩
      rcases Store.mem_add hr with hr | rfl
      · exact h.rows r hr
      · exact hcreate _ _ _
  | skip => exact ⟨h.rows, h.pending⟩
  | read i owner id q =>
      refine ⟨h.rows, fun j p hp => ?_⟩
      rcases pending_of_read hp with hp | ⟨rfl, hfind⟩
      · exact h.pending j p hp
      · obtain ⟨hmem, -, rfl⟩ := Store.find_eq_some.mp hfind
        exact ⟨h.rows _ hmem, hm⟩
  | commit i =>
      cases hi : s.pending i with
      | none =>
          rw [step_commit_of_none hi]
          exact h
      | some p =>
          rw [step_commit hi]
          refine ⟨fun r hr => ?_, fun j q hq => h.pending j q (pending_of_update_none hq)⟩
          obtain ⟨hcopy, hallowed⟩ := h.pending i p hi
          cases hhandle : S.handle p.request p.copy with
          | refused =>
              simp only [Store.settle, hhandle] at hr
              exact h.rows r hr
          | updated new =>
              simp only [Store.settle, hhandle] at hr
              obtain ⟨r₀, hr₀, rfl⟩ := mem_updateWhere.mp hr
              split
              · next hid =>
                  have howner := hs.owner i p hi r₀ hr₀ (of_decide_eq_true hid)
                  exact hupdate _ _ _ _ hallowed howner hcopy (h.rows r₀ hr₀) hhandle
              · exact h.rows r₀ hr₀
          | deleted =>
              simp only [Store.settle, hhandle] at hr
              exact h.rows r (List.mem_filter.mp hr).1
  | abandon i => exact ⟨h.rows, fun j q hq => h.pending j q (pending_of_update_none hq)⟩

/-- **Invariant rule**: what new rows have, and what the allowed requests keep, all rows have in every
interleaving of allowed requests. -/
theorem uniform_exec (hcreate : ∀ data owner id, Q (S.create data owner id))
    (hupdate : ∀ q old new row, A (S.owner old) q → S.owner row = S.owner old → Q old → Q row →
      S.handle q old = .updated new → Q (S.merge old new row))
    (hs : s.WellFormed) (h : s.Uniform Q A) {ms : List (Move γ κ)} (hms : ∀ m ∈ ms, Allowed A m) :
    (exec step s ms).Uniform Q A := by
  induction ms generalizing s with
  | nil => exact h
  | cons m ms ih =>
      obtain ⟨hm, hms⟩ := List.forall_mem_cons.mp hms
      exact ih (hs.step m) (h.step hcreate hupdate hs hm) hms

end Shared

/-! ### One request at a time -/

/-- A request that does not refuse its copy. -/
def Pending.Writes (S : Service ρ γ κ) (p : Pending ρ κ) : Prop := S.handle p.request p.copy ≠ .refused

theorem Store.settle_of_not_writes {t : Store S} {p : Pending ρ κ} (h : ¬ p.Writes S) :
    t.settle p = t := by
  have hrefused : S.handle p.request p.copy = .refused := not_not.mp h
  simp only [settle, hrefused]

theorem Store.find_of_mem {t : Store S} {r : ρ} (h : r ∈ t.rows.rows) :
    t.find (S.owner r) (S.id r) = some r :=
  Store.find_eq_some.mpr ⟨h, rfl, rfl⟩

theorem Store.exists_perform {P : ρ → Prop}
    (hupdated : ∀ q r new, P r → S.handle q r = .updated new → P (S.merge r new r))
    (hkept : ∀ q r, P r → S.handle q r ≠ .deleted) {t : Store S} {id : ℕ} (c : Command γ κ)
    (h : ∃ r ∈ t.rows.rows, S.id r = id ∧ P r) :
    ∃ r ∈ (t.perform c).rows.rows, S.id r = id ∧ P r := by
  obtain ⟨r, hr, hid, hP⟩ := h
  cases c with
  | create owner data => exact ⟨r, mem_add_of_mem hr _ _, hid, hP⟩
  | skip => exact ⟨r, hr, hid, hP⟩
  | request owner id' q =>
      cases hfind : t.find owner id' with
      | none =>
          simp only [perform, hfind]
          exact ⟨r, hr, hid, hP⟩
      | some r₀ =>
          obtain ⟨hr₀, -, -⟩ := find_eq_some.mp hfind
          cases hhandle : S.handle q r₀ with
          | refused =>
              simp only [perform, hfind, settle, hhandle]
              exact ⟨r, hr, hid, hP⟩
          | updated new =>
              simp only [perform, hfind, settle, hhandle]
              by_cases hsame : S.id r = S.id r₀
              · have heq := t.rows.keyed.eq_of_key hr hr₀ hsame
                subst heq
                exact ⟨S.merge r new r, mem_updateWhere.mpr ⟨r, hr, by simp⟩,
                  (S.id_merge _ _ _).trans hid, hupdated q r new hP hhandle⟩
              · exact ⟨r, mem_updateWhere.mpr ⟨r, hr, by simp [hsame]⟩, hid, hP⟩
          | deleted =>
              simp only [perform, hfind, settle, hhandle]
              refine ⟨r, List.mem_filter.mpr ⟨hr, decide_eq_true fun hsame => ?_⟩, hid, hP⟩
              rw [t.rows.keyed.eq_of_key hr hr₀ hsame] at hP
              exact hkept q r₀ hP hhandle

namespace Shared

variable {s : Shared S}

/-- A request that writes finds its row as it has read it. -/
def Fresh (s : Shared S) : Move γ κ → Prop
  | .commit i => ∀ p ∈ s.pending i, p.Writes S → p.copy ∈ s.store.rows.rows
  | _ => True

instance [DecidableEq ρ] (s : Shared S) (m : Move γ κ) : Decidable (s.Fresh m) :=
  match m with
  | .commit i => inferInstanceAs (Decidable (∀ p ∈ s.pending i,
      S.handle p.request p.copy ≠ .refused → p.copy ∈ s.store.rows.rows))
  | .create _ _ | .skip | .read _ _ _ _ | .abandon _ => isTrue trivial

theorem committed_commit {i : ℕ} {p : Pending ρ κ} (h : s.pending i = some p) (hw : p.Writes S) :
    s.committed (.commit i) = [.request (S.owner p.copy) (S.id p.copy) p.request] := by
  simp only [committed, h]
  split
  · exact absurd ‹_› hw
  · rfl

theorem store_step_of_fresh (s : Shared S) (m : Move γ κ) (h : s.Fresh m) :
    (s.step m).store = exec Store.perform s.store (s.committed m) := by
  cases m with
  | create owner data => rfl
  | skip => rfl
  | read i owner id q => rfl
  | abandon i => rfl
  | commit i =>
      cases hi : s.pending i with
      | none => simp [step, committed, hi]
      | some p =>
          rw [step_commit hi]
          by_cases hw : p.Writes S
          · have hfind := Store.find_of_mem (h p hi hw)
            simp only [committed_commit hi hw, exec_cons, exec_nil, Store.perform, hfind]
          · have hrefused : S.handle p.request p.copy = .refused := not_not.mp hw
            simp only [committed, hi, hrefused, exec_nil]
            exact Store.settle_of_not_writes hw

/-- **Serial runs**: if no request that writes is overtaken, the table is that of the requests carried
out one at a time, in the order of their commits. -/
theorem store_exec_of_fresh {ms : List (Move γ κ)} (h : Along step Fresh s ms) :
    (exec step s ms).store = exec Store.perform s.store (outputs step committed s ms) :=
  exec_refines store_step_of_fresh h

/-- A property that no request takes from a row that it has read is not lost as long as no request is
overtaken. -/
theorem exists_of_fresh {P : ρ → Prop}
    (hupdated : ∀ q r new, P r → S.handle q r = .updated new → P (S.merge r new r))
    (hkept : ∀ q r, P r → S.handle q r ≠ .deleted) {ms : List (Move γ κ)} (h : Along step Fresh s ms)
    {r : ρ} (hr : r ∈ s.store.rows.rows) (hP : P r) :
    ∃ r' ∈ (exec step s ms).store.rows.rows, S.id r' = S.id r ∧ P r' := by
  rw [store_exec_of_fresh h]
  exact exec_of_invariant (I := fun t : Store S => ∃ r' ∈ t.rows.rows, S.id r' = S.id r ∧ P r')
    (fun _ c ht => Store.exists_perform hupdated hkept c ht) ⟨r, hr, rfl, hP⟩ _

end Shared

/-! ### Overtaken requests -/

theorem Store.mem_settle_updated {t : Store S} {p : Pending ρ κ} {r new : ρ} (hr : r ∈ t.rows.rows)
    (hid : S.id r = S.id p.copy) (hp : S.handle p.request p.copy = .updated new) :
    S.merge p.copy new r ∈ (t.settle p).rows.rows := by
  simp only [settle, hp]
  exact mem_updateWhere.mpr ⟨r, hr, by simp [hid]⟩

namespace Shared

/-- A request that is overtaken by another one for its row commits over it what it has made of the row
before. -/
theorem overtaken {s : Shared S} {r new new' : ρ} {q q' : κ} {i j : ℕ} (hij : i ≠ j)
    (hr : r ∈ s.store.rows.rows) (hq : S.handle q r = .updated new)
    (hq' : S.handle q' r = .updated new') :
    S.merge r new' r ∈ (exec step s [.read i (S.owner r) (S.id r) q,
      .read j (S.owner r) (S.id r) q', .commit j]).store.rows.rows ∧
    S.merge r new (S.merge r new' r) ∈ (exec step s [.read i (S.owner r) (S.id r) q,
      .read j (S.owner r) (S.id r) q', .commit j, .commit i]).store.rows.rows := by
  have hfind := Store.find_of_mem hr
  have hread (q : κ) (i : ℕ) (s : Shared S) (hs : s.store.find (S.owner r) (S.id r) = some r) :
      s.step (.read i (S.owner r) (S.id r) q) =
        { s with pending := Function.update s.pending i (some ⟨q, r⟩) } := by
    simp [step, hs]
  simp only [exec_cons, exec_nil]
  rw [hread q i s hfind, hread q' j ⟨s.store, Function.update s.pending i (some ⟨q, r⟩)⟩ hfind,
    step_commit (p := ⟨q', r⟩) (by simp),
    step_commit (p := ⟨q, r⟩) (by simp [Function.update_of_ne hij])]
  have hfirst : S.merge r new' r ∈ (s.store.settle ⟨q', r⟩).rows.rows :=
    Store.mem_settle_updated hr rfl hq'
  exact ⟨hfirst, Store.mem_settle_updated hfirst (S.id_merge _ _ _) hq⟩

end Shared

/-! ### Rows that are final -/

/-- What is `frozen` in a final row is left alone by every request that has read such a row. -/
structure Settled {α : Type*} (S : Service ρ γ κ) (Final : ρ → Prop) (frozen : ρ → α) : Prop where
  updated : ∀ q old new row, Final old → Final row → frozen old = frozen row →
    S.handle q old = .updated new →
      Final (S.merge old new row) ∧ frozen (S.merge old new row) = frozen row
  kept : ∀ q old, Final old → S.handle q old ≠ .deleted

namespace Shared

variable {α : Type*} {Final : ρ → Prop} {frozen : ρ → α} {s : Shared S} {id : ℕ} {a : α}

/-- No request under way has read an older version of the row. -/
def Current (s : Shared S) (r : ρ) : Prop :=
  ∀ i p, s.pending i = some p → S.id p.copy = S.id r → p.copy = r

/-- The row is final, and so is every copy of it that is under way. -/
structure Kept (Final : ρ → Prop) (frozen : ρ → α) (id : ℕ) (a : α) (s : Shared S) : Prop where
  issued : id < s.store.nextId
  row : ∃ r ∈ s.store.rows.rows, S.id r = id ∧ Final r ∧ frozen r = a
  pending : ∀ i p, s.pending i = some p → S.id p.copy = id → Final p.copy ∧ frozen p.copy = a

theorem Kept.settle (hS : Settled S Final frozen) (h : s.Kept Final frozen id a) {i : ℕ}
    {p : Pending ρ κ} (hi : s.pending i = some p) :
    ∃ r ∈ (s.store.settle p).rows.rows, S.id r = id ∧ Final r ∧ frozen r = a := by
  obtain ⟨r, hr, hid, hfinal, hfrozen⟩ := h.row
  cases hhandle : S.handle p.request p.copy with
  | refused =>
      refine ⟨r, ?_, hid, hfinal, hfrozen⟩
      simpa [Store.settle, hhandle] using hr
  | updated new =>
      simp only [Store.settle, hhandle]
      by_cases hp : S.id p.copy = id
      · obtain ⟨hcopy, hsame⟩ := h.pending i p hi hp
        obtain ⟨hnew, hkept⟩ :=
          hS.updated p.request p.copy new r hcopy hfinal (hsame.trans hfrozen.symm) hhandle
        have hrow : (if S.id r = S.id p.copy then S.merge p.copy new r else r) =
            S.merge p.copy new r := if_pos (hid.trans hp.symm)
        refine ⟨S.merge p.copy new r, mem_updateWhere.mpr ⟨r, hr, by simpa using hrow⟩, ?_, hnew,
          hkept.trans hfrozen⟩
        rw [S.id_merge, hid]
      · have hne : S.id r ≠ S.id p.copy := fun heq => hp (heq.symm.trans hid)
        exact ⟨r, mem_updateWhere.mpr ⟨r, hr, by simp [hne]⟩, hid, hfinal, hfrozen⟩
  | deleted =>
      simp only [Store.settle, hhandle]
      have hne : S.id r ≠ S.id p.copy := by
        intro heq
        obtain ⟨hcopy, -⟩ := h.pending i p hi (heq.symm.trans hid)
        exact hS.kept p.request p.copy hcopy hhandle
      exact ⟨r, List.mem_filter.mpr ⟨hr, by simpa using hne⟩, hid, hfinal, hfrozen⟩

theorem Kept.step (hS : Settled S Final frozen) (h : s.Kept Final frozen id a) (m : Move γ κ) :
    (s.step m).Kept Final frozen id a := by
  have hrow := h.row
  cases m with
  | create owner data =>
      obtain ⟨r, hr, hrest⟩ := hrow
      exact ⟨Nat.lt_succ_of_lt h.issued, ⟨r, Store.mem_add_of_mem hr _ _, hrest⟩, h.pending⟩
  | skip => exact ⟨Nat.lt_succ_of_lt h.issued, hrow, h.pending⟩
  | read i owner id' q =>
      refine ⟨h.issued, hrow, fun j p hp hid => ?_⟩
      rcases pending_of_read hp with hp | ⟨-, hp⟩
      · exact h.pending j p hp hid
      · obtain ⟨r, hr, hrid, hfinal, hfrozen⟩ := hrow
        have hsame := s.store.rows.keyed.eq_of_key (Store.find_eq_some.mp hp).1 hr (hid.trans hrid.symm)
        rw [hsame]
        exact ⟨hfinal, hfrozen⟩
  | commit i =>
      cases hi : s.pending i with
      | none =>
          rw [step_commit_of_none hi]
          exact h
      | some p =>
          rw [step_commit hi]
          exact ⟨by simpa using h.issued, h.settle hS hi,
            fun j q hq => h.pending j q (pending_of_update_none hq)⟩
  | abandon i =>
      exact ⟨h.issued, hrow, fun j q hq => h.pending j q (pending_of_update_none hq)⟩

/-- **Final rows stay**: once a row is final and no request under way has read an older version of it,
no interleaving changes what is frozen in it. -/
theorem kept_of_settled (hS : Settled S Final frozen) (hs : s.WellFormed) {r : ρ}
    (hr : r ∈ s.store.rows.rows) (hfinal : Final r) (hcurrent : s.Current r) (ms : List (Move γ κ)) :
    ∃ r' ∈ (exec step s ms).store.rows.rows, S.id r' = S.id r ∧ Final r' ∧ frozen r' = frozen r := by
  have hstart : s.Kept Final frozen (S.id r) (frozen r) := by
    refine ⟨hs.rows r hr, ⟨r, hr, rfl, hfinal, rfl⟩, fun i p hp hid => ?_⟩
    rw [hcurrent i p hp hid]
    exact ⟨hfinal, rfl⟩
  exact (exec_of_invariant (fun s m h => h.step hS m) hstart ms).row

end Shared

end ScopedRows
