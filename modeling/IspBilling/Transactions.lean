import Mathlib.Data.List.Count
import Mathlib.Data.List.Nodup

/-! # Rows of open transactions

A table under read-committed isolation: every stored row is committed or belongs to the transaction
that has inserted it.  A transaction sees the committed rows and its own (`Visible`); `commit` and
`rollback` end it.

* `Sees tx P t`: transaction `tx` sees a row with property `P`.
* `Holds P t`: a committed row has property `P`.
* `tryInsert`: an insert against a unique index, which covers all stored rows.  It is refused by a row
  that the transaction sees, and waits for the end of the transaction that owns a row it does not.
* `Indexed key t`: the keys of all stored rows are distinct.  An insert that is neither refused nor
  waits meets no conflicting row at all, so this is an invariant of every table with the index.
* `length_rowsWhere`: a property that holds, and that at most one stored row has, is that of
  exactly one committed row. -/

namespace Transactions

variable {α κ : Type*}

/-- A row, with the open transaction that has inserted it. -/
structure Stored (α : Type*) where
  row : α
  owner : Option ℕ
deriving DecidableEq, Repr

/-- Whether a transaction sees a row. -/
def Stored.Visible (tx : ℕ) (x : Stored α) : Prop := x.owner = none ∨ x.owner = some tx

instance (tx : ℕ) (x : Stored α) : Decidable (x.Visible tx) :=
  inferInstanceAs (Decidable (x.owner = none ∨ x.owner = some tx))

def find (tx : ℕ) (p : α → Bool) (t : List (Stored α)) : Option α :=
  (t.find? (fun x => decide (x.Visible tx) && p x.row)).map Stored.row

def add (tx : ℕ) (r : α) (t : List (Stored α)) : List (Stored α) := t ++ [⟨r, some tx⟩]

def commit (tx : ℕ) (t : List (Stored α)) : List (Stored α) :=
  t.map (fun x => if x.owner = some tx then ⟨x.row, none⟩ else x)

def rollback (tx : ℕ) (t : List (Stored α)) : List (Stored α) :=
  t.filter (fun x => decide (x.owner ≠ some tx))

def rewrite (p : α → Bool) (f : α → α) (t : List (Stored α)) : List (Stored α) :=
  t.map (fun x => if p x.row then ⟨f x.row, x.owner⟩ else x)

def Sees (tx : ℕ) (P : α → Prop) (t : List (Stored α)) : Prop := ∃ x ∈ t, x.Visible tx ∧ P x.row

def Holds (P : α → Prop) (t : List (Stored α)) : Prop := ∃ x ∈ t, x.owner = none ∧ P x.row

/-- What the other transactions see with a property, and what holds, is still there. -/
def Keeps (tx : ℕ) (P : α → Prop) (t t' : List (Stored α)) : Prop :=
  (∀ tx', tx' ≠ tx → Sees tx' P t → Sees tx' P t') ∧ (Holds P t → Holds P t')

/-- The keys of the stored rows are distinct. -/
def Indexed (key : α → κ) (t : List (Stored α)) : Prop := (t.map (fun x => key x.row)).Nodup

instance [DecidableEq κ] (key : α → κ) (t : List (Stored α)) : Decidable (Indexed key t) :=
  inferInstanceAs (Decidable (t.map (fun x => key x.row)).Nodup)

def AtMostOne (P : α → Prop) [DecidablePred P] (t : List (Stored α)) : Prop :=
  t.countP (fun x => decide (P x.row)) ≤ 1

def rowsWhere (P : α → Prop) [DecidablePred P] (t : List (Stored α)) : List α :=
  (t.filter (fun x => decide (x.owner = none ∧ P x.row))).map Stored.row

inductive Outcome where
  | inserted | waits | refused
deriving DecidableEq, Repr

/-- An insert that conflicts with the rows of a unique index. -/
def tryInsert (tx : ℕ) (conflicts : α → Bool) (t : List (Stored α)) : Outcome :=
  if ∃ x ∈ t, x.Visible tx ∧ conflicts x.row = true then .refused
  else if ∃ x ∈ t, conflicts x.row = true then .waits
  else .inserted

variable {tx tx' : ℕ} {P : α → Prop} {key : α → κ} {t : List (Stored α)} {r : α}

/-! ### Inserts -/

theorem not_conflicts_of_inserted {conflicts : α → Bool}
    (h : tryInsert tx conflicts t = .inserted) {x : Stored α} (hx : x ∈ t) :
    conflicts x.row = false := by
  unfold tryInsert at h
  split at h
  · cases h
  · split at h
    · cases h
    · next hnone =>
        by_contra hne
        exact hnone ⟨x, hx, by simpa using hne⟩

theorem find_eq_some {p : α → Bool} (h : find tx p t = some r) : Sees tx (fun x => x = r ∧ p x) t := by
  obtain ⟨x, hx, rfl⟩ := Option.map_eq_some_iff.mp h
  have hp := List.find?_some hx
  rw [Bool.and_eq_true, decide_eq_true_eq] at hp
  exact ⟨x, List.mem_of_find?_eq_some hx, hp.1, rfl, hp.2⟩

theorem find_eq_none {p : α → Bool} (h : find tx p t = none) {x : Stored α} (hx : x ∈ t)
    (hv : x.Visible tx) : p x.row = false := by
  have hnot := List.find?_eq_none.mp (Option.map_eq_none_iff.mp h) x hx
  simpa [hv] using hnot

/-! ### What is seen, and what holds -/

theorem Sees.mono {Q : α → Prop} (h : Sees tx P t) (hPQ : ∀ r, P r → Q r) : Sees tx Q t := by
  obtain ⟨x, hx, hv, hp⟩ := h
  exact ⟨x, hx, hv, hPQ _ hp⟩

theorem Holds.sees (h : Holds P t) (tx : ℕ) : Sees tx P t := by
  obtain ⟨x, hx, ho, hp⟩ := h
  exact ⟨x, hx, Or.inl ho, hp⟩

theorem sees_add (hp : P r) : Sees tx P (add tx r t) :=
  ⟨⟨r, some tx⟩, List.mem_append_right _ (List.mem_singleton_self _), Or.inr rfl, hp⟩

theorem Sees.holds_commit (h : Sees tx P t) : Holds P (commit tx t) := by
  obtain ⟨x, hx, hv, hp⟩ := h
  refine ⟨_, List.mem_map_of_mem hx, ?_⟩
  split
  · exact ⟨rfl, hp⟩
  · next hne => exact ⟨hv.resolve_right hne, hp⟩

/-! ### What the others see -/

theorem Keeps.refl (tx : ℕ) (P : α → Prop) (t : List (Stored α)) : Keeps tx P t t :=
  ⟨fun _ _ h => h, fun h => h⟩

theorem Keeps.trans {t' t'' : List (Stored α)} (h : Keeps tx P t t') (h' : Keeps tx P t' t'') :
    Keeps tx P t t'' :=
  ⟨fun tx' hne hs => h'.1 tx' hne (h.1 tx' hne hs), fun hs => h'.2 (h.2 hs)⟩

theorem keeps_add (tx : ℕ) (P : α → Prop) (r : α) (t : List (Stored α)) :
    Keeps tx P t (add tx r t) := by
  constructor
  · rintro tx' - ⟨x, hx, hv, hp⟩
    exact ⟨x, List.mem_append_left _ hx, hv, hp⟩
  · rintro ⟨x, hx, ho, hp⟩
    exact ⟨x, List.mem_append_left _ hx, ho, hp⟩

theorem keeps_commit (tx : ℕ) (P : α → Prop) (t : List (Stored α)) : Keeps tx P t (commit tx t) := by
  constructor
  · rintro tx' - ⟨x, hx, hv, hp⟩
    refine ⟨_, List.mem_map_of_mem hx, ?_⟩
    split
    · exact ⟨Or.inl rfl, hp⟩
    · exact ⟨hv, hp⟩
  · intro h
    exact (h.sees tx).holds_commit

theorem keeps_rewrite (tx : ℕ) (p : α → Bool) {f : α → α} (hf : ∀ r, P r → P (f r))
    (t : List (Stored α)) : Keeps tx P t (rewrite p f t) := by
  constructor
  · rintro tx' - ⟨x, hx, hv, hp⟩
    refine ⟨_, List.mem_map_of_mem hx, ?_⟩
    split
    · exact ⟨hv, hf _ hp⟩
    · exact ⟨hv, hp⟩
  · rintro ⟨x, hx, ho, hp⟩
    refine ⟨_, List.mem_map_of_mem hx, ?_⟩
    split
    · exact ⟨ho, hf _ hp⟩
    · exact ⟨ho, hp⟩

theorem keeps_rollback (tx : ℕ) (P : α → Prop) (t : List (Stored α)) :
    Keeps tx P t (rollback tx t) := by
  constructor
  · rintro tx' hne ⟨x, hx, hv, hp⟩
    refine ⟨x, List.mem_filter.mpr ⟨hx, ?_⟩, hv, hp⟩
    rcases hv with ho | ho
    · simp [ho]
    · simpa [ho] using hne
  · rintro ⟨x, hx, ho, hp⟩
    exact ⟨x, List.mem_filter.mpr ⟨hx, by simp [ho]⟩, ho, hp⟩

theorem Holds.of_rollback (h : Holds P (rollback tx t)) : Holds P t := by
  obtain ⟨x, hx, ho, hp⟩ := h
  exact ⟨x, (List.mem_filter.mp hx).1, ho, hp⟩

theorem Sees.rewrite (h : Sees tx P t) (p : α → Bool) {f : α → α} (hf : ∀ r, P r → P (f r)) :
    Sees tx P (rewrite p f t) := by
  obtain ⟨x, hx, hv, hp⟩ := h
  refine ⟨_, List.mem_map_of_mem hx, ?_⟩
  split
  · exact ⟨hv, hf _ hp⟩
  · exact ⟨hv, hp⟩

/-! ### Indices -/

theorem mem_commit_row {x : Stored α} (h : x ∈ commit tx t) : ∃ y ∈ t, y.row = x.row := by
  obtain ⟨y, hy, rfl⟩ := List.mem_map.mp h
  refine ⟨y, hy, ?_⟩
  split <;> rfl

theorem Indexed.rewrite {p : α → Bool} {f : α → α} (h : Indexed key t)
    (hf : ∀ r, key (f r) = key r) : Indexed key (rewrite p f t) := by
  unfold Indexed
  have hkeys : (Transactions.rewrite p f t).map (fun x => key x.row) =
      t.map (fun x => key x.row) := by
    simp only [Transactions.rewrite, List.map_map]
    apply List.map_congr_left
    intro x _
    simp only [Function.comp]
    split
    · exact hf x.row
    · rfl
  rw [hkeys]
  exact h

theorem Indexed.commit (h : Indexed key t) (tx : ℕ) : Indexed key (commit tx t) := by
  unfold Indexed
  have hkeys : (Transactions.commit tx t).map (fun x => key x.row) =
      t.map (fun x => key x.row) := by
    simp only [Transactions.commit, List.map_map]
    apply List.map_congr_left
    intro x _
    simp only [Function.comp]
    split <;> rfl
  rw [hkeys]
  exact h

theorem Indexed.rollback (h : Indexed key t) (tx : ℕ) : Indexed key (rollback tx t) :=
  h.sublist (List.filter_sublist.map _)

theorem Indexed.add (h : Indexed key t) (tx : ℕ) (hr : ∀ x ∈ t, key x.row ≠ key r) :
    Indexed key (add tx r t) := by
  unfold Indexed Transactions.add
  rw [List.map_append, List.nodup_append]
  refine ⟨h, List.nodup_singleton _, ?_⟩
  intro a ha b hb
  obtain ⟨x, hx, rfl⟩ := List.mem_map.mp ha
  rw [List.map_singleton, List.mem_singleton] at hb
  rw [hb]
  exact hr x hx

/-! ### At most one row, and exactly one -/

theorem AtMostOne.commit [DecidablePred P] (h : AtMostOne P t) (tx : ℕ) :
    AtMostOne P (commit tx t) := by
  unfold AtMostOne Transactions.commit
  rw [List.countP_map]
  refine Nat.le_trans (Nat.le_of_eq (List.countP_congr ?_)) h
  intro x _
  simp only [Function.comp]
  split <;> rfl

theorem AtMostOne.rollback [DecidablePred P] (h : AtMostOne P t) (tx : ℕ) :
    AtMostOne P (rollback tx t) :=
  Nat.le_trans List.filter_sublist.countP_le h

theorem AtMostOne.add [DecidablePred P] (h : AtMostOne P t) (tx : ℕ)
    (hr : P r → ∀ x ∈ t, ¬ P x.row) : AtMostOne P (add tx r t) := by
  unfold AtMostOne at h ⊢
  rw [Transactions.add, List.countP_append, List.countP_singleton]
  by_cases hp : P r
  · have hzero : t.countP (fun x => decide (P x.row)) = 0 := by
      rw [List.countP_eq_zero]
      intro x hx
      simpa using hr hp x hx
    simp [hzero, hp]
  · simpa [hp] using h

theorem Indexed.atMostOne [DecidableEq κ] [DecidablePred P] (h : Indexed key t) {k : κ}
    (hk : ∀ r, P r → key r = k) : AtMostOne P t := by
  have hcount := List.nodup_iff_count_le_one.mp h k
  rw [List.count, List.countP_map] at hcount
  refine Nat.le_trans (List.countP_mono_left ?_) hcount
  intro x _ hx
  simpa using hk _ (of_decide_eq_true hx)

/-- **Exactly one**: a property that a committed row has, and at most one stored row. -/
theorem length_rowsWhere [DecidablePred P] (h : AtMostOne P t) (hP : Holds P t) :
    (rowsWhere P t).length = 1 := by
  obtain ⟨x, hx, ho, hp⟩ := hP
  have hmem : x.row ∈ rowsWhere P t :=
    List.mem_map_of_mem (List.mem_filter.mpr ⟨hx, by simp [ho, hp]⟩)
  have hlen : (rowsWhere P t).length ≤ 1 := by
    rw [rowsWhere, List.length_map, ← List.countP_eq_length_filter]
    refine Nat.le_trans (List.countP_mono_left ?_) h
    intro y _ hy
    simpa using (of_decide_eq_true hy).2
  exact Nat.le_antisymm hlen (List.length_pos_of_mem hmem)

theorem holds_of_rowsWhere [DecidablePred P] (h : (rowsWhere P t).length = 1) : Holds P t := by
  obtain ⟨r, hr⟩ := List.length_eq_one_iff.mp h
  have hmem : r ∈ rowsWhere P t := by simp [hr]
  obtain ⟨x, hx, -⟩ := List.mem_map.mp hmem
  obtain ⟨hx, hp⟩ := List.mem_filter.mp hx
  exact ⟨x, hx, of_decide_eq_true hp⟩

end Transactions
