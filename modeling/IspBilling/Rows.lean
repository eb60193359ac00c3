import Mathlib.Algebra.GroupWithZero.Nat
import Mathlib.Algebra.Order.BigOperators.Group.List
import Mathlib.Algebra.Order.Group.Nat
import Mathlib.Algebra.Ring.Int.Defs
import Mathlib.Data.List.Basic
import Mathlib.Data.List.Nodup

/-! # Tables as lists of rows

A table is the list of its rows.  `updateWhere p f t` is the bulk `UPDATE t SET f WHERE p`:
it rewrites the rows that satisfy `p` and leaves the others alone.  A primary key is a
function `key : α → κ`; the table is well keyed when the keys of its rows are distinct
(`Keyed`), and an update that leaves the key alone keeps it so.  A `Table` carries this with it.
The last sections are about passes that add rows, about rows by their position, and about counts and
totals. -/

namespace Rows

variable {α κ : Type*}

/-- Rewrite the rows that satisfy `p`. -/
def updateWhere (p : α → Bool) (f : α → α) (t : List α) : List α :=
  t.map (fun r => if p r then f r else r)

theorem mem_updateWhere {p : α → Bool} {f : α → α} {t : List α} {r : α} :
    r ∈ updateWhere p f t ↔ ∃ r₀ ∈ t, (if p r₀ then f r₀ else r₀) = r := by
  simp [updateWhere]

theorem updateWhere_eq_self {p : α → Bool} {f : α → α} {t : List α} (h : ∀ r ∈ t, p r = false) :
    updateWhere p f t = t := by
  unfold updateWhere
  rw [List.map_congr_left (g := id), List.map_id]
  intro r hr
  rw [h r hr]
  rfl

theorem forall_updateWhere {Q : α → Prop} {p : α → Bool} {f : α → α} {t : List α}
    (h : ∀ r ∈ t, p r = false → Q r) :
    (∀ r ∈ updateWhere p f t, Q r) ↔ ∀ r ∈ t, p r = true → Q (f r) := by
  constructor
  · intro hall r hr hp
    exact hall (f r) (mem_updateWhere.mpr ⟨r, hr, if_pos hp⟩)
  · intro hall r hr
    obtain ⟨r₀, hr₀, rfl⟩ := mem_updateWhere.mp hr
    split
    · exact hall r₀ hr₀ ‹_›
    · exact h r₀ hr₀ (by simpa using ‹¬ p r₀ = true›)

/-- Two updates by one idempotent mark, with conditions that do not read it, are one. -/
theorem updateWhere_updateWhere {p q : α → Bool} {f : α → α} (hf : ∀ r, f (f r) = f r)
    (hp : ∀ r, p (f r) = p r) (t : List α) :
    updateWhere p f (updateWhere q f t) = updateWhere (fun r => q r || p r) f t := by
  simp only [updateWhere, List.map_map]
  apply List.map_congr_left
  intro r _
  simp only [Function.comp]
  by_cases hq : q r = true
  · simp [hq, hp, hf]
  · simp [hq]

theorem exists_updateWhere {Q : α → Prop} {p : α → Bool} {f : α → α} {t : List α}
    (hQ : ∀ r, Q (f r) ↔ Q r) : (∃ r ∈ updateWhere p f t, Q r) ↔ ∃ r ∈ t, Q r := by
  constructor
  · rintro ⟨r, hr, hQr⟩
    obtain ⟨r₀, hr₀, rfl⟩ := mem_updateWhere.mp hr
    refine ⟨r₀, hr₀, ?_⟩
    split at hQr
    · exact (hQ r₀).mp hQr
    · exact hQr
  · rintro ⟨r, hr, hQr⟩
    refine ⟨_, mem_updateWhere.mpr ⟨r, hr, rfl⟩, ?_⟩
    split
    · exact (hQ r).mpr hQr
    · exact hQr

/-- **Frame rule**: an update that fixes every matching row of a class `P` of rows, and neither
moves rows into the class nor out of it, leaves the class as it was. -/
theorem mem_updateWhere_of_fixed {P : α → Prop} {p : α → Bool} {f : α → α} {t : List α}
    (hP : ∀ r, P (f r) ↔ P r) (hfix : ∀ r ∈ t, P r → p r = true → f r = r) {r : α} (hr : P r) :
    r ∈ updateWhere p f t ↔ r ∈ t := by
  rw [mem_updateWhere]
  constructor
  · rintro ⟨r₀, hr₀, rfl⟩
    split at hr
    · rw [if_pos ‹_›, hfix r₀ hr₀ ((hP r₀).mp hr) ‹_›]
      exact hr₀
    · rw [if_neg ‹_›]
      exact hr₀
  · intro h
    refine ⟨r, h, ?_⟩
    split
    · exact hfix r h hr ‹_›
    · rfl

/-- At most one row carries a given value of a column whose values are distinct. -/
theorem filter_of_nodup_filterMap [DecidableEq κ] {f : α → Option κ} {t : List α}
    (h : (t.filterMap f).Nodup) (k : κ) :
    t.filter (fun r => decide (f r = some k)) = [] ∨
      ∃ r ∈ t, t.filter (fun r => decide (f r = some k)) = [r] := by
  induction t with
  | nil => exact Or.inl rfl
  | cons a t ih =>
      cases hf : f a with
      | none =>
          rw [List.filterMap_cons_none hf] at h
          simp only [List.filter_cons, hf, reduceCtorEq, decide_false, Bool.false_eq_true, ite_false]
          rcases ih h with h0 | ⟨r, hr, h1⟩
          · exact Or.inl h0
          · exact Or.inr ⟨r, List.mem_cons_of_mem _ hr, h1⟩
      | some v =>
          rw [List.filterMap_cons_some hf, List.nodup_cons] at h
          by_cases hv : v = k
          · subst hv
            have hnone : t.filter (fun r => decide (f r = some v)) = [] := by
              rw [List.filter_eq_nil_iff]
              intro r hr hrv
              exact h.1 (List.mem_filterMap.mpr ⟨r, hr, by simpa using hrv⟩)
            exact Or.inr ⟨a, List.mem_cons_self, by simp [hf, hnone]⟩
          · have hne : ¬ f a = some k := by rw [hf]; simpa using hv
            simp only [List.filter_cons, hne, decide_false, Bool.false_eq_true, ite_false]
            rcases ih h.2 with h0 | ⟨r, hr, h1⟩
            · exact Or.inl h0
            · exact Or.inr ⟨r, List.mem_cons_of_mem _ hr, h1⟩

/-- The keys of the rows are distinct. -/
def Keyed (key : α → κ) (t : List α) : Prop := (t.map key).Nodup

instance [DecidableEq κ] (key : α → κ) (t : List α) : Decidable (Keyed key t) :=
  inferInstanceAs (Decidable (t.map key).Nodup)

theorem map_key_updateWhere {key : α → κ} {p : α → Bool} {f : α → α}
    (hf : ∀ r, key (f r) = key r) (t : List α) : (updateWhere p f t).map key = t.map key := by
  simp only [updateWhere, List.map_map]
  apply List.map_congr_left
  intro r _
  simp only [Function.comp]
  split
  · exact hf r
  · rfl

theorem Keyed.updateWhere {key : α → κ} {p : α → Bool} {f : α → α} {t : List α}
    (h : Keyed key t) (hf : ∀ r, key (f r) = key r) : Keyed key (updateWhere p f t) := by
  unfold Keyed
  rw [map_key_updateWhere hf]
  exact h

theorem Keyed.eq_of_key {key : α → κ} {t : List α} (h : Keyed key t) {r r' : α} (hr : r ∈ t)
    (hr' : r' ∈ t) (hk : key r = key r') : r = r' :=
  List.inj_on_of_nodup_map h hr hr' hk

theorem Keyed.forall_key_iff {key : α → κ} {t : List α} (h : Keyed key t) {r : α} (hr : r ∈ t)
    {Q : α → Prop} : (∀ x ∈ t, key x = key r → Q x) ↔ Q r := by
  constructor
  · intro hall
    exact hall r hr rfl
  · intro hQ x hx hk
    exact h.eq_of_key hx hr hk ▸ hQ

theorem Keyed.find?_eq_some [DecidableEq κ] {key : α → κ} {t : List α} (h : Keyed key t) {k : κ}
    {r : α} : t.find? (fun x => decide (key x = k)) = some r ↔ r ∈ t ∧ key r = k := by
  constructor
  · intro hf
    exact ⟨List.mem_of_find?_eq_some hf, by simpa using List.find?_some hf⟩
  · rintro ⟨hr, rfl⟩
    cases hf : t.find? (fun x => decide (key x = key r)) with
    | none => simpa using List.find?_eq_none.mp hf r hr
    | some r' =>
        have hk : key r' = key r := by simpa using List.find?_some hf
        rw [h.eq_of_key (List.mem_of_find?_eq_some hf) hr hk]

/-- Looking up by the key in an updated table: the row found before, updated. -/
theorem find?_updateWhere [DecidableEq κ] {key : α → κ} {p : α → Bool} {f : α → α}
    (hf : ∀ r, key (f r) = key r) (t : List α) (k : κ) :
    (updateWhere p f t).find? (fun x => decide (key x = k)) =
      (t.find? (fun x => decide (key x = k))).map (fun r => if p r then f r else r) := by
  rw [updateWhere, List.find?_map]
  congr 2
  funext r
  simp only [Function.comp]
  split
  · rw [hf]
  · rfl

theorem filter_updateWhere {q r : α → Bool} {f : α → α} (hf : ∀ x, r (f x) = r x) (t : List α) :
    (updateWhere q f t).filter r = updateWhere q f (t.filter r) := by
  rw [updateWhere, updateWhere, List.filter_map]
  congr 2
  funext x
  simp only [Function.comp]
  split
  · exact hf x
  · rfl

/-- The row of a result that has one row, and no other (`scalar_one_or_none`). -/
def scalarOne : List α → Option α
  | [r] => some r
  | _ => none

theorem scalarOne_eq_some {t : List α} {r : α} : scalarOne t = some r ↔ t = [r] := by
  match t with
  | [] => simp [scalarOne]
  | [x] => simp [scalarOne]
  | x :: y :: t => simp [scalarOne]

theorem scalarOne_updateWhere (q : α → Bool) (f : α → α) (t : List α) :
    scalarOne (updateWhere q f t) = (scalarOne t).map (fun r => if q r then f r else r) := by
  match t with
  | [] => rfl
  | [x] => rfl
  | x :: y :: t => rfl

theorem Keyed.filter_key [DecidableEq κ] {key : α → κ} {t : List α} (h : Keyed key t) {r : α}
    (hr : r ∈ t) : t.filter (fun x => decide (key x = key r)) = [r] := by
  induction t with
  | nil => cases hr
  | cons a t ih =>
      obtain ⟨ha, ht⟩ := List.nodup_cons.mp h
      rcases List.mem_cons.mp hr with rfl | hr
      · have hnone : t.filter (fun x => decide (key x = key r)) = [] := by
          rw [List.filter_eq_nil_iff]
          intro x hx hk
          exact ha (List.mem_map.mpr ⟨x, hx, of_decide_eq_true hk⟩)
        simp [hnone]
      · have hne : ¬ key a = key r := by
          intro hk
          exact ha (List.mem_map.mpr ⟨r, hr, hk.symm⟩)
        simp [hne, ih ht hr]

theorem Keyed.append_singleton {key : α → κ} {t : List α} (h : Keyed key t) {r : α}
    (hr : key r ∉ t.map key) : Keyed key (t ++ [r]) := by
  unfold Keyed
  rw [List.map_append, List.nodup_append]
  refine ⟨h, by simp, ?_⟩
  intro a ha b hb
  simp only [List.map_cons, List.map_nil, List.mem_singleton] at hb
  rintro rfl
  exact hr (hb ▸ ha)

/-- A result of at most one row (`scalar_one_or_none`); `none` when it has several. -/
def oneOrNone : List α → Option (Option α)
  | [] => some none
  | [r] => some (some r)
  | _ => none

theorem oneOrNone_eq_some_some {t : List α} {r : α} : oneOrNone t = some (some r) ↔ t = [r] := by
  match t with
  | [] => simp [oneOrNone]
  | [x] => simp [oneOrNone]
  | x :: y :: t => simp [oneOrNone]

theorem oneOrNone_eq_some_none {t : List α} : oneOrNone t = some none ↔ t = [] := by
  match t with
  | [] => simp [oneOrNone]
  | [x] => simp [oneOrNone]
  | x :: y :: t => simp [oneOrNone]

theorem oneOrNone_eq_none {t : List α} : oneOrNone t = none ↔ 1 < t.length := by
  match t with
  | [] => simp [oneOrNone]
  | [x] => simp [oneOrNone]
  | x :: y :: t => simp [oneOrNone]

theorem mem_of_oneOrNone {t : List α} {r : α} (h : oneOrNone t = some (some r)) : r ∈ t := by
  simp [oneOrNone_eq_some_some.mp h]

/-! ### The latest row -/

/-- The latest row by a column of times (`ORDER BY … DESC LIMIT 1`); of rows that tie, the first. -/
def latest (time : α → ℤ) : List α → Option α
  | [] => none
  | r :: t =>
      match latest time t with
      | none => some r
      | some r' => if time r < time r' then some r' else some r

theorem latest_eq_none {time : α → ℤ} {t : List α} (h : latest time t = none) : t = [] := by
  cases t with
  | nil => rfl
  | cons a t =>
      rw [latest] at h
      split at h
      · cases h
      · split at h <;> cases h

theorem latest_spec {time : α → ℤ} {t : List α} {r : α} (h : latest time t = some r) :
    r ∈ t ∧ ∀ x ∈ t, time x ≤ time r := by
  induction t generalizing r with
  | nil => cases h
  | cons a t ih =>
      rw [latest] at h
      cases ht : latest time t with
      | none =>
          obtain rfl : a = r := by simpa [ht] using h
          simp [latest_eq_none ht]
      | some c =>
          simp only [ht] at h
          obtain ⟨hc, hmax⟩ := ih ht
          split at h
          · obtain rfl := Option.some.inj h
            refine ⟨List.mem_cons_of_mem a hc, ?_⟩
            intro x hx
            rcases List.mem_cons.mp hx with rfl | hx
            · omega
            · exact hmax x hx
          · obtain rfl := Option.some.inj h
            refine ⟨List.mem_cons_self, ?_⟩
            intro x hx
            rcases List.mem_cons.mp hx with rfl | hx
            · exact le_refl _
            · have := hmax x hx
              omega

theorem latest_filter {time : α → ℤ} {q : α → Bool} {t : List α} {r : α}
    (h : latest time t = some r) (hr : q r = true) : latest time (t.filter q) = some r := by
  induction t with
  | nil => cases h
  | cons a t ih =>
      rw [latest] at h
      cases ht : latest time t with
      | none =>
          simp only [ht, Option.some.injEq] at h
          subst h
          simp [latest_eq_none ht, hr, latest]
      | some c =>
          simp only [ht] at h
          split at h
          · rename_i hlt
            obtain rfl := Option.some.inj h
            have hrest := ih ht
            cases ha : q a with
            | true => rw [List.filter_cons_of_pos ha, latest, hrest]; simp [hlt]
            | false => rwa [List.filter_cons_of_neg (by simp [ha])]
          · rename_i hle
            obtain rfl := Option.some.inj h
            rw [List.filter_cons_of_pos hr, latest]
            cases hq : latest time (t.filter q) with
            | none => rfl
            | some d =>
                have hd := List.mem_of_mem_filter (latest_spec hq).1
                have hdc := (latest_spec ht).2 d hd
                have hnot : ¬ time a < time d := by omega
                simp [hnot]

/-! ### Tables with a primary key -/

@[ext]
structure Table (key : α → κ) where
  rows : List α
  keyed : Keyed key rows

namespace Table

variable [DecidableEq κ] {key : α → κ}

def get (t : Table key) (k : κ) : Option α := t.rows.find? (fun r => decide (key r = k))

def update (t : Table key) (k : κ) (f : α → α) (hf : ∀ r, key (f r) = key r) : Table key where
  rows := updateWhere (fun r => decide (key r = k)) f t.rows
  keyed := t.keyed.updateWhere hf

def map (t : Table key) (f : α → α) (hf : ∀ r, key (f r) = key r) : Table key where
  rows := t.rows.map f
  keyed := by
    unfold Keyed
    rw [List.map_map, show key ∘ f = key from funext hf]
    exact t.keyed

/-- Add a row; a key that is there already is refused. -/
def insert (t : Table key) (r : α) : Table key :=
  if h : key r ∈ t.rows.map key then t else ⟨t.rows ++ [r], t.keyed.append_singleton h⟩

def delete (t : Table key) (k : κ) : Table key where
  rows := t.rows.filter (fun r => decide (key r ≠ k))
  keyed := t.keyed.sublist (List.filter_sublist.map key)

variable {t : Table key} {k : κ} {f : α → α} {hf : ∀ r, key (f r) = key r}

theorem get_eq_some {r : α} : t.get k = some r ↔ r ∈ t.rows ∧ key r = k := t.keyed.find?_eq_some

theorem get_key {r : α} (hr : r ∈ t.rows) : t.get (key r) = some r := get_eq_some.mpr ⟨hr, rfl⟩

theorem rows_insert {r : α} (h : key r ∉ t.rows.map key) : (t.insert r).rows = t.rows ++ [r] := by
  unfold insert
  rw [dif_neg h]

theorem mem_insert {r r' : α} (h : r' ∈ (t.insert r).rows) : r' ∈ t.rows ∨ r' = r := by
  unfold insert at h
  split at h
  · exact Or.inl h
  · simpa using h

theorem mem_insert_of_mem {r r' : α} (h : r' ∈ t.rows) : r' ∈ (t.insert r).rows := by
  unfold insert
  split
  · exact h
  · exact List.mem_append_left _ h

theorem get_update (t : Table key) (k k' : κ) (f : α → α) (hf : ∀ r, key (f r) = key r) :
    (t.update k f hf).get k' = (t.get k').map (fun r => if key r = k then f r else r) := by
  unfold get update
  rw [find?_updateWhere hf]
  simp

theorem get_update_of_mem {r₀ : α} (hr₀ : r₀ ∈ t.rows) (k' : κ) :
    (t.update (key r₀) f hf).get k' = if k' = key r₀ then some (f r₀) else t.get k' := by
  rw [get_update]
  by_cases hk : k' = key r₀
  · subst hk
    simp [get_key hr₀]
  · rw [if_neg hk]
    cases hget : t.get k' with
    | none => rfl
    | some r =>
        obtain ⟨-, rfl⟩ := get_eq_some.mp hget
        simp [hk]

theorem get_insert_of_some {r r' : α} (h : t.get k = some r) : (t.insert r').get k = some r := by
  unfold insert
  split
  · exact h
  · exact List.find?_append.trans (by rw [show t.rows.find? _ = some r from h]; rfl)

theorem get_delete_of_ne {k' : κ} (h : k' ≠ k) : (t.delete k).get k' = t.get k' := by
  unfold get delete
  rw [List.find?_filter]
  congr 1
  funext r
  by_cases hr : key r = k'
  · subst hr
    simp [h]
  · simp [hr]

def column {γ : Type*} (col : α → Option γ) (t : Table key) (k : κ) : Option γ := (t.get k).bind col

/-- An update keeps all values of a column exactly if it keeps the one of the row it rewrites. -/
theorem column_kept_update_iff {γ : Type*} {col : α → Option γ} {r₀ : α} (hr₀ : r₀ ∈ t.rows) :
    (∀ k v, t.column col k = some v → (t.update (key r₀) f hf).column col k = some v) ↔
      ∀ v ∈ col r₀, col (f r₀) = some v := by
  simp only [column, get_update_of_mem hr₀]
  constructor
  · intro h v hv
    have hkept := h (key r₀) v (by simpa [get_key hr₀] using hv)
    simpa using hkept
  · intro h k v hv
    split
    · next hk =>
        subst hk
        rw [get_key hr₀] at hv
        exact h v hv
    · exact hv

theorem column_kept_insert {γ : Type*} {col : α → Option γ} {r : α} {v : γ}
    (h : t.column col k = some v) : (t.insert r).column col k = some v := by
  obtain ⟨x, hx, hv⟩ := Option.bind_eq_some_iff.mp h
  rw [column, get_insert_of_some hx]
  exact hv

theorem mem_update_iff {r : α} (hr : r ∈ t.rows) :
    r ∈ (t.update k f hf).rows ↔ (key r = k → f r = r) := by
  constructor
  · intro hmem hk
    obtain ⟨r₀, hr₀, heq⟩ := mem_updateWhere.mp hmem
    have hk₀ : key r₀ = key r := by
      rw [← heq]
      split
      · exact (hf r₀).symm
      · rfl
    obtain rfl := t.keyed.eq_of_key hr₀ hr hk₀
    rwa [if_pos (decide_eq_true hk)] at heq
  · intro hfix
    refine mem_updateWhere.mpr ⟨r, hr, ?_⟩
    split
    · exact hfix (of_decide_eq_true ‹_›)
    · rfl

/-- Given a row of the table: the rows of a class survive an update of that row exactly if it is not
of the class, or is rewritten to itself. -/
theorem forall_kept_update_iff {P : α → Prop} {r₀ : α} (hr₀ : r₀ ∈ t.rows) :
    (∀ r ∈ t.rows, P r → r ∈ (t.update (key r₀) f hf).rows) ↔ (P r₀ → f r₀ = r₀) := by
  constructor
  · intro h hP
    exact (mem_update_iff hr₀).mp (h r₀ hr₀ hP) rfl
  · intro h r hr hP
    refine (mem_update_iff hr).mpr ?_
    intro hk
    obtain rfl := t.keyed.eq_of_key hr hr₀ hk
    exact h hP

theorem update_eq_self_iff : t.update k f hf = t ↔ ∀ r, t.get k = some r → f r = r := by
  constructor
  · intro h r hr
    obtain ⟨hmem, hk⟩ := get_eq_some.mp hr
    have hstay : r ∈ (t.update k f hf).rows := by rwa [h]
    exact (mem_update_iff hmem).mp hstay hk
  · intro h
    ext1
    simp only [update, updateWhere]
    conv_rhs => rw [← List.map_id t.rows]
    apply List.map_congr_left
    intro r hr
    split
    · exact h r (get_eq_some.mpr ⟨hr, of_decide_eq_true ‹_›⟩)
    · rfl

theorem update_key_eq_self_iff {r : α} (hr : r ∈ t.rows) :
    t.update (key r) f hf = t ↔ f r = r := by
  simp [update_eq_self_iff, get_key hr]

theorem update_congr {g : α → α} {hg : ∀ r, key (g r) = key r}
    (h : ∀ r, t.get k = some r → f r = g r) : t.update k f hf = t.update k g hg := by
  ext1
  refine List.map_congr_left ?_
  intro r hr
  split
  · exact h r (get_eq_some.mpr ⟨hr, of_decide_eq_true ‹_›⟩)
  · rfl

end Table

/-! ### Passes that add rows

A pass folds over a list of requests; a request adds rows under the keys `keys b` and leaves the
rows that are there alone. -/

section Passes

variable {β : Type*} {f : List α → β → List α} {key : α → κ}

theorem mem_foldl (hkeep : ∀ t b r, r ∈ t → r ∈ f t b) {bs : List β} {t : List α} {r : α}
    (hr : r ∈ t) : r ∈ bs.foldl f t := by
  induction bs generalizing t with
  | nil => exact hr
  | cons b bs ih => exact ih (hkeep t b r hr)

theorem keyed_foldl (hf : ∀ t b, Keyed key t → Keyed key (f t b)) {bs : List β} {t : List α}
    (ht : Keyed key t) : Keyed key (bs.foldl f t) := by
  induction bs generalizing t with
  | nil => exact ht
  | cons b bs ih => exact ih (hf t b ht)

/-- **Every request is served**: if the keys of the pass are fresh, each request finds its own keys
fresh, and what it adds is there at the end. -/
theorem foldl_serves (key : α → κ) (keys : β → List κ) (hkeep : ∀ t b r, r ∈ t → r ∈ f t b)
    (hnew : ∀ t b r, r ∈ f t b → r ∈ t ∨ key r ∈ keys b) {bs : List β} {t : List α}
    (hnodup : (bs.flatMap keys).Nodup) (hfresh : ∀ k ∈ bs.flatMap keys, k ∉ t.map key) {b : β}
    (hb : b ∈ bs) : ∃ t', (∀ k ∈ keys b, k ∉ t'.map key) ∧ ∀ r ∈ f t' b, r ∈ bs.foldl f t := by
  induction bs generalizing t with
  | nil => cases hb
  | cons a bs ih =>
      rw [List.flatMap_cons] at hnodup hfresh
      obtain ⟨_, htail, hdisj⟩ := List.nodup_append.mp hnodup
      rcases List.mem_cons.mp hb with rfl | hb
      · refine ⟨t, fun k hk => hfresh k (List.mem_append_left _ hk), ?_⟩
        intro r hr
        rw [List.foldl_cons]
        exact mem_foldl hkeep hr
      · refine ih htail ?_ hb
        intro k hk hmem
        obtain ⟨r, hr, rfl⟩ := List.mem_map.mp hmem
        rcases hnew t a r hr with hold | hka
        · exact hfresh (key r) (List.mem_append_right _ hk) (List.mem_map_of_mem hold)
        · exact hdisj (key r) hka (key r) hk rfl

end Passes

/-! ### Positions -/

theorem getElem?_concat_cases {t : List α} {a b : α} {j : ℕ}
    (h : (t ++ [a])[j]? = some b) : j = t.length ∧ b = a ∨ j ≠ t.length ∧ t[j]? = some b := by
  have hlt := (List.getElem?_eq_some_iff.mp h).1
  rw [List.length_append, List.length_singleton] at hlt
  by_cases hj : j = t.length
  · rw [hj, List.getElem?_concat_length] at h
    exact Or.inl ⟨hj, (Option.some_inj.mp h).symm⟩
  · rw [List.getElem?_append_left (by omega)] at h
    exact Or.inr ⟨hj, h⟩

theorem getElem?_set_cases {t : List α} {a b : α} {i j : ℕ}
    (h : (t.set i a)[j]? = some b) : j = i ∧ b = a ∨ j ≠ i ∧ t[j]? = some b := by
  by_cases hj : j = i
  · subst hj
    have hlt := (List.getElem?_eq_some_iff.mp h).1
    rw [List.length_set] at hlt
    rw [List.getElem?_set_self hlt] at h
    exact Or.inl ⟨rfl, (Option.some_inj.mp h).symm⟩
  · rw [List.getElem?_set_ne (Ne.symm hj)] at h
    exact Or.inr ⟨hj, h⟩

/-! ### Counts and totals -/

theorem countP_set_add {p : α → Bool} {t : List α} {i : ℕ} {a b : α} (h : t[i]? = some a) :
    (t.set i b).countP p + (if p a then 1 else 0) = t.countP p + (if p b then 1 else 0) := by
  induction t generalizing i with
  | nil => simp at h
  | cons x t ih =>
      cases i with
      | zero =>
          simp only [List.getElem?_cons_zero, Option.some.injEq] at h
          subst h
          simp only [List.set_cons_zero, List.countP_cons]
          omega
      | succ i =>
          have := ih (by simpa using h)
          simp only [List.set_cons_succ, List.countP_cons]
          omega

theorem countP_updateWhere {p q : α → Bool} {f : α → α} (h : ∀ r, q (f r) = q r) (t : List α) :
    (updateWhere p f t).countP q = t.countP q := by
  rw [updateWhere, List.countP_map]
  apply List.countP_congr
  intro r _
  simp only [Function.comp]
  split
  · rw [h r]
  · rfl

theorem sum_map_filter (q : α → Bool) (g : α → ℕ) (t : List α) :
    ((t.filter q).map g).sum = (t.map (fun x => if q x then g x else 0)).sum := by
  induction t with
  | nil => rfl
  | cons a t ih =>
      by_cases h : q a = true
      · simp [h, ih]
      · simp [h, ih]

theorem sum_map_updateWhere (q : α → Bool) (f : α → α) (g : α → ℕ) (t : List α) :
    ((updateWhere q f t).map g).sum = (t.map (fun x => if q x then g (f x) else g x)).sum := by
  rw [updateWhere, List.map_map]
  congr 1
  apply List.map_congr_left
  intro x _
  simp only [Function.comp]
  split <;> rfl

/-- Totals that compare row by row are equal only if every row is. -/
theorem sum_map_eq_iff_of_le {f g : α → ℕ} {t : List α} (h : ∀ x ∈ t, f x ≤ g x) :
    (t.map f).sum = (t.map g).sum ↔ ∀ x ∈ t, f x = g x := by
  induction t with
  | nil => simp
  | cons a t ih =>
      have ha := h a List.mem_cons_self
      have hle : (t.map f).sum ≤ (t.map g).sum :=
        List.sum_le_sum (fun x hx => h x (List.mem_cons_of_mem a hx))
      rw [List.forall_mem_cons, ← ih (fun x hx => h x (List.mem_cons_of_mem a hx)), List.map_cons,
        List.map_cons, List.sum_cons, List.sum_cons]
      omega

theorem keyed_split [DecidableEq κ] {key : α → κ} {t : List α} (h : Keyed key t) {r : α}
    (hr : r ∈ t) : ∃ before after, t = before ++ r :: after ∧
      (∀ f, updateWhere (fun x => decide (key x = key r)) f t = before ++ f r :: after) ∧
      t.filter (fun x => decide (key x ≠ key r)) = before ++ after := by
  obtain ⟨before, after, rfl⟩ := List.append_of_mem hr
  have hnodup : (before.map key ++ key r :: after.map key).Nodup := by
    have h' : ((before ++ r :: after).map key).Nodup := h
    rwa [List.map_append, List.map_cons] at h'
  have hother : ∀ x ∈ before ++ after, key x ≠ key r := by
    intro x hx heq
    have hmem := List.mem_map_of_mem (f := key) hx
    rw [heq, List.map_append] at hmem
    exact (List.nodup_middle.mp hnodup).notMem hmem
  refine ⟨before, after, rfl, ?_, ?_⟩
  · intro f
    have hfix : ∀ l : List α, (∀ x ∈ l, key x ≠ key r) →
        updateWhere (fun x => decide (key x = key r)) f l = l :=
      fun l hl => updateWhere_eq_self fun x hx => decide_eq_false (hl x hx)
    have happend : updateWhere (fun x => decide (key x = key r)) f (before ++ r :: after) =
        updateWhere (fun x => decide (key x = key r)) f before ++
          f r :: updateWhere (fun x => decide (key x = key r)) f after := by
      simp [updateWhere]
    rw [happend, hfix before fun x hx => hother x (List.mem_append_left _ hx),
      hfix after fun x hx => hother x (List.mem_append_right _ hx)]
  · have hkeep : ∀ l : List α, (∀ x ∈ l, key x ≠ key r) →
        l.filter (fun x => decide (key x ≠ key r)) = l := by
      intro l hl
      rw [List.filter_eq_self]
      intro x hx
      exact decide_eq_true (hl x hx)
    rw [List.filter_append, List.filter_cons_of_neg (by simp),
      hkeep before fun x hx => hother x (List.mem_append_left _ hx),
      hkeep after fun x hx => hother x (List.mem_append_right _ hx)]

theorem sum_map_updateWhere_key [DecidableEq κ] {key : α → κ} {t : List α} (h : Keyed key t) {r : α}
    (hr : r ∈ t) (f : α → α) (g : α → ℤ) :
    ((updateWhere (fun x => decide (key x = key r)) f t).map g).sum =
      (t.map g).sum + (g (f r) - g r) := by
  obtain ⟨before, after, hsplit, hupdate, -⟩ := keyed_split h hr
  rw [hupdate f, hsplit]
  simp only [List.map_append, List.map_cons, List.sum_append, List.sum_cons]
  omega

theorem sum_map_filter_ne [DecidableEq κ] {key : α → κ} {t : List α} (h : Keyed key t) {r : α}
    (hr : r ∈ t) (g : α → ℤ) :
    ((t.filter fun x => decide (key x ≠ key r)).map g).sum = (t.map g).sum - g r := by
  obtain ⟨before, after, hsplit, -, hfilter⟩ := keyed_split h hr
  rw [hfilter, hsplit]
  simp only [List.map_append, List.map_cons, List.sum_append, List.sum_cons]
  omega

/-! ### Columns that are written back -/

/-- A column after the commit of a request that has read `old` and left `new`: only changed columns are
written. -/
def writeColumn {α : Type*} [DecidableEq α] (old new row : α) : α := if new = old then row else new

theorem writeColumn_self {α : Type*} [DecidableEq α] (old row : α) : writeColumn old old row = row :=
  if_pos rfl

theorem writeColumn_of_ne {α : Type*} [DecidableEq α] {old new : α} (h : new ≠ old) (row : α) :
    writeColumn old new row = new := if_neg h

theorem writeColumn_current {α : Type*} [DecidableEq α] (old new : α) :
    writeColumn old new old = new := by
  unfold writeColumn
  split
  · exact Eq.symm ‹_›
  · rfl

end Rows
