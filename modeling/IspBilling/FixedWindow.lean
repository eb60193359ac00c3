import Mathlib.Algebra.Order.Monoid.Defs
import Mathlib.Data.List.Basic

/-! # Counters with a fixed window

A counter that a first call starts and that disappears after a window of length `w`, whatever calls
come in between.  A call is admitted while the count is at most a limit `n`.  Times are from any
ordered monoid.

`calls w entry ts` are the calls at the times `ts`, each with the counter that it finds and the one that
it leaves.  Within the life of a counter at most `n` calls are admitted (`admitted_life`), in any
interval of length `w` at most `2 * n` (`admitted_interval`): an interval meets no more than two
lives. -/

namespace FixedWindow

variable {τ : Type*}

/-- A counter, and the time at which it disappears. -/
structure Window (τ : Type*) where
  count : ℕ
  expires : τ
deriving DecidableEq, Repr

/-- A call, with the counter that it finds and the one that it leaves. -/
structure Call (τ : Type*) where
  time : τ
  found : Option (Window τ)
  left : Window τ
deriving DecidableEq, Repr

/-- The number of calls that are admitted. -/
def admitted (n : ℕ) (cs : List (Call τ)) : ℕ := cs.countP (fun c => decide (c.left.count ≤ n))

theorem admitted_cons (n : ℕ) (c : Call τ) (cs : List (Call τ)) :
    admitted n (c :: cs) = admitted n cs + if c.left.count ≤ n then 1 else 0 := by
  unfold admitted
  rw [List.countP_cons]
  simp only [decide_eq_true_eq]

section Order

variable [LinearOrder τ]

/-- The number of calls that are admitted from `a` to `b`. -/
def admittedIn (n : ℕ) (a b : τ) (cs : List (Call τ)) : ℕ :=
  cs.countP (fun c => decide (c.left.count ≤ n ∧ a ≤ c.time ∧ c.time ≤ b))

theorem admittedIn_cons (n : ℕ) (a b : τ) (c : Call τ) (cs : List (Call τ)) :
    admittedIn n a b (c :: cs) = admittedIn n a b cs +
      if c.left.count ≤ n ∧ a ≤ c.time ∧ c.time ≤ b then 1 else 0 := by
  unfold admittedIn
  rw [List.countP_cons]
  simp only [decide_eq_true_eq]

/-- The counter that is there at a time. -/
def live (entry : Option (Window τ)) (t : τ) : Option (Window τ) :=
  entry.filter (fun c => decide (t < c.expires))

theorem live_of_lt {c : Window τ} {t : τ} (h : t < c.expires) : live (some c) t = some c := by
  simp [live, h]

theorem live_of_le {c : Window τ} {t : τ} (h : c.expires ≤ t) : live (some c) t = none := by
  simp [live, h]

theorem live_some_iff {c : Window τ} {t : τ} : live (some c) t ≠ none ↔ t < c.expires := by
  constructor
  · intro h
    by_contra hle
    exact h (live_of_le (not_lt.mp hle))
  · intro h
    simp [live_of_lt h]

end Order

section Calls

variable [LinearOrder τ] [Add τ]

/-- The counter after a call: one more, or a new one. -/
def hit (w : τ) (entry : Option (Window τ)) (t : τ) : Window τ :=
  match live entry t with
  | some c => ⟨c.count + 1, c.expires⟩
  | none => ⟨1, t + w⟩

def calls (w : τ) : Option (Window τ) → List τ → List (Call τ)
  | _, [] => []
  | entry, t :: ts => ⟨t, live entry t, hit w entry t⟩ :: calls w (some (hit w entry t)) ts

theorem hit_of_lt {w : τ} {c : Window τ} {t : τ} (h : t < c.expires) :
    hit w (some c) t = ⟨c.count + 1, c.expires⟩ := by
  unfold hit
  rw [live_of_lt h]

theorem hit_of_none {w : τ} {entry : Option (Window τ)} {t : τ} (h : live entry t = none) :
    hit w entry t = ⟨1, t + w⟩ := by
  unfold hit
  rw [h]

theorem hit_pos (w : τ) (entry : Option (Window τ)) (t : τ) : 1 ≤ (hit w entry t).count := by
  unfold hit
  split
  · exact Nat.le_add_left 1 _
  · exact le_refl 1

theorem calls_eq_append {w : τ} {entry : Option (Window τ)} {ts : List τ} {front rest : List (Call τ)}
    (h : calls w entry ts = front ++ rest) :
    ∃ ts₁ entry' ts₂, ts = ts₁ ++ ts₂ ∧ front = calls w entry ts₁ ∧ rest = calls w entry' ts₂ := by
  induction front generalizing entry ts with
  | nil => exact ⟨[], entry, ts, rfl, rfl, h.symm⟩
  | cons c front ih =>
      cases ts with
      | nil => simp [calls] at h
      | cons t ts =>
          rw [calls, List.cons_append, List.cons.injEq] at h
          obtain ⟨ts₁, entry', ts₂, rfl, rfl, hrest⟩ := ih h.2
          exact ⟨t :: ts₁, entry', ts₂, rfl, by rw [calls, h.1], hrest⟩

/-! ### Lives -/

theorem admitted_found {w : τ} {n : ℕ} {c : Window τ} {ts : List τ}
    (h : ∀ d ∈ calls w (some c) ts, d.found ≠ none) :
    admitted n (calls w (some c) ts) ≤ n - c.count := by
  induction ts generalizing c with
  | nil => exact Nat.zero_le _
  | cons t ts ih =>
      have hlt : t < c.expires := live_some_iff.mp (h _ (List.mem_cons_self ..))
      rw [calls] at h ⊢
      have hrest := ih (fun d hd => h d (List.mem_cons_of_mem _ hd))
      rw [admitted_cons]
      rw [hit_of_lt hlt] at hrest ⊢
      dsimp only at hrest ⊢
      split <;> omega

/-- **A life**: of calls of which only the first may find no counter, at most `n` are admitted. -/
theorem admitted_life {w : τ} {n : ℕ} {entry : Option (Window τ)} {ts : List τ}
    {front life back : List (Call τ)} (h : calls w entry ts = front ++ life ++ back)
    (hfound : ∀ c ∈ life.tail, c.found ≠ none) : admitted n life ≤ n := by
  rw [List.append_assoc] at h
  obtain ⟨_, entry', _, _, _, hrest⟩ := calls_eq_append h
  obtain ⟨ts', _, _, _, rfl, _⟩ := calls_eq_append hrest.symm
  cases ts' with
  | nil => exact Nat.zero_le n
  | cons t ts' =>
      rw [calls] at hfound ⊢
      rw [List.tail_cons] at hfound
      have hpos := hit_pos w entry' t
      have hbound := admitted_found (n := n) hfound
      rw [admitted_cons]
      dsimp only
      split <;> omega

/-- A call that comes after the end of the counter that the call before it left starts a new one. -/
theorem restart {w : τ} {entry : Option (Window τ)} {ts : List τ} {front back : List (Call τ)}
    {c d : Call τ} (h : calls w entry ts = front ++ c :: d :: back) (hend : c.left.expires ≤ d.time) :
    d.found = none ∧ d.left = ⟨1, d.time + w⟩ := by
  obtain ⟨_, entry', ts', _, _, hrest⟩ := calls_eq_append h
  match ts', hrest with
  | t :: u :: ts', hrest =>
      simp only [calls, List.cons.injEq] at hrest
      obtain ⟨rfl, rfl, _⟩ := hrest
      have hnone := live_of_le hend
      exact ⟨hnone, hit_of_none hnone⟩

/-! ### Intervals -/

theorem admittedIn_after {w a b : τ} {n : ℕ} {entry : Option (Window τ)} {ts : List τ}
    (h : ∀ t ∈ ts, b < t) : admittedIn n a b (calls w entry ts) = 0 := by
  induction ts generalizing entry with
  | nil => rfl
  | cons t ts ih =>
      have hb : ¬ t ≤ b := not_le.mpr (h t (List.mem_cons_self ..))
      rw [calls, admittedIn_cons, ih (fun u hu => h u (List.mem_cons_of_mem _ hu))]
      simp [hb]

theorem admittedIn_last {w a b : τ} {n : ℕ} {c : Window τ} {ts : List τ} (hsorted : ts.Pairwise (· ≤ ·))
    (hb : b < c.expires) : admittedIn n a b (calls w (some c) ts) ≤ n - c.count := by
  induction ts generalizing c with
  | nil => exact Nat.zero_le _
  | cons t ts ih =>
      obtain ⟨hfirst, hrest⟩ := List.pairwise_cons.mp hsorted
      rw [calls, admittedIn_cons]
      by_cases ht : t ≤ b
      · have hlt : t < c.expires := lt_of_le_of_lt ht hb
        rw [hit_of_lt hlt]
        have hbound := ih hrest (c := ⟨c.count + 1, c.expires⟩) hb
        dsimp only at hbound ⊢
        split <;> omega
      · have hafter : ∀ u ∈ ts, b < u := fun u hu => lt_of_lt_of_le (not_le.mp ht) (hfirst u hu)
        rw [admittedIn_after hafter]
        simp [ht]

end Calls

section Intervals

variable [AddCommMonoid τ] [LinearOrder τ] [IsOrderedCancelAddMonoid τ]

theorem admittedIn_first {w a : τ} {n : ℕ} {c : Window τ} {ts : List τ}
    (hsorted : ts.Pairwise (· ≤ ·)) (ha : a < c.expires) :
    admittedIn n a (a + w) (calls w (some c) ts) ≤ (n - c.count) + n := by
  induction ts generalizing c with
  | nil => exact Nat.zero_le _
  | cons t ts ih =>
      obtain ⟨hfirst, hrest⟩ := List.pairwise_cons.mp hsorted
      rw [calls, admittedIn_cons]
      by_cases hlt : t < c.expires
      · rw [hit_of_lt hlt]
        have hbound := ih hrest (c := ⟨c.count + 1, c.expires⟩) ha
        dsimp only at hbound ⊢
        split <;> omega
      · -- The second life starts after `a`, so that it outlives the interval.
        have hle := not_lt.mp hlt
        rw [hit_of_none (live_of_le hle)]
        have hout : a + w < t + w := add_lt_add_of_lt_of_le (lt_of_lt_of_le ha hle) (le_refl w)
        have hbound : admittedIn n a (a + w) (calls w (some ⟨1, t + w⟩) ts) ≤ n - 1 :=
          admittedIn_last hrest hout
        dsimp only
        split <;> omega

theorem lt_hit {w : τ} (hw : 0 < w) (entry : Option (Window τ)) (t : τ) :
    t < (hit w entry t).expires := by
  unfold hit live
  cases entry with
  | none => exact lt_add_of_pos_right t hw
  | some c =>
      by_cases hlt : t < c.expires
      · rw [Option.filter_some_pos (by simpa using hlt)]
        exact hlt
      · rw [Option.filter_some_neg (by simpa using hlt)]
        exact lt_add_of_pos_right t hw

theorem lt_expires {w : τ} (hw : 0 < w) {entry : Option (Window τ)} {ts : List τ} :
    ∀ c ∈ calls w entry ts, c.time < c.left.expires := by
  induction ts generalizing entry with
  | nil => exact fun c hc => absurd hc (List.not_mem_nil)
  | cons t ts ih =>
      intro c hc
      rw [calls] at hc
      rcases List.mem_cons.mp hc with rfl | hc
      · exact lt_hit hw entry t
      · exact ih c hc

/-- **An interval** of length `w`: at most `2 * n` calls are admitted. -/
theorem admitted_interval {w a : τ} {n : ℕ} {entry : Option (Window τ)} {ts : List τ} (hw : 0 < w)
    (hsorted : ts.Pairwise (· ≤ ·)) : admittedIn n a (a + w) (calls w entry ts) ≤ 2 * n := by
  induction ts generalizing entry with
  | nil => exact Nat.zero_le _
  | cons t ts ih =>
      obtain ⟨_, hrest⟩ := List.pairwise_cons.mp hsorted
      rw [calls, admittedIn_cons]
      by_cases ha : a ≤ t
      · have hpos := hit_pos w entry t
        have hfirst : admittedIn n a (a + w) (calls w (some (hit w entry t)) ts) ≤
            (n - (hit w entry t).count) + n :=
          admittedIn_first hrest (lt_of_le_of_lt ha (lt_hit hw entry t))
        dsimp only
        split <;> omega
      · rw [if_neg (fun h => ha h.2.1)]
        exact ih hrest

theorem expires_le {w : τ} {entry : Option (Window τ)} {ts : List τ} (hsorted : ts.Pairwise (· ≤ ·))
    (hentry : ∀ c ∈ entry, ∀ t ∈ ts, c.expires ≤ t + w) :
    ∀ c ∈ calls w entry ts, c.left.expires ≤ c.time + w := by
  induction ts generalizing entry with
  | nil => exact fun c hc => absurd hc (List.not_mem_nil)
  | cons t ts ih =>
      obtain ⟨hfirst, hrest⟩ := List.pairwise_cons.mp hsorted
      have hleft : (hit w entry t).expires ≤ t + w := by
        unfold hit
        split
        · next c hc =>
            exact hentry c (Option.filter_eq_some_iff.mp hc).1 t (List.mem_cons_self ..)
        · exact le_refl _
      intro c hc
      rw [calls] at hc
      rcases List.mem_cons.mp hc with rfl | hc
      · exact hleft
      · refine ih hrest ?_ c hc
        intro d hd u hu
        obtain rfl := Option.some.inj hd
        exact le_trans hleft (add_le_add_left (hfirst u hu) w)

end Intervals

end FixedWindow
