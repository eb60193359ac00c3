import Mathlib.Data.List.Sort
import Mathlib.Data.List.TakeDrop

/-! # Repeated sweeps over the front of a list

A worker looks at the first `batch` rows of a list, serves those that are due, and so takes all
rows of the same key off the list; rows that are not due stay where they are.  It does this
again and again.  Rows that are not due and never leave can fill the whole batch, and what lies
behind them is then never served.

`exists_served_iff` is the exact condition, on the list before the first sweep: in front of
every due row, as long as no due row of the same key comes earlier, fewer than `batch` rows
have a key that none of the rows in front makes due. -/

namespace Sweep

variable {α κ : Type*} [DecidableEq κ] (key : α → κ) (due : α → Prop) [DecidablePred due]
  (batch : ℕ)

/-- Some row of `t` makes the key `k` due. -/
def Calls (t : List α) (k : κ) : Prop := ∃ x ∈ t, due x ∧ key x = k

instance (t : List α) (k : κ) : Decidable (Calls key due t k) :=
  inferInstanceAs (Decidable (∃ x ∈ t, due x ∧ key x = k))

/-- The list after one sweep. -/
def sweep (t : List α) : List α :=
  t.filter (fun r => decide (¬ Calls key due (t.take batch) (key r)))

/-- The rows of `t` that no sweep over `t` alone takes away. -/
def lasting (t : List α) : List α := t.filter (fun r => decide (¬ Calls key due t (key r)))

/-- Nothing blocks a due row: fewer than `batch` lasting rows lie in front of it. -/
def Unblocked (t : List α) : Prop :=
  ∀ i < t.length, ∀ r ∈ t[i]?, due r → ¬ Calls key due (t.take i) (key r) →
    (lasting key due (t.take i)).length < batch

instance (t : List α) : Decidable (Unblocked key due batch t) :=
  inferInstanceAs (Decidable (∀ i < t.length, ∀ r ∈ t[i]?, due r →
    ¬ Calls key due (t.take i) (key r) → (lasting key due (t.take i)).length < batch))

/-- The row `r` waits behind lasting rows of `front` that fill the batch. -/
structure Blocked (front : List α) (r : α) (t : List α) : Prop where
  split : ∃ pre post, t = pre ++ r :: post ∧ (∀ x ∈ pre, x ∈ front) ∧
    (lasting key due front).Sublist pre
  quiet : ¬ Calls key due front (key r)
  full : batch ≤ (lasting key due front).length

variable {key due batch}

theorem unblocked_iff {t : List α} : Unblocked key due batch t ↔
    ∀ pre r post, t = pre ++ r :: post → due r → ¬ Calls key due pre (key r) →
      (lasting key due pre).length < batch := by
  constructor
  · rintro h pre r post rfl hr hno
    have hcut : (pre ++ r :: post).take pre.length = pre := List.take_left
    have := h pre.length (by simp) r (by simp) hr
    rw [hcut] at this
    exact this hno
  · intro h i hi r hr hdue hno
    refine h (t.take i) r (t.drop (i + 1)) ?_ hdue hno
    have hget : t[i] = r := by
      rw [Option.mem_def, List.getElem?_eq_getElem hi] at hr
      exact Option.some.inj hr
    rw [← hget, ← List.drop_eq_getElem_cons hi, List.take_append_drop]

/-! ### One sweep -/

omit [DecidableEq κ] [DecidablePred due] in
theorem Calls.mono {t t' : List α} (hsub : ∀ x ∈ t, x ∈ t') {k : κ} (h : Calls key due t k) :
    Calls key due t' k := by
  obtain ⟨x, hx, hcall⟩ := h
  exact ⟨x, hsub x hx, hcall⟩

omit [DecidableEq κ] [DecidablePred due] in
theorem calls_append {t t' : List α} {k : κ} :
    Calls key due (t ++ t') k ↔ Calls key due t k ∨ Calls key due t' k := by
  simp only [Calls, List.mem_append, or_and_right, exists_or]

omit [DecidableEq κ] [DecidablePred due] in
theorem calls_filter {p : κ → Bool} {t : List α} {k : κ} (hk : p k = true) :
    Calls key due (t.filter (fun r => p (key r))) k ↔ Calls key due t k := by
  constructor
  · exact Calls.mono (fun x hx => List.mem_of_mem_filter hx)
  · rintro ⟨x, hx, hdue, rfl⟩
    exact ⟨x, List.mem_filter.mpr ⟨hx, hk⟩, hdue, rfl⟩

theorem lasting_filter {p : κ → Bool} (t : List α) :
    lasting key due (t.filter (fun r => p (key r))) =
      (lasting key due t).filter (fun r => p (key r)) := by
  rw [lasting, lasting, List.filter_filter, List.filter_filter]
  apply List.filter_congr
  intro x _
  by_cases hx : p (key x) = true
  · simp only [hx, Bool.and_true, Bool.true_and, calls_filter hx]
  · simp [hx]

theorem sweep_of_forall_not_due {t : List α} (h : ∀ r ∈ t, ¬ due r) :
    sweep key due batch t = t := by
  apply List.filter_eq_self.mpr
  intro r _
  rw [decide_eq_true_eq]
  rintro ⟨x, hx, hdue, _⟩
  exact h x (List.mem_of_mem_take hx) hdue

theorem length_sweep_lt {t : List α} (h : ∃ r ∈ t.take batch, due r) :
    (sweep key due batch t).length < t.length := by
  obtain ⟨r, hr, hdue⟩ := h
  apply List.length_filter_lt_length_iff_exists.mpr
  refine ⟨r, List.mem_of_mem_take hr, ?_⟩
  simp only [decide_not, Bool.not_eq_true', decide_eq_false_iff_not, not_not]
  exact ⟨r, hr, hdue, rfl⟩

/-- The first due row of a list that nothing blocks is within reach. -/
theorem Unblocked.exists_due {t : List α} (h : Unblocked key due batch t)
    (hdue : ∃ r ∈ t, due r) : ∃ r ∈ t.take batch, due r := by
  have hfind : (t.find? (fun r => decide (due r))).isSome := by
    obtain ⟨r, hr, hd⟩ := hdue
    exact List.find?_isSome.mpr ⟨r, hr, by simpa using hd⟩
  obtain ⟨r, hr⟩ := Option.isSome_iff_exists.mp hfind
  obtain ⟨hd, pre, post, hsplit, hpre⟩ := List.find?_eq_some_iff_append.mp hr
  simp only [decide_eq_true_eq, Bool.not_eq_true', decide_eq_false_iff_not] at hd hpre
  have hno : ∀ k, ¬ Calls key due pre k := by
    rintro k ⟨x, hx, hdx, _⟩
    exact hpre x hx hdx
  have hall : lasting key due pre = pre := by
    apply List.filter_eq_self.mpr
    intro x _
    simpa using hno (key x)
  have hlt := unblocked_iff.mp h pre r post hsplit hd (hno _)
  rw [hall] at hlt
  refine ⟨r, ?_, hd⟩
  obtain ⟨n, hn⟩ := Nat.exists_eq_add_of_lt hlt
  have hrest : batch - pre.length = n + 1 := by omega
  rw [hsplit, List.take_append, hrest, List.take_succ_cons]
  exact List.mem_append_right _ List.mem_cons_self

theorem Unblocked.sweep {t : List α} (h : Unblocked key due batch t) :
    Unblocked key due batch (sweep key due batch t) := by
  rw [unblocked_iff]
  intro pre' r post' hsplit hd hno
  -- the split of the new list is the trace of a split of the old one
  obtain ⟨pre, rest, ht, hpre, hrest⟩ := List.filter_eq_append_iff.mp hsplit
  obtain ⟨skip, post, rfl, hskip, hr, _⟩ := List.filter_eq_cons_iff.mp hrest
  set p : κ → Bool := fun k => decide (¬ Calls key due (t.take batch) k)
  have hfront : (pre ++ skip).filter (fun r => p (key r)) = pre' := by
    rw [List.filter_append, hpre, List.filter_eq_nil_iff.mpr hskip, List.append_nil]
  subst hfront
  have hlt : (lasting key due (pre ++ skip)).length < batch := by
    refine unblocked_iff.mp h (pre ++ skip) r post (by simp [ht]) hd ?_
    intro hcall
    exact hno ((calls_filter (p := p) hr).mpr hcall)
  rw [lasting_filter]
  exact lt_of_le_of_lt (List.length_filter_le _ _) hlt

/-! ### All sweeps -/

/-- Where nothing is blocked, finitely many sweeps serve everything. -/
theorem Unblocked.exists_served {t : List α} (h : Unblocked key due batch t) :
    ∃ n, ∀ r ∈ (Sweep.sweep key due batch)^[n] t, ¬ due r := by
  induction hn : t.length using Nat.strong_induction_on generalizing t with
  | _ n ih =>
      by_cases hdue : ∃ r ∈ t, due r
      · have hlt : (Sweep.sweep key due batch t).length < t.length :=
          length_sweep_lt (h.exists_due hdue)
        obtain ⟨m, hm⟩ := ih _ (hn ▸ hlt) h.sweep rfl
        exact ⟨m + 1, hm⟩
      · exact ⟨0, fun r hr hd => hdue ⟨r, hr, hd⟩⟩

/-- A blocked row stays blocked. -/
theorem Blocked.sweep {front t : List α} {r : α}
    (h : Blocked key due batch front r t) :
    Blocked key due batch front r (Sweep.sweep key due batch t) := by
  obtain ⟨⟨pre, post, rfl, hfront, hsub⟩, hquiet, hfull⟩ := h
  have htake : (pre ++ r :: post).take batch = pre.take batch :=
    List.take_append_of_le_length (hfull.trans hsub.length_le)
  -- whoever is served lies in front, so lasting rows and `r` itself are not
  have hkeep : ∀ k, ¬ Calls key due front k → ¬ Calls key due (pre.take batch) k := by
    intro k hk hcall
    exact hk (hcall.mono (fun x hx => hfront x (List.mem_of_mem_take hx)))
  refine ⟨⟨pre.filter (fun x => decide (¬ Calls key due (pre.take batch) (key x))),
    post.filter (fun x => decide (¬ Calls key due (pre.take batch) (key x))), ?_, ?_, ?_⟩,
    hquiet, hfull⟩
  · rw [Sweep.sweep, htake, List.filter_append, List.filter_cons_of_pos]
    exact decide_eq_true (hkeep _ hquiet)
  · intro x hx
    exact hfront x (List.mem_of_mem_filter hx)
  · have hself : (lasting key due front).filter
        (fun x => decide (¬ Calls key due (pre.take batch) (key x))) = lasting key due front := by
      apply List.filter_eq_self.mpr
      intro x hx
      exact decide_eq_true (hkeep _ (of_decide_eq_true (List.mem_filter.mp hx).2))
    rw [← hself]
    exact hsub.filter _

theorem Blocked.iterate {front t : List α} {r : α}
    (h : Blocked key due batch front r t) (n : ℕ) :
    Blocked key due batch front r
      ((Sweep.sweep key due batch)^[n] t) := by
  induction n with
  | zero => exact h
  | succ n ih =>
      rw [Function.iterate_succ_apply']
      exact ih.sweep

/-- **When sweeps do not starve**: finitely many sweeps serve every due row if and only if
nothing blocks one. -/
theorem exists_served_iff {t : List α} :
    (∃ n, ∀ r ∈ (Sweep.sweep key due batch)^[n] t, ¬ due r) ↔ Unblocked key due batch t := by
  refine ⟨?_, Unblocked.exists_served⟩
  rintro ⟨n, hn⟩
  rw [unblocked_iff]
  rintro pre r post rfl hd hno
  by_contra hfull
  have hblocked : Blocked key due batch pre r (pre ++ r :: post) :=
    ⟨⟨pre, post, rfl, fun x hx => hx, List.filter_sublist⟩, hno, not_lt.mp hfull⟩
  obtain ⟨pre', post', hsplit, _⟩ := (hblocked.iterate n).split
  exact hn r (by rw [hsplit]; simp) hd

theorem served_of_le {t : List α} {m n : ℕ} (hmn : m ≤ n)
    (h : ∀ r ∈ (Sweep.sweep key due batch)^[m] t, ¬ due r) :
    ∀ r ∈ (Sweep.sweep key due batch)^[n] t, ¬ due r := by
  obtain ⟨d, rfl⟩ := Nat.exists_eq_add_of_le' hmn
  rw [Function.iterate_add_apply, Function.iterate_fixed (sweep_of_forall_not_due h)]
  exact h

/-! ### Sweeps over sorted lists -/

section Sorted

open List

variable {α : Type*} {r : α → α → Prop} [DecidableRel r]

theorem filter_orderedInsert [IsTrans α r] (p : α → Bool) (a : α) {l : List α}
    (hl : l.Pairwise r) : (l.orderedInsert r a).filter p =
      if p a then (l.filter p).orderedInsert r a else l.filter p := by
  induction l with
  | nil => by_cases hp : p a <;> simp [hp]
  | cons b l ih =>
      rw [pairwise_cons] at hl
      by_cases hab : r a b
      · rw [orderedInsert_cons_of_le _ _ hab, filter_cons]
        by_cases hp : p a
        · rw [if_pos hp, if_pos hp]
          cases hf : filter p (b :: l) with
          | nil => rfl
          | cons c rest =>
              have hc : c ∈ b :: l := mem_of_mem_filter (hf ▸ mem_cons_self : c ∈ filter p (b :: l))
              have hac : r a c := by
                rcases mem_cons.mp hc with rfl | hc
                · exact hab
                · exact trans_of r hab (hl.1 c hc)
              rw [orderedInsert_cons_of_le _ _ hac]
        · rw [if_neg hp, if_neg hp]
      · rw [orderedInsert_of_not_le _ _ hab, filter_cons, filter_cons, ih hl.2]
        by_cases hb : p b <;> by_cases hp : p a <;>
          simp [hb, hp, hab]

theorem filter_insertionSort [IsTrans α r] [Std.Total r] (p : α → Bool) (l : List α) :
    (l.insertionSort r).filter p = (l.filter p).insertionSort r := by
  induction l with
  | nil => rfl
  | cons a l ih =>
      rw [insertionSort_cons, filter_orderedInsert p a (pairwise_insertionSort r l), ih, filter_cons]
      by_cases hp : p a
      · rw [if_pos hp, if_pos hp, insertionSort_cons]
      · rw [if_neg hp, if_neg hp]

end Sorted

end Sweep
