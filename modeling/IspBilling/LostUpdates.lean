import Mathlib.Algebra.Order.Ring.Int
import IspBilling.Traces

/-! # Counters that are read, added to and written back

A counter without locks: a client loads the value, and later writes the sum of what it has loaded and
an amount.  A client that adds nothing writes nothing.  Any number of clients do so in any order.

* `value_le`: the counter never exceeds what it had and all amounts that were written.
* `value_eq_iff`: it is equal to that precisely if every write of an amount found the value that its
  client had loaded.  What is lost once stays lost. -/

namespace LostUpdates

open Runs

/-- The value, and what the clients that have not written yet have loaded. -/
structure Counter where
  value : ℤ
  loaded : List ℤ
deriving DecidableEq, Repr

/-- A client loads, or the `i`-th client writes, or it gives up. -/
inductive Move where
  | load
  | write (i amount : ℕ)
  | close (i : ℕ)
deriving DecidableEq, Repr

namespace Counter

variable {c : Counter} {total : ℤ}

def step (c : Counter) : Move → Counter
  | .load => { c with loaded := c.loaded ++ [c.value] }
  | .write i amount =>
      match c.loaded[i]? with
      | none => c
      | some v => ⟨if amount = 0 then c.value else v + amount, c.loaded.eraseIdx i⟩
  | .close i => { c with loaded := c.loaded.eraseIdx i }

def written (c : Counter) : Move → List ℤ
  | .write i amount => if i < c.loaded.length then [(amount : ℤ)] else []
  | .load | .close _ => []

/-- A write of an amount finds the value that its client has loaded. -/
def Fresh (c : Counter) : Move → Prop
  | .write i amount => ∀ v ∈ c.loaded[i]?, amount ≠ 0 → c.value = v
  | .load | .close _ => True

instance (c : Counter) (m : Move) : Decidable (c.Fresh m) :=
  match m with
  | .write i amount => inferInstanceAs (Decidable (∀ v ∈ c.loaded[i]?, amount ≠ 0 → c.value = v))
  | .load | .close _ => isTrue trivial

/-- Neither the value nor what was loaded exceeds the total. -/
structure Within (total : ℤ) (c : Counter) : Prop where
  value : c.value ≤ total
  loaded : ∀ v ∈ c.loaded, v ≤ total

/-- Something is missing from the value and from all that was loaded. -/
structure Behind (total : ℤ) (c : Counter) : Prop where
  value : c.value < total
  loaded : ∀ v ∈ c.loaded, v < total

/-- What a move does: it writes nothing and keeps the value, or a client writes what it has loaded and
an amount.  Either way what remains loaded was loaded before, or it is the value. -/
theorem step_cases (c : Counter) (m : Move) :
    ((c.written m).sum = 0 ∧ c.Fresh m ∧ (c.step m).value = c.value ∧
        ∀ u ∈ (c.step m).loaded, u ∈ c.loaded ∨ u = c.value) ∨
      ∃ i amount v, m = .write i amount ∧ c.loaded[i]? = some v ∧ v ∈ c.loaded ∧
        (c.written m).sum = amount ∧ (c.step m).value = (if amount = 0 then c.value else v + amount) ∧
        ∀ u ∈ (c.step m).loaded, u ∈ c.loaded := by
  cases m with
  | load =>
      refine .inl ⟨rfl, trivial, rfl, fun u hu => ?_⟩
      simpa [Counter.step] using hu
  | write i amount =>
      cases hi : c.loaded[i]? with
      | none =>
          have hlen : ¬ i < c.loaded.length := by simpa using hi
          refine .inl ⟨by simp [written, hlen], by simp [Fresh, hi], by simp [step, hi], fun u hu => ?_⟩
          simp only [step, hi] at hu
          exact .inl hu
      | some v =>
          obtain ⟨hlen, hv⟩ := List.getElem?_eq_some_iff.mp hi
          refine .inr ⟨i, amount, v, rfl, hi, hv ▸ List.getElem_mem hlen, by simp [written, hlen],
            by simp [step, hi], fun u hu => ?_⟩
          simp only [step, hi] at hu
          exact List.mem_of_mem_eraseIdx hu
  | close i => exact .inl ⟨rfl, trivial, rfl, fun u hu => .inl (List.mem_of_mem_eraseIdx hu)⟩

theorem Within.step (h : Within total c) (m : Move) :
    Within (total + (c.written m).sum) (c.step m) := by
  rcases c.step_cases m with ⟨hsum, -, hvalue, hloaded⟩ | ⟨i, amount, v, -, -, hv, hsum, hvalue, hloaded⟩
  · rw [hsum, add_zero]
    refine ⟨hvalue ▸ h.value, fun u hu => ?_⟩
    rcases hloaded u hu with hu | rfl
    · exact h.loaded u hu
    · exact h.value
  · have hle := h.loaded v hv
    have htotal := h.value
    rw [hsum]
    refine ⟨?_, fun u hu => ?_⟩
    · rw [hvalue]
      split <;> omega
    · have hu' := h.loaded u (hloaded u hu)
      omega

theorem Behind.step (h : Behind total c) (m : Move) :
    Behind (total + (c.written m).sum) (c.step m) := by
  rcases c.step_cases m with ⟨hsum, -, hvalue, hloaded⟩ | ⟨i, amount, v, -, -, hv, hsum, hvalue, hloaded⟩
  · rw [hsum, add_zero]
    refine ⟨hvalue ▸ h.value, fun u hu => ?_⟩
    rcases hloaded u hu with hu | rfl
    · exact h.loaded u hu
    · exact h.value
  · have hlt := h.loaded v hv
    have htotal := h.value
    rw [hsum]
    refine ⟨?_, fun u hu => ?_⟩
    · rw [hvalue]
      split <;> omega
    · have hu' := h.loaded u (hloaded u hu)
      omega

theorem value_step_of_fresh (hc : c.value = total) {m : Move} (hm : c.Fresh m) :
    (c.step m).value = total + (c.written m).sum := by
  rcases c.step_cases m with ⟨hsum, -, hvalue, -⟩ | ⟨i, amount, v, rfl, hi, -, hsum, hvalue, -⟩
  · rw [hsum, add_zero, hvalue, hc]
  · rw [hsum, hvalue]
    split
    · omega
    · rename_i hpos
      have hfresh : c.value = v := hm v (by simp [hi]) hpos
      omega

theorem behind_step_of_not_fresh (h : Within total c) (hc : c.value = total) {m : Move}
    (hm : ¬ c.Fresh m) : Behind (total + (c.written m).sum) (c.step m) := by
  rcases c.step_cases m with ⟨-, hfresh, -⟩ | ⟨i, amount, v, rfl, hi, hv, hsum, hvalue, hloaded⟩
  · exact absurd hfresh hm
  · have hstale : amount ≠ 0 ∧ c.value ≠ v := by simpa [Fresh, hi] using hm
    have hle := h.loaded v hv
    rw [hsum]
    refine ⟨?_, fun u hu => ?_⟩
    · rw [hvalue, if_neg hstale.1]
      omega
    · have hu' := h.loaded u (hloaded u hu)
      omega

/-- **No counter runs ahead**: the value is at most the total of what was written. -/
theorem value_le {es : List Move} (h : Within total c) :
    (exec step c es).value ≤ total + (outputs step written c es).sum := by
  induction es generalizing c total with
  | nil => simpa using h.value
  | cons m es ih =>
      have hrest := ih (h.step m)
      rw [outputs_cons, List.sum_append, exec_cons]
      omega

theorem value_lt {es : List Move} (h : Behind total c) :
    (exec step c es).value < total + (outputs step written c es).sum := by
  induction es generalizing c total with
  | nil => simpa using h.value
  | cons m es ih =>
      have hrest := ih (h.step m)
      rw [outputs_cons, List.sum_append, exec_cons]
      omega

/-- **No lost update**: the value is the total of what was written precisely if every write of an
amount found what its client had loaded. -/
theorem value_eq_iff {es : List Move} (h : Within total c) (hvalue : c.value = total) :
    (exec step c es).value = total + (outputs step written c es).sum ↔ Along step Fresh c es := by
  induction es generalizing c total with
  | nil => simpa [Along] using hvalue
  | cons m es ih =>
      rw [outputs_cons, List.sum_append, exec_cons, ← add_assoc]
      constructor
      · intro hend
        by_contra hnot
        by_cases hm : c.Fresh m
        · have hrest := (ih (h.step m) (value_step_of_fresh hvalue hm)).mp hend
          exact hnot ⟨hm, hrest⟩
        · have hlt : (exec step (c.step m) es).value <
              total + (c.written m).sum + (outputs step written (c.step m) es).sum :=
            value_lt (behind_step_of_not_fresh h hvalue hm)
          omega
      · intro halong
        exact (ih (h.step m) (value_step_of_fresh hvalue halong.1)).mpr halong.2

end Counter

end LostUpdates
