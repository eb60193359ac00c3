import Mathlib.Data.List.Nodup
import Mathlib.Data.List.Perm.Subperm
import Mathlib.Data.Nat.Find

/-! # The first free candidate

A name that must not be taken is found by trying candidates one after the other.  `search` is this
loop over any sequence of candidates, with the number of tries as fuel.

It ends if and only if a candidate is free (`exists_search_iff`), with the first one that is
(`search_eq_some_iff`).  Among `n` different candidates one is free when fewer than `n` are taken
(`exists_free`); a sequence that repeats itself need not have one. -/

namespace CandidateSearch

variable {α : Type*} (isTaken : α → Bool) (candidate : ℕ → α)

/-- Try the candidates from the `k`-th on. -/
def search : ℕ → ℕ → Option α
  | 0, _ => none
  | fuel + 1, k =>
      if isTaken (candidate k) then search fuel (k + 1) else some (candidate k)

theorem search_eq_find? (fuel k : ℕ) :
    search isTaken candidate fuel k =
      ((List.range fuel).map fun i => candidate (k + i)).find? fun x => !isTaken x := by
  induction fuel generalizing k with
  | zero => rfl
  | succ fuel ih =>
      have hshift : (fun i => candidate (k + i)) ∘ Nat.succ = fun i => candidate (k + 1 + i) := by
        funext i
        simp only [Function.comp, Nat.succ_eq_add_one]
        congr 1
        omega
      rw [search, List.range_succ_eq_map, List.map_cons, List.map_map, hshift, List.find?_cons, ih]
      cases isTaken (candidate k) with
      | true => rfl
      | false => rfl

variable {isTaken candidate}

/-- **The first free candidate is found.** -/
theorem search_eq_some_iff {fuel k : ℕ} {x : α} :
    search isTaken candidate fuel k = some x ↔
      ∃ i < fuel, candidate (k + i) = x ∧ isTaken (candidate (k + i)) = false ∧
        ∀ j < i, isTaken (candidate (k + j)) = true := by
  induction fuel generalizing k with
  | zero => simp [search]
  | succ fuel ih =>
      rw [search]
      by_cases hk : isTaken (candidate k) = true
      · rw [if_pos hk, ih]
        constructor
        · rintro ⟨i, hi, hx, hfree, htaken⟩
          have hstep : k + (i + 1) = k + 1 + i := by omega
          refine ⟨i + 1, by omega, by rw [hstep, hx], by rw [hstep, hfree], ?_⟩
          intro j hj
          cases j with
          | zero => exact hk
          | succ j =>
              have hshift : k + (j + 1) = k + 1 + j := by omega
              rw [hshift]
              exact htaken j (by omega)
        · rintro ⟨i, hi, hx, hfree, htaken⟩
          cases i with
          | zero =>
              rw [Nat.add_zero, hk] at hfree
              cases hfree
          | succ i =>
              have hstep : k + (i + 1) = k + 1 + i := by omega
              rw [hstep] at hx hfree
              refine ⟨i, by omega, hx, hfree, ?_⟩
              intro j hj
              have hshift : k + 1 + j = k + (j + 1) := by omega
              rw [hshift]
              exact htaken (j + 1) (by omega)
      · rw [if_neg hk, Option.some.injEq]
        constructor
        · intro hx
          exact ⟨0, by omega, hx, by simpa using hk, fun j hj => absurd hj (Nat.not_lt_zero j)⟩
        · rintro ⟨i, hi, hx, hfree, htaken⟩
          cases i with
          | zero => exact hx
          | succ i => exact absurd (htaken 0 (by omega)) hk

/-- **The search ends if and only if a candidate is free.** -/
theorem exists_search_iff :
    (∃ fuel x, search isTaken candidate fuel 0 = some x) ↔
      ∃ i, isTaken (candidate i) = false := by
  constructor
  · rintro ⟨fuel, x, h⟩
    obtain ⟨i, -, -, hfree, -⟩ := search_eq_some_iff.mp h
    exact ⟨0 + i, hfree⟩
  · intro h
    have hfirst : ∀ j < Nat.find h, isTaken (candidate (0 + j)) = true := by
      intro j hj
      rw [Nat.zero_add]
      simpa using Nat.find_min h hj
    refine ⟨Nat.find h + 1, candidate (Nat.find h), search_eq_some_iff.mpr ?_⟩
    refine ⟨Nat.find h, Nat.lt_succ_self _, ?_, ?_, hfirst⟩
    · rw [Nat.zero_add]
    · rw [Nat.zero_add]
      exact Nat.find_spec h

theorem exists_free {n : ℕ} (hdiff : ∀ i < n, ∀ j < n, candidate i = candidate j → i = j)
    {taken : List α} (hlen : taken.length < n) : ∃ i < n, candidate i ∉ taken := by
  by_contra hnone
  push Not at hnone
  have hnodup : ((List.range n).map candidate).Nodup :=
    List.Nodup.map_on
      (fun i hi j hj h => hdiff i (List.mem_range.mp hi) j (List.mem_range.mp hj) h)
      List.nodup_range
  have hsub : (List.range n).map candidate ⊆ taken := by
    intro x hx
    obtain ⟨i, hi, rfl⟩ := List.mem_map.mp hx
    exact hnone i (List.mem_range.mp hi)
  have hle := (hnodup.subperm hsub).length_le
  rw [List.length_map, List.length_range] at hle
  omega

end CandidateSearch
