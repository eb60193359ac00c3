import Mathlib.Algebra.Order.Round
import Mathlib.Data.NNRat.Floor
import Mathlib.Data.Rat.Floor

/-! # Fixed-point columns

A numeric column of fixed scale stores integers of its smallest unit.  A value that lies between
two of them is rounded to the nearest one, and a half away from zero (`roundHalfAway`).

Rounding is not additive.  A whole amount `t` that is split into two parts, each rounded by
itself, may come out one unit too large: exactly when the parts lie halfway between two units and
neither is negative (`roundHalfAway_add_sub_iff`).  A column without a sign stores `roundNat`, which
is exact on whole numbers of units (`Whole`) and on nothing else. -/

namespace Rounding

/-- The nearest integer; a half goes away from zero. -/
def roundHalfAway (x : ℚ) : ℤ := if 0 ≤ x then ⌊x + 1 / 2⌋ else -⌊-x + 1 / 2⌋

/-- The value lies halfway between two units. -/
def Half (x : ℚ) : Prop := Int.fract x = 1 / 2

instance (x : ℚ) : Decidable (Half x) := inferInstanceAs (Decidable (Int.fract x = 1 / 2))

theorem roundHalfAway_of_nonneg {x : ℚ} (h : 0 ≤ x) : roundHalfAway x = ⌊x + 1 / 2⌋ := if_pos h

theorem roundHalfAway_of_neg {x : ℚ} (h : x < 0) : roundHalfAway x = -⌊-x + 1 / 2⌋ :=
  if_neg (not_le.mpr h)

theorem roundHalfAway_nonneg {x : ℚ} (h : 0 ≤ x) : 0 ≤ roundHalfAway x := by
  rw [roundHalfAway_of_nonneg h]
  exact Int.floor_nonneg.mpr (by linarith)

theorem roundHalfAway_nonpos {x : ℚ} (h : x ≤ 0) : roundHalfAway x ≤ 0 := by
  rcases h.lt_or_eq with h | rfl
  · rw [roundHalfAway_of_neg h]
    exact neg_nonpos.mpr (Int.floor_nonneg.mpr (by linarith))
  · rw [roundHalfAway_of_nonneg le_rfl]
    norm_num

@[simp] theorem roundHalfAway_intCast (n : ℤ) : roundHalfAway n = n := by
  have hfloor : ∀ m : ℤ, ⌊(m : ℚ) + 1 / 2⌋ = m := by
    intro m
    rw [Int.floor_intCast_add, show ⌊(1 / 2 : ℚ)⌋ = 0 from by norm_num, add_zero]
  unfold roundHalfAway
  split
  · exact hfloor n
  · rw [← Int.cast_neg, hfloor, neg_neg]

@[simp] theorem roundHalfAway_natCast (n : ℕ) : roundHalfAway n = n := by
  exact_mod_cast roundHalfAway_intCast n

/-- The two ways to round a nonnegative value differ at the halves. -/
theorem floor_add_half_eq_ceil_sub_half_iff (x : ℚ) : ⌊x + 1 / 2⌋ = ⌈x - 1 / 2⌉ ↔ ¬ Half x := by
  have hx := Int.floor_add_fract x
  have h0 := Int.fract_nonneg x
  have h1 := Int.fract_lt_one x
  have hup : ⌊x + 1 / 2⌋ = ⌊x⌋ + ⌊Int.fract x + 1 / 2⌋ := by
    rw [← Int.floor_intCast_add, ← add_assoc, hx]
  have hdown : ⌈x - 1 / 2⌉ = ⌊x⌋ + ⌈Int.fract x - 1 / 2⌉ := by
    rw [← Int.ceil_intCast_add, ← add_sub_assoc, hx]
  rw [hup, hdown, add_right_inj, Half]
  rcases lt_trichotomy (Int.fract x) (1 / 2) with hlt | heq | hgt
  · have hf : ⌊Int.fract x + 1 / 2⌋ = 0 := Int.floor_eq_zero_iff.mpr ⟨by linarith, by linarith⟩
    have hc : ⌈Int.fract x - 1 / 2⌉ = 0 := Int.ceil_eq_zero_iff.mpr ⟨by linarith, by linarith⟩
    simp only [hf, hc, hlt.ne, not_false_eq_true]
  · rw [heq]
    norm_num
  · have hf : ⌊Int.fract x + 1 / 2⌋ = 1 := by
      rw [Int.floor_eq_iff]
      constructor
      · push_cast
        linarith
      · push_cast
        linarith
    have hc : ⌈Int.fract x - 1 / 2⌉ = 1 := by
      rw [Int.ceil_eq_iff]
      constructor
      · push_cast
        linarith
      · push_cast
        linarith
    simp only [hf, hc, hgt.ne', not_false_eq_true]

/-- **The parts of a whole amount** `t` add up to it after rounding, unless they are halves and
nonnegative. -/
theorem roundHalfAway_add_sub_iff {x : ℚ} (hx : 0 ≤ x) (t : ℤ) :
    roundHalfAway x + roundHalfAway (t - x) = t ↔ ¬ (Half x ∧ x ≤ t) := by
  rw [roundHalfAway_of_nonneg hx]
  by_cases ht : x ≤ t
  · have hrest : roundHalfAway (t - x) = t - ⌈x - 1 / 2⌉ := by
      rw [roundHalfAway_of_nonneg (by linarith), show (t : ℚ) - x + 1 / 2 = t + -(x - 1 / 2) by ring,
        Int.floor_intCast_add, Int.floor_neg]
      ring
    rw [hrest]
    simp only [ht, and_true]
    rw [← floor_add_half_eq_ceil_sub_half_iff]
    omega
  · have hrest : roundHalfAway (t - x) = t - ⌊x + 1 / 2⌋ := by
      rw [roundHalfAway_of_neg (by linarith), show -((t : ℚ) - x) + 1 / 2 = x + 1 / 2 - t by ring,
        Int.floor_sub_intCast]
      ring
    rw [hrest]
    simp [ht]

/-! ### Nonnegative values -/

/-- What is stored of a nonnegative value. -/
def roundNat (x : ℚ≥0) : ℕ := (roundHalfAway x).toNat

@[simp] theorem roundNat_natCast (n : ℕ) : roundNat n = n := by
  rw [roundNat, NNRat.cast_natCast, roundHalfAway_natCast, Int.toNat_natCast]

/-- The value is a whole number of units. -/
def Whole (x : ℚ≥0) : Prop := ∃ n : ℕ, x = n

instance (x : ℚ≥0) : Decidable (Whole x) :=
  decidable_of_iff (x = ⌊x⌋₊)
    ⟨fun h => ⟨_, h⟩, by rintro ⟨n, rfl⟩; rw [Nat.floor_natCast]⟩

theorem whole_natCast (n : ℕ) : Whole n := ⟨n, rfl⟩

theorem Whole.add {x y : ℚ≥0} (hx : Whole x) (hy : Whole y) : Whole (x + y) := by
  obtain ⟨n, rfl⟩ := hx
  obtain ⟨m, rfl⟩ := hy
  exact ⟨n + m, (Nat.cast_add n m).symm⟩

theorem Whole.of_add {x y : ℚ≥0} (hx : Whole x) (h : Whole (x + y)) : Whole y := by
  obtain ⟨n, rfl⟩ := hx
  obtain ⟨m, hm⟩ := h
  have hle : n ≤ m := Nat.cast_le.mp (hm ▸ le_self_add)
  refine ⟨m - n, add_left_cancel (a := (n : ℚ≥0)) ?_⟩
  rw [hm, ← Nat.cast_add, Nat.add_sub_cancel' hle]

theorem Whole.roundNat {x : ℚ≥0} (h : Whole x) : (roundNat x : ℚ≥0) = x := by
  obtain ⟨n, rfl⟩ := h
  rw [roundNat_natCast]

end Rounding
