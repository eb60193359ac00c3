import Mathlib.Data.List.Basic
import Mathlib.Order.Basic
import Mathlib.Tactic.IntervalCases

/-! # Decimal numerals padded with zeros

`padded w n` are the decimal digits of `n`, with zeros in front up to the width `w`.  A word
that ends in a padded numeral can be read in two ways only when the numbers have different
lengths: `append_padded_eq` says that the front of the shorter number then ends in the leading
digits of the longer one. -/

namespace Numeral

/-- The decimal digits of `n`, padded with zeros to width `w`. -/
def padded (w n : ℕ) : List Char :=
  List.replicate (w - (Nat.toDigits 10 n).length) '0' ++ Nat.toDigits 10 n

/-- The characters are a decimal numeral: digits, the first of them not zero. -/
def IsNumeral (d : List Char) : Prop := d ≠ [] ∧ d.head? ≠ some '0' ∧ ∀ c ∈ d, c.isDigit = true

instance : DecidablePred IsNumeral := fun d =>
  inferInstanceAs (Decidable (d ≠ [] ∧ d.head? ≠ some '0' ∧ ∀ c ∈ d, c.isDigit = true))

theorem isDigit_of_mem_toDigits {n : ℕ} : ∀ c ∈ Nat.toDigits 10 n, c.isDigit = true :=
  fun _ hc => Nat.isDigit_of_mem_toDigits (by decide) (by decide) hc

theorem isDigit_of_mem_padded {w n : ℕ} : ∀ c ∈ padded w n, c.isDigit = true := by
  intro c hc
  rcases List.mem_append.mp hc with hzero | hdigit
  · rw [List.eq_of_mem_replicate hzero]
    decide
  · exact isDigit_of_mem_toDigits c hdigit

theorem padded_ne_nil (w n : ℕ) : padded w n ≠ [] := by
  intro h
  exact Nat.toDigits_ne_nil (List.append_eq_nil_iff.mp h).2

theorem notMem_of_digits {cs : List Char} (h : ∀ c ∈ cs, c.isDigit = true) {s : Char}
    (hs : s.isDigit = false) : s ∉ cs := by
  intro hmem
  rw [h s hmem] at hs
  cases hs

theorem notMem_toDigits {s : Char} (hs : s.isDigit = false) (n : ℕ) : s ∉ Nat.toDigits 10 n :=
  notMem_of_digits isDigit_of_mem_toDigits hs

theorem toDigits_injective : Function.Injective (Nat.toDigits 10) := by
  intro m n h
  rw [← Nat.ofDigitChars_ten_toDigits (n := m), h, Nat.ofDigitChars_ten_toDigits]

theorem length_padded (w n : ℕ) : (padded w n).length = max w (Nat.toDigits 10 n).length := by
  rw [padded, List.length_append, List.length_replicate]
  omega

theorem ofDigitChars_padded (w n : ℕ) : Nat.ofDigitChars 10 (padded w n) 0 = n := by
  rw [padded, Nat.ofDigitChars_append, Nat.ofDigitChars_replicate_zero, Nat.mul_zero,
    Nat.ofDigitChars_ten_toDigits]

theorem padded_injective (w : ℕ) : Function.Injective (padded w) := by
  intro m n h
  rw [← ofDigitChars_padded w m, h, ofDigitChars_padded]

theorem length_toDigits_mono {m n : ℕ} (h : m ≤ n) :
    (Nat.toDigits 10 m).length ≤ (Nat.toDigits 10 n).length := by
  rw [Nat.length_toDigits_le_iff (by decide) Nat.length_toDigits_pos]
  exact lt_of_le_of_lt h ((Nat.length_toDigits_le_iff (by decide) Nat.length_toDigits_pos).mp le_rfl)

theorem length_padded_mono (w : ℕ) {m n : ℕ} (h : m ≤ n) :
    (padded w m).length ≤ (padded w n).length := by
  have hlen := length_toDigits_mono h
  rw [length_padded, length_padded]
  omega

theorem padded_of_le_length {w n : ℕ} (h : w ≤ (Nat.toDigits 10 n).length) :
    padded w n = Nat.toDigits 10 n := by
  rw [padded, Nat.sub_eq_zero_of_le h, List.replicate_zero, List.nil_append]

theorem head?_toDigits_ne_zero {n : ℕ} (h : 0 < n) : (Nat.toDigits 10 n).head? ≠ some '0' := by
  induction n using Nat.strongRecOn with
  | ind n ih =>
      by_cases hlt : n < 10
      · rw [Nat.toDigits_of_lt_base hlt]
        interval_cases n <;> decide
      · have hle : 10 ≤ n := Nat.le_of_not_lt hlt
        rw [Nat.toDigits_of_base_le (by decide) hle, List.head?_append_of_ne_nil _ Nat.toDigits_ne_nil]
        exact ih (n / 10) (by omega) (by omega)

theorem take_toDigits {w n : ℕ} (hw : 0 < w) (hn : 0 < n) :
    ∃ m, 0 < m ∧ m ≤ n ∧ (Nat.toDigits 10 n).take w = Nat.toDigits 10 m := by
  induction n using Nat.strongRecOn with
  | ind n ih =>
      by_cases hfits : (Nat.toDigits 10 n).length ≤ w
      · exact ⟨n, hn, le_rfl, List.take_of_length_le hfits⟩
      · have hle : 10 ≤ n := by
          by_contra hlt
          rw [Nat.toDigits_of_lt_base (by omega)] at hfits
          exact hfits hw
        -- the last digit is cut off
        have hdigits := Nat.toDigits_of_base_le (by decide) hle
        have hlen := congrArg List.length hdigits
        rw [List.length_append, List.length_singleton] at hlen
        obtain ⟨m, hm, hmn, htake⟩ := ih (n / 10) (by omega) (by omega)
        refine ⟨m, hm, by omega, ?_⟩
        rw [hdigits, List.take_append_of_le_length (by omega), htake]

theorem isNumeral_toDigits {n : ℕ} (h : 0 < n) : IsNumeral (Nat.toDigits 10 n) :=
  ⟨Nat.toDigits_ne_nil, head?_toDigits_ne_zero h, isDigit_of_mem_toDigits⟩

theorem IsNumeral.of_append {d e : List Char} (h : IsNumeral (d ++ e)) (hd : d ≠ []) :
    IsNumeral d := by
  refine ⟨hd, ?_, fun c hc => h.2.2 c (List.mem_append_left _ hc)⟩
  have hhead := h.2.1
  rwa [List.head?_append_of_ne_nil _ hd] at hhead

/-- **Two readings of one word**: if a word ends in the padded numerals of `m` and of `n > m`,
the rest of the first reading is the rest of the second one with a numeral behind it. -/
theorem append_padded_eq {w m n : ℕ} (hmn : m < n) {q p : List Char}
    (h : q ++ padded w m = p ++ padded w n) : ∃ d, IsNumeral d ∧ q = p ++ d := by
  have hlen := length_padded_mono w (Nat.le_of_lt hmn)
  rcases List.append_eq_append_iff.mp h with ⟨d, hp, hm⟩ | ⟨d, hq, hn⟩
  · -- the other way round the numerals would have the same length, and be equal
    have hd : d = [] := by
      have hsum := congrArg List.length hm
      rw [List.length_append] at hsum
      exact List.length_eq_zero_iff.mp (by omega)
    rw [hd, List.nil_append] at hm
    exact absurd (padded_injective w hm) (Nat.ne_of_lt hmn)
  · have hd : d ≠ [] := by
      rintro rfl
      rw [List.nil_append] at hn
      exact (Nat.ne_of_gt hmn) (padded_injective w hn)
    refine ⟨d, ?_, hq⟩
    have hwidth : w ≤ (Nat.toDigits 10 n).length := by
      have hsum := congrArg List.length hn
      have hpos := List.length_pos_iff.mpr hd
      rw [List.length_append, length_padded, length_padded] at hsum
      omega
    rw [padded_of_le_length hwidth] at hn
    have hnumeral := isNumeral_toDigits (Nat.zero_lt_of_lt hmn)
    rw [hn] at hnumeral
    exact hnumeral.of_append hd

end Numeral
