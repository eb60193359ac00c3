import IspBilling.Numeral
import IspBilling.PythonText

/-! # Numbers with units

A quantity as a run of numerals, each in front of the character of its unit (`written`), and two
ways to read it.  `scan` goes over the characters once and adds up the numerals, each with the weight
of the unit behind it.  `search` looks for one unit: the first numeral with that unit behind it.

Both give the parts back: `scan_written` the weighted sum, `search_written` the part of a unit, if
there is one.  Parts that are zero may be left out (`dropZeros`), which changes neither. -/

namespace UnitNotation

open Numeral PythonText

/-! ### Writing -/

/-- The parts of a quantity, as numerals with their units. -/
def written (parts : List (ℕ × Char)) : List Char :=
  parts.flatMap fun p => Nat.toDigits 10 p.1 ++ [p.2]

/-- The parts without those that are zero; a quantity without other parts is zero of the unit
`last`. -/
def dropZeros (last : Char) (parts : List (ℕ × Char)) : List (ℕ × Char) :=
  let rest := parts.filter fun p => decide (0 < p.1)
  if rest = [] then [(0, last)] else rest

/-- The sum of the parts, by the weights of their units. -/
def total (weight : Char → ℕ) : List (ℕ × Char) → ℕ
  | [] => 0
  | p :: parts => p.1 * weight p.2 + total weight parts

/-- The part of a unit, or zero. -/
def valueOf (unit : Char) (parts : List (ℕ × Char)) : ℕ :=
  ((parts.find? fun p => decide (p.2 = unit)).map Prod.fst).getD 0

theorem written_cons (n : ℕ) (unit : Char) (parts : List (ℕ × Char)) :
    written ((n, unit) :: parts) = Nat.toDigits 10 n ++ unit :: written parts := by
  rw [written, List.flatMap_cons, List.append_assoc]
  rfl

theorem of_mem_written {parts : List (ℕ × Char)} {c : Char} (h : c ∈ written parts) :
    c.isDigit = true ∨ ∃ p ∈ parts, c = p.2 := by
  obtain ⟨p, hp, hc⟩ := List.mem_flatMap.mp h
  rcases List.mem_append.mp hc with hdigit | hunit
  · exact .inl (isDigit_of_mem_toDigits c hdigit)
  · exact .inr ⟨p, hp, List.mem_singleton.mp hunit⟩

/-- A numeral with its unit. -/
def printedPart (p : ℕ × Char) : String := toString p.1 ++ String.singleton p.2

theorem join_printedPart (parts : List (ℕ × Char)) :
    String.join (parts.map printedPart) = String.ofList (written parts) := by
  apply String.toList_injective
  induction parts with
  | nil => simp [written]
  | cons p parts ih =>
      rw [String.toList_ofList] at ih ⊢
      rw [List.map_cons, String.join_cons, String.toList_append, ih, written_cons]
      simp [printedPart]

theorem written_ne_nil {parts : List (ℕ × Char)} (h : parts ≠ []) : written parts ≠ [] := by
  cases parts with
  | nil => exact absurd rfl h
  | cons p parts =>
      rw [written_cons]
      exact List.append_ne_nil_of_right_ne_nil _ (List.cons_ne_nil _ _)

theorem valueOf_cons (n : ℕ) (v unit : Char) (parts : List (ℕ × Char)) :
    valueOf unit ((n, v) :: parts) = if v = unit then n else valueOf unit parts := by
  unfold valueOf
  by_cases hv : v = unit
  · simp [hv]
  · simp [hv]

theorem valueOf_eq_zero {unit : Char} {parts : List (ℕ × Char)}
    (h : unit ∉ parts.map Prod.snd) : valueOf unit parts = 0 := by
  induction parts with
  | nil => rfl
  | cons p parts ih =>
      rw [List.map_cons, List.mem_cons, not_or] at h
      rw [valueOf_cons, if_neg (fun e => h.1 e.symm), ih h.2]

theorem total_filter (weight : Char → ℕ) (parts : List (ℕ × Char)) :
    total weight (parts.filter fun p => decide (0 < p.1)) = total weight parts := by
  induction parts with
  | nil => rfl
  | cons p parts ih =>
      by_cases hp : 0 < p.1
      · rw [List.filter_cons_of_pos (by simpa using hp), total, total, ih]
      · have hzero : p.1 = 0 := by omega
        rw [List.filter_cons_of_neg (by simpa using hzero), total, ih, hzero, Nat.zero_mul,
          Nat.zero_add]

theorem valueOf_filter (unit : Char) {parts : List (ℕ × Char)}
    (h : (parts.map Prod.snd).Nodup) :
    valueOf unit (parts.filter fun p => decide (0 < p.1)) = valueOf unit parts := by
  induction parts with
  | nil => rfl
  | cons p parts ih =>
      obtain ⟨n, v⟩ := p
      rw [List.map_cons, List.nodup_cons] at h
      by_cases hn : 0 < n
      · rw [List.filter_cons_of_pos (by simpa using hn), valueOf_cons, valueOf_cons, ih h.2]
      · have hzero : n = 0 := by omega
        rw [List.filter_cons_of_neg (by simpa using hzero), valueOf_cons, ih h.2, hzero]
        by_cases hv : v = unit
        · -- the unit does not come again
          rw [if_pos hv, valueOf_eq_zero (hv ▸ h.1)]
        · rw [if_neg hv]

theorem dropZeros_cases (last : Char) (parts : List (ℕ × Char)) :
    ((parts.filter fun p => decide (0 < p.1)) = [] ∧ dropZeros last parts = [(0, last)]) ∨
      dropZeros last parts = parts.filter fun p => decide (0 < p.1) := by
  unfold dropZeros
  by_cases h : (parts.filter fun p => decide (0 < p.1)) = []
  · exact .inl ⟨h, if_pos h⟩
  · exact .inr (if_neg h)

/-- The last unit is printed when it is not zero, and when nothing else is. -/
theorem dropZeros_append_last (parts : List (ℕ × Char)) (n : ℕ) (last : Char) :
    dropZeros last (parts ++ [(n, last)]) =
      if 0 < n ∨ (parts.filter fun p => decide (0 < p.1)) = [] then
        (parts.filter fun p => decide (0 < p.1)) ++ [(n, last)]
      else parts.filter fun p => decide (0 < p.1) := by
  unfold dropZeros
  rw [List.filter_append]
  by_cases hn : 0 < n
  · have hlast : ([(n, last)].filter fun p => decide (0 < p.1)) = [(n, last)] :=
      List.filter_cons_of_pos (by simpa using hn)
    rw [hlast, if_pos (c := _ ∨ _) (.inl hn)]
    exact if_neg (List.append_ne_nil_of_right_ne_nil _ (List.cons_ne_nil _ _))
  · have hzero : n = 0 := by omega
    have hlast : ([(n, last)].filter fun p => decide (0 < p.1)) = [] :=
      List.filter_cons_of_neg (by simpa using hzero)
    rw [hlast, List.append_nil]
    by_cases hrest : (parts.filter fun p => decide (0 < p.1)) = []
    · rw [if_pos hrest, if_pos (c := _ ∨ _) (.inr hrest), hrest, hzero]
      rfl
    · rw [if_neg hrest, if_neg (not_or.mpr ⟨hn, hrest⟩)]

theorem dropZeros_ne_nil (last : Char) (parts : List (ℕ × Char)) : dropZeros last parts ≠ [] := by
  unfold dropZeros
  by_cases h : (parts.filter fun p => decide (0 < p.1)) = []
  · rw [if_pos h]
    exact List.cons_ne_nil _ _
  · rw [if_neg h]
    exact h

theorem total_dropZeros (weight : Char → ℕ) (last : Char) (parts : List (ℕ × Char)) :
    total weight (dropZeros last parts) = total weight parts := by
  rw [← total_filter weight parts]
  rcases dropZeros_cases last parts with ⟨hnil, h⟩ | h
  · rw [h, hnil]
    simp [total]
  · rw [h]

theorem valueOf_dropZeros (unit last : Char) {parts : List (ℕ × Char)}
    (hnodup : (parts.map Prod.snd).Nodup) :
    valueOf unit (dropZeros last parts) = valueOf unit parts := by
  rw [← valueOf_filter unit hnodup]
  rcases dropZeros_cases last parts with ⟨hnil, h⟩ | h
  · rw [h, hnil, valueOf_cons]
    by_cases hlast : last = unit
    · rw [if_pos hlast]
      rfl
    · rw [if_neg hlast]
  · rw [h]

theorem unit_of_mem_dropZeros {last : Char} {parts : List (ℕ × Char)} {p : ℕ × Char}
    (h : p ∈ dropZeros last parts) : p.2 = last ∨ p ∈ parts := by
  rcases dropZeros_cases last parts with ⟨-, hdrop⟩ | hdrop
  · rw [hdrop, List.mem_singleton] at h
    exact .inl (by rw [h])
  · rw [hdrop] at h
    exact .inr (List.mem_of_mem_filter h)

/-! ### Scanning -/

/-- The scanner, with the sum so far and the digits since the last unit.  A unit without digits in
front, and a character that is no unit, are passed over. -/
def scan (weight : Char → Option ℕ) : ℕ → List Char → List Char → ℕ
  | sum, _, [] => sum
  | sum, current, c :: cs =>
      if c.isDigit then scan weight sum (current ++ [c]) cs
      else
        match weight c with
        | some w =>
            if current ≠ [] then scan weight (sum + Nat.ofDigitChars 10 current 0 * w) [] cs
            else scan weight sum current cs
        | none => scan weight sum current cs

theorem scan_digits (weight : Char → Option ℕ) (sum : ℕ) {ds : List Char}
    (hds : ∀ c ∈ ds, c.isDigit = true) (current cs : List Char) :
    scan weight sum current (ds ++ cs) = scan weight sum (current ++ ds) cs := by
  induction ds generalizing current with
  | nil => rw [List.nil_append, List.append_nil]
  | cons d ds ih =>
      rw [List.cons_append, scan, if_pos (hds d List.mem_cons_self),
        ih (fun c hc => hds c (List.mem_cons_of_mem d hc)), List.append_assoc]
      rfl

/-- **The scanner finds the sum.** -/
theorem scan_written {weight : Char → Option ℕ} {parts : List (ℕ × Char)}
    (hunits : ∀ p ∈ parts, p.2.isDigit = false ∧ (weight p.2).isSome) (sum : ℕ) :
    scan weight sum [] (written parts) = sum + total (fun u => (weight u).getD 0) parts := by
  induction parts generalizing sum with
  | nil => rfl
  | cons p parts ih =>
      obtain ⟨n, unit⟩ := p
      obtain ⟨hdigit, hsome⟩ := hunits (n, unit) List.mem_cons_self
      obtain ⟨w, hw⟩ := Option.isSome_iff_exists.mp hsome
      have hrest := ih (fun q hq => hunits q (List.mem_cons_of_mem _ hq))
      have hstep : scan weight sum (Nat.toDigits 10 n) (unit :: written parts) =
          scan weight (sum + n * w) [] (written parts) := by
        rw [scan, if_neg (by simpa using hdigit)]
        simp only [hw]
        rw [if_pos Nat.toDigits_ne_nil, Nat.ofDigitChars_ten_toDigits]
      rw [written_cons, scan_digits weight sum isDigit_of_mem_toDigits, List.nil_append, hstep, hrest,
        total]
      simp only [hw, Option.getD_some]
      omega

/-! ### Searching -/

/-- The first numeral with the unit behind it: a search for `(\d+)u`. -/
def search (unit : Char) : List Char → Option ℕ
  | [] => none
  | c :: cs =>
      let digits := (c :: cs).takeWhile Char.isDigit
      if digits ≠ [] ∧ ((c :: cs).dropWhile Char.isDigit).head? = some unit then
        some (Nat.ofDigitChars 10 digits 0)
      else search unit cs

theorem digit_head {v : Char} (hv : v.isDigit = false) (rest : List Char) :
    ∀ c ∈ (v :: rest).head?, c.isDigit = false := by
  intro c hc
  obtain rfl := Option.some.inj hc
  exact hv

theorem search_unit {ds : List Char} (hne : ds ≠ []) (hds : ∀ c ∈ ds, c.isDigit = true)
    {unit : Char} (hunit : unit.isDigit = false) (rest : List Char) :
    search unit (ds ++ unit :: rest) = some (Nat.ofDigitChars 10 ds 0) := by
  cases ds with
  | nil => exact absurd rfl hne
  | cons d ds =>
      rw [List.cons_append, search, ← List.cons_append]
      simp only [takeWhile_run hds (digit_head hunit rest), dropWhile_run hds (digit_head hunit rest)]
      exact if_pos ⟨hne, rfl⟩

theorem search_other {ds : List Char} (hds : ∀ c ∈ ds, c.isDigit = true) {unit v : Char}
    (hv : v.isDigit = false) (hne : v ≠ unit) (rest : List Char) :
    search unit (ds ++ v :: rest) = search unit rest := by
  induction ds with
  | nil =>
      rw [List.nil_append, search]
      simp [hv]
  | cons d ds ih =>
      rw [List.cons_append, search, ← List.cons_append]
      simp only [takeWhile_run hds (digit_head hv rest), dropWhile_run hds (digit_head hv rest)]
      rw [if_neg (fun h => hne (Option.some.inj h.2)),
        ih (fun c hc => hds c (List.mem_cons_of_mem d hc))]

theorem search_eq_none {unit : Char} {cs : List Char} (h : unit ∉ cs) : search unit cs = none := by
  induction cs with
  | nil => rfl
  | cons c cs ih =>
      have hhead : ((c :: cs).dropWhile Char.isDigit).head? ≠ some unit := by
        intro hhead
        exact h ((List.dropWhile_sublist _).subset (List.mem_of_mem_head? hhead))
      rw [search, if_neg (fun hfound => hhead hfound.2), ih (fun hmem => h (List.mem_cons_of_mem c hmem))]

/-- **The search finds the part of its unit**, and where there is none goes on behind the parts. -/
theorem search_written {unit : Char} (hunit : unit.isDigit = false) {parts : List (ℕ × Char)}
    (hunits : ∀ p ∈ parts, p.2.isDigit = false) {rest : List Char} (hrest : unit ∉ rest) :
    (search unit (written parts ++ rest)).getD 0 = valueOf unit parts := by
  induction parts with
  | nil =>
      rw [written, List.flatMap_nil, List.nil_append, search_eq_none hrest]
      rfl
  | cons p parts ih =>
      obtain ⟨n, v⟩ := p
      have hv := hunits (n, v) List.mem_cons_self
      rw [written_cons, List.append_assoc, List.cons_append, valueOf_cons]
      by_cases hvu : v = unit
      · rw [hvu, if_pos rfl, search_unit Nat.toDigits_ne_nil isDigit_of_mem_toDigits hunit,
          Nat.ofDigitChars_ten_toDigits]
        rfl
      · rw [if_neg hvu, search_other isDigit_of_mem_toDigits hv hvu,
          ih (fun q hq => hunits q (List.mem_cons_of_mem _ hq))]

end UnitNotation
