import Mathlib.Algebra.BigOperators.Group.List.Basic
import Mathlib.Data.List.GetD
import Mathlib.Data.List.Nodup
import Mathlib.Data.List.Sections
import Mathlib.Tactic.Ring

/-! # Voucher codes

`VoucherCode.generate_code` (`app/models/customer_portal.py`) draws a character for each place of a
pattern: `X` is alphanumeric, `N` a digit, `A` a letter, and any other character stands for itself.

`codesOf` lists what can come out (`mem_codesOf_iff`), each code once (`codesOf_nodup`), and
`length_codesOf` counts them. -/

namespace IspBilling

/-! ### Patterns -/

/-- `string.ascii_uppercase`. -/
def asciiUppercase : List Char := "ABCDEFGHIJKLMNOPQRSTUVWXYZ".toList

/-- `string.digits`. -/
def stringDigits : List Char := "0123456789".toList

/-- The characters that `secrets.choice` picks from for a character of the pattern. -/
def codeAlphabet (char : Char) : List Char :=
  if char = 'X' then asciiUppercase ++ stringDigits
  else if char = 'N' then stringDigits
  else if char = 'A' then asciiUppercase
  else [char]

/-- The characters of the pattern; without one, all are alphanumeric. -/
def codePlaces (formatPattern : String) (length : ℕ) : List Char :=
  if formatPattern = "" then List.replicate length 'X' else formatPattern.toList

/-- `secrets.choice`, when it draws `n`. -/
def choiceOf (chars : List Char) (n : ℕ) : Char := chars.getD (n % chars.length) 'X'

/-- `VoucherCode.generate_code`, with the draws for its characters. -/
def generateCode (formatPattern : String) (length : ℕ) (draw : ℕ → ℕ) : String :=
  String.ofList ((codePlaces formatPattern length).mapIdx fun i char => choiceOf (codeAlphabet char) (draw i))

/-- All codes of a pattern. -/
def codesOf (formatPattern : String) (length : ℕ) : List String :=
  ((codePlaces formatPattern length).map codeAlphabet).sections.map String.ofList

theorem codeAlphabet_ne_nil (char : Char) : codeAlphabet char ≠ [] := by
  unfold codeAlphabet
  split
  · decide
  · split
    · decide
    · split
      · decide
      · exact List.cons_ne_nil _ _

theorem choiceOf_mem {chars : List Char} (h : chars ≠ []) (n : ℕ) : choiceOf chars n ∈ chars := by
  have hpos : 0 < chars.length := List.length_pos_iff.mpr h
  have hlt : n % chars.length < chars.length := Nat.mod_lt n hpos
  rw [choiceOf, List.getD_eq_getElem _ _ hlt]
  exact List.getElem_mem hlt

theorem exists_choiceOf {chars : List Char} {c : Char} (h : c ∈ chars) : ∃ n, choiceOf chars n = c := by
  obtain ⟨n, hn, rfl⟩ := List.mem_iff_getElem.mp h
  refine ⟨n, ?_⟩
  rw [choiceOf, Nat.mod_eq_of_lt hn, List.getD_eq_getElem _ _ hn]

/-- **The codes of a pattern** are what the draws can give. -/
theorem mem_codesOf_iff {formatPattern : String} {length : ℕ} {code : String} :
    code ∈ codesOf formatPattern length ↔ ∃ draw, generateCode formatPattern length draw = code := by
  -- character by character
  have hplaces : ∀ (places chars : List Char),
      List.Forall₂ (· ∈ ·) chars (places.map codeAlphabet) ↔
        ∃ draw : ℕ → ℕ, (places.mapIdx fun i char => choiceOf (codeAlphabet char) (draw i)) = chars := by
    intro places
    induction places with
    | nil =>
        intro chars
        simp [eq_comm]
    | cons place places ih =>
        intro chars
        constructor
        · intro h
          cases h with
          | cons hfirst hrest =>
              obtain ⟨n, hn⟩ := exists_choiceOf hfirst
              obtain ⟨draw, hdraw⟩ := (ih _).mp hrest
              refine ⟨fun i => if i = 0 then n else draw (i - 1), ?_⟩
              rw [List.mapIdx_cons, ← hdraw, ← hn]
              simp
        · rintro ⟨draw, rfl⟩
          rw [List.mapIdx_cons, List.map_cons]
          exact .cons (choiceOf_mem (codeAlphabet_ne_nil place) _)
            ((ih _).mpr ⟨fun i => draw (i + 1), rfl⟩)
  unfold codesOf generateCode
  simp only [List.mem_map, List.mem_sections, hplaces]
  constructor
  · rintro ⟨chars, ⟨draw, rfl⟩, rfl⟩
    exact ⟨draw, rfl⟩
  · rintro ⟨draw, rfl⟩
    exact ⟨_, ⟨draw, rfl⟩, rfl⟩

theorem generateCode_mem (formatPattern : String) (length : ℕ) (draw : ℕ → ℕ) :
    generateCode formatPattern length draw ∈ codesOf formatPattern length :=
  mem_codesOf_iff.mpr ⟨draw, rfl⟩

/-! ### Counting -/

theorem nodup_sections {alphabets : List (List Char)} (h : ∀ chars ∈ alphabets, chars.Nodup) :
    alphabets.sections.Nodup ∧ alphabets.sections.length = (alphabets.map List.length).prod := by
  induction alphabets with
  | nil => simp [List.sections]
  | cons chars alphabets ih =>
      obtain ⟨hchars, halphabets⟩ := List.forall_mem_cons.mp h
      obtain ⟨hnodup, hlength⟩ := ih halphabets
      constructor
      · rw [List.sections, List.nodup_flatMap]
        constructor
        · intro rest _
          exact hchars.map fun a b hab => (List.cons.inj hab).1
        · -- the rest of the choice tells them apart
          refine hnodup.imp ?_
          intro rest rest' hne choice hchoice hchoice'
          obtain ⟨a, -, rfl⟩ := List.mem_map.mp hchoice
          obtain ⟨b, -, hb⟩ := List.mem_map.mp hchoice'
          exact hne (List.cons.inj hb).2.symm
      · simp [List.sections, hlength, mul_comm]

theorem codeAlphabet_nodup (char : Char) : (codeAlphabet char).Nodup := by
  unfold codeAlphabet
  split
  · decide
  · split
    · decide
    · split
      · decide
      · exact List.nodup_singleton _

theorem alphabets_nodup (places : List Char) : ∀ chars ∈ places.map codeAlphabet, chars.Nodup := by
  intro chars hchars
  obtain ⟨char, -, rfl⟩ := List.mem_map.mp hchars
  exact codeAlphabet_nodup char

theorem codesOf_nodup (formatPattern : String) (length : ℕ) : (codesOf formatPattern length).Nodup := by
  exact (nodup_sections (alphabets_nodup _)).1.map fun _ _ h => String.ofList_injective h

/-- **How many codes a pattern has.** -/
theorem length_codesOf (formatPattern : String) (length : ℕ) :
    (codesOf formatPattern length).length =
      36 ^ (codePlaces formatPattern length).count 'X' * 10 ^ (codePlaces formatPattern length).count 'N' *
        26 ^ (codePlaces formatPattern length).count 'A' := by
  have hsize : ∀ char, (codeAlphabet char).length =
      if char = 'X' then 36 else if char = 'N' then 10 else if char = 'A' then 26 else 1 := by
    intro char
    unfold codeAlphabet
    split
    · rfl
    · split
      · rfl
      · split <;> rfl
  rw [codesOf, List.length_map, (nodup_sections (alphabets_nodup _)).2]
  induction codePlaces formatPattern length with
  | nil => rfl
  | cons char places ih =>
      rw [List.map_cons, List.map_cons, List.prod_cons, ih, hsize]
      by_cases hx : char = 'X'
      · subst hx
        simp [pow_succ]
        ring
      · by_cases hn : char = 'N'
        · subst hn
          simp [pow_succ]
          ring
        · by_cases ha : char = 'A'
          · subst ha
            simp [pow_succ]
            ring
          · simp [hx, hn, ha]

end IspBilling
