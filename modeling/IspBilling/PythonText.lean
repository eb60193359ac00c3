import Mathlib.Data.List.DropRight
import Mathlib.Data.List.TakeWhile

/-! # Python texts

The operations of Python's `str` that a scanner of command lines uses, over the characters of a text:
blanks, `strip`, the split at the first separator, and the split and the join of a path.

The lemmas say what an operation finds in a text whose parts are known: a text with no blank at its
ends is its own `strip` (`strip_eq_self`), a run of characters ends where the next part begins
(`takeWhile_run`, `dropWhile_run`), and so the first word of a line ends at the first separator
(`splitFirst_append`). -/

namespace PythonText

/-! ### Blanks -/

/-- `c.isspace()`, which is also `\s` in a regular expression. -/
def isSpace (c : Char) : Bool :=
  decide (c.toNat ∈ [0x85, 0xa0, 0x1680, 0x2028, 0x2029, 0x202f, 0x205f, 0x3000]) ||
    decide (9 ≤ c.toNat ∧ c.toNat ≤ 13) || decide (28 ≤ c.toNat ∧ c.toNat ≤ 32) ||
    decide (0x2000 ≤ c.toNat ∧ c.toNat ≤ 0x200a)

/-- The text has no blank. -/
def noSpace (cs : List Char) : Bool := cs.all (fun c => !isSpace c)

theorem isSpace_of_noSpace {cs : List Char} (h : noSpace cs = true) :
    ∀ c ∈ cs, isSpace c = false := by
  intro c hc
  simpa using List.all_eq_true.mp h c hc

/-- `cs.strip()`. -/
def strip (cs : List Char) : List Char := (cs.dropWhile isSpace).rdropWhile isSpace

/-- `cs.rstrip(c)`. -/
def rstrip (c : Char) (cs : List Char) : List Char := cs.rdropWhile (· == c)

theorem isSpace_of_isDigit {c : Char} (h : c.isDigit = true) : isSpace c = false := by
  simp only [Char.isDigit, Bool.and_eq_true, decide_eq_true_eq] at h
  have hle : 48 ≤ c.toNat ∧ c.toNat ≤ 57 := h
  simp only [isSpace, List.mem_cons, List.not_mem_nil, or_false, Bool.or_eq_false_iff,
    decide_eq_false_iff_not]
  omega

theorem strip_eq_self {cs : List Char} (hhead : ∀ c ∈ cs.head?, isSpace c = false)
    (hlast : ∀ c ∈ cs.getLast?, isSpace c = false) : strip cs = cs := by
  have hdrop : cs.dropWhile isSpace = cs := by
    cases cs with
    | nil => rfl
    | cons c cs => exact List.dropWhile_cons_of_neg (by simp [hhead c rfl])
  unfold strip
  rw [hdrop, List.rdropWhile_eq_self_iff]
  intro hne
  simp [hlast _ (List.getLast?_eq_getLast_of_ne_nil hne)]

theorem strip_append {b c : Char} (hb : isSpace b = false) (hc : isSpace c = false)
    (front rest : List Char) :
    ∃ rest', strip (b :: front ++ c :: rest) = b :: front ++ c :: rest' := by
  have hdrop : (b :: front ++ c :: rest).dropWhile isSpace = b :: front ++ c :: rest :=
    List.dropWhile_cons_of_neg (by simp [hb])
  unfold strip
  rw [hdrop]
  induction rest using List.reverseRecOn with
  | nil => exact ⟨[], List.rdropWhile_concat_neg isSpace (b :: front) c (by simp [hc])⟩
  | append_singleton rest d ih =>
      rw [← List.cons_append, ← List.append_assoc]
      by_cases hd : isSpace d = true
      · rw [List.rdropWhile_concat_pos isSpace _ d hd]
        exact ih (List.dropWhile_cons_of_neg (by simp [hb]))
      · exact ⟨rest ++ [d], by rw [List.rdropWhile_concat_neg isSpace _ d hd]; simp⟩

theorem strip_of_noSpace {cs : List Char} (h : ∀ c ∈ cs, isSpace c = false) : strip cs = cs :=
  strip_eq_self (fun c hc => h c (List.mem_of_mem_head? hc))
    (fun c hc => h c (List.mem_of_getLast? hc))

theorem strip_between {front last : List Char} (hfront : front ≠ []) (hlast : last ≠ [])
    (hfronts : ∀ c ∈ front, isSpace c = false) (hlasts : ∀ c ∈ last, isSpace c = false)
    (middle : List Char) : strip (front ++ (middle ++ last)) = front ++ (middle ++ last) := by
  apply strip_eq_self
  · intro c hc
    rw [List.head?_append_of_ne_nil _ hfront] at hc
    exact hfronts c (List.mem_of_mem_head? hc)
  · intro c hc
    rw [← List.append_assoc, List.getLast?_append_of_ne_nil _ hlast] at hc
    exact hlasts c (List.mem_of_getLast? hc)

theorem strip_cons {c : Char} (h : isSpace c = true) (cs : List Char) : strip (c :: cs) = strip cs := by
  unfold strip
  rw [List.dropWhile_cons_of_pos h]

theorem rstrip_eq_self {c : Char} {cs : List Char} (h : ∀ d ∈ cs.getLast?, d ≠ c) :
    rstrip c cs = cs := by
  unfold rstrip
  rw [List.rdropWhile_eq_self_iff]
  intro hne
  simpa using h _ (List.getLast?_eq_getLast_of_ne_nil hne)

/-! ### Splitting -/

section Runs

variable {p : Char → Bool} {run rest : List Char}

theorem takeWhile_run (hrun : ∀ c ∈ run, p c = true) (hrest : ∀ c ∈ rest.head?, p c = false) :
    (run ++ rest).takeWhile p = run := by
  rw [List.takeWhile_append_of_pos hrun]
  cases rest with
  | nil => simp
  | cons c rest =>
      have hc : p c = false := hrest c rfl
      simp [hc]

theorem dropWhile_run (hrun : ∀ c ∈ run, p c = true) (hrest : ∀ c ∈ rest.head?, p c = false) :
    (run ++ rest).dropWhile p = rest := by
  rw [List.dropWhile_append_of_pos hrun]
  cases rest with
  | nil => rfl
  | cons c rest =>
      have hc : p c = false := hrest c rfl
      simp [hc]

end Runs

/-- `cs.split(sep, 1)`: what stands before the first separator, and what stands after it, if there
is one. -/
def splitFirst (sep : Char) (cs : List Char) : List Char × Option (List Char) :=
  match cs.dropWhile (· != sep) with
  | [] => (cs, none)
  | _ :: rest => (cs.takeWhile (· != sep), some rest)

theorem bne_of_notMem {sep : Char} {cs : List Char} (h : sep ∉ cs) :
    ∀ c ∈ cs, (c != sep) = true := by
  intro c hc
  rw [bne_iff_ne]
  rintro rfl
  exact h hc

theorem splitFirst_append {sep : Char} {cs : List Char} (h : sep ∉ cs) (rest : List Char) :
    splitFirst sep (cs ++ sep :: rest) = (cs, some rest) := by
  unfold splitFirst
  rw [dropWhile_run (bne_of_notMem h) (by simp), takeWhile_run (bne_of_notMem h) (by simp)]

theorem splitFirst_of_notMem {sep : Char} {cs : List Char} (h : sep ∉ cs) :
    splitFirst sep cs = (cs, none) := by
  unfold splitFirst
  rw [List.dropWhile_eq_nil_iff.mpr (bne_of_notMem h)]

/-- `cs.replace(c, new)`, for a single character `c`. -/
def replace (c : Char) (new cs : List Char) : List Char :=
  cs.flatMap fun d => if d = c then new else [d]

theorem replace_singleton (c d : Char) (cs : List Char) :
    replace c [d] cs = cs.map fun x => if x = c then d else x := by
  induction cs with
  | nil => rfl
  | cons x cs ih =>
      simp only [replace, List.flatMap_cons, List.map_cons] at ih ⊢
      rw [ih]
      by_cases hx : x = c <;> simp [hx]

theorem replace_append (c : Char) (new front rest : List Char) :
    replace c new (front ++ rest) = replace c new front ++ replace c new rest :=
  List.flatMap_append

theorem replace_of_notMem {c : Char} {cs : List Char} (h : c ∉ cs) (new : List Char) :
    replace c new cs = cs := by
  induction cs with
  | nil => rfl
  | cons x cs ih =>
      rw [List.mem_cons, not_or] at h
      have hx : ¬ x = c := fun e => h.1 e.symm
      have hrest := ih h.2
      simp only [replace, List.flatMap_cons, if_neg hx] at hrest ⊢
      rw [hrest, List.singleton_append]

theorem replace_nil_replicate (c : Char) (n : ℕ) : replace c [] (List.replicate n c) = [] := by
  simp [replace]

/-- `sep.join(parts)`. -/
def join (sep : Char) (parts : List (List Char)) : List Char := List.intercalate [sep] parts

/-- `s.split(sep)`. -/
def split (sep : Char) (s : String) : List String := (s.toList.splitOn sep).map String.ofList

end PythonText
