import Mathlib.Data.List.Basic

/-! # Fields of a line, by positions

The scripting language of RouterOS has no split: a script looks for separators with `:find` and cuts
the fields out with `:pick`, by positions in the whole line.  `find c start cs` is the first position
of `c` from `start` on, and `pick a b cs` what stands between two positions.

Whether `:find` looks at its start position itself or begins behind it is a property of the router; the
scripts here pass it on as the number `skip` of positions left out.  `fields` finds a number of
separators and cuts the line at them.  `fields_eq_some_iff` says exactly for which texts between the
separators this is the inverse of joining them. -/

namespace RouterOsText

variable {α : Type}

/-- `:pick`: the text from position `a` up to position `b`. -/
def pick (a b : ℕ) (cs : List α) : List α := (cs.take b).drop a

theorem pick_add (k b : ℕ) (cs : List α) : pick k (k + b) cs = (cs.drop k).take b := by
  unfold pick
  rw [List.drop_take]
  congr 1
  omega

theorem pick_length (k : ℕ) (cs : List α) : pick k cs.length cs = cs.drop k := by
  unfold pick
  rw [List.take_length]

theorem mem_of_mem_pick {x : α} {a b : ℕ} {cs : List α} (h : x ∈ pick a b cs) : x ∈ cs :=
  List.mem_of_mem_take (List.mem_of_mem_drop h)

def joined (c : α) (fs : List (List α)) (last : List α) : List α :=
  fs.foldr (fun f rest => f ++ c :: rest) last

theorem intercalate_eq_joined (c : α) (fs : List (List α)) (last : List α) :
    List.intercalate [c] (fs ++ [last]) = joined c fs last := by
  induction fs with
  | nil => simp [joined]
  | cons f fs ih =>
      rw [List.cons_append, List.intercalate_cons_of_ne_nil (by simp), ih]
      simp [joined]

variable [DecidableEq α]

/-- `:find`: the first position of `c` from `start` on. -/
def find (c : α) (start : ℕ) (cs : List α) : Option ℕ :=
  ((cs.drop start).findIdx? (fun x => decide (x = c))).map (fun i => start + i)

/-- `n` separators one after the other: the search for the next one begins `skip` positions behind the
one that was found. -/
def separators (c : α) (skip : ℕ) (cs : List α) : ℕ → ℕ → Option (List ℕ)
  | 0, _ => some []
  | n + 1, start => do
      let sep ← find c start cs
      let seps ← separators c skip cs n (sep + 1 + skip)
      pure (sep :: seps)

/-- The texts between the separators, the last one up to the end of the line. -/
def picks (cs : List α) : ℕ → List ℕ → List (List α)
  | a, [] => [pick a cs.length cs]
  | a, sep :: seps => pick a sep cs :: picks cs (sep + 1) seps

/-- The `n` fields in front of `n` separators and the rest of the line, if there are as many. -/
def fields (c : α) (skip n : ℕ) (cs : List α) : Option (List (List α)) :=
  (separators c skip cs n 0).map (picks cs 0)

/-! ### Finding and cutting -/

theorem findIdx?_eq_some_iff {c : α} {i : ℕ} {cs : List α} :
    cs.findIdx? (fun x => decide (x = c)) = some i ↔
      ∃ a b, cs = a ++ c :: b ∧ a.length = i ∧ c ∉ a := by
  induction cs generalizing i with
  | nil => simp
  | cons x cs ih =>
      rw [List.findIdx?_cons]
      by_cases hx : x = c
      · simp only [hx, decide_true, ite_true, Option.some.injEq]
        constructor
        · intro h
          exact ⟨[], cs, rfl, h, List.not_mem_nil⟩
        · rintro ⟨a, b, heq, hlen, hnot⟩
          cases a with
          | nil => exact hlen
          | cons y a =>
              obtain ⟨rfl, -⟩ := List.cons.inj heq
              exact absurd List.mem_cons_self hnot
      · simp only [hx, decide_false, Bool.false_eq_true, ite_false, Option.map_eq_some_iff]
        constructor
        · rintro ⟨j, hj, rfl⟩
          obtain ⟨a, b, rfl, hlen, hnot⟩ := ih.mp hj
          refine ⟨x :: a, b, rfl, by simp [hlen], ?_⟩
          rw [List.mem_cons, not_or]
          exact ⟨fun h => hx h.symm, hnot⟩
        · rintro ⟨a, b, heq, hlen, hnot⟩
          cases a with
          | nil => exact absurd (List.cons.inj heq).1 hx
          | cons y a =>
              obtain ⟨rfl, rfl⟩ := List.cons.inj heq
              rw [List.mem_cons, not_or] at hnot
              exact ⟨a.length, ih.mpr ⟨a, b, rfl, rfl, hnot.2⟩, hlen⟩

/-- **Spec of `:find`**: the position of the first separator that is not in front of the start. -/
theorem find_eq_some_iff {c : α} {start i : ℕ} {cs : List α} :
    find c start cs = some i ↔
      ∃ a b, cs = a ++ c :: b ∧ a.length = i ∧ start ≤ i ∧ c ∉ a.drop start := by
  unfold find
  rw [Option.map_eq_some_iff]
  constructor
  · rintro ⟨j, hj, rfl⟩
    obtain ⟨a, b, heq, hlen, hnot⟩ := findIdx?_eq_some_iff.mp hj
    have hstart : start ≤ cs.length := by
      by_contra hlt
      rw [List.drop_eq_nil_of_le (by omega)] at heq
      simp at heq
    have htake : (cs.take start).length = start := by rw [List.length_take]; omega
    refine ⟨cs.take start ++ a, b, ?_, ?_, by omega, ?_⟩
    · rw [List.append_assoc, ← heq, List.take_append_drop]
    · rw [List.length_append, htake, hlen]
    · rw [List.drop_append, htake, List.drop_eq_nil_of_le (by omega)]
      simpa using hnot
  · rintro ⟨a, b, rfl, hlen, hstart, hnot⟩
    refine ⟨i - start, findIdx?_eq_some_iff.mpr ⟨a.drop start, b, ?_, ?_, hnot⟩, by omega⟩
    · rw [List.drop_append_of_le_length (by omega)]
    · rw [List.length_drop]
      omega

theorem find_eq_none_iff {c : α} {cs : List α} : find c 0 cs = none ↔ c ∉ cs := by
  unfold find
  rw [Option.map_eq_none_iff, List.drop_zero, List.findIdx?_eq_none_iff]
  constructor
  · intro h hmem
    simpa using h c hmem
  · intro h x hx
    have hne : x ≠ c := fun heq => h (heq ▸ hx)
    simpa using hne

theorem find_add (c : α) (k start : ℕ) (cs : List α) :
    find c (k + start) cs = (find c start (cs.drop k)).map (fun i => k + i) := by
  unfold find
  rw [List.drop_drop, Option.map_map]
  congr 1
  funext i
  simp only [Function.comp_apply]
  omega

theorem mem_of_mem_fields {c : α} {skip n : ℕ} {cs : List α} {fs : List (List α)}
    (h : fields c skip n cs = some fs) {f : List α} (hf : f ∈ fs) {x : α} (hx : x ∈ f) :
    x ∈ cs := by
  obtain ⟨seps, -, rfl⟩ := Option.map_eq_some_iff.mp h
  have hall : ∀ (seps : List ℕ) (a : ℕ), ∀ f ∈ picks cs a seps, ∀ x ∈ f, x ∈ cs := by
    intro seps
    induction seps with
    | nil =>
        intro a f hf x hx
        rw [picks, List.mem_singleton] at hf
        exact mem_of_mem_pick (hf ▸ hx)
    | cons sep seps ih =>
        intro a f hf x hx
        rw [picks, List.mem_cons] at hf
        rcases hf with rfl | hf
        · exact mem_of_mem_pick hx
        · exact ih (sep + 1) f hf x hx
  exact hall seps 0 f hf x hx

/-! ### Cutting from the left -/

/-- The fields by recursion on the line: `start` positions are left out for the first one, `skip` for
the others. -/
def cut (c : α) (skip : ℕ) : ℕ → ℕ → List α → Option (List (List α))
  | 0, _, cs => some [cs]
  | n + 1, start, cs => do
      let i ← find c start cs
      let fs ← cut c skip n skip (cs.drop (i + 1))
      pure (cs.take i :: fs)

/-- Positions in the whole line and positions in what is left of it give the same fields. -/
theorem separators_picks_eq_cut (c : α) (skip : ℕ) (cs : List α) (n k start : ℕ) :
    (separators c skip cs n (k + start)).map (picks cs k) = cut c skip n start (cs.drop k) := by
  induction n generalizing k start with
  | zero => simp [separators, picks, cut, pick_length]
  | succ n ih =>
      rw [separators, cut, find_add]
      cases hfind : find c start (cs.drop k) with
      | none => rfl
      | some i =>
          have hrest := ih (k + i + 1) skip
          simp only [Option.map_some, Option.bind_eq_bind, Option.bind_some, List.drop_drop] at hrest ⊢
          rw [show k + (i + 1) = k + i + 1 by omega, ← hrest]
          cases separators c skip cs n (k + i + 1 + skip) with
          | none => rfl
          | some seps => simp [picks, pick_add]

theorem fields_eq_cut (c : α) (skip n : ℕ) (cs : List α) : fields c skip n cs = cut c skip n 0 cs := by
  have h := separators_picks_eq_cut c skip cs n 0 0
  simpa [fields] using h

/-- One field is cut off exactly at its end when no separator is found in it. -/
theorem cut_cons_iff {c : α} {skip n start : ℕ} {f rest : List α} {gs : List (List α)} :
    cut c skip (n + 1) start (f ++ c :: rest) = some (f :: gs) ↔
      (start ≤ f.length ∧ c ∉ f.drop start) ∧ cut c skip n skip rest = some gs := by
  have hdrop : (f ++ c :: rest).drop (f.length + 1) = rest := by simp
  have htake : (f ++ c :: rest).take f.length = f := by simp
  rw [cut]
  constructor
  · intro h
    obtain ⟨i, hi, h⟩ := Option.bind_eq_some_iff.mp h
    obtain ⟨fs, hfs, h⟩ := Option.bind_eq_some_iff.mp h
    obtain ⟨hhead, rfl⟩ := List.cons.inj (Option.some.inj h)
    obtain ⟨a, b, heq, hlen, hstart, hnot⟩ := find_eq_some_iff.mp hi
    -- the field that is cut off is the text in front of the separator
    have ha : a = f := by
      rw [← hhead, heq, ← hlen]
      simp
    subst ha
    rw [← hlen, hdrop] at hfs
    exact ⟨⟨hlen ▸ hstart, hnot⟩, hfs⟩
  · rintro ⟨⟨hstart, hnot⟩, hrest⟩
    have hfind : find c start (f ++ c :: rest) = some f.length :=
      find_eq_some_iff.mpr ⟨f, rest, rfl, rfl, hstart, hnot⟩
    rw [hfind, Option.bind_eq_bind, Option.bind_some, hdrop, hrest]
    simp [htake]

theorem cut_joined_iff {c : α} {skip : ℕ} {fs : List (List α)} {last : List α} (start : ℕ) :
    cut c skip fs.length start (joined c fs last) = some (fs ++ [last]) ↔
      ∀ f ∈ fs.head?, (start ≤ f.length ∧ c ∉ f.drop start) ∧
        ∀ g ∈ fs.tail, skip ≤ g.length ∧ c ∉ g.drop skip := by
  induction fs generalizing start with
  | nil => simp [cut, joined]
  | cons f fs ih =>
      have hstep : cut c skip (f :: fs).length start (joined c (f :: fs) last) =
          some (f :: fs ++ [last]) ↔ (start ≤ f.length ∧ c ∉ f.drop start) ∧
            cut c skip fs.length skip (joined c fs last) = some (fs ++ [last]) := cut_cons_iff
      rw [hstep, ih]
      simp only [List.head?_cons, Option.mem_def, Option.some.injEq, forall_eq', List.tail_cons]
      refine and_congr Iff.rfl ?_
      cases fs with
      | nil => simp
      | cons g fs => simp

/-- **Fields are the inverse of joining** exactly when no separator is found in one of them: none in
the first, and none behind the positions that the search leaves out in the others, which are at
least as long. -/
theorem fields_eq_some_iff {c : α} {skip : ℕ} {f : List α} {fs : List (List α)} {last : List α} :
    fields c skip (fs.length + 1) (joined c (f :: fs) last) = some (f :: fs ++ [last]) ↔
      c ∉ f ∧ ∀ g ∈ fs, skip ≤ g.length ∧ c ∉ g.drop skip := by
  have h : cut c skip (f :: fs).length 0 (joined c (f :: fs) last) = some (f :: fs ++ [last]) ↔ _ :=
    cut_joined_iff 0
  rw [fields_eq_cut]
  simpa using h

end RouterOsText
