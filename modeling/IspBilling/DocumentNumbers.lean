import IspBilling.Numeral
import IspBilling.Runs
import IspBilling.Rows

/-! # The numbers of invoices and payments

An invoice gets the number `INV-YYYYMM-nnnn` and a payment `PAY-YYYYMM-nnnn`
(`_generate_invoice_number`, `_generate_payment_number` in `app/modules/billing/service.py`).  `nnnn`
is one more than the number of rows whose number starts with `INV-YYYYMM`, and the column of the
numbers is unique.  The count is read in one statement and the row is inserted in a later one, so
other creations and deletions can come between.

`Documents` are the two columns with the creations under way, within one month.  `Consecutive` says
that the rows of the month are numbered from one without a gap: it is what makes the next number free,
and `consecutive_step` which steps keep it. -/

namespace IspBilling

open Runs Rows Numeral

/-! ### The numbers -/

inductive DocumentKind where
  | invoice
  | payment
deriving DecidableEq, Repr

/-- The text that the numbers of a month start with. -/
def DocumentKind.monthFront (yearMonth : String) : DocumentKind → String
  | .invoice => "INV-" ++ yearMonth
  | .payment => "PAY-" ++ yearMonth

/-- `f"{front}-{n:04d}"`. -/
def documentNumber (front : String) (n : ℕ) : String := front ++ "-" ++ String.ofList (padded 4 n)

/-- `LIKE 'front%'`. -/
def OfMonth (front number : String) : Prop := front.toList <+: number.toList

instance (front : String) : DecidablePred (OfMonth front) :=
  fun _ => inferInstanceAs (Decidable (_ <+: _))

def monthRows (front : String) (numbers : List String) : List String :=
  numbers.filter fun number => decide (OfMonth front number)

/-- `_generate_invoice_number` and `_generate_payment_number`, with the count that they read. -/
def generateNumber (front : String) (numbers : List String) : ℕ × String :=
  let count := (monthRows front numbers).length
  (count, documentNumber front (count + 1))

/-! ### Creations under way -/

/-- How far a creation is. -/
inductive CreationState where
  /-- Between the count and the insert. -/
  | numbered
  | inserted
  /-- The unique column refused the row. -/
  | refused
deriving DecidableEq, Repr

/-- A call of `create_invoice` or `create_payment`. -/
structure Creation where
  kind : DocumentKind
  /-- The count that the number was made of. -/
  count : ℕ
  number : String
  /-- No row had the number when it was made. -/
  free : Bool
  state : CreationState
deriving DecidableEq, Repr

/-- The columns of the numbers, and the creations. -/
structure Documents where
  invoices : List String
  payments : List String
  creations : List Creation
deriving DecidableEq, Repr

inductive DocumentStep where
  /-- A creation reads its number. -/
  | generate (kind : DocumentKind)
  /-- A creation inserts its row. -/
  | insert (creation : ℕ)
  /-- A row that another path numbers. -/
  | other (kind : DocumentKind) (number : String)
  | delete (kind : DocumentKind) (number : String)
deriving DecidableEq, Repr

namespace Documents

def numbers (s : Documents) : DocumentKind → List String
  | .invoice => s.invoices
  | .payment => s.payments

def setNumbers (s : Documents) (kind : DocumentKind) (numbers : List String) : Documents :=
  match kind with
  | .invoice => { s with invoices := numbers }
  | .payment => { s with payments := numbers }

def generate (yearMonth : String) (s : Documents) (kind : DocumentKind) : Documents :=
  let made := generateNumber (kind.monthFront yearMonth) (s.numbers kind)
  { s with creations := s.creations ++
      [⟨kind, made.1, made.2, decide (made.2 ∉ s.numbers kind), .numbered⟩] }

def insert (s : Documents) (i : ℕ) : Documents :=
  match s.creations[i]? with
  | some c =>
      match c.state with
      | .numbered =>
          if c.number ∈ s.numbers c.kind then
            { s with creations := s.creations.set i { c with state := .refused } }
          else
            { s.setNumbers c.kind (s.numbers c.kind ++ [c.number]) with
              creations := s.creations.set i { c with state := .inserted } }
      | .inserted | .refused => s
  | none => s

/-- Another path inserts a row; a number that is there already is refused to it. -/
def insertOther (s : Documents) (kind : DocumentKind) (number : String) : Documents :=
  if number ∈ s.numbers kind then s else s.setNumbers kind (s.numbers kind ++ [number])

def delete (s : Documents) (kind : DocumentKind) (number : String) : Documents :=
  s.setNumbers kind ((s.numbers kind).filter fun x => decide (x ≠ number))

def step (yearMonth : String) (s : Documents) : DocumentStep → Documents
  | .generate kind => s.generate yearMonth kind
  | .insert i => s.insert i
  | .other kind number => s.insertOther kind number
  | .delete kind number => s.delete kind number

/-! ### What is meant to hold -/

/-- Every number was free when it was made, and no row was refused. -/
def Collisionless (s : Documents) : Prop :=
  ∀ c ∈ s.creations, c.free = true ∧ c.state ≠ .refused

instance (s : Documents) : Decidable s.Collisionless :=
  inferInstanceAs (Decidable (∀ c ∈ s.creations, c.free = true ∧ c.state ≠ .refused))

def count (yearMonth : String) (s : Documents) (kind : DocumentKind) : ℕ :=
  (monthRows (kind.monthFront yearMonth) (s.numbers kind)).length

/-- The step leaves no gap: a creation inserts its row while the count is still the one it read, a
deletion takes the highest number of the month or a row of another month, and other paths stay out of
the numbers of the month. -/
def LeavesNoGap (yearMonth : String) (s : Documents) : DocumentStep → Prop
  | .generate _ => True
  | .insert i => ∀ c ∈ s.creations[i]?, c.state = .numbered → c.count = s.count yearMonth c.kind
  | .other kind number => ¬ OfMonth (kind.monthFront yearMonth) number
  | .delete kind number => OfMonth (kind.monthFront yearMonth) number →
      number = documentNumber (kind.monthFront yearMonth) (s.count yearMonth kind)

instance (yearMonth : String) (s : Documents) (e : DocumentStep) :
    Decidable (LeavesNoGap yearMonth s e) :=
  match e with
  | .generate _ => isTrue trivial
  | .insert i => inferInstanceAs (Decidable
      (∀ c ∈ s.creations[i]?, c.state = .numbered → c.count = s.count yearMonth c.kind))
  | .other kind number => inferInstanceAs (Decidable (¬ OfMonth (kind.monthFront yearMonth) number))
  | .delete kind number => inferInstanceAs (Decidable (OfMonth (kind.monthFront yearMonth) number →
      number = documentNumber (kind.monthFront yearMonth) (s.count yearMonth kind)))

end Documents

/-! ### A column -/

section Column

variable {front : String} {numbers : List String}

theorem documentNumber_injective {m n : ℕ} (h : documentNumber front m = documentNumber front n) :
    m = n := by
  unfold documentNumber at h
  have hlist := congrArg String.toList h
  simp only [String.toList_append, String.toList_ofList, List.append_assoc] at hlist
  exact padded_injective 4 (List.append_cancel_left (List.append_cancel_left hlist))

theorem ofMonth_documentNumber (front : String) (n : ℕ) : OfMonth front (documentNumber front n) := by
  unfold OfMonth documentNumber
  rw [String.toList_append, String.toList_append, List.append_assoc]
  exact List.prefix_append _ _

theorem mem_monthRows {number : String} :
    number ∈ monthRows front numbers ↔ number ∈ numbers ∧ OfMonth front number := by
  rw [monthRows, List.mem_filter, decide_eq_true_eq]

/-- The rows of the month have the numbers from one on, without a gap. -/
def Consecutive (front : String) (numbers : List String) : Prop :=
  monthRows front numbers =
    (List.range (monthRows front numbers).length).map fun i => documentNumber front (i + 1)

theorem Consecutive.next_notMem (h : Consecutive front numbers) :
    documentNumber front ((monthRows front numbers).length + 1) ∉ numbers := by
  intro hmem
  have hmonth := mem_monthRows.mpr ⟨hmem, ofMonth_documentNumber front _⟩
  rw [h] at hmonth
  obtain ⟨i, hi, hnumber⟩ := List.mem_map.mp hmonth
  have hlt := List.mem_range.mp hi
  have heq := documentNumber_injective hnumber
  rw [← h] at heq
  omega

theorem Consecutive.append_next (h : Consecutive front numbers) :
    Consecutive front
      (numbers ++ [documentNumber front ((monthRows front numbers).length + 1)]) := by
  have hrows : monthRows front
      (numbers ++ [documentNumber front ((monthRows front numbers).length + 1)]) =
      monthRows front numbers ++ [documentNumber front ((monthRows front numbers).length + 1)] := by
    unfold monthRows
    rw [List.filter_append, List.filter_cons_of_pos
      (by simpa using ofMonth_documentNumber front _), List.filter_nil]
  unfold Consecutive
  rw [hrows, List.length_append, List.length_singleton, List.range_succ, List.map_append, ← h]
  rfl

theorem Consecutive.append_other (h : Consecutive front numbers) {number : String}
    (hnumber : ¬ OfMonth front number) : Consecutive front (numbers ++ [number]) := by
  have hrows : monthRows front (numbers ++ [number]) = monthRows front numbers := by
    unfold monthRows
    rw [List.filter_append, List.filter_cons_of_neg (by simpa using hnumber), List.filter_nil,
      List.append_nil]
  unfold Consecutive
  rw [hrows]
  exact h

theorem filter_ne_last (front : String) (n : ℕ) :
    (((List.range n).map fun i => documentNumber front (i + 1)).filter fun x =>
      decide (x ≠ documentNumber front n)) =
      (List.range (n - 1)).map fun i => documentNumber front (i + 1) := by
  cases n with
  | zero => rfl
  | succ n =>
      rw [List.range_succ, List.map_append, List.filter_append, List.filter_eq_self.mpr,
        Nat.add_sub_cancel]
      · simp
      · intro x hx
        obtain ⟨i, hi, rfl⟩ := List.mem_map.mp hx
        have hlt := List.mem_range.mp hi
        rw [decide_eq_true_eq]
        intro heq
        have := documentNumber_injective heq
        omega

theorem Consecutive.delete_last (h : Consecutive front numbers) :
    Consecutive front (numbers.filter fun x =>
      decide (x ≠ documentNumber front (monthRows front numbers).length)) := by
  have hrows : monthRows front (numbers.filter fun x =>
      decide (x ≠ documentNumber front (monthRows front numbers).length)) =
      (List.range ((monthRows front numbers).length - 1)).map
        fun i => documentNumber front (i + 1) := by
    rw [← filter_ne_last, ← h]
    unfold monthRows
    rw [List.filter_filter, List.filter_filter]
    apply List.filter_congr
    intro x _
    rw [Bool.and_comm]
  unfold Consecutive
  rw [hrows, List.length_map, List.length_range]

theorem Consecutive.delete_other (h : Consecutive front numbers) {number : String}
    (hnumber : ¬ OfMonth front number) :
    Consecutive front (numbers.filter fun x => decide (x ≠ number)) := by
  have hrows : monthRows front (numbers.filter fun x => decide (x ≠ number)) =
      monthRows front numbers := by
    unfold monthRows
    rw [List.filter_filter]
    apply List.filter_congr
    intro x _
    by_cases hx : x = number
    · simp [hx, hnumber]
    · simp [hx]
  unfold Consecutive
  rw [hrows]
  exact h

end Column

/-! ### Runs -/

namespace Documents

variable {yearMonth : String} {s : Documents}

@[simp] theorem numbers_setNumbers (s : Documents) (kind kind' : DocumentKind) (l : List String) :
    (s.setNumbers kind l).numbers kind' = if kind' = kind then l else s.numbers kind' := by
  cases kind <;> cases kind' <;> rfl

@[simp] theorem creations_setNumbers (s : Documents) (kind : DocumentKind) (l : List String) :
    (s.setNumbers kind l).creations = s.creations := by
  cases kind <;> rfl

def InOrder (yearMonth : String) (s : Documents) : Prop :=
  ∀ kind : DocumentKind, Consecutive (kind.monthFront yearMonth) (s.numbers kind)

/-- The creations have the numbers of their counts. -/
def WellNumbered (yearMonth : String) (s : Documents) : Prop :=
  ∀ c ∈ s.creations, c.number = documentNumber (c.kind.monthFront yearMonth) (c.count + 1)

/-- What holds along a run that leaves no gap. -/
structure Orderly (yearMonth : String) (s : Documents) : Prop where
  inOrder : s.InOrder yearMonth
  wellNumbered : s.WellNumbered yearMonth
  collisionless : s.Collisionless

theorem inOrder_of_numbers {s' : Documents} {kind : DocumentKind} {l : List String}
    (h : s.InOrder yearMonth) (hl : Consecutive (kind.monthFront yearMonth) l)
    (hs' : ∀ kind', s'.numbers kind' = if kind' = kind then l else s.numbers kind') :
    s'.InOrder yearMonth := by
  intro kind'
  rw [hs']
  split
  · next heq => rw [heq]; exact hl
  · exact h kind'

theorem orderly_generate (h : s.Orderly yearMonth) (kind : DocumentKind) :
    (s.generate yearMonth kind).Orderly yearMonth where
  inOrder := by
    intro kind'
    have hkeep : (s.generate yearMonth kind).numbers kind' = s.numbers kind' := by
      cases kind' <;> rfl
    rw [hkeep]
    exact h.inOrder kind'
  wellNumbered := by
    intro c hc
    rcases List.mem_append.mp hc with hc | hc
    · exact h.wellNumbered c hc
    · rw [List.mem_singleton.mp hc]
      rfl
  collisionless := by
    intro c hc
    rcases List.mem_append.mp hc with hc | hc
    · exact h.collisionless c hc
    · rw [List.mem_singleton.mp hc]
      exact ⟨decide_eq_true (h.inOrder kind).next_notMem, nofun⟩

theorem orderly_insert (h : s.Orderly yearMonth) {i : ℕ}
    (hok : LeavesNoGap yearMonth s (.insert i)) : (s.insert i).Orderly yearMonth := by
  unfold insert
  cases hc : s.creations[i]? with
  | none => exact h
  | some c =>
      have hmem := List.mem_of_getElem? hc
      cases hstate : c.state with
      | inserted => simpa only [hstate] using h
      | refused => simpa only [hstate] using h
      | numbered =>
          have hcount := hok c hc hstate
          have hnumber := h.wellNumbered c hmem
          rw [hcount] at hnumber
          have hfree : c.number ∉ s.numbers c.kind := by
            rw [hnumber]
            exact (h.inOrder c.kind).next_notMem
          simp only [hstate, if_neg hfree]
          have hset : ∀ c' ∈ s.creations.set i { c with state := .inserted },
              c' ∈ s.creations ∨ c' = { c with state := .inserted } := by
            intro c' hc'
            exact List.mem_or_eq_of_mem_set hc'
          refine ⟨?_, ?_, ?_⟩
          · have hcolumn : Consecutive (c.kind.monthFront yearMonth)
                (s.numbers c.kind ++ [c.number]) := by
              rw [hnumber]
              exact (h.inOrder c.kind).append_next
            refine inOrder_of_numbers h.inOrder hcolumn ?_
            intro kind'
            rw [← numbers_setNumbers]
            cases kind' <;> rfl
          · intro c' hc'
            rcases hset c' hc' with hc' | rfl
            · exact h.wellNumbered c' hc'
            · exact h.wellNumbered c hmem
          · intro c' hc'
            rcases hset c' hc' with hc' | rfl
            · exact h.collisionless c' hc'
            · exact ⟨(h.collisionless c hmem).1, nofun⟩

theorem orderly_insertOther (h : s.Orderly yearMonth) {kind : DocumentKind} {number : String}
    (hok : LeavesNoGap yearMonth s (.other kind number)) :
    (s.insertOther kind number).Orderly yearMonth := by
  unfold insertOther
  split
  · exact h
  · refine ⟨?_, ?_, ?_⟩
    · exact inOrder_of_numbers h.inOrder ((h.inOrder kind).append_other hok)
        (numbers_setNumbers s kind · _)
    · simpa only [WellNumbered, creations_setNumbers] using h.wellNumbered
    · simpa only [Collisionless, creations_setNumbers] using h.collisionless

theorem orderly_delete (h : s.Orderly yearMonth) {kind : DocumentKind} {number : String}
    (hok : LeavesNoGap yearMonth s (.delete kind number)) :
    (s.delete kind number).Orderly yearMonth := by
  have hcolumn : Consecutive (kind.monthFront yearMonth)
      ((s.numbers kind).filter fun x => decide (x ≠ number)) := by
    by_cases hmonth : OfMonth (kind.monthFront yearMonth) number
    · rw [hok hmonth]
      exact (h.inOrder kind).delete_last
    · exact (h.inOrder kind).delete_other hmonth
  unfold delete
  refine ⟨?_, ?_, ?_⟩
  · exact inOrder_of_numbers h.inOrder hcolumn (numbers_setNumbers s kind · _)
  · simpa only [WellNumbered, creations_setNumbers] using h.wellNumbered
  · simpa only [Collisionless, creations_setNumbers] using h.collisionless

theorem orderly_step (e : DocumentStep) (h : s.Orderly yearMonth)
    (hok : LeavesNoGap yearMonth s e) : (s.step yearMonth e).Orderly yearMonth := by
  cases e with
  | generate kind => exact orderly_generate h kind
  | insert i => exact orderly_insert h hok
  | other kind number => exact orderly_insertOther h hok
  | delete kind number => exact orderly_delete h hok

/-- The start of a month: no row of the month and no creation under way. -/
def MonthStart (yearMonth : String) (s : Documents) : Prop :=
  (∀ kind : DocumentKind, monthRows (kind.monthFront yearMonth) (s.numbers kind) = []) ∧
    s.creations = []

theorem MonthStart.orderly (h : MonthStart yearMonth s) : s.Orderly yearMonth where
  inOrder := by
    intro kind
    unfold Consecutive
    rw [h.1 kind]
    rfl
  wellNumbered := by
    intro c hc
    rw [h.2] at hc
    exact absurd hc List.not_mem_nil
  collisionless := by
    intro c hc
    rw [h.2] at hc
    exact absurd hc List.not_mem_nil

/-- In a month whose steps leave no gap no number collides, in any interleaving. -/
theorem numbers_never_collide {es : List DocumentStep} (hstart : MonthStart yearMonth s)
    (hsteps : Along (step yearMonth) (LeavesNoGap yearMonth) s es) :
    Always (step yearMonth) Collisionless s es :=
  always_of_along (fun _ e h hok => orderly_step e h hok) (fun _ h => h.collisionless)
    hstart.orderly hsteps

/-- The start of a month with no rows at all. -/
def noDocuments : Documents := ⟨[], [], []⟩

/-- Two invoices one after the other, a payment, and the deletion of the second invoice. -/
theorem numbers_never_collide_in_turn :
    Always (step "202601") Collisionless noDocuments
      [.generate .invoice, .insert 0, .generate .payment, .generate .invoice, .insert 2, .insert 1,
        .other .payment "HSP-1-1767225600", .delete .invoice "INV-202601-0002",
        .generate .invoice, .insert 3] :=
  numbers_never_collide ⟨fun kind => by cases kind <;> rfl, rfl⟩ (by decide)

/-- Two creations at once get one number, and after the deletion of a first row the next creation
gets the number of the last one. -/
theorem numbers_collide :
    ¬ Always (step "202601") Collisionless noDocuments
      [.generate .invoice, .generate .invoice, .insert 0, .insert 1] ∧
    ¬ Always (step "202601") Collisionless noDocuments
      [.generate .payment, .insert 0, .generate .payment, .insert 1,
        .delete .payment "PAY-202601-0001", .generate .payment] := by
  decide

end Documents

end IspBilling
