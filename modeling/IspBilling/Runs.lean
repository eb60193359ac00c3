import Mathlib.Data.List.Basic

/-! # Finite runs of a step function

A system is a step function `step : σ → ε → σ`: the events `ε` carry everything the
environment chooses (clock readings, fresh identifiers, failures, the party that moves), so a
run is a list of events and `exec step s es` is the state it ends in.  An interleaving of
several parties is a list of events of a sum-like event type.

* `Along step ok s es` says that every event of the run meets `ok` in the state it finds.
* `Always step P s es` says that `P` holds in every state of the run, both ends included.
* `exec_of_along` and `always_of_along` are the invariant rules: a predicate that every
  admissible step keeps holds along every admissible run.
* `always_iff_along` is the exact form: when a step out of a good state is good precisely if
  it is admissible, a run stays good precisely if all its steps are admissible.
* `exec_iff_along` is the exact form for the state at the end, when no step repairs a bad one.
* `Stays step P s es` says that `P` is never lost once it holds; `stays_iff_along` reduces it to
  the single steps. -/

namespace Runs

variable {σ ε : Type*} (step : σ → ε → σ)

/-- The state reached by a run. -/
def exec (s : σ) (es : List ε) : σ := es.foldl step s

@[simp] theorem exec_nil (s : σ) : exec step s [] = s := rfl

@[simp] theorem exec_cons (s : σ) (e : ε) (es : List ε) :
    exec step s (e :: es) = exec step (step s e) es := rfl

theorem exec_append (s : σ) (es fs : List ε) :
    exec step s (es ++ fs) = exec step (exec step s es) fs := List.foldl_append

variable {step} in
theorem exec_replicate {s : σ} {e : ε} (h : step s e = s) (n : ℕ) :
    exec step s (List.replicate n e) = s := by
  induction n with
  | zero => rfl
  | succ n ih => rw [List.replicate_succ, exec_cons, h, ih]

/-- Every event of the run meets `ok` in the state it finds. -/
def Along (ok : σ → ε → Prop) : σ → List ε → Prop
  | _, [] => True
  | s, e :: es => ok s e ∧ Along ok (step s e) es

instance Along.decidable (ok : σ → ε → Prop) [∀ s e, Decidable (ok s e)] :
    ∀ (s : σ) (es : List ε), Decidable (Along step ok s es)
  | _, [] => isTrue trivial
  | s, e :: es => @instDecidableAnd _ _ _ (Along.decidable ok (step s e) es)

/-- `P` holds in every state of the run. -/
def Always (P : σ → Prop) : σ → List ε → Prop
  | s, [] => P s
  | s, e :: es => P s ∧ Always P (step s e) es

instance Always.decidable (P : σ → Prop) [∀ s, Decidable (P s)] :
    ∀ (s : σ) (es : List ε), Decidable (Always step P s es)
  | s, [] => inferInstanceAs (Decidable (P s))
  | s, e :: es => @instDecidableAnd _ _ _ (Always.decidable P (step s e) es)

/-- Once `P` holds in a state of the run it holds in all later ones. -/
def Stays (P : σ → Prop) (s : σ) (es : List ε) : Prop :=
  ∀ m n, m ≤ n → n ≤ es.length → P (exec step s (es.take m)) → P (exec step s (es.take n))

variable {step}

theorem Along.append_iff {ok : σ → ε → Prop} {s : σ} {es fs : List ε} :
    Along step ok s (es ++ fs) ↔ Along step ok s es ∧ Along step ok (exec step s es) fs := by
  induction es generalizing s with
  | nil => simp [Along]
  | cons e es ih => simp only [List.cons_append, Along, exec_cons, ih, and_assoc]

theorem Always.head {P : σ → Prop} {s : σ} {es : List ε} (h : Always step P s es) : P s := by
  cases es with
  | nil => exact h
  | cons e es => exact h.1

/-- **Invariant rule**: what every admissible step keeps holds at the end of every
admissible run. -/
theorem exec_of_along {I : σ → Prop} {ok : σ → ε → Prop}
    (hstep : ∀ s e, I s → ok s e → I (step s e)) {s : σ} {es : List ε} (hs : I s)
    (ha : Along step ok s es) : I (exec step s es) := by
  induction es generalizing s with
  | nil => exact hs
  | cons e es ih => exact ih (hstep _ _ hs ha.1) ha.2

/-- The invariant rule for all states of the run. -/
theorem always_of_along {I P : σ → Prop} {ok : σ → ε → Prop}
    (hstep : ∀ s e, I s → ok s e → I (step s e)) (hP : ∀ s, I s → P s) {s : σ} {es : List ε}
    (hs : I s) (ha : Along step ok s es) : Always step P s es := by
  induction es generalizing s with
  | nil => exact hP _ hs
  | cons e es ih => exact ⟨hP _ hs, ih (hstep _ _ hs ha.1) ha.2⟩

/-- What every step keeps holds at the end of every run. -/
theorem exec_of_invariant {I : σ → Prop} (hstep : ∀ s e, I s → I (step s e)) {s : σ} (hs : I s)
    (es : List ε) : I (exec step s es) := by
  induction es generalizing s with
  | nil => exact hs
  | cons e es ih => exact ih (hstep s e hs)

/-- The invariant rule for a predicate that all steps keep. -/
theorem always_of_invariant {I P : σ → Prop} (hstep : ∀ s e, I s → I (step s e))
    (hP : ∀ s, I s → P s) {s : σ} {es : List ε} (hs : I s) : Always step P s es := by
  induction es generalizing s with
  | nil => exact hP s hs
  | cons e es ih => exact ⟨hP s hs, ih (hstep s e hs)⟩

theorem along_of_invariant {I : σ → Prop} {ok : σ → ε → Prop}
    (hstep : ∀ s e, I s → I (step s e)) (hok : ∀ s e, I s → ok s e) {s : σ} {es : List ε}
    (hs : I s) : Along step ok s es := by
  induction es generalizing s with
  | nil => trivial
  | cons e es ih => exact ⟨hok s e hs, ih (hstep s e hs)⟩

/-- **Exact rule**: let all events of the run be of a kind `E` whose steps keep `J`.  If a step of
that kind out of a good state is good exactly when it is admissible, the run is good throughout
exactly when every step is admissible. -/
theorem always_iff_along_of {E : ε → Prop} {J P : σ → Prop} {ok : σ → ε → Prop}
    (hJ : ∀ s e, E e → J s → J (step s e))
    (hstep : ∀ s e, E e → J s → P s → (P (step s e) ↔ ok s e)) {s : σ} {es : List ε}
    (hE : ∀ e ∈ es, E e) (hj : J s) (hs : P s) :
    Always step P s es ↔ Along step ok s es := by
  induction es generalizing s with
  | nil => exact ⟨fun _ => trivial, fun _ => hs⟩
  | cons e es ih =>
      obtain ⟨he, hes⟩ := List.forall_mem_cons.mp hE
      constructor
      · intro h
        have hP := h.2.head
        exact ⟨(hstep _ _ he hj hs).mp hP, (ih hes (hJ _ _ he hj) hP).mp h.2⟩
      · intro h
        have hP := (hstep _ _ he hj hs).mpr h.1
        exact ⟨hs, (ih hes (hJ _ _ he hj) hP).mpr h.2⟩

/-- The exact rule for all events. -/
theorem always_iff_along {J P : σ → Prop} {ok : σ → ε → Prop}
    (hJ : ∀ s e, J s → J (step s e))
    (hstep : ∀ s e, J s → P s → (P (step s e) ↔ ok s e)) {s : σ} {es : List ε} (hj : J s)
    (hs : P s) : Always step P s es ↔ Along step ok s es :=
  always_iff_along_of (E := fun _ => True) (fun s e _ => hJ s e) (fun s e _ => hstep s e)
    (fun _ _ => trivial) hj hs

/-- **Exact rule through an invariant**: let an admissible step keep the invariant, and any other step
lead from it to a bad state.  Then a run is good throughout exactly when every step is admissible. -/
theorem always_iff_along_invariant {G P : σ → Prop} {ok : σ → ε → Prop} (hP : ∀ s, G s → P s)
    (hok : ∀ s e, G s → ok s e → G (step s e)) (hbad : ∀ s e, G s → ¬ ok s e → ¬ P (step s e)) {s : σ}
    {es : List ε} (hs : G s) : Always step P s es ↔ Along step ok s es := by
  induction es generalizing s with
  | nil => exact ⟨fun _ => trivial, fun _ => hP s hs⟩
  | cons e es ih =>
      constructor
      · intro h
        have he : ok s e := by
          by_contra hnot
          exact hbad s e hs hnot h.2.head
        exact ⟨he, (ih (hok s e hs he)).mp h.2⟩
      · intro h
        exact ⟨hP s hs, (ih (hok s e hs h.1)).mpr h.2⟩

/-- **Exact rule for the last state**: let all events of the run be of a kind `E`.  If an admissible step
keeps the good states and any other step leads from a good state into the bad ones, which no step leaves,
then a run ends in a good state exactly when every step is admissible. -/
theorem exec_iff_along_of {E : ε → Prop} {G B P : σ → Prop} {ok : σ → ε → Prop}
    (hok : ∀ s e, E e → G s → ok s e → G (step s e))
    (hbad : ∀ s e, E e → G s → ¬ ok s e → B (step s e)) (hB : ∀ s e, E e → B s → B (step s e))
    (hGP : ∀ s, G s → P s) (hBP : ∀ s, B s → ¬ P s) {s : σ} {es : List ε} (hE : ∀ e ∈ es, E e)
    (hs : G s) : P (exec step s es) ↔ Along step ok s es := by
  have hstay : ∀ (es : List ε) (s : σ), (∀ e ∈ es, E e) → B s → B (exec step s es) := by
    intro es
    induction es with
    | nil => exact fun _ _ h => h
    | cons e es ih =>
        intro s hE h
        obtain ⟨he, hes⟩ := List.forall_mem_cons.mp hE
        exact ih _ hes (hB s e he h)
  induction es generalizing s with
  | nil => exact ⟨fun _ => trivial, fun _ => hGP s hs⟩
  | cons e es ih =>
      obtain ⟨hkind, hkinds⟩ := List.forall_mem_cons.mp hE
      constructor
      · intro h
        by_contra hnot
        by_cases he : ok s e
        · exact hnot ⟨he, (ih hkinds (hok s e hkind hs he)).mp h⟩
        · exact hBP _ (hstay es _ hkinds (hbad s e hkind hs he)) h
      · intro h
        exact (ih hkinds (hok s e hkind hs h.1)).mpr h.2

theorem exec_iff_along {G B P : σ → Prop} {ok : σ → ε → Prop}
    (hok : ∀ s e, G s → ok s e → G (step s e)) (hbad : ∀ s e, G s → ¬ ok s e → B (step s e))
    (hB : ∀ s e, B s → B (step s e)) (hGP : ∀ s, G s → P s) (hBP : ∀ s, B s → ¬ P s) {s : σ}
    {es : List ε} (hs : G s) : P (exec step s es) ↔ Along step ok s es :=
  exec_iff_along_of (E := fun _ => True) (fun s e _ => hok s e) (fun s e _ => hbad s e)
    (fun s e _ => hB s e) hGP hBP (fun _ _ => trivial) hs

theorem Stays.tail {P : σ → Prop} {s : σ} {e : ε} {es : List ε} (h : Stays step P s (e :: es)) :
    Stays step P (step s e) es := by
  intro m n hmn hn
  exact h (m + 1) (n + 1) (Nat.succ_le_succ hmn) (Nat.succ_le_succ hn)

/-- **Stability rule**: a predicate is never lost in a run exactly when no step that finds it
loses it. -/
theorem stays_iff_along {P : σ → Prop} {s : σ} {es : List ε} :
    Stays step P s es ↔ Along step (fun s e => P s → P (step s e)) s es := by
  induction es generalizing s with
  | nil =>
      refine ⟨fun _ => trivial, ?_⟩
      intro _ m n _ _ hP
      simpa using hP
  | cons e es ih =>
      constructor
      · intro h
        refine ⟨fun hP => ?_, ih.mp h.tail⟩
        exact h 0 1 (Nat.zero_le 1) (Nat.succ_le_succ (Nat.zero_le _)) hP
      · rintro ⟨hfirst, hrest⟩ m n hmn hn hP
        have hstays := ih.mpr hrest
        -- the first state is followed by the state after the first event
        cases n with
        | zero => rwa [Nat.le_zero.mp hmn] at hP
        | succ n =>
            have hn' := Nat.le_of_succ_le_succ hn
            cases m with
            | zero => exact hstays 0 n (Nat.zero_le n) hn' (hfirst hP)
            | succ m => exact hstays m n (Nat.le_of_succ_le_succ hmn) hn' hP

theorem Along.imp {ok ok' : σ → ε → Prop} (himp : ∀ s e, ok s e → ok' s e) {s : σ} {es : List ε}
    (h : Along step ok s es) : Along step ok' s es := by
  induction es generalizing s with
  | nil => trivial
  | cons e es ih => exact ⟨himp s e h.1, ih h.2⟩

theorem Along.congr {ok ok' : σ → ε → Prop} (hiff : ∀ s e, ok s e ↔ ok' s e) {s : σ} {es : List ε} :
    Along step ok s es ↔ Along step ok' s es :=
  ⟨Along.imp fun s e => (hiff s e).mp, Along.imp fun s e => (hiff s e).mpr⟩

theorem along_congr_of_invariant {J : σ → Prop} {ok ok' : σ → ε → Prop}
    (hJ : ∀ s e, J s → J (step s e)) (hiff : ∀ s e, J s → (ok s e ↔ ok' s e)) {s : σ}
    {es : List ε} (hs : J s) : Along step ok s es ↔ Along step ok' s es := by
  induction es generalizing s with
  | nil => exact Iff.rfl
  | cons e es ih => exact and_congr (hiff s e hs) (ih (hJ s e hs))

theorem along_and {ok ok' : σ → ε → Prop} {s : σ} {es : List ε} :
    Along step ok s es ∧ Along step ok' s es ↔ Along step (fun s e => ok s e ∧ ok' s e) s es := by
  induction es generalizing s with
  | nil => simp [Along]
  | cons e es ih => simp only [Along, ← ih, and_and_and_comm]

theorem along_forall {ι : Sort*} {ok : ι → σ → ε → Prop} {s : σ} {es : List ε} :
    Along step (fun s e => ∀ i, ok i s e) s es ↔ ∀ i, Along step (ok i) s es := by
  induction es generalizing s with
  | nil => simp [Along]
  | cons e es ih => simp only [Along, ih, forall_and]

end Runs
