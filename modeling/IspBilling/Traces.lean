import IspBilling.Runs

/-! # What a run produces

`outputs step out s es` lists what the steps of a run produce, in order: `out s e` is what the event
`e` produces in the state `s` that it finds.

* `history_of_along` is the invariant rule for a state and the history behind it: a relation between
  the two that every admissible step keeps holds at the end of every admissible run.
* `history_of_invariant` is the rule for a relation that all steps keep.
* `exec_refines` reads an admissible run as one of another system, in which an event may be several or
  none; `exec_projection` and `along_projection` are about one event for one.
* `conserved_of_always` is the rule for a queue: what was held and what came in is what went out and
  what is held. -/

namespace Runs

variable {σ ε α : Type*} (step : σ → ε → σ) (out : σ → ε → List α)

/-- What the steps of a run produce, in order. -/
def outputs : σ → List ε → List α
  | _, [] => []
  | s, e :: es => out s e ++ outputs (step s e) es

@[simp] theorem outputs_nil (s : σ) : outputs step out s [] = [] := rfl

@[simp] theorem outputs_cons (s : σ) (e : ε) (es : List ε) :
    outputs step out s (e :: es) = out s e ++ outputs step out (step s e) es := rfl

theorem outputs_append (s : σ) (es fs : List ε) :
    outputs step out s (es ++ fs) = outputs step out s es ++ outputs step out (exec step s es) fs := by
  induction es generalizing s with
  | nil => rfl
  | cons e es ih => simp only [List.cons_append, outputs_cons, exec_cons, ih, List.append_assoc]

variable {step out}

theorem outputs_subset {out' : σ → ε → List α} (h : ∀ s e, out s e ⊆ out' s e) (s : σ) (es : List ε) :
    outputs step out s es ⊆ outputs step out' s es := by
  induction es generalizing s with
  | nil => simp
  | cons e es ih =>
      rw [outputs_cons, outputs_cons, List.append_subset]
      exact ⟨List.Subset.trans (h s e) (List.subset_append_left _ _),
        List.Subset.trans (ih _) (List.subset_append_right _ _)⟩

/-- **Refinement rule**: if every admissible event does to what `f` shows of the state what the events
`out s e` of another system do, then an admissible run is a run of that system. -/
theorem exec_refines {τ μ : Type*} {step' : τ → μ → τ} {f : σ → τ} {out : σ → ε → List μ}
    {ok : σ → ε → Prop} (hstep : ∀ s e, ok s e → f (step s e) = exec step' (f s) (out s e)) {s : σ}
    {es : List ε} (h : Along step ok s es) :
    f (exec step s es) = exec step' (f s) (outputs step out s es) := by
  induction es generalizing s with
  | nil => rfl
  | cons e es ih => rw [exec_cons, ih h.2, hstep s e h.1, outputs_cons, exec_append]

/-- **Projection rule**: if every event `e` in `s` is the event `g s e` of another system for what `f`
shows of `s`, then a run is a run of that system. -/
theorem exec_projection {τ μ : Type*} {step' : τ → μ → τ} {f : σ → τ} {g : σ → ε → μ}
    (hstep : ∀ s e, f (step s e) = step' (f s) (g s e)) (s : σ) (es : List ε) :
    f (exec step s es) = exec step' (f s) (outputs step (fun s e => [g s e]) s es) := by
  have halong : Along step (fun _ _ => True) s es :=
    along_of_invariant (I := fun _ => True) (fun _ _ _ => trivial) (fun _ _ _ => trivial) trivial
  exact exec_refines (fun s e _ => hstep s e) halong

theorem along_projection {τ μ : Type*} {step' : τ → μ → τ} {f : σ → τ} {g : σ → ε → μ}
    {ok : σ → ε → Prop} {ok' : τ → μ → Prop} (hstep : ∀ s e, f (step s e) = step' (f s) (g s e))
    (hok : ∀ s e, ok' (f s) (g s e) ↔ ok s e) (s : σ) (es : List ε) :
    Along step' ok' (f s) (outputs step (fun s e => [g s e]) s es) ↔ Along step ok s es := by
  induction es generalizing s with
  | nil => exact Iff.rfl
  | cons e es ih =>
      rw [outputs_cons, List.singleton_append, Along, Along, ← hstep]
      exact and_congr (hok s e) (ih _)

/-- **Conservation rule**: if each step with `P` before and after it lets through `out'` of what
comes in by `out`, a run with `P` throughout does. -/
theorem conserved_of_always {P : σ → Prop} {out' : σ → ε → List α} {held : σ → List α}
    (hstep : ∀ s e, P s → P (step s e) → held s ++ out s e = out' s e ++ held (step s e)) {s : σ}
    {es : List ε} (h : Always step P s es) :
    held s ++ outputs step out s es = outputs step out' s es ++ held (exec step s es) := by
  induction es generalizing s with
  | nil => simp
  | cons e es ih =>
      have hfirst := hstep s e h.1 h.2.head
      rw [outputs_cons, outputs_cons, exec_cons, ← List.append_assoc, hfirst, List.append_assoc,
        ih h.2, List.append_assoc]

/-- **History rule**: a relation between the state and what was produced so far that every admissible
step keeps holds at the end of every admissible run. -/
theorem history_of_along {R : σ → List α → Prop} {ok : σ → ε → Prop}
    (hstep : ∀ s l e, R s l → ok s e → R (step s e) (l ++ out s e)) {s : σ} {l : List α} {es : List ε}
    (hs : R s l) (ha : Along step ok s es) : R (exec step s es) (l ++ outputs step out s es) := by
  induction es generalizing s l with
  | nil => simpa using hs
  | cons e es ih =>
      have h := ih (hstep s l e hs ha.1) ha.2
      rwa [List.append_assoc] at h

/-- The history rule for a relation that all steps keep. -/
theorem history_of_invariant {R : σ → List α → Prop}
    (hstep : ∀ s l e, R s l → R (step s e) (l ++ out s e)) {s : σ} {l : List α} (hs : R s l)
    (es : List ε) : R (exec step s es) (l ++ outputs step out s es) := by
  induction es generalizing s l with
  | nil => simpa using hs
  | cons e es ih =>
      have h := ih (hstep s l e hs)
      rwa [List.append_assoc] at h

end Runs
