import IspBilling.Traces
import Mathlib.Logic.Function.Basic

/-! # Delivery at least once

A stream hands its messages to workers and forgets a message only when a worker acknowledges it.  Until
then it may hand the message out again, also while another worker is still busy with it: a worker can be
slow, crash, or its acknowledgement can get lost.

A `Handler` treats a message in two halves: it reads the store, and later it carries out what it has
read, against the store as it is then.  Between the two anything can happen, by the other workers and by
other users of the store (`Event.outside`).

* `handled_of_settled` says that the stream forgets only messages that a handler has carried out to its
  end, and `settled_exec` that they stay forgotten.
* `Treats` collects what one handler has to guarantee: an invariant `I` of the store, what a message may
  count on `V`, a relation `Q` between what was read and the store, and the purpose `G` of a message, all
  kept by everybody.
  `Sound.exec` is the rule: in every run whose steps are admissible the purpose of all forgotten messages
  is fulfilled, and stays so.
* `exec_undisturbed` is the run of one worker alone. -/

namespace Deliveries

open Runs

/-- How messages `μ` are treated: what is read of the store `σ`, and what becomes of the store with the
choices `χ` of the environment.  `none` and `false` stand for an exception. -/
structure Handler (μ σ ρ χ : Type*) where
  read : μ → σ → Option ρ
  finish : ρ → χ → σ → σ × Bool

/-- How far a worker has come with a message. -/
inductive Phase (ρ : Type*) where
  | fresh
  | loaded (r : ρ)
  | done
deriving DecidableEq, Repr

/-- A message that a worker is busy with, by its number in the stream. -/
structure Job (ρ : Type*) where
  number : ℕ
  phase : Phase ρ
deriving DecidableEq, Repr

/-- The store, the stream, the messages that it has forgotten, and the workers. -/
structure Feed (μ σ ρ : Type*) where
  store : σ
  messages : List μ
  settled : List ℕ
  job : ℕ → Option (Job ρ)

inductive Event (μ σ χ : Type*) where
  | publish (m : μ)
  | deliver (w n : ℕ)
  | read (w : ℕ)
  | finish (w : ℕ) (c : χ)
  | ack (w : ℕ)
  /-- The worker loses its message, with or without having treated it. -/
  | drop (w : ℕ)
  /-- Somebody else writes to the store. -/
  | outside (s : σ)

variable {μ σ ρ χ : Type*}

namespace Feed

variable (h : Handler μ σ ρ χ)

def setJob (s : Feed μ σ ρ) (w : ℕ) (j : Option (Job ρ)) : Feed μ σ ρ :=
  { s with job := Function.update s.job w j }

@[simp] theorem setJob_store (s : Feed μ σ ρ) (w : ℕ) (j : Option (Job ρ)) :
    (s.setJob w j).store = s.store := rfl

@[simp] theorem setJob_messages (s : Feed μ σ ρ) (w : ℕ) (j : Option (Job ρ)) :
    (s.setJob w j).messages = s.messages := rfl

@[simp] theorem setJob_settled (s : Feed μ σ ρ) (w : ℕ) (j : Option (Job ρ)) :
    (s.setJob w j).settled = s.settled := rfl

theorem setJob_job (s : Feed μ σ ρ) (w w' : ℕ) (j : Option (Job ρ)) :
    (s.setJob w j).job w' = if w' = w then j else s.job w' :=
  Function.update_apply ..

/-- The message that a worker is busy with. -/
def messageOf (s : Feed μ σ ρ) (j : Job ρ) : Option μ := s.messages[j.number]?

/-- A worker reads the store for its message. -/
def readFor (s : Feed μ σ ρ) (w : ℕ) (j : Job ρ) : Feed μ σ ρ :=
  match (s.messageOf j).bind fun m => h.read m s.store with
  | some r => s.setJob w (some ⟨j.number, .loaded r⟩)
  | none => s.setJob w none

/-- A worker carries out what it has read. -/
def finishFor (s : Feed μ σ ρ) (w n : ℕ) (r : ρ) (c : χ) : Feed μ σ ρ :=
  let result := h.finish r c s.store
  { s with store := result.1 }.setJob w (if result.2 then some ⟨n, .done⟩ else none)

def step (s : Feed μ σ ρ) : Event μ σ χ → Feed μ σ ρ
  | .publish m => { s with messages := s.messages ++ [m] }
  | .deliver w n =>
      if n < s.messages.length ∧ n ∉ s.settled ∧ s.job w = none then s.setJob w (some ⟨n, .fresh⟩)
      else s
  | .read w =>
      match s.job w with
      | some ⟨n, .fresh⟩ => s.readFor h w ⟨n, .fresh⟩
      | _ => s
  | .finish w c =>
      match s.job w with
      | some ⟨n, .loaded r⟩ => s.finishFor h w n r c
      | _ => s
  | .ack w =>
      match s.job w with
      | some ⟨n, .done⟩ => { s with settled := n :: s.settled }.setJob w none
      | _ => s
  | .drop w => s.setJob w none
  | .outside store => { s with store := store }

/-- The message that a step carries out to its end. -/
def handled (s : Feed μ σ ρ) : Event μ σ χ → List ℕ
  | .finish w c =>
      match s.job w with
      | some ⟨n, .loaded r⟩ => if (h.finish r c s.store).2 then [n] else []
      | _ => []
  | _ => []

/-- **What a step can do**: the state that it leads to, and the message that it carries out. -/
inductive Moves (s : Feed μ σ ρ) : Event μ σ χ → Feed μ σ ρ → List ℕ → Prop
  | idle (e : Event μ σ χ) : Moves s e s []
  | publish (m : μ) : Moves s (.publish m) { s with messages := s.messages ++ [m] } []
  | deliver (w n : ℕ) (hn : n < s.messages.length) :
      Moves s (.deliver w n) (s.setJob w (some ⟨n, .fresh⟩)) []
  | read (w n : ℕ) (m : μ) (r : ρ) (hm : s.messages[n]? = some m) (hr : h.read m s.store = some r) :
      Moves s (.read w) (s.setJob w (some ⟨n, .loaded r⟩)) []
  | finish (w n : ℕ) (r : ρ) (c : χ) (hjob : s.job w = some ⟨n, .loaded r⟩)
      (hdone : (h.finish r c s.store).2 = true) :
      Moves s (.finish w c)
        ({ s with store := (h.finish r c s.store).1 }.setJob w (some ⟨n, .done⟩)) [n]
  | fail (w n : ℕ) (r : ρ) (c : χ) (hjob : s.job w = some ⟨n, .loaded r⟩) :
      Moves s (.finish w c) ({ s with store := (h.finish r c s.store).1 }.setJob w none) []
  | ack (w n : ℕ) (hjob : s.job w = some ⟨n, .done⟩) :
      Moves s (.ack w) ({ s with settled := n :: s.settled }.setJob w none) []
  | lose (w : ℕ) (e : Event μ σ χ) : Moves s e (s.setJob w none) []
  | outside (store : σ) : Moves s (.outside store) { s with store := store } []

theorem moves_step (s : Feed μ σ ρ) (e : Event μ σ χ) : Moves h s e (s.step h e) (s.handled h e) := by
  cases e with
  | publish m => exact .publish m
  | deliver w n =>
      simp only [step, handled]
      split
      · next hn => exact .deliver w n hn.1
      · exact .idle _
  | read w =>
      simp only [step, handled]
      split
      · next n hjob =>
          unfold readFor
          split
          · next r hr =>
              obtain ⟨m, hm, hread⟩ := Option.bind_eq_some_iff.mp hr
              exact .read w n m r hm hread
          · exact .lose w _
      · exact .idle _
  | finish w c =>
      simp only [step, handled]
      split
      · next n r hjob =>
          unfold finishFor
          cases hdone : (h.finish r c s.store).2 with
          | true => simpa [hdone] using Moves.finish w n r c hjob hdone
          | false => simpa [hdone] using Moves.fail w n r c hjob
      · exact .idle _
  | ack w =>
      simp only [step, handled]
      split
      · next n hjob => exact .ack w n hjob
      · exact .idle _
  | drop w => exact .lose w _
  | outside store => exact .outside store

variable {h}

/-! ### What the stream forgets -/

theorem Moves.settled {s t : Feed μ σ ρ} {e : Event μ σ χ} {l : List ℕ} (hmove : Moves h s e t l) :
    s.settled ⊆ t.settled := by
  cases hmove with
  | ack w n hjob => exact List.subset_cons_self n s.settled
  | _ => exact List.Subset.refl s.settled

/-- All messages that are forgotten, or about to be, are in the list. -/
structure Carried (s : Feed μ σ ρ) (log : List ℕ) : Prop where
  settled : s.settled ⊆ log
  done : ∀ w n, s.job w = some ⟨n, .done⟩ → n ∈ log

theorem Carried.mono {s : Feed μ σ ρ} {log : List ℕ} (hs : s.Carried log) (more : List ℕ) :
    s.Carried (log ++ more) where
  settled := List.Subset.trans hs.settled (List.subset_append_left _ _)
  done := fun w n hn => List.mem_append_left _ (hs.done w n hn)

theorem Carried.setJob {s : Feed μ σ ρ} {log : List ℕ} (hs : s.Carried log) (w : ℕ)
    {j : Option (Job ρ)} (hj : ∀ n, j = some ⟨n, .done⟩ → n ∈ log) : (s.setJob w j).Carried log where
  settled := hs.settled
  done := by
    intro w' n hn
    rw [setJob_job] at hn
    split at hn
    · exact hj n hn
    · exact hs.done w' n hn

theorem Carried.move {s t : Feed μ σ ρ} {log l : List ℕ} {e : Event μ σ χ} (hs : s.Carried log)
    (hmove : Moves h s e t l) : t.Carried (log ++ l) := by
  -- neither the store nor the stream has a part in what is carried
  have hother : ∀ (store : σ) (messages : List μ),
      ({ s with store := store, messages := messages } : Feed μ σ ρ).Carried log :=
    fun _ _ => ⟨hs.settled, hs.done⟩
  cases hmove with
  | idle => exact hs.mono []
  | publish m => exact (hother _ _).mono []
  | deliver w n hn => exact (hs.mono []).setJob w (by simp)
  | read w n m r hm hr => exact (hs.mono []).setJob w (by simp)
  | finish w n r c hjob hdone =>
      refine ((hother _ _).mono [n]).setJob w ?_
      intro n' hn'
      obtain ⟨rfl⟩ := (Job.mk.inj (Option.some.inj hn')).1
      exact List.mem_append_right _ (List.mem_singleton_self n)
  | fail w n r c hjob => exact ((hother _ _).mono []).setJob w (by simp)
  | ack w n hjob =>
      have hacked : ({ s with settled := n :: s.settled } : Feed μ σ ρ).Carried log :=
        ⟨List.cons_subset.mpr ⟨hs.done w n hjob, hs.settled⟩, hs.done⟩
      exact (hacked.mono []).setJob w (by simp)
  | lose w => exact (hs.mono []).setJob w (by simp)
  | outside store => exact (hother _ _).mono []

/-- **The stream forgets only what was handled**: a message that is forgotten in a run was forgotten
before, or the run carries it out to its end. -/
theorem handled_of_settled {s : Feed μ σ ρ} (hs : ∀ w, s.job w = none) {es : List (Event μ σ χ)} {n : ℕ}
    (hn : n ∈ (exec (step h) s es).settled) :
    n ∈ s.settled ∨ n ∈ outputs (step h) (handled h) s es := by
  have hstart : s.Carried s.settled :=
    ⟨List.Subset.refl _, fun w n hjob => absurd hjob (by simp [hs w])⟩
  have hend := history_of_invariant (fun t log e ht => ht.move (moves_step h t e)) hstart es
  exact List.mem_append.mp (hend.settled hn)

/-! ### What the stream has forgotten is done -/

end Feed

/-- What `V`, `Q` and `G` say of the store stays true. -/
structure Keeps (V : μ → σ → Prop) (Q : μ → ρ → σ → Prop) (G : μ → σ → Prop) (s s' : σ) : Prop where
  valid : ∀ m, V m s → V m s'
  loaded : ∀ m r, V m s → Q m r s → Q m r s'
  purpose : ∀ m, V m s → G m s → G m s'

/-- A handler under the conditions `ok` fulfils the purpose `G` of the messages that it carries out to
their end, and does no harm to what the others have read or done. -/
structure Treats (h : Handler μ σ ρ χ) (I : σ → Prop) (V : μ → σ → Prop) (Q : μ → ρ → σ → Prop)
    (G : μ → σ → Prop) (ok : μ → ρ → χ → σ → Prop) : Prop where
  read : ∀ {m s r}, I s → V m s → h.read m s = some r → Q m r s
  invariant : ∀ {m r c s}, I s → V m s → Q m r s → ok m r c s → I (h.finish r c s).1
  purpose : ∀ {m r c s}, I s → V m s → Q m r s → ok m r c s → (h.finish r c s).2 = true →
    G m (h.finish r c s).1
  keeps : ∀ {m r c s}, I s → V m s → Q m r s → ok m r c s → Keeps V Q G s (h.finish r c s).1

/-- What is known of a message that a worker is busy with. -/
def Phase.Holds (Q : μ → ρ → σ → Prop) (G : μ → σ → Prop) (m : μ) (s : σ) : Phase ρ → Prop
  | .fresh => True
  | .loaded r => Q m r s
  | .done => G m s

theorem Phase.Holds.keeps {V : μ → σ → Prop} {Q : μ → ρ → σ → Prop} {G : μ → σ → Prop} {s s' : σ}
    (hkeeps : Keeps V Q G s s') {m : μ} (hm : V m s) {p : Phase ρ} (hp : p.Holds Q G m s) :
    p.Holds Q G m s' := by
  cases p with
  | fresh => trivial
  | loaded r => exact hkeeps.loaded m r hm hp
  | done => exact hkeeps.purpose m hm hp

namespace Feed

variable {I : σ → Prop} {V : μ → σ → Prop} {Q : μ → ρ → σ → Prop} {G : μ → σ → Prop}
  {ok : μ → ρ → χ → σ → Prop}

variable (I V Q G) in
/-- The invariant of the whole system. -/
structure Sound (s : Feed μ σ ρ) : Prop where
  store : I s.store
  messages : ∀ m ∈ s.messages, V m s.store
  job : ∀ w j, s.job w = some j → ∃ m, s.messages[j.number]? = some m ∧ j.phase.Holds Q G m s.store
  settled : ∀ n ∈ s.settled, ∃ m, s.messages[n]? = some m ∧ G m s.store

variable (I V Q G ok) in
/-- Messages can count on what they may count on, who carries out what he has read meets the condition,
and the others respect what is there. -/
def Admissible (s : Feed μ σ ρ) : Event μ σ χ → Prop
  | .publish m => V m s.store
  | .finish w c => ∀ n r m, s.job w = some ⟨n, .loaded r⟩ → s.messages[n]? = some m → ok m r c s.store
  | .outside store => I store ∧ Keeps V Q G s.store store
  | _ => True

theorem Sound.setJob {s : Feed μ σ ρ} (hs : s.Sound I V Q G) (w : ℕ) {j : Option (Job ρ)}
    (hj : ∀ j' ∈ j, ∃ m, s.messages[j'.number]? = some m ∧ j'.phase.Holds Q G m s.store) :
    (s.setJob w j).Sound I V Q G where
  store := hs.store
  messages := hs.messages
  job := by
    intro w' j' hjob
    rw [setJob_job] at hjob
    split at hjob
    · exact hj j' hjob
    · exact hs.job w' j' hjob
  settled := hs.settled

theorem Sound.setStore {s : Feed μ σ ρ} (hs : s.Sound I V Q G) {store : σ} (hstore : I store)
    (hkeeps : Keeps V Q G s.store store) : ({ s with store := store } : Feed μ σ ρ).Sound I V Q G where
  store := hstore
  messages := fun m hm => hkeeps.valid m (hs.messages m hm)
  job := by
    intro w j hjob
    obtain ⟨m, hm, hp⟩ := hs.job w j hjob
    exact ⟨m, hm, hp.keeps hkeeps (hs.messages m (List.mem_of_getElem? hm))⟩
  settled := by
    intro n hn
    obtain ⟨m, hm, hg⟩ := hs.settled n hn
    exact ⟨m, hm, hkeeps.purpose m (hs.messages m (List.mem_of_getElem? hm)) hg⟩

theorem Sound.publish {s : Feed μ σ ρ} (hs : s.Sound I V Q G) {m : μ} (hvalid : V m s.store) :
    ({ s with messages := s.messages ++ [m] } : Feed μ σ ρ).Sound I V Q G := by
  have hold : ∀ {n : ℕ} {m' : μ}, s.messages[n]? = some m' → (s.messages ++ [m])[n]? = some m' := by
    intro n m' hm'
    obtain ⟨hlt, -⟩ := List.getElem?_eq_some_iff.mp hm'
    rw [List.getElem?_append_left hlt, hm']
  refine ⟨hs.store, fun m' hm' => ?_, fun w j hjob => ?_, fun n hn => ?_⟩
  · rcases List.mem_append.mp hm' with hm' | hm'
    · exact hs.messages m' hm'
    · obtain rfl := List.mem_singleton.mp hm'
      exact hvalid
  · obtain ⟨m', hm', hp⟩ := hs.job w j hjob
    exact ⟨m', hold hm', hp⟩
  · obtain ⟨m', hm', hg⟩ := hs.settled n hn
    exact ⟨m', hold hm', hg⟩

/-- **One step** keeps the invariant. -/
theorem Sound.move (ht : Treats h I V Q G ok) {s t : Feed μ σ ρ} (hs : s.Sound I V Q G)
    {e : Event μ σ χ} {l : List ℕ} (he : s.Admissible I V Q G ok e) (hmove : Moves h s e t l) :
    t.Sound I V Q G := by
  -- what carrying out a message does to the store
  have hcarry : ∀ {w n : ℕ} {r : ρ} {c : χ}, e = .finish w c → s.job w = some ⟨n, .loaded r⟩ →
      ∃ m, s.messages[n]? = some m ∧
        ({ s with store := (h.finish r c s.store).1 } : Feed μ σ ρ).Sound I V Q G ∧
        ((h.finish r c s.store).2 = true → G m (h.finish r c s.store).1) := by
    rintro w n r c rfl hjob
    obtain ⟨m, hm, hq⟩ := hs.job w _ hjob
    have hok : ok m r c s.store := he n r m hjob hm
    have hv := hs.messages m (List.mem_of_getElem? hm)
    exact ⟨m, hm, hs.setStore (ht.invariant hs.store hv hq hok) (ht.keeps hs.store hv hq hok),
      ht.purpose hs.store hv hq hok⟩
  cases hmove with
  | idle => exact hs
  | publish m => exact hs.publish he
  | deliver w n hn =>
      refine hs.setJob w ?_
      rintro j' ⟨⟩
      exact ⟨s.messages[n], List.getElem?_eq_getElem hn, trivial⟩
  | read w n m r hm hr =>
      refine hs.setJob w ?_
      rintro j' ⟨⟩
      exact ⟨m, hm, ht.read hs.store (hs.messages m (List.mem_of_getElem? hm)) hr⟩
  | finish w n r c hjob hdone =>
      obtain ⟨m, hm, hsound, hpurpose⟩ := hcarry rfl hjob
      refine hsound.setJob w ?_
      rintro j' ⟨⟩
      exact ⟨m, hm, hpurpose hdone⟩
  | fail w n r c hjob =>
      obtain ⟨m, hm, hsound, -⟩ := hcarry rfl hjob
      exact hsound.setJob w nofun
  | ack w n hjob =>
      have hacked : ({ s with settled := n :: s.settled } : Feed μ σ ρ).Sound I V Q G :=
        ⟨hs.store, hs.messages, hs.job, List.forall_mem_cons.mpr ⟨hs.job w _ hjob, hs.settled⟩⟩
      exact hacked.setJob w nofun
  | lose w => exact hs.setJob w nofun
  | outside store => exact hs.setStore he.1 he.2

/-- **All runs**: the invariant, and with it the purpose of all forgotten messages. -/
theorem Sound.exec (ht : Treats h I V Q G ok) {s : Feed μ σ ρ} (hs : s.Sound I V Q G)
    {es : List (Event μ σ χ)} (hes : Along (Feed.step h) (Admissible I V Q G ok) s es) :
    (Runs.exec (Feed.step h) s es).Sound I V Q G :=
  exec_of_along (I := fun t : Feed μ σ ρ => t.Sound I V Q G)
    (fun u e hu he => hu.move ht he (moves_step h u e)) hs hes

/-- The run of one worker alone: it takes the message, treats it and acknowledges it. -/
theorem exec_undisturbed {s : Feed μ σ ρ} {w n : ℕ} {m : μ} {r : ρ} {c : χ} (hidle : s.job w = none)
    (hm : s.messages[n]? = some m) (hn : n ∉ s.settled) (hread : h.read m s.store = some r)
    (hfinish : (h.finish r c s.store).2 = true) :
    Runs.exec (Feed.step h) s [.deliver w n, .read w, .finish w c, .ack w] =
      { s with store := (h.finish r c s.store).1, settled := n :: s.settled } := by
  obtain ⟨hlt, -⟩ := List.getElem?_eq_some_iff.mp hm
  have hdeliver : s.step h (.deliver w n : Event μ σ χ) = s.setJob w (some ⟨n, .fresh⟩) := by
    simp [Feed.step, hlt, hn, hidle]
  have hread' : (s.setJob w (some ⟨n, .fresh⟩)).step h (.read w : Event μ σ χ) =
      s.setJob w (some ⟨n, .loaded r⟩) := by
    simp [Feed.step, readFor, messageOf, hm, hread, setJob]
  have hfinish' : (s.setJob w (some ⟨n, .loaded r⟩)).step h (.finish w c) =
      { s with store := (h.finish r c s.store).1 }.setJob w (some ⟨n, .done⟩) := by
    simp [Feed.step, finishFor, hfinish, setJob]
  rw [exec_cons, hdeliver, exec_cons, hread', exec_cons, hfinish']
  simp [Feed.step, setJob, ← hidle]

end Feed
end Deliveries
