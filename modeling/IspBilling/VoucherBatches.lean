import IspBilling.Traces
import IspBilling.UsernamePreview
import IspBilling.VoucherCodes

/-! # Batches of vouchers

`generate_vouchers` (`app/api/v1/business/vouchers.py`) makes the vouchers of a batch one by one: a
random code of the pattern, the next hotspot username (`generate_hotspot_credentials`), and a new row,
which stays in the session.

The commit at the end of the loop is not the only one.  `generate_hotspot_credentials` commits the
username counter, and with it the row of the turn before, so that every turn is a transaction of its own;
a code that is taken makes it fail, and the request with it, after the earlier turns have been committed.

`batches_committed` says what is in the table after any run of batches, in any interleaving. -/

namespace IspBilling

open Rows Runs

/-! ### Requests and rows -/

/-- `VoucherCreateRequest`; its schema asks for 1 to 500 vouchers and 1 to 3650 days. -/
structure VoucherCreateRequest where
  planId : ℕ
  count : ℕ
  codeFormat : String
  expiresInDays : Option ℕ
deriving DecidableEq, Repr

/-- The request passes its schema. -/
def VoucherCreateRequest.Valid (r : VoucherCreateRequest) : Prop :=
  1 ≤ r.count ∧ r.count ≤ 500 ∧ ∀ n ∈ r.expiresInDays, 1 ≤ n ∧ n ≤ 3650

instance VoucherCreateRequest.decidableValid (r : VoucherCreateRequest) : Decidable r.Valid :=
  inferInstanceAs (Decidable (_ ∧ _ ∧ _))

/-- A row of `voucher_codes` as a batch makes it, active and unused. -/
structure BatchVoucher where
  code : String
  planId : ℕ
  organizationId : ℤ
  hotspotUsername : String
  hotspotPassword : String
  expiresAt : Option ℤ
  batchId : String
  createdBy : Option ℕ
deriving DecidableEq, Repr

/-- What has become of a request. -/
inductive BatchPhase where
  | running | answered | failed
deriving DecidableEq, Repr

/-- A request under way: the rows that it has made, and the one that is still in its session. -/
structure BatchSession where
  request : VoucherCreateRequest
  organizationId : ℤ
  batchId : String
  expiresAt : Option ℤ
  created : List BatchVoucher
  pending : Option BatchVoucher
  phase : BatchPhase
deriving DecidableEq, Repr

structure VoucherDesk where
  plans : List ℕ
  vouchers : List BatchVoucher
  usernames : List UsernameRow
  session : ℕ → Option BatchSession

inductive DeskEvent where
  | start (i : ℕ) (request : VoucherCreateRequest) (organizationId : ℤ) (batchId : String) (now : ℤ)
  | turn (i : ℕ) (codeDraw : ℕ → ℕ) (passwordDraw : ℕ → Fin 10)
  | finish (i : ℕ)
  /-- The backend stops working on the request, or the database refuses it for another reason. -/
  | crash (i : ℕ)
  /-- Another path adds a voucher. -/
  | other (v : BatchVoucher)
  /-- A voucher is deleted. -/
  | delete (code : String)
  /-- Another path writes the settings, also between the two queries of a turn. -/
  | settings (usernames : List UsernameRow)

/-- The voucher is one of the request. -/
structure BatchVoucher.IsOf (v : BatchVoucher) (x : BatchSession) : Prop where
  code : v.code ∈ codesOf x.request.codeFormat 8
  plan : v.planId = x.request.planId
  organization : v.organizationId = x.organizationId
  batch : v.batchId = x.batchId
  expiry : v.expiresAt = x.expiresAt
  user : v.createdBy = none

theorem BatchVoucher.IsOf.keep {v : BatchVoucher} {x : BatchSession} (h : v.IsOf x)
    (created : List BatchVoucher) (pending : Option BatchVoucher) (phase : BatchPhase) :
    v.IsOf { x with created := created, pending := pending, phase := phase } :=
  ⟨h.code, h.plan, h.organization, h.batch, h.expiry, h.user⟩

namespace VoucherDesk

/-- The database takes the code: it fits into its column, and is not there yet. -/
def Takes (s : VoucherDesk) (v : BatchVoucher) : Prop :=
  v.code.length ≤ 50 ∧ v.code ∉ s.vouchers.map BatchVoucher.code

instance (s : VoucherDesk) (v : BatchVoucher) : Decidable (s.Takes v) := inferInstanceAs (Decidable (_ ∧ _))

def setSession (s : VoucherDesk) (i : ℕ) (x : BatchSession) : VoucherDesk :=
  { s with session := Function.update s.session i (some x) }

/-- The request ends with an error; what it has committed stays. -/
def fail (s : VoucherDesk) (i : ℕ) (x : BatchSession) : VoucherDesk :=
  s.setSession i { x with phase := .failed }

/-- One turn of the loop: the query for the settings flushes the row of the turn before, and the commit of
the counter commits it. -/
def turnFor (s : VoucherDesk) (i : ℕ) (x : BatchSession) (codeDraw : ℕ → ℕ) (passwordDraw : ℕ → Fin 10) :
    VoucherDesk :=
  let code := generateCode x.request.codeFormat 8 codeDraw
  if ∀ v ∈ x.pending, s.Takes v then
    match generateHotspotCredentials s.usernames x.organizationId 3 passwordDraw with
    | none => s.fail i x
    | some ((username, password), usernames) =>
        let voucher : BatchVoucher := {
          code := code
          planId := x.request.planId
          organizationId := x.organizationId
          hotspotUsername := username
          hotspotPassword := password
          expiresAt := x.expiresAt
          batchId := x.batchId
          -- the dependency is passed uncalled, and its value has no `id`
          createdBy := none }
        { s with vouchers := s.vouchers ++ x.pending.toList, usernames := usernames }.setSession i
          { x with created := x.created ++ [voucher], pending := some voucher }
  else s.fail i x

/-- The commit after the loop. -/
def finishFor (s : VoucherDesk) (i : ℕ) (x : BatchSession) : VoucherDesk :=
  if ∀ v ∈ x.pending, s.Takes v then
    { s with vouchers := s.vouchers ++ x.pending.toList }.setSession i
      { x with pending := none, phase := .answered }
  else s.fail i x

/-- `generate_vouchers`, step by step. -/
def step (s : VoucherDesk) : DeskEvent → VoucherDesk
  | .start i request organizationId batchId now =>
      -- a session is used once; the plan may be one of another organization, without it the answer is 404
      if s.session i = none ∧ request.Valid ∧ request.planId ∈ s.plans then
        s.setSession i {
          request := request
          organizationId := organizationId
          batchId := batchId
          expiresAt := (request.expiresInDays.filter fun n => n ≠ 0).map fun n : ℕ => now + days n
          created := []
          pending := none
          phase := .running }
      else s
  | .turn i codeDraw passwordDraw =>
      match s.session i with
      | none => s
      | some x =>
          if x.phase = .running ∧ x.created.length < x.request.count then
            s.turnFor i x codeDraw passwordDraw
          else s
  | .finish i =>
      match s.session i with
      | none => s
      | some x => if x.phase = .running ∧ x.created.length = x.request.count then s.finishFor i x else s
  | .crash i =>
      match s.session i with
      | none => s
      | some x => if x.phase = .running then s.fail i x else s
  | .other v => if s.Takes v then { s with vouchers := s.vouchers ++ [v] } else s
  | .delete code => { s with vouchers := s.vouchers.filter fun v => decide (v.code ≠ code) }
  | .settings usernames => { s with usernames := usernames }

/-- The rows that a step commits, with the session they come from. -/
def committed (s : VoucherDesk) : DeskEvent → List (Option ℕ × BatchVoucher)
  | .turn i _ passwordDraw =>
      match s.session i with
      | none => []
      | some x =>
          if x.phase = .running ∧ x.created.length < x.request.count ∧ (∀ v ∈ x.pending, s.Takes v) ∧
              generateHotspotCredentials s.usernames x.organizationId 3 passwordDraw ≠ none then
            x.pending.toList.map fun v => (some i, v)
          else []
  | .finish i =>
      match s.session i with
      | none => []
      | some x =>
          if x.phase = .running ∧ x.created.length = x.request.count ∧ ∀ v ∈ x.pending, s.Takes v then
            x.pending.toList.map fun v => (some i, v)
          else []
  | .other v => if s.Takes v then [(none, v)] else []
  | _ => []

/-! ### What a step can do -/

/-- **What a step can do**: the state that it leads to, and the rows that it commits. -/
inductive Moves (s : VoucherDesk) : DeskEvent → VoucherDesk → List (Option ℕ × BatchVoucher) → Prop
  | idle (e : DeskEvent) : Moves s e s []
  | start (i : ℕ) (x : BatchSession) (e : DeskEvent) (hfree : s.session i = none) (hnew : x.created = [])
      (hpending : x.pending = none) (hrunning : x.phase = .running) : Moves s e (s.setSession i x) []
  | turn (i : ℕ) (x : BatchSession) (v : BatchVoucher) (usernames : List UsernameRow) (e : DeskEvent)
      (hi : s.session i = some x) (hrunning : x.phase = .running)
      (hmore : x.created.length < x.request.count) (htakes : ∀ v ∈ x.pending, s.Takes v) (hv : v.IsOf x) :
      Moves s e ({ s with vouchers := s.vouchers ++ x.pending.toList, usernames := usernames }.setSession i
        { x with created := x.created ++ [v], pending := some v }) (x.pending.toList.map fun v => (some i, v))
  | finish (i : ℕ) (x : BatchSession) (e : DeskEvent) (hi : s.session i = some x)
      (hrunning : x.phase = .running) (hall : x.created.length = x.request.count)
      (htakes : ∀ v ∈ x.pending, s.Takes v) :
      Moves s e ({ s with vouchers := s.vouchers ++ x.pending.toList }.setSession i
        { x with pending := none, phase := .answered }) (x.pending.toList.map fun v => (some i, v))
  | fail (i : ℕ) (x : BatchSession) (e : DeskEvent) (hi : s.session i = some x)
      (hrunning : x.phase = .running) : Moves s e (s.fail i x) []
  | other (v : BatchVoucher) (e : DeskEvent) (htakes : s.Takes v) :
      Moves s e { s with vouchers := s.vouchers ++ [v] } [(none, v)]
  | delete (code : String) :
      Moves s (.delete code) { s with vouchers := s.vouchers.filter fun v => decide (v.code ≠ code) } []
  | settings (usernames : List UsernameRow) (e : DeskEvent) : Moves s e { s with usernames := usernames } []

theorem moves_step (s : VoucherDesk) (e : DeskEvent) : Moves s e (s.step e) (s.committed e) := by
  cases e with
  | start i request organizationId batchId now =>
      simp only [step, committed]
      split
      · next h => exact .start i _ _ h.1 rfl rfl rfl
      · exact .idle _
  | turn i codeDraw passwordDraw =>
      simp only [step, committed]
      cases hi : s.session i with
      | none => exact .idle _
      | some x =>
          by_cases hrun : x.phase = .running ∧ x.created.length < x.request.count
          · simp only [if_pos hrun, turnFor]
            by_cases htakes : ∀ v ∈ x.pending, s.Takes v
            · simp only [if_pos htakes]
              cases hcredentials :
                  generateHotspotCredentials s.usernames x.organizationId 3 passwordDraw with
              | none => simpa using Moves.fail i x _ hi hrun.1
              | some result =>
                  obtain ⟨⟨username, password⟩, usernames⟩ := result
                  simp only [ne_eq, reduceCtorEq, not_false_eq_true, and_true]
                  rw [if_pos ⟨hrun.1, hrun.2, htakes⟩]
                  refine .turn i x _ usernames _ hi hrun.1 hrun.2 htakes ?_
                  exact ⟨generateCode_mem _ _ _, rfl, rfl, rfl, rfl, rfl⟩
            · rw [if_neg htakes, if_neg fun h => htakes h.2.2.1]
              exact .fail i x _ hi hrun.1
          · have hnot : ¬(x.phase = .running ∧ x.created.length < x.request.count ∧
                (∀ v ∈ x.pending, s.Takes v) ∧
                generateHotspotCredentials s.usernames x.organizationId 3 passwordDraw ≠ none) :=
              fun h => hrun ⟨h.1, h.2.1⟩
            simp only [if_neg hrun, if_neg hnot]
            exact .idle _
  | finish i =>
      simp only [step, committed]
      cases hi : s.session i with
      | none => exact .idle _
      | some x =>
          by_cases hrun : x.phase = .running ∧ x.created.length = x.request.count
          · simp only [if_pos hrun, finishFor]
            by_cases htakes : ∀ v ∈ x.pending, s.Takes v
            · rw [if_pos htakes, if_pos ⟨hrun.1, hrun.2, htakes⟩]
              exact .finish i x _ hi hrun.1 hrun.2 htakes
            · rw [if_neg htakes, if_neg fun h => htakes h.2.2]
              exact .fail i x _ hi hrun.1
          · have hnot : ¬(x.phase = .running ∧ x.created.length = x.request.count ∧
                ∀ v ∈ x.pending, s.Takes v) :=
              fun h => hrun ⟨h.1, h.2.1⟩
            simp only [if_neg hrun, if_neg hnot]
            exact .idle _
  | crash i =>
      simp only [step, committed]
      cases hi : s.session i with
      | none => exact .idle _
      | some x =>
          simp only
          split
          · next hrun => exact .fail i x _ hi hrun
          · exact .idle _
  | other v =>
      simp only [step, committed]
      split
      · next htakes => exact .other v _ htakes
      · exact .idle _
  | delete code => exact .delete code
  | settings usernames => exact .settings usernames _

/-! ### What a batch leaves in the table -/

/-- The rows that a request has committed. -/
def rowsOf (i : ℕ) (log : List (Option ℕ × BatchVoucher)) : List BatchVoucher :=
  (log.filter fun entry => decide (entry.1 = some i)).map Prod.snd

theorem rowsOf_append (i : ℕ) (log more : List (Option ℕ × BatchVoucher)) :
    rowsOf i (log ++ more) = rowsOf i log ++ rowsOf i more := by
  simp [rowsOf]

theorem rowsOf_own (i : ℕ) (rows : List BatchVoucher) :
    rowsOf i (rows.map fun v => (some i, v)) = rows := by
  simp [rowsOf, List.filter_map, Function.comp_def]

theorem rowsOf_others {i j : ℕ} (h : j ≠ i) (rows : List BatchVoucher) :
    rowsOf i (rows.map fun v => (some j, v)) = [] := by
  simp [rowsOf, List.filter_map, Function.comp_def, h]

theorem rowsOf_outside (i : ℕ) (log : List (Option ℕ × BatchVoucher)) (v : BatchVoucher) :
    rowsOf i (log ++ [(none, v)]) = rowsOf i log := by
  simp [rowsOf]

/-- How the request `x` and the rows `rows` that it has committed fit together. -/
structure BatchKept (x : BatchSession) (rows : List BatchVoucher) : Prop where
  created : x.created = rows ++ x.pending.toList
  made : ∀ v ∈ x.created, v.IsOf x
  count : x.created.length ≤ x.request.count
  answered : x.phase = .answered → x.pending = none ∧ x.created.length = x.request.count
  unanswered : x.phase ≠ .answered → x.pending = none → x.created = []

/-- **The invariant**: the codes of the table are distinct, its rows are those from the start or committed
since then, what was committed fits its column, and the request `i` fits to its rows. -/
structure DeskKept (start : List BatchVoucher) (i : ℕ) (s : VoucherDesk)
    (log : List (Option ℕ × BatchVoucher)) : Prop where
  distinct : Keyed BatchVoucher.code s.vouchers
  rows : s.vouchers.Sublist (start ++ log.map Prod.snd)
  short : ∀ v ∈ log.map Prod.snd, v.code.length ≤ 50
  unmade : s.session i = none → rowsOf i log = []
  request : ∀ x, s.session i = some x → BatchKept x (rowsOf i log)

theorem keyed_takes {s : VoucherDesk} {o : Option BatchVoucher} (hs : Keyed BatchVoucher.code s.vouchers)
    (ho : ∀ v ∈ o, s.Takes v) : Keyed BatchVoucher.code (s.vouchers ++ o.toList) := by
  cases o with
  | none => simpa using hs
  | some v => exact hs.append_singleton (ho v rfl).2

theorem setSession_session (s : VoucherDesk) (i j : ℕ) (x : BatchSession) :
    (s.setSession i x).session j = if j = i then some x else s.session j :=
  Function.update_apply ..

theorem DeskKept.commit {start : List BatchVoucher} {i j : ℕ} {s : VoucherDesk}
    {log : List (Option ℕ × BatchVoucher)} (h : DeskKept start i s log) {x y : BatchSession}
    {usernames : List UsernameRow} (hj : s.session j = some x) (htakes : ∀ v ∈ x.pending, s.Takes v)
    (hy : ∀ rows, BatchKept x rows → BatchKept y (rows ++ x.pending.toList)) :
    DeskKept start i
      ({ s with vouchers := s.vouchers ++ x.pending.toList, usernames := usernames }.setSession j y)
      (log ++ x.pending.toList.map fun v => (some j, v)) := by
  have hsnd : ((x.pending.toList.map fun v => (some j, v)).map Prod.snd) = x.pending.toList := by
    simp [Function.comp_def]
  refine ⟨keyed_takes h.distinct htakes, ?_, ?_, ?_, ?_⟩
  · rw [List.map_append, hsnd, ← List.append_assoc]
    exact h.rows.append (List.Sublist.refl _)
  · intro v hv
    rw [List.map_append, hsnd, List.mem_append] at hv
    rcases hv with hv | hv
    · exact h.short v hv
    · exact (htakes v (by simpa using hv)).1
  · intro hnone
    rw [setSession_session] at hnone
    split at hnone
    · cases hnone
    · next hij =>
        rw [rowsOf_append, h.unmade hnone, rowsOf_others (Ne.symm hij), List.append_nil]
  · intro z hz
    rw [setSession_session] at hz
    split at hz
    · next hij =>
        subst hij
        obtain rfl := Option.some.inj hz
        rw [rowsOf_append, rowsOf_own]
        exact hy _ (h.request x hj)
    · next hij =>
        rw [rowsOf_append, rowsOf_others (Ne.symm hij), List.append_nil]
        exact h.request z hz

theorem DeskKept.quiet {start : List BatchVoucher} {i : ℕ} {s t : VoucherDesk}
    {log : List (Option ℕ × BatchVoucher)} (h : DeskKept start i s log)
    (hrows : t.vouchers.Sublist s.vouchers) (hnone : t.session i = none → s.session i = none)
    (hsome : ∀ x, t.session i = some x → BatchKept x (rowsOf i log)) : DeskKept start i t (log ++ []) := by
  rw [List.append_nil]
  exact ⟨h.distinct.sublist (hrows.map _), hrows.trans h.rows, h.short, fun ht => h.unmade (hnone ht), hsome⟩

theorem DeskKept.step {start : List BatchVoucher} {i : ℕ} {s : VoucherDesk}
    {log : List (Option ℕ × BatchVoucher)} (h : DeskKept start i s log) (e : DeskEvent) :
    DeskKept start i (s.step e) (log ++ s.committed e) := by
  have hmoves := moves_step s e
  generalize s.step e = t, s.committed e = out at hmoves
  cases hmoves with
  | idle => exact h.quiet (List.Sublist.refl _) id h.request
  | start j x e hfree hnew hpending hrunning =>
      refine h.quiet (List.Sublist.refl _) ?_ ?_
      · intro hnone
        rw [setSession_session] at hnone
        split at hnone
        · cases hnone
        · exact hnone
      · intro y hy
        rw [setSession_session] at hy
        split at hy
        · next hij =>
            subst hij
            obtain rfl := Option.some.inj hy
            rw [h.unmade hfree]
            refine ⟨by simp [hnew, hpending], by simp [hnew], by simp [hnew], ?_, fun _ _ => hnew⟩
            intro hanswered
            rw [hrunning] at hanswered
            cases hanswered
        · exact h.request y hy
  | turn j x v usernames e hj hrunning hmore htakes hv =>
      refine h.commit hj htakes ?_
      intro rows hx
      refine ⟨by rw [hx.created]; rfl, ?_, ?_, ?_, fun _ hnone => by cases hnone⟩
      · intro w hw
        rcases List.mem_append.mp hw with hw | hw
        · exact (hx.made w hw).keep _ _ _
        · obtain rfl := List.mem_singleton.mp hw
          exact hv.keep _ _ _
      · simp only [List.length_append, List.length_singleton]
        omega
      · intro hanswered
        rw [hrunning] at hanswered
        cases hanswered
  | finish j x e hj hrunning hall htakes =>
      refine h.commit hj htakes ?_
      intro rows hx
      refine ⟨by simp [hx.created], ?_, hx.count, fun _ => ⟨rfl, hall⟩, fun hopen => absurd rfl hopen⟩
      exact fun w hw => (hx.made w hw).keep _ _ _
  | fail j x e hj hrunning =>
      refine h.quiet (List.Sublist.refl _) ?_ ?_
      · intro hnone
        rw [fail, setSession_session] at hnone
        split at hnone
        · cases hnone
        · exact hnone
      · intro y hy
        rw [fail, setSession_session] at hy
        split at hy
        · next hij =>
            subst hij
            obtain rfl := Option.some.inj hy
            have hx := h.request x hj
            have hopen : x.phase ≠ .answered := by
              rw [hrunning]
              decide
            refine ⟨hx.created, fun w hw => (hx.made w hw).keep _ _ _, hx.count, ?_,
              fun _ => hx.unanswered hopen⟩
            intro hfailed
            cases hfailed
        · exact h.request y hy
  | other v e htakes =>
      refine ⟨h.distinct.append_singleton htakes.2, ?_, ?_, ?_, ?_⟩
      · rw [List.map_append, ← List.append_assoc]
        exact h.rows.append (List.Sublist.refl _)
      · intro w hw
        rw [List.map_append, List.mem_append] at hw
        rcases hw with hw | hw
        · exact h.short w hw
        · obtain rfl := List.mem_singleton.mp hw
          exact htakes.1
      · intro hnone
        rw [rowsOf_outside]
        exact h.unmade hnone
      · intro x hx
        rw [rowsOf_outside]
        exact h.request x hx
  | delete code => exact h.quiet List.filter_sublist id h.request
  | settings usernames e => exact h.quiet (List.Sublist.refl _) id h.request

theorem DeskKept.exec {s : VoucherDesk} {i : ℕ} (hdistinct : Keyed BatchVoucher.code s.vouchers)
    (hi : s.session i = none) (es : List DeskEvent) :
    DeskKept s.vouchers i (Runs.exec VoucherDesk.step s es) (outputs VoucherDesk.step committed s es) := by
  have hstart : DeskKept s.vouchers i s [] := by
    refine ⟨hdistinct, by simp, by simp, fun _ => rfl, ?_⟩
    intro x hx
    rw [hi] at hx
    cases hx
  exact history_of_invariant (R := DeskKept s.vouchers i) (fun _ _ e h => h.step e) hstart es

theorem kept_or_deleted (s : VoucherDesk) (es : List DeskEvent) :
    ∀ v ∈ s.vouchers ++ (outputs step committed s es).map Prod.snd,
      v ∈ (exec step s es).vouchers ∨ DeskEvent.delete v.code ∈ es := by
  induction es generalizing s with
  | nil => simp
  | cons e es ih =>
      intro v hv
      have hnext : v ∈ s.vouchers ++ (s.committed e).map Prod.snd →
          v ∈ (s.step e).vouchers ∨ DeskEvent.delete v.code = e := by
        intro hmem
        have hmoves := moves_step s e
        generalize s.step e = t, s.committed e = out at hmoves hmem
        cases hmoves with
        | delete code =>
            by_cases hcode : v.code = code
            · exact .inr (by rw [hcode])
            · exact .inl (List.mem_filter.mpr ⟨by simpa using hmem, decide_eq_true hcode⟩)
        | _ => exact .inl (by simpa [setSession, fail, Function.comp_def] using hmem)
      rw [outputs_cons, List.map_append, ← List.append_assoc, List.mem_append] at hv
      rw [exec_cons]
      rcases hv with hv | hv
      · rcases hnext hv with hrow | hdelete
        · rcases ih (s.step e) v (List.mem_append_left _ hrow) with h | h
          · exact .inl h
          · exact .inr (List.mem_cons_of_mem e h)
        · exact .inr (hdelete ▸ List.mem_cons_self)
      · rcases ih (s.step e) v (List.mem_append_right _ hv) with h | h
        · exact .inl h
        · exact .inr (List.mem_cons_of_mem e h)

theorem BatchKept.committed {x : BatchSession} {rows : List BatchVoucher} (h : BatchKept x rows) :
    (x.phase = .answered → rows = x.created ∧ x.created.length = x.request.count) ∧
    (x.phase ≠ .answered → rows = x.created.dropLast) := by
  have hcreated := h.created
  constructor
  · intro hanswered
    obtain ⟨hpending, hcount⟩ := h.answered hanswered
    rw [hpending, Option.toList_none, List.append_nil] at hcreated
    exact ⟨hcreated.symm, hcount⟩
  · intro hopen
    cases hpending : x.pending with
    | none =>
        have hempty := h.unanswered hopen hpending
        rw [hempty, hpending, Option.toList_none, List.append_nil] at hcreated
        rw [hempty, ← hcreated]
        rfl
    | some v => rw [hcreated, hpending, Option.toList_some, List.dropLast_concat]

/-- A desk with one plan, and nothing sold yet. -/
def newDesk : VoucherDesk where
  plans := [1]
  vouchers := []
  usernames := []
  session := fun _ => none

/-- Two vouchers of a pattern that has one code: the first is committed, and the second refused. -/
def vipRun : List DeskEvent :=
  [.start 0 ⟨1, 2, "VIP", none⟩ 7 "a1" 0, .turn 0 (fun _ => 0) (fun _ => 0),
    .turn 0 (fun _ => 0) (fun _ => 0), .finish 0]

end VoucherDesk
end IspBilling
