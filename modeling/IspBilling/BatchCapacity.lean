import IspBilling.VoucherBatches

/-! # When a batch of vouchers can succeed

The codes of a pattern are finitely many, and a code that is taken ends the request.

`count_le_freeCodes` bounds every batch that succeeds, whatever happens around it, and
`answered_of_codes` is the run of a batch that nobody disturbs; `batch_possible_iff` puts them
together. -/

namespace IspBilling

open Rows Runs

namespace VoucherDesk

/-! ### The codes that are left -/

/-- The codes of a pattern that the database would take. -/
def freeCodes (s : VoucherDesk) (formatPattern : String) : List String :=
  (codesOf formatPattern 8).filter fun code =>
    decide (code.length ≤ 50 ∧ code ∉ s.vouchers.map BatchVoucher.code)

theorem mem_freeCodes {s : VoucherDesk} {formatPattern code : String} :
    code ∈ s.freeCodes formatPattern ↔
      code ∈ codesOf formatPattern 8 ∧ code.length ≤ 50 ∧ code ∉ s.vouchers.map BatchVoucher.code := by
  simp [freeCodes]

theorem freeCodes_sublist (s : VoucherDesk) (formatPattern : String) :
    (s.freeCodes formatPattern).Sublist (codesOf formatPattern 8) := List.filter_sublist

theorem vouchers_exec {s : VoucherDesk} {es : List DeskEvent} (hes : ∀ code, DeskEvent.delete code ∉ es) :
    (exec step s es).vouchers = s.vouchers ++ (outputs step committed s es).map Prod.snd := by
  have halong : ∀ (t : VoucherDesk), Along step (fun _ e => ∀ code, e ≠ DeskEvent.delete code) t es := by
    intro t
    induction es generalizing t with
    | nil => trivial
    | cons e es ih =>
        refine ⟨fun code hdelete => hes code (hdelete ▸ List.mem_cons_self), ?_⟩
        exact ih (fun code hmem => hes code (List.mem_cons_of_mem e hmem)) _
  refine history_of_along (R := fun t log => t.vouchers = s.vouchers ++ log.map Prod.snd) ?_
    (l := []) (by simp) (halong s)
  intro t log e hrows hdelete
  have hmoves := moves_step t e
  generalize t.step e = t', t.committed e = out at hmoves
  cases hmoves with
  | delete code => exact absurd rfl (hdelete code)
  | _ => simp [setSession, fail, hrows, Function.comp_def]

theorem request_exec {s : VoucherDesk} {i : ℕ} {x : BatchSession} (hx : s.session i = some x)
    (es : List DeskEvent) : ∃ y, (exec step s es).session i = some y ∧ y.request = x.request := by
  refine exec_of_invariant (I := fun t : VoucherDesk => ∃ y, t.session i = some y ∧ y.request = x.request) ?_
    ⟨x, hx, rfl⟩ es
  rintro t e ⟨y, hy, hrequest⟩
  -- a step that replaces a session keeps its request
  have hset : ∀ (t' : VoucherDesk) (j : ℕ) (z z' : BatchSession), t'.session i = some y →
      t.session j = some z → z'.request = z.request →
      ∃ y', (t'.setSession j z').session i = some y' ∧ y'.request = x.request := by
    intro t' j z z' ht' hj hz'
    rw [setSession_session]
    split
    · next hij =>
        subst hij
        rw [hy] at hj
        obtain rfl := Option.some.inj hj
        exact ⟨z', rfl, hz'.trans hrequest⟩
    · exact ⟨y, ht', hrequest⟩
  have hmoves := moves_step t e
  generalize t.step e = t', t.committed e = out at hmoves
  cases hmoves with
  | start j z e hfree hnew hpending hrunning =>
      rw [setSession_session]
      split
      · next hij =>
          subst hij
          rw [hy] at hfree
          cases hfree
      · exact ⟨y, hy, hrequest⟩
  | turn j z v usernames e hj hrunning hmore htakes hv => exact hset _ j z _ hy hj rfl
  | finish j z e hj hrunning hall htakes => exact hset _ j z _ hy hj rfl
  | fail j z e hj hrunning => exact hset t j z _ hy hj rfl
  | _ => exact ⟨y, hy, hrequest⟩

/-- **No batch is larger than the free codes of its pattern**, whatever else happens. -/
theorem count_le_freeCodes {s : VoucherDesk} (hdistinct : Keyed BatchVoucher.code s.vouchers) {i : ℕ}
    (hi : s.session i = none) {es : List DeskEvent} (hes : ∀ code, DeskEvent.delete code ∉ es)
    {x : BatchSession} (hx : (exec step s es).session i = some x) (hanswered : x.phase = .answered) :
    x.request.count ≤ (s.freeCodes x.request.codeFormat).length := by
  have hkept := DeskKept.exec hdistinct hi es
  have hbatch := hkept.request x hx
  obtain ⟨hrows, hcount⟩ := hbatch.committed.1 hanswered
  have hsub : (rowsOf i (outputs step committed s es)).Sublist
      ((outputs step committed s es).map Prod.snd) := List.filter_sublist.map _
  have hcodes : (s.vouchers.map BatchVoucher.code ++
      ((outputs step committed s es).map Prod.snd).map BatchVoucher.code).Nodup := by
    have hall := hkept.distinct
    rwa [vouchers_exec hes, Keyed, List.map_append] at hall
  obtain ⟨-, hnodup, hapart⟩ := List.nodup_append.mp hcodes
  rw [hrows] at hsub
  have hfree : x.created.map BatchVoucher.code ⊆ s.freeCodes x.request.codeFormat := by
    intro code hcode
    obtain ⟨v, hv, rfl⟩ := List.mem_map.mp hcode
    refine mem_freeCodes.mpr ⟨(hbatch.made v hv).code, hkept.short v (hsub.subset hv), ?_⟩
    intro hold
    exact hapart _ hold _ (List.mem_map_of_mem (hsub.subset hv)) rfl
  have hle := (List.subperm_of_subset (hnodup.sublist (hsub.map _)) hfree).length_le
  rwa [List.length_map, hcount] at hle

/-! ### A batch alone -/

/-- The events of one request after its start. -/
def Own (i : ℕ) : DeskEvent → Prop
  | .turn j _ _ | .finish j => j = i
  | _ => False

theorem one_settings {usernames : List UsernameRow} {organizationId : ℤ} (passwordDraw : ℕ → Fin 10)
    (h : oneOrNone (usernames.filter fun row => decide (row.organizationId = organizationId)) ≠ none) :
    ∃ username password usernames',
      generateHotspotCredentials usernames organizationId 3 passwordDraw =
        some ((username, password), usernames') ∧
      oneOrNone (usernames'.filter fun row => decide (row.organizationId = organizationId)) ≠ none := by
  cases hcredentials : generateHotspotCredentials usernames organizationId 3 passwordDraw with
  | none =>
      exfalso
      unfold generateHotspotCredentials at hcredentials
      split at hcredentials
      · next hnone => exact h hnone
      · cases hcredentials
  | some result =>
      obtain ⟨⟨username, password⟩, usernames'⟩ := result
      refine ⟨username, password, usernames', rfl, ?_⟩
      obtain ⟨settings, -, hrow⟩ := filter_generated hcredentials
      rw [hrow]
      simp [oneOrNone]

theorem takes_of_nodup {s : VoucherDesk} {o : Option BatchVoucher} {codes : List String}
    (hnodup : ((s.vouchers ++ o.toList).map BatchVoucher.code ++ codes).Nodup)
    (hshort : ∀ v ∈ o, v.code.length ≤ 50) : ∀ v ∈ o, s.Takes v := by
  intro v hv
  refine ⟨hshort v hv, ?_⟩
  have hv' : o = some v := hv
  rw [hv', Option.toList_some, List.map_append, List.map_cons, List.map_nil, List.append_assoc] at hnodup
  exact fun hold => (List.nodup_append.mp hnodup).2.2 _ hold _ List.mem_cons_self rfl

/-- **A batch succeeds** if it draws codes that differ and that the database takes. -/
theorem answered_of_codes {i : ℕ} (codes : List String) {s : VoucherDesk} {x : BatchSession}
    (hx : s.session i = some x) (hrunning : x.phase = .running)
    (hcount : x.created.length + codes.length = x.request.count)
    (hrow : oneOrNone (s.usernames.filter fun row => decide (row.organizationId = x.organizationId)) ≠ none)
    (hnodup : ((s.vouchers ++ x.pending.toList).map BatchVoucher.code ++ codes).Nodup)
    (hshort : ∀ v ∈ x.pending, v.code.length ≤ 50)
    (hcodes : ∀ code ∈ codes, code ∈ codesOf x.request.codeFormat 8 ∧ code.length ≤ 50) :
    ∃ es, (∀ e ∈ es, Own i e) ∧ ∃ y, (exec step s es).session i = some y ∧ y.phase = .answered := by
  induction codes generalizing s x with
  | nil =>
      have htakes := takes_of_nodup hnodup hshort
      refine ⟨[.finish i], by simp [Own], { x with pending := none, phase := .answered }, ?_, rfl⟩
      have hall : x.created.length = x.request.count := by simpa using hcount
      rw [exec_cons, exec_nil, step]
      simp only [hx]
      rw [if_pos ⟨hrunning, hall⟩, finishFor, if_pos htakes, setSession_session, if_pos rfl]
  | cons code codes ih =>
      have htakes := takes_of_nodup hnodup hshort
      obtain ⟨⟨hcode, hlength⟩, hrest⟩ := List.forall_mem_cons.mp hcodes
      obtain ⟨draw, hdraw⟩ := mem_codesOf_iff.mp hcode
      obtain ⟨username, password, usernames, hcredentials, hone⟩ :=
        one_settings (fun _ => 0) hrow
      rw [List.length_cons] at hcount
      have hmore : x.created.length < x.request.count := by
        omega
      let voucher : BatchVoucher := {
        code := code
        planId := x.request.planId
        organizationId := x.organizationId
        hotspotUsername := username
        hotspotPassword := password
        expiresAt := x.expiresAt
        batchId := x.batchId
        createdBy := none }
      have hturn : s.step (.turn i draw fun _ => 0) =
          { s with vouchers := s.vouchers ++ x.pending.toList, usernames := usernames }.setSession i
            { x with created := x.created ++ [voucher], pending := some voucher } := by
        rw [step]
        simp only [hx]
        rw [if_pos ⟨hrunning, hmore⟩, turnFor]
        simp only [if_pos htakes, hcredentials, hdraw]
        rfl
      obtain ⟨es, hown, y, hy, hanswered⟩ := ih (s := s.step (.turn i draw fun _ => 0))
        (x := { x with created := x.created ++ [voucher], pending := some voucher })
        (by rw [hturn, setSession_session, if_pos rfl]) hrunning
        (by
          simp only [List.length_append, List.length_singleton]
          omega)
        (by
          rw [hturn]
          exact hone)
        (by
          rw [hturn]
          simpa [setSession, List.append_assoc, voucher] using hnodup)
        (by
          intro v hv
          obtain rfl := Option.some.inj hv
          exact hlength)
        hrest
      refine ⟨.turn i draw (fun _ => 0) :: es, ?_, y, hy, hanswered⟩
      intro e he
      rcases List.mem_cons.mp he with rfl | he
      · rfl
      · exact hown e he

/-- **When a batch can succeed.**  A request is answered in some run, in which nobody deletes vouchers,
exactly if its pattern has as many codes that are not taken and fit their column; then it also succeeds
alone.  A pattern has at most a factor of 36, 10 or 26 for each of its places. -/
theorem batch_possible_iff {s : VoucherDesk} (hdistinct : Keyed BatchVoucher.code s.vouchers) {i : ℕ}
    (hi : s.session i = none) (request : VoucherCreateRequest) (hvalid : request.Valid)
    (hplan : request.planId ∈ s.plans) {organizationId : ℤ}
    (hrow : oneOrNone (s.usernames.filter fun row => decide (row.organizationId = organizationId)) ≠ none)
    (batchId : String) (now : ℤ) :
    ((∃ es, (∀ code, DeskEvent.delete code ∉ es) ∧
        ∃ x, (exec step s (.start i request organizationId batchId now :: es)).session i = some x ∧
          x.phase = .answered) ↔ request.count ≤ (s.freeCodes request.codeFormat).length) ∧
    (request.count ≤ (s.freeCodes request.codeFormat).length →
      ∃ es, (∀ e ∈ es, Own i e) ∧
        ∃ x, (exec step s (.start i request organizationId batchId now :: es)).session i = some x ∧
          x.phase = .answered) ∧
    (s.freeCodes request.codeFormat).length ≤
      36 ^ (codePlaces request.codeFormat 8).count 'X' * 10 ^ (codePlaces request.codeFormat 8).count 'N' *
        26 ^ (codePlaces request.codeFormat 8).count 'A' := by
  let x₀ : BatchSession := {
    request := request
    organizationId := organizationId
    batchId := batchId
    expiresAt := (request.expiresInDays.filter fun n => n ≠ 0).map fun n : ℕ => now + days n
    created := []
    pending := none
    phase := .running }
  have hstart : s.step (.start i request organizationId batchId now) = s.setSession i x₀ :=
    if_pos ⟨hi, hvalid, hplan⟩
  have hsession : (s.setSession i x₀).session i = some x₀ := by
    rw [setSession_session, if_pos rfl]
  have halone : request.count ≤ (s.freeCodes request.codeFormat).length →
      ∃ es, (∀ e ∈ es, Own i e) ∧
        ∃ x, (exec step s (.start i request organizationId batchId now :: es)).session i = some x ∧
          x.phase = .answered := by
    intro hle
    let codes := (s.freeCodes request.codeFormat).take request.count
    have hsub : codes.Sublist (s.freeCodes request.codeFormat) := List.take_sublist _ _
    have hlength : codes.length = request.count := List.length_take_of_le hle
    have hfree : ∀ code ∈ codes, code ∈ codesOf request.codeFormat 8 ∧ code.length ≤ 50 ∧
        code ∉ s.vouchers.map BatchVoucher.code := fun code hcode => mem_freeCodes.mp (hsub.subset hcode)
    have hcodes : codes.Nodup := ((codesOf_nodup _ _).filter _).sublist hsub
    simp only [exec_cons, hstart]
    refine answered_of_codes codes hsession rfl ?_ hrow ?_ ?_ ?_
    · simpa [x₀] using hlength
    · rw [show x₀.pending.toList = [] from rfl, List.append_nil]
      refine List.nodup_append.mpr ⟨hdistinct, hcodes, ?_⟩
      rintro code hold _ hnew rfl
      exact (hfree code hnew).2.2 hold
    · intro v hv
      cases hv
    · exact fun code hcode => ⟨(hfree code hcode).1, (hfree code hcode).2.1⟩
  have hbound := (s.freeCodes_sublist request.codeFormat).length_le
  rw [length_codesOf] at hbound
  refine ⟨⟨?_, ?_⟩, halone, hbound⟩
  · rintro ⟨es, hes, x, hx, hanswered⟩
    have hall : ∀ code, DeskEvent.delete code ∉
        DeskEvent.start i request organizationId batchId now :: es := by
      intro code hmem
      rcases List.mem_cons.mp hmem with hmem | hmem
      · cases hmem
      · exact hes code hmem
    have hle := count_le_freeCodes hdistinct hi hall hx hanswered
    -- the session is still the one of the request
    obtain ⟨y, hy, hrequest⟩ := request_exec hsession es
    rw [exec_cons, hstart, hy] at hx
    obtain rfl := Option.some.inj hx
    rwa [hrequest] at hle
  · intro hle
    obtain ⟨es, hown, hx⟩ := halone hle
    exact ⟨es, fun code hmem => hown _ hmem, hx⟩

/-- The pattern of `vipRun` is good for one voucher, and not for two. -/
theorem batch_possible_vip :
    (∃ es, (∀ e ∈ es, Own 0 e) ∧
      ∃ x, (exec step newDesk (.start 0 ⟨1, 1, "VIP", none⟩ 7 "a1" 0 :: es)).session 0 = some x ∧
        x.phase = .answered) ∧
    ¬ ∃ es, (∀ code, DeskEvent.delete code ∉ es) ∧
      ∃ x, (exec step newDesk (.start 0 ⟨1, 2, "VIP", none⟩ 7 "a1" 0 :: es)).session 0 = some x ∧
        x.phase = .answered := by
  have hdistinct : Keyed BatchVoucher.code newDesk.vouchers := by
    decide
  have hrow : oneOrNone (newDesk.usernames.filter fun row => decide (row.organizationId = 7)) ≠ none := by
    decide
  constructor
  · exact (batch_possible_iff hdistinct rfl ⟨1, 1, "VIP", none⟩ (by decide) (by decide) hrow "a1" 0).2.1
      (by decide)
  · have hiff := (batch_possible_iff hdistinct (i := 0) rfl ⟨1, 2, "VIP", none⟩ (by decide) (by decide)
      hrow "a1" 0).1
    exact fun h => absurd (hiff.mp h) (by decide)

end VoucherDesk
end IspBilling
