import IspBilling.Runs
import IspBilling.Voucher

/-! # Redeeming a voucher

`redeem_voucher` (`app/api/v1/portal/hotspot.py`) reads the voucher, checks it, assigns the
columns of use in memory and commits later, without a row lock; `update_voucher` and
`delete_voucher` (`app/api/v1/business/vouchers.py`) are the edits of an administrator.
`Redemption` is the committed row of one voucher together with the requests that have passed
the checks and not finished, and `step` interleaves them in any order.

A voucher without hotspot credentials gets them on the way, and the routine that generates
them commits (`generate`): the columns of use are committed there already.  In the other case
they are committed at the end (`commit`).  Either of the two is the redemption, and it enters
the log `redeemed` together with the validity interval that the row had at that moment.

Two checks are missing for a voucher to be redeemed once and within its validity: nobody
reads `valid_from`, and the row is not looked at again when it is written.  `Guarded` states
them, and `redeemed_once_within_validity` shows that no other check is needed. -/

namespace IspBilling

open Runs

/-- The outcome of the checks of `redeem_voucher`. -/
inductive RedeemCheck where
  | refuse (message : String)
  | expire (message : String)
  | accept
deriving DecidableEq, Repr

/-- The checks of `redeem_voucher` on the row it has read. -/
def redeemCheck (plans : List ServicePlan) (now : ℤ) (v : VoucherCode) : RedeemCheck :=
  if v.status ≠ .active then .refuse "Voucher has already been used or expired"
  else if v.isUsed = true then .refuse "Voucher has already been used"
  else if v.PastDeadline now then .expire "Voucher has expired"
  else
    match plans.find? (fun p => decide (p.id = v.planId)) with
    | none => .refuse "Associated package not found"
    | some _ => .accept

/-- A request that has passed the checks. -/
structure OpenRedemption where
  /-- The row as it was read. -/
  loaded : VoucherCode
  usedAt : ℤ
  macAddress : Option String
  /-- The generated credentials, once their commit has written the columns of use. -/
  generated : Option (String × String)
deriving DecidableEq, Repr

namespace OpenRedemption

/-- `not voucher.hotspot_username or not voucher.hotspot_password`. -/
def LacksCredentials (r : OpenRedemption) : Prop :=
  r.loaded.hotspotUsername.getD "" = "" ∨ r.loaded.hotspotPassword.getD "" = ""

instance : DecidablePred LacksCredentials := fun r =>
  inferInstanceAs (Decidable (r.loaded.hotspotUsername.getD "" = "" ∨
    r.loaded.hotspotPassword.getD "" = ""))

/-- The flush of the columns of use; an assigned value that equals the loaded one is not
written. -/
def markUsed (r : OpenRedemption) (row : VoucherCode) : VoucherCode :=
  { row with
    isUsed := true
    status := .used
    usedAt := if some r.usedAt = r.loaded.usedAt then row.usedAt else some r.usedAt
    usedMacAddress := if r.macAddress = r.loaded.usedMacAddress then row.usedMacAddress
      else r.macAddress }

/-- The flush of the generated credentials, each only where the voucher had none. -/
def writeCredentials (r : OpenRedemption) (creds : String × String) (row : VoucherCode) :
    VoucherCode :=
  { row with
    hotspotUsername := if r.loaded.hotspotUsername.getD "" = "" then some creds.1
      else row.hotspotUsername
    hotspotPassword := if r.loaded.hotspotPassword.getD "" = "" then some creds.2
      else row.hotspotPassword }

end OpenRedemption

/-- `VoucherStatusFilter`, the statuses an administrator may send. -/
inductive VoucherStatusFilter where
  | active
  | used
  | expired
  | disabled
deriving DecidableEq, Repr

/-- `VoucherStatus(data.status.value)`; there is no voucher status `disabled`, and the
conversion raises. -/
def VoucherStatusFilter.toStatus : VoucherStatusFilter → Option VoucherStatus
  | .active => some .active
  | .used => some .used
  | .expired => some .expired
  | .disabled => none

/-- `update_voucher`; a request that raises changes nothing. -/
def updateVoucher (status : Option VoucherStatusFilter) (expiresAt : Option ℤ) (v : VoucherCode) :
    VoucherCode :=
  match status with
  | none => { v with expiresAt := expiresAt.or v.expiresAt }
  | some st =>
      match st.toStatus with
      | some st => { v with status := st, expiresAt := expiresAt.or v.expiresAt }
      | none => v

/-- No edit touches the use of a voucher or its `valid_from`. -/
theorem updateVoucher_frame (status : Option VoucherStatusFilter) (expiresAt : Option ℤ)
    (v : VoucherCode) : (updateVoucher status expiresAt v).isUsed = v.isUsed ∧
      (updateVoucher status expiresAt v).validFrom = v.validFrom := by
  unfold updateVoucher
  split
  · exact ⟨rfl, rfl⟩
  · split
    · exact ⟨rfl, rfl⟩
    · exact ⟨rfl, rfl⟩

/-- A redemption that took place, with the validity of the row it was written to. -/
structure Redeemed where
  usedAt : ℤ
  macAddress : Option String
  validFrom : Option ℤ
  expiresAt : Option ℤ
deriving DecidableEq, Repr

/-- The redemption lies in `[valid_from, expires_at]`, where set. -/
def Redeemed.WithinValidity (r : Redeemed) : Prop :=
  (∀ a ∈ r.validFrom, a ≤ r.usedAt) ∧ ∀ d ∈ r.expiresAt, r.usedAt ≤ d

instance : DecidablePred Redeemed.WithinValidity := fun r =>
  inferInstanceAs (Decidable ((∀ a ∈ r.validFrom, a ≤ r.usedAt) ∧ ∀ d ∈ r.expiresAt, r.usedAt ≤ d))

/-- One voucher, the requests on it and the redemptions so far. -/
structure Redemption where
  row : Option VoucherCode
  sessions : List OpenRedemption
  redeemed : List Redeemed
deriving DecidableEq, Repr

namespace Redemption

/-- The moves on one voucher.  `delay` is the time between the two clock readings of a
request, the one of the check and the one that becomes `used_at`. -/
inductive Event where
  | redeem (macAddress : Option String) (now : ℤ) (delay : ℕ)
  | generate (i : ℕ) (credentials : String × String)
  | commit (i : ℕ)
  | abort (i : ℕ)
  | updateVoucher (status : Option VoucherStatusFilter) (expiresAt : Option ℤ)
  | deleteVoucher
deriving DecidableEq, Repr

/-- The commit that writes the columns of use.  Without its row the flush fails and the
request ends. -/
def consume (s : Redemption) (r : OpenRedemption) (sessions : List OpenRedemption) :
    Redemption :=
  match s.row with
  | none => { s with sessions := sessions }
  | some v =>
      { row := some (r.markUsed v)
        sessions := sessions
        redeemed := s.redeemed ++ [⟨r.usedAt, r.macAddress, v.validFrom, v.expiresAt⟩] }

variable (plans : List ServicePlan)

def step (s : Redemption) : Event → Redemption
  | .redeem mac now delay =>
      match s.row with
      | none => s
      | some v =>
          match redeemCheck plans now v with
          | .refuse _ => s
          | .expire _ => { s with row := some { v with status := .expired } }
          | .accept => { s with sessions := s.sessions ++ [⟨v, now + delay, mac, none⟩] }
  | .generate i creds =>
      match s.sessions[i]? with
      | none => s
      | some r =>
          if r.LacksCredentials ∧ r.generated = none then
            s.consume r (s.sessions.set i { r with generated := some creds })
          else s
  | .commit i =>
      match s.sessions[i]? with
      | none => s
      | some r =>
          match r.generated with
          | some creds =>
              { s with row := s.row.map (r.writeCredentials creds)
                       sessions := s.sessions.eraseIdx i }
          | none =>
              if r.LacksCredentials then s else s.consume r (s.sessions.eraseIdx i)
  | .abort i => { s with sessions := s.sessions.eraseIdx i }
  | .updateVoucher status expiresAt =>
      { s with row := s.row.map (IspBilling.updateVoucher status expiresAt) }
  | .deleteVoucher => { s with row := none }

/-- Every redemption so far is the only one and lies within the validity of the voucher. -/
def SingleUse (s : Redemption) : Prop :=
  s.redeemed.length ≤ 1 ∧ ∀ r ∈ s.redeemed, r.WithinValidity

instance : DecidablePred SingleUse := fun s =>
  inferInstanceAs (Decidable (s.redeemed.length ≤ 1 ∧ ∀ r ∈ s.redeemed, r.WithinValidity))

/-- The row can still be consumed at `t`: nobody has used it and its deadline has not passed. -/
def Usable (s : Redemption) (t : ℤ) : Prop :=
  ∀ v ∈ s.row, v.isUsed = false ∧ ¬ v.PastDeadline t

instance (s : Redemption) (t : ℤ) : Decidable (s.Usable t) :=
  inferInstanceAs (Decidable (∀ v ∈ s.row, v.isUsed = false ∧ ¬ v.PastDeadline t))

/-- The missing checks: a request starts once `valid_from` has come, and the write that
consumes the voucher finds a row that can still be consumed. -/
def Guarded (s : Redemption) : Event → Prop
  | .redeem _ now _ => ∀ v ∈ s.row, ∀ a ∈ v.validFrom, a ≤ now
  | .generate i _ => ∀ r ∈ s.sessions[i]?, r.generated = none → s.Usable r.usedAt
  | .commit i => ∀ r ∈ s.sessions[i]?, r.generated = none → s.Usable r.usedAt
  | _ => True

instance (s : Redemption) (e : Event) : Decidable (s.Guarded e) :=
  match e with
  | .redeem _ now _ => inferInstanceAs (Decidable (∀ v ∈ s.row, ∀ a ∈ v.validFrom, a ≤ now))
  | .generate i _ | .commit i =>
      inferInstanceAs (Decidable (∀ r ∈ s.sessions[i]?, r.generated = none → s.Usable r.usedAt))
  | .abort _ | .updateVoucher .. | .deleteVoucher => isTrue trivial

/-! ### The invariant -/

/-- Whether a redemption may already have been made: the row is used, or gone. -/
def Spent (s : Redemption) : Prop := ∀ v ∈ s.row, v.isUsed = true

/-- What a guarded run keeps: an unspent voucher has no redemption and a spent one at most one,
all within the validity, and every open request began after `valid_from`. -/
structure Inv (s : Redemption) : Prop where
  unspent : ¬ s.Spent → s.redeemed = []
  once : s.redeemed.length ≤ 1
  valid : ∀ r ∈ s.redeemed, r.WithinValidity
  started : ∀ r ∈ s.sessions, ∀ v ∈ s.row, ∀ a ∈ v.validFrom, a ≤ r.usedAt

theorem Inv.of_frame {s t : Redemption} (h : s.Inv) (hred : t.redeemed = s.redeemed)
    (hrow : ∀ v' ∈ t.row, ∃ v ∈ s.row, v'.isUsed = v.isUsed ∧ v'.validFrom = v.validFrom)
    (hses : ∀ r' ∈ t.sessions, ∃ r ∈ s.sessions, r'.usedAt = r.usedAt) : t.Inv := by
  refine ⟨?_, hred ▸ h.once, hred ▸ h.valid, ?_⟩
  · intro ht
    rw [hred]
    apply h.unspent
    intro hs
    apply ht
    intro v' hv'
    obtain ⟨v, hv, hu, _⟩ := hrow v' hv'
    rw [hu]
    exact hs v hv
  · intro r' hr' v' hv' a ha
    obtain ⟨r, hr, hru⟩ := hses r' hr'
    obtain ⟨v, hv, _, hvf⟩ := hrow v' hv'
    rw [hru]
    exact h.started r hr v hv a (hvf ▸ ha)

theorem Inv.consume {s : Redemption} {r : OpenRedemption} {ses : List OpenRedemption} (h : s.Inv)
    (hr : r ∈ s.sessions) (hu : s.Usable r.usedAt)
    (hses : ∀ r' ∈ ses, ∃ r ∈ s.sessions, r'.usedAt = r.usedAt) : (s.consume r ses).Inv := by
  unfold Redemption.consume
  cases hrow : s.row with
  | none =>
      refine h.of_frame rfl ?_ hses
      intro v' hv'
      cases hv'
  | some v =>
      obtain ⟨hunused, hdead⟩ := hu v hrow
      have hnil : s.redeemed = [] := by
        apply h.unspent
        intro hsp
        have hused := hsp v hrow
        rw [hunused] at hused
        cases hused
      refine ⟨?_, by simp [hnil], ?_, ?_⟩
      · intro hsp
        refine absurd ?_ hsp
        intro v' hv'
        obtain rfl := Option.mem_some_iff.mp hv'
        rfl
      · intro x hx
        simp only [hnil, List.nil_append, List.mem_singleton] at hx
        subst hx
        refine ⟨h.started r hr v hrow, ?_⟩
        intro d hd
        by_contra hlt
        exact hdead ⟨d, hd, not_le.mp hlt⟩
      · intro r' hr' v' hv' a ha
        obtain rfl := Option.mem_some_iff.mp hv'
        obtain ⟨r₀, hr₀, hru⟩ := hses r' hr'
        rw [hru]
        exact h.started r₀ hr₀ v hrow a ha

theorem Inv.begin {s t : Redemption} {r : OpenRedemption} (h : s.Inv) (hrow : t.row = s.row)
    (hred : t.redeemed = s.redeemed) (hses : t.sessions = s.sessions ++ [r])
    (hstart : ∀ v ∈ s.row, ∀ a ∈ v.validFrom, a ≤ r.usedAt) : t.Inv := by
  refine ⟨?_, hred ▸ h.once, hred ▸ h.valid, ?_⟩
  · intro hsp
    rw [hred]
    apply h.unspent
    intro hs
    exact hsp (fun v hv => hs v (hrow ▸ hv))
  · intro r' hr' v hv
    rw [hrow] at hv
    rw [hses] at hr'
    rcases List.mem_append.mp hr' with hr' | hr'
    · exact h.started r' hr' v hv
    · rw [List.mem_singleton.mp hr']
      exact hstart v hv

theorem step_redeem_inv {s : Redemption} (h : s.Inv) {mac : Option String} {now : ℤ}
    {delay : ℕ} (hok : s.Guarded (.redeem mac now delay)) : (s.step plans (.redeem mac now delay)).Inv := by
  cases hrow : s.row with
  | none => simpa only [step, hrow] using h
  | some v =>
      cases hc : redeemCheck plans now v with
      | refuse message => simpa only [step, hrow, hc] using h
      | expire message =>
          simp only [step, hrow, hc]
          refine h.of_frame rfl ?_ (fun r hr => ⟨r, hr, rfl⟩)
          intro v' hv'
          obtain rfl := Option.mem_some_iff.mp hv'
          exact ⟨v, hrow, rfl, rfl⟩
      | accept =>
          simp only [step, hrow, hc]
          refine h.begin hrow.symm rfl rfl ?_
          intro v' hv' a ha
          have hle := hok v' hv' a ha
          simp only
          omega

theorem step_generate_inv {s : Redemption} (h : s.Inv) {i : ℕ} {creds : String × String}
    (hok : s.Guarded (.generate i creds)) : (s.step plans (.generate i creds)).Inv := by
  cases hi : s.sessions[i]? with
  | none => simpa only [step, hi] using h
  | some r =>
      simp only [step, hi]
      split
      · rename_i hgen
        refine h.consume (List.mem_of_getElem? hi) (hok r hi hgen.2) ?_
        intro r' hr'
        rcases List.mem_or_eq_of_mem_set hr' with hr' | rfl
        · exact ⟨r', hr', rfl⟩
        · exact ⟨r, List.mem_of_getElem? hi, rfl⟩
      · exact h

theorem usedAt_of_mem_eraseIdx {s : Redemption} (i : ℕ) :
    ∀ r' ∈ s.sessions.eraseIdx i, ∃ r ∈ s.sessions, r'.usedAt = r.usedAt :=
  fun r' hr' => ⟨r', List.mem_of_mem_eraseIdx hr', rfl⟩

theorem step_commit_inv {s : Redemption} (h : s.Inv) {i : ℕ} (hok : s.Guarded (.commit i)) :
    (s.step plans (.commit i)).Inv := by
  cases hi : s.sessions[i]? with
  | none => simpa only [step, hi] using h
  | some r =>
      cases hg : r.generated with
      | some creds =>
          simp only [step, hi, hg]
          refine h.of_frame rfl ?_ (usedAt_of_mem_eraseIdx i)
          intro v' hv'
          obtain ⟨v, hv, rfl⟩ := Option.mem_map.mp hv'
          exact ⟨v, hv, rfl, rfl⟩
      | none =>
          simp only [step, hi, hg]
          split
          · exact h
          · exact h.consume (List.mem_of_getElem? hi) (hok r hi hg) (usedAt_of_mem_eraseIdx i)

/-- **Step lemma**: a guarded move keeps the invariant. -/
theorem step_inv {s : Redemption} {e : Event} (h : s.Inv) (hok : s.Guarded e) :
    (s.step plans e).Inv := by
  cases e with
  | redeem mac now delay => exact step_redeem_inv plans h hok
  | generate i creds => exact step_generate_inv plans h hok
  | commit i => exact step_commit_inv plans h hok
  | abort i =>
      exact h.of_frame rfl (fun v' hv' => ⟨v', hv', rfl, rfl⟩) (usedAt_of_mem_eraseIdx i)
  | updateVoucher status expiresAt =>
      refine h.of_frame rfl ?_ (fun r hr => ⟨r, hr, rfl⟩)
      intro v' hv'
      obtain ⟨v, hv, rfl⟩ := Option.mem_map.mp hv'
      exact ⟨v, hv, updateVoucher_frame status expiresAt v⟩
  | deleteVoucher =>
      refine h.of_frame rfl ?_ (fun r hr => ⟨r, hr, rfl⟩)
      intro v' hv'
      cases hv'

/-- A voucher nobody is redeeming. -/
def idle (v : VoucherCode) : Redemption := ⟨some v, [], []⟩

/-- **One redemption, within the validity**: in every state of every run that makes the missing
checks, at most one redemption of the voucher has taken place, and it lies in
`[valid_from, expires_at]`. -/
theorem redeemed_once_within_validity (v : VoucherCode) (es : List Event)
    (hok : Along (step plans) Guarded (idle v) es) :
    Always (step plans) SingleUse (idle v) es := by
  have hidle : (idle v).Inv := by
    refine ⟨fun _ => rfl, Nat.zero_le _, ?_, ?_⟩
    · intro r hr
      cases hr
    · intro r hr
      cases hr
  refine always_of_along (I := Inv) ?_ ?_ hidle hok
  · intro s e h he
    exact step_inv plans h he
  · intro s h
    exact ⟨h.once, h.valid⟩

/-- A voucher of plan `1` that is valid from `100` on. -/
def springVoucher : VoucherCode :=
  ⟨1, 1, "AAAA-BBBB-CCCC", 1, .active, false, none, none, some 900, some 100, none, some "C001",
    some "123", 0⟩

/-- Two devices that read the voucher before either commits both redeem it, and one device
redeems it before `valid_from`. -/
theorem redeemed_twice_and_early :
    (¬ Always (step [.hourly]) SingleUse (idle springVoucher)
      [.redeem (some "AA:AA") 200 0, .redeem (some "BB:BB") 201 0, .commit 0, .commit 0]) ∧
    ¬ Always (step [.hourly]) SingleUse (idle springVoucher)
      [.redeem (some "AA:AA") 50 0, .commit 0] := by
  decide

/-- Two requests one after the other, with an edit in between. -/
theorem redeemed_once_springVoucher :
    Along (step [.hourly]) Guarded (idle springVoucher)
        [.redeem (some "AA:AA") 200 3, .commit 0, .updateVoucher (some .active) none,
          .redeem (some "BB:BB") 300 2] ∧
      Always (step [.hourly]) SingleUse (idle springVoucher)
        [.redeem (some "AA:AA") 200 3, .commit 0, .updateVoucher (some .active) none,
          .redeem (some "BB:BB") 300 2] :=
  ⟨by decide, redeemed_once_within_validity [.hourly] springVoucher _ (by decide)⟩

end Redemption

end IspBilling
