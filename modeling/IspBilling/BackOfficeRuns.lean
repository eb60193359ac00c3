import IspBilling.BackOffice

/-! # Interleaved requests to the back office

The requests of `BackOffice` in any interleaving.

* `tenants_isolated`: an organization sees the requests of its own callers only, if the numbers of
  their tickets differ from those of the others.
* `finished_work_stays`: what the services freeze.  A decided expense does not change any more, of a
  converted lead only the assignment, of a launched campaign only whether it is paused, and a closed
  ticket keeps its status and its resolution.
* `decided_by_administrator`: a decided expense shows the decision of one request of an administrator.
* `tickets_advance`: a ticket does not go back, unless a request is overtaken.

The tickets of the last three are those that nobody handles through the routes of
`app/api/v1/support/notifications.py`, whose service has none of these guards. -/

namespace IspBilling

open Rows Runs ScopedRows

/-! ### Isolation -/

/-- **Tenant isolation**: whatever the callers of the other organizations do, an organization sees the
requests of its own callers, and gaps in the ids.  Ticket numbers are unique in the whole table: one
that another organization has would keep its ticket out. -/
theorem tenants_isolated (organizations : List OrganizationSlug) (o : ℕ) :
    (∀ (s : Shared expenseService) (es : List (OrgEvent ExpenseCreate ExpenseRequest)), s.WellFormed →
      (exec Shared.step s (es.flatMap (expenseApi organizations).moves)).of o =
        exec Shared.step (s.of o) (es.flatMap ((expenseApi organizations).movesFor o))) ∧
    (∀ (s : Shared leadService) (es : List (OrgEvent LeadCreate LeadRequest)), s.WellFormed →
      (exec Shared.step s (es.flatMap (leadApi organizations).moves)).of o =
        exec Shared.step (s.of o) (es.flatMap ((leadApi organizations).movesFor o))) ∧
    (∀ (s : Shared campaignService) (es : List (OrgEvent CampaignCreate CampaignRequest)),
      s.WellFormed →
      (exec Shared.step s (es.flatMap (campaignApi organizations).moves)).of o =
        exec Shared.step (s.of o) (es.flatMap ((campaignApi organizations).movesFor o))) ∧
    (∀ (s : Shared ticketService) (es : List (OrgEvent TicketCreate TicketRequest)), s.WellFormed →
      Along Shared.step Shared.Apart s (es.flatMap (ticketApi organizations).moves) →
      (exec Shared.step s (es.flatMap (ticketApi organizations).moves)).of o =
        exec Shared.step (s.of o) (es.flatMap ((ticketApi organizations).movesFor o))) :=
  ⟨fun s _ h => (expenseApi organizations).exec_of h o (Shared.along_apart (fun _ _ => rfl) s _),
    fun s _ h => (leadApi organizations).exec_of h o (Shared.along_apart (fun _ _ => rfl) s _),
    fun s _ h => (campaignApi organizations).exec_of h o (Shared.along_apart (fun _ _ => rfl) s _),
    fun _ _ h hapart => (ticketApi organizations).exec_of h o hapart⟩

/-- Two organizations. -/
def providers : List OrganizationSlug := [⟨1, "acme"⟩, ⟨2, "borealis"⟩]

/-- An admin of the first one. -/
def supervisor : CurrentUser := ⟨7, some 1, .ispAdmin, true⟩

/-- An admin of the second one. -/
def outsider : CurrentUser := ⟨8, some 2, .ispAdmin, true⟩

/-- A ticket of the first one that is in progress. -/
def slowLine : SupportTicket :=
  ⟨0, 1, 9, some 7, "TKT-20250201-A1B2C3", "Slow line", "Since noon", .inProgress, .medium, none, none,
    none, none, none, none⟩

/-- The ticket, and no request under way. -/
def openDesk : Shared ticketService := ⟨⟨⟨[slowLine], by decide⟩, 1⟩, fun _ => none⟩

theorem openDesk_wellFormed : openDesk.WellFormed :=
  ⟨by decide, fun _ _ h => absurd h (by simp [openDesk]), fun _ _ h => absurd h (by simp [openDesk])⟩

/-- The first organization does not see that an admin of the second one asks for its ticket, and only
the gap of the one that he opens. -/
theorem tenants_isolated_outsider :
    (exec Shared.step openDesk ([
        .request outsider none (.change 0 0 (.closeTicket 5)), .commit 0,
        .request outsider none (.create ⟨8, "TKT-20250201-D4E5F6", "No signal", "", .low, none, none,
          none⟩)].flatMap (ticketApi providers).moves)).of 1 =
      exec Shared.step (openDesk.of 1) ([
        .request outsider none (.change 0 0 (.closeTicket 5)), .commit 0,
        .request outsider none (.create ⟨8, "TKT-20250201-D4E5F6", "No signal", "", .low, none, none,
          none⟩)].flatMap ((ticketApi providers).movesFor 1)) :=
  (tenants_isolated providers 1).2.2.2 openDesk _ openDesk_wellFormed (by decide)

/-- A number that the first organization has keeps out the ticket of the second. -/
example :
    (exec Shared.step openDesk ([
      .request outsider none (.create ⟨8, "TKT-20250201-A1B2C3", "No signal", "", .low, none, none,
        none⟩)].flatMap (ticketApi providers).moves)).store.rows.rows = [slowLine] := by
  decide

/-! ### Finished work -/

theorem updating_eq_updated {ρ : Type} {x : Except String ρ} {row : ρ} (h : updating x = .updated row) :
    x = .ok row := by
  unfold updating at h
  split at h
  · cases h
    rfl
  · cases h

theorem updating_ne_deleted {ρ : Type} (x : Except String ρ) : updating x ≠ .deleted := by
  unfold updating
  split <;> simp

theorem Expense.handle_decided {e : Expense} (h : e.status ≠ .pending) (q : By ExpenseRequest) :
    e.handle q = .refused := by
  unfold handle
  split
  · simp [Expense.update, h, updating]
  · simp [Expense.delete, h, deleting]
  · simp [approve, h, updating]
  · simp [reject, h, updating]

theorem expense_settled : Settled expenseService (fun e => e.status ≠ .pending) (fun e => e) where
  updated q old new row hold _ _ hhandle := by
    have hrefused : expenseService.handle q old = .refused := Expense.handle_decided hold q
    rw [hrefused] at hhandle
    cases hhandle
  kept q old hold hdeleted := by
    have hrefused : expenseService.handle q old = .refused := Expense.handle_decided hold q
    rw [hrefused] at hdeleted
    cases hdeleted

theorem Lead.handle_converted {l : Lead} (h : l.status = .converted) (q : By LeadRequest) :
    l.handle q = .refused ∨ ∃ assignee, l.handle q = .updated (l.assign assignee) := by
  unfold handle
  split
  · simp [Lead.update, h, updating]
  · simp [Lead.delete, h, deleting]
  · exact .inr ⟨_, rfl⟩
  · simp [convert, h, updating]

def Lead.unassigned (l : Lead) : Lead := { l with assignedToUserId := none }

theorem lead_settled : Settled leadService (fun l => l.status = .converted) Lead.unassigned where
  updated q old new row hold hrow _ hhandle := by
    have hcases : leadService.handle q old = .refused ∨
        ∃ assignee, leadService.handle q old = .updated (old.assign assignee) :=
      Lead.handle_converted hold q
    rcases hcases with hrefused | ⟨assignee, hassign⟩
    · rw [hrefused] at hhandle
      cases hhandle
    · rw [hassign] at hhandle
      cases hhandle
      simp [leadService, Lead.merge, Lead.assign, Lead.unassigned, writeColumn_self, hrow]
  kept q old hold hdeleted := by
    have hcases : leadService.handle q old = .refused ∨
        ∃ assignee, leadService.handle q old = .updated (old.assign assignee) :=
      Lead.handle_converted hold q
    rcases hcases with hrefused | ⟨assignee, hassign⟩
    · rw [hrefused] at hdeleted
      cases hdeleted
    · rw [hassign] at hdeleted
      cases hdeleted

/-- A campaign that is neither a draft nor scheduled. -/
def Campaign.Launched (c : Campaign) : Prop := c.status ≠ .draft ∧ c.status ≠ .scheduled

def Campaign.isLive (c : Campaign) : Bool := decide (c.status = .active ∨ c.status = .paused)

/-- The campaign without its status, and its status unless it is live. -/
def Campaign.content (c : Campaign) : Campaign :=
  { c with status := if c.isLive then .active else c.status }

theorem Campaign.handle_launched {c : Campaign} (h : c.Launched) (q : By CampaignRequest) :
    c.handle q = .refused ∨
      c.status = .active ∧ c.handle q = .updated { c with status := .paused } ∨
      c.status = .paused ∧ c.handle q = .updated { c with status := .active } := by
  unfold handle
  split
  · simp [Campaign.update, h.1, h.2, updating]
  · simp [Campaign.delete, h.1, deleting]
  · by_cases hactive : c.status = .active
    · simp [pause, hactive, updating]
    · simp [pause, hactive, updating]
  · by_cases hpaused : c.status = .paused
    · simp [resume, hpaused, updating]
    · simp [resume, hpaused, updating]

theorem Campaign.isLive_iff {c : Campaign} :
    c.isLive = true ↔ c.status = .active ∨ c.status = .paused := decide_eq_true_iff

theorem Campaign.merge_live {old row : Campaign} {status : CampaignStatus} (hrow : row.isLive = true)
    (hne : status ≠ old.status) (hstatus : status = .active ∨ status = .paused) :
    (Campaign.merge old { old with status := status } row).Launched ∧
      (Campaign.merge old { old with status := status } row).content = row.content := by
  have hmerge : Campaign.merge old { old with status := status } row = { row with status := status } := by
    simp [Campaign.merge, writeColumn_self, writeColumn_of_ne hne]
  have hlive : ({ row with status := status } : Campaign).isLive = true := isLive_iff.mpr hstatus
  rw [hmerge]
  refine ⟨?_, by simp only [Campaign.content, hlive, hrow, if_true]⟩
  rcases hstatus with rfl | rfl
  · simp [Launched]
  · simp [Launched]

theorem campaign_settled : Settled campaignService Campaign.Launched Campaign.content where
  updated q old new row hold hrow hsame hhandle := by
    have heq : old.handle q = .updated new := hhandle
    have hlive : old.isLive = true → row.isLive = true := by
      intro h
      have hstatus := congrArg Campaign.status hsame
      by_contra hnot
      simp only [Campaign.content, h, hnot, if_true, if_false] at hstatus
      exact hnot (Campaign.isLive_iff.mpr (.inl hstatus.symm))
    rcases Campaign.handle_launched hold q with hrefused | ⟨hstatus, hpause⟩ | ⟨hstatus, hresume⟩
    · rw [hrefused] at heq
      cases heq
    · rw [hpause] at heq
      cases heq
      exact Campaign.merge_live (hlive (Campaign.isLive_iff.mpr (.inl hstatus))) (by simp [hstatus])
        (.inr rfl)
    · rw [hresume] at heq
      cases heq
      exact Campaign.merge_live (hlive (Campaign.isLive_iff.mpr (.inr hstatus))) (by simp [hstatus])
        (.inl rfl)
  kept q old hold hdeleted := by
    rcases Campaign.handle_launched hold q with hrefused | ⟨-, hpause⟩ | ⟨-, hresume⟩
    · exact absurd (hrefused.symm.trans hdeleted) (by simp)
    · exact absurd (hpause.symm.trans hdeleted) (by simp)
    · exact absurd (hresume.symm.trans hdeleted) (by simp)

/-- What a ticket says about its resolution. -/
def SupportTicket.outcome (t : SupportTicket) : TicketStatus × Option String × Option ℤ :=
  (t.status, t.resolution, t.resolvedAt)

theorem SupportTicket.handle_ne_deleted (t : SupportTicket) (q : By TicketRequest) :
    t.handle q ≠ .deleted := by
  unfold handle
  split
  · simp
  · simp
  · exact updating_ne_deleted _
  · simp

theorem ticket_settled :
    Settled ticketService (fun t => t.status = .closed) SupportTicket.outcome where
  updated q old new row hold hrow _ hhandle := by
    have heq : old.handle q = .updated new := hhandle
    obtain ⟨user, q⟩ := q
    cases q with
    | updateTicket updateData =>
        cases heq
        simp [ticketService, SupportTicket.merge, SupportTicket.update, SupportTicket.outcome,
          writeColumn_self, hrow]
    | assignTicket assignedTo =>
        cases heq
        simp [ticketService, SupportTicket.merge, SupportTicket.assign, SupportTicket.outcome,
          writeColumn_self, hold, hrow]
    | resolveTicket resolution now =>
        have hok := updating_eq_updated heq
        simp [SupportTicket.resolve, hold] at hok
    | closeTicket now =>
        cases heq
        simp [ticketService, SupportTicket.merge, SupportTicket.close, SupportTicket.outcome,
          writeColumn_self, hold, hrow]
  kept q old _ := SupportTicket.handle_ne_deleted old q

/-- **Finished work stays**: let a row be finished, and let no request under way have read an older
version of it.  Whatever requests follow, in any interleaving, a decided expense stays as it is, of a
converted lead only the assignment changes, of a launched campaign only whether it is paused, and a
closed ticket keeps its status and its resolution. -/
theorem finished_work_stays (organizations : List OrganizationSlug) :
    (∀ (s : Shared expenseService) (e : Expense) (es : List (OrgEvent ExpenseCreate ExpenseRequest)),
      s.WellFormed → e ∈ s.store.rows.rows → e.status ≠ .pending → s.Current e →
      e ∈ (exec Shared.step s (es.flatMap (expenseApi organizations).moves)).store.rows.rows) ∧
    (∀ (s : Shared leadService) (l : Lead) (es : List (OrgEvent LeadCreate LeadRequest)),
      s.WellFormed → l ∈ s.store.rows.rows → l.status = .converted → s.Current l →
      ∃ l' ∈ (exec Shared.step s (es.flatMap (leadApi organizations).moves)).store.rows.rows,
        l'.unassigned = l.unassigned) ∧
    (∀ (s : Shared campaignService) (c : Campaign)
        (es : List (OrgEvent CampaignCreate CampaignRequest)),
      s.WellFormed → c ∈ s.store.rows.rows → c.Launched → s.Current c →
      ∃ c' ∈ (exec Shared.step s (es.flatMap (campaignApi organizations).moves)).store.rows.rows,
        c'.content = c.content) ∧
    (∀ (s : Shared ticketService) (t : SupportTicket) (es : List (OrgEvent TicketCreate TicketRequest)),
      s.WellFormed → t ∈ s.store.rows.rows → t.status = .closed → s.Current t →
      ∃ t' ∈ (exec Shared.step s (es.flatMap (ticketApi organizations).moves)).store.rows.rows,
        t'.id = t.id ∧ t'.outcome = t.outcome) := by
  refine ⟨fun s e es hs he hdecided hcurrent => ?_, fun s l es hs hl hconverted hcurrent => ?_,
    fun s c es hs hc hlaunched hcurrent => ?_, fun s t es hs ht hclosed hcurrent => ?_⟩
  · obtain ⟨e', he', -, -, rfl⟩ := Shared.kept_of_settled expense_settled hs he hdecided hcurrent
      (es.flatMap (expenseApi organizations).moves)
    exact he'
  · obtain ⟨l', hl', -, -, hsame⟩ := Shared.kept_of_settled lead_settled hs hl hconverted hcurrent
      (es.flatMap (leadApi organizations).moves)
    exact ⟨l', hl', hsame⟩
  · obtain ⟨c', hc', -, -, hsame⟩ := Shared.kept_of_settled campaign_settled hs hc hlaunched hcurrent
      (es.flatMap (campaignApi organizations).moves)
    exact ⟨c', hc', hsame⟩
  · obtain ⟨t', ht', hid, -, hsame⟩ := Shared.kept_of_settled ticket_settled hs ht hclosed hcurrent
      (es.flatMap (ticketApi organizations).moves)
    exact ⟨t', ht', hid, hsame⟩

/-- An approved expense. -/
def cableDrum : Expense :=
  ⟨0, 1, 20120, .equipment, "Cable drum", 450000, "KES", none, 9, .approved, none, some 7, some 3, none⟩

/-- The expense, and no request under way. -/
def settledBooks : Shared expenseService := ⟨⟨⟨[cableDrum], by decide⟩, 1⟩, fun _ => none⟩

/-- An approved expense is not rejected any more. -/
theorem finished_work_stays_approved :
    cableDrum ∈ (exec Shared.step settledBooks ([
        .request supervisor none (.change 0 0 (.rejectExpense "Too dear" 5)), .commit 0].flatMap
          (expenseApi providers).moves)).store.rows.rows :=
  (finished_work_stays providers).1 settledBooks cableDrum _
    ⟨by decide, fun _ _ h => absurd h (by simp [settledBooks]),
      fun _ _ h => absurd h (by simp [settledBooks])⟩
    (by decide) (by decide) (fun _ _ h => absurd h (by simp [settledBooks]))

/-! ### Decisions -/

/-- A caller has sent a request for an expense of an organization, and is an administrator of it. -/
def SentByAdministrator (es : List (OrgEvent ExpenseCreate ExpenseRequest)) (o : ℕ) (user : CurrentUser)
    (q : ExpenseRequest) : Prop :=
  IsAdministrator user o ∧ ∃ header i id, .request user header (.change i id q) ∈ es

/-- The expense shows the decision of a request. -/
def Expense.Shows (e : Expense) (userId : ℕ) : ExpenseRequest → Prop
  | .approveExpense now =>
      e.status = .approved ∧ e.approvedByUserId = some userId ∧ e.approvedAt = some now
  | .rejectExpense rejectionReason now =>
      e.status = .rejected ∧ e.approvedByUserId = some userId ∧ e.approvedAt = some now ∧
        e.rejectionReason = some rejectionReason
  | _ => False

/-- A pending expense shows nothing of a decision, and any other one that of an administrator. -/
def Expense.Accounted (es : List (OrgEvent ExpenseCreate ExpenseRequest)) (e : Expense) : Prop :=
  (e.status = .pending ∧ e.approvedByUserId = none ∧ e.approvedAt = none ∧ e.rejectionReason = none) ∨
    ∃ user q, SentByAdministrator es e.organizationId user q ∧ e.Shows user.id q

/-- A request that needs an administrator has been sent by one. -/
def Permitted (es : List (OrgEvent ExpenseCreate ExpenseRequest)) (o : ℕ) (q : By ExpenseRequest) : Prop :=
  ∃ user, user.id = q.user ∧
    ((expenseApi []).adminOnly q.value = true → SentByAdministrator es o user q.value)

/-- The columns that a decision sets. -/
def Expense.decision (e : Expense) : ExpenseStatus × Option ℕ × Option ℤ × Option String :=
  (e.status, e.approvedByUserId, e.approvedAt, e.rejectionReason)

theorem Expense.Accounted.congr {es : List (OrgEvent ExpenseCreate ExpenseRequest)} {e e' : Expense}
    (howner : e'.organizationId = e.organizationId) (hdecision : e'.decision = e.decision)
    (h : e.Accounted es) : e'.Accounted es := by
  simp only [decision, Prod.mk.injEq] at hdecision
  obtain ⟨hstatus, huser, hat, hreason⟩ := hdecision
  unfold Accounted at h ⊢
  rw [hstatus, huser, hat, hreason, howner]
  refine h.imp_right ?_
  rintro ⟨user, q, hsent, hshows⟩
  refine ⟨user, q, hsent, ?_⟩
  cases q with
  | approveExpense now => simpa [Shows, hstatus, huser, hat] using hshows
  | rejectExpense reason now => simpa [Shows, hstatus, huser, hat, hreason] using hshows
  | updateExpense updateData => exact hshows.elim
  | deleteExpense => exact hshows.elim

theorem Expense.Accounted.of_pending {es : List (OrgEvent ExpenseCreate ExpenseRequest)} {e : Expense}
    (h : e.Accounted es) (hpending : e.status = .pending) :
    e.approvedByUserId = none ∧ e.approvedAt = none ∧ e.rejectionReason = none := by
  rcases h with ⟨-, hrest⟩ | ⟨user, q, -, hshows⟩
  · exact hrest
  · cases q with
    | approveExpense now => simp [hpending, Shows] at hshows
    | rejectExpense reason now => simp [hpending, Shows] at hshows
    | updateExpense updateData => exact hshows.elim
    | deleteExpense => exact hshows.elim

/-- A commit of a permitted request leaves every expense accounted for.  A decision writes all its
columns, because its copy is pending and has none of them. -/
theorem Expense.accounted_merge {es : List (OrgEvent ExpenseCreate ExpenseRequest)}
    {q : By ExpenseRequest} {old new row : Expense} (hq : Permitted es old.organizationId q)
    (howner : row.organizationId = old.organizationId) (hold : old.Accounted es) (hrow : row.Accounted es)
    (hhandle : old.handle q = .updated new) : (Expense.merge old new row).Accounted es := by
  have hpending : old.status = .pending := by
    by_contra hdecided
    rw [Expense.handle_decided hdecided] at hhandle
    cases hhandle
  have hnone := hold.of_pending hpending
  obtain ⟨user, huser, hadmin⟩ := hq
  obtain ⟨userId, q⟩ := q
  cases q with
  | updateExpense updateData =>
      have hnew := updating_eq_updated hhandle
      simp only [Expense.update, hpending, ne_eq, not_true, if_false, Except.ok.injEq] at hnew
      subst hnew
      exact Accounted.congr (e := row) rfl (by simp [decision, Expense.merge, writeColumn_self, hpending]) hrow
  | deleteExpense =>
      simp [Expense.handle, deleting, Expense.delete, hpending] at hhandle
  | approveExpense now =>
      have hnew := updating_eq_updated hhandle
      simp only [Expense.approve, hpending, ne_eq, not_true, if_false, Except.ok.injEq] at hnew
      subst hnew
      refine .inr ⟨user, .approveExpense now, ?_, ?_⟩
      · rw [show (Expense.merge old _ row).organizationId = old.organizationId from howner]
        exact hadmin rfl
      · simp [Expense.Shows, Expense.merge, writeColumn, hpending, hnone, huser]
  | rejectExpense reason now =>
      have hnew := updating_eq_updated hhandle
      simp only [Expense.reject, hpending, ne_eq, not_true, if_false, Except.ok.injEq] at hnew
      subst hnew
      refine .inr ⟨user, .rejectExpense reason now, ?_, ?_⟩
      · rw [show (Expense.merge old _ row).organizationId = old.organizationId from howner]
        exact hadmin rfl
      · simp [Expense.Shows, Expense.merge, writeColumn, hpending, hnone, huser]

theorem permitted_of_mem_moves {organizations : List OrganizationSlug}
    {es : List (OrgEvent ExpenseCreate ExpenseRequest)} {m : Move (By ExpenseCreate) (By ExpenseRequest)}
    (hm : m ∈ es.flatMap (expenseApi organizations).moves) : Shared.Allowed (Permitted es) m := by
  obtain ⟨e, he, hm⟩ := List.mem_flatMap.mp hm
  cases e with
  | commit i =>
      rw [List.mem_singleton.mp hm]
      trivial
  | abandon i =>
      rw [List.mem_singleton.mp hm]
      trivial
  | request user header r =>
      unfold Api.moves at hm
      cases haccepts : (expenseApi organizations).accepts user header r with
      | none => simp [haccepts] at hm
      | some o =>
          obtain ⟨hacts, hrequire⟩ := Api.accepts_eq_some _ haccepts
          cases r with
          | create data =>
              simp only [haccepts, List.mem_singleton] at hm
              rw [hm]
              trivial
          | change i id q =>
              simp only [haccepts, List.mem_singleton] at hm
              rw [hm]
              refine ⟨user, rfl, fun hadmin => ⟨?_, header, i, id, he⟩⟩
              exact isAdministrator_of_requireAdmin (hrequire i id q rfl hadmin) hacts

/-- **Decisions**: in every interleaving, an expense that is not pending shows the decision of one
request: its status, its user and its time, and the reason of a rejection.  The request has been sent by
an administrator of the organization. -/
theorem decided_by_administrator (organizations : List OrganizationSlug)
    (es : List (OrgEvent ExpenseCreate ExpenseRequest)) :
    ∀ e ∈ (exec Shared.step (Shared.empty expenseService)
        (es.flatMap (expenseApi organizations).moves)).store.rows.rows,
      e.status ≠ .pending →
        ∃ user q, SentByAdministrator es e.organizationId user q ∧ e.Shows user.id q := by
  intro e he hdecided
  have huniform : (exec Shared.step (Shared.empty expenseService)
      (es.flatMap (expenseApi organizations).moves)).Uniform (Expense.Accounted es) (Permitted es) := by
    refine Shared.uniform_exec (fun data owner id => .inl ⟨rfl, rfl, rfl, rfl⟩) ?_
      (Shared.wellFormed_empty _) (Shared.uniform_empty _ _ _) (fun m hm => permitted_of_mem_moves hm)
    intro q old new row hq howner hold hrow hhandle
    exact Expense.accounted_merge hq howner hold hrow hhandle
  rcases huniform.rows e he with ⟨hpending, -⟩ | hshown
  · exact absurd hpending hdecided
  · exact hshown

/-- A technician of the first organization. -/
def fieldTechnician : CurrentUser := ⟨9, some 1, .ispTechnician, true⟩

/-- The technician cannot approve the expense, and the admin can. -/
theorem decided_by_administrator_approved :
    ∃ user q, SentByAdministrator [
        .request fieldTechnician none (.create ⟨20120, .equipment, "Cable drum", 450000, "KES", none, none⟩),
        .request fieldTechnician none (.change 0 0 (.approveExpense 2)), .commit 0,
        .request supervisor (some "acme") (.change 1 0 (.approveExpense 3)), .commit 1] 1 user q ∧
      cableDrum.Shows user.id q :=
  decided_by_administrator providers _ cableDrum (by decide) (by decide)

/-! ### The life of a ticket -/

/-- How far a ticket has come. -/
def SupportTicket.stage (t : SupportTicket) : ℕ :=
  match t.status with
  | .open | .cancelled => 0
  | .inProgress => 1
  | .resolved => 2
  | .closed => 3

/-- A request that has read the ticket as it is takes it no stage back. -/
theorem SupportTicket.stage_le_merge {q : By TicketRequest} {t new : SupportTicket}
    (h : t.handle q = .updated new) : t.stage ≤ (SupportTicket.merge t new t).stage := by
  have hmerge : (SupportTicket.merge t new t).stage = new.stage := by
    simp [stage, SupportTicket.merge, writeColumn_current]
  rw [hmerge]
  obtain ⟨user, q⟩ := q
  cases q with
  | updateTicket updateData =>
      cases h
      exact le_rfl
  | assignTicket assignedTo =>
      cases h
      cases hstatus : t.status <;> simp [stage, assign, hstatus]
  | resolveTicket resolution now =>
      have hnew := updating_eq_updated h
      unfold resolve at hnew
      split at hnew
      · cases hnew
      · next hopen =>
          cases hnew
          cases hstatus : t.status <;> simp_all [stage]
  | closeTicket now =>
      cases h
      cases hstatus : t.status <;> simp [stage, close, hstatus]

/-- The route takes the request for a ticket of the organization. -/
def Accepted (organizations : List OrganizationSlug) (user : CurrentUser) (header : Option String)
    (q : TicketRequest) (o : ℕ) : Prop :=
  (ticketApi organizations).accepts user header (.change 0 0 q) = some o

theorem moves_of_accepted {organizations : List OrganizationSlug} {user : CurrentUser}
    {header : Option String} {q : TicketRequest} {o : ℕ} (h : Accepted organizations user header q o)
    (i id : ℕ) : (ticketApi organizations).moves (.request user header (.change i id q)) =
      [.read i o id ⟨user.id, q⟩] := by
  have haccepts : (ticketApi organizations).accepts user header (.change i id q) = some o := h
  simp only [Api.moves, haccepts]

/-- **Tickets advance**: as long as no request is overtaken by another one between its reading and its
commit, no ticket goes back or is lost.  A resolution that is overtaken by a closing takes the closed
ticket back. -/
theorem tickets_advance (organizations : List OrganizationSlug) {s : Shared ticketService}
    {t : SupportTicket} (ht : t ∈ s.store.rows.rows) :
    (∀ es : List (OrgEvent TicketCreate TicketRequest),
      Along Shared.step Shared.Fresh s (es.flatMap (ticketApi organizations).moves) →
      ∃ t' ∈ (exec Shared.step s (es.flatMap (ticketApi organizations).moves)).store.rows.rows,
        t'.id = t.id ∧ t.stage ≤ t'.stage) ∧
    ∀ (i j : ℕ) (user user' : CurrentUser) (header header' : Option String) (resolution : String)
        (now later : ℤ), t.stage < 2 → i ≠ j →
      Accepted organizations user header (.resolveTicket resolution now) t.organizationId →
      Accepted organizations user' header' (.closeTicket later) t.organizationId →
      (∃ t' ∈ (exec Shared.step s ([.request user header (.change i t.id (.resolveTicket resolution now)),
          .request user' header' (.change j t.id (.closeTicket later)), .commit j].flatMap
            (ticketApi organizations).moves)).store.rows.rows,
        t'.id = t.id ∧ t'.status = .closed) ∧
      ∃ t' ∈ (exec Shared.step s ([.request user header (.change i t.id (.resolveTicket resolution now)),
          .request user' header' (.change j t.id (.closeTicket later)), .commit j, .commit i].flatMap
            (ticketApi organizations).moves)).store.rows.rows,
        t'.id = t.id ∧ t'.status = .resolved := by
  constructor
  · intro es h
    refine Shared.exists_of_fresh (P := fun t' => t.stage ≤ t'.stage) ?_
      (fun q r _ => SupportTicket.handle_ne_deleted r q) h ht le_rfl
    intro q r new hle hhandle
    exact hle.trans (SupportTicket.stage_le_merge hhandle)
  · intro i j user user' header header' resolution now later hstage hij haccepted haccepted'
    have hopen : t.status ≠ .closed ∧ t.status ≠ .resolved := by
      constructor <;> rintro heq <;> simp [SupportTicket.stage, heq] at hstage
    have hresolve : ticketService.handle ⟨user.id, .resolveTicket resolution now⟩ t = .updated
        { t with status := .resolved, resolution := some resolution, resolvedAt := some now } := by
      simp [ticketService, SupportTicket.handle, SupportTicket.resolve, updating, hopen.1]
    have hclose : ticketService.handle ⟨user'.id, .closeTicket later⟩ t = .updated (t.close later) := rfl
    obtain ⟨hclosed, hresolved⟩ := Shared.overtaken hij ht hresolve hclose
    simp only [List.flatMap_cons, List.flatMap_nil, moves_of_accepted haccepted,
      moves_of_accepted haccepted', List.append_nil]
    refine ⟨⟨_, hclosed, rfl, ?_⟩, ⟨_, hresolved, rfl, ?_⟩⟩
    · simp [ticketService, SupportTicket.merge, SupportTicket.close, writeColumn, hopen.1.symm]
    · simp [ticketService, SupportTicket.merge, writeColumn, hopen.2.symm]

/-- The ticket is resolved and closed; and closed and resolved. -/
theorem tickets_advance_closed :
    (∃ t' ∈ (exec Shared.step openDesk ([
        .request supervisor none (.change 0 0 (.resolveTicket "Cable replaced" 5)), .commit 0,
        .request supervisor (some "acme") (.change 1 0 (.closeTicket 6)), .commit 1].flatMap
          (ticketApi providers).moves)).store.rows.rows,
      t'.id = 0 ∧ slowLine.stage ≤ t'.stage) ∧
    ∃ t' ∈ (exec Shared.step openDesk ([
        .request supervisor none (.change 0 0 (.resolveTicket "Cable replaced" 5)),
        .request supervisor (some "acme") (.change 1 0 (.closeTicket 6)), .commit 1, .commit 0].flatMap
          (ticketApi providers).moves)).store.rows.rows,
      t'.id = 0 ∧ t'.status = .resolved :=
  have h : slowLine ∈ openDesk.store.rows.rows := by decide
  ⟨(tickets_advance providers h).1 _ (by decide),
    ((tickets_advance providers h).2 0 1 supervisor supervisor none (some "acme") "Cable replaced" 5 6
      (by decide) (by decide) rfl rfl).2⟩

end IspBilling
