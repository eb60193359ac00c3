import IspBilling.TenantScope

/-! # Expenses, leads, campaigns and tickets

The services of the back office: `ExpenseService` (`app/modules/expenses/service.py`), `LeadService`
(`app/modules/leads/service.py`), `CampaignService` (`app/modules/campaigns/service.py`) and
`TicketService` (`app/modules/tickets/service.py`), with the routes over them.  Each method reads the
row with an id and the organization of the request, refuses what the status of the row rules out, sets
columns and commits; the commit writes the columns that have changed. -/

namespace IspBilling

open Rows Runs ScopedRows

/-- What becomes of a row, when a method raises or returns the row that it has changed. -/
def updating {ρ : Type} : Except String ρ → Outcome ρ
  | .ok row => .updated row
  | .error _ => .refused

/-- What becomes of a row, when a method raises or deletes it. -/
def deleting {ρ : Type} : Except String Unit → Outcome ρ
  | .ok _ => .deleted
  | .error _ => .refused

/-! ### Expenses -/

/-- `ExpenseStatus`. -/
inductive ExpenseStatus where
  | pending | approved | rejected
deriving DecidableEq, Repr

/-- `ExpenseCategory`. -/
inductive ExpenseCategory where
  | infrastructure | equipment | maintenance | utilities | licenses | marketing | salaries | office
  | travel | other
deriving DecidableEq, Repr

/-- A row of `expenses`; the date is a number of days and the amount is in cents. -/
structure Expense where
  id : ℕ
  organizationId : ℕ
  date : ℤ
  category : ExpenseCategory
  description : String
  amount : ℕ
  currency : String
  receiptUrl : Option String
  addedByUserId : ℕ
  status : ExpenseStatus
  notes : Option String
  approvedByUserId : Option ℕ
  approvedAt : Option ℤ
  rejectionReason : Option String
deriving DecidableEq, Repr

/-- `ExpenseCreate`. -/
structure ExpenseCreate where
  date : ℤ
  category : ExpenseCategory
  description : String
  amount : ℕ
  currency : String
  receiptUrl : Option String
  notes : Option String
deriving DecidableEq, Repr

/-- `ExpenseUpdate`. -/
structure ExpenseUpdate where
  date : Option ℤ
  category : Option ExpenseCategory
  description : Option String
  amount : Option ℕ
  currency : Option String
  receiptUrl : Option String
  notes : Option String
deriving DecidableEq, Repr

/-- The requests for one expense, with the clock. -/
inductive ExpenseRequest where
  | updateExpense (updateData : ExpenseUpdate)
  | deleteExpense
  | approveExpense (now : ℤ)
  | rejectExpense (rejectionReason : String) (now : ℤ)
deriving DecidableEq, Repr

namespace Expense

/-- `create_expense`. -/
def create (data : By ExpenseCreate) (organizationId id : ℕ) : Expense where
  id := id
  organizationId := organizationId
  date := data.value.date
  category := data.value.category
  description := data.value.description
  amount := data.value.amount
  currency := data.value.currency
  receiptUrl := data.value.receiptUrl
  addedByUserId := data.user
  status := .pending
  notes := data.value.notes
  approvedByUserId := none
  approvedAt := none
  rejectionReason := none

/-- `update_expense`. -/
def update (updateData : ExpenseUpdate) (e : Expense) : Except String Expense :=
  if e.status ≠ .pending then .error "Can only update pending expenses"
  else
    .ok { e with
      date := updateData.date.getD e.date
      category := updateData.category.getD e.category
      description := updateData.description.getD e.description
      amount := updateData.amount.getD e.amount
      currency := updateData.currency.getD e.currency
      receiptUrl := updateData.receiptUrl.or e.receiptUrl
      notes := updateData.notes.or e.notes }

/-- `delete_expense`. -/
def delete (e : Expense) : Except String Unit :=
  if e.status ≠ .pending then .error "Can only delete pending expenses" else .ok ()

/-- `approve_expense`. -/
def approve (userId : ℕ) (now : ℤ) (e : Expense) : Except String Expense :=
  if e.status ≠ .pending then .error "Can only approve pending expenses"
  else
    .ok { e with
      status := .approved
      approvedByUserId := some userId
      approvedAt := some now
      rejectionReason := none }

/-- `reject_expense`. -/
def reject (userId : ℕ) (rejectionReason : String) (now : ℤ) (e : Expense) : Except String Expense :=
  if e.status ≠ .pending then .error "Can only reject pending expenses"
  else
    .ok { e with
      status := .rejected
      approvedByUserId := some userId
      approvedAt := some now
      rejectionReason := some rejectionReason }

def handle (q : By ExpenseRequest) (e : Expense) : Outcome Expense :=
  match q.value with
  | .updateExpense updateData => updating (e.update updateData)
  | .deleteExpense => deleting e.delete
  | .approveExpense now => updating (e.approve q.user now)
  | .rejectExpense rejectionReason now => updating (e.reject q.user rejectionReason now)

def merge (old new row : Expense) : Expense :=
  { row with
    date := writeColumn old.date new.date row.date
    category := writeColumn old.category new.category row.category
    description := writeColumn old.description new.description row.description
    amount := writeColumn old.amount new.amount row.amount
    currency := writeColumn old.currency new.currency row.currency
    receiptUrl := writeColumn old.receiptUrl new.receiptUrl row.receiptUrl
    status := writeColumn old.status new.status row.status
    notes := writeColumn old.notes new.notes row.notes
    approvedByUserId := writeColumn old.approvedByUserId new.approvedByUserId row.approvedByUserId
    approvedAt := writeColumn old.approvedAt new.approvedAt row.approvedAt
    rejectionReason := writeColumn old.rejectionReason new.rejectionReason row.rejectionReason }

end Expense

/-- `ExpenseService`. -/
def expenseService : Service Expense (By ExpenseCreate) (By ExpenseRequest) where
  id := Expense.id
  owner := Expense.organizationId
  create := Expense.create
  clashes _ _ := false
  handle := Expense.handle
  merge := Expense.merge
  id_create _ _ _ := rfl
  owner_create _ _ _ := rfl
  id_merge _ _ _ := rfl
  owner_merge _ _ _ := rfl

/-- The routes of `app/api/v1/business/expenses.py`. -/
def expenseApi (organizations : List OrganizationSlug) : Api Expense ExpenseCreate ExpenseRequest where
  service := expenseService
  adminOnly
    | .approveExpense _ | .rejectExpense _ _ => true
    | .updateExpense _ | .deleteExpense => false
  organizations := organizations

/-! ### Leads -/

/-- `LeadStatus`. -/
inductive LeadStatus where
  | new | contacted | qualified | proposal | negotiation | converted | lost
deriving DecidableEq, Repr

/-- `LeadSource`. -/
inductive LeadSource where
  | website | referral | socialMedia | advertisement | walkIn | phoneCall | other
deriving DecidableEq, Repr

/-- A row of `leads`. -/
structure Lead where
  id : ℕ
  organizationId : ℕ
  name : String
  email : Option String
  phone : Option String
  company : Option String
  address : Option String
  city : Option String
  status : LeadStatus
  source : Option LeadSource
  notes : Option String
  estimatedValue : Option ℤ
  assignedToUserId : Option ℕ
  convertedToUserId : Option ℕ
  convertedAt : Option ℤ
  createdByUserId : ℕ
deriving DecidableEq, Repr

/-- `LeadCreate`. -/
structure LeadCreate where
  name : String
  email : Option String
  phone : Option String
  company : Option String
  address : Option String
  city : Option String
  source : Option LeadSource
  notes : Option String
  estimatedValue : Option ℤ
deriving DecidableEq, Repr

/-- `LeadUpdate`. -/
structure LeadUpdate where
  name : Option String
  email : Option String
  phone : Option String
  company : Option String
  address : Option String
  city : Option String
  status : Option LeadStatus
  source : Option LeadSource
  notes : Option String
  estimatedValue : Option ℤ
deriving DecidableEq, Repr

inductive LeadRequest where
  | updateLead (updateData : LeadUpdate)
  | deleteLead
  | assignLead (assignedToUserId : ℕ)
  | convertLead (convertedToUserId : Option ℕ) (now : ℤ)
deriving DecidableEq, Repr

namespace Lead

/-- `create_lead`. -/
def create (data : By LeadCreate) (organizationId id : ℕ) : Lead where
  id := id
  organizationId := organizationId
  name := data.value.name
  email := data.value.email
  phone := data.value.phone
  company := data.value.company
  address := data.value.address
  city := data.value.city
  status := .new
  source := data.value.source
  notes := data.value.notes
  estimatedValue := data.value.estimatedValue
  assignedToUserId := none
  convertedToUserId := none
  convertedAt := none
  createdByUserId := data.user

/-- `update_lead`. -/
def update (updateData : LeadUpdate) (l : Lead) : Except String Lead :=
  if l.status = .converted then .error "Cannot update converted leads"
  else
    .ok { l with
      name := updateData.name.getD l.name
      email := updateData.email.or l.email
      phone := updateData.phone.or l.phone
      company := updateData.company.or l.company
      address := updateData.address.or l.address
      city := updateData.city.or l.city
      status := updateData.status.getD l.status
      source := updateData.source.or l.source
      notes := updateData.notes.or l.notes
      estimatedValue := updateData.estimatedValue.or l.estimatedValue }

/-- `delete_lead`. -/
def delete (l : Lead) : Except String Unit :=
  if l.status = .converted then .error "Cannot delete converted leads" else .ok ()

/-- `assign_lead`. -/
def assign (assignedToUserId : ℕ) (l : Lead) : Lead :=
  { l with assignedToUserId := some assignedToUserId }

/-- `convert_lead`. -/
def convert (convertedToUserId : Option ℕ) (now : ℤ) (l : Lead) : Except String Lead :=
  if l.status = .converted then .error "Lead is already converted"
  else
    .ok { l with
      status := .converted
      convertedToUserId := convertedToUserId
      convertedAt := some now }

def handle (q : By LeadRequest) (l : Lead) : Outcome Lead :=
  match q.value with
  | .updateLead updateData => updating (l.update updateData)
  | .deleteLead => deleting l.delete
  | .assignLead assignedToUserId => .updated (l.assign assignedToUserId)
  | .convertLead convertedToUserId now => updating (l.convert convertedToUserId now)

def merge (old new row : Lead) : Lead :=
  { row with
    name := writeColumn old.name new.name row.name
    email := writeColumn old.email new.email row.email
    phone := writeColumn old.phone new.phone row.phone
    company := writeColumn old.company new.company row.company
    address := writeColumn old.address new.address row.address
    city := writeColumn old.city new.city row.city
    status := writeColumn old.status new.status row.status
    source := writeColumn old.source new.source row.source
    notes := writeColumn old.notes new.notes row.notes
    estimatedValue := writeColumn old.estimatedValue new.estimatedValue row.estimatedValue
    assignedToUserId := writeColumn old.assignedToUserId new.assignedToUserId row.assignedToUserId
    convertedToUserId := writeColumn old.convertedToUserId new.convertedToUserId row.convertedToUserId
    convertedAt := writeColumn old.convertedAt new.convertedAt row.convertedAt }

end Lead

/-- `LeadService`. -/
def leadService : Service Lead (By LeadCreate) (By LeadRequest) where
  id := Lead.id
  owner := Lead.organizationId
  create := Lead.create
  clashes _ _ := false
  handle := Lead.handle
  merge := Lead.merge
  id_create _ _ _ := rfl
  owner_create _ _ _ := rfl
  id_merge _ _ _ := rfl
  owner_merge _ _ _ := rfl

/-- The routes of `app/api/v1/business/leads.py`. -/
def leadApi (organizations : List OrganizationSlug) : Api Lead LeadCreate LeadRequest where
  service := leadService
  adminOnly _ := false
  organizations := organizations

/-! ### Campaigns -/

/-- `CampaignType`. -/
inductive CampaignType where
  | sms | email | whatsapp | both
deriving DecidableEq, Repr

/-- `CampaignStatus`. -/
inductive CampaignStatus where
  | draft | scheduled | active | paused | completed | cancelled
deriving DecidableEq, Repr

/-- A row of `campaigns`, without the counters of its messages. -/
structure Campaign where
  id : ℕ
  organizationId : ℕ
  name : String
  campaignType : CampaignType
  status : CampaignStatus
  scheduledDate : Option ℤ
  messageContent : Option String
  emailSubject : Option String
  emailContent : Option String
  targetFilters : Option String
  createdByUserId : ℕ
  notes : Option String
deriving DecidableEq, Repr

/-- `CampaignCreate`. -/
structure CampaignCreate where
  name : String
  campaignType : CampaignType
  messageContent : Option String
  emailSubject : Option String
  emailContent : Option String
  targetFilters : Option String
  scheduledDate : Option ℤ
  notes : Option String
deriving DecidableEq, Repr

/-- `CampaignUpdate`. -/
structure CampaignUpdate where
  name : Option String
  campaignType : Option CampaignType
  status : Option CampaignStatus
  messageContent : Option String
  emailSubject : Option String
  emailContent : Option String
  targetFilters : Option String
  scheduledDate : Option ℤ
  notes : Option String
deriving DecidableEq, Repr

inductive CampaignRequest where
  | updateCampaign (updateData : CampaignUpdate)
  | deleteCampaign
  | pauseCampaign
  | resumeCampaign
deriving DecidableEq, Repr

namespace Campaign

/-- `create_campaign`. -/
def create (data : By CampaignCreate) (organizationId id : ℕ) : Campaign where
  id := id
  organizationId := organizationId
  name := data.value.name
  campaignType := data.value.campaignType
  status := .draft
  scheduledDate := data.value.scheduledDate
  messageContent := data.value.messageContent
  emailSubject := data.value.emailSubject
  emailContent := data.value.emailContent
  targetFilters := data.value.targetFilters
  createdByUserId := data.user
  notes := data.value.notes

/-- `update_campaign`. -/
def update (updateData : CampaignUpdate) (c : Campaign) : Except String Campaign :=
  if c.status ∉ [CampaignStatus.draft, .scheduled] then
    .error "Can only update draft or scheduled campaigns"
  else
    .ok { c with
      name := updateData.name.getD c.name
      campaignType := updateData.campaignType.getD c.campaignType
      status := updateData.status.getD c.status
      messageContent := updateData.messageContent.or c.messageContent
      emailSubject := updateData.emailSubject.or c.emailSubject
      emailContent := updateData.emailContent.or c.emailContent
      targetFilters := updateData.targetFilters.or c.targetFilters
      scheduledDate := updateData.scheduledDate.or c.scheduledDate
      notes := updateData.notes.or c.notes }

/-- `delete_campaign`. -/
def delete (c : Campaign) : Except String Unit :=
  if c.status ≠ .draft then .error "Can only delete draft campaigns" else .ok ()

/-- `pause_campaign`. -/
def pause (c : Campaign) : Except String Campaign :=
  if c.status ≠ .active then .error "Can only pause active campaigns"
  else .ok { c with status := .paused }

/-- `resume_campaign`. -/
def resume (c : Campaign) : Except String Campaign :=
  if c.status ≠ .paused then .error "Can only resume paused campaigns"
  else .ok { c with status := .active }

def handle (q : By CampaignRequest) (c : Campaign) : Outcome Campaign :=
  match q.value with
  | .updateCampaign updateData => updating (c.update updateData)
  | .deleteCampaign => deleting c.delete
  | .pauseCampaign => updating c.pause
  | .resumeCampaign => updating c.resume

def merge (old new row : Campaign) : Campaign :=
  { row with
    name := writeColumn old.name new.name row.name
    campaignType := writeColumn old.campaignType new.campaignType row.campaignType
    status := writeColumn old.status new.status row.status
    scheduledDate := writeColumn old.scheduledDate new.scheduledDate row.scheduledDate
    messageContent := writeColumn old.messageContent new.messageContent row.messageContent
    emailSubject := writeColumn old.emailSubject new.emailSubject row.emailSubject
    emailContent := writeColumn old.emailContent new.emailContent row.emailContent
    targetFilters := writeColumn old.targetFilters new.targetFilters row.targetFilters
    notes := writeColumn old.notes new.notes row.notes }

end Campaign

/-- `CampaignService`. -/
def campaignService : Service Campaign (By CampaignCreate) (By CampaignRequest) where
  id := Campaign.id
  owner := Campaign.organizationId
  create := Campaign.create
  clashes _ _ := false
  handle := Campaign.handle
  merge := Campaign.merge
  id_create _ _ _ := rfl
  owner_create _ _ _ := rfl
  id_merge _ _ _ := rfl
  owner_merge _ _ _ := rfl

/-- The routes of `app/api/v1/communications/campaigns.py`. -/
def campaignApi (organizations : List OrganizationSlug) :
    Api Campaign CampaignCreate CampaignRequest where
  service := campaignService
  adminOnly
    | .pauseCampaign | .resumeCampaign => true
    | .updateCampaign _ | .deleteCampaign => false
  organizations := organizations

/-! ### Tickets -/

/-- `TicketStatus`. -/
inductive TicketStatus where
  | open | inProgress | resolved | closed | cancelled
deriving DecidableEq, Repr

/-- `TicketPriority`. -/
inductive TicketPriority where
  | low | medium | high | urgent
deriving DecidableEq, Repr

/-- A row of `support_tickets`. -/
structure SupportTicket where
  id : ℕ
  organizationId : ℕ
  userId : ℕ
  assignedTo : Option ℕ
  ticketNumber : String
  subject : String
  description : String
  status : TicketStatus
  priority : TicketPriority
  category : Option String
  tags : Option String
  resolution : Option String
  resolvedAt : Option ℤ
  closedAt : Option ℤ
  attachments : Option String
deriving DecidableEq, Repr

/-- `SupportTicketCreate`, with the number that `_generate_ticket_number` draws. -/
structure TicketCreate where
  userId : ℕ
  ticketNumber : String
  subject : String
  description : String
  priority : TicketPriority
  category : Option String
  tags : Option String
  attachments : Option String
deriving DecidableEq, Repr

/-- `SupportTicketUpdate`. -/
structure TicketUpdate where
  subject : Option String
  description : Option String
  category : Option String
  priority : Option TicketPriority
  tags : Option String
  attachments : Option String
deriving DecidableEq, Repr

inductive TicketRequest where
  | updateTicket (updateData : TicketUpdate)
  | assignTicket (assignedTo : ℕ)
  | resolveTicket (resolution : String) (now : ℤ)
  | closeTicket (now : ℤ)
deriving DecidableEq, Repr

namespace SupportTicket

/-- `create_ticket`. -/
def create (data : By TicketCreate) (organizationId id : ℕ) : SupportTicket where
  id := id
  organizationId := organizationId
  userId := data.value.userId
  assignedTo := none
  ticketNumber := data.value.ticketNumber
  subject := data.value.subject
  description := data.value.description
  status := .open
  priority := data.value.priority
  category := data.value.category
  tags := data.value.tags
  resolution := none
  resolvedAt := none
  closedAt := none
  attachments := data.value.attachments

/-- `update_ticket`. -/
def update (updateData : TicketUpdate) (t : SupportTicket) : SupportTicket :=
  { t with
    subject := updateData.subject.getD t.subject
    description := updateData.description.getD t.description
    category := updateData.category.or t.category
    priority := updateData.priority.getD t.priority
    tags := updateData.tags.or t.tags
    attachments := updateData.attachments.or t.attachments }

/-- `assign_ticket`. -/
def assign (assignedTo : ℕ) (t : SupportTicket) : SupportTicket :=
  { t with
    assignedTo := some assignedTo
    status := if t.status = .open then .inProgress else t.status }

/-- `resolve_ticket`. -/
def resolve (resolution : String) (now : ℤ) (t : SupportTicket) : Except String SupportTicket :=
  if t.status = .closed then .error "Cannot resolve a closed ticket"
  else
    .ok { t with
      status := .resolved
      resolution := some resolution
      resolvedAt := some now }

/-- `close_ticket`. -/
def close (now : ℤ) (t : SupportTicket) : SupportTicket :=
  { t with
    status := .closed
    closedAt := some now }

def handle (q : By TicketRequest) (t : SupportTicket) : Outcome SupportTicket :=
  match q.value with
  | .updateTicket updateData => .updated (t.update updateData)
  | .assignTicket assignedTo => .updated (t.assign assignedTo)
  | .resolveTicket resolution now => updating (t.resolve resolution now)
  | .closeTicket now => .updated (t.close now)

def merge (old new row : SupportTicket) : SupportTicket :=
  { row with
    assignedTo := writeColumn old.assignedTo new.assignedTo row.assignedTo
    subject := writeColumn old.subject new.subject row.subject
    description := writeColumn old.description new.description row.description
    status := writeColumn old.status new.status row.status
    priority := writeColumn old.priority new.priority row.priority
    category := writeColumn old.category new.category row.category
    tags := writeColumn old.tags new.tags row.tags
    resolution := writeColumn old.resolution new.resolution row.resolution
    resolvedAt := writeColumn old.resolvedAt new.resolvedAt row.resolvedAt
    closedAt := writeColumn old.closedAt new.closedAt row.closedAt
    attachments := writeColumn old.attachments new.attachments row.attachments }

end SupportTicket

/-- `TicketService`. -/
def ticketService : Service SupportTicket (By TicketCreate) (By TicketRequest) where
  id := SupportTicket.id
  owner := SupportTicket.organizationId
  create := SupportTicket.create
  clashes data t := decide (t.ticketNumber = data.value.ticketNumber)
  handle := SupportTicket.handle
  merge := SupportTicket.merge
  id_create _ _ _ := rfl
  owner_create _ _ _ := rfl
  id_merge _ _ _ := rfl
  owner_merge _ _ _ := rfl

/-- The routes of `app/api/v1/support/tickets.py`. -/
def ticketApi (organizations : List OrganizationSlug) : Api SupportTicket TicketCreate TicketRequest where
  service := ticketService
  adminOnly
    | .assignTicket _ | .resolveTicket _ _ | .closeTicket _ => true
    | .updateTicket _ => false
  organizations := organizations

end IspBilling
