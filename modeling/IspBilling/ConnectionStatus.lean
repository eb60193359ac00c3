import IspBilling.ExpiryPasses

/-! # The readiness of a hotspot user

After a payment or a voucher the captive page polls `get_connection_status` and logs in once the user
exists on the router.  For a router with an agent that is the case when the agent has run the
`create_user` of the user.  The endpoint looks for it among the newest fifty `create_user` commands of
the router, and reads the absence of one as "created directly".

`getConnectionStatus_found` says what the endpoint answers for a command in that window, and
`not_found_iff` when it finds none. -/

namespace IspBilling

/-! ### The endpoint -/

/-- The answer of `get_connection_status`. -/
structure ConnectionStatus where
  ready : Bool
  status : String
  message : Option String
deriving DecidableEq, Repr

/-- The username of a `create_user`. -/
def RouterCommand.createdUser (c : RouterCommand) : Option String :=
  match c.action with
  | .createUser username _ _ _ _ => some username
  | _ => none

/-- `ORDER BY created_at DESC`. -/
def newestFirst (rows : List RouterCommand) : List RouterCommand :=
  rows.insertionSort (fun a b => b.createdAt ≤ a.createdAt)

/-- The `create_user` commands of a router, newest first. -/
def createUserCommands (routerId : ℕ) (commands : List RouterCommand) : List RouterCommand :=
  newestFirst (commands.filter fun c => decide (c.routerId = routerId) && c.createdUser.isSome)

/-- The command that `get_connection_status` goes by. -/
def recentCreateUser (routerId : ℕ) (username : String) (commands : List RouterCommand) :
    Option RouterCommand :=
  ((createUserCommands routerId commands).take 50).find? fun c =>
    decide (c.createdUser = some username)

/-- `get_connection_status`. -/
def getConnectionStatus (routers : List Router) (organizationId : ℕ) (username : String)
    (commands : List RouterCommand) : ConnectionStatus :=
  match activeRouter routers organizationId with
  | none => ⟨false, "no_router", none⟩
  | some router =>
      match recentCreateUser router.id username commands with
      | none => ⟨true, "ready", none⟩
      | some command =>
          match command.status with
          | .success => ⟨true, "ready", none⟩
          | .failed => ⟨false, "failed", command.resultMessage⟩
          | .pending | .sent | .expired => ⟨false, "pending", none⟩

/-! ### The latest command of a user -/

/-- A `create_user` for the username on the router. -/
def IsCreateUser (routerId : ℕ) (username : String) (c : RouterCommand) : Prop :=
  c.routerId = routerId ∧ c.createdUser = some username

instance (routerId : ℕ) (username : String) : DecidablePred (IsCreateUser routerId username) :=
  fun c => inferInstanceAs (Decidable (c.routerId = routerId ∧ c.createdUser = some username))

/-- The most recently created `create_user` for the username on the router. -/
def IsLatestCreateUser (routerId : ℕ) (username : String) (commands : List RouterCommand)
    (c : RouterCommand) : Prop :=
  c ∈ commands ∧ IsCreateUser routerId username c ∧
    ∀ c' ∈ commands, IsCreateUser routerId username c' → c'.createdAt ≤ c.createdAt

section Latest

variable {routerId : ℕ} {username : String} {commands : List RouterCommand} {c : RouterCommand}

theorem mem_createUserCommands : c ∈ createUserCommands routerId commands ↔
    c ∈ commands ∧ c.routerId = routerId ∧ c.createdUser.isSome = true := by
  unfold createUserCommands newestFirst
  rw [List.mem_insertionSort, List.mem_filter, Bool.and_eq_true, decide_eq_true_eq]

theorem IsCreateUser.mem (h : IsCreateUser routerId username c) (hc : c ∈ commands) :
    c ∈ createUserCommands routerId commands :=
  mem_createUserCommands.mpr ⟨hc, h.1, by rw [h.2]; rfl⟩

theorem pairwise_createUserCommands (routerId : ℕ) (commands : List RouterCommand) :
    (createUserCommands routerId commands).Pairwise (fun a b => b.createdAt ≤ a.createdAt) := by
  have : Std.Total fun a b : RouterCommand => b.createdAt ≤ a.createdAt :=
    ⟨fun a b => le_total b.createdAt a.createdAt⟩
  have : IsTrans RouterCommand fun a b => b.createdAt ≤ a.createdAt :=
    ⟨fun a b c hab hbc => le_trans hbc hab⟩
  exact List.pairwise_insertionSort _ _

theorem isLatest_of_found (h : recentCreateUser routerId username commands = some c) :
    IsLatestCreateUser routerId username commands c := by
  unfold recentCreateUser at h
  obtain ⟨hname, newer, older, hsplit, hnot⟩ := List.find?_eq_some_iff_append.mp h
  rw [decide_eq_true_eq] at hname
  have hall : createUserCommands routerId commands =
      newer ++ c :: (older ++ (createUserCommands routerId commands).drop 50) := by
    rw [← List.cons_append, ← List.append_assoc, ← hsplit, List.take_append_drop]
  have hmem : c ∈ createUserCommands routerId commands := by
    rw [hall]
    exact List.mem_append_right _ List.mem_cons_self
  obtain ⟨hc, hrouter, -⟩ := mem_createUserCommands.mp hmem
  refine ⟨hc, ⟨hrouter, hname⟩, ?_⟩
  intro c' hc' hcreate
  have hsorted := pairwise_createUserCommands routerId commands
  have hmem' := hcreate.mem hc'
  rw [hall] at hsorted hmem'
  rcases List.mem_append.mp hmem' with hbefore | hafter
  · -- what stands in front of it is for other users
    have hother := hnot c' hbefore
    simp [hcreate.2] at hother
  · rcases List.mem_cons.mp hafter with rfl | hafter
    · exact le_refl _
    · exact List.rel_of_pairwise_cons (List.pairwise_append.mp hsorted).2.1 hafter

theorem not_found_iff : recentCreateUser routerId username commands = none ↔
    ∀ c ∈ (createUserCommands routerId commands).take 50, c.createdUser ≠ some username := by
  unfold recentCreateUser
  rw [List.find?_eq_none]
  simp only [decide_eq_true_eq, ne_eq]

end Latest

/-! ### Whether the answer can be trusted -/

/-- "Ready" means that the latest `create_user` of the user has succeeded. -/
def TruthfulStatus (routers : List Router) (organizationId : ℕ) (username : String)
    (commands : List RouterCommand) (router : Router) : Prop :=
  (getConnectionStatus routers organizationId username commands).ready = true →
    ∃ c, IsLatestCreateUser router.id username commands c ∧ c.status = .success

section Truthful

variable {routers : List Router} {organizationId : ℕ} {username : String}
  {commands : List RouterCommand} {router : Router} {c : RouterCommand}

theorem ready_iff_of_found (hrouter : activeRouter routers organizationId = some router)
    (hfound : recentCreateUser router.id username commands = some c) :
    (getConnectionStatus routers organizationId username commands).ready = true ↔
      c.status = .success := by
  unfold getConnectionStatus
  rw [hrouter]
  simp only [hfound]
  cases c.status <;> simp

theorem ready_of_not_found (hrouter : activeRouter routers organizationId = some router)
    (hnone : recentCreateUser router.id username commands = none) :
    (getConnectionStatus routers organizationId username commands).ready = true := by
  unfold getConnectionStatus
  rw [hrouter]
  simp only [hnone]

/-- The answer can be trusted exactly when the user has a `create_user` on the router, and the latest
one has succeeded or is one of the fifty newest of the router. -/
theorem truthful_iff (hrouter : activeRouter routers organizationId = some router) :
    TruthfulStatus routers organizationId username commands router ↔
      ∃ c, IsLatestCreateUser router.id username commands c ∧
        (c.status = .success ∨ c ∈ (createUserCommands router.id commands).take 50) := by
  cases hfound : recentCreateUser router.id username commands with
  | some c =>
      have hlatest := isLatest_of_found hfound
      have hwindow : c ∈ (createUserCommands router.id commands).take 50 := by
        unfold recentCreateUser at hfound
        exact List.mem_of_find?_eq_some hfound
      constructor
      · intro _
        exact ⟨c, hlatest, Or.inr hwindow⟩
      · intro _ hready
        exact ⟨c, hlatest, (ready_iff_of_found hrouter hfound).mp hready⟩
  | none =>
      have hready := ready_of_not_found hrouter hfound
      constructor
      · intro htruthful
        obtain ⟨c, hlatest, hsuccess⟩ := htruthful hready
        exact ⟨c, hlatest, Or.inl hsuccess⟩
      · rintro ⟨c, hlatest, hsuccess | hwindow⟩ _
        · exact ⟨c, hlatest, hsuccess⟩
        · exact absurd hlatest.2.1.2 (not_found_iff.mp hfound c hwindow)

/-- The connection status of an organization whose active router has an agent. -/
theorem connection_status_truthful_iff
    (hrouter : activeRouter routers organizationId = some router) (_hagent : router.AgentMode) :
    TruthfulStatus routers organizationId username commands router ↔
      ∃ c, IsLatestCreateUser router.id username commands c ∧
        (c.status = .success ∨ c ∈ (createUserCommands router.id commands).take 50) :=
  truthful_iff hrouter

end Truthful

def agentRouter : Router := ⟨1, 1, true, true, some "token"⟩

/-- The `create_user` of a guest, created at a time. -/
def guestCommand (username : String) (status : CommandStatus) (createdAt : ℤ) : RouterCommand where
  id := username
  routerId := 1
  action := .createUser username "secret" .hotspot "plan_1" "2M/2M"
  priority := 2
  status := status
  createdAt := createdAt
  sentAt := none
  completedAt := none
  expiresAt := none
  resultMessage := none
  retryCount := 0
  maxRetries := 3
  source := none
  sourceId := none

theorem connection_status_of_pending_guest :
    TruthfulStatus [agentRouter] 1 "guest" [guestCommand "guest" .pending 0] agentRouter :=
  (connection_status_truthful_iff rfl (by decide)).mpr
    ⟨guestCommand "guest" .pending 0, ⟨by decide, by decide, by decide⟩, Or.inr (by decide)⟩

/-- One pending command and fifty newer ones of other guests. -/
def busyHour : List RouterCommand :=
  guestCommand "guest" .pending 0 ::
    (List.range 50).map fun i => guestCommand ("guest" ++ toString i) .success (i + 1)

/-- In a busy hour a guest is told to log in before the router knows the guest. -/
theorem busyHour_ready_too_early :
    (getConnectionStatus [agentRouter] 1 "guest" busyHour).ready = true ∧
      ¬ TruthfulStatus [agentRouter] 1 "guest" busyHour agentRouter := by
  have hready : (getConnectionStatus [agentRouter] 1 "guest" busyHour).ready = true := by
    decide +kernel
  have hpending : ∀ c ∈ busyHour, IsCreateUser 1 "guest" c → c.status ≠ .success := by
    decide +kernel
  refine ⟨hready, fun htruthful => ?_⟩
  obtain ⟨c, ⟨hc, hcreate, -⟩, hsuccess⟩ := htruthful hready
  exact hpending c hc hcreate hsuccess

end IspBilling
