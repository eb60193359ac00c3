import IspBilling.IdentityLinks
import IspBilling.ScopedRows

/-! # The organization that a request acts for

The routes of the back office (`app/api/v1/business`, `app/api/v1/communications`,
`app/api/v1/support`) take their organization from `get_org_id_for_query` (`app/api/deps_org.py`): a
platform owner names it by its slug in the header `X-Organization-Slug`, and everybody else acts for
the own organization, whatever the header says.  Some routes ask for `require_admin`
(`app/api/deps.py`) as well.  The service behind a route looks rows up by id and organization.

`Api` is such a group of routes over the rows of `ScopedRows`, where requests interleave between the
reading of a row and the commit.  `exec_of` is the isolation of the tenants: what an organization sees
of a run depends on the requests of callers that are entitled to it, and on the ids that the others
have used up. -/

namespace IspBilling

open Rows Runs ScopedRows

/-! ### The dependencies -/

/-- The columns of `users` that the dependencies read. -/
structure CurrentUser where
  id : ℕ
  organizationId : Option ℕ
  role : UserRole
  isActive : Bool
deriving DecidableEq, Repr

/-- The columns of `organizations` that the dependencies read. -/
structure OrganizationSlug where
  id : ℕ
  slug : String
deriving DecidableEq, Repr

/-- `HTTPException`. -/
structure HttpError where
  statusCode : ℕ
  detail : String
deriving DecidableEq, Repr

/-- `get_org_from_header`. -/
def getOrgFromHeader (organizations : List OrganizationSlug) (header : Option String) :
    Except HttpError (Option OrganizationSlug) :=
  match given header with
  | none => .ok none
  | some slug =>
      match organizations.find? (fun o => decide (o.slug = slug)) with
      | some o => .ok (some o)
      | none => .error ⟨404, "Organization '" ++ slug ++ "' not found"⟩

/-- `get_org_id_for_query`. -/
def getOrgIdForQuery (user : CurrentUser) (organization : Option OrganizationSlug) :
    Except HttpError ℕ :=
  if user.role = .platformOwner then
    match organization with
    | some o => .ok o.id
    | none => .error ⟨400, "Organization context required for this operation"⟩
  else if ∃ o ∈ organization, user.organizationId ≠ some o.id then
    .error ⟨403, "Access denied: Organization mismatch"⟩
  else
    match user.organizationId with
    | none | some 0 => .error ⟨400, "User does not belong to any organization"⟩
    | some o => .ok o

/-- `require_admin`, behind `get_current_active_user`. -/
def requireAdmin (user : CurrentUser) : Except HttpError Unit :=
  if user.isActive = false then .error ⟨400, "Inactive user"⟩
  else if user.role = .platformOwner ∨ user.role = .ispAdmin then .ok ()
  else .error ⟨403, "Insufficient permissions"⟩

/-- The organization that a request acts for. -/
def actsFor (organizations : List OrganizationSlug) (user : CurrentUser) (header : Option String) :
    Except HttpError ℕ :=
  (getOrgFromHeader organizations header).bind (getOrgIdForQuery user)

/-- The header names the organization. -/
def HeaderNames (organizations : List OrganizationSlug) (header : Option String) (o : ℕ) : Prop :=
  ∃ slug, given header = some slug ∧
    ((organizations.find? fun x => decide (x.slug = slug)).map OrganizationSlug.id) = some o

/-- A platform owner that names the organization, or one of its users that names no other. -/
def Entitled (organizations : List OrganizationSlug) (user : CurrentUser) (header : Option String)
    (o : ℕ) : Prop :=
  if user.role = .platformOwner then HeaderNames organizations header o
  else user.organizationId = some o ∧ o ≠ 0 ∧ (given header = none ∨ HeaderNames organizations header o)

/-- An administrator of the organization: an active user that is a platform owner, or its admin. -/
def IsAdministrator (user : CurrentUser) (o : ℕ) : Prop :=
  user.isActive = true ∧
    (user.role = .platformOwner ∨ user.role = .ispAdmin ∧ user.organizationId = some o)

theorem actsFor_eq_ok_iff {organizations : List OrganizationSlug} {user : CurrentUser}
    {header : Option String} {o : ℕ} :
    actsFor organizations user header = .ok o ↔ Entitled organizations user header o := by
  unfold actsFor getOrgFromHeader Entitled HeaderNames
  cases hheader : given header with
  | none =>
      by_cases hrole : user.role = .platformOwner
      · simp [Except.bind, getOrgIdForQuery, hrole]
      · rcases horg : user.organizationId with - | (- | n)
        · simp [Except.bind, getOrgIdForQuery, hrole, horg]
        · simp [Except.bind, getOrgIdForQuery, hrole, horg]
          omega
        · simp [Except.bind, getOrgIdForQuery, hrole, horg]
          omega
  | some slug =>
      cases hfind : organizations.find? (fun x => decide (x.slug = slug)) with
      | none => simp [Except.bind, hfind]
      | some org =>
          by_cases hrole : user.role = .platformOwner
          · simp [Except.bind, getOrgIdForQuery, hrole, hfind]
          · by_cases hmatch : user.organizationId = some org.id
            · rcases hid : org.id with - | n
              · simp [Except.bind, getOrgIdForQuery, hrole, hfind, hmatch, hid]
                omega
              · simp [Except.bind, getOrgIdForQuery, hrole, hfind, hmatch, hid]
                omega
            · simp [Except.bind, getOrgIdForQuery, hrole, hfind, hmatch]
              intro horg _ heq
              exact absurd (heq ▸ horg) hmatch

theorem isAdministrator_of_requireAdmin {organizations : List OrganizationSlug} {user : CurrentUser}
    {header : Option String} {o : ℕ} (hadmin : requireAdmin user = .ok ())
    (hacts : actsFor organizations user header = .ok o) : IsAdministrator user o := by
  have hentitled := actsFor_eq_ok_iff.mp hacts
  unfold requireAdmin at hadmin
  split at hadmin
  · cases hadmin
  · next hactive =>
      split at hadmin
      · next hrole =>
          refine ⟨by simpa using hactive, hrole.imp_right fun hisp => ⟨hisp, ?_⟩⟩
          have hnot : user.role ≠ .platformOwner := by simp [hisp]
          rw [Entitled, if_neg hnot] at hentitled
          exact hentitled.1
      · cases hadmin

/-! ### Routes -/

/-- A value with the id of the user that sends it. -/
structure By (α : Type) where
  user : ℕ
  value : α
deriving DecidableEq, Repr

/-- A request for a new row, or for a change of the row with an id; `i` is its database session. -/
inductive OrgRequest (δ κ : Type) where
  | create (data : δ)
  | change (i id : ℕ) (request : κ)
deriving DecidableEq, Repr

/-- What happens at the routes: a request arrives and reads its row, commits, or fails before. -/
inductive OrgEvent (δ κ : Type) where
  | request (user : CurrentUser) (header : Option String) (request : OrgRequest δ κ)
  | commit (i : ℕ)
  | abandon (i : ℕ)
deriving DecidableEq, Repr

/-- A group of routes over the rows of one service. -/
structure Api (ρ δ κ : Type) where
  service : Service ρ (By δ) (By κ)
  adminOnly : κ → Bool
  organizations : List OrganizationSlug

namespace Api

variable {ρ δ κ : Type} (api : Api ρ δ κ)

/-- The organization that an accepted request acts for. -/
def accepts (user : CurrentUser) (header : Option String) (request : OrgRequest δ κ) : Option ℕ :=
  match actsFor api.organizations user header with
  | .error _ => none
  | .ok o =>
      match request with
      | .create _ => some o
      | .change _ _ q =>
          if api.adminOnly q = true then
            match requireAdmin user with
            | .ok () => some o
            | .error _ => none
          else some o

/-- What an event does to the rows. -/
def moves : OrgEvent δ κ → List (Move (By δ) (By κ))
  | .request user header r =>
      match api.accepts user header r, r with
      | none, _ => []
      | some o, .create data => [.create o ⟨user.id, data⟩]
      | some o, .change i id q => [.read i o id ⟨user.id, q⟩]
  | .commit i => [.commit i]
  | .abandon i => [.abandon i]

/-- The trace that an accepted request leaves for the other organizations. -/
def trace : OrgRequest δ κ → Move (By δ) (By κ)
  | .create _ => .skip
  | .change i _ _ => .abandon i

instance (organizations : List OrganizationSlug) (user : CurrentUser) (header : Option String) (o : ℕ) :
    Decidable (Entitled organizations user header o) :=
  decidable_of_iff _ actsFor_eq_ok_iff

/-- What an organization sees of an event: the requests of callers that are entitled to it, and the
trace of the others. -/
def movesFor (o : ℕ) : OrgEvent δ κ → List (Move (By δ) (By κ))
  | .request user header r =>
      if Entitled api.organizations user header o then api.moves (.request user header r)
      else if (api.accepts user header r).isSome then [trace r]
      else []
  | .commit i => [.commit i]
  | .abandon i => [.abandon i]

theorem accepts_eq_some {user : CurrentUser} {header : Option String} {r : OrgRequest δ κ} {o : ℕ}
    (h : api.accepts user header r = some o) :
    actsFor api.organizations user header = .ok o ∧
      ∀ i id q, r = .change i id q → api.adminOnly q = true → requireAdmin user = .ok () := by
  unfold accepts at h
  split at h
  · cases h
  · next o' hacts =>
      split at h
      · cases h
        exact ⟨hacts, by simp⟩
      · next i id q =>
          split at h
          · next hadmin =>
              split at h
              · cases h
                refine ⟨hacts, fun _ _ _ _ _ => ‹_›⟩
              · cases h
          · next hopen =>
              cases h
              refine ⟨hacts, fun i' id' q' heq hadmin => ?_⟩
              cases heq
              exact absurd hadmin hopen

theorem map_seen_moves (o : ℕ) (e : OrgEvent δ κ) :
    (api.moves e).map (Move.seen o) = api.movesFor o e := by
  cases e with
  | commit i => rfl
  | abandon i => rfl
  | request user header r =>
      cases haccepts : api.accepts user header r with
      | none =>
          unfold movesFor moves
          simp [haccepts]
      | some o' =>
          have hacts := (api.accepts_eq_some haccepts).1
          by_cases ho : o' = o
          · subst ho
            have hentitled := actsFor_eq_ok_iff.mp hacts
            cases r with
            | create data => simp [movesFor, moves, haccepts, hentitled, Move.seen]
            | change i id q => simp [movesFor, moves, haccepts, hentitled, Move.seen]
          · have hnot : ¬ Entitled api.organizations user header o := by
              intro hentitled
              rw [← actsFor_eq_ok_iff, hacts, Except.ok.injEq] at hentitled
              exact ho hentitled
            cases r with
            | create data => simp [movesFor, moves, haccepts, hnot, Move.seen, ho, trace]
            | change i id q => simp [movesFor, moves, haccepts, hnot, Move.seen, ho, trace]

/-- **Tenant isolation**: what an organization sees of a run. -/
theorem exec_of {s : Shared api.service} (h : s.WellFormed) (o : ℕ) {es : List (OrgEvent δ κ)}
    (hes : Along Shared.step Shared.Apart s (es.flatMap api.moves)) :
    (exec Shared.step s (es.flatMap api.moves)).of o =
      exec Shared.step (s.of o) (es.flatMap (api.movesFor o)) := by
  rw [Shared.exec_of h o hes, List.map_flatMap]
  congr 1
  exact congrArg (es.flatMap ·) (funext fun e => api.map_seen_moves o e)

end Api

end IspBilling
