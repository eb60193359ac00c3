import IspBilling.CandidateSearch
import IspBilling.Deliveries
import IspBilling.IdentityLinks
import IspBilling.Numeral

/-! # The consumer that mirrors tenants

`app/events/consumer.py` runs in several replicas.  They share one durable subscription, so that each
message goes to one of them, and to another one as long as nobody has acknowledged it.  The callback of
`_make_cb` acknowledges a message when its handler returns, and gives it back when it raises.

The handler of `auth.tenant.*` is `handle_auth_tenant`.  `IdentityLinks` treats it as one step; here it
is cut between its queries and its commit, with the other replicas and the rest of the backend in between
(`tenantHandler`).  The commit writes the columns that the handler has changed, and the columns of
`organizations` may refuse it: they are unique, or too short for a text.

`tenants_mirrored` is about all runs in which no commit takes an organization from another tenant: the
tenant of every message that is acknowledged has its organization.  `redelivery_mirrors` says that
nothing is stuck: from every state one undisturbed delivery of a message mirrors its tenant, and is
`handle_auth_tenant`. -/

namespace IspBilling

open Rows Runs Deliveries CandidateSearch

/-! ### Messages -/

/-- What `_decode` makes of a message: nothing of a text that is not JSON, and JSON need not be an
object. -/
inductive TenantMessage where
  | unreadable
  | notObject
  | event (p : TenantPayload)
deriving DecidableEq, Repr

def TenantPayload.empty : TenantPayload :=
  ⟨none, none, none, none, none, none, none, none, none, none, none⟩

namespace TenantMessage

/-- What the handler reads of the envelope; `envelope.get` raises without an object. -/
def payload : TenantMessage → Option TenantPayload
  | .unreadable => some .empty
  | .notObject => none
  | .event p => some p

/-- The tenant that is to be mirrored. -/
def tenant (txt : IdentityText) (m : TenantMessage) : Option (String × ℕ) :=
  m.payload.bind (TenantPayload.tenant txt)

end TenantMessage

/-! ### The handler in two halves -/

/-- What the queries lead to: nothing to do, an organization as it was read and as it is to be, or a new
one, still without id. -/
inductive TenantRead where
  | ignored
  | found (old new : TenantOrganization)
  | missing (o : TenantOrganization)
deriving DecidableEq, Repr

/-- What the database adds: the id of a new row, whether it is there to take the commit, and whether the
handler hears of it. -/
structure TenantCommit where
  newId : ℕ
  taken : Bool
  answered : Bool
deriving DecidableEq, Repr

/-- The row after the commit of a handler that has read `old` and left `new`. -/
def TenantOrganization.merge (old new row : TenantOrganization) : TenantOrganization :=
  { row with
    authTenantId := writeColumn old.authTenantId new.authTenantId row.authTenantId
    uuid := writeColumn old.uuid new.uuid row.uuid
    name := writeColumn old.name new.name row.name
    slug := writeColumn old.slug new.slug row.slug }

@[simp] theorem TenantOrganization.merge_id (old new row : TenantOrganization) :
    (merge old new row).id = row.id := rfl

/-- The texts are not too long for their columns. -/
def TenantOrganization.FitsColumns (o : TenantOrganization) : Prop :=
  (∀ t ∈ o.authTenantId, t.length ≤ 36) ∧ o.name.length ≤ 200 ∧ o.slug.length ≤ 100 ∧
    o.email.length ≤ 100 ∧ ∀ phone ∈ o.phone, phone.length ≤ 20

instance (o : TenantOrganization) : Decidable o.FitsColumns :=
  inferInstanceAs (Decidable (_ ∧ _ ∧ _ ∧ _ ∧ _))

/-- The unique columns admit the row. -/
def TenantOrganization.Admits (o x : TenantOrganization) : Prop :=
  x.id = o.id ∨
    x.uuid ≠ o.uuid ∧ x.slug ≠ o.slug ∧ (o.authTenantId = none ∨ x.authTenantId ≠ o.authTenantId)

instance (o x : TenantOrganization) : Decidable (o.Admits x) :=
  inferInstanceAs (Decidable (_ ∨ _ ∧ _ ∧ (_ ∨ _)))

namespace Directory

variable (txt : IdentityText)

/-- The queries of `handle_auth_tenant`; `none` when it raises, or finds no end. -/
def readTenant (m : TenantMessage) (s : Directory) : Option TenantRead :=
  m.payload.bind fun p =>
    match p.tenant txt with
    | none => some .ignored
    | some (t, u) =>
        match s.organizationOf t u (p.slugOf txt) with
        | some o => some (.found o (s.linked t u p.nameOf (p.slugOf txt) o))
        | none => (s.newOrganization txt p t u 0).map .missing

/-- The commit of `handle_auth_tenant`, and whether it returns. -/
def finishTenant (r : TenantRead) (c : TenantCommit) (s : Directory) : Directory × Bool :=
  match r with
  | .ignored => (s, true)
  | .found old new =>
      if new = old then (s, true)
      else
        match s.organizations.get old.id with
        | none => (s, false)
        | some row =>
            if c.taken = true ∧ (TenantOrganization.merge old new row).FitsColumns ∧
                ∀ x ∈ s.organizations.rows, (TenantOrganization.merge old new row).Admits x then
              let organizations := s.organizations.update old.id (TenantOrganization.merge old new)
                (TenantOrganization.merge_id old new)
              ({ s with organizations := organizations }, c.answered)
            else (s, false)
  | .missing o =>
      if c.taken = true ∧ o.FitsColumns ∧ c.newId ∉ s.organizations.rows.map TenantOrganization.id ∧
          ∀ x ∈ s.organizations.rows, ({ o with id := c.newId } : TenantOrganization).Admits x then
        ({ s with organizations := s.organizations.insert { o with id := c.newId } }, c.answered)
      else (s, false)

end Directory

/-- `handle_auth_tenant`, as the callback of `_make_cb` runs it. -/
def tenantHandler (txt : IdentityText) : Handler TenantMessage Directory TenantRead TenantCommit where
  read := Directory.readTenant txt
  finish := Directory.finishTenant

/-! ### What the handler guarantees -/

/-- The columns of `organizations`, and the uuids of the organizations that are linked. -/
structure Directory.Mirrors (txt : IdentityText) (s : Directory) : Prop where
  unique : ∀ o ∈ s.organizations.rows, ∀ x ∈ s.organizations.rows, o.Admits x
  columns : ∀ o ∈ s.organizations.rows, o.FitsColumns
  uuid : ∀ o ∈ s.organizations.rows, ∀ t ∈ o.authTenantId, txt.uuid t = some o.uuid

instance (txt : IdentityText) (s : Directory) : Decidable (s.Mirrors txt) :=
  decidable_of_iff
    ((∀ o ∈ s.organizations.rows, ∀ x ∈ s.organizations.rows, o.Admits x) ∧
      (∀ o ∈ s.organizations.rows, o.FitsColumns) ∧
      ∀ o ∈ s.organizations.rows, ∀ t ∈ o.authTenantId, txt.uuid t = some o.uuid)
    ⟨fun h => ⟨h.1, h.2.1, h.2.2⟩, fun h => ⟨h.unique, h.columns, h.uuid⟩⟩

def Directory.Mirrored (txt : IdentityText) (m : TenantMessage) (s : Directory) : Prop :=
  ∀ t u, m.tenant txt = some (t, u) →
    ∃ o ∈ s.organizations.rows, o.authTenantId = some t ∧ o.uuid = u

/-- What was read is still right: a row that was found is still there, and only its link to a tenant can
have come in between. -/
def Directory.Fits (txt : IdentityText) (m : TenantMessage) (r : TenantRead) (s : Directory) : Prop :=
  match r with
  | .ignored => m.tenant txt = none
  | .found old new =>
      (∃ t, new.authTenantId = some t ∧ m.tenant txt = some (t, new.uuid)) ∧
        ∃ row, s.organizations.get old.id = some row ∧
          (row.authTenantId = none → old.authTenantId = none ∧ row.uuid = old.uuid) ∧
          ∀ t, old.authTenantId = some t → row.authTenantId = some t
  | .missing o => ∃ t, o.authTenantId = some t ∧ m.tenant txt = some (t, o.uuid)

/-- The organization that a commit changes belongs to nobody, or to the tenant of the message. -/
def Directory.TakesNone (s : Directory) (r : TenantRead) : Prop :=
  match r with
  | .found old new =>
      ∀ row ∈ s.organizations.get old.id, ∀ t ∈ row.authTenantId, new.authTenantId = some t
  | _ => True

instance : ∀ (s : Directory) (r : TenantRead), Decidable (s.TakesNone r)
  | _, .ignored => isTrue trivial
  | s, .found old new =>
      inferInstanceAs (Decidable (∀ row ∈ s.organizations.get old.id, ∀ t ∈ row.authTenantId,
        new.authTenantId = some t))
  | _, .missing _ => isTrue trivial

/-- A worker that is about to commit takes no organization from another tenant. -/
def Directory.Spares (s : Directory) : Phase TenantRead → Prop
  | .loaded r => s.TakesNone r
  | _ => True

instance : ∀ (s : Directory) (p : Phase TenantRead), Decidable (s.Spares p)
  | s, .loaded r => inferInstanceAs (Decidable (s.TakesNone r))
  | _, .fresh => isTrue trivial
  | _, .done => isTrue trivial

/-- Every organization is still there; one that had a tenant still has it, with its uuid, and one that
had none is as it was, or has a tenant now. -/
def Directory.Respects (s s' : Directory) : Prop :=
  ∀ o ∈ s.organizations.rows, ∃ o' ∈ s'.organizations.rows, o'.id = o.id ∧
    (o'.authTenantId = o.authTenantId ∧ o'.uuid = o.uuid ∨
      o.authTenantId = none ∧ o'.authTenantId ≠ none)

instance (s s' : Directory) : Decidable (s.Respects s') :=
  inferInstanceAs (Decidable (∀ o ∈ s.organizations.rows, ∃ o' ∈ s'.organizations.rows, o'.id = o.id ∧
    (o'.authTenantId = o.authTenantId ∧ o'.uuid = o.uuid ∨
      o.authTenantId = none ∧ o'.authTenantId ≠ none)))

variable {txt : IdentityText}

theorem TenantMessage.uuid_of_tenant {m : TenantMessage} {t : String} {u : ℕ}
    (h : m.tenant txt = some (t, u)) : txt.uuid t = some u := by
  obtain ⟨p, -, hp⟩ := Option.bind_eq_some_iff.mp h
  obtain ⟨t₀, -, hp⟩ := Option.bind_eq_some_iff.mp hp
  split at hp
  · obtain ⟨u₀, hu, heq⟩ := Option.map_eq_some_iff.mp hp
    obtain ⟨rfl, rfl⟩ := Prod.mk.inj heq
    exact hu
  · cases hp

theorem TenantOrganization.Admits.symm {o x : TenantOrganization} (h : o.Admits x) : x.Admits o := by
  rcases h with h | ⟨huuid, hslug, hlink⟩
  · exact .inl h.symm
  · refine .inr ⟨huuid.symm, hslug.symm, ?_⟩
    rcases hlink with hnone | hne
    · by_cases hx : x.authTenantId = none
      · exact .inl hx
      · exact .inr (by rw [hnone]; exact Ne.symm hx)
    · exact .inr hne.symm

namespace Directory

theorem Respects.refl (s : Directory) : s.Respects s := fun o ho => ⟨o, ho, rfl, .inl ⟨rfl, rfl⟩⟩

/-- What was read and what was mirrored stands as long as everybody respects the organizations. -/
theorem Respects.keeps {s s' : Directory} (h : s.Respects s') :
    Keeps (fun _ _ => True) (Fits txt) (Mirrored txt) s s' := by
  refine ⟨fun _ _ => trivial, ?_, ?_⟩
  · intro m r _ hfits
    cases r with
    | ignored => exact hfits
    | missing o => exact hfits
    | found old new =>
        obtain ⟨hnew, row, hrow, hfree, hlinked⟩ := hfits
        obtain ⟨hmem, hid⟩ := Table.get_eq_some.mp hrow
        obtain ⟨row', hmem', hid', hsame⟩ := h row hmem
        refine ⟨hnew, row', Table.get_eq_some.mpr ⟨hmem', hid'.trans hid⟩, ?_⟩
        rcases hsame with ⟨hlink, huuid⟩ | ⟨hnone, hsome⟩
        · rw [hlink, huuid]
          exact ⟨hfree, hlinked⟩
        · refine ⟨fun hnone' => absurd hnone' hsome, fun t ht => ?_⟩
          rw [hlinked t ht] at hnone
          cases hnone
  · intro m _ hmirrored t u htenant
    obtain ⟨o, ho, hlink, huuid⟩ := hmirrored t u htenant
    obtain ⟨o', ho', -, ⟨hlink', huuid'⟩ | ⟨hnone, -⟩⟩ := h o ho
    · exact ⟨o', ho', hlink'.trans hlink, huuid'.trans huuid⟩
    · rw [hlink] at hnone
      cases hnone

/-- **The queries** find what fits. -/
theorem fits_readTenant {m : TenantMessage} {s : Directory} {r : TenantRead}
    (h : readTenant txt m s = some r) : Fits txt m r s := by
  obtain ⟨p, hp, h⟩ := Option.bind_eq_some_iff.mp h
  have htenant : m.tenant txt = p.tenant txt := by simp [TenantMessage.tenant, hp]
  cases hpt : p.tenant txt with
  | none =>
      simp only [hpt, Option.some.injEq] at h
      subst h
      exact htenant.trans hpt
  | some tu =>
      obtain ⟨t, u⟩ := tu
      simp only [hpt] at h
      cases ho : s.organizationOf t u (p.slugOf txt) with
      | some o =>
          simp only [ho, Option.some.injEq] at h
          subst h
          refine ⟨⟨t, rfl, htenant.trans hpt⟩, o, Table.get_key (organizationOf_mem ho), ?_, ?_⟩
          · exact fun hnone => ⟨hnone, rfl⟩
          · exact fun _ ht => ht
      | none =>
          simp only [ho] at h
          obtain ⟨o, hnew, rfl⟩ := Option.map_eq_some_iff.mp h
          obtain ⟨slug, -, rfl⟩ := Option.map_eq_some_iff.mp hnew
          exact ⟨t, rfl, htenant.trans hpt⟩

theorem readTenant_found {p : TenantPayload} {s : Directory} {old new : TenantOrganization}
    (h : readTenant txt (.event p) s = some (.found old new)) :
    ∃ t u, p.tenant txt = some (t, u) ∧ s.organizationOf t u (p.slugOf txt) = some old ∧
      new = s.linked t u p.nameOf (p.slugOf txt) old := by
  simp only [readTenant, TenantMessage.payload, Option.bind_some] at h
  cases hp : p.tenant txt with
  | none => simp [hp] at h
  | some tu =>
      obtain ⟨t, u⟩ := tu
      cases ho : s.organizationOf t u (p.slugOf txt) with
      | none => simp [hp, ho] at h
      | some o =>
          simp only [hp, ho, Option.some.injEq, TenantRead.found.injEq] at h
          obtain ⟨rfl, rfl⟩ := h
          exact ⟨t, u, rfl, ho, rfl⟩

theorem merge_linked {s : Directory} (hs : s.Mirrors txt) {m : TenantMessage}
    {old new row : TenantOrganization} (hfits : Fits txt m (.found old new) s)
    (hnone : s.TakesNone (.found old new)) (hrow : s.organizations.get old.id = some row) :
    (TenantOrganization.merge old new row).authTenantId = new.authTenantId ∧
      (TenantOrganization.merge old new row).uuid = new.uuid := by
  obtain ⟨⟨t, hlink, htenant⟩, row', hrow', hfree, -⟩ := hfits
  obtain rfl := Option.some.inj (hrow.symm.trans hrow')
  have hmem := (Table.get_eq_some.mp hrow).1
  cases hold : row.authTenantId with
  | none =>
      obtain ⟨hnever, huuid⟩ := hfree hold
      have hne : new.authTenantId ≠ old.authTenantId := by
        rw [hlink, hnever]
        exact Option.some_ne_none t
      refine ⟨writeColumn_of_ne hne _, ?_⟩
      simp only [TenantOrganization.merge, huuid]
      exact writeColumn_current _ _
  | some t' =>
      obtain rfl := Option.some.inj (hlink.symm.trans (hnone row hrow t' hold))
      have huuid : row.uuid = new.uuid :=
        Option.some.inj ((hs.uuid row hmem t hold).symm.trans (TenantMessage.uuid_of_tenant htenant))
      constructor
      · simp only [TenantOrganization.merge, writeColumn, hold, hlink, ite_self]
      · simp only [TenantOrganization.merge, writeColumn, huuid, ite_self]

/-- **The commit**: nothing, an update of the row that was found, or a new row. -/
theorem finishTenant_cases (r : TenantRead) (c : TenantCommit) (s : Directory) :
    (finishTenant r c s = (s, true) ∧ (r = .ignored ∨ ∃ old, r = .found old old)) ∨
      finishTenant r c s = (s, false) ∨
      (∃ old new row, r = .found old new ∧ s.organizations.get old.id = some row ∧
        (TenantOrganization.merge old new row).FitsColumns ∧
        (∀ x ∈ s.organizations.rows, (TenantOrganization.merge old new row).Admits x) ∧
        (finishTenant r c s).1 = { s with
          organizations := s.organizations.update old.id (TenantOrganization.merge old new)
            (TenantOrganization.merge_id old new) }) ∨
      ∃ o id, r = .missing o ∧ o.FitsColumns ∧ id ∉ s.organizations.rows.map TenantOrganization.id ∧
        (∀ x ∈ s.organizations.rows, ({ o with id := id } : TenantOrganization).Admits x) ∧
        (finishTenant r c s).1 = { s with
          organizations := s.organizations.insert { o with id := id } } := by
  cases r with
  | ignored => exact .inl ⟨rfl, .inl rfl⟩
  | found old new =>
      simp only [finishTenant]
      split
      · next heq =>
          subst heq
          exact .inl ⟨rfl, .inr ⟨new, rfl⟩⟩
      · split
        · exact .inr (.inl rfl)
        · next row hrow =>
            split
            · next hcommit =>
                exact .inr (.inr (.inl ⟨old, new, row, rfl, hrow, hcommit.2.1, hcommit.2.2, rfl⟩))
            · exact .inr (.inl rfl)
  | missing o =>
      simp only [finishTenant]
      split
      · next hcommit =>
          exact .inr (.inr (.inr ⟨o, c.newId, rfl, hcommit.2.1, hcommit.2.2.1, hcommit.2.2.2, rfl⟩))
      · exact .inr (.inl rfl)

section Commit

variable {s : Directory} {m : TenantMessage} {old new row : TenantOrganization}

theorem mem_merged {x : TenantOrganization} (hrow : s.organizations.get old.id = some row) :
    x ∈ (s.organizations.update old.id (TenantOrganization.merge old new)
        (TenantOrganization.merge_id old new)).rows ↔
      x = TenantOrganization.merge old new row ∨ x ∈ s.organizations.rows ∧ x.id ≠ old.id := by
  obtain ⟨hmem, hid⟩ := Table.get_eq_some.mp hrow
  rw [Table.update, mem_updateWhere]
  constructor
  · rintro ⟨o, ho, rfl⟩
    by_cases hkey : o.id = old.id
    · obtain rfl := s.organizations.keyed.eq_of_key ho hmem (hkey.trans hid.symm)
      simp [hkey]
    · simp [hkey, ho]
  · rintro (rfl | ⟨hx, hne⟩)
    · exact ⟨row, hmem, by simp [hid]⟩
    · exact ⟨x, hx, by simp [hne]⟩

theorem respects_merged (hs : s.Mirrors txt) (hfits : Fits txt m (.found old new) s)
    (hnone : s.TakesNone (.found old new)) (hrow : s.organizations.get old.id = some row) :
    s.Respects { s with
      organizations := s.organizations.update old.id (TenantOrganization.merge old new)
        (TenantOrganization.merge_id old new) } := by
  obtain ⟨hmem, hid⟩ := Table.get_eq_some.mp hrow
  obtain ⟨hlink, huuid⟩ := merge_linked hs hfits hnone hrow
  obtain ⟨⟨t, ht, htenant⟩, -⟩ := hfits
  intro o ho
  by_cases hkey : o.id = old.id
  · obtain rfl := s.organizations.keyed.eq_of_key ho hmem (hkey.trans hid.symm)
    refine ⟨_, (mem_merged hrow).mpr (.inl rfl), rfl, ?_⟩
    cases hold : o.authTenantId with
    | none =>
        right
        refine ⟨rfl, ?_⟩
        rw [hlink, ht]
        exact Option.some_ne_none t
    | some t' =>
        left
        have htt : new.authTenantId = some t' := hnone o hrow t' hold
        obtain rfl := Option.some.inj (ht.symm.trans htt)
        have huuid' := Option.some.inj
          ((hs.uuid o ho t hold).symm.trans (TenantMessage.uuid_of_tenant htenant))
        exact ⟨hlink.trans ht, huuid.trans huuid'.symm⟩
  · exact ⟨o, (mem_merged hrow).mpr (.inr ⟨ho, hkey⟩), rfl, .inl ⟨rfl, rfl⟩⟩

theorem mirrors_merged (hs : s.Mirrors txt) (hfits : Fits txt m (.found old new) s)
    (hnone : s.TakesNone (.found old new)) (hrow : s.organizations.get old.id = some row)
    (hcolumns : (TenantOrganization.merge old new row).FitsColumns)
    (hadmits : ∀ x ∈ s.organizations.rows, (TenantOrganization.merge old new row).Admits x) :
    Mirrors txt { s with
      organizations := s.organizations.update old.id (TenantOrganization.merge old new)
        (TenantOrganization.merge_id old new) } := by
  obtain ⟨hlink, huuid⟩ := merge_linked hs hfits hnone hrow
  obtain ⟨⟨t, ht, htenant⟩, -⟩ := hfits
  refine ⟨?_, ?_, ?_⟩
  · intro o ho x hx
    rcases (mem_merged hrow).mp ho with rfl | ⟨ho, -⟩
    · rcases (mem_merged hrow).mp hx with rfl | ⟨hx, -⟩
      · exact .inl rfl
      · exact hadmits x hx
    · rcases (mem_merged hrow).mp hx with rfl | ⟨hx, -⟩
      · exact (hadmits o ho).symm
      · exact hs.unique o ho x hx
  · intro o ho
    rcases (mem_merged hrow).mp ho with rfl | ⟨ho, -⟩
    · exact hcolumns
    · exact hs.columns o ho
  · intro o ho t' ht'
    rcases (mem_merged hrow).mp ho with rfl | ⟨ho, -⟩
    · obtain rfl := Option.some.inj ((hlink.trans ht).symm.trans ht')
      rw [huuid]
      exact TenantMessage.uuid_of_tenant htenant
    · exact hs.uuid o ho t' ht'

theorem respects_inserted (s : Directory) (o : TenantOrganization) :
    s.Respects { s with organizations := s.organizations.insert o } :=
  fun x hx => ⟨x, Table.mem_insert_of_mem hx, rfl, .inl ⟨rfl, rfl⟩⟩

theorem mirrors_inserted (hs : s.Mirrors txt) {o : TenantOrganization} (hcolumns : o.FitsColumns)
    (hadmits : ∀ x ∈ s.organizations.rows, o.Admits x)
    (huuid : ∀ t, o.authTenantId = some t → txt.uuid t = some o.uuid) :
    Mirrors txt { s with organizations := s.organizations.insert o } := by
  refine ⟨?_, ?_, ?_⟩
  · intro x hx y hy
    rcases Table.mem_insert hx with hold | hnew
    · rcases Table.mem_insert hy with hold' | hnew'
      · exact hs.unique x hold y hold'
      · rw [hnew']
        exact (hadmits x hold).symm
    · rw [hnew]
      rcases Table.mem_insert hy with hold' | hnew'
      · exact hadmits y hold'
      · exact .inl (congrArg TenantOrganization.id hnew')
  · intro x hx
    rcases Table.mem_insert hx with hold | hnew
    · exact hs.columns x hold
    · rw [hnew]
      exact hcolumns
  · intro x hx t ht
    rcases Table.mem_insert hx with hold | hnew
    · exact hs.uuid x hold t ht
    · rw [hnew] at ht ⊢
      exact huuid t ht

end Commit

/-- **What the handler guarantees**, when its commit takes no organization from another tenant. -/
theorem treats_tenants (txt : IdentityText) :
    Treats (tenantHandler txt) (Mirrors txt) (fun _ _ => True) (Fits txt) (Mirrored txt)
      (fun _ r _ s => s.TakesNone r) where
  read := fun _ _ h => fits_readTenant h
  invariant := by
    intro m r c s hs _ hfits hnone
    rcases finishTenant_cases r c s with ⟨h, -⟩ | h | ⟨old, new, row, rfl, hrow, hcolumns, hadmits, h⟩ |
      ⟨o, id, rfl, hcolumns, -, hadmits, h⟩
    · simpa [tenantHandler, h] using hs
    · simpa [tenantHandler, h] using hs
    · simpa [tenantHandler, h] using mirrors_merged hs hfits hnone hrow hcolumns hadmits
    · have huuid : ∀ t, o.authTenantId = some t → txt.uuid t = some o.uuid := by
        obtain ⟨t, ht, htenant⟩ := hfits
        intro t' ht'
        obtain rfl := Option.some.inj (ht.symm.trans ht')
        exact TenantMessage.uuid_of_tenant htenant
      have hnew : ({ o with id := id } : TenantOrganization).FitsColumns := hcolumns
      simpa [tenantHandler, h] using mirrors_inserted hs hnew hadmits huuid
  purpose := by
    intro m r c s hs _ hfits hnone hdone t u htenant
    rcases finishTenant_cases r c s with ⟨h, hr⟩ | h | ⟨old, new, row, rfl, hrow, -, -, h⟩ |
      ⟨o, id, rfl, -, hid, -, h⟩
    · simp only [tenantHandler, h]
      rcases hr with rfl | ⟨old, rfl⟩
      · rw [Fits, htenant] at hfits
        cases hfits
      · -- nothing had to be written: the link is still there, and the uuid with it
        obtain ⟨⟨t', ht', htenant'⟩, row, hrow, -, hlinked⟩ := hfits
        obtain ⟨rfl, rfl⟩ := Prod.mk.inj (Option.some.inj (htenant'.symm.trans htenant))
        have hmem := (Table.get_eq_some.mp hrow).1
        have hrowlink := hlinked t' ht'
        refine ⟨row, hmem, hrowlink, ?_⟩
        exact Option.some.inj
          ((hs.uuid row hmem t' hrowlink).symm.trans (TenantMessage.uuid_of_tenant htenant))
    · simp [tenantHandler, h] at hdone
    · obtain ⟨hlink, huuid⟩ := merge_linked hs hfits hnone hrow
      obtain ⟨⟨t', ht', htenant'⟩, -⟩ := hfits
      obtain ⟨rfl, rfl⟩ := Prod.mk.inj (Option.some.inj (htenant'.symm.trans htenant))
      simp only [tenantHandler, h]
      exact ⟨_, (mem_merged hrow).mpr (.inl rfl), hlink.trans ht', huuid⟩
    · obtain ⟨t', ht', htenant'⟩ := hfits
      obtain ⟨rfl, rfl⟩ := Prod.mk.inj (Option.some.inj (htenant'.symm.trans htenant))
      simp only [tenantHandler, h]
      refine ⟨{ o with id := id }, ?_, ht', rfl⟩
      rw [Table.rows_insert hid]
      exact List.mem_append_right _ (List.mem_singleton_self _)
  keeps := by
    intro m r c s hs _ hfits hnone
    rcases finishTenant_cases r c s with ⟨h, -⟩ | h | ⟨old, new, row, rfl, hrow, -, -, h⟩ |
      ⟨o, id, rfl, -, -, -, h⟩
    · simpa [tenantHandler, h] using (Respects.refl s).keeps
    · simpa [tenantHandler, h] using (Respects.refl s).keeps
    · simpa [tenantHandler, h] using (respects_merged hs hfits hnone hrow).keeps
    · simpa [tenantHandler, h] using (respects_inserted s { o with id := id }).keeps

/-! ### Progress -/

variable {s : Directory} {p : TenantPayload} {t : String} {u : ℕ}

theorem organizationWhere_none {q : TenantOrganization → Prop} [DecidablePred q]
    (h : s.organizationWhere q = none) : ∀ o ∈ s.organizations.rows, ¬ q o := by
  intro o ho hq
  exact absurd (decide_eq_true hq) (List.find?_eq_none.mp h o ho)

theorem organizationWhere_holds {q : TenantOrganization → Prop} [DecidablePred q]
    {o : TenantOrganization} (h : s.organizationWhere q = some o) : q o :=
  of_decide_eq_true (List.find?_some (p := fun o => decide (q o)) h)

theorem unclaimed_of_found (hs : s.Mirrors txt) (huuid : txt.uuid t = some u) {slug : Option String}
    {o : TenantOrganization} (ho : s.organizationOf t u slug = some o) :
    ∀ x ∈ s.organizations.rows, x.id ≠ o.id → x.uuid ≠ u ∧ x.authTenantId ≠ some t := by
  intro x hx hne
  have hmem := organizationOf_mem ho
  have hunique := (hs.unique o hmem x hx).resolve_left hne
  rcases Option.or_eq_some_iff.mp ho with hlink | ⟨hnolink, ho⟩
  · have hlink := organizationWhere_holds hlink
    have hown : o.uuid = u := Option.some.inj ((hs.uuid o hmem t hlink).symm.trans huuid)
    rw [hlink, hown] at hunique
    exact ⟨hunique.1, hunique.2.2.resolve_left (Option.some_ne_none t)⟩
  · have hother := organizationWhere_none hnolink x hx
    rcases Option.or_eq_some_iff.mp ho with hown | ⟨hnouuid, -⟩
    · have hown := organizationWhere_holds hown
      rw [hown] at hunique
      exact ⟨hunique.1, hother⟩
    · exact ⟨organizationWhere_none hnouuid x hx, hother⟩

theorem admits_linked (hs : s.Mirrors txt) (huuid : txt.uuid t = some u) {slug : Option String}
    {o : TenantOrganization} (ho : s.organizationOf t u slug = some o) (name : String) :
    ∀ x ∈ s.organizations.rows, (s.linked t u name slug o).Admits x := by
  intro x hx
  by_cases hid : x.id = o.id
  · exact .inl hid
  · obtain ⟨hu, hl⟩ := unclaimed_of_found hs huuid ho x hx hid
    refine .inr ⟨hu, ?_, .inr hl⟩
    have hold := ((hs.unique o (organizationOf_mem ho) x hx).resolve_left hid).2.1
    cases slug with
    | none => exact hold
    | some slug =>
        simp only [linked]
        split
        · next hall =>
            intro hslug
            exact hid (of_decide_eq_true (List.all_eq_true.mp hall x hx) hslug)
        · exact hold

theorem admits_new (ho : s.organizationOf t u (p.slugOf txt) = none) {id : ℕ}
    {o : TenantOrganization} (hnew : s.newOrganization txt p t u id = some o) (id' : ℕ) :
    ∀ x ∈ s.organizations.rows, ({ o with id := id' } : TenantOrganization).Admits x := by
  intro x hx
  obtain ⟨hnolink, hrest⟩ := Option.or_eq_none_iff.mp ho
  obtain ⟨hnouuid, -⟩ := Option.or_eq_none_iff.mp hrest
  obtain ⟨slug, hslug, rfl⟩ := Option.map_eq_some_iff.mp hnew
  refine .inr ⟨organizationWhere_none hnouuid x hx, ?_, .inr (organizationWhere_none hnolink x hx)⟩
  have hfree := List.find?_some hslug
  intro heq
  simp only [Bool.not_eq_true', List.any_eq_false, decide_eq_true_eq] at hfree
  exact hfree x hx heq

/-! ### The search for a slug -/

/-- The slug that is tried first. -/
def baseSlug (txt : IdentityText) (p : TenantPayload) (t : String) : String :=
  (p.slugOf txt).getD ("isp-" ++ String.ofList (t.toList.take 8))

theorem length_numbered (base : String) (n : ℕ) :
    (base ++ "-" ++ toString n).length = base.length + 1 + (Nat.toDigits 10 n).length := by
  rw [← String.length_toList]
  simp only [String.toList_append, List.length_append, Nat.toString_eq_ofList_toDigits,
    String.toList_ofList, String.length_toList]
  rfl

/-- How long a slug with its hyphen and its number may be, without one character: the e-mail of a new
organization is made of it unless there is another one. -/
def slugRoom (p : TenantPayload) : ℕ := if (given p.contactEmail).isSome then 99 else 89

theorem digits_le {room len fuel i : ℕ} (hlen : len < room) (hfuel : fuel < 10 ^ (room - len))
    (hle : i ≤ fuel) : (Nat.toDigits 10 i).length ≤ room - len :=
  (Nat.length_toDigits_le_iff (b := 10) (k := room - len) (n := i) (by decide) (by omega)).mpr (by omega)

theorem length_firstFree {isTaken : String → Bool} {base name : String} {fuel room : ℕ}
    (hlen : base.length < room) (hfuel : fuel < 10 ^ (room - base.length))
    (h : firstFree "-" 100 isTaken base fuel = some name) : name.length ≤ room + 1 := by
  rcases List.mem_cons.mp (List.mem_of_find?_eq_some h) with rfl | hmem
  · omega
  · obtain ⟨i, hi, rfl⟩ := List.mem_map.mp hmem
    have hdigits := digits_le hlen hfuel (i := i + 1) (List.mem_range.mp hi)
    have hlength := length_numbered base (i + 1)
    rw [String.length_ofList, List.length_take, String.length_toList, hlength]
    omega

/-- Two characters are left for the hyphen and the number, or more: the search ends. -/
theorem exists_firstFree {isTaken : String → Bool} {base : String} {fuel : ℕ}
    (hlen : base.length < 99) (hfuel : fuel < 10 ^ (99 - base.length)) {names : List String}
    (hnames : names.length ≤ fuel) (htaken : ∀ name, isTaken name = true → name ∈ names) :
    (firstFree "-" 100 isTaken base fuel).isSome := by
  -- the candidates: the slug itself, then the numbered ones, none of which is cut
  let candidate : ℕ → String := fun i => if i = 0 then base else base ++ "-" ++ toString i
  have hfits : ∀ i, 0 < i → i ≤ fuel →
      String.ofList ((base ++ "-" ++ toString i).toList.take 100) = base ++ "-" ++ toString i := by
    intro i hi hle
    have hdigits := digits_le hlen hfuel hle
    have hlength : (base ++ "-" ++ toString i).toList.length ≤ 100 := by
      rw [String.length_toList, length_numbered]
      omega
    rw [List.take_of_length_le hlength, String.ofList_toList]
  have hdiff : ∀ i < fuel + 1, ∀ j < fuel + 1, candidate i = candidate j → i = j := by
    have hlonger : ∀ i : ℕ, base ≠ base ++ "-" ++ toString i := by
      intro i h
      have hlength := congrArg String.length h
      rw [length_numbered] at hlength
      omega
    intro i _ j _ h
    by_cases hi : i = 0
    · by_cases hj : j = 0
      · omega
      · simp only [candidate, if_pos hi, if_neg hj] at h
        exact absurd h (hlonger j)
    · by_cases hj : j = 0
      · simp only [candidate, if_neg hi, if_pos hj] at h
        exact absurd h.symm (hlonger i)
      · simp only [candidate, if_neg hi, if_neg hj] at h
        have hlist := congrArg String.toList h
        simp only [String.toList_append, Nat.toString_eq_ofList_toDigits, String.toList_ofList,
          List.append_cancel_left_eq] at hlist
        exact Numeral.toDigits_injective hlist
  have hfewer : names.length < fuel + 1 := by omega
  obtain ⟨i, hi, hfree⟩ := exists_free hdiff hfewer
  unfold firstFree
  rw [List.find?_isSome]
  refine ⟨candidate i, ?_, ?_⟩
  · by_cases hzero : i = 0
    · simp [candidate, hzero]
    · refine List.mem_cons_of_mem _ (List.mem_map.mpr ⟨i - 1, List.mem_range.mpr (by omega), ?_⟩)
      rw [Nat.sub_add_cancel (by omega), hfits i (by omega) (by omega)]
      simp [candidate, hzero]
  · by_contra hnot
    simp only [Bool.not_eq_true', Bool.not_eq_false] at hnot
    exact hfree (htaken _ hnot)

/-- What the handler writes for a tenant fits the columns, with so many organizations. -/
structure Storable (txt : IdentityText) (p : TenantPayload) (t : String) (organizations : ℕ) : Prop where
  tenantId : t.length ≤ 36
  name : p.nameOf.length ≤ 200
  email : ∀ email ∈ given p.contactEmail, email.length ≤ 100
  phone : ∀ phone ∈ p.contactPhone, phone.length ≤ 20
  slug : (baseSlug txt p t).length < slugRoom p
  number : organizations < 10 ^ (slugRoom p - (baseSlug txt p t).length)

theorem slugRoom_le (p : TenantPayload) : slugRoom p ≤ 99 := by
  unfold slugRoom
  split <;> decide

theorem fitsColumns_linked (hs : s.Mirrors txt) (hp : Storable txt p t s.organizations.rows.length)
    {o : TenantOrganization} (ho : o ∈ s.organizations.rows) :
    (s.linked t u p.nameOf (p.slugOf txt) o).FitsColumns := by
  obtain ⟨-, -, hslug, hemail, hphone⟩ := hs.columns o ho
  refine ⟨?_, hp.name, ?_, hemail, hphone⟩
  · rintro t' ⟨⟩
    exact hp.tenantId
  · have hbase := hp.slug
    have hroom := slugRoom_le p
    unfold baseSlug at hbase
    simp only [linked]
    cases hgiven : p.slugOf txt with
    | none => exact hslug
    | some slug =>
        rw [hgiven, Option.getD_some] at hbase
        dsimp only
        split
        · omega
        · exact hslug

theorem fitsColumns_new (hp : Storable txt p t s.organizations.rows.length) {id : ℕ}
    {o : TenantOrganization} (hnew : s.newOrganization txt p t u id = some o) : o.FitsColumns := by
  obtain ⟨slug, hslug, rfl⟩ := Option.map_eq_some_iff.mp hnew
  have hlength := length_firstFree hp.slug hp.number hslug
  have hroom := slugRoom_le p
  refine ⟨?_, hp.name, by dsimp only; omega, ?_, hp.phone⟩
  · rintro t' ⟨⟩
    exact hp.tenantId
  · cases hemail : given p.contactEmail with
    | some email => exact hp.email email hemail
    | none =>
        simp only [slugRoom, hemail, Option.isSome_none, Bool.false_eq_true, if_false] at hlength
        have hsuffix : "@sso.local".length = 10 := by decide
        simp only [Option.getD_none, String.length_append, hsuffix]
        omega

/-! ### The undisturbed handler -/

theorem merge_current (o : TenantOrganization) (name : String) (slug : Option String) :
    TenantOrganization.merge o (s.linked t u name slug o) o = s.linked t u name slug o := by
  simp only [TenantOrganization.merge, writeColumn_current]
  rfl

/-- **Undisturbed, the two halves are `handle_auth_tenant`.** -/
theorem finish_read (hs : s.Mirrors txt)
    (hstorable : ∀ t u, p.tenant txt = some (t, u) → Storable txt p t s.organizations.rows.length)
    {r : TenantRead} {c : TenantCommit} (hread : readTenant txt (.event p) s = some r)
    (htaken : c.taken = true) (hanswered : c.answered = true)
    (hid : c.newId ∉ s.organizations.rows.map TenantOrganization.id) (now : ℤ) :
    finishTenant r c s = (s.handleAuthTenant txt p ⟨now, c.newId, true⟩, true) := by
  simp only [readTenant, TenantMessage.payload, Option.bind_some] at hread
  unfold handleAuthTenant
  cases hp : p.tenant txt with
  | none =>
      simp only [hp, Option.some.injEq] at hread
      subst hread
      rfl
  | some tu =>
      obtain ⟨t, u⟩ := tu
      have huuid : txt.uuid t = some u :=
        TenantMessage.uuid_of_tenant (m := .event p) hp
      simp only [hp] at hread
      cases ho : s.organizationOf t u (p.slugOf txt) with
      | some o =>
          simp only [ho, Option.some.injEq] at hread
          subst hread
          have hget := Table.get_key (t := s.organizations) (organizationOf_mem ho)
          have hadmits := admits_linked hs huuid ho p.nameOf
          have hcolumns := fitsColumns_linked (u := u) hs (hstorable t u hp) (organizationOf_mem ho)
          simp only [finishTenant, hget, merge_current]
          split
          · next heq =>
              have hsame : s.organizations.update o.id (s.linked t u p.nameOf (p.slugOf txt))
                  (s.linked_id t u p.nameOf (p.slugOf txt)) = s.organizations :=
                (Table.update_key_eq_self_iff (organizationOf_mem ho)).mpr heq
              simp [ho, hsame]
          · rw [if_pos ⟨htaken, hcolumns, hadmits⟩, hanswered]
            have hupdate : s.organizations.update o.id
                (TenantOrganization.merge o (s.linked t u p.nameOf (p.slugOf txt) o))
                (TenantOrganization.merge_id o (s.linked t u p.nameOf (p.slugOf txt) o)) =
                s.organizations.update o.id (s.linked t u p.nameOf (p.slugOf txt))
                  (s.linked_id t u p.nameOf (p.slugOf txt)) := by
              refine Table.update_congr ?_
              intro row hrow
              obtain rfl := Option.some.inj (hget.symm.trans hrow)
              exact merge_current o p.nameOf (p.slugOf txt)
            simp [ho, hupdate]
      | none =>
          simp only [ho] at hread
          obtain ⟨o, hnew, rfl⟩ := Option.map_eq_some_iff.mp hread
          have hadmits := admits_new ho hnew c.newId
          have hcolumns := fitsColumns_new (hstorable t u hp) hnew
          have hnew' : s.newOrganization txt p t u c.newId = some { o with id := c.newId } := by
            obtain ⟨slug, hslug, rfl⟩ := Option.map_eq_some_iff.mp hnew
            exact Option.map_eq_some_iff.mpr ⟨slug, hslug, rfl⟩
          simp only [finishTenant]
          rw [if_pos ⟨htaken, hcolumns, hid, hadmits⟩, hanswered]
          simp [ho, hnew']

/-- **The queries come to an end**, unless the slug leaves no room for a number. -/
theorem exists_readTenant {t : String} {u : ℕ} (hp : p.tenant txt = some (t, u))
    (hstorable : Storable txt p t s.organizations.rows.length) :
    ∃ r, readTenant txt (.event p) s = some r := by
  simp only [readTenant, TenantMessage.payload, Option.bind_some, hp]
  cases ho : s.organizationOf t u (p.slugOf txt) with
  | some o => exact ⟨_, rfl⟩
  | none =>
      have hfree : (firstFree "-" 100 (fun name => s.organizations.rows.any fun o => decide (o.slug = name))
          (baseSlug txt p t) s.organizations.rows.length).isSome := by
        have hnames : (s.organizations.rows.map TenantOrganization.slug).length ≤
            s.organizations.rows.length := by
          rw [List.length_map]
        have hslug := hstorable.slug
        have hroom := slugRoom_le p
        have hpow := Nat.pow_le_pow_right (n := 10) (by decide)
          (Nat.sub_le_sub_right hroom (baseSlug txt p t).length)
        refine exists_firstFree (by omega) (hstorable.number.trans_le hpow) hnames ?_
        intro name hname
        obtain ⟨o, ho, hslug⟩ := List.any_eq_true.mp hname
        exact List.mem_map.mpr ⟨o, ho, of_decide_eq_true hslug⟩
      obtain ⟨slug, hslug⟩ := Option.isSome_iff_exists.mp hfree
      have hnew : ∃ o, s.newOrganization txt p t u 0 = some o :=
        ⟨_, Option.map_eq_some_iff.mpr ⟨slug, hslug, rfl⟩⟩
      obtain ⟨o, hnew⟩ := hnew
      exact ⟨.missing o, by simp [hnew]⟩

theorem mirrored_of_read {c : TenantCommit} {r : TenantRead} (hs : s.Mirrors txt)
    (hstorable : ∀ t u, p.tenant txt = some (t, u) → Storable txt p t s.organizations.rows.length)
    (hread : readTenant txt (.event p) s = some r) (htaken : c.taken = true)
    (hanswered : c.answered = true) (hid : c.newId ∉ s.organizations.rows.map TenantOrganization.id) :
    Mirrored txt (.event p) (finishTenant r c s).1 := by
  have hdone := finish_read hs hstorable hread htaken hanswered hid 0
  intro t u htenant
  rcases finishTenant_cases r c s with ⟨h, hr⟩ | h | ⟨old, new, row, rfl, hrow, -, -, h⟩ |
    ⟨o, id, rfl, -, hfresh, -, h⟩
  · rw [h]
    have hfits := fits_readTenant hread
    rcases hr with rfl | ⟨old, rfl⟩
    · rw [Fits, htenant] at hfits
      cases hfits
    · obtain ⟨⟨t', ht', htenant'⟩, -⟩ := hfits
      obtain ⟨rfl, rfl⟩ := Prod.mk.inj (Option.some.inj (htenant'.symm.trans htenant))
      obtain ⟨row, hrow, hfree, hlinked⟩ := (fits_readTenant hread).2
      have hmem := (Table.get_eq_some.mp hrow).1
      have hlink := hlinked t' ht'
      exact ⟨row, hmem, hlink, Option.some.inj
        ((hs.uuid row hmem t' hlink).symm.trans (TenantMessage.uuid_of_tenant htenant))⟩
  · have hcontra := congrArg Prod.snd (h.symm.trans hdone)
    cases hcontra
  · rw [h]
    obtain ⟨t', u', hp, ho, rfl⟩ := readTenant_found hread
    obtain rfl := Option.some.inj ((Table.get_key (organizationOf_mem ho)).symm.trans hrow)
    obtain ⟨rfl, rfl⟩ := Prod.mk.inj (Option.some.inj (hp.symm.trans htenant))
    refine ⟨_, (mem_merged hrow).mpr (.inl rfl), ?_⟩
    rw [merge_current]
    exact ⟨rfl, rfl⟩
  · rw [h]
    obtain ⟨t', ht', htenant'⟩ := fits_readTenant hread
    obtain ⟨rfl, rfl⟩ := Prod.mk.inj (Option.some.inj (htenant'.symm.trans htenant))
    refine ⟨{ o with id := id }, ?_, ht', rfl⟩
    rw [Table.rows_insert hfresh]
    exact List.mem_append_right _ (List.mem_singleton_self _)

end Directory

/-! ### All runs -/

/-- The replicas of the consumer, the stream and the tables. -/
abbrev TenantFeed := Feed TenantMessage Directory TenantRead

abbrev ConsumerEvent := Event TenantMessage Directory TenantCommit

/-- No commit takes an organization from another tenant, and the rest of the backend leaves the links
alone. -/
def Undisputed (txt : IdentityText) (s : TenantFeed) : ConsumerEvent → Prop
  | .finish w _ => ∀ j ∈ s.job w, s.store.Spares j.phase
  | .outside s' => s'.Mirrors txt ∧ s.store.Respects s'
  | _ => True

instance (txt : IdentityText) : ∀ (s : TenantFeed) (e : ConsumerEvent), Decidable (Undisputed txt s e)
  | s, .finish w _ => inferInstanceAs (Decidable (∀ j ∈ s.job w, s.store.Spares j.phase))
  | s, .outside s' => inferInstanceAs (Decidable (s'.Mirrors txt ∧ s.store.Respects s'))
  | _, .publish _ => isTrue trivial
  | _, .deliver _ _ => isTrue trivial
  | _, .read _ => isTrue trivial
  | _, .ack _ => isTrue trivial
  | _, .drop _ => isTrue trivial

/-- Nothing has been handed out yet, and the table is in order. -/
structure TenantFeed.Starts (txt : IdentityText) (s : TenantFeed) : Prop where
  store : s.store.Mirrors txt
  job : ∀ w, s.job w = none
  settled : s.settled = []

theorem TenantFeed.Starts.sound {txt : IdentityText} {s : TenantFeed} (hs : s.Starts txt)
    {es : List ConsumerEvent} (hes : Along (Feed.step (tenantHandler txt)) (Undisputed txt) s es) :
    (exec (Feed.step (tenantHandler txt)) s es).Sound (Directory.Mirrors txt) (fun _ _ => True)
      (Directory.Fits txt) (Directory.Mirrored txt) := by
  have hsound : s.Sound (Directory.Mirrors txt) (fun _ _ => True) (Directory.Fits txt)
      (Directory.Mirrored txt) :=
    ⟨hs.store, fun _ _ => trivial, fun w j hj => absurd hj (by simp [hs.job w]), by simp [hs.settled]⟩
  refine hsound.exec (Directory.treats_tenants txt) (hes.imp ?_)
  intro t e he
  cases e with
  | finish w c =>
      intro n r m hload _
      exact he ⟨n, .loaded r⟩ hload
  | outside s' => exact ⟨he.1, he.2.keeps⟩
  | _ => trivial

/-- **A message that is acknowledged has been handled to its end, and its tenant has its organization**,
exactly one: in every run of any number of replicas, with messages that are delivered again, handlers
that raise, replicas that crash between their commit and the acknowledgement, and commits that the unique
columns refuse. -/
theorem tenants_mirrored (txt : IdentityText) {s : TenantFeed} (hs : s.Starts txt)
    {es : List ConsumerEvent}
    (hes : Along (Feed.step (tenantHandler txt)) (Undisputed txt) s es) :
    ∀ n ∈ (exec (Feed.step (tenantHandler txt)) s es).settled,
      n ∈ outputs (Feed.step (tenantHandler txt)) (Feed.handled (tenantHandler txt)) s es ∧
        ∃ m, (exec (Feed.step (tenantHandler txt)) s es).messages[n]? = some m ∧
          ∀ t u, m.tenant txt = some (t, u) →
            ∃! o, o ∈ (exec (Feed.step (tenantHandler txt)) s es).store.organizations.rows ∧
              o.authTenantId = some t ∧ o.uuid = u := by
  intro n hn
  have hend := hs.sound hes
  have hhandled := (Feed.handled_of_settled (h := tenantHandler txt) hs.job hn).resolve_left
    (by simp [hs.settled])
  obtain ⟨m, hm, hmirrored⟩ := hend.settled n hn
  refine ⟨hhandled, m, hm, fun t u htenant => ?_⟩
  obtain ⟨o, ho, hlink, huuid⟩ := hmirrored t u htenant
  refine ⟨o, ⟨ho, hlink, huuid⟩, ?_⟩
  rintro x ⟨hx, hlink', -⟩
  have hid : x.id = o.id := by
    rcases hend.store.unique o ho x hx with hid | ⟨-, -, hnone | hne⟩
    · exact hid
    · rw [hlink] at hnone
      cases hnone
    · exact absurd (hlink'.trans hlink.symm) hne
  exact (Table.keyed _).eq_of_key hx ho hid

def emptyFeed : TenantFeed := ⟨⟨⟨[], List.nodup_nil⟩, ⟨[], List.nodup_nil⟩, []⟩, [], [], fun _ => none⟩

theorem emptyFeed_starts : emptyFeed.Starts asciiText := ⟨by decide, fun _ => rfl, rfl⟩

def acmeCreated : TenantPayload :=
  { TenantPayload.empty with
    tenantId := some "00000000-0000-0000-0000-000000000001"
    name := some "Acme"
    slug := some "acme" }

/-- Two replicas work on one message: the first does not hear of its commit, the commit of the second is
refused, and the third delivery finds nothing left to do. -/
def twoReplicas : List ConsumerEvent :=
  [.publish (.event acmeCreated), .publish .unreadable, .deliver 0 0, .deliver 1 0, .read 0, .read 1,
    .finish 0 ⟨1, true, false⟩, .finish 1 ⟨2, true, true⟩, .deliver 0 1, .deliver 1 0, .read 1, .read 0,
    .finish 1 ⟨3, true, true⟩, .finish 0 ⟨4, true, true⟩, .ack 1, .drop 0]

theorem tenants_mirrored_two_replicas :
    0 ∈ (exec (Feed.step (tenantHandler asciiText)) emptyFeed twoReplicas).settled ∧
      0 ∈ outputs (Feed.step (tenantHandler asciiText)) (Feed.handled (tenantHandler asciiText)) emptyFeed
        twoReplicas ∧
        ∃ m, (exec (Feed.step (tenantHandler asciiText)) emptyFeed twoReplicas).messages[0]? = some m ∧
          ∀ t u, m.tenant asciiText = some (t, u) →
            ∃! o, o ∈ (exec (Feed.step (tenantHandler asciiText)) emptyFeed
                twoReplicas).store.organizations.rows ∧ o.authTenantId = some t ∧ o.uuid = u :=
  ⟨by decide, tenants_mirrored asciiText emptyFeed_starts (by decide) 0 (by decide)⟩

/-- **Nothing is stuck**: whatever has happened in such a run, one more delivery of a message that is not
acknowledged, to a replica that nobody disturbs, is `handle_auth_tenant`, mirrors the tenant and is
acknowledged.  The texts have to fit the columns, and the slug to leave room for the number of an
organization and for the e-mail that is made of it. -/
theorem redelivery_mirrors (txt : IdentityText) {s : TenantFeed} (hs : s.Starts txt)
    {es : List ConsumerEvent} (hes : Along (Feed.step (tenantHandler txt)) (Undisputed txt) s es)
    {s' : TenantFeed} (hs' : s' = exec (Feed.step (tenantHandler txt)) s es) {w n newId : ℕ}
    {p : TenantPayload} {t : String} {u : ℕ} (hidle : s'.job w = none)
    (hm : s'.messages[n]? = some (.event p)) (hn : n ∉ s'.settled) (hp : p.tenant txt = some (t, u))
    (hstorable : Directory.Storable txt p t s'.store.organizations.rows.length)
    (hid : newId ∉ s'.store.organizations.rows.map TenantOrganization.id) (now : ℤ) :
    let s'' := exec (Feed.step (tenantHandler txt)) s'
      [.deliver w n, .read w, .finish w ⟨newId, true, true⟩, .ack w]
    s'' = { s' with
        store := s'.store.handleAuthTenant txt p ⟨now, newId, true⟩, settled := n :: s'.settled } ∧
      ∃ o ∈ s''.store.organizations.rows, o.authTenantId = some t ∧ o.uuid = u := by
  have hstore : s'.store.Mirrors txt := hs' ▸ (hs.sound hes).store
  have hall : ∀ t' u', p.tenant txt = some (t', u') →
      Directory.Storable txt p t' s'.store.organizations.rows.length := by
    intro t' u' hp'
    obtain ⟨rfl, rfl⟩ := Prod.mk.inj (Option.some.inj (hp.symm.trans hp'))
    exact hstorable
  obtain ⟨r, hread⟩ := Directory.exists_readTenant hp hstorable
  have hfinish := Directory.finish_read (c := ⟨newId, true, true⟩) hstore hall hread rfl rfl hid now
  have hmirrored := Directory.mirrored_of_read (c := ⟨newId, true, true⟩) hstore hall hread rfl rfl hid
  have hexec := Feed.exec_undisturbed (h := tenantHandler txt) (c := ⟨newId, true, true⟩) hidle hm hn
    hread (congrArg Prod.snd hfinish)
  intro s''
  have hfinal : s'' = { s' with
      store := s'.store.handleAuthTenant txt p ⟨now, newId, true⟩, settled := n :: s'.settled } := by
    rw [show s'' = _ from hexec]
    simp only [tenantHandler, hfinish]
  refine ⟨hfinal, ?_⟩
  rw [hfinal]
  rw [hfinish] at hmirrored
  exact hmirrored t u hp

/-- A replica crashes on the message. -/
def lostReplica : List ConsumerEvent := [.publish (.event acmeCreated), .deliver 0 0, .read 0, .drop 0]

theorem redelivery_mirrors_acme :
    let s' := exec (Feed.step (tenantHandler asciiText)) emptyFeed lostReplica
    let s'' := exec (Feed.step (tenantHandler asciiText)) s'
      [.deliver 1 0, .read 1, .finish 1 ⟨1, true, true⟩, .ack 1]
    s'' = { s' with
        store := s'.store.handleAuthTenant asciiText acmeCreated ⟨0, 1, true⟩
        settled := 0 :: s'.settled } ∧
      ∃ o ∈ s''.store.organizations.rows,
        o.authTenantId = some "00000000-0000-0000-0000-000000000001" ∧ o.uuid = 1 :=
  have hrun : Along (Feed.step (tenantHandler asciiText)) (Undisputed asciiText) emptyFeed lostReplica := by
    decide
  redelivery_mirrors asciiText emptyFeed_starts hrun rfl (by decide) (by decide) (by decide) (by decide)
    ⟨by decide, by decide, by decide, by decide, by decide, by decide⟩ (by decide) 0

end IspBilling
