import IspBilling.DirectSync
import IspBilling.Runs
import Mathlib.Data.List.Induction

/-! # Repeated logins keep what a customer has used

A returning customer is provisioned again by a `create_user` command on every login.  The handler
of the agent script (`app/api/v1/router_agent.py`) therefore adds the user only when it is absent;
a present user gets its password and profile set in place, which leaves the accumulated uptime, the
limits and the disabled flag alone.

`provisions` runs any sequence of such commands for one user.  `lookup_provisions` is what they
leave in the user tables, `rate_provisions` what they leave in the profiles, and
`create_user_preserves_consumption` puts the two together. -/

namespace IspBilling

open Rows Runs

/-- The parameters of a `create_user` command for a fixed user. -/
structure UserCommand where
  password : String
  profile : String
  rateLimit : String
deriving DecidableEq, Repr

/-- The command as it is queued. -/
def UserCommand.action (type : UserType) (name : String) (c : UserCommand) : Action :=
  .createUser name c.password type c.profile c.rateLimit

/-- The change of a present user: password and profile, in place. -/
def UserCommand.update (c : UserCommand) (u : RouterUser) : RouterUser :=
  { u with password := c.password, profile := c.profile }

/-- The rate limit of the last command that names the profile with a rate limit. -/
def lastNamedRate (profile : String) (cmds : List UserCommand) : Option String :=
  ((cmds.filter (fun c => decide (c.profile = profile ∧ c.rateLimit ≠ ""))).getLast?).map
    UserCommand.rateLimit

/-- The profile is there, with the rate limit. -/
def HasRate (profiles : List RouterProfile) (name rate : String) : Prop :=
  name ∈ profiles.map RouterProfile.name ∧ ∀ p ∈ profiles, p.name = name → p.rateLimit = rate

instance (profiles : List RouterProfile) (name rate : String) :
    Decidable (HasRate profiles name rate) :=
  inferInstanceAs (Decidable (name ∈ profiles.map RouterProfile.name ∧
    ∀ p ∈ profiles, p.name = name → p.rateLimit = rate))

/-! ### One command and the profiles -/

theorem map_name_setRate (profiles : List RouterProfile) (name rate : String) :
    (updateWhere (fun p => decide (p.name = name)) (fun p => { p with rateLimit := rate })
      profiles).map RouterProfile.name = profiles.map RouterProfile.name := by
  apply map_key_updateWhere
  intro p
  rfl

theorem hasRate_ensureProfile_self {name rate : String} (hrate : rate ≠ "")
    (profiles : List RouterProfile) : HasRate (ensureProfile name rate profiles) name rate := by
  unfold ensureProfile
  split
  · rename_i hmem
    refine ⟨?_, ?_⟩
    · rw [map_name_setRate]
      exact hmem
    · intro p hp hname
      obtain ⟨p₀, _, rfl⟩ := mem_updateWhere.mp hp
      by_cases h : p₀.name = name
      · simp [h]
      · simp [h] at hname
  · rename_i hmem
    refine ⟨by simp, ?_⟩
    intro p hp hname
    rcases List.mem_append.mp hp with hold | hnew
    · exact absurd (hname ▸ List.mem_map_of_mem hold) hmem
    · rw [List.mem_singleton.mp hnew]

/-- A command for another profile, or one without a rate limit, leaves the rate limit of a present
profile alone. -/
theorem hasRate_ensureProfile_other {name rate other rate' : String}
    (hskip : other ≠ name ∨ rate' = "") {profiles : List RouterProfile}
    (h : HasRate profiles name rate) : HasRate (ensureProfile other rate' profiles) name rate := by
  obtain ⟨hmem, hall⟩ := h
  unfold ensureProfile
  split
  · split
    · exact ⟨hmem, hall⟩
    · rename_i hrate
      have hne : other ≠ name := hskip.resolve_right hrate
      refine ⟨?_, ?_⟩
      · rw [map_name_setRate]
        exact hmem
      · intro p hp hname
        obtain ⟨p₀, hp₀, rfl⟩ := mem_updateWhere.mp hp
        by_cases ho : p₀.name = other
        · simp only [ho, decide_true, ite_true] at hname
          exact absurd hname hne
        · simp only [ho, decide_false, Bool.false_eq_true, ite_false] at hname ⊢
          exact hall p₀ hp₀ hname
  · rename_i hnew
    refine ⟨by simp [hmem], ?_⟩
    intro p hp hname
    rcases List.mem_append.mp hp with hold | hadded
    · exact hall p hold hname
    · have heq : other = name := by rw [List.mem_singleton.mp hadded] at hname; exact hname
      exact absurd (heq ▸ hmem) hnew

/-! ### Sequences of commands -/

section Sequences

variable (importScript : String → RouterState → RouterState) (type : UserType) (name : String)

/-- The agent executes one `create_user` command. -/
def provision (r : RouterState) (c : UserCommand) : RouterState :=
  r.execute importScript (c.action type name)

/-- The router after a sequence of `create_user` commands for the user. -/
def provisions (cmds : List UserCommand) (r : RouterState) : RouterState :=
  exec (provision importScript type name) r cmds

variable {importScript type name}

/-- One command: its own user is updated or added, every other one is left alone. -/
theorem lookup_provision (r : RouterState) (c : UserCommand) (t : UserType) (m : String) :
    (provision importScript type name r c).lookup t m =
      if m = name ∧ t = type then
        some (((r.lookup t m).map c.update).getD (.new name c.password c.profile))
      else r.lookup t m :=
  execute_lookup (by simp [UserCommand.action]) r t m

/-- **Frame**: no sequence of commands touches another user. -/
theorem lookup_provisions_other {t : UserType} {m : String} (hm : ¬ (m = name ∧ t = type))
    (cmds : List UserCommand) (r : RouterState) :
    (provisions importScript type name cmds r).lookup t m = r.lookup t m := by
  refine exec_of_invariant (I := fun s : RouterState => s.lookup t m = r.lookup t m) ?_ rfl cmds
  intro s c hs
  rw [lookup_provision, if_neg hm, hs]

theorem lookup_provisions_present {u : RouterUser} (cmds : List UserCommand) {r : RouterState}
    (hu : r.lookup type name = some u) : ∃ password profile,
      (provisions importScript type name cmds r).lookup type name =
        some { u with password := password, profile := profile } := by
  refine exec_of_invariant (I := fun s : RouterState => ∃ password profile,
    s.lookup type name = some { u with password := password, profile := profile }) ?_
    ⟨u.password, u.profile, hu⟩ cmds
  rintro s c ⟨password, profile, hs⟩
  refine ⟨c.password, c.profile, ?_⟩
  rw [lookup_provision, if_pos ⟨rfl, rfl⟩, hs]
  rfl

theorem lookup_provisions_last (cmds : List UserCommand) (last : UserCommand) (r : RouterState) :
    ∃ u, (provisions importScript type name (cmds ++ [last]) r).lookup type name = some u ∧
      u.password = last.password ∧ u.profile = last.profile := by
  have hlast : provisions importScript type name (cmds ++ [last]) r =
      provision importScript type name (provisions importScript type name cmds r) last :=
    exec_append _ r cmds [last]
  rw [hlast, lookup_provision, if_pos ⟨rfl, rfl⟩]
  refine ⟨_, rfl, ?_⟩
  cases (provisions importScript type name cmds r).lookup type name with
  | none => exact ⟨rfl, rfl⟩
  | some u => exact ⟨rfl, rfl⟩

/-- **Profiles**: a profile has the rate limit of the last command that named it with one. -/
theorem rate_provisions (cmds : List UserCommand) (r : RouterState) (profile rate : String)
    (h : lastNamedRate profile cmds = some rate) :
    HasRate ((provisions importScript type name cmds r).profiles type) profile rate := by
  induction cmds using List.reverseRecOn with
  | nil => simp [lastNamedRate] at h
  | append_singleton cmds c ih =>
      have hlast : (provisions importScript type name (cmds ++ [c]) r).profiles type =
          ensureProfile c.profile c.rateLimit
            ((provisions importScript type name cmds r).profiles type) := by
        rw [provisions, exec_append]
        exact RouterState.profiles_createUser importScript _ _ _ _ _ _
      rw [hlast]
      -- the last command either sets the rate limit of the profile or passes it by
      by_cases hc : c.profile = profile ∧ c.rateLimit ≠ ""
      · have hrate : c.rateLimit = rate := by simpa [lastNamedRate, hc] using h
        rw [← hc.1, ← hrate]
        exact hasRate_ensureProfile_self hc.2 _
      · have hold : lastNamedRate profile cmds = some rate := by
          simpa only [lastNamedRate, List.filter_append, List.filter_singleton, hc, decide_false,
            cond_false, List.append_nil] using h
        refine hasRate_ensureProfile_other ?_ (ih hold)
        by_cases hp : c.profile = profile
        · exact Or.inr (by simpa [hp] using hc)
        · exact Or.inl hp

end Sequences

/-- **Repeated provisioning keeps the consumption**: after any sequence of `create_user` commands
for one user, on any router, the user is there with the password and the profile of the last
command; a user that was there before has its uptime, its limits and its disabled flag; all other
users are as they were; and every profile has the rate limit of the last command that named it
with one. -/
theorem create_user_preserves_consumption (importScript : String → RouterState → RouterState)
    (r : RouterState) (type : UserType) (name : String) (cmds : List UserCommand)
    (last : UserCommand) :
    let after := provisions importScript type name (cmds ++ [last]) r
    (∃ u, after.lookup type name = some u ∧ u.password = last.password ∧
        u.profile = last.profile ∧ ∀ old, r.lookup type name = some old →
          u.uptime = old.uptime ∧ u.limitUptime = old.limitUptime ∧
            u.limitBytesTotal = old.limitBytesTotal ∧ u.disabled = old.disabled) ∧
      (∀ t m, ¬ (m = name ∧ t = type) → after.lookup t m = r.lookup t m) ∧
      ∀ profile rate, lastNamedRate profile (cmds ++ [last]) = some rate →
        HasRate (after.profiles type) profile rate := by
  intro after
  refine ⟨?_, ?_, ?_⟩
  · obtain ⟨u, hu, hpassword, hprofile⟩ := lookup_provisions_last cmds last r
    refine ⟨u, hu, hpassword, hprofile, ?_⟩
    intro old hold
    obtain ⟨password, profile, hkept⟩ := lookup_provisions_present (cmds ++ [last]) hold
    obtain rfl : u = { old with password := password, profile := profile } :=
      Option.some.inj (hu.symm.trans hkept)
    exact ⟨rfl, rfl, rfl, rfl⟩
  · intro t m hm
    exact lookup_provisions_other hm (cmds ++ [last]) r
  · intro profile rate h
    exact rate_provisions (cmds ++ [last]) r profile rate h

end IspBilling
