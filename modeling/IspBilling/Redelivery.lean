import IspBilling.DirectSync
import IspBilling.SyncConvergence

/-! # Is it safe to deliver a batch twice?

When the reports of an executed batch are lost, `reset_stale_sent_commands` puts its commands
back, and the next poll delivers them again.  This is harmless if the second execution changes
nothing: users, profiles and sessions are to be as after the first one.

`userEffect` describes a command by what it does to one user, so a batch is read user by user.
A present user ends with the credentials of the last `create_user` and the flag of the last
`disable_user` or `enable_user` (`runUser_some`), whatever they were before; a `remove_user`
makes everything before it irrelevant.  What is left is a user that the batch adds: flags that
come before the first `create_user` find nobody the first time and somebody the second time.
`redelivery_safe_iff` says that this is the only way to lose. -/

namespace IspBilling

open Rows

/-- The agent executes the commands of a batch in order. -/
def runBatch (importScript : String → RouterState → RouterState) (batch : List RouterCommand)
    (r : RouterState) : RouterState :=
  batch.foldl (fun r c => r.execute importScript c.action) r

/-- The tables of two routers say the same: every user, the rate limit of every profile, and
the sessions. -/
structure SameTables (r r' : RouterState) : Prop where
  users : ∀ type name, r.lookup type name = r'.lookup type name
  profiles : ∀ type name, profileRate (r.profiles type) name = profileRate (r'.profiles type) name
  hotspotActive : r.hotspotActive = r'.hotspotActive
  pppActive : r.pppActive = r'.pppActive
  hotspotCookies : r.hotspotCookies = r'.hotspotCookies
  hotspotHosts : r.hotspotHosts = r'.hotspotHosts

namespace Action

variable (type : UserType) (name : String)

/-- The flag that the command gives the user. -/
def flag : Action → Option Bool
  | .disableUser n t => if n = name ∧ t = type then some true else none
  | .enableUser n t => if n = name ∧ t = type then some false else none
  | _ => none

/-- The password and the profile that the command gives the user. -/
def account : Action → Option (String × String)
  | .createUser n password t profile _ => if n = name ∧ t = type then some (password, profile) else none
  | _ => none

/-- A `remove_user` of the user. -/
def removes : Action → Bool
  | .removeUser n t => decide (n = name ∧ t = type)
  | _ => false

/-- The commands that act on users and their sessions. -/
def isUserCommand : Action → Bool
  | .createUser .. | .disableUser .. | .enableUser .. | .removeUser .. | .disconnect _ => true
  | .setQueue .. | .fetchImport _ | .runScript _ => false

/-- The user that the command adds if it is absent. -/
def createdUser : Action → Option (UserType × String)
  | .createUser n _ t _ _ => some (t, n)
  | _ => none

theorem createdUser_eq_some {type : UserType} {name : String} {a : Action} :
    a.createdUser = some (type, name) ↔ a.creates type name = true := by
  cases a <;> simp [createdUser, creates, and_comm]

end Action

section User

variable (type : UserType) (name : String)

/-- The flag of the last `disable_user` or `enable_user` of the user. -/
def lastFlag : List Action → Option Bool
  | [] => none
  | a :: l => (lastFlag l).or (a.flag type name)

/-- Password and profile of the last `create_user` of the user. -/
def lastAccount : List Action → Option (String × String)
  | [] => none
  | a :: l => (lastAccount l).or (a.account type name)

/-- The commands from the first `create_user` of the user on. -/
def fromFirstCreate (l : List Action) : List Action :=
  l.dropWhile (fun a => !a.creates type name)

/-- The batch disables the user, if at all, before it first creates it. -/
def DisabledFirst (l : List Action) : Prop :=
  (∀ a ∈ l, a.removes type name = false) ∧ lastFlag type name l = some true ∧
    lastFlag type name (fromFirstCreate type name l) = none

instance (l : List Action) : Decidable (DisabledFirst type name l) :=
  inferInstanceAs (Decidable (_ ∧ _ ∧ _))

/-- The effect of a list of commands on one user. -/
def runUser (l : List Action) (x : Option RouterUser) : Option RouterUser :=
  l.foldl (fun x a => userEffect type name a x) x

end User

/-! ### One user -/

section OneUser

variable {type : UserType} {name : String}

theorem lastFlag_append (l l' : List Action) :
    lastFlag type name (l ++ l') = (lastFlag type name l').or (lastFlag type name l) := by
  induction l with
  | nil => simp [lastFlag]
  | cons a l ih => simp [lastFlag, ih, Option.or_assoc]

theorem lastAccount_append (l l' : List Action) :
    lastAccount type name (l ++ l') = (lastAccount type name l').or (lastAccount type name l) := by
  induction l with
  | nil => simp [lastAccount]
  | cons a l ih => simp [lastAccount, ih, Option.or_assoc]

theorem userEffect_some {a : Action} (ha : a.removes type name = false) (u : RouterUser) :
    userEffect type name a (some u) = some { u with
      password := ((a.account type name).map Prod.fst).getD u.password
      profile := ((a.account type name).map Prod.snd).getD u.profile
      disabled := (a.flag type name).getD u.disabled } := by
  cases a with
  | createUser n password t profile rateLimit =>
      by_cases h : n = name ∧ t = type
      · simp [userEffect, Action.account, Action.flag, h]
      · have h' : ¬ (name = n ∧ type = t) := fun h' => h ⟨h'.1.symm, h'.2.symm⟩
        simp [userEffect, Action.account, Action.flag, h, h']
  | disableUser n t =>
      by_cases h : n = name ∧ t = type
      · simp [userEffect, Action.account, Action.flag, h]
      · have h' : ¬ (name = n ∧ type = t) := fun h' => h ⟨h'.1.symm, h'.2.symm⟩
        simp [userEffect, Action.account, Action.flag, h, h']
  | enableUser n t =>
      by_cases h : n = name ∧ t = type
      · simp [userEffect, Action.account, Action.flag, h]
      · have h' : ¬ (name = n ∧ type = t) := fun h' => h ⟨h'.1.symm, h'.2.symm⟩
        simp [userEffect, Action.account, Action.flag, h, h']
  | removeUser n t =>
      have h' : ¬ (name = n ∧ type = t) := by
        rintro ⟨rfl, rfl⟩
        simp [Action.removes] at ha
      simp [userEffect, Action.account, Action.flag, h']
  | disconnect n => rfl
  | setQueue target maxLimit => rfl
  | fetchImport url => rfl
  | runScript script => rfl

/-- **A present user** ends with the last account and the last flag of the batch. -/
theorem runUser_some {l : List Action} (hl : ∀ a ∈ l, a.removes type name = false)
    (u : RouterUser) : runUser type name l (some u) = some { u with
      password := ((lastAccount type name l).map Prod.fst).getD u.password
      profile := ((lastAccount type name l).map Prod.snd).getD u.profile
      disabled := (lastFlag type name l).getD u.disabled } := by
  induction l generalizing u with
  | nil => rfl
  | cons a l ih =>
      have hrec := ih (fun b hb => hl b (List.mem_cons_of_mem a hb))
      rw [runUser, List.foldl_cons, userEffect_some (hl a List.mem_cons_self) u]
      refine (hrec _).trans ?_
      cases hacc : lastAccount type name l <;> cases hflag : lastFlag type name l <;>
        simp [lastAccount, lastFlag, hacc, hflag]

theorem userEffect_none {a : Action} (ha : a.creates type name = false) :
    userEffect type name a none = none := by
  cases a with
  | createUser n password t profile rateLimit =>
      have h' : ¬ (name = n ∧ type = t) := by
        rintro ⟨rfl, rfl⟩
        simp [Action.creates] at ha
      simp [userEffect, h']
  | disableUser n t => simp [userEffect]
  | enableUser n t => simp [userEffect]
  | removeUser n t => simp [userEffect]
  | disconnect n => rfl
  | setQueue target maxLimit => rfl
  | fetchImport url => rfl
  | runScript script => rfl

theorem runUser_none {l : List Action} (hl : ∀ a ∈ l, a.creates type name = false) :
    runUser type name l none = none := by
  induction l with
  | nil => rfl
  | cons a l ih =>
      rw [runUser, List.foldl_cons, userEffect_none (hl a List.mem_cons_self)]
      exact ih (fun b hb => hl b (List.mem_cons_of_mem a hb))

theorem runUser_of_removes {l : List Action} (hl : ∃ a ∈ l, a.removes type name = true)
    (x y : Option RouterUser) : runUser type name l x = runUser type name l y := by
  induction l generalizing x y with
  | nil =>
      obtain ⟨a, ha, _⟩ := hl
      cases ha
  | cons a l ih =>
      rw [runUser, runUser, List.foldl_cons, List.foldl_cons]
      by_cases ha : a.removes type name = true
      · cases a with
        | removeUser n t =>
            obtain ⟨rfl, rfl⟩ := of_decide_eq_true ha
            simp [userEffect]
        | _ => cases ha
      · obtain ⟨b, hb, hrem⟩ := hl
        rcases List.mem_cons.mp hb with rfl | hb
        · exact absurd hrem ha
        · exact ih ⟨b, hb, hrem⟩ _ _

theorem fromFirstCreate_append {pre : List Action}
    (hpre : ∀ a ∈ pre, a.creates type name = false) {c : Action}
    (hc : c.creates type name = true) (post : List Action) :
    fromFirstCreate type name (pre ++ c :: post) = c :: post := by
  induction pre with
  | nil => simp [fromFirstCreate, hc]
  | cons a pre ih =>
      have ha := hpre a List.mem_cons_self
      have hrec := ih (fun b hb => hpre b (List.mem_cons_of_mem a hb))
      rw [fromFirstCreate] at hrec
      simp [fromFirstCreate, ha, hrec]

theorem exists_first_create {l : List Action} (hl : ∃ a ∈ l, a.creates type name = true) :
    ∃ pre c post, l = pre ++ c :: post ∧ c.creates type name = true ∧
      ∀ a ∈ pre, a.creates type name = false := by
  have hfind : (l.find? (fun a => a.creates type name)).isSome := List.find?_isSome.mpr hl
  obtain ⟨c, hc⟩ := Option.isSome_iff_exists.mp hfind
  obtain ⟨hcreates, pre, post, hsplit, hpre⟩ := List.find?_eq_some_iff_append.mp hc
  exact ⟨pre, c, post, hsplit, hcreates, fun a ha => by simpa using hpre a ha⟩

/-- The two executions of a batch that adds the user: the second one differs in the flag, if the
flags of the batch come before the first `create_user`. -/
theorem runUser_added {pre post : List Action} {c : Action} (hc : c.creates type name = true)
    (hpre : ∀ a ∈ pre, a.creates type name = false)
    (hrem : ∀ a ∈ pre ++ c :: post, a.removes type name = false) :
    runUser type name (pre ++ c :: post) (runUser type name (pre ++ c :: post) none) =
        runUser type name (pre ++ c :: post) none ↔
      ¬ (lastFlag type name (pre ++ c :: post) = some true ∧
        lastFlag type name (c :: post) = none) := by
  cases c with
  | createUser n password t profile rateLimit =>
      obtain ⟨rfl, rfl⟩ := of_decide_eq_true hc
      have hpost : ∀ a ∈ post, a.removes t n = false := fun a ha =>
        hrem a (List.mem_append_right _ (List.mem_cons_of_mem _ ha))
      have hfirst : runUser t n (pre ++ .createUser n password t profile rateLimit :: post) none =
          runUser t n post (some (.new n password profile)) := by
        rw [runUser, List.foldl_append, List.foldl_cons]
        have hnone : pre.foldl (fun x a => userEffect t n a x) none = none := runUser_none hpre
        rw [hnone]
        simp [userEffect, runUser]
      rw [hfirst, runUser_some hpost, runUser_some hrem]
      simp only [lastAccount_append, lastFlag_append, lastAccount, lastFlag, Action.account,
        Action.flag, and_self, if_true, Option.or_none]
      cases hflag : lastFlag t n post with
      | some b => cases lastAccount t n post <;> simp [RouterUser.new]
      | none =>
          cases hacc : lastAccount t n post <;> cases hold : lastFlag t n pre <;>
            simp [RouterUser.new]
  | _ => cases hc

/-- **One user**: a second execution changes nothing, unless the batch adds the user and has
disabled it before. -/
theorem runUser_idem_iff (l : List Action) (x : Option RouterUser) :
    runUser type name l (runUser type name l x) = runUser type name l x ↔
      (x = none → (∃ a ∈ l, a.creates type name = true) → ¬ DisabledFirst type name l) := by
  by_cases hrem : ∃ a ∈ l, a.removes type name = true
  · refine iff_of_true (runUser_of_removes hrem _ _) ?_
    rintro _ _ ⟨hno, _⟩
    obtain ⟨a, ha, hrema⟩ := hrem
    rw [hno a ha] at hrema
    cases hrema
  · have hno : ∀ a ∈ l, a.removes type name = false := by
      intro a ha
      by_contra h
      exact hrem ⟨a, ha, by simpa using h⟩
    cases x with
    | some u =>
        refine iff_of_true ?_ (by simp)
        rw [runUser_some hno u, runUser_some hno]
        cases lastAccount type name l <;> cases lastFlag type name l <;> simp
    | none =>
        by_cases hcr : ∃ a ∈ l, a.creates type name = true
        · obtain ⟨pre, c, post, rfl, hc, hpre⟩ := exists_first_create hcr
          rw [runUser_added hc hpre hno]
          simp only [DisabledFirst, fromFirstCreate_append hpre hc, hcr, true_implies, not_and]
          exact ⟨fun h _ => h, fun h => h hno⟩
        · refine iff_of_true ?_ (fun _ h => absurd h hcr)
          have hnone : runUser type name l none = none := by
            apply runUser_none
            intro a ha
            by_contra h
            exact hcr ⟨a, ha, by simpa using h⟩
          rw [hnone, hnone]

end OneUser

/-! ### Profiles and sessions -/

section Profiles

variable (type : UserType) (name : String)

/-- The rate limit that the command gives the profile; the empty one only to a new profile. -/
def Action.rate : Action → Option String
  | .createUser _ _ t profile rateLimit => if profile = name ∧ t = type then some rateLimit else none
  | _ => none

/-- The effect of a command on the rate limit of a profile. -/
def rateEffect (a : Action) (x : Option String) : Option String :=
  match a.rate type name with
  | some rateLimit => some (if rateLimit = "" then x.getD "" else rateLimit)
  | none => x

/-- The effect of a list of commands on the rate limit of a profile. -/
def runRate (l : List Action) (x : Option String) : Option String :=
  l.foldl (fun x a => rateEffect type name a x) x

/-- The last rate limit of the list that is not empty. -/
def lastRate : List Action → Option String
  | [] => none
  | a :: l => (lastRate l).or ((a.rate type name).filter (fun x => decide (x ≠ "")))

variable {type name}

theorem lastRate_eq_none {l : List Action} (hl : ∀ a ∈ l, a.rate type name = none) :
    lastRate type name l = none := by
  induction l with
  | nil => rfl
  | cons a l ih =>
      rw [lastRate, ih (fun b hb => hl b (List.mem_cons_of_mem a hb)), hl a List.mem_cons_self]
      rfl

theorem runRate_of_none {l : List Action} (hl : ∀ a ∈ l, a.rate type name = none)
    (x : Option String) : runRate type name l x = x := by
  induction l with
  | nil => rfl
  | cons a l ih =>
      rw [runRate, List.foldl_cons, rateEffect, hl a List.mem_cons_self]
      exact ih (fun b hb => hl b (List.mem_cons_of_mem a hb))

/-- A profile that the batch uses ends with the last rate limit of the batch, if one is not
empty. -/
theorem runRate_of_exists {l : List Action} (hl : ∃ a ∈ l, a.rate type name ≠ none)
    (x : Option String) :
    runRate type name l x = some ((lastRate type name l).getD (x.getD "")) := by
  induction l generalizing x with
  | nil =>
      obtain ⟨a, ha, _⟩ := hl
      cases ha
  | cons a l ih =>
      rw [runRate, List.foldl_cons, lastRate]
      by_cases hrest : ∃ b ∈ l, b.rate type name ≠ none
      · refine (ih hrest _).trans ?_
        cases lastRate type name l with
        | some rate => rfl
        | none =>
            cases ha : a.rate type name with
            | none => simp [rateEffect, ha]
            | some rate => by_cases hr : rate = "" <;> simp [rateEffect, ha, hr, Option.filter]
      · have hnone : ∀ b ∈ l, b.rate type name = none := by
          intro b hb
          by_contra h
          exact hrest ⟨b, hb, h⟩
        obtain ⟨b, hb, hrate⟩ := hl
        rcases List.mem_cons.mp hb with rfl | hb
        · obtain ⟨rate, ha⟩ := Option.ne_none_iff_exists'.mp hrate
          rw [lastRate_eq_none hnone]
          refine (runRate_of_none hnone _).trans ?_
          by_cases hr : rate = "" <;> simp [rateEffect, ha, hr, Option.filter]
        · exact absurd (hnone b hb) hrate

theorem runRate_idem (l : List Action) (x : Option String) :
    runRate type name l (runRate type name l x) = runRate type name l x := by
  by_cases hl : ∃ a ∈ l, a.rate type name ≠ none
  · rw [runRate_of_exists hl x, runRate_of_exists hl]
    cases lastRate type name l <;> rfl
  · have hnone : ∀ a ∈ l, a.rate type name = none := by
      intro a ha
      by_contra h
      exact hl ⟨a, ha, h⟩
    rw [runRate_of_none hnone, runRate_of_none hnone]

theorem profileRate_ensureProfile_of_ne (profiles : List RouterProfile) (rateLimit : String)
    {profile : String} (h : profile ≠ name) :
    profileRate (ensureProfile profile rateLimit profiles) name = profileRate profiles name := by
  unfold ensureProfile
  split
  · split
    · rfl
    · have hkey : ∀ p : RouterProfile,
          RouterProfile.name { p with rateLimit := rateLimit } = p.name := fun _ => rfl
      have hfind := find?_updateWhere (p := fun p => decide (p.name = profile)) hkey profiles name
      rw [profileRate, hfind, profileRate]
      cases hp : profiles.find? (fun p => decide (p.name = name)) with
      | none => rfl
      | some p =>
          have hname : p.name = name := by simpa using List.find?_some hp
          simp [hname, h.symm]
  · simp [profileRate, List.find?_append, h]

/-- **Spec of the handlers** on profiles. -/
theorem execute_profileRate (importScript : String → RouterState → RouterState) {a : Action}
    (ha : ∀ url, a ≠ .fetchImport url) (r : RouterState) :
    profileRate ((r.execute importScript a).profiles type) name =
      rateEffect type name a (profileRate (r.profiles type) name) := by
  cases a with
  | createUser n password t profile rateLimit =>
      by_cases ht : t = type
      · subst ht
        rw [RouterState.profiles_createUser]
        by_cases hp : profile = name
        · subst hp
          simp [rateEffect, Action.rate, profileRate_ensureProfile]
        · simp [rateEffect, Action.rate, hp, profileRate_ensureProfile_of_ne _ _ hp]
      · have hframe : (r.execute importScript
            (.createUser n password t profile rateLimit)).profiles type = r.profiles type := by
          cases t <;> cases type <;> first | rfl | exact absurd rfl ht
        simp [rateEffect, Action.rate, ht, hframe]
  | disconnect n => cases type <;> rfl
  | disableUser n t => cases t <;> cases type <;> rfl
  | enableUser n t => cases t <;> cases type <;> rfl
  | removeUser n t => cases t <;> cases type <;> rfl
  | setQueue target maxLimit => rfl
  | runScript script => rfl
  | fetchImport url => exact absurd rfl (ha url)

end Profiles

section Sessions

/-- The command ends the hotspot session of the user. -/
def Action.cutsHotspot (name : String) : Action → Bool
  | .disconnect n => decide (n = name)
  | .disableUser n t | .removeUser n t => decide (n = name ∧ t = .hotspot)
  | _ => false

/-- The command ends the PPP session of the user. -/
def Action.cutsPpp (name : String) : Action → Bool
  | .disconnect n => decide (n = name)
  | .disableUser n t | .removeUser n t => decide (n = name ∧ t = .pppoe)
  | _ => false

/-- The sessions of a router that the cut commands leave. -/
def keepSessions (cuts : String → Bool) (l : List String) : List String :=
  l.filter (fun name => !cuts name)

/-- **Spec of the handlers** on sessions. -/
theorem execute_sessions (importScript : String → RouterState → RouterState) {a : Action}
    (ha : ∀ url, a ≠ .fetchImport url) (r : RouterState) :
    (r.execute importScript a).hotspotActive = keepSessions a.cutsHotspot r.hotspotActive ∧
      (r.execute importScript a).pppActive = keepSessions a.cutsPpp r.pppActive ∧
      (r.execute importScript a).hotspotCookies = keepSessions a.cutsHotspot r.hotspotCookies ∧
      (r.execute importScript a).hotspotHosts = keepSessions a.cutsHotspot r.hotspotHosts := by
  have hdrop : ∀ (n : String) (l : List String),
      dropUser n l = keepSessions (fun m => decide (n = m)) l := by
    intro n l
    simp [dropUser, keepSessions, eq_comm]
  have hnone : ∀ l : List String, keepSessions (fun _ => false) l = l := by
    intro l
    simp [keepSessions]
  cases a with
  | disconnect n => exact ⟨hdrop n _, hdrop n _, hdrop n _, hdrop n _⟩
  | disableUser n t =>
      cases t with
      | hotspot =>
          simp [RouterState.execute, RouterState.setDisabled, RouterState.cutHotspot, hdrop,
            Action.cutsHotspot, Action.cutsPpp, hnone]
      | pppoe =>
          simp [RouterState.execute, RouterState.setDisabled, RouterState.cutPpp, hdrop,
            Action.cutsHotspot, Action.cutsPpp, hnone]
  | removeUser n t =>
      cases t with
      | hotspot =>
          simp [RouterState.execute, RouterState.cutHotspot, hdrop, Action.cutsHotspot,
            Action.cutsPpp, hnone]
      | pppoe =>
          simp [RouterState.execute, RouterState.cutPpp, hdrop, Action.cutsHotspot,
            Action.cutsPpp, hnone]
  | enableUser n t =>
      cases t <;> exact ⟨(hnone _).symm, (hnone _).symm, (hnone _).symm, (hnone _).symm⟩
  | createUser n password t profile rateLimit =>
      cases t <;> exact ⟨(hnone _).symm, (hnone _).symm, (hnone _).symm, (hnone _).symm⟩
  | setQueue target maxLimit =>
      exact ⟨(hnone _).symm, (hnone _).symm, (hnone _).symm, (hnone _).symm⟩
  | runScript script =>
      exact ⟨(hnone _).symm, (hnone _).symm, (hnone _).symm, (hnone _).symm⟩
  | fetchImport url => exact absurd rfl (ha url)

theorem foldl_keepSessions_idem (cuts : Action → String → Bool) (l : List Action)
    (sessions : List String) :
    l.foldl (fun x a => keepSessions (cuts a) x)
        (l.foldl (fun x a => keepSessions (cuts a) x) sessions) =
      l.foldl (fun x a => keepSessions (cuts a) x) sessions := by
  have hfold : ∀ (l : List Action) (x : List String), l.foldl (fun x a => keepSessions (cuts a) x) x =
      keepSessions (fun n => l.any (fun a => cuts a n)) x := by
    intro l
    induction l with
    | nil => simp [keepSessions]
    | cons a l ih =>
        intro x
        rw [List.foldl_cons, ih, keepSessions, keepSessions, keepSessions, List.filter_filter]
        simp [Bool.and_comm]
  rw [hfold, hfold, keepSessions, keepSessions, List.filter_filter]
  simp

end Sessions

/-! ### Whole batches -/

section Batches

variable {importScript : String → RouterState → RouterState} {batch : List RouterCommand}

/-- **Reading a batch**: what the handlers do to one part of the router, folded. -/
theorem read_runBatch {β : Type*} (read : RouterState → β) (effect : Action → β → β)
    (hread : ∀ a r, (∀ url, a ≠ .fetchImport url) →
      read (r.execute importScript a) = effect a (read r))
    (hbatch : ∀ c ∈ batch, ∀ url, c.action ≠ .fetchImport url) (r : RouterState) :
    read (runBatch importScript batch r) =
      (batch.map RouterCommand.action).foldl (fun x a => effect a x) (read r) := by
  induction batch generalizing r with
  | nil => rfl
  | cons c batch ih =>
      rw [runBatch, List.foldl_cons, List.map_cons, List.foldl_cons,
        ← hread c.action r (hbatch c List.mem_cons_self)]
      exact ih (fun d hd => hbatch d (List.mem_cons_of_mem c hd)) _

theorem sessions_idem (read : RouterState → List String) (cuts : Action → String → Bool)
    (hread : ∀ a r, (∀ url, a ≠ .fetchImport url) →
      read (r.execute importScript a) = keepSessions (cuts a) (read r))
    (hbatch : ∀ c ∈ batch, ∀ url, c.action ≠ .fetchImport url) (r : RouterState) :
    read (runBatch importScript batch (runBatch importScript batch r)) =
      read (runBatch importScript batch r) := by
  have hrun := read_runBatch read (fun a => keepSessions (cuts a)) hread hbatch
  rw [hrun, hrun]
  exact foldl_keepSessions_idem cuts _ _

/-- The user that the batch adds to the router is disabled by it before. -/
def LosesDisable (batch : List RouterCommand) (r : RouterState) : Prop :=
  ∃ c ∈ batch, ∃ u ∈ c.action.createdUser, r.lookup u.1 u.2 = none ∧
    DisabledFirst u.1 u.2 (batch.map RouterCommand.action)

instance (batch : List RouterCommand) (r : RouterState) : Decidable (LosesDisable batch r) :=
  inferInstanceAs (Decidable (∃ c ∈ batch, ∃ u ∈ c.action.createdUser, r.lookup u.1 u.2 = none ∧
    DisabledFirst u.1 u.2 (batch.map RouterCommand.action)))

/-- A second execution of a batch changes nothing, exactly if no disable is lost. -/
theorem runBatch_idem_iff (hbatch : ∀ c ∈ batch, ∀ url, c.action ≠ .fetchImport url)
    (r : RouterState) :
    SameTables (runBatch importScript batch (runBatch importScript batch r))
        (runBatch importScript batch r) ↔ ¬ LosesDisable batch r := by
  have huser : ∀ (type : UserType) (name : String) (r : RouterState),
      (runBatch importScript batch r).lookup type name =
        runUser type name (batch.map RouterCommand.action) (r.lookup type name) := by
    intro type name
    exact read_runBatch (fun r => r.lookup type name) (userEffect type name)
      (fun a r ha => execute_lookup ha r type name) hbatch
  have hiff : ∀ type name, (runBatch importScript batch (runBatch importScript batch r)).lookup
      type name = (runBatch importScript batch r).lookup type name ↔
      (r.lookup type name = none → (∃ a ∈ batch.map RouterCommand.action,
        a.creates type name = true) →
          ¬ DisabledFirst type name (batch.map RouterCommand.action)) := by
    intro type name
    rw [huser, huser]
    exact runUser_idem_iff _ _
  constructor
  · rintro h ⟨c, hc, ⟨type, name⟩, hu, hnone, hfirst⟩
    refine (hiff type name).mp (h.users type name) hnone ⟨c.action, List.mem_map_of_mem hc, ?_⟩ hfirst
    exact Action.createdUser_eq_some.mp hu
  · intro h
    refine ⟨?_, ?_, ?_, ?_, ?_, ?_⟩
    · intro type name
      refine (hiff type name).mpr ?_
      rintro hnone ⟨a, ha, hcreates⟩ hfirst
      obtain ⟨c, hc, rfl⟩ := List.mem_map.mp ha
      exact h ⟨c, hc, (type, name), Action.createdUser_eq_some.mpr hcreates, hnone, hfirst⟩
    · intro type name
      have hrate := read_runBatch (fun r => profileRate (r.profiles type) name)
        (rateEffect type name) (fun a r ha => execute_profileRate importScript ha r) hbatch
      rw [hrate, hrate]
      exact runRate_idem _ _
    · exact sessions_idem _ _ (fun a r ha => (execute_sessions importScript ha r).1) hbatch r
    · exact sessions_idem _ _ (fun a r ha => (execute_sessions importScript ha r).2.1) hbatch r
    · exact sessions_idem _ _ (fun a r ha => (execute_sessions importScript ha r).2.2.1) hbatch r
    · exact sessions_idem _ _ (fun a r ha => (execute_sessions importScript ha r).2.2.2) hbatch r

end Batches

/-! ### The redelivery -/

section Redelivery

variable (settings : AgentSettings) (routerId : ℕ) (t₁ t₂ t₃ threshold : ℤ)

/-- The table after a poll at `t₁` whose reports are lost and a reset at `t₂`. -/
def afterReset (q : List RouterCommand) : List RouterCommand :=
  resetStaleSentCommands t₂ threshold (markCommandsSent t₁
    ((getPendingCommands settings routerId t₁ none q).map RouterCommand.id) q)

theorem of_mem_afterReset {q : List RouterCommand} {c : RouterCommand}
    (h : c ∈ afterReset settings routerId t₁ t₂ threshold q) :
    ∃ c₀ ∈ q, c₀.id = c.id ∧ c₀.action = c.action := by
  obtain ⟨c₁, hc₁, rfl⟩ := mem_updateWhere.mp h
  obtain ⟨c₀, hc₀, rfl⟩ := mem_updateWhere.mp hc₁
  refine ⟨c₀, hc₀, ?_, ?_⟩
  · split <;> split <;> rfl
  · split <;> split <;> rfl

theorem actions_eq_of_ids_eq {q batch again : List RouterCommand} (hq : Keyed RouterCommand.id q)
    (hbatch : ∀ c ∈ batch, c ∈ q)
    (hagain : ∀ c ∈ again, ∃ c₀ ∈ q, c₀.id = c.id ∧ c₀.action = c.action)
    (hids : again.map RouterCommand.id = batch.map RouterCommand.id) :
    again.map RouterCommand.action = batch.map RouterCommand.action := by
  induction batch generalizing again with
  | nil =>
      rw [List.map_nil, List.map_eq_nil_iff] at hids
      rw [hids]
  | cons c batch ih =>
      cases again with
      | nil => cases hids
      | cons d again =>
          rw [List.map_cons, List.map_cons, List.cons.injEq] at hids
          obtain ⟨c₀, hc₀, hid, hact⟩ := hagain d List.mem_cons_self
          obtain rfl := hq.eq_of_key hc₀ (hbatch c List.mem_cons_self) (hid.trans hids.1)
          rw [List.map_cons, List.map_cons, hact,
            ih (fun e he => hbatch e (List.mem_cons_of_mem _ he))
              (fun e he => hagain e (List.mem_cons_of_mem _ he)) hids.2]

/-- **When redelivery is safe**: a batch is polled and executed, its reports are lost, a reset puts
its commands back and the next poll delivers the same batch.  Its second execution leaves users,
profiles and sessions as they are if and only if no disable is lost. -/
theorem redelivery_safe_iff (importScript : String → RouterState → RouterState)
    (q : List RouterCommand) (hq : Keyed RouterCommand.id q)
    (hkinds : ∀ c ∈ getPendingCommands settings routerId t₁ none q,
      c.action.isUserCommand = true)
    (hsame : (getPendingCommands settings routerId t₃ none
      (afterReset settings routerId t₁ t₂ threshold q)).map RouterCommand.id =
        (getPendingCommands settings routerId t₁ none q).map RouterCommand.id)
    (r : RouterState) :
    SameTables
        (runBatch importScript (getPendingCommands settings routerId t₃ none
          (afterReset settings routerId t₁ t₂ threshold q))
          (runBatch importScript (getPendingCommands settings routerId t₁ none q) r))
        (runBatch importScript (getPendingCommands settings routerId t₁ none q) r) ↔
      ¬ LosesDisable (getPendingCommands settings routerId t₁ none q) r := by
  set batch := getPendingCommands settings routerId t₁ none q
  set again := getPendingCommands settings routerId t₃ none
    (afterReset settings routerId t₁ t₂ threshold q)
  have hactions : again.map RouterCommand.action = batch.map RouterCommand.action := by
    refine actions_eq_of_ids_eq hq ?_ ?_ hsame
    · intro c hc
      exact (mem_pendingFor.mp (mem_pendingFor_of_mem_getPendingCommands hc)).1
    · intro c hc
      exact of_mem_afterReset settings routerId t₁ t₂ threshold
        (mem_pendingFor.mp (mem_pendingFor_of_mem_getPendingCommands hc)).1
  have hrun : ∀ r, runBatch importScript again r = runBatch importScript batch r := by
    intro r
    have hmap : ∀ l : List RouterCommand, runBatch importScript l r =
        (l.map RouterCommand.action).foldl (fun r a => r.execute importScript a) r := by
      intro l
      rw [List.foldl_map]
      rfl
    rw [hmap, hmap, hactions]
  rw [hrun]
  refine runBatch_idem_iff ?_ r
  intro c hc url hurl
  have hkind := hkinds c hc
  rw [hurl] at hkind
  cases hkind

end Redelivery

/-- A waiting command as a test needs it. -/
def waiting (id : String) (action : Action) (priority createdAt : ℤ) : RouterCommand :=
  ⟨id, 1, action, priority, .pending, createdAt, none, none, none, none, 0, 3,
    some "subscription_sync", some "1"⟩

/-- A subscription was activated and then suspended: the poll delivers the `disable_user` first. -/
def activatedThenSuspended : List RouterCommand :=
  [waiting "a" (.createUser "alice" "pw" .hotspot "plan_1" "5M/5M") 3 0,
    waiting "b" (.disableUser "alice" .hotspot) 2 1]

/-- On a blank router the first execution leaves the user enabled, and the second one, ten minutes
later, disables it. -/
theorem redelivery_changes_user :
    ((getPendingCommands .default 1 (minutes 10) none (afterReset .default 1 0 (minutes 9) 5
        activatedThenSuspended)).map RouterCommand.id =
      (getPendingCommands .default 1 0 none activatedThenSuspended).map RouterCommand.id) ∧
    ((runBatch (fun _ r => r) (getPendingCommands .default 1 0 none activatedThenSuspended)
      .blank).lookup .hotspot "alice").map RouterUser.disabled = some false ∧
    ¬ SameTables
      (runBatch (fun _ r => r) (getPendingCommands .default 1 (minutes 10) none
        (afterReset .default 1 0 (minutes 9) 5 activatedThenSuspended))
        (runBatch (fun _ r => r) (getPendingCommands .default 1 0 none activatedThenSuspended)
          .blank))
      (runBatch (fun _ r => r) (getPendingCommands .default 1 0 none activatedThenSuspended)
        .blank) := by
  refine ⟨by decide, by decide, ?_⟩
  intro h
  exact absurd (h.users .hotspot "alice") (by decide)

/-- A `create_user` and a `disconnect` are delivered twice without harm. -/
theorem redelivery_safe_create :
    SameTables
      (runBatch (fun _ r => r) (getPendingCommands .default 1 (minutes 10) none
        (afterReset .default 1 0 (minutes 9) 5
          [waiting "a" (.createUser "alice" "pw" .hotspot "plan_1" "5M/5M") 3 0,
            waiting "b" (.disconnect "bob") 2 1]))
        (runBatch (fun _ r => r) (getPendingCommands .default 1 0 none
          [waiting "a" (.createUser "alice" "pw" .hotspot "plan_1" "5M/5M") 3 0,
            waiting "b" (.disconnect "bob") 2 1]) .blank))
      (runBatch (fun _ r => r) (getPendingCommands .default 1 0 none
        [waiting "a" (.createUser "alice" "pw" .hotspot "plan_1" "5M/5M") 3 0,
          waiting "b" (.disconnect "bob") 2 1]) .blank) :=
  (redelivery_safe_iff .default 1 0 (minutes 9) (minutes 10) 5 (fun _ r => r)
    [waiting "a" (.createUser "alice" "pw" .hotspot "plan_1" "5M/5M") 3 0,
      waiting "b" (.disconnect "bob") 2 1]
    (by decide) (by decide) (by decide) .blank).mpr (by decide)

end IspBilling
