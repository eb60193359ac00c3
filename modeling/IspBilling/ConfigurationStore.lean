import IspBilling.ProvisioningCallbacks
import IspBilling.Runs

/-! # Encrypted configuration values

`ConfigurationService` (`app/modules/system/configuration.py`) keeps a configuration value either in
the column `value` or, encrypted, in `encrypted_value` with `value` empty.

`get_all_configs` decrypts for display by assigning the plain text to the `value` of the ORM object
that it returns.  The object belongs to the session, so the assignment is pending from then on, and
the next commit, whoever makes it, writes the plain text to the table.  A session is therefore
modelled as the committed rows together with the pending assignments; `set_config` commits what it
writes at once and everything that is pending with it.

`configuration_encrypted_iff` says which runs never commit an encrypted row with a value.  Fernet is
a parameter, of which `Fernet.Correct` is assumed, and so are the values of `json.loads`. -/

namespace IspBilling

open Rows Runs

/-! ### Rows and calls -/

/-- `ConfigType`. -/
inductive ConfigType where
  | string | integer | boolean | json | encrypted
deriving DecidableEq, Repr

/-- A row of `configurations`. -/
structure Configuration where
  id : ℕ
  organizationId : Option ℕ
  key : String
  value : Option String
  encryptedValue : Option String
  configType : ConfigType
  description : Option String
  isEncrypted : Bool
  isSensitive : Bool
  category : Option String
  isActive : Bool
deriving DecidableEq, Repr

/-- The arguments of `set_config`; `text` is `json.dumps(value)` or `str(value)`, if the value has
one.  The environment chooses the id of a new row and the randomness of the cipher. -/
structure SetConfig where
  key : String
  text : Option String
  configType : ConfigType
  description : Option String
  isEncrypted : Bool
  isSensitive : Bool
  category : Option String
  organizationId : Option ℕ
  newId : ℕ
  nonce : ℕ
deriving DecidableEq, Repr

inductive ConfigCall where
  | setConfig (c : SetConfig)
  | getConfig (key : String) (organizationId : Option ℕ)
  | getAllConfigs (category : Option String) (organizationId : Option ℕ)
  | commit
  | rollback
deriving DecidableEq, Repr

/-- The cipher, under the key of the service. -/
structure Fernet where
  encrypt : ℕ → String → String
  decrypt : String → Option String

/-- Decryption inverts encryption, and a token is never empty. -/
def Fernet.Correct (f : Fernet) : Prop :=
  ∀ nonce text, f.decrypt (f.encrypt nonce text) = some text ∧ f.encrypt nonce text ≠ ""

/-- What `get_config` returns; `default` when there is no row, `failed` when it raises. -/
inductive ConfigAnswer (J : Type) where
  | default
  | null
  | text (s : String)
  | integer (n : ℤ)
  | boolean (b : Bool)
  | json (j : J)
  | failed
deriving DecidableEq, Repr

/-- `_convert_value`. -/
def convertValue {J : Type} (loads : String → Option J) (type : ConfigType) (value : String) :
    ConfigAnswer J :=
  match type with
  | .string => .text value
  | .integer =>
      match parseInt value with
      | some n => .integer n
      | none => .failed
  | .boolean =>
      .boolean (decide (String.ofList (value.toList.map Char.toLower) ∈ ["true", "1", "yes", "on"]))
  | .json =>
      match loads value with
      | some j => .json j
      | none => .failed
  | .encrypted => .text value

/-- `encrypted_value`, when it counts: the row is encrypted and the column is not empty. -/
def Configuration.secret (r : Configuration) : Option String :=
  if r.isEncrypted then given r.encryptedValue else none

theorem Configuration.isEncrypted_of_secret {r : Configuration} {secret : String}
    (h : r.secret = some secret) : r.isEncrypted = true := by
  unfold Configuration.secret at h
  split at h
  · assumption
  · cases h

/-- `_decrypt_value`; without a key, and for a text that is no token, it raises. -/
def decryptValue (fernet : Option Fernet) (secret : String) : Option String :=
  fernet.bind (fun f => f.decrypt secret)

namespace SetConfig

/-- The columns `value` and `encrypted_value` that `set_config` writes; encrypting may raise. -/
def stored (fernet : Option Fernet) (c : SetConfig) : Option (Option String × Option String) :=
  c.text.bind fun text =>
    if c.isEncrypted then fernet.map (fun f => (none, some (f.encrypt c.nonce text)))
    else some (some text, none)

/-- An existing row after `set_config`. -/
def overwrite (c : SetConfig) (stored : Option String × Option String) (r : Configuration) :
    Configuration :=
  { r with
    value := stored.1
    encryptedValue := stored.2
    configType := c.configType
    description := (given c.description).or r.description
    isEncrypted := c.isEncrypted
    isSensitive := c.isSensitive
    category := (given c.category).or r.category
    isActive := true }

/-- The new row of `set_config`. -/
def create (c : SetConfig) (stored : Option String × Option String) : Configuration where
  id := c.newId
  organizationId := c.organizationId
  key := c.key
  value := stored.1
  encryptedValue := stored.2
  configType := c.configType
  description := c.description
  isEncrypted := c.isEncrypted
  isSensitive := c.isSensitive
  category := c.category
  isActive := true

end SetConfig

/-! ### The session -/

/-- The committed rows, and the texts that have been assigned to the `value` of a row and not been
committed; the latest comes first. -/
structure ConfigSession where
  rows : Table Configuration.id
  pending : List (ℕ × String)

namespace ConfigSession

/-- The value of a row as the session has it. -/
def valueOf (s : ConfigSession) (r : Configuration) : Option String :=
  match s.pending.find? (fun x => decide (x.1 = r.id)) with
  | some x => some x.2
  | none => r.value

def seen (s : ConfigSession) (r : Configuration) : Configuration := { r with value := s.valueOf r }

/-- The rows as the session has them. -/
def view (s : ConfigSession) : Table Configuration.id := s.rows.map s.seen (fun _ => rfl)

/-- `commit`. -/
def commit (s : ConfigSession) : ConfigSession := ⟨s.view, []⟩

/-- `rollback`. -/
def rollback (s : ConfigSession) : ConfigSession := ⟨s.rows, []⟩

variable (fernet : Option Fernet)

/-- The rows that `get_all_configs` returns. -/
def shownRows (s : ConfigSession) (category : Option String) (organizationId : Option ℕ) :
    List Configuration :=
  s.view.rows.filter fun r => decide (r.isActive = true ∧ r.organizationId = organizationId ∧
    ∀ c, given category = some c → r.category = some c)

/-- `get_all_configs`. -/
def getAllConfigs (s : ConfigSession) (category : Option String) (organizationId : Option ℕ) :
    ConfigSession :=
  { s with
    pending := (s.shownRows category organizationId).filterMap (fun r =>
      r.secret.map fun secret =>
        (r.id, (decryptValue fernet secret).getD "[ENCRYPTED]")) ++ s.pending }

/-- `get_config`. -/
def getConfig {J : Type} (loads : String → Option J) (s : ConfigSession) (key : String)
    (organizationId : Option ℕ) : ConfigAnswer J :=
  match oneOrNone (s.view.rows.filter fun r =>
      decide (r.key = key ∧ r.isActive = true ∧ r.organizationId = organizationId)) with
  | none => .failed
  | some none => .default
  | some (some r) =>
      match r.secret with
      | some secret =>
          match decryptValue fernet secret with
          | some text => convertValue loads r.configType text
          | none => .failed
      | none =>
          match r.value with
          | some text => convertValue loads r.configType text
          | none => .null

/-- The row that `set_config` looks for, when there is at most one. -/
def target (s : ConfigSession) (c : SetConfig) : Option (Option Configuration) :=
  oneOrNone (s.view.rows.filter fun r =>
    decide (r.key = c.key ∧ r.organizationId = c.organizationId))

/-- The rows that `set_config` commits, if it gets there. -/
def written (s : ConfigSession) (c : SetConfig) : Option (Table Configuration.id) :=
  if c.key = "" then none
  else
    (c.stored fernet).bind fun stored =>
      match s.target c with
      | none => none
      | some (some r) => some (s.view.update r.id (c.overwrite stored) (fun _ => rfl))
      | some none =>
          if c.newId ∈ s.view.rows.map Configuration.id then none
          else some (s.view.insert (c.create stored))

/-- `set_config`: an error rolls the session back. -/
def setConfig (s : ConfigSession) (c : SetConfig) : ConfigSession :=
  match s.written fernet c with
  | some rows => ⟨rows, []⟩
  | none => s.rollback

def step (s : ConfigSession) : ConfigCall → ConfigSession
  | .setConfig c => s.setConfig fernet c
  | .getConfig _ _ => s
  | .getAllConfigs category organizationId => s.getAllConfigs fernet category organizationId
  | .commit => s.commit
  | .rollback => s.rollback

/-! ### No plain text in an encrypted row -/

/-- No committed row that is encrypted has a value. -/
def NoClear (s : ConfigSession) : Prop :=
  ∀ r ∈ s.rows.rows, r.isEncrypted = true → r.value = none

/-- Only encrypted rows have pending assignments. -/
def PendingEncrypted (s : ConfigSession) : Prop :=
  ∀ x ∈ s.pending, ∃ r ∈ s.rows.rows, r.id = x.1 ∧ r.isEncrypted = true

/-- A commit finds nothing pending; that of `set_config`, nothing for a row other than its own. -/
def CommitsClean (s : ConfigSession) : ConfigCall → Prop
  | .setConfig c => s.written fernet c ≠ none →
      ∀ x ∈ s.pending, ∃ r, s.target c = some (some r) ∧ r.id = x.1
  | .commit => s.pending = []
  | _ => True

variable {fernet}

theorem mem_view {s : ConfigSession} {r : Configuration} :
    r ∈ s.view.rows ↔ ∃ r₀ ∈ s.rows.rows, s.seen r₀ = r := List.mem_map

theorem valueOf_eq_none_iff {s : ConfigSession} {r : Configuration} :
    s.valueOf r = none ↔ (∀ x ∈ s.pending, x.1 ≠ r.id) ∧ r.value = none := by
  unfold valueOf
  cases hx : s.pending.find? (fun x => decide (x.1 = r.id)) with
  | none =>
      have hnot : ∀ x ∈ s.pending, x.1 ≠ r.id := by simpa using List.find?_eq_none.mp hx
      simpa using fun _ => hnot
  | some x =>
      have hmem := List.mem_of_find?_eq_some hx
      have hid : x.1 = r.id := by simpa using List.find?_some hx
      simp only [reduceCtorEq, false_iff, not_and]
      intro hall
      exact absurd hid (hall x hmem)

theorem view_clear_iff {s : ConfigSession} (hclear : s.NoClear) (hpending : s.PendingEncrypted)
    (P : ℕ → Prop) :
    (∀ r ∈ s.view.rows, P r.id → r.isEncrypted = true → r.value = none) ↔
      ∀ x ∈ s.pending, ¬ P x.1 := by
  constructor
  · intro h x hx hP
    obtain ⟨r, hr, hid, henc⟩ := hpending x hx
    have hnone := h (s.seen r) (mem_view.mpr ⟨r, hr, rfl⟩) (hid ▸ hP) henc
    exact (valueOf_eq_none_iff.mp hnone).1 x hx hid.symm
  · intro h r hr hP henc
    obtain ⟨r₀, hr₀, rfl⟩ := mem_view.mp hr
    refine valueOf_eq_none_iff.mpr ⟨?_, hclear r₀ hr₀ henc⟩
    intro x hx hid
    exact h x hx (hid ▸ hP)

/-- What `set_config` can do. -/
theorem written_cases {s : ConfigSession} {c : SetConfig} {rows : Table Configuration.id}
    (h : s.written fernet c = some rows) :
    ∃ stored, c.stored fernet = some stored ∧
      ((∃ r, s.target c = some (some r) ∧
          rows = s.view.update r.id (c.overwrite stored) (fun _ => rfl)) ∨
        s.target c = some none ∧ rows.rows = s.view.rows ++ [c.create stored]) := by
  unfold written at h
  split at h
  · cases h
  · obtain ⟨stored, hstored, h⟩ := Option.bind_eq_some_iff.mp h
    refine ⟨stored, hstored, ?_⟩
    split at h
    · cases h
    · next r ht => exact Or.inl ⟨r, ht, (Option.some.inj h).symm⟩
    · next ht =>
        split at h
        · cases h
        · next hnew =>
            rw [← Option.some.inj h]
            exact Or.inr ⟨ht, Table.rows_insert hnew⟩

/-- What `set_config` stores itself is never plain text in an encrypted row. -/
theorem value_stored {c : SetConfig} {stored : Option String × Option String}
    (h : c.stored fernet = some stored) (henc : c.isEncrypted = true) : stored.1 = none := by
  obtain ⟨text, -, h⟩ := Option.bind_eq_some_iff.mp h
  rw [if_pos henc] at h
  obtain ⟨f, -, rfl⟩ := Option.map_eq_some_iff.mp h
  rfl

theorem noClear_written_iff {s : ConfigSession} (hclear : s.NoClear)
    (hpending : s.PendingEncrypted) {c : SetConfig} {rows : Table Configuration.id}
    (h : s.written fernet c = some rows) :
    (⟨rows, []⟩ : ConfigSession).NoClear ↔
      ∀ x ∈ s.pending, ∃ r, s.target c = some (some r) ∧ r.id = x.1 := by
  obtain ⟨stored, hstored, ⟨r, ht, rfl⟩ | ⟨ht, hrows⟩⟩ := written_cases h
  · have hother : (⟨s.view.update r.id (c.overwrite stored) (fun _ => rfl), []⟩ :
          ConfigSession).NoClear ↔
        ∀ r' ∈ s.view.rows, r'.id ≠ r.id → r'.isEncrypted = true → r'.value = none := by
      constructor
      · intro hall r' hr' hne henc
        exact hall r' (mem_updateWhere.mpr ⟨r', hr', by simp [hne]⟩) henc
      · intro hall r' hr' henc
        obtain ⟨r₀, hr₀, rfl⟩ := mem_updateWhere.mp hr'
        by_cases hid : r₀.id = r.id
        · simp only [hid, decide_true, ite_true] at henc ⊢
          exact value_stored hstored henc
        · simp only [hid, decide_false, Bool.false_eq_true, ite_false] at henc ⊢
          exact hall r₀ hr₀ hid henc
    rw [hother, view_clear_iff hclear hpending (fun i => i ≠ r.id)]
    simp [ht, eq_comm]
  · have hother : (⟨rows, []⟩ : ConfigSession).NoClear ↔
        ∀ r' ∈ s.view.rows, True → r'.isEncrypted = true → r'.value = none := by
      have hnew : (c.create stored).isEncrypted = true → (c.create stored).value = none :=
        value_stored hstored
      simp only [NoClear, hrows, List.forall_mem_append, List.forall_mem_singleton, true_imp_iff]
      exact and_iff_left hnew
    rw [hother, view_clear_iff hclear hpending (fun _ => True)]
    simp [ht]

theorem noClear_commit_iff {s : ConfigSession} (hclear : s.NoClear)
    (hpending : s.PendingEncrypted) : s.commit.NoClear ↔ s.pending = [] := by
  have h := view_clear_iff hclear hpending (fun _ => True)
  simp only [true_imp_iff, not_true_eq_false] at h
  rw [List.eq_nil_iff_forall_not_mem]
  exact h

theorem PendingEncrypted.step {s : ConfigSession} (h : s.PendingEncrypted) (e : ConfigCall) :
    (s.step fernet e).PendingEncrypted := by
  cases e with
  | setConfig c =>
      simp only [ConfigSession.step, setConfig]
      split
      · simp [PendingEncrypted]
      · simp [PendingEncrypted, rollback]
  | getConfig key organizationId => exact h
  | getAllConfigs category organizationId =>
      intro x hx
      rcases List.mem_append.mp hx with hx | hx
      · obtain ⟨r, hr, hsecret⟩ := List.mem_filterMap.mp hx
        obtain ⟨secret, hsome, rfl⟩ := Option.map_eq_some_iff.mp hsecret
        obtain ⟨r₀, hr₀, rfl⟩ := mem_view.mp (List.mem_of_mem_filter hr)
        exact ⟨r₀, hr₀, rfl, Configuration.isEncrypted_of_secret (r := s.seen r₀) hsome⟩
      · exact h x hx
  | commit => simp [PendingEncrypted, ConfigSession.step, commit]
  | rollback => simp [PendingEncrypted, ConfigSession.step, rollback]

/-- One call keeps encrypted rows clear exactly if it commits clean. -/
theorem noClear_step_iff {s : ConfigSession} (hpending : s.PendingEncrypted) (hclear : s.NoClear)
    (e : ConfigCall) : (s.step fernet e).NoClear ↔ s.CommitsClean fernet e := by
  cases e with
  | setConfig c =>
      simp only [step, setConfig, CommitsClean]
      cases hw : s.written fernet c with
      | none => exact iff_of_true hclear (by simp)
      | some rows => simpa using noClear_written_iff hclear hpending hw
  | getConfig key organizationId => exact iff_of_true hclear trivial
  | getAllConfigs category organizationId => exact iff_of_true hclear trivial
  | commit => exact noClear_commit_iff hclear hpending
  | rollback => exact iff_of_true hclear trivial

/-! ### The text last set -/

/-- The row of a key is an encrypted one that decrypts to `text`. -/
def Keeps (fernet : Option Fernet) (s : ConfigSession) (key : String) (organizationId : Option ℕ)
    (type : ConfigType) (text : String) : Prop :=
  ∃ r, s.rows.rows.filter (fun r => decide (r.key = key ∧ r.organizationId = organizationId)) = [r] ∧
    r.isActive = true ∧ r.configType = type ∧
    ∃ secret, r.secret = some secret ∧ decryptValue fernet secret = some text

/-- A call that stores a text for the key. -/
def Sets (fernet : Option Fernet) (key : String) (organizationId : Option ℕ) (s : ConfigSession)
    (e : ConfigCall) : Prop :=
  ∃ c, e = .setConfig c ∧ s.written fernet c ≠ none ∧ c.key = key ∧
    c.organizationId = organizationId

/-- Whenever an encrypted text has been set, `get_config` returns it, converted to the type it was
set with, until another one is set for the same key. -/
def LastSetReturned {J : Type} (fernet : Option Fernet) (loads : String → Option J)
    (s : ConfigSession) (es : List ConfigCall) : Prop :=
  ∀ before c text after, es = before ++ .setConfig c :: after → c.isEncrypted = true →
    c.text = some text → (exec (step fernet) s before).written fernet c ≠ none →
    Along (step fernet) (fun s e => ¬ Sets fernet c.key c.organizationId s e)
      (exec (step fernet) s (before ++ [.setConfig c])) after →
    (exec (step fernet) s es).getConfig fernet loads c.key c.organizationId =
      convertValue loads c.configType text

variable {key : String} {organizationId : Option ℕ} {type : ConfigType} {text : String}

theorem filter_view (s : ConfigSession) (key : String) (organizationId : Option ℕ) :
    s.view.rows.filter (fun r => decide (r.key = key ∧ r.organizationId = organizationId)) =
      (s.rows.rows.filter
        (fun r => decide (r.key = key ∧ r.organizationId = organizationId))).map s.seen := by
  exact List.filter_map

theorem Keeps.getConfig {J : Type} {loads : String → Option J} {s : ConfigSession}
    (h : Keeps fernet s key organizationId type text) :
    s.getConfig fernet loads key organizationId = convertValue loads type text := by
  obtain ⟨r, hrow, hactive, rfl, secret, hsecret, hdec⟩ := h
  have hview : s.view.rows.filter (fun r => decide (r.key = key ∧ r.isActive = true ∧
      r.organizationId = organizationId)) = [s.seen r] := by
    have hboth := filter_view s key organizationId
    rw [hrow, List.map_singleton] at hboth
    have hactive' : (s.seen r).isActive = true := hactive
    calc s.view.rows.filter (fun r => decide (r.key = key ∧ r.isActive = true ∧
          r.organizationId = organizationId))
        = (s.view.rows.filter (fun r => decide (r.key = key ∧
            r.organizationId = organizationId))).filter Configuration.isActive := by
          rw [List.filter_filter]
          congr 1
          funext r
          cases r.isActive <;> simp
      _ = [s.seen r] := by
          rw [hboth]
          simp [hactive']
  have hsecret' : (s.seen r).secret = some secret := hsecret
  unfold ConfigSession.getConfig
  rw [hview]
  simp only [oneOrNone, hsecret', hdec]
  rfl

theorem Keeps.commit {s : ConfigSession} (h : Keeps fernet s key organizationId type text) :
    Keeps fernet s.commit key organizationId type text := by
  obtain ⟨r, hrow, hrest⟩ := h
  refine ⟨s.seen r, ?_, hrest⟩
  change s.view.rows.filter _ = _
  rw [filter_view, hrow, List.map_singleton]

theorem filter_overwrite (t : Table Configuration.id) (i : ℕ) (c : SetConfig)
    (stored : Option String × Option String) (key : String) (organizationId : Option ℕ) :
    (t.update i (c.overwrite stored) (fun _ => rfl)).rows.filter
        (fun r => decide (r.key = key ∧ r.organizationId = organizationId)) =
      updateWhere (fun r => decide (r.id = i)) (c.overwrite stored)
        (t.rows.filter (fun r => decide (r.key = key ∧ r.organizationId = organizationId))) :=
  filter_updateWhere (f := c.overwrite stored) (fun _ => rfl) t.rows

theorem keeps_of_written {s : ConfigSession} {c : SetConfig} {rows : Table Configuration.id}
    (hf : ∀ f ∈ fernet, f.Correct) (hw : s.written fernet c = some rows)
    (henc : c.isEncrypted = true) (htext : c.text = some text) :
    Keeps fernet ⟨rows, []⟩ c.key c.organizationId c.configType text := by
  obtain ⟨stored, hstored, hcase⟩ := written_cases hw
  obtain ⟨f, hfernet, rfl⟩ : ∃ f, fernet = some f ∧
      stored = (none, some (f.encrypt c.nonce text)) := by
    simpa [SetConfig.stored, htext, henc, eq_comm] using hstored
  obtain ⟨hdec, hne⟩ := hf f hfernet c.nonce text
  have hgiven : given (some (f.encrypt c.nonce text)) = some (f.encrypt c.nonce text) := by
    simp [given, Option.filter, hne]
  have hdec' : decryptValue fernet (f.encrypt c.nonce text) = some text := by
    simp [decryptValue, hfernet, hdec]
  rcases hcase with ⟨r, ht, rfl⟩ | ⟨ht, hrows⟩
  · refine ⟨c.overwrite (none, some (f.encrypt c.nonce text)) r, ?_, rfl, rfl,
      f.encrypt c.nonce text, ?_, hdec'⟩
    · rw [filter_overwrite, oneOrNone_eq_some_some.mp ht]
      simp [updateWhere]
    · simp [Configuration.secret, SetConfig.overwrite, henc, hgiven]
  · refine ⟨c.create (none, some (f.encrypt c.nonce text)), ?_, rfl, rfl,
      f.encrypt c.nonce text, ?_, hdec'⟩
    · change rows.rows.filter _ = _
      rw [hrows, List.filter_append, oneOrNone_eq_some_none.mp ht]
      simp [SetConfig.create]
    · simp [Configuration.secret, SetConfig.create, henc, hgiven]

theorem Keeps.step {s : ConfigSession} (h : Keeps fernet s key organizationId type text)
    {e : ConfigCall} (he : ¬ Sets fernet key organizationId s e) :
    Keeps fernet (s.step fernet e) key organizationId type text := by
  cases e with
  | setConfig c =>
      simp only [ConfigSession.step, setConfig]
      cases hw : s.written fernet c with
      | none => exact h
      | some rows =>
          have hother : ¬ (c.key = key ∧ c.organizationId = organizationId) :=
            fun hk => he ⟨c, rfl, by simp [hw], hk.1, hk.2⟩
          obtain ⟨r, hrow, hrest⟩ := h.commit
          refine ⟨r, ?_, hrest⟩
          change s.view.rows.filter _ = _ at hrow
          obtain ⟨stored, -, ⟨r', ht, rfl⟩ | ⟨-, hrows⟩⟩ := written_cases hw
          · have hmem := List.mem_filter.mp (hrow ▸ List.mem_singleton_self r)
            have hmem' := List.mem_filter.mp (mem_of_oneOrNone ht)
            have hid : r.id ≠ r'.id := by
              intro hid
              obtain rfl := s.view.keyed.eq_of_key hmem.1 hmem'.1 hid
              have hk : r.key = key ∧ r.organizationId = organizationId := by simpa using hmem.2
              have hk' : r.key = c.key ∧ r.organizationId = c.organizationId := by
                simpa using hmem'.2
              exact hother ⟨hk'.1.symm.trans hk.1, hk'.2.symm.trans hk.2⟩
            rw [filter_overwrite, hrow]
            simp [updateWhere, hid]
          · change rows.rows.filter _ = _
            rw [hrows, List.filter_append, hrow]
            simp [SetConfig.create, hother]
  | getConfig key' organizationId' => exact h
  | getAllConfigs category organizationId' => exact h
  | commit => exact h.commit
  | rollback => exact h

/-- `get_config` always returns the text last set: it reads the secret, whatever is in `value`. -/
theorem lastSetReturned {J : Type} (loads : String → Option J) (hf : ∀ f ∈ fernet, f.Correct)
    (s : ConfigSession) (es : List ConfigCall) : LastSetReturned fernet loads s es := by
  rintro before c text after rfl henc htext hw hafter
  rw [show before ++ ConfigCall.setConfig c :: after = (before ++ [.setConfig c]) ++ after by simp,
    exec_append]
  obtain ⟨rows, hrows⟩ := Option.ne_none_iff_exists'.mp hw
  have hset : Keeps fernet (exec (step fernet) s (before ++ [.setConfig c])) c.key c.organizationId
      c.configType text := by
    rw [exec_append]
    simp only [exec_cons, exec_nil, ConfigSession.step, setConfig, hrows]
    exact keeps_of_written hf hrows henc htext
  exact Keeps.getConfig (exec_of_along
    (I := fun s => Keeps fernet s c.key c.organizationId c.configType text)
    (fun _ _ hkeeps he => Keeps.step hkeeps he) hset hafter)

/-- **No encrypted value is committed in clear, exactly in the runs in which no commit finds a
decrypted value of `get_all_configs` pending**; `get_config` returns the text last set in all
runs. -/
theorem configuration_encrypted_iff {J : Type} (loads : String → Option J)
    (hf : ∀ f ∈ fernet, f.Correct) {s : ConfigSession} (hs : s.pending = []) (hclear : s.NoClear)
    (es : List ConfigCall) :
    (Always (step fernet) NoClear s es ∧ LastSetReturned fernet loads s es) ↔
      Along (step fernet) (CommitsClean fernet) s es := by
  rw [and_iff_left (lastSetReturned loads hf s es)]
  refine always_iff_along (J := PendingEncrypted) (fun _ e h => h.step e)
    (fun _ e hpending hclear => noClear_step_iff hpending hclear e) ?_ hclear
  simp [PendingEncrypted, hs]

/-- A stand-in for the cipher: a token is the text behind a mark. -/
def markCipher : Fernet where
  encrypt _ text := "gAAAA" ++ text
  decrypt token :=
    if token.toList.take 5 = "gAAAA".toList then some (String.ofList (token.toList.drop 5)) else none

theorem markCipher_correct : markCipher.Correct := by
  intro nonce text
  simp [markCipher]

def noConfiguration : ConfigSession := ⟨⟨[], by decide⟩, []⟩

def setSecret : SetConfig where
  key := "mpesa_consumer_secret"
  text := some "s3cret"
  configType := .encrypted
  description := none
  isEncrypted := true
  isSensitive := true
  category := some "payment"
  organizationId := none
  newId := 1
  nonce := 0

/-- A secret is set, listed and rolled back, then read. -/
theorem configuration_encrypted_rolledBack :
    Always (step (some markCipher)) NoClear noConfiguration
        [.setConfig setSecret, .getAllConfigs none none, .rollback, .commit] ∧
      LastSetReturned (some markCipher) (fun _ => (none : Option Unit)) noConfiguration
        [.setConfig setSecret, .getAllConfigs none none, .rollback, .commit] :=
  (configuration_encrypted_iff _ (by simp [markCipher_correct]) rfl
    (by simp [NoClear, noConfiguration]) _).mpr (by
      refine ⟨?_, trivial, trivial, rfl, trivial⟩
      intro _ x hx
      cases hx)

/-- A secret is set and listed, and another key is set: the plain text is in the table. -/
theorem configuration_leaked :
    ¬ Always (step (some markCipher)) NoClear noConfiguration
        [.setConfig setSecret, .getAllConfigs none none,
          .setConfig { setSecret with
            key := "mpesa_shortcode"
            isEncrypted := false
            newId := 2 }] := by
  intro h
  have hlast := h.2.2.2
  exact absurd (hlast ⟨1, none, "mpesa_consumer_secret", some "s3cret", some "gAAAAs3cret",
    .encrypted, none, true, true, some "payment", true⟩ (by decide) rfl) (by decide)

end ConfigSession

end IspBilling
