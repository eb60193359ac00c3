import IspBilling.Fulfilment
import IspBilling.Numeral

/-! # The hotspot usernames of an organization

`generate_hotspot_credentials` (`app/utils/hotspot_username.py`) makes a username of the prefix
and the counter in `organization_settings` and raises the counter; the prefix is changed by
`update_username_prefix` and by `update_hotspot_settings` (`app/api/v1/tenant/settings.py`).
Each of these reads the row, without a lock, and commits later, writing only the columns that it
has changed.

`UsernameSettings` is the committed row with the calls under way; `issued` records the prefix and
the counter of every generated username.  The username repeats if a call commits a counter that
another call has used since, or if prefix and digits run together: the prefix "C1" with the
counter 001 and the prefix "C" with the counter 1001 both give C1001.  `Careful` excludes both,
and `usernames_unique` is the statement about runs. -/

namespace IspBilling

open Runs Numeral

/-! ### Words and numbers -/

theorem toList_zeroPad (w n : ℕ) : (zeroPad w n).toList = padded w n := by
  have hlen : (toString n).length = (Nat.toDigits 10 n).length := by
    rw [← String.length_toList, Nat.toString_eq_repr, Nat.toList_repr]
  rw [zeroPad, hlen, String.toList_append, String.toList_ofList, Nat.toString_eq_repr,
    Nat.toList_repr]
  rfl

/-- The widths of the source pad numbers below 1000 only. -/
theorem toList_hotspotUsername (usernamePrefix : String) (counter : ℕ) :
    (hotspotUsername usernamePrefix counter).toList = usernamePrefix.toList ++ padded 3 counter := by
  have hlen : ∀ k, 0 < k → 10 ^ k ≤ counter → k < (Nat.toDigits 10 counter).length := by
    intro k hk hle
    by_contra hnot
    have hlt := (Nat.length_toDigits_le_iff (by decide) hk).mp (Nat.le_of_not_lt hnot)
    omega
  unfold hotspotUsername
  rw [String.toList_append]
  congr 1
  split
  · exact toList_zeroPad 3 counter
  · rename_i h3
    have h3' := hlen 3 (by decide) (by omega)
    split
    · rw [toList_zeroPad, padded_of_le_length h3', padded_of_le_length h3'.le]
    · rename_i h4
      have h4' := hlen 4 (by decide) (by omega)
      rw [toList_zeroPad, padded_of_le_length h4', padded_of_le_length h3'.le]

/-- The word `q` is the word `p` followed by a numeral. -/
def RunsInto (q p : String) : Prop :=
  p.toList <+: q.toList ∧ IsNumeral (q.toList.drop p.toList.length)

instance (q p : String) : Decidable (RunsInto q p) :=
  inferInstanceAs (Decidable (p.toList <+: q.toList ∧ IsNumeral (q.toList.drop p.toList.length)))

/-- **Collision**: two usernames with different counters are equal only if the prefix of the
smaller counter is the other prefix followed by a numeral. -/
theorem runsInto_of_hotspotUsername_eq {q p : String} {m n : ℕ} (hmn : m < n)
    (h : hotspotUsername q m = hotspotUsername p n) : RunsInto q p := by
  have hlist := congrArg String.toList h
  rw [toList_hotspotUsername, toList_hotspotUsername] at hlist
  obtain ⟨d, hd, hq⟩ := append_padded_eq hmn hlist
  refine ⟨⟨d, hq.symm⟩, ?_⟩
  rw [hq, List.drop_left]
  exact hd

/-! ### The settings row and its calls -/

/-- The requests that use the settings row. -/
inductive SettingsRequest where
  /-- `generate_hotspot_credentials`. -/
  | generate
  /-- `update_username_prefix`. -/
  | updateUsernamePrefix (newPrefix : String)
  /-- `update_hotspot_settings`, with or without a prefix. -/
  | updateHotspotSettings (usernamePrefix : Option String)
deriving DecidableEq, Repr

/-- A request that has read the row. -/
structure SettingsCall where
  request : SettingsRequest
  loaded : Option OrganizationSettings
  finished : Bool
deriving DecidableEq, Repr

/-- The settings row of an organization, the calls on it, and the prefix and counter of every
username generated so far. -/
structure UsernameSettings where
  organizationId : ℕ
  row : Option OrganizationSettings
  calls : List SettingsCall
  issued : List (String × ℕ)
deriving DecidableEq, Repr

namespace UsernameSettings

def usernames (s : UsernameSettings) : List String :=
  s.issued.map (fun x => hotspotUsername x.1 x.2)

/-- The moves: a request reads the row, and a call commits. -/
inductive Event where
  | read (request : SettingsRequest)
  | commit (i : ℕ)
deriving DecidableEq, Repr

/-- The commit of `generate_hotspot_credentials`.  A second default row violates the unique key,
and the call ends without a username. -/
def commitGenerate (s : UsernameSettings) (loaded : Option OrganizationSettings) :
    UsernameSettings :=
  let settings := loaded.getD (.initial s.organizationId)
  if loaded = none ∧ s.row ≠ none then s
  else
    { s with
      row := some { s.row.getD settings with
        hotspotUsernameCounter := settings.hotspotUsernameCounter + 1 }
      issued := s.issued ++ [(settings.hotspotUsernamePrefix, settings.hotspotUsernameCounter)] }

/-- The commit of a new prefix by a call that has loaded a row: an unchanged column is not
written, and the column holds ten characters. -/
def commitPrefix (s : UsernameSettings) (loaded : OrganizationSettings) (newPrefix : String) :
    UsernameSettings :=
  if loaded.hotspotUsernamePrefix = newPrefix ∨ 10 < newPrefix.length then s
  else { s with row := s.row.map (fun row => { row with hotspotUsernamePrefix := newPrefix }) }

/-- The commit of `update_hotspot_settings` when there was no row: the row is created, unless
there is one by now or the prefix is refused. -/
def commitDefaults (s : UsernameSettings) (usernamePrefix : Option String) : UsernameSettings :=
  if s.row ≠ none ∨ ∃ p ∈ usernamePrefix, p.length = 0 ∨ 10 < p.length then s
  else
    { s with row := some { OrganizationSettings.initial s.organizationId with
      hotspotUsernamePrefix := usernamePrefix.getD "C" } }

def commit (s : UsernameSettings) (call : SettingsCall) : UsernameSettings :=
  match call.request, call.loaded with
  | .generate, loaded => s.commitGenerate loaded
  | .updateUsernamePrefix _, none => s
  | .updateUsernamePrefix newPrefix, some loaded => s.commitPrefix loaded newPrefix
  | .updateHotspotSettings usernamePrefix, none => s.commitDefaults usernamePrefix
  | .updateHotspotSettings none, some _ => s
  | .updateHotspotSettings (some newPrefix), some loaded =>
      if newPrefix.length = 0 then s else s.commitPrefix loaded newPrefix

def step (s : UsernameSettings) : Event → UsernameSettings
  | .read request => { s with calls := s.calls ++ [⟨request, s.row, false⟩] }
  | .commit i =>
      match s.calls[i]? with
      | some call =>
          if call.finished = true then s
          else { s with calls := s.calls.set i { call with finished := true } }.commit call
      | none => s

def Unique (s : UsernameSettings) : Prop := s.usernames.Nodup

instance : DecidablePred Unique := fun s => inferInstanceAs (Decidable s.usernames.Nodup)

/-- A prefix that is stored while the usernames of `issued` exist does not run into theirs. -/
def Apart (s : UsernameSettings) (newPrefix : String) : Prop :=
  ∀ x ∈ s.issued, ¬ RunsInto x.1 newPrefix

instance (s : UsernameSettings) (newPrefix : String) : Decidable (s.Apart newPrefix) :=
  inferInstanceAs (Decidable (∀ x ∈ s.issued, ¬ RunsInto x.1 newPrefix))

/-- The checks that a commit lacks: the counter is still the one that the call has read, and
neither its prefix nor a new one is related to another by trailing digits. -/
def CarefulCommit (s : UsernameSettings) (loaded : Option OrganizationSettings) :
    SettingsRequest → Prop
  | .generate => ∀ l ∈ loaded, ∀ row ∈ s.row,
      row.hotspotUsernameCounter = l.hotspotUsernameCounter ∧
        ¬ RunsInto l.hotspotUsernamePrefix row.hotspotUsernamePrefix
  | .updateUsernamePrefix newPrefix =>
      ∀ l ∈ loaded, l.hotspotUsernamePrefix ≠ newPrefix → s.Apart newPrefix
  | .updateHotspotSettings usernamePrefix => ∀ newPrefix ∈ usernamePrefix,
      ∀ l ∈ loaded, l.hotspotUsernamePrefix ≠ newPrefix → s.Apart newPrefix

instance (s : UsernameSettings) (loaded : Option OrganizationSettings) (r : SettingsRequest) :
    Decidable (s.CarefulCommit loaded r) :=
  match r with
  | .generate => inferInstanceAs (Decidable (∀ l ∈ loaded, ∀ row ∈ s.row,
      row.hotspotUsernameCounter = l.hotspotUsernameCounter ∧
        ¬ RunsInto l.hotspotUsernamePrefix row.hotspotUsernamePrefix))
  | .updateUsernamePrefix newPrefix => inferInstanceAs (Decidable
      (∀ l ∈ loaded, l.hotspotUsernamePrefix ≠ newPrefix → s.Apart newPrefix))
  | .updateHotspotSettings usernamePrefix => inferInstanceAs (Decidable
      (∀ newPrefix ∈ usernamePrefix, ∀ l ∈ loaded, l.hotspotUsernamePrefix ≠ newPrefix →
        s.Apart newPrefix))

/-- Every commit of a call is careful. -/
def Careful (s : UsernameSettings) : Event → Prop
  | .read _ => True
  | .commit i => ∀ call ∈ s.calls[i]?, call.finished = false →
      s.CarefulCommit call.loaded call.request

instance (s : UsernameSettings) (e : Event) : Decidable (s.Careful e) :=
  match e with
  | .read _ => isTrue trivial
  | .commit i => inferInstanceAs (Decidable (∀ call ∈ s.calls[i]?, call.finished = false →
      s.CarefulCommit call.loaded call.request))

def idle (organizationId : ℕ) (row : Option OrganizationSettings) : UsernameSettings :=
  ⟨organizationId, row, [], []⟩

/-! ### Careful runs -/

/-- What a call has read is not ahead of the row, and while its counter is current, its prefix
runs into no issued one. -/
def Behind (s : UsernameSettings) (loaded : OrganizationSettings) : Prop :=
  ∃ row, s.row = some row ∧ loaded.hotspotUsernameCounter ≤ row.hotspotUsernameCounter ∧
    (loaded.hotspotUsernameCounter = row.hotspotUsernameCounter →
      s.Apart loaded.hotspotUsernamePrefix)

/-- What careful calls keep. -/
structure Inv (s : UsernameSettings) : Prop where
  fresh : s.row = none → s.issued = []
  below : ∀ row, s.row = some row → ∀ x ∈ s.issued, x.2 < row.hotspotUsernameCounter
  apart : ∀ row, s.row = some row → s.Apart row.hotspotUsernamePrefix
  behind : ∀ call ∈ s.calls, ∀ loaded, call.loaded = some loaded → s.Behind loaded
  unique : s.Unique

theorem not_runsInto_self (p : String) : ¬ RunsInto p p := by
  rintro ⟨_, hnumeral⟩
  rw [List.drop_length] at hnumeral
  exact hnumeral.1 rfl

/-- A counter that no username has used, with a prefix that runs into no issued one, gives a new
username. -/
theorem Inv.unique_append {s : UsernameSettings} (h : Inv s) {p : String} {n : ℕ}
    (hbelow : ∀ x ∈ s.issued, x.2 < n) (hapart : s.Apart p) :
    ((s.issued ++ [(p, n)]).map (fun x => hotspotUsername x.1 x.2)).Nodup := by
  rw [List.map_append, List.nodup_append]
  refine ⟨h.unique, List.nodup_singleton _, ?_⟩
  intro u hu v hv huv
  obtain ⟨x, hx, rfl⟩ := List.mem_map.mp hu
  obtain rfl := List.mem_singleton.mp hv
  exact hapart x hx (runsInto_of_hotspotUsername_eq (hbelow x hx) huv)

theorem Inv.loaded_eq_none {s : UsernameSettings} (h : Inv s) (hrow : s.row = none) :
    ∀ call ∈ s.calls, call.loaded = none := by
  intro call hcall
  cases hl : call.loaded with
  | none => rfl
  | some l =>
      obtain ⟨row, hsome, _⟩ := h.behind call hcall l hl
      rw [hrow] at hsome
      cases hsome

theorem Inv.commitGenerate_first {s : UsernameSettings} (h : Inv s) (hrow : s.row = none) :
    Inv (s.commitGenerate none) := by
  have hissued := h.fresh hrow
  have hnone := h.loaded_eq_none hrow
  simp only [UsernameSettings.commitGenerate, hrow, ne_eq, not_true_eq_false, and_false, ite_false]
  refine ⟨by simp, ?_, ?_, ?_, ?_⟩
  · simp [hissued, OrganizationSettings.initial]
  · intro row hr
    obtain rfl := Option.some.inj hr
    simp [Apart, hissued, OrganizationSettings.initial, not_runsInto_self]
  · intro call hcall l hl
    rw [hnone call hcall] at hl
    cases hl
  · simp [Unique, usernames, hissued]

theorem Inv.commitGenerate_next {s : UsernameSettings} (h : Inv s) {l row : OrganizationSettings}
    (hrow : s.row = some row) (hcounter : row.hotspotUsernameCounter = l.hotspotUsernameCounter)
    (hruns : ¬ RunsInto l.hotspotUsernamePrefix row.hotspotUsernamePrefix)
    (hapart : s.Apart l.hotspotUsernamePrefix) : Inv (s.commitGenerate (some l)) := by
  have hnew : ∀ x ∈ s.issued, x.2 < l.hotspotUsernameCounter := by
    intro x hx
    rw [← hcounter]
    exact h.below row hrow x hx
  simp only [UsernameSettings.commitGenerate, reduceCtorEq, false_and, ite_false]
  refine ⟨by simp, ?_, ?_, ?_, ?_⟩
  · intro r hr x hx
    obtain rfl := Option.some.inj hr
    rcases List.mem_append.mp hx with hx | hx
    · exact Nat.lt_succ_of_lt (hnew x hx)
    · obtain rfl := List.mem_singleton.mp hx
      exact Nat.lt_succ_self _
  · intro r hr x hx
    obtain rfl := Option.some.inj hr
    rw [hrow]
    rcases List.mem_append.mp hx with hx | hx
    · exact h.apart row hrow x hx
    · obtain rfl := List.mem_singleton.mp hx
      exact hruns
  · -- the counter has moved on from what the other calls have read
    intro call hcall l' hl'
    obtain ⟨row', hrow', hle, _⟩ := h.behind call hcall l' hl'
    rw [hrow] at hrow'
    obtain rfl := Option.some.inj hrow'
    refine ⟨_, rfl, ?_, ?_⟩
    · show l'.hotspotUsernameCounter ≤ l.hotspotUsernameCounter + 1
      omega
    · intro heq
      replace heq : l'.hotspotUsernameCounter = l.hotspotUsernameCounter + 1 := heq
      omega
  · exact h.unique_append hnew hapart

/-- **Generation**: a careful commit of `generate_hotspot_credentials` keeps the invariant. -/
theorem Inv.commitGenerate {s : UsernameSettings} (h : Inv s) {loaded : Option OrganizationSettings}
    (hbehind : ∀ l, loaded = some l → s.Behind l) (hcareful : s.CarefulCommit loaded .generate) :
    Inv (s.commitGenerate loaded) := by
  cases loaded with
  | none =>
      by_cases hrow : s.row = none
      · exact h.commitGenerate_first hrow
      · -- the second default row is refused
        simp only [UsernameSettings.commitGenerate, ne_eq, hrow, not_false_eq_true, and_self,
          ite_true]
        exact h
  | some l =>
      obtain ⟨row, hrow, _, hahead⟩ := hbehind l rfl
      obtain ⟨hcounter, hruns⟩ := hcareful l rfl row hrow
      exact h.commitGenerate_next hrow hcounter hruns (hahead hcounter.symm)

/-- **New prefix**: a commit of a prefix that runs into no issued one keeps the invariant. -/
theorem Inv.commitPrefix {s : UsernameSettings} (h : Inv s) {loaded : OrganizationSettings}
    {newPrefix : String}
    (hcareful : loaded.hotspotUsernamePrefix ≠ newPrefix → s.Apart newPrefix) :
    Inv (s.commitPrefix loaded newPrefix) := by
  unfold UsernameSettings.commitPrefix
  split
  · exact h
  · rename_i hwrite
    have hapart := hcareful (fun heq => hwrite (Or.inl heq))
    cases hrow : s.row with
    | none =>
        simp only [Option.map_none]
        rw [← hrow]
        exact h
    | some row =>
        refine ⟨by simp, ?_, ?_, ?_, h.unique⟩
        · intro r hr
          obtain rfl := Option.some.inj hr
          exact h.below row hrow
        · intro r hr
          obtain rfl := Option.some.inj hr
          exact hapart
        · intro call hcall l hl
          obtain ⟨row', hrow', hle, heq⟩ := h.behind call hcall l hl
          rw [hrow] at hrow'
          obtain rfl := Option.some.inj hrow'
          exact ⟨_, rfl, hle, heq⟩

/-- **New row**: a row that the tenant settings create keeps the invariant. -/
theorem Inv.commitDefaults {s : UsernameSettings} (h : Inv s) (usernamePrefix : Option String) :
    Inv (s.commitDefaults usernamePrefix) := by
  unfold UsernameSettings.commitDefaults
  split
  · exact h
  · rename_i hcreate
    have hrow : s.row = none := by
      by_contra hne
      exact hcreate (Or.inl hne)
    have hissued := h.fresh hrow
    refine ⟨by simp, ?_, ?_, ?_, h.unique⟩
    · simp [hissued]
    · simp [Apart, hissued]
    · intro call hcall l hl
      obtain ⟨row, hsome, _⟩ := h.behind call hcall l hl
      rw [hrow] at hsome
      cases hsome

theorem Inv.commit {s : UsernameSettings} (h : Inv s) (call : SettingsCall) (hcall : call ∈ s.calls)
    (hcareful : s.CarefulCommit call.loaded call.request) : Inv (s.commit call) := by
  have hbehind := h.behind call hcall
  obtain ⟨request, loaded, finished⟩ := call
  unfold UsernameSettings.commit
  cases request with
  | generate => exact h.commitGenerate hbehind hcareful
  | updateUsernamePrefix newPrefix =>
      cases loaded with
      | none => exact h
      | some l => exact h.commitPrefix (hcareful l rfl)
  | updateHotspotSettings usernamePrefix =>
      cases loaded with
      | none => exact h.commitDefaults usernamePrefix
      | some l =>
          cases usernamePrefix with
          | none => exact h
          | some newPrefix =>
              simp only
              split
              · exact h
              · exact h.commitPrefix (hcareful newPrefix rfl l rfl)

/-- **Step lemma**: a careful move keeps the invariant. -/
theorem step_inv {s : UsernameSettings} {e : Event} (h : Inv s) (hcareful : s.Careful e) :
    Inv (s.step e) := by
  cases e with
  | read request =>
      refine ⟨h.fresh, h.below, h.apart, ?_, h.unique⟩
      intro call hcall loaded hloaded
      rcases List.mem_append.mp hcall with hcall | hcall
      · exact h.behind call hcall loaded hloaded
      · obtain rfl := List.mem_singleton.mp hcall
        exact ⟨loaded, hloaded, le_rfl, fun _ => h.apart loaded hloaded⟩
  | commit i =>
      simp only [step]
      split
      · rename_i call hcall
        have hmem := List.mem_of_getElem? hcall
        split
        · exact h
        · rename_i hopen
          have hmarked : Inv { s with calls := s.calls.set i { call with finished := true } } := by
            refine ⟨h.fresh, h.below, h.apart, ?_, h.unique⟩
            intro c hc loaded hloaded
            rcases List.mem_or_eq_of_mem_set hc with hc | rfl
            · exact h.behind c hc loaded hloaded
            · exact h.behind call hmem loaded hloaded
          have hc := hcareful call hcall (by simpa using hopen)
          -- the mark does not change what the commit reads
          have hset : ({ call with finished := true } : SettingsCall) ∈
              s.calls.set i { call with finished := true } :=
            List.mem_set (by simpa using List.getElem?_eq_some_iff.mp hcall |>.1) _
          exact hmarked.commit { call with finished := true } hset hc
      · exact h

/-- **Usernames are unique in careful runs**: in every interleaving of generations and prefix
changes in which each commit of a generation finds the counter that it has read, and no stored
prefix followed by a numeral is a prefix that was used before, no username is generated
twice. -/
theorem usernames_unique (organizationId : ℕ) (row : Option OrganizationSettings) (es : List Event)
    (hcareful : Along step Careful (idle organizationId row) es) :
    Always step Unique (idle organizationId row) es := by
  refine always_of_along (I := Inv) (fun _ _ h hok => step_inv h hok) (fun _ h => h.unique) ?_
    hcareful
  refine ⟨fun _ => rfl, ?_, ?_, ?_, List.nodup_nil⟩
  · intro _ _ x hx
    cases hx
  · intro _ _ x hx
    cases hx
  · intro call hcall
    cases hcall

/-! ### Repeated usernames -/

/-- `n` generations one after the other, when `i` calls have been made. -/
def serialGenerations (i n : ℕ) : List Event :=
  (List.range n).flatMap (fun k => [.read .generate, .commit (i + k)])

theorem exec_generation (s : UsernameSettings) {row : OrganizationSettings} (hrow : s.row = some row) :
    exec step s [.read .generate, .commit s.calls.length] =
      { s with
        row := some { row with hotspotUsernameCounter := row.hotspotUsernameCounter + 1 }
        calls := s.calls ++ [⟨.generate, some row, true⟩]
        issued := s.issued ++ [(row.hotspotUsernamePrefix, row.hotspotUsernameCounter)] } := by
  simp [exec, step, commit, commitGenerate, hrow]

theorem exec_serialGenerations (n : ℕ) (s : UsernameSettings) {row : OrganizationSettings}
    (hrow : s.row = some row) :
    let t := exec step s (serialGenerations s.calls.length n)
    t.row = some { row with hotspotUsernameCounter := row.hotspotUsernameCounter + n } ∧
      t.calls.length = s.calls.length + n ∧
      t.issued = s.issued ++ (List.range n).map
        (fun k => (row.hotspotUsernamePrefix, row.hotspotUsernameCounter + k)) := by
  induction n with
  | zero => simp [serialGenerations, hrow]
  | succ n ih =>
      obtain ⟨hr, hlen, hissued⟩ := ih
      have hsplit : serialGenerations s.calls.length (n + 1) =
          serialGenerations s.calls.length n ++ [.read .generate, .commit (s.calls.length + n)] := by
        simp [serialGenerations, List.range_succ]
      simp only [hsplit, exec_append]
      rw [← hlen, exec_generation _ hr]
      refine ⟨rfl, ?_, ?_⟩
      · rw [List.length_append, hlen, List.length_singleton, Nat.add_assoc]
      · rw [hissued, List.range_succ, List.map_append, List.append_assoc]
        rfl

/-- The settings of an organization with the prefix "C1", before the first username. -/
def prefixed : UsernameSettings := idle 1 (some ⟨1, 14, "C1", 1⟩)

/-- A username under the prefix "C1", a change of the prefix to "C", and a thousand usernames
more. -/
def prefixChange : List Event :=
  [.read .generate, .commit 0, .read (.updateUsernamePrefix "C"), .commit 1]

example : hotspotUsername "C1" 1 = hotspotUsername "C" 1001 := by decide

/-- Two calls that read the same counter generate the same username; and without any overlap a
change of the prefix makes the username C1001 come back. -/
theorem usernames_repeat :
    (¬ Always step Unique (idle 1 none)
      [.read (.updateHotspotSettings none), .commit 0, .read .generate, .read .generate, .commit 1,
        .commit 2]) ∧
    ¬ Unique (exec step prefixed (prefixChange ++ serialGenerations 2 1000)) := by
  refine ⟨by decide, ?_⟩
  have hrow : (exec step prefixed prefixChange).row = some ⟨1, 14, "C", 2⟩ := by decide
  have hissued : (exec step prefixed prefixChange).issued = [("C1", 1)] := by decide
  have hrun := (exec_serialGenerations 1000 (exec step prefixed prefixChange) hrow).2.2
  rw [exec_append, Unique, usernames]
  have hcalls : (exec step prefixed prefixChange).calls.length = 2 := by decide
  rw [hcalls] at hrun
  rw [hrun, hissued, List.map_append, List.map_cons, List.map_nil, List.singleton_append,
    List.nodup_cons]
  intro hnodup
  apply hnodup.1
  rw [List.map_map, List.mem_map]
  exact ⟨999, List.mem_range.mpr (by decide), by decide⟩

/-- Generations one after the other, with a change of the prefix to "H" and one of the tenant
settings that overlaps a generation. -/
theorem usernames_unique_serial :
    Along step Careful (idle 1 none)
        [.read .generate, .commit 0, .read (.updateUsernamePrefix "H"), .commit 1, .read .generate,
          .read (.updateHotspotSettings (some "NET")), .commit 3, .commit 2] ∧
      Always step Unique (idle 1 none)
        [.read .generate, .commit 0, .read (.updateUsernamePrefix "H"), .commit 1, .read .generate,
          .read (.updateHotspotSettings (some "NET")), .commit 3, .commit 2] :=
  ⟨by decide, usernames_unique 1 none _ (by decide)⟩

end UsernameSettings

end IspBilling
