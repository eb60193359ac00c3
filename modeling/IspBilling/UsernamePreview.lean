import IspBilling.HotspotUsername

/-! # The next hotspot username

`generate_hotspot_credentials` (`app/utils/hotspot_username.py`) prints the prefix and the counter of
an organization's settings, and `get_next_username_preview` prints them again with code of its own,
and knows the first username of an organization without settings by heart.

Here the counter is any integer, as the column and `reset_username_counter` allow.  The printed
usernames of one prefix differ (`credentialUsername_injective`), the preview is the username that is
generated next, and the preview after that is another one (`preview_after_generate`). -/

namespace IspBilling

open Rows Numeral

/-! ### The functions -/

/-- The format `0wd` of an integer: the sign counts for the width `w`, and stands in front of the
zeros. -/
def formatPadded (w : ℕ) (n : ℤ) : String :=
  if n < 0 then "-" ++ zeroPad (w - 1) n.natAbs else zeroPad w n.natAbs

/-- A row of `organization_settings`. -/
structure UsernameRow where
  organizationId : ℤ
  hotspotUsernamePrefix : String
  hotspotUsernameCounter : ℤ
deriving DecidableEq, Repr

/-- The settings that `generate_hotspot_credentials` creates when there are none. -/
def UsernameRow.initial (organizationId : ℤ) : UsernameRow := ⟨organizationId, "C", 1⟩

/-- The username that `generate_hotspot_credentials` makes of a prefix and a counter. -/
def credentialUsername (usernamePrefix : String) (counter : ℤ) : String :=
  if counter < 1000 then usernamePrefix ++ formatPadded 3 counter
  else if counter < 10000 then usernamePrefix ++ formatPadded 4 counter
  else usernamePrefix ++ formatPadded 5 counter

/-- `generate_hotspot_credentials`, with the results of `randbelow(10)`: username, password and the
table afterwards; `none` when the organization has several rows. -/
def generateHotspotCredentials (table : List UsernameRow) (organizationId : ℤ)
    (passwordLength : ℤ) (draws : ℕ → Fin 10) : Option ((String × String) × List UsernameRow) :=
  match oneOrNone (table.filter fun row => decide (row.organizationId = organizationId)) with
  | none => none
  | some found =>
      let settings := found.getD (.initial organizationId)
      let rows := if found = none then table ++ [settings] else table
      let username :=
        credentialUsername settings.hotspotUsernamePrefix settings.hotspotUsernameCounter
      let password := String.join
        ((List.range passwordLength.toNat).map fun i => toString (draws i).val)
      some ((username, password),
        updateWhere (fun row => decide (row.organizationId = organizationId))
          (fun row => { row with hotspotUsernameCounter := settings.hotspotUsernameCounter + 1 })
          rows)

/-- `get_next_username_preview`. -/
def getNextUsernamePreview (table : List UsernameRow) (organizationId : ℤ) : Option String :=
  match oneOrNone (table.filter fun row => decide (row.organizationId = organizationId)) with
  | none => none
  | some none => some "C001"
  | some (some settings) =>
      let usernamePrefix := settings.hotspotUsernamePrefix
      let counter := settings.hotspotUsernameCounter
      if counter < 1000 then some (usernamePrefix ++ formatPadded 3 counter)
      else if counter < 10000 then some (usernamePrefix ++ formatPadded 4 counter)
      else some (usernamePrefix ++ formatPadded 5 counter)

/-! ### The printed counter -/

theorem credentialUsername_natCast (usernamePrefix : String) (counter : ℕ) :
    credentialUsername usernamePrefix counter = hotspotUsername usernamePrefix counter := by
  have hpadded : ∀ w, formatPadded w (counter : ℤ) = zeroPad w counter := by
    intro w
    rw [formatPadded, if_neg (by omega), Int.natAbs_natCast]
  have h3 : ((counter : ℤ) < 1000) = (counter < 1000) := by
    rw [eq_iff_iff]
    omega
  have h4 : ((counter : ℤ) < 10000) = (counter < 10000) := by
    rw [eq_iff_iff]
    omega
  unfold credentialUsername hotspotUsername
  simp only [hpadded, h3, h4]
  split
  · rfl
  · split <;> rfl

theorem toList_credentialUsername {counter : ℤ} (h : 0 ≤ counter) (usernamePrefix : String) :
    (credentialUsername usernamePrefix counter).toList =
      usernamePrefix.toList ++ padded 3 counter.natAbs := by
  have hcounter : counter = (counter.natAbs : ℤ) := by
    omega
  rw [hcounter, credentialUsername_natCast, toList_hotspotUsername, Int.natAbs_natCast]

theorem toList_credentialUsername_neg {counter : ℤ} (h : counter < 0) (usernamePrefix : String) :
    (credentialUsername usernamePrefix counter).toList =
      usernamePrefix.toList ++ '-' :: padded 2 counter.natAbs := by
  rw [credentialUsername, if_pos (by omega), formatPadded, if_pos h, String.toList_append,
    String.toList_append, toList_zeroPad]
  rfl

/-- **The usernames of one prefix differ.** -/
theorem credentialUsername_injective (usernamePrefix : String) :
    Function.Injective (credentialUsername usernamePrefix) := by
  have hsign : ∀ n k : ℕ, padded 3 n ≠ '-' :: padded 2 k := by
    intro n k h
    have hminus : '-' ∈ padded 3 n := by
      rw [h]
      exact List.mem_cons_self
    exact notMem_of_digits isDigit_of_mem_padded (by decide) hminus
  intro m n h
  have hlist := congrArg String.toList h
  by_cases hm : m < 0
  · by_cases hn : n < 0
    · rw [toList_credentialUsername_neg hm, toList_credentialUsername_neg hn,
        List.append_cancel_left_eq, List.cons.injEq] at hlist
      have habs := padded_injective 2 hlist.2
      omega
    · rw [toList_credentialUsername_neg hm, toList_credentialUsername (by omega),
        List.append_cancel_left_eq] at hlist
      exact absurd hlist.symm (hsign _ _)
  · by_cases hn : n < 0
    · rw [toList_credentialUsername (by omega), toList_credentialUsername_neg hn,
        List.append_cancel_left_eq] at hlist
      exact absurd hlist (hsign _ _)
    · rw [toList_credentialUsername (by omega), toList_credentialUsername (by omega),
        List.append_cancel_left_eq] at hlist
      have habs := padded_injective 3 hlist
      omega

/-! ### The preview -/

theorem credentialUsername_first : credentialUsername "C" 1 = "C001" := by
  decide

theorem getNextUsernamePreview_eq (table : List UsernameRow) (organizationId : ℤ) :
    getNextUsernamePreview table organizationId =
      (oneOrNone (table.filter fun row => decide (row.organizationId = organizationId))).map
        fun found =>
          credentialUsername (found.getD (.initial organizationId)).hotspotUsernamePrefix
            (found.getD (.initial organizationId)).hotspotUsernameCounter := by
  unfold getNextUsernamePreview
  cases oneOrNone (table.filter fun row => decide (row.organizationId = organizationId)) with
  | none => rfl
  | some found =>
      cases found with
      | none => exact congrArg some credentialUsername_first.symm
      | some settings =>
          simp only [Option.map_some, Option.getD_some, credentialUsername]
          split
          · rfl
          · split <;> rfl

/-- **The username that is generated next is the preview**, and different counters give the
usernames of one prefix apart. -/
theorem preview_generated :
    (∀ usernamePrefix, Function.Injective (credentialUsername usernamePrefix)) ∧
    ∀ (table : List UsernameRow) (organizationId passwordLength : ℤ) (draws : ℕ → Fin 10),
      (generateHotspotCredentials table organizationId passwordLength draws).map
          (fun result => result.1.1) = getNextUsernamePreview table organizationId := by
  refine ⟨credentialUsername_injective, ?_⟩
  intro table organizationId passwordLength draws
  rw [getNextUsernamePreview_eq]
  unfold generateHotspotCredentials
  cases oneOrNone (table.filter fun row => decide (row.organizationId = organizationId)) with
  | none => rfl
  | some found => rfl

theorem filter_generated {table : List UsernameRow} {organizationId passwordLength : ℤ}
    {draws : ℕ → Fin 10} {credentials : String × String} {table' : List UsernameRow}
    (h : generateHotspotCredentials table organizationId passwordLength draws =
      some (credentials, table')) :
    ∃ settings : UsernameRow,
      credentials.1 =
        credentialUsername settings.hotspotUsernamePrefix settings.hotspotUsernameCounter ∧
      (table'.filter fun row => decide (row.organizationId = organizationId)) =
        [{ settings with hotspotUsernameCounter := settings.hotspotUsernameCounter + 1 }] := by
  unfold generateHotspotCredentials at h
  cases hfound : oneOrNone
      (table.filter fun row => decide (row.organizationId = organizationId)) with
  | none =>
      rw [hfound] at h
      cases h
  | some found =>
      rw [hfound] at h
      obtain ⟨rfl, rfl⟩ := Prod.mk.inj (Option.some.inj h)
      refine ⟨found.getD (.initial organizationId), rfl, ?_⟩
      have hfilter := fun rows : List UsernameRow => filter_updateWhere
        (q := fun row => decide (row.organizationId = organizationId))
        (r := fun row => decide (row.organizationId = organizationId))
        (f := fun row : UsernameRow => { row with
          hotspotUsernameCounter := (found.getD (.initial organizationId)).hotspotUsernameCounter + 1 })
        (fun _ => rfl) rows
      rw [hfilter]
      cases found with
      | none =>
          have hnone := oneOrNone_eq_some_none.mp hfound
          simp [hnone, updateWhere, UsernameRow.initial]
      | some settings =>
          have hone := oneOrNone_eq_some_some.mp hfound
          have horg : settings.organizationId = organizationId := by
            have hmem := mem_of_oneOrNone hfound
            simpa using (List.mem_filter.mp hmem).2
          simp [hone, updateWhere, horg]

/-- **The next preview is another username.** -/
theorem preview_after_generate {table : List UsernameRow} {organizationId passwordLength : ℤ}
    {draws : ℕ → Fin 10} {credentials : String × String} {table' : List UsernameRow}
    (h : generateHotspotCredentials table organizationId passwordLength draws =
      some (credentials, table')) :
    getNextUsernamePreview table' organizationId ≠ some credentials.1 := by
  obtain ⟨settings, hname, hrow⟩ := filter_generated h
  rw [getNextUsernamePreview_eq, hrow, hname]
  intro heq
  have hcounter := credentialUsername_injective _ (Option.some.inj heq)
  simp only [Option.getD_some] at hcounter
  omega

end IspBilling
