import IspBilling.CandidateSearch
import IspBilling.IdentityLinks
import IspBilling.Numeral

/-! # The username of a new SSO user

`provision_sso_user` (`app/core/sso.py`) takes the email's local part, cut to 40 characters, or else
`sso_` and the subject for the username of a new user.  As long as the name is taken, it tries the
next number behind it, and cuts the result to the 50 characters of the column.

The cut makes different numbers equal: of a name of 49 characters only the underscore is left, of
one of 50 not even that.  Such names exist, since the subject is not cut where the email has an empty
local part.  `picksUsername_iff` says for which claims and which users the loop ends with a name that
is free and fits. -/

namespace IspBilling

open Numeral CandidateSearch

/-! ### The loop -/

/-- The loop, with the number of queries as fuel. -/
def usernameLoop (isTaken : String → Bool) (baseUsername : String) : ℕ → String → ℕ → Option String
  | 0, _, _ => none
  | fuel + 1, username, suffix =>
      if isTaken username then
        usernameLoop isTaken baseUsername fuel
          (String.ofList ((baseUsername ++ "_" ++ toString suffix).toList.take 50)) (suffix + 1)
      else some username

def Directory.isTaken (s : Directory) (name : String) : Bool :=
  s.users.rows.any fun u => decide (u.username = name)

/-- The loop ends with a name that no user has, of at most 50 characters. -/
def Directory.PicksUsername (s : Directory) (baseUsername : String) : Prop :=
  ∃ fuel name, usernameLoop s.isTaken baseUsername fuel baseUsername 1 = some name ∧
    (∀ u ∈ s.users.rows, u.username ≠ name) ∧ name.length ≤ 50

def numberedName (baseUsername : String) (k : ℕ) : String := baseUsername ++ "_" ++ toString k

def usernameCandidate (baseUsername : String) : ℕ → String
  | 0 => baseUsername
  | k + 1 => String.ofList ((numberedName baseUsername (k + 1)).toList.take 50)

theorem usernameLoop_eq_search (isTaken : String → Bool) (baseUsername : String) (fuel k : ℕ) :
    usernameLoop isTaken baseUsername fuel (usernameCandidate baseUsername k) (k + 1) =
      search isTaken (usernameCandidate baseUsername) fuel k := by
  induction fuel generalizing k with
  | zero => rfl
  | succ fuel ih =>
      rw [usernameLoop, search]
      split
      · exact ih (k + 1)
      · rfl

theorem firstFree_eq_usernameLoop (isTaken : String → Bool) (baseUsername : String) (fuel : ℕ) :
    firstFree "_" 50 isTaken baseUsername fuel =
      usernameLoop isTaken baseUsername (fuel + 1) baseUsername 1 := by
  have hlist : (List.range (fuel + 1)).map (fun i => usernameCandidate baseUsername (0 + i)) =
      baseUsername :: (List.range fuel).map fun i =>
        String.ofList ((baseUsername ++ "_" ++ toString (i + 1)).toList.take 50) := by
    rw [List.range_succ_eq_map, List.map_cons, List.map_map]
    congr 1
    apply List.map_congr_left
    intro i hi
    simp only [Function.comp, Nat.zero_add]
    rfl
  have hloop := usernameLoop_eq_search isTaken baseUsername (fuel + 1) 0
  rw [search_eq_find?, hlist] at hloop
  exact hloop.symm

theorem Directory.isTaken_eq_false {s : Directory} {name : String} :
    s.isTaken name = false ↔ ∀ u ∈ s.users.rows, u.username ≠ name := by
  simp [isTaken]

/-! ### The candidates -/

/-- The names that a base name leads to: itself, itself with a number as far as that fits, and with
49 characters itself and an underscore. -/
def LeadsTo (baseUsername name : String) : Prop :=
  name = baseUsername ∨ (baseUsername.length = 49 ∧ name = baseUsername ++ "_") ∨
    ∃ k, 0 < k ∧ name = numberedName baseUsername k ∧ name.length ≤ 50

theorem toList_numberedName (baseUsername : String) (k : ℕ) :
    (numberedName baseUsername k).toList = baseUsername.toList ++ '_' :: Nat.toDigits 10 k := by
  simp only [numberedName, String.toList_append, Nat.toString_eq_ofList_toDigits,
    String.toList_ofList, List.append_assoc]
  rfl

theorem length_numberedName (baseUsername : String) (k : ℕ) :
    (numberedName baseUsername k).length =
      baseUsername.length + 1 + (Nat.toDigits 10 k).length := by
  rw [← String.length_toList, toList_numberedName, List.length_append, List.length_cons,
    String.length_toList]
  omega

/-- **A number that is cut off is a smaller one.** -/
theorem usernameCandidate_numbered {baseUsername : String} (hlen : baseUsername.length ≤ 48) (k : ℕ) :
    ∃ m, 0 < m ∧ m ≤ k + 1 ∧ (numberedName baseUsername m).length ≤ 50 ∧
      usernameCandidate baseUsername (k + 1) = numberedName baseUsername m := by
  have hbase := String.length_toList (s := baseUsername)
  obtain ⟨w, hw⟩ : ∃ w, 50 = baseUsername.toList.length + (w + 1) ∧ 0 < w :=
    ⟨49 - baseUsername.length, by omega, by omega⟩
  obtain ⟨m, hm, hmk, htake⟩ := take_toDigits hw.2 (Nat.succ_pos k)
  have hname : usernameCandidate baseUsername (k + 1) = numberedName baseUsername m := by
    apply String.toList_injective
    rw [usernameCandidate, String.toList_ofList, toList_numberedName, toList_numberedName, hw.1,
      List.take_length_add_append, List.take_succ_cons, htake]
  refine ⟨m, hm, hmk, ?_, hname⟩
  rw [← hname, usernameCandidate, ← String.length_toList, String.toList_ofList, List.length_take]
  omega

/-- Of 49 characters, the underscore is left. -/
theorem usernameCandidate_underscore {baseUsername : String} (hlen : baseUsername.length = 49) (k : ℕ) :
    usernameCandidate baseUsername (k + 1) = baseUsername ++ "_" := by
  have hbase : 50 = baseUsername.toList.length + 1 := by
    rw [String.length_toList, hlen]
  apply String.toList_injective
  rw [usernameCandidate, String.toList_ofList, toList_numberedName, hbase,
    List.take_length_add_append, String.toList_append]
  rfl

/-- Of 50, nothing. -/
theorem usernameCandidate_self {baseUsername : String} (hlen : baseUsername.length = 50) (k : ℕ) :
    usernameCandidate baseUsername k = baseUsername := by
  cases k with
  | zero => rfl
  | succ k =>
      have hbase : 50 = baseUsername.toList.length := by
        rw [String.length_toList, hlen]
      apply String.toList_injective
      rw [usernameCandidate, String.toList_ofList, toList_numberedName, hbase, List.take_left]

theorem length_usernameCandidate {baseUsername : String} (hlen : baseUsername.length ≤ 50) (k : ℕ) :
    (usernameCandidate baseUsername k).length ≤ 50 := by
  cases k with
  | zero => exact hlen
  | succ k =>
      rw [usernameCandidate, ← String.length_toList, String.toList_ofList, List.length_take]
      omega

theorem usernameCandidate_of_fits {baseUsername : String} {k : ℕ}
    (hfits : (numberedName baseUsername (k + 1)).length ≤ 50) :
    usernameCandidate baseUsername (k + 1) = numberedName baseUsername (k + 1) := by
  apply String.toList_injective
  rw [usernameCandidate, String.toList_ofList, List.take_of_length_le]
  rw [String.length_toList]
  exact hfits

/-- **The names that are tried.** -/
theorem exists_usernameCandidate_iff {baseUsername : String} (hlen : baseUsername.length ≤ 50)
    {name : String} : (∃ k, usernameCandidate baseUsername k = name) ↔ LeadsTo baseUsername name := by
  constructor
  · rintro ⟨k, rfl⟩
    cases k with
    | zero => exact .inl rfl
    | succ k =>
        by_cases hshort : baseUsername.length ≤ 48
        · obtain ⟨m, hm, -, hfits, hname⟩ := usernameCandidate_numbered hshort k
          exact .inr (.inr ⟨m, hm, hname, hname ▸ hfits⟩)
        · by_cases hunderscore : baseUsername.length = 49
          · exact .inr (.inl ⟨hunderscore, usernameCandidate_underscore hunderscore k⟩)
          · exact .inl (usernameCandidate_self (by omega) _)
  · rintro (rfl | ⟨hunderscore, rfl⟩ | ⟨k, hk, rfl, hfits⟩)
    · exact ⟨0, rfl⟩
    · exact ⟨1, usernameCandidate_underscore hunderscore 0⟩
    · cases k with
      | zero => omega
      | succ k => exact ⟨k + 1, usernameCandidate_of_fits hfits⟩

/-! ### How many names there are -/

theorem numberedName_fits {baseUsername : String} (hlen : baseUsername.length ≤ 48) {k : ℕ}
    (hk : k < 10 ^ (49 - baseUsername.length)) : (numberedName baseUsername k).length ≤ 50 := by
  have hdigits := (Nat.length_toDigits_le_iff (by decide) (by omega)).mpr hk
  rw [length_numberedName]
  omega

/-- The candidates differ, as long as their numbers fit. -/
theorem usernameCandidate_inj {baseUsername : String} (hlen : baseUsername.length ≤ 48) :
    ∀ i < 10 ^ (49 - baseUsername.length), ∀ j < 10 ^ (49 - baseUsername.length),
      usernameCandidate baseUsername i = usernameCandidate baseUsername j → i = j := by
  have hbase : ∀ k, numberedName baseUsername k ≠ baseUsername := by
    intro k h
    have hlength := congrArg String.length h
    rw [length_numberedName] at hlength
    omega
  intro i hi j hj h
  cases i with
  | zero =>
      cases j with
      | zero => rfl
      | succ j =>
          rw [usernameCandidate_of_fits (numberedName_fits hlen hj)] at h
          exact absurd h.symm (hbase _)
  | succ i =>
      rw [usernameCandidate_of_fits (numberedName_fits hlen hi)] at h
      cases j with
      | zero => exact absurd h (hbase _)
      | succ j =>
          rw [usernameCandidate_of_fits (numberedName_fits hlen hj)] at h
          have hlist := congrArg String.toList h
          rw [toList_numberedName, toList_numberedName, List.append_cancel_left_eq,
            List.cons.injEq] at hlist
          exact toDigits_injective hlist.2

/-- As long as their numbers fit, one of more candidates than users is free. -/
theorem exists_free_candidate {s : Directory} {baseUsername : String}
    (hlen : baseUsername.length ≤ 48) {n : ℕ} (hn : n ≤ 10 ^ (49 - baseUsername.length))
    (hcount : s.users.rows.length < n) :
    ∃ i < n, s.isTaken (usernameCandidate baseUsername i) = false := by
  have hdiff : ∀ i < n, ∀ j < n,
      usernameCandidate baseUsername i = usernameCandidate baseUsername j → i = j :=
    fun i hi j hj => usernameCandidate_inj hlen i (by omega) j (by omega)
  have hnames : (s.users.rows.map LocalUser.username).length < n := by
    rw [List.length_map]
    exact hcount
  obtain ⟨i, hi, hnot⟩ := exists_free hdiff hnames
  refine ⟨i, hi, Directory.isTaken_eq_false.mpr ?_⟩
  intro u hu hname
  exact hnot (List.mem_map.mpr ⟨u, hu, hname⟩)

/-! ### The name that is picked -/

/-- **When the loop ends well**, for users whose names fit: the first name fits, and one of those that
it leads to is free. -/
theorem picksUsername_iff_base {s : Directory} (husers : ∀ u ∈ s.users.rows, u.username.length ≤ 50)
    (baseUsername : String) :
    s.PicksUsername baseUsername ↔
      baseUsername.length ≤ 50 ∧
        ∃ name, LeadsTo baseUsername name ∧ ∀ u ∈ s.users.rows, u.username ≠ name := by
  have hloop : ∀ fuel, usernameLoop s.isTaken baseUsername fuel baseUsername 1 =
      search s.isTaken (usernameCandidate baseUsername) fuel 0 := fun fuel =>
    usernameLoop_eq_search s.isTaken baseUsername fuel 0
  constructor
  · rintro ⟨fuel, name, hsearch, hfree, hfits⟩
    rw [hloop] at hsearch
    obtain ⟨i, -, hname, -, htaken⟩ := search_eq_some_iff.mp hsearch
    rw [Nat.zero_add] at hname
    have hlen : baseUsername.length ≤ 50 := by
      cases i with
      | zero =>
          rw [← hname] at hfits
          exact hfits
      | succ i =>
          -- the first name was taken, so it is the name of a user
          by_contra hlong
          have hfirst : s.isTaken baseUsername = false := by
            rw [Directory.isTaken_eq_false]
            rintro u hu rfl
            exact hlong (husers u hu)
          have htrue := htaken 0 (Nat.succ_pos i)
          rw [Nat.add_zero, usernameCandidate, hfirst] at htrue
          cases htrue
    exact ⟨hlen, name, (exists_usernameCandidate_iff hlen).mp ⟨i, hname⟩, hfree⟩
  · rintro ⟨hlen, name, hleads, hfree⟩
    obtain ⟨k, rfl⟩ := (exists_usernameCandidate_iff hlen).mpr hleads
    obtain ⟨fuel, picked, hsearch⟩ :=
      exists_search_iff.mpr ⟨k, Directory.isTaken_eq_false.mpr hfree⟩
    obtain ⟨i, -, rfl, hpicked, -⟩ := search_eq_some_iff.mp hsearch
    refine ⟨fuel, _, (hloop fuel).trans hsearch, Directory.isTaken_eq_false.mp hpicked, ?_⟩
    exact length_usernameCandidate hlen _

namespace SsoClaims

variable (txt : IdentityText) (c : SsoClaims)

/-- The name in front of the `@`, or the subject where there is no email. -/
theorem baseUsername_eq {name : List Char} (hne : name ≠ [])
    (h : (if c.emailOf txt = "" then ("sso_" ++ c.sub.getD "None").toList
      else (c.emailOf txt).toList.takeWhile (· ≠ '@')) = name) :
    c.baseUsername txt = String.ofList (name.take 40) := by
  have hcut : String.ofList (name.take 40) ≠ "" := by
    intro hnil
    have hlist := congrArg String.toList hnil
    rw [String.toList_ofList] at hlist
    cases name with
    | nil => exact hne rfl
    | cons d ds => cases hlist
  unfold baseUsername
  simp only [h]
  rw [given, Option.filter_some_pos (by simpa using hcut), Option.getD_some]

theorem baseUsername_of_at (h : (c.emailOf txt).toList.head? = some '@') :
    c.baseUsername txt = "sso_" ++ c.sub.getD "None" := by
  have hemail : c.emailOf txt ≠ "" := by
    intro hnil
    rw [hnil] at h
    cases h
  have hlocal : (c.emailOf txt).toList.takeWhile (· ≠ '@') = [] := by
    cases hlist : (c.emailOf txt).toList with
    | nil => rfl
    | cons d rest =>
        rw [hlist] at h
        obtain rfl := Option.some.inj h
        rfl
  unfold baseUsername
  simp only [if_neg hemail, hlocal]
  rfl

theorem length_baseUsername (h : (c.emailOf txt).toList.head? ≠ some '@') :
    (c.baseUsername txt).length ≤ 40 := by
  have hname : (if c.emailOf txt = "" then ("sso_" ++ c.sub.getD "None").toList
      else (c.emailOf txt).toList.takeWhile (· ≠ '@')) ≠ [] := by
    split
    · simp
    · rename_i hemail
      cases hlist : (c.emailOf txt).toList with
      | nil => exact absurd (String.toList_injective hlist) hemail
      | cons d rest =>
          have hd : d ≠ '@' := by
            rintro rfl
            exact h (by rw [hlist]; rfl)
          rw [List.takeWhile_cons_of_pos (by simpa using hd)]
          exact List.cons_ne_nil _ _
  rw [c.baseUsername_eq txt hname rfl, ← String.length_toList, String.toList_ofList,
    List.length_take]
  omega

/-- The first name fits, unless the local part is empty and the subject is long. -/
theorem length_baseUsername_iff :
    (c.baseUsername txt).length ≤ 50 ↔
      ((c.emailOf txt).toList.head? = some '@' → (c.sub.getD "None").length ≤ 46) := by
  have hsso : ("sso_" : String).length = 4 := rfl
  by_cases hat : (c.emailOf txt).toList.head? = some '@'
  · rw [c.baseUsername_of_at txt hat, String.length_append, hsso]
    constructor
    · intro hlen _
      omega
    · intro hsub
      have := hsub hat
      omega
  · have hlen := c.length_baseUsername txt hat
    exact iff_of_true (by omega) (fun h => absurd h hat)

end SsoClaims

/-- Where the email has a local part, or there is none, a billion users are needed to keep the loop
from ending. -/
theorem picksUsername_of_few (txt : IdentityText) {s : Directory} {c : SsoClaims}
    (husers : ∀ u ∈ s.users.rows, u.username.length ≤ 50)
    (hat : (c.emailOf txt).toList.head? ≠ some '@') (hfew : s.users.rows.length < 10 ^ 9) :
    s.PicksUsername (c.baseUsername txt) := by
  have hlen := c.length_baseUsername txt hat
  have hnames : 10 ^ 9 ≤ 10 ^ (49 - (c.baseUsername txt).length) :=
    Nat.pow_le_pow_right (by decide) (by omega)
  obtain ⟨i, -, hfree⟩ := exists_free_candidate (s := s) (by omega) hnames hfew
  rw [picksUsername_iff_base husers]
  exact ⟨by omega, _, (exists_usernameCandidate_iff (by omega)).mp ⟨i, rfl⟩,
    Directory.isTaken_eq_false.mp hfree⟩

/-- **When the loop ends with a free name that fits**, for users whose names fit: where the email has
an empty local part the subject has at most 46 characters, and of the names that the claims lead to one
is free. -/
theorem picksUsername_iff (txt : IdentityText) (s : Directory) (c : SsoClaims)
    (husers : ∀ u ∈ s.users.rows, u.username.length ≤ 50) :
    s.PicksUsername (c.baseUsername txt) ↔
      ((c.emailOf txt).toList.head? = some '@' → (c.sub.getD "None").length ≤ 46) ∧
        ∃ name, LeadsTo (c.baseUsername txt) name ∧ ∀ u ∈ s.users.rows, u.username ≠ name := by
  rw [picksUsername_iff_base husers, c.length_baseUsername_iff]

namespace Directory

/-- The claims of a subject of `n` characters whose email has an empty local part. -/
def emptyLocalPart (n : ℕ) : SsoClaims where
  sub := some (String.ofList (List.replicate n 'x'))
  email := some "@x.io"
  fullName := none
  roles := []
  tenantId := none
  tenantSlug := none
  isPlatformOwner := false

/-- A user who has the first name of such claims. -/
def nameTaken (n : ℕ) : Directory where
  organizations := ⟨[], by decide⟩
  users := ⟨[{
    id := 1
    organizationId := none
    username := "sso_" ++ String.ofList (List.replicate n 'x')
    email := "jane@acme.example"
    firstName := "Jane"
    lastName := "Doe"
    authServiceUserId := none
    authSyncedAt := none
    role := .customer
    roleId := none }], List.nodup_singleton _⟩
  roles := []

theorem head?_emailOf_emptyLocalPart (n : ℕ) :
    ((emptyLocalPart n).emailOf asciiText).toList.head? = some '@' := by
  have hemail : (asciiText.normalize ((given (some "@x.io")).getD "")).toList.head? = some '@' := by
    decide
  exact hemail

theorem baseUsername_emptyLocalPart (n : ℕ) :
    (emptyLocalPart n).baseUsername asciiText = "sso_" ++ String.ofList (List.replicate n 'x') :=
  (emptyLocalPart n).baseUsername_of_at asciiText (head?_emailOf_emptyLocalPart n)

theorem length_baseUsername_emptyLocalPart (n : ℕ) :
    ((emptyLocalPart n).baseUsername asciiText).length = 4 + n := by
  have hsub : (String.ofList (List.replicate n 'x')).length = n := by
    rw [String.length_ofList, List.length_replicate]
  rw [baseUsername_emptyLocalPart, String.length_append, hsub]
  rfl

theorem username_le_linked : ∀ u ∈ linkedDirectory.users.rows, u.username.length ≤ 50 := by
  decide

/-- A subject of 46 characters still fits. -/
theorem picksUsername_fits :
    linkedDirectory.PicksUsername ((emptyLocalPart 46).baseUsername asciiText) := by
  refine (picksUsername_iff asciiText linkedDirectory (emptyLocalPart 46)
    username_le_linked).mpr ⟨?_, ?_⟩
  · intro _
    rw [emptyLocalPart, Option.getD_some, String.length_ofList, List.length_replicate]
  · refine ⟨_, .inl rfl, ?_⟩
    rintro u hu hname
    have hlength := congrArg String.length hname
    rw [length_baseUsername_emptyLocalPart, List.mem_singleton.mp hu] at hlength
    exact absurd hlength (by decide)

/-- No user is in the way of a name of 51 characters. -/
theorem usernameLoop_linked :
    usernameLoop linkedDirectory.isTaken ((emptyLocalPart 47).baseUsername asciiText) 1
      ((emptyLocalPart 47).baseUsername asciiText) 1 =
        some ((emptyLocalPart 47).baseUsername asciiText) := by
  have hlong := length_baseUsername_emptyLocalPart 47
  have hfree : linkedDirectory.isTaken ((emptyLocalPart 47).baseUsername asciiText) = false := by
    rw [isTaken_eq_false]
    intro u hu hname
    have hle := username_le_linked u hu
    rw [hname] at hle
    omega
  rw [usernameLoop, hfree]
  rfl

/-- A taken name of 50 characters is tried for ever. -/
theorem usernameLoop_nameTaken (fuel : ℕ) :
    usernameLoop (nameTaken 46).isTaken ((emptyLocalPart 46).baseUsername asciiText) fuel
      ((emptyLocalPart 46).baseUsername asciiText) 1 = none := by
  have hlast := length_baseUsername_emptyLocalPart 46
  have htaken : (nameTaken 46).isTaken ((emptyLocalPart 46).baseUsername asciiText) = true := by
    rw [baseUsername_emptyLocalPart]
    simp [isTaken, nameTaken]
  have hloop := usernameLoop_eq_search (nameTaken 46).isTaken
    ((emptyLocalPart 46).baseUsername asciiText) fuel 0
  cases hfound : search (nameTaken 46).isTaken
      (usernameCandidate ((emptyLocalPart 46).baseUsername asciiText)) fuel 0 with
  | none => exact hloop.trans hfound
  | some name =>
      -- every candidate is the taken name
      obtain ⟨i, -, -, hfree, -⟩ := search_eq_some_iff.mp hfound
      rw [usernameCandidate_self hlast, htaken] at hfree
      cases hfree

/-- A subject of 47 characters gives a name of 51, although no user is in the way; with one of 46
whose name is taken, the loop does not end. -/
theorem username_too_long :
    (∃ fuel name, usernameLoop linkedDirectory.isTaken ((emptyLocalPart 47).baseUsername asciiText)
        fuel ((emptyLocalPart 47).baseUsername asciiText) 1 = some name ∧ name.length = 51) ∧
      ¬ linkedDirectory.PicksUsername ((emptyLocalPart 47).baseUsername asciiText) ∧
      (∀ fuel, usernameLoop (nameTaken 46).isTaken ((emptyLocalPart 46).baseUsername asciiText)
        fuel ((emptyLocalPart 46).baseUsername asciiText) 1 = none) ∧
      (∀ u ∈ linkedDirectory.users.rows, u.username.length ≤ 50) ∧
      ∀ u ∈ (nameTaken 46).users.rows, u.username.length ≤ 50 := by
  have hlong := length_baseUsername_emptyLocalPart 47
  have hlast := length_baseUsername_emptyLocalPart 46
  refine ⟨⟨1, _, usernameLoop_linked, hlong⟩, ?_, usernameLoop_nameTaken, username_le_linked, ?_⟩
  · rw [picksUsername_iff_base username_le_linked]
    omega
  · intro u hu
    have hname : u.username = (emptyLocalPart 46).baseUsername asciiText := by
      rw [List.mem_singleton.mp hu, baseUsername_emptyLocalPart]
    rw [hname]
    omega

end Directory

end IspBilling
