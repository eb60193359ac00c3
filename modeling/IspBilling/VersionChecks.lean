import Mathlib.Data.Prod.Lex
import IspBilling.Numeral
import IspBilling.RouterOsCommands

/-! # Versions of RouterOS

A version is read by two functions.  `_compare_versions` (`app/modules/provisioning/service.py`)
cuts the text at its dots, keeps the digits of each part, and compares the numbers one by one.
`parse_routeros_version` (`app/modules/provisioning/commands.py`) matches the numbers at the head of
the text.

Where `beta4` or `rc1` stands directly behind the minor number, the first function takes its digits
for digits of the minor number: `7.1beta4` is its version 7.14.  `versions_agree_iff` says when the
two nevertheless answer alike to a minimum version. -/

namespace IspBilling

open Numeral PythonText

/-! ### The functions -/

/-- The digits of a part of a version, as a number. -/
def numericPart (part : List Char) : ℕ :=
  let numeric := part.filter Char.isDigit
  if numeric = [] then 0 else Nat.ofDigitChars 10 numeric 0

/-- `parse_version` of `_compare_versions`. -/
def parseVersion (version : String) : List ℕ :=
  let version := strip ((((version.toList.splitOn ' ').headD []).splitOn '(').headD [])
  (version.splitOn '.').map numericPart

/-- The sign of the first difference. -/
def compareParts : List ℕ → List ℕ → ℤ
  | v1 :: v1Parts, v2 :: v2Parts =>
      if v1 < v2 then -1 else if v2 < v1 then 1 else compareParts v1Parts v2Parts
  | _, _ => 0

/-- `_compare_versions`. -/
def compareVersions (version1 version2 : String) : ℤ :=
  let v1Parts := parseVersion version1
  let v2Parts := parseVersion version2
  let maxLen := max v1Parts.length v2Parts.length
  compareParts (v1Parts ++ List.replicate (maxLen - v1Parts.length) 0)
    (v2Parts ++ List.replicate (maxLen - v2Parts.length) 0)

/-! ### The texts -/

/-- A number as it is written, perhaps with zeros in front. -/
structure Digits where
  chars : List Char
  ne_nil : chars ≠ []
  isDigit : ∀ c ∈ chars, c.isDigit = true

namespace Digits

def value (d : Digits) : ℕ := Nat.ofDigitChars 10 d.chars 0

def ofNat (n : ℕ) : Digits := ⟨Nat.toDigits 10 n, Nat.toDigits_ne_nil, isDigit_of_mem_toDigits⟩

end Digits

/-- What comes before a release. -/
inductive PreRelease
  | beta
  | rc
deriving DecidableEq, Repr

def PreRelease.chars : PreRelease → List Char
  | .beta => ['b', 'e', 't', 'a']
  | .rc => ['r', 'c']

/-- A version by its parts. -/
structure VersionText where
  major : Digits
  minor : Digits
  patch : Option Digits
  preRelease : Option (PreRelease × Digits)
  channel : Option String

namespace VersionText

def minimum (major minor : Digits) : VersionText := ⟨major, minor, none, none, none⟩

variable (v : VersionText)

/-- `beta4`, or nothing. -/
def ending : List Char :=
  match v.preRelease with
  | none => []
  | some (stage, n) => stage.chars ++ n.chars

/-- The numbers, with the ending directly behind the last one. -/
def front : List Char :=
  v.major.chars ++ '.' :: (v.minor.chars ++
    match v.patch with
    | none => v.ending
    | some patch => '.' :: (patch.chars ++ v.ending))

/-- The channel behind a blank. -/
def channelChars : List Char :=
  match v.channel with
  | none => []
  | some channel => ' ' :: '(' :: (channel.toList ++ [')'])

def text : String := String.ofList (v.front ++ v.channelChars)

/-- The digits of the ending. -/
def endingDigits : List Char :=
  match v.preRelease with
  | none => []
  | some (_, n) => n.chars

/-- The letters of a version. -/
def letters : List Char := ['b', 'e', 't', 'a', 'r', 'c']

theorem mem_letters_of_mem_stage (stage : PreRelease) : ∀ c ∈ stage.chars, c ∈ letters := by
  cases stage <;> simp [PreRelease.chars, letters]

theorem of_mem_ending {c : Char} (h : c ∈ v.ending) : c.isDigit = true ∨ c ∈ letters := by
  unfold ending at h
  split at h
  · cases h
  · rename_i stage n _
    rcases List.mem_append.mp h with hstage | hdigit
    · exact .inr (mem_letters_of_mem_stage stage c hstage)
    · exact .inl (n.isDigit c hdigit)

theorem of_mem_front {c : Char} (h : c ∈ v.front) :
    c.isDigit = true ∨ c = '.' ∨ c ∈ letters := by
  have hending : c ∈ v.ending → c.isDigit = true ∨ c = '.' ∨ c ∈ letters :=
    fun hc => (v.of_mem_ending hc).imp_right .inr
  simp only [front, List.mem_append, List.mem_cons] at h
  rcases h with hmajor | hdot | hminor | hrest
  · exact .inl (v.major.isDigit c hmajor)
  · exact .inr (.inl hdot)
  · exact .inl (v.minor.isDigit c hminor)
  · split at hrest
    · exact hending hrest
    · rename_i patch _
      rcases List.mem_cons.mp hrest with hdot | hrest
      · exact .inr (.inl hdot)
      · rcases List.mem_append.mp hrest with hpatch | hrest
        · exact .inl (patch.isDigit c hpatch)
        · exact hending hrest

theorem notMem_front {c : Char} (hdigit : c.isDigit = false) (hother : c ∉ '.' :: letters) :
    c ∉ v.front := by
  intro h
  rcases v.of_mem_front h with hc | hc | hc
  · rw [hdigit] at hc
    cases hc
  · exact hother (hc ▸ List.mem_cons_self)
  · exact hother (List.mem_cons_of_mem _ hc)

theorem isSpace_of_mem_front : ∀ c ∈ v.front, isSpace c = false := by
  intro c hc
  have hother : ∀ d ∈ '.' :: letters, isSpace d = false := by
    simp [letters, isSpace]
  rcases v.of_mem_front hc with hdigit | hdot | hletter
  · exact isSpace_of_isDigit hdigit
  · exact hother c (hdot ▸ List.mem_cons_self)
  · exact hother c (List.mem_cons_of_mem _ hletter)

theorem front_ne_nil : v.front ≠ [] :=
  List.append_ne_nil_of_right_ne_nil _ (List.cons_ne_nil _ _)

theorem strip_text : strip v.text.toList = v.text.toList := by
  rw [text, String.toList_ofList, channelChars]
  split
  · rw [List.append_nil, strip_of_noSpace v.isSpace_of_mem_front]
  · rename_i channel _
    have hlast : ∀ c ∈ [')'], isSpace c = false := by
      simp [isSpace]
    exact strip_between v.front_ne_nil (List.cons_ne_nil _ _) v.isSpace_of_mem_front hlast
      (' ' :: '(' :: channel.toList)

/-! ### The digits of the parts -/

theorem filter_ending : v.ending.filter Char.isDigit = v.endingDigits := by
  unfold ending endingDigits
  cases v.preRelease with
  | none => rfl
  | some pre =>
      have hstage : pre.1.chars.filter Char.isDigit = [] := by
        cases pre.1 <;> decide
      rw [List.filter_append, hstage, List.nil_append, List.filter_eq_self.mpr pre.2.isDigit]

/-- **The ending's digits are taken for digits of the number in front of it.** -/
theorem numericPart_ending (d : Digits) :
    numericPart (d.chars ++ v.ending) =
      10 ^ v.endingDigits.length * d.value + Nat.ofDigitChars 10 v.endingDigits 0 := by
  have hfilter : (d.chars ++ v.ending).filter Char.isDigit = d.chars ++ v.endingDigits := by
    rw [List.filter_append, List.filter_eq_self.mpr d.isDigit, filter_ending]
  unfold numericPart
  simp only [hfilter]
  rw [if_neg (List.append_ne_nil_of_left_ne_nil d.ne_nil _), Nat.ofDigitChars_append,
    Nat.ofDigitChars_eq_ofDigitChars_zero]
  rfl

theorem numericPart_chars (d : Digits) : numericPart d.chars = d.value := by
  unfold numericPart
  rw [List.filter_eq_self.mpr d.isDigit]
  exact if_neg d.ne_nil

theorem parseVersion_text : parseVersion v.text = (v.front.splitOn '.').map numericPart := by
  have hblank : ' ' ∉ v.front := v.notMem_front (by decide) (by decide)
  have hparen : '(' ∉ v.front := v.notMem_front (by decide) (by decide)
  have hfirst : (v.text.toList.splitOn ' ').headD [] = v.front := by
    rw [text, String.toList_ofList, channelChars]
    split
    · rw [List.append_nil, List.splitOn_eq_singleton hblank]
      rfl
    · rw [List.splitOn_append_cons_self_of_not_mem hblank]
      rfl
  unfold parseVersion
  simp only [hfirst, List.splitOn_eq_singleton hparen, List.headD_cons,
    strip_of_noSpace v.isSpace_of_mem_front]

theorem dot_notMem_chars (d : Digits) : '.' ∉ d.chars := notMem_of_digits d.isDigit (by decide)

theorem dot_notMem_ending : '.' ∉ v.ending := by
  intro h
  rcases v.of_mem_ending h with hdigit | hletter
  · exact absurd hdigit (by decide)
  · exact absurd hletter (by decide)

theorem dot_notMem_last (d : Digits) : '.' ∉ d.chars ++ v.ending := by
  rw [List.mem_append, not_or]
  exact ⟨dot_notMem_chars d, v.dot_notMem_ending⟩

theorem parseVersion_of_none (h : v.patch = none) :
    parseVersion v.text = [v.major.value, numericPart (v.minor.chars ++ v.ending)] := by
  rw [parseVersion_text, front, h, List.splitOn_append_cons_self_of_not_mem (dot_notMem_chars _),
    List.splitOn_eq_singleton (v.dot_notMem_last _), List.map_cons, List.map_singleton,
    numericPart_chars]

theorem parseVersion_of_some {patch : Digits} (h : v.patch = some patch) :
    parseVersion v.text =
      [v.major.value, v.minor.value, numericPart (patch.chars ++ v.ending)] := by
  rw [parseVersion_text, front, h, List.splitOn_append_cons_self_of_not_mem (dot_notMem_chars _),
    List.splitOn_append_cons_self_of_not_mem (dot_notMem_chars _),
    List.splitOn_eq_singleton (v.dot_notMem_last _), List.map_cons, List.map_cons,
    List.map_singleton, numericPart_chars, numericPart_chars]

theorem parseVersion_minimum (a b : Digits) :
    parseVersion (minimum a b).text = [a.value, b.value] := by
  have hending : (minimum a b).ending = [] := rfl
  rw [parseVersion_of_none _ rfl, hending, List.append_nil]
  simp only [minimum, numericPart_chars]

/-! ### The head of the text -/

theorem spanDigits_chars (d : Digits) {rest : List Char}
    (hrest : ∀ c ∈ rest.head?, c.isDigit = false) :
    spanDigits (d.chars ++ rest) = some (d.value, rest) := by
  unfold spanDigits
  simp only [takeWhile_run d.isDigit hrest, dropWhile_run d.isDigit hrest]
  rw [if_neg d.ne_nil, digitsValue_eq d.ne_nil d.isDigit]
  rfl

theorem spanDotDigits_eq_none {cs : List Char} (h : ∀ c ∈ cs.head?, c ≠ '.') :
    spanDotDigits cs = none := by
  cases cs with
  | nil => rfl
  | cons c cs =>
      unfold spanDotDigits
      split
      · rename_i heq
        exact absurd (List.cons.inj heq).1 (h c rfl)
      · rfl

theorem head_rest : ∀ c ∈ (v.ending ++ v.channelChars).head?, c ∈ ['b', 'r', ' '] := by
  unfold ending channelChars
  cases v.preRelease with
  | none =>
      cases v.channel with
      | none => simp
      | some channel => simp
  | some pre =>
      obtain ⟨stage, n⟩ := pre
      cases stage with
      | beta => simp [PreRelease.chars]
      | rc => simp [PreRelease.chars]

theorem parseRouterosVersion_text :
    parseRouterosVersion v.text =
      (v.major.value, v.minor.value, (v.patch.map Digits.value).getD 0) := by
  have hother : ∀ c ∈ ['b', 'r', ' '], c.isDigit = false ∧ c ≠ '.' := by
    simp
  have hdigit : ∀ c ∈ (v.ending ++ v.channelChars).head?, c.isDigit = false :=
    fun c hc => (hother c (v.head_rest c hc)).1
  have hnoDot : spanDotDigits (v.ending ++ v.channelChars) = none :=
    spanDotDigits_eq_none fun c hc => (hother c (v.head_rest c hc)).2
  have hdot : ∀ (d : Digits) {rest : List Char}, (∀ c ∈ rest.head?, c.isDigit = false) →
      spanDotDigits ('.' :: (d.chars ++ rest)) = some (d.value, rest) :=
    fun d _ hrest => spanDigits_chars d hrest
  have hhead : ∀ rest : List Char, ∀ c ∈ ('.' :: rest).head?, c.isDigit = false := by
    intro rest c hc
    obtain rfl := Option.some.inj hc
    decide
  unfold parseRouterosVersion
  rw [v.strip_text, text, String.toList_ofList, front, List.append_assoc, List.cons_append,
    spanDigits_chars v.major (hhead _)]
  dsimp only
  cases v.patch with
  | none =>
      rw [List.append_assoc, hdot v.minor hdigit]
      dsimp only
      rw [hnoDot]
      rfl
  | some patch =>
      dsimp only
      rw [List.append_assoc, List.cons_append, hdot v.minor (hhead _), List.append_assoc]
      dsimp only
      rw [hdot patch hdigit]
      rfl

end VersionText

/-! ### The two checks -/

theorem zero_le_compareParts_cons (a b : ℕ) (as bs : List ℕ) :
    0 ≤ compareParts (a :: as) (b :: bs) ↔ b < a ∨ b = a ∧ 0 ≤ compareParts as bs := by
  rw [compareParts]
  split
  · omega
  · split
    · omega
    · have hab : b = a := by omega
      simp [hab]

theorem minimum_le_iff (a b : ℕ) (v : ℕ × ℕ × ℕ) :
    toLex (a, toLex (b, 0)) ≤ toLex (v.1, toLex v.2) ↔ a < v.1 ∨ a = v.1 ∧ b ≤ v.2.1 := by
  rw [Prod.Lex.toLex_le_toLex, Prod.Lex.toLex_le_toLex]
  dsimp only
  omega

namespace VersionText

variable (v : VersionText) (a b : Digits)

/-- Without a patch number, the last part is the minor number with the ending. -/
theorem compareVersions_of_none (h : v.patch = none) :
    0 ≤ compareVersions v.text (minimum a b).text ↔
      a.value < v.major.value ∨ a.value = v.major.value ∧
        b.value ≤ numericPart (v.minor.chars ++ v.ending) := by
  have hend : compareParts [] [] = 0 := rfl
  unfold compareVersions
  rw [v.parseVersion_of_none h, parseVersion_minimum]
  simp only [List.length_cons, List.length_nil, max_self, Nat.sub_self, List.replicate_zero,
    List.append_nil, zero_le_compareParts_cons, hend]
  omega

/-- With one, the ending is not compared with anything but zero. -/
theorem compareVersions_of_some {patch : Digits} (h : v.patch = some patch) :
    0 ≤ compareVersions v.text (minimum a b).text ↔
      a.value < v.major.value ∨ a.value = v.major.value ∧ b.value ≤ v.minor.value := by
  have hend : compareParts [] [] = 0 := rfl
  unfold compareVersions
  rw [v.parseVersion_of_some h, parseVersion_minimum]
  simp only [List.length_cons, List.length_nil, Nat.zero_add, Nat.reduceAdd, Nat.max_eq_left,
    Nat.reduceLeDiff, Nat.sub_self, Nat.reduceSub, List.replicate_zero, List.replicate_one,
    List.append_nil, List.cons_append, List.nil_append, zero_le_compareParts_cons, hend]
  omega

/-- **When the two checks agree**: unless the version has the minimum's major number, a smaller
minor number and no patch number, and `beta` or `rc` with a number whose digits, put behind those of
the minor number, reach the minimum. -/
theorem versions_agree_iff :
    ((0 ≤ compareVersions v.text (minimum a b).text) ↔
        toLex (a.value, toLex (b.value, 0)) ≤
          toLex ((parseRouterosVersion v.text).1, toLex (parseRouterosVersion v.text).2)) ↔
      ¬ (v.patch = none ∧ v.major.value = a.value ∧ v.minor.value < b.value ∧
        ∃ stage n, v.preRelease = some (stage, n) ∧
          b.value ≤ 10 ^ n.chars.length * v.minor.value + n.value) := by
  rw [minimum_le_iff, v.parseRouterosVersion_text]
  dsimp only
  cases hpatch : v.patch with
  | some patch =>
      rw [v.compareVersions_of_some a b hpatch]
      simp
  | none =>
      rw [v.compareVersions_of_none a b hpatch, v.numericPart_ending]
      cases hpre : v.preRelease with
      | none =>
          have hdigits : v.endingDigits = [] := by
            rw [endingDigits, hpre]
          simp [hdigits]
      | some pre =>
          obtain ⟨stage, n⟩ := pre
          have hdigits : v.endingDigits = n.chars := by
            rw [endingDigits, hpre]
          have hexists : (∃ stage' n', some (stage, n) = some (stage', n') ∧
              b.value ≤ 10 ^ n'.chars.length * v.minor.value + n'.value) ↔
              b.value ≤ 10 ^ n.chars.length * v.minor.value + n.value := by
            constructor
            · rintro ⟨stage', n', heq, hle⟩
              obtain ⟨-, rfl⟩ := Prod.mk.inj (Option.some.inj heq)
              exact hle
            · intro hle
              exact ⟨stage, n, rfl, hle⟩
          have hvalue : Nat.ofDigitChars 10 n.chars 0 = n.value := rfl
          have hgrow : v.minor.value ≤ 10 ^ n.chars.length * v.minor.value :=
            Nat.le_mul_of_pos_left _ (Nat.pow_pos (by decide))
          rw [hdigits, hvalue, hexists]
          simp only [true_and]
          omega

/-- `6.5rc1` passes the check for version 6.40, as 6.51. -/
theorem prerelease_passes :
    (⟨.ofNat 6, .ofNat 5, none, some (.rc, .ofNat 1), none⟩ : VersionText).text = "6.5rc1" ∧
      (minimum (.ofNat 6) (.ofNat 40)).text = "6.40" ∧
      compareVersions "6.5rc1" "6.40" = 1 ∧ parseRouterosVersion "6.5rc1" = (6, 5, 0) ∧
      ¬ toLex (6, toLex (40, 0)) ≤ toLex (6, toLex (5, 0)) := by
  decide

end VersionText

end IspBilling
