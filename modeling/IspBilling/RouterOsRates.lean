import IspBilling.Numeral
import IspBilling.PythonText
import Mathlib.Data.Nat.Digits.Defs
import Mathlib.Data.Option.Basic

/-! # The rate limits of RouterOS

The `rate-limit` of a user profile is a text with up to four parts, each a pair `rx[/tx]`:

    rx-rate[/tx-rate] [rx-burst-rate[/tx-burst-rate] [rx-burst-threshold[/tx-burst-threshold]
      [rx-burst-time[/tx-burst-time]]]]

A rate is a number of bits per second, with the suffixes `k`, `M` and `G` for powers of thousand; a
time is a number of seconds, with the suffixes `s`, `m` and `h`.  A pair without `tx` gives both
directions the same value.  Without burst thresholds the rates are taken, without burst times one
second.

`read` is the value of such a text.  `read_plain` and `read_burst` compute it for texts that are put
together from numerals. -/

namespace RouterOsRates

open Numeral PythonText

/-- The values of the two directions. -/
structure Directions where
  rx : ℕ
  tx : ℕ
deriving DecidableEq, Repr

structure Burst where
  rate : Directions
  threshold : Directions
  time : Directions
deriving DecidableEq, Repr

/-- The value of a rate limit: bits per second and seconds. -/
structure RateLimit where
  rate : Directions
  burst : Option Burst
deriving DecidableEq, Repr

/-- A number at the front of a text, and what follows it. -/
def readNumber (cs : List Char) : Option (ℕ × List Char) :=
  let digits := cs.takeWhile Char.isDigit
  if digits = [] then none else some (Nat.ofDigitChars 10 digits 0, cs.dropWhile Char.isDigit)

/-- The factor of the suffix of a rate. -/
def rateUnit : List Char → Option ℕ
  | [] => some 1
  | ['k'] => some 1000
  | ['M'] => some 1000000
  | ['G'] => some 1000000000
  | _ => none

def timeUnit : List Char → Option ℕ
  | [] => some 1
  | ['s'] => some 1
  | ['m'] => some 60
  | ['h'] => some 3600
  | _ => none

def readQuantity (unit : List Char → Option ℕ) (cs : List Char) : Option ℕ := do
  let (n, suffix) ← readNumber cs
  let factor ← unit suffix
  pure (n * factor)

/-- A pair of quantities; a single one stands for both. -/
def readDirections (unit : List Char → Option ℕ) (cs : List Char) : Option Directions :=
  match cs.splitOn '/' with
  | [a] => (readQuantity unit a).map (fun n => ⟨n, n⟩)
  | [a, b] => do pure ⟨← readQuantity unit a, ← readQuantity unit b⟩
  | _ => none

def read (cs : List Char) : Option RateLimit :=
  match cs.splitOn ' ' with
  | [r] => do pure ⟨← readDirections rateUnit r, none⟩
  | [r, b] => do
      let rate ← readDirections rateUnit r
      pure ⟨rate, some ⟨← readDirections rateUnit b, rate, ⟨1, 1⟩⟩⟩
  | [r, b, t] => do
      pure ⟨← readDirections rateUnit r,
        some ⟨← readDirections rateUnit b, ← readDirections rateUnit t, ⟨1, 1⟩⟩⟩
  | [r, b, t, s] => do
      pure ⟨← readDirections rateUnit r, some ⟨← readDirections rateUnit b,
        ← readDirections rateUnit t, ← readDirections timeUnit s⟩⟩
  | _ => none

/-! ### Texts made of numerals -/

/-- The numeral of `n` with a suffix. -/
def quantity (n : ℕ) (suffix : List Char) : List Char := Nat.toDigits 10 n ++ suffix

def pair (d : Directions) (suffix : List Char) : List Char :=
  quantity d.rx suffix ++ '/' :: quantity d.tx suffix

/-- The suffix ends the number, and separates nothing. -/
structure IsSuffix (suffix : List Char) : Prop where
  head : ∀ c ∈ suffix.head?, c.isDigit = false
  slash : '/' ∉ suffix
  blank : ' ' ∉ suffix

theorem IsSuffix.nil : IsSuffix [] := ⟨nofun, List.not_mem_nil, List.not_mem_nil⟩

theorem IsSuffix.singleton {c : Char} (hdigit : c.isDigit = false) (hslash : '/' ≠ c)
    (hblank : ' ' ≠ c) : IsSuffix [c] where
  head := by
    intro d hd
    obtain rfl : c = d := Option.some_inj.mp hd
    exact hdigit
  slash := by simpa using hslash
  blank := by simpa using hblank

theorem notMem_quantity {c : Char} (hc : c.isDigit = false) {suffix : List Char} (hs : c ∉ suffix)
    (n : ℕ) : c ∉ quantity n suffix := by
  unfold quantity
  rw [List.mem_append]
  rintro (h | h)
  · exact notMem_toDigits hc n h
  · exact hs h

theorem readNumber_quantity {suffix : List Char} (hs : IsSuffix suffix) (n : ℕ) :
    readNumber (quantity n suffix) = some (n, suffix) := by
  unfold readNumber quantity
  rw [takeWhile_run isDigit_of_mem_toDigits hs.head, dropWhile_run isDigit_of_mem_toDigits hs.head,
    if_neg Nat.toDigits_ne_nil, Nat.ofDigitChars_ten_toDigits]

theorem readQuantity_quantity {suffix : List Char} (hs : IsSuffix suffix)
    {unit : List Char → Option ℕ} {factor : ℕ} (hu : unit suffix = some factor) (n : ℕ) :
    readQuantity unit (quantity n suffix) = some (n * factor) := by
  simp [readQuantity, readNumber_quantity hs, hu]

/-- The pair scaled by a factor. -/
def Directions.scale (d : Directions) (factor : ℕ) : Directions := ⟨d.rx * factor, d.tx * factor⟩

theorem readDirections_pair {suffix : List Char} (hs : IsSuffix suffix)
    {unit : List Char → Option ℕ} {factor : ℕ} (hu : unit suffix = some factor) (d : Directions) :
    readDirections unit (pair d suffix) = some (d.scale factor) := by
  have hslash : ∀ n, '/' ∉ quantity n suffix := notMem_quantity (by decide) hs.slash
  unfold readDirections pair
  rw [List.splitOn_append_cons_self, List.splitOn_eq_singleton (hslash _),
    List.splitOn_eq_singleton (hslash _)]
  simp [readQuantity_quantity hs hu, Directions.scale]

theorem blank_notMem_pair {suffix : List Char} (hs : IsSuffix suffix) (d : Directions) :
    ' ' ∉ pair d suffix := by
  have hblank : ∀ n, ' ' ∉ quantity n suffix := notMem_quantity (by decide) hs.blank
  unfold pair
  rw [List.mem_append, List.mem_cons]
  rintro (h | h | h)
  · exact hblank _ h
  · cases h
  · exact hblank _ h

/-- **A plain rate limit is read back.** -/
theorem read_plain {suffix : List Char} (hs : IsSuffix suffix) {factor : ℕ}
    (hu : rateUnit suffix = some factor) (rate : Directions) :
    read (pair rate suffix) = some ⟨rate.scale factor, none⟩ := by
  unfold read
  rw [List.splitOn_eq_singleton (blank_notMem_pair hs rate)]
  simp [readDirections_pair hs hu]

/-- **A rate limit with burst is read back.** -/
theorem read_burst {suffix timeSuffix : List Char} (hs : IsSuffix suffix)
    (ht : IsSuffix timeSuffix) {factor timeFactor : ℕ} (hu : rateUnit suffix = some factor)
    (hv : timeUnit timeSuffix = some timeFactor) (rate burst threshold time : Directions) :
    read (pair rate suffix ++ ' ' :: (pair burst suffix ++ ' ' :: (pair threshold suffix ++
        ' ' :: pair time timeSuffix))) =
      some ⟨rate.scale factor, some ⟨burst.scale factor, threshold.scale factor,
        time.scale timeFactor⟩⟩ := by
  unfold read
  rw [List.splitOn_append_cons_self, List.splitOn_append_cons_self, List.splitOn_append_cons_self,
    List.splitOn_eq_singleton (blank_notMem_pair hs rate),
    List.splitOn_eq_singleton (blank_notMem_pair hs burst),
    List.splitOn_eq_singleton (blank_notMem_pair hs threshold),
    List.splitOn_eq_singleton (blank_notMem_pair ht time)]
  simp [readDirections_pair hs hu, readDirections_pair ht hv]

end RouterOsRates
