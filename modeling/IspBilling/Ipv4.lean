import IspBilling.PythonText
import IspBilling.Numeral
import Mathlib.Data.List.OfFn
import Mathlib.Tactic.Ring

/-! # IPv4 addresses and networks

An address is a number of 32 bits, written as four octets with dots between them.  `parse` reads such
a text: four decimal octets, none above 255 and none with a zero in front.  The text of an address is
read back as that address (`parse_text`), and a dotted text is the text of an address exactly when its
octets are octets (`text_eq_dotted_iff`).

The network of an address with a prefix of `len` bits is the block of `2 ^ (32 - len)` addresses that
share the prefix; a shorter prefix has a multiple of its size (`size_eq_mul`).  `hosts` are the
addresses of a network that a device can have. -/

namespace Ipv4

open PythonText Numeral

/-! ### Dotted texts -/

/-- Four numbers with dots between them. -/
def dotted (a b c d : ℕ) : String :=
  toString a ++ "." ++ toString b ++ "." ++ toString c ++ "." ++ toString d

theorem toList_dotted (a b c d : ℕ) :
    (dotted a b c d).toList = ['.'].intercalate
      [Nat.toDigits 10 a, Nat.toDigits 10 b, Nat.toDigits 10 c, Nat.toDigits 10 d] := by
  simp [dotted, List.intercalate, List.intersperse]

theorem splitOn_dotted (a b c d : ℕ) :
    (dotted a b c d).toList.splitOn '.' =
      [Nat.toDigits 10 a, Nat.toDigits 10 b, Nat.toDigits 10 c, Nat.toDigits 10 d] := by
  rw [toList_dotted]
  apply List.splitOn_intercalate
  · intro part hpart
    simp only [List.mem_cons, List.not_mem_nil, or_false] at hpart
    rcases hpart with rfl | rfl | rfl | rfl <;> exact notMem_toDigits rfl _
  · exact List.cons_ne_nil _ _

theorem split_dotted (a b c d : ℕ) :
    split '.' (dotted a b c d) = [toString a, toString b, toString c, toString d] := by
  rw [split, splitOn_dotted]
  simp only [List.map_cons, List.map_nil, Nat.toString_eq_ofList_toDigits]

theorem dotted_inj {a b c d a' b' c' d' : ℕ} :
    dotted a b c d = dotted a' b' c' d' ↔ a = a' ∧ b = b' ∧ c = c' ∧ d = d' := by
  constructor
  · intro h
    have hparts := splitOn_dotted a b c d
    rw [h, splitOn_dotted] at hparts
    simp only [List.cons.injEq, and_true] at hparts
    obtain ⟨ha, hb, hc, hd⟩ := hparts
    exact ⟨(toDigits_injective ha).symm, (toDigits_injective hb).symm,
      (toDigits_injective hc).symm, (toDigits_injective hd).symm⟩
  · rintro ⟨rfl, rfl, rfl, rfl⟩
    rfl

theorem notMem_dotted {s : Char} (hs : s.isDigit = false) (hdot : s ≠ '.') (a b c d : ℕ) :
    s ∉ (dotted a b c d).toList := by
  have hnot := notMem_toDigits hs
  simp [dotted, hnot, hdot]

/-! ### Addresses -/

structure Address where
  value : ℕ
  lt : value < 2 ^ 32
deriving DecidableEq, Repr

namespace Address

def octets (x : Address) : ℕ × ℕ × ℕ × ℕ :=
  (x.value / 2 ^ 24, x.value / 2 ^ 16 % 256, x.value / 2 ^ 8 % 256, x.value % 256)

def third (x : Address) : ℕ := x.value / 2 ^ 8 % 256

def number (a b c d : ℕ) : ℕ := a * 2 ^ 24 + b * 2 ^ 16 + c * 2 ^ 8 + d

def ofOctets (a b c d : ℕ) (h : a < 256 ∧ b < 256 ∧ c < 256 ∧ d < 256) : Address :=
  ⟨number a b c d, by unfold number; omega⟩

def text (x : Address) : String :=
  dotted x.octets.1 x.octets.2.1 x.octets.2.2.1 x.octets.2.2.2

theorem exists_octets (x : Address) : ∃ a b c d, a < 256 ∧ b < 256 ∧ c < 256 ∧ d < 256 ∧
    x.value = number a b c d ∧ x.text = dotted a b c d ∧ x.third = c := by
  have hlt := x.lt
  refine ⟨_, _, _, _, ?_, ?_, ?_, ?_, ?_, rfl, rfl⟩
  all_goals simp only [octets, number]; omega

theorem octets_ofOctets {a b c d : ℕ} (h : a < 256 ∧ b < 256 ∧ c < 256 ∧ d < 256) :
    (ofOctets a b c d h).octets = (a, b, c, d) := by
  simp only [octets, ofOctets, number, Prod.mk.injEq]
  omega

theorem text_ofOctets {a b c d : ℕ} (h : a < 256 ∧ b < 256 ∧ c < 256 ∧ d < 256) :
    (ofOctets a b c d h).text = dotted a b c d := by
  rw [text, octets_ofOctets]

/-- A dotted text is the text of an address exactly when its numbers are the octets of it. -/
theorem text_eq_dotted_iff {x : Address} {a b c d : ℕ} : x.text = dotted a b c d ↔
    (a < 256 ∧ b < 256 ∧ c < 256 ∧ d < 256) ∧ x.value = number a b c d := by
  obtain ⟨a', b', c', d', ha, hb, hc, hd, hvalue, htext, -⟩ := x.exists_octets
  rw [htext, hvalue, dotted_inj]
  unfold number
  omega

theorem text_injective {x y : Address} (h : x.text = y.text) : x = y := by
  obtain ⟨a, b, c, d, -, -, -, -, hvalue, htext, -⟩ := y.exists_octets
  have hx := text_eq_dotted_iff.mp (h.trans htext)
  cases x
  cases y
  simp_all

theorem notMem_text {s : Char} (hs : s.isDigit = false) (hdot : s ≠ '.') (x : Address) :
    s ∉ x.text.toList :=
  notMem_dotted hs hdot _ _ _ _

theorem text_ne_empty (x : Address) : x.text ≠ "" := by
  simp [text, dotted]

end Address

/-! ### Reading an address -/

/-- One octet of a text: one to three digits, with no zero in front, up to 255. -/
def parseOctet (cs : List Char) : Option ℕ :=
  if cs = [] then none
  else if cs.all Char.isDigit = false then none
  else if 3 < cs.length then none
  else if cs ≠ ['0'] ∧ cs.head? = some '0' then none
  else if 255 < Nat.ofDigitChars 10 cs 0 then none
  else some (Nat.ofDigitChars 10 cs 0)

/-- `IPv4Address(text)`; `none` for a text that is no address. -/
def parse (s : String) : Option Address :=
  match s.toList.splitOn '.' with
  | [a, b, c, d] =>
      match parseOctet a, parseOctet b, parseOctet c, parseOctet d with
      | some a, some b, some c, some d =>
          if h : a < 256 ∧ b < 256 ∧ c < 256 ∧ d < 256 then some (.ofOctets a b c d h) else none
      | _, _, _, _ => none
  | _ => none

theorem parseOctet_toDigits {n : ℕ} (h : n < 256) : parseOctet (Nat.toDigits 10 n) = some n := by
  have hdigits : (Nat.toDigits 10 n).all Char.isDigit = true := by
    rw [List.all_eq_true]
    exact Numeral.isDigit_of_mem_toDigits
  have hlength : (Nat.toDigits 10 n).length ≤ 3 := by
    rw [Nat.length_toDigits_le_iff (by decide) (by decide)]
    omega
  have hzero : ¬ (Nat.toDigits 10 n ≠ ['0'] ∧ (Nat.toDigits 10 n).head? = some '0') := by
    rintro ⟨hne, hhead⟩
    rcases Nat.eq_zero_or_pos n with rfl | hpos
    · exact hne (Nat.toDigits_zero 10)
    · exact Numeral.head?_toDigits_ne_zero hpos hhead
  unfold parseOctet
  rw [if_neg Nat.toDigits_ne_nil, if_neg (by simp [hdigits]), if_neg (by omega), if_neg hzero,
    Nat.ofDigitChars_ten_toDigits, if_neg (by omega)]

theorem parse_text (x : Address) : parse x.text = some x := by
  obtain ⟨a, b, c, d, ha, hb, hc, hd, hvalue, htext, -⟩ := x.exists_octets
  have hx : x = .ofOctets a b c d ⟨ha, hb, hc, hd⟩ := by
    apply Address.text_injective
    rw [htext, Address.text_ofOctets]
  unfold parse
  rw [htext, splitOn_dotted]
  simp only [parseOctet_toDigits ha, parseOctet_toDigits hb, parseOctet_toDigits hc,
    parseOctet_toDigits hd]
  rw [dif_pos ⟨ha, hb, hc, hd⟩, hx]

/-! ### Networks -/

/-- The number of addresses that share a prefix of `len` bits. -/
def size (len : ℕ) : ℕ := 2 ^ (32 - len)

/-- `y` is in the network of `x` with a prefix of `len` bits. -/
def Inside (len : ℕ) (x y : Address) : Prop := x.value / size len = y.value / size len

instance (len : ℕ) (x y : Address) : Decidable (Inside len x y) :=
  inferInstanceAs (Decidable (_ = _))

theorem size_pos (len : ℕ) : 0 < size len := Nat.two_pow_pos _

theorem size_eq_mul {len len' : ℕ} (h : len ≤ len') (h32 : len' ≤ 32) :
    size len = size len' * 2 ^ (len' - len) := by
  unfold size
  rw [← pow_add]
  congr 1
  omega

theorem Inside.symm {len : ℕ} {x y : Address} (h : Inside len x y) : Inside len y x := Eq.symm h

theorem Inside.trans {len : ℕ} {x y z : Address} (h : Inside len x y) (h' : Inside len y z) :
    Inside len x z := Eq.trans h h'

/-- The first address of the network of `x`. -/
def base (len : ℕ) (x : Address) : ℕ := x.value / size len * size len

theorem base_add_lt {len : ℕ} (hlen : len ≤ 32) (x : Address) {k : ℕ} (hk : k < size len) :
    base len x + k < 2 ^ 32 := by
  have hpow : 2 ^ 32 = size len * 2 ^ len := by
    unfold size
    rw [← pow_add]
    congr 1
    omega
  have hdiv : x.value / size len < 2 ^ len := by
    apply Nat.div_lt_of_lt_mul
    rw [← hpow]
    exact x.lt
  unfold base
  calc x.value / size len * size len + k
      < x.value / size len * size len + size len := by omega
    _ = (x.value / size len + 1) * size len := by ring
    _ ≤ 2 ^ len * size len := Nat.mul_le_mul_right _ hdiv
    _ = 2 ^ 32 := by rw [hpow, Nat.mul_comm]

/-- `network_address`. -/
def networkAddress (len : ℕ) (hlen : len ≤ 32) (x : Address) : Address :=
  ⟨base len x, base_add_lt hlen x (size_pos len)⟩

/-- `netmask`. -/
def netmask (len : ℕ) : Address :=
  ⟨2 ^ 32 - size len, Nat.sub_lt (by decide) (size_pos len)⟩

/-- `hosts()` of a network with at least two host bits: all but its first and last address. -/
def hosts (len : ℕ) (hlen : len ≤ 32) (x : Address) : List Address :=
  List.ofFn (n := size len - 2) fun k =>
    ⟨base len x + (1 + k), base_add_lt hlen x (by omega)⟩

theorem length_hosts (len : ℕ) (hlen : len ≤ 32) (x : Address) :
    (hosts len hlen x).length = size len - 2 := List.length_ofFn

theorem getElem?_hosts {len : ℕ} (hlen : len ≤ 32) (x : Address) {k : ℕ} (hk : k < size len - 2) :
    ∃ y, (hosts len hlen x)[k]? = some y ∧ y.value = base len x + (1 + k) := by
  have hk' : k < (hosts len hlen x).length := by rwa [length_hosts]
  refine ⟨_, List.getElem?_eq_getElem hk', ?_⟩
  simp [hosts]

end Ipv4
