import Mathlib.Data.Nat.Notation
import Mathlib.Data.List.Basic

/-! # Base64 texts

`encode` writes bytes as base64 in the URL-safe alphabet, four characters for three bytes, with `=`
up to a multiple of four.  `decode` reads a text as Python's decoder does: it takes `+` and `/`
for `-` and `_`, passes over characters that are no digits, and refuses a text that ends inside a
group of four.

`decode_encode` is the round trip.  `encode_eq_body_append` says that the padding is determined by
the length of the text before it, and `decode_map` that a text may be respelled character by
character as long as the digits stay. -/

namespace Base64

/-! ### The alphabet -/

/-- The character of a digit in the URL-safe alphabet. -/
def digitChar (d : Fin 64) : Char :=
  if d.val < 26 then Char.ofNat (65 + d.val)
  else if d.val < 52 then Char.ofNat (71 + d.val)
  else if d.val < 62 then Char.ofNat (d.val - 4)
  else if d.val = 62 then '-' else '_'

/-- The digit of a character, in either alphabet. -/
def digit? (c : Char) : Option (Fin 64) :=
  if h : 65 ≤ c.toNat ∧ c.toNat ≤ 90 then some ⟨c.toNat - 65, by omega⟩
  else if h : 97 ≤ c.toNat ∧ c.toNat ≤ 122 then some ⟨c.toNat - 71, by omega⟩
  else if h : 48 ≤ c.toNat ∧ c.toNat ≤ 57 then some ⟨c.toNat + 4, by omega⟩
  else if c = '-' ∨ c = '+' then some 62
  else if c = '_' ∨ c = '/' then some 63
  else none

theorem digit?_digitChar : ∀ d : Fin 64, digit? (digitChar d) = some d := by decide

theorem digitChar_ne_pad : ∀ d : Fin 64, digitChar d ≠ '=' := by decide

theorem digitChar_urlSafe :
    ∀ d : Fin 64, (digitChar d).isAlphanum = true ∨ digitChar d = '-' ∨ digitChar d = '_' := by
  decide

/-! ### Writing -/

/-- The upper six bits of the first byte of three. -/
def first (a : UInt8) : Fin 64 := ⟨a.toNat / 4, by have := a.toNat_lt; omega⟩

/-- The lower two bits of the first byte and the upper four of the second one. -/
def second (a b : UInt8) : Fin 64 :=
  ⟨a.toNat % 4 * 16 + b.toNat / 16, by have := b.toNat_lt; omega⟩

/-- The lower four bits of the second byte and the upper two of the third one. -/
def third (b c : UInt8) : Fin 64 :=
  ⟨b.toNat % 16 * 4 + c.toNat / 64, by have := c.toNat_lt; omega⟩

/-- The lower six bits of the third byte. -/
def fourth (c : UInt8) : Fin 64 := ⟨c.toNat % 64, by omega⟩

/-- The digits of the bytes, without the padding. -/
def digits : List UInt8 → List (Fin 64)
  | [] => []
  | [a] => [first a, second a 0]
  | [a, b] => [first a, second a b, third b 0]
  | a :: b :: c :: rest => first a :: second a b :: third b c :: fourth c :: digits rest

/-- The padding of the bytes: what the last group of three lacks. -/
def padding : List UInt8 → ℕ
  | [] => 0
  | [_] => 2
  | [_, _] => 1
  | _ :: _ :: _ :: rest => padding rest

/-- The characters of the bytes, without the padding. -/
def body (bs : List UInt8) : List Char := (digits bs).map digitChar

/-- The text of the bytes, padded to a multiple of four characters. -/
def encode (bs : List UInt8) : List Char := body bs ++ List.replicate (padding bs) '='

theorem length_body (bs : List UInt8) : (body bs).length = (digits bs).length := by
  rw [body, List.length_map]

theorem pad_notMem_body (bs : List UInt8) : '=' ∉ body bs := by
  intro hmem
  obtain ⟨d, -, hd⟩ := List.mem_map.mp hmem
  exact digitChar_ne_pad d hd

theorem urlSafe_of_mem_body {bs : List UInt8} {c : Char} (h : c ∈ body bs) :
    c.isAlphanum = true ∨ c = '-' ∨ c = '_' := by
  obtain ⟨d, -, rfl⟩ := List.mem_map.mp h
  exact digitChar_urlSafe d

theorem mem_encode {bs : List UInt8} {c : Char} (h : c ∈ encode bs) :
    (c.isAlphanum = true ∨ c = '-' ∨ c = '_') ∨ c = '=' := by
  rcases List.mem_append.mp h with hbody | hpad
  · exact .inl (urlSafe_of_mem_body hbody)
  · exact .inr (List.eq_of_mem_replicate hpad)

theorem padding_spec (bs : List UInt8) :
    padding bs ≤ 2 ∧ ((digits bs).length + padding bs) % 4 = 0 := by
  induction bs using digits.induct with
  | case1 => simp [digits, padding]
  | case2 a => simp [digits, padding]
  | case3 a b => simp [digits, padding]
  | case4 a b c rest ih =>
      simp only [digits, padding, List.length_cons]
      omega

/-- **The padding is known from the length**: it is what the text before it lacks of a multiple
of four. -/
theorem encode_eq_body_append (bs : List UInt8) :
    encode bs = body bs ++ List.replicate ((4 - (body bs).length % 4) % 4) '=' := by
  obtain ⟨hle, hmod⟩ := padding_spec bs
  have hlen : padding bs = (4 - (body bs).length % 4) % 4 := by
    rw [length_body]
    omega
  rw [encode, hlen]

/-! ### Reading -/

/-- Where the decoder stands in a group of four characters, with the bits it has not given out. -/
inductive Quad
  | start
  | one (high : Fin 64)
  | two (high : Fin 16)
  | three (high : Fin 4)

namespace Quad

/-- The digits of the group that have been read. -/
def pos : Quad → ℕ
  | start => 0
  | one _ => 1
  | two _ => 2
  | three _ => 3

/-- Reading a digit: the byte that is complete, if one is, and the place after it. -/
def read : Quad → Fin 64 → Option UInt8 × Quad
  | start, v => (none, one v)
  | one high, v =>
      (some (UInt8.ofNat (high.val * 4 + v.val / 16)), two ⟨v.val % 16, by omega⟩)
  | two high, v => (some (UInt8.ofNat (high.val * 16 + v.val / 4)), three ⟨v.val % 4, by omega⟩)
  | three high, v => (some (UInt8.ofNat (high.val * 64 + v.val)), start)

end Quad

/-- The decoder inside a text: `pads` counts the `=` since the last digit. -/
def decodeFrom : Quad → ℕ → List Char → Option (List UInt8)
  | .start, _, [] => some []
  | _, _, [] => none
  | q, pads, c :: cs =>
      if c = '=' then
        if 2 ≤ q.pos then
          -- a full padding ends the text, whatever follows
          if 4 ≤ q.pos + (pads + 1) then some [] else decodeFrom q (pads + 1) cs
        else decodeFrom q pads cs
      else
        match digit? c with
        | none => decodeFrom q pads cs
        | some v => (decodeFrom (q.read v).2 0 cs).map ((q.read v).1.toList ++ ·)

def decode (cs : List Char) : Option (List UInt8) := decodeFrom .start 0 cs

theorem decodeFrom_digitChar (q : Quad) (pads : ℕ) (d : Fin 64) (cs : List Char) :
    decodeFrom q pads (digitChar d :: cs) =
      (decodeFrom (q.read d).2 0 cs).map ((q.read d).1.toList ++ ·) := by
  rw [decodeFrom, if_neg (digitChar_ne_pad d), digit?_digitChar]

/-! The four digits give the three bytes back. -/

theorem first_second (a b : UInt8) :
    UInt8.ofNat ((first a).val * 4 + (second a b).val / 16) = a := by
  have ha := a.toNat_lt
  have hb := b.toNat_lt
  have hbits : (first a).val * 4 + (second a b).val / 16 = a.toNat := by
    simp only [first, second]
    omega
  rw [hbits, UInt8.ofNat_toNat]

theorem second_third (a b c : UInt8) :
    UInt8.ofNat ((second a b).val % 16 * 16 + (third b c).val / 4) = b := by
  have hb := b.toNat_lt
  have hc := c.toNat_lt
  have hbits : (second a b).val % 16 * 16 + (third b c).val / 4 = b.toNat := by
    simp only [second, third]
    omega
  rw [hbits, UInt8.ofNat_toNat]

theorem third_fourth (b c : UInt8) :
    UInt8.ofNat ((third b c).val % 4 * 64 + (fourth c).val) = c := by
  have hc := c.toNat_lt
  have hbits : (third b c).val % 4 * 64 + (fourth c).val = c.toNat := by
    simp only [third, fourth]
    omega
  rw [hbits, UInt8.ofNat_toNat]

/-- Whole groups of four give whole groups of three, and leave the decoder where it was. -/
theorem decodeFrom_group (a b c : UInt8) (pads : ℕ) (cs : List Char) :
    decodeFrom .start pads
        (digitChar (first a) :: digitChar (second a b) :: digitChar (third b c) ::
          digitChar (fourth c) :: cs) =
      (decodeFrom .start 0 cs).map (a :: b :: c :: ·) := by
  simp only [decodeFrom_digitChar, Quad.read, first_second, second_third, third_fourth,
    Option.map_map]
  rfl

/-- **The round trip.** -/
theorem decode_encode (bs : List UInt8) : decode (encode bs) = some bs := by
  unfold decode encode body
  induction bs using digits.induct with
  | case1 => rfl
  | case2 a =>
      -- the first `=` is passed over, the second one ends the text
      simp only [digits, padding, List.map_cons, List.map_nil, List.cons_append, List.nil_append,
        decodeFrom_digitChar, Quad.read, first_second]
      rfl
  | case3 a b =>
      simp only [digits, padding, List.map_cons, List.map_nil, List.cons_append, List.nil_append,
        decodeFrom_digitChar, Quad.read, first_second, second_third]
      rfl
  | case4 a b c rest ih =>
      simp only [digits, padding, List.map_cons, List.cons_append]
      rw [decodeFrom_group, ih, Option.map_some]

/-- A text may be respelled character by character, as long as digits and padding stay. -/
theorem decodeFrom_map {f : Char → Char} (hdigit : ∀ c, digit? (f c) = digit? c)
    (hpad : ∀ c, f c = '=' ↔ c = '=') (q : Quad) (pads : ℕ) (cs : List Char) :
    decodeFrom q pads (cs.map f) = decodeFrom q pads cs := by
  induction cs generalizing q pads with
  | nil => rfl
  | cons c cs ih => simp only [List.map_cons, decodeFrom, hpad, hdigit, ih]

theorem decode_map {f : Char → Char} (hdigit : ∀ c, digit? (f c) = digit? c)
    (hpad : ∀ c, f c = '=' ↔ c = '=') (cs : List Char) : decode (cs.map f) = decode cs :=
  decodeFrom_map hdigit hpad .start 0 cs

end Base64
