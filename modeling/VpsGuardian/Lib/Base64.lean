import Mathlib

/-!
Base 64 (RFC 4648): three bytes become four digits of six bits, a last group of
one or two bytes is filled up with `=`. The two alphabets of the RFC differ in
the last two digits.
-/

namespace VpsGuardian.Lib.Base64

def charsFrom (first : Char) (count : Nat) : List Char :=
  (List.range count).map fun i => Char.ofNat (first.toNat + i)

def letters : List Char := charsFrom 'A' 26 ++ charsFrom 'a' 26 ++ charsFrom '0' 10

def standard : List Char := letters ++ ['+', '/']

def urlSafe : List Char := letters ++ ['-', '_']

/-- The digit of a value below 64. -/
def digit (alphabet : List Char) (value : Nat) : Char := alphabet.getD value '='

/-- The value of a digit; `none` for the padding and every foreign character. -/
def value (alphabet : List Char) (c : Char) : Option Nat := alphabet.idxOf? c

def encode (alphabet : List Char) : List UInt8 → List Char
  | [] => []
  | [a] => [digit alphabet (a.toNat / 4), digit alphabet (a.toNat % 4 * 16), '=', '=']
  | [a, b] =>
      [digit alphabet (a.toNat / 4), digit alphabet (a.toNat % 4 * 16 + b.toNat / 16),
        digit alphabet (b.toNat % 16 * 4), '=']
  | a :: b :: c :: rest =>
      digit alphabet (a.toNat / 4) :: digit alphabet (a.toNat % 4 * 16 + b.toNat / 16) ::
        digit alphabet (b.toNat % 16 * 4 + c.toNat / 64) :: digit alphabet (c.toNat % 64) ::
        encode alphabet rest

/-- The last group of a text, padded or not. Bits beyond the last byte are ignored. -/
def decodeLast (alphabet : List Char) (p q r s : Char) : Option (List UInt8) := do
  let p ← value alphabet p
  let q ← value alphabet q
  let first := UInt8.ofNat (p * 4 + q / 16)
  if r = '=' then
    if s = '=' then some [first] else none
  else
    let r ← value alphabet r
    let second := UInt8.ofNat (q % 16 * 16 + r / 4)
    if s = '=' then some [first, second]
    else
      let s ← value alphabet s
      some [first, second, .ofNat (r % 4 * 64 + s)]

def decode (alphabet : List Char) : List Char → Option (List UInt8)
  | [] => some []
  | [p, q, r, s] => decodeLast alphabet p q r s
  | p :: q :: r :: s :: rest => do
      let p ← value alphabet p
      let q ← value alphabet q
      let r ← value alphabet r
      let s ← value alphabet s
      let tail ← decode alphabet rest
      some (.ofNat (p * 4 + q / 16) :: .ofNat (q % 16 * 16 + r / 4) ::
        .ofNat (r % 4 * 64 + s) :: tail)
  | _ => none

/-- Sixty-four different digits, none of them the padding. -/
structure IsAlphabet (alphabet : List Char) : Prop where
  length : alphabet.length = 64
  nodup : alphabet.Nodup
  padding : '=' ∉ alphabet

theorem isAlphabet_standard : IsAlphabet standard :=
  ⟨by decide, by decide +kernel, by decide +kernel⟩

theorem isAlphabet_urlSafe : IsAlphabet urlSafe :=
  ⟨by decide, by decide +kernel, by decide +kernel⟩

variable {alphabet : List Char}

theorem digit_mem (h : IsAlphabet alphabet) {n : Nat} (hn : n < 64) :
    digit alphabet n ∈ alphabet := by
  have hn : n < alphabet.length := h.length ▸ hn
  rw [digit, List.getD_eq_getElem _ _ hn]
  exact List.getElem_mem hn

theorem digit_ne_padding (h : IsAlphabet alphabet) {n : Nat} (hn : n < 64) :
    digit alphabet n ≠ '=' := by
  intro hd
  exact h.padding (hd ▸ digit_mem h hn)

theorem value_digit (h : IsAlphabet alphabet) {n : Nat} (hn : n < 64) :
    value alphabet (digit alphabet n) = some n := by
  have hn' : n < alphabet.length := h.length ▸ hn
  rw [value, digit, List.getD_eq_getElem _ _ hn', List.idxOf?_eq_some_iff]
  refine ⟨hn', rfl, fun j hj heq => ?_⟩
  have : j = n := (List.getElem_inj h.nodup).mp heq
  omega

theorem ofNat_toNat_eq {n : Nat} {a : UInt8} (h : n = a.toNat) : UInt8.ofNat n = a := by
  rw [h, UInt8.ofNat_toNat]

/-- A group of one, two or three bytes comes back from its four digits. -/
theorem decodeLast_encode (h : IsAlphabet alphabet) :
    (∀ a, decode alphabet (encode alphabet [a]) = some [a]) ∧
      (∀ a b, decode alphabet (encode alphabet [a, b]) = some [a, b]) ∧
      ∀ a b c, decode alphabet (encode alphabet [a, b, c]) = some [a, b, c] := by
  refine ⟨fun a => ?_, fun a b => ?_, fun a b c => ?_⟩
  · have ha := a.toNat_lt
    simp only [encode, decode, decodeLast]
    rw [value_digit h (by omega), value_digit h (by omega)]
    simp only [Option.bind_eq_bind, Option.bind_some, if_true]
    congr 2
    exact ofNat_toNat_eq (by omega)
  · have ha := a.toNat_lt
    have hb := b.toNat_lt
    have hr := digit_ne_padding h (n := b.toNat % 16 * 4) (by omega)
    simp only [encode, decode, decodeLast]
    rw [value_digit h (by omega), value_digit h (by omega), value_digit h (by omega)]
    simp only [Option.bind_eq_bind, Option.bind_some, if_true, if_neg hr]
    rw [ofNat_toNat_eq (a := a) (by omega), ofNat_toNat_eq (a := b) (by omega)]
  · have ha := a.toNat_lt
    have hb := b.toNat_lt
    have hc := c.toNat_lt
    have hr := digit_ne_padding h (n := b.toNat % 16 * 4 + c.toNat / 64) (by omega)
    have hs := digit_ne_padding h (n := c.toNat % 64) (by omega)
    simp only [encode, decode, decodeLast]
    rw [value_digit h (by omega), value_digit h (by omega), value_digit h (by omega),
      value_digit h (by omega)]
    simp only [Option.bind_eq_bind, Option.bind_some, if_neg hr, if_neg hs]
    rw [ofNat_toNat_eq (a := a) (by omega), ofNat_toNat_eq (a := b) (by omega),
      ofNat_toNat_eq (a := c) (by omega)]

theorem encode_ne_nil {bytes : List UInt8} (h : bytes ≠ []) : encode alphabet bytes ≠ [] := by
  fun_cases encode alphabet bytes <;> simp_all

theorem decode_encode (h : IsAlphabet alphabet) (bytes : List UInt8) :
    decode alphabet (encode alphabet bytes) = some bytes := by
  fun_induction encode alphabet bytes with
  | case1 => rfl
  | case2 a => exact (decodeLast_encode h).1 a
  | case3 a b => exact (decodeLast_encode h).2.1 a b
  | case4 a b c rest ih =>
    by_cases hrest : rest = []
    · subst hrest
      exact (decodeLast_encode h).2.2 a b c
    · have ha := a.toNat_lt
      have hb := b.toNat_lt
      have hc := c.toNat_lt
      rw [decode]
      · rw [value_digit h (by omega), value_digit h (by omega), value_digit h (by omega),
          value_digit h (by omega), ih]
        simp only [Option.bind_eq_bind, Option.bind_some]
        rw [ofNat_toNat_eq (a := a) (by omega), ofNat_toNat_eq (a := b) (by omega),
          ofNat_toNat_eq (a := c) (by omega)]
      · exact encode_ne_nil hrest

/-- Every three bytes take four digits; the last group is counted in full. -/
theorem length_encode (bytes : List UInt8) :
    (encode alphabet bytes).length = (bytes.length + 2) / 3 * 4 := by
  fun_induction encode alphabet bytes with
  | case1 => rfl
  | case2 => simp
  | case3 => simp
  | case4 a b c rest ih =>
    simp only [List.length_cons, ih]
    omega

theorem mem_encode (h : IsAlphabet alphabet) (bytes : List UInt8) :
    ∀ c ∈ encode alphabet bytes, c ∈ alphabet ∨ c = '=' := by
  have hdigit {n : Nat} (hn : n < 64) : digit alphabet n ∈ alphabet ∨ digit alphabet n = '=' :=
    Or.inl (digit_mem h hn)
  fun_induction encode alphabet bytes with
  | case1 => simp
  | case2 a =>
    have ha := a.toNat_lt
    simp only [List.forall_mem_cons, List.not_mem_nil, false_implies, implies_true, and_true,
      or_true]
    exact ⟨hdigit (by omega), hdigit (by omega)⟩
  | case3 a b =>
    have ha := a.toNat_lt
    have hb := b.toNat_lt
    simp only [List.forall_mem_cons, List.not_mem_nil, false_implies, implies_true, and_true,
      or_true]
    exact ⟨hdigit (by omega), hdigit (by omega), hdigit (by omega)⟩
  | case4 a b c rest ih =>
    have ha := a.toNat_lt
    have hb := b.toNat_lt
    have hc := c.toNat_lt
    simp only [List.forall_mem_cons]
    exact ⟨hdigit (by omega), hdigit (by omega), hdigit (by omega), hdigit (by omega), ih⟩

/-- Without an incomplete group there is no padding. -/
theorem padding_not_mem_encode (h : IsAlphabet alphabet) (bytes : List UInt8)
    (hlength : bytes.length % 3 = 0) : '=' ∉ encode alphabet bytes := by
  fun_induction encode alphabet bytes with
  | case1 => simp
  | case2 => simp at hlength
  | case3 => simp at hlength
  | case4 a b c rest ih =>
    have ha := a.toNat_lt
    have hb := b.toNat_lt
    have hc := c.toNat_lt
    have ih := ih (by simp only [List.length_cons] at hlength; omega)
    simp only [List.mem_cons, not_or]
    exact ⟨(digit_ne_padding h (by omega)).symm, (digit_ne_padding h (by omega)).symm,
      (digit_ne_padding h (by omega)).symm, (digit_ne_padding h (by omega)).symm, ih⟩

end VpsGuardian.Lib.Base64
