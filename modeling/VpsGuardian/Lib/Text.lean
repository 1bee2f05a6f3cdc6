import VpsGuardian.Lib.Json

/-!
Strings of code points, surrogates included: Python's `str`.

A text that passes through UTF-16 code units, as it does in the escapes of
JSON, comes out with each high surrogate joined to the low one behind it.
-/

namespace VpsGuardian.Lib

abbrev CodePoint : Type := Fin 0x110000

abbrev Text : Type := List CodePoint

instance CodePoint.neZero : NeZero 0x110000 := ⟨Nat.succ_ne_zero _⟩

instance CodePoint.lawfulBEq : LawfulBEq CodePoint := inferInstance

namespace Text

instance lawfulBEq : LawfulBEq Text := inferInstance

theorem toNat_lt (c : Char) : c.toNat < 0x110000 := by
  have hvalid : c.toNat < 0xD800 ∨ 0xDFFF < c.toNat ∧ c.toNat < 0x110000 := c.valid
  omega

def ofChar (c : Char) : CodePoint := ⟨c.toNat, toNat_lt c⟩

def ofString (s : String) : Text := s.toList.map ofChar

def isHigh (c : CodePoint) : Bool := Json.isHighSurrogate c

def isLow (c : CodePoint) : Bool := Json.isLowSurrogate c

/-- The UTF-16 code units of a code point. -/
def utf16 (c : CodePoint) : List Nat :=
  if c.val < 0x10000 then [c.val]
  else [0xD800 + (c.val - 0x10000) / 1024, 0xDC00 + (c.val - 0x10000) % 1024]

/-- The code point of a surrogate pair. -/
def pair (high low : Nat) : CodePoint :=
  Fin.ofNat 0x110000 (0x10000 + 1024 * (high - 0xD800) + (low - 0xDC00))

/-- The code points of some code units. A surrogate without its partner stays one. -/
def join : List Nat → Text
  | [] => []
  | [u] => [Fin.ofNat 0x110000 u]
  | u :: v :: rest =>
      if Json.isHighSurrogate u && Json.isLowSurrogate v then pair u v :: join rest
      else Fin.ofNat 0x110000 u :: join (v :: rest)

/-- A text with its surrogate pairs joined. -/
def joined : Text → Text
  | [] => []
  | [c] => [c]
  | c :: d :: rest =>
      if isHigh c && isLow d then pair c d :: joined rest else c :: joined (d :: rest)

/-- A low surrogate stands directly behind a high one. -/
def hasPair : Text → Bool
  | [] => false
  | [_] => false
  | c :: d :: rest => (isHigh c && isLow d) || hasPair (d :: rest)

/-! ### Through UTF-16 -/

theorem ofNat_val (c : CodePoint) : Fin.ofNat 0x110000 c.val = c := by
  ext
  exact Nat.mod_eq_of_lt c.isLt

theorem isLow_of_le {c : CodePoint} (h : 0x10000 ≤ c.val) : isLow c = false := by
  simp only [isLow, Json.isLowSurrogate, Bool.and_eq_false_iff, decide_eq_false_iff_not]
  omega

theorem utf16_of_lt {c : CodePoint} (h : c.val < 0x10000) : utf16 c = [c.val] := if_pos h

theorem mem_utf16 {c : CodePoint} {u : Nat} (h : u ∈ utf16 c) : u < 0x10000 := by
  have hc := c.isLt
  unfold utf16 at h
  split_ifs at h with hlt
  · obtain rfl := List.mem_singleton.mp h
    exact hlt
  · simp only [List.mem_cons, List.not_mem_nil, or_false] at h
    omega

/-- The first unit of a code point is a low surrogate only if the code point is. -/
theorem head_utf16 (c : CodePoint) :
    ∃ u rest, utf16 c = u :: rest ∧ Json.isLowSurrogate u = isLow c := by
  by_cases h : c.val < 0x10000
  · exact ⟨_, _, utf16_of_lt h, rfl⟩
  · refine ⟨_, _, if_neg h, ?_⟩
    have hc := c.isLt
    rw [isLow_of_le (by omega)]
    simp only [Json.isLowSurrogate, Bool.and_eq_false_iff, decide_eq_false_iff_not]
    omega

theorem join_cons {u : Nat} {units : List Nat}
    (h : ∀ v ∈ units.head?, (Json.isHighSurrogate u && Json.isLowSurrogate v) = false) :
    join (u :: units) = Fin.ofNat 0x110000 u :: join units := by
  cases units with
  | nil => rfl
  | cons v units => rw [join, h v rfl, if_neg Bool.false_ne_true]

/-- Units that do not complete a pair with a code point are read on their own. -/
theorem join_utf16_append {c : CodePoint} {units : List Nat}
    (h : ∀ v ∈ units.head?, (isHigh c && Json.isLowSurrogate v) = false) :
    join (utf16 c ++ units) = c :: join units := by
  by_cases hlt : c.val < 0x10000
  · rw [utf16_of_lt hlt, List.singleton_append, join_cons h, ofNat_val]
  · have hc := c.isLt
    have hhigh : Json.isHighSurrogate (0xD800 + (c.val - 0x10000) / 1024) = true := by
      simp only [Json.isHighSurrogate, Bool.and_eq_true, decide_eq_true_eq]
      omega
    have hlow : Json.isLowSurrogate (0xDC00 + (c.val - 0x10000) % 1024) = true := by
      simp only [Json.isLowSurrogate, Bool.and_eq_true, decide_eq_true_eq]
      omega
    have hpair : pair (0xD800 + (c.val - 0x10000) / 1024) (0xDC00 + (c.val - 0x10000) % 1024) =
        c := by
      ext
      simp only [pair, Fin.val_ofNat]
      omega
    rw [utf16, if_neg hlt, List.cons_append, List.cons_append, List.nil_append, join, hhigh, hlow,
      Bool.and_self, if_pos rfl, hpair]

theorem join_flatMap_utf16 (s : Text) : join (s.flatMap utf16) = joined s := by
  fun_induction joined s with
  | case1 => rfl
  | case2 c =>
    have hone : join (utf16 c ++ []) = c :: join [] := join_utf16_append (by simp)
    rw [List.append_nil] at hone
    rw [List.flatMap_singleton]
    exact hone
  | case3 c d rest hpair ih =>
    have hhigh : Json.isHighSurrogate c = true := (Bool.and_eq_true_iff.mp hpair).1
    have hlow : Json.isLowSurrogate d = true := (Bool.and_eq_true_iff.mp hpair).2
    have hsurrogates := And.intro hhigh hlow
    simp only [Json.isHighSurrogate, Json.isLowSurrogate, Bool.and_eq_true,
      decide_eq_true_eq] at hsurrogates
    have hc : utf16 c = [c.val] := utf16_of_lt (by omega)
    have hd : utf16 d = [d.val] := utf16_of_lt (by omega)
    rw [List.flatMap_cons, List.flatMap_cons, hc, hd, List.singleton_append,
      List.singleton_append, join, hhigh, hlow, Bool.and_self, if_pos rfl, ih]
  | case4 c d rest hpair ih =>
    rw [List.flatMap_cons, join_utf16_append, ih]
    intro v hv
    obtain ⟨u, tail, hunits, hlow⟩ := head_utf16 d
    obtain rfl : u = v := by simpa [hunits] using hv
    simpa [hlow] using hpair

/-! ### Texts without pairs -/

theorem joined_of_not_hasPair {s : Text} (h : hasPair s = false) : joined s = s := by
  fun_induction joined s with
  | case1 => rfl
  | case2 => rfl
  | case3 c d rest hpair ih =>
    rw [hasPair, hpair] at h
    exact absurd h (by simp)
  | case4 c d rest hpair ih =>
    rw [hasPair, Bool.or_eq_false_iff] at h
    rw [ih h.2]

theorem length_joined_le (s : Text) : (joined s).length ≤ s.length := by
  fun_induction joined s with
  | case1 => exact le_rfl
  | case2 => exact le_rfl
  | case3 c d rest hpair ih =>
    simp only [List.length_cons]
    omega
  | case4 c d rest hpair ih =>
    simp only [List.length_cons] at ih ⊢
    omega

theorem length_joined_lt {s : Text} (h : hasPair s = true) : (joined s).length < s.length := by
  fun_induction joined s with
  | case1 => cases h
  | case2 => cases h
  | case3 c d rest hpair ih =>
    have hle := length_joined_le rest
    simp only [List.length_cons]
    omega
  | case4 c d rest hpair ih =>
    rw [hasPair, Bool.eq_false_of_not_eq_true hpair, Bool.false_or] at h
    have hlt := ih h
    simp only [List.length_cons] at hlt ⊢
    omega

/-- A text comes through UTF-16 unchanged exactly when it has no surrogate pair. -/
theorem joined_eq_self_iff {s : Text} : joined s = s ↔ hasPair s = false := by
  constructor
  · intro h
    apply Bool.eq_false_of_not_eq_true
    intro hpair
    have hlt := length_joined_lt hpair
    rw [h] at hlt
    exact lt_irrefl _ hlt
  · exact joined_of_not_hasPair

theorem not_hasPair_of_forall {s : Text} (h : ∀ c ∈ s, isHigh c = false) : hasPair s = false := by
  fun_induction hasPair s with
  | case1 => rfl
  | case2 => rfl
  | case3 c d rest ih =>
    rw [h c List.mem_cons_self, Bool.false_and, Bool.false_or]
    exact ih fun e he => h e (List.mem_cons_of_mem _ he)

theorem isHigh_ofChar (c : Char) : isHigh (ofChar c) = false := by
  have hvalid : c.toNat < 0xD800 ∨ 0xDFFF < c.toNat ∧ c.toNat < 0x110000 := c.valid
  have hscalar : ¬Json.isHighSurrogate c.toNat = true := by
    simp only [Json.isHighSurrogate, Bool.and_eq_true, decide_eq_true_eq]
    omega
  exact Bool.eq_false_of_not_eq_true hscalar

theorem not_hasPair_ofString (s : String) : hasPair (ofString s) = false := by
  apply not_hasPair_of_forall
  intro c hc
  obtain ⟨d, -, rfl⟩ := List.mem_map.mp hc
  exact isHigh_ofChar d

theorem ofChar_injective : Function.Injective ofChar := by
  intro c d h
  have hval : (ofChar c).val = (ofChar d).val := by rw [h]
  exact Char.ext (UInt32.toNat_inj.mp hval)

theorem ofString_injective : Function.Injective ofString := by
  intro s t h
  exact String.toList_inj.mp (List.map_injective_iff.mpr ofChar_injective h)

end Text

end VpsGuardian.Lib
