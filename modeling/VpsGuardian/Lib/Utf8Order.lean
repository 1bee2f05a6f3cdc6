import Mathlib

/-!
UTF-8 keeps the order of strings: comparing encodings byte by byte and comparing
the texts code point by code point come out the same.
-/

namespace VpsGuardian.Lib

/-- The UTF-8 bytes of one code point. -/
def utf8Char (c : Nat) : List Nat :=
  if c < 0x80 then [c]
  else if c < 0x800 then [0xC0 + c / 64, 0x80 + c % 64]
  else if c < 0x10000 then [0xE0 + c / 4096, 0x80 + c / 64 % 64, 0x80 + c % 64]
  else [0xF0 + c / 262144, 0x80 + c / 4096 % 64, 0x80 + c / 64 % 64, 0x80 + c % 64]

def utf8 (s : String) : List Nat := s.toList.flatMap fun c => utf8Char c.toNat

theorem utf8Char_ne_nil (c : Nat) : utf8Char c ≠ [] := by
  unfold utf8Char
  split_ifs <;> simp

/-- The encodings of two different code points differ before either of them ends. -/
theorem utf8Char_append_lt {c d : Nat} (hd : d < 0x110000) (h : c < d) (x y : List Nat) :
    utf8Char c ++ x < utf8Char d ++ y := by
  unfold utf8Char
  split_ifs <;> simp only [List.cons_append, List.nil_append, List.cons_lt_cons_iff] <;> omega

theorem utf8_flatMap_lt {cs ds : List Char} (h : cs < ds) :
    (cs.flatMap fun c => utf8Char c.toNat) < ds.flatMap fun c => utf8Char c.toNat := by
  induction cs generalizing ds with
  | nil =>
      cases ds with
      | nil => exact absurd h (List.lt_irrefl _)
      | cons d ds =>
          obtain ⟨b, bytes, hbytes⟩ := List.exists_cons_of_ne_nil (utf8Char_ne_nil d.toNat)
          simp [hbytes]
  | cons c cs ih =>
      cases ds with
      | nil => exact absurd h (List.not_lt_nil _)
      | cons d ds =>
          simp only [List.flatMap_cons]
          rcases List.cons_lt_cons_iff.mp h with hcd | ⟨rfl, htail⟩
          · have hd : d.toNat < 0x110000 := by
              have hvalid : d.toNat < 0xD800 ∨ 0xDFFF < d.toNat ∧ d.toNat < 0x110000 := d.valid
              omega
            exact utf8Char_append_lt hd hcd _ _
          · exact List.append_left_lt (ih htail)

/-- The order of the encodings is the order of the strings. -/
theorem utf8_lt_iff {s t : String} : utf8 s < utf8 t ↔ s < t := by
  rw [String.lt_iff_toList_lt]
  constructor
  · intro h
    rcases lt_trichotomy s.toList t.toList with hlt | heq | hgt
    · exact hlt
    · rw [utf8, utf8, heq] at h
      exact absurd h (List.lt_irrefl _)
    · exact absurd (utf8_flatMap_lt hgt) (List.lt_asymm h)
  · exact utf8_flatMap_lt

theorem utf8_le_iff {s t : String} : utf8 s ≤ utf8 t ↔ s ≤ t := by
  rw [← not_lt, utf8_lt_iff, not_lt]

end VpsGuardian.Lib
