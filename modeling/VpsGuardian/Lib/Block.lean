import Mathlib

/-!
Blocks of numbers that share their leading bits.

A block of `w`-bit numbers is given by one of them, with the bits after the
prefix cleared, and the length of the prefix. It is the interval of the numbers
from there on.
-/

namespace VpsGuardian.Lib

structure Block (w : Nat) where
  base : Nat
  prefixlen : Nat
  prefixlen_le : prefixlen ≤ w := by decide
  base_lt : base < 2 ^ w := by decide
  masked : base % 2 ^ (w - prefixlen) = 0 := by decide

namespace Block

variable {w : Nat}

instance : DecidableEq (Block w) := fun b c =>
  decidable_of_iff (b.base = c.base ∧ b.prefixlen = c.prefixlen) (by cases b; cases c; simp)

/-- The number has the prefix of the block. -/
def contains (b : Block w) (n : Nat) : Bool :=
  n >>> (w - b.prefixlen) == b.base >>> (w - b.prefixlen)

/-- One more than the last number of the block. -/
def limit (b : Block w) : Nat := b.base + 2 ^ (w - b.prefixlen)

theorem contains_iff {b : Block w} {n : Nat} :
    b.contains n = true ↔ b.base ≤ n ∧ n < b.limit := by
  obtain ⟨q, hq⟩ := Nat.dvd_of_mod_eq_zero b.masked
  have hpos : 0 < 2 ^ (w - b.prefixlen) := Nat.two_pow_pos _
  rw [contains, beq_iff_eq, Nat.shiftRight_eq_div_pow, Nat.shiftRight_eq_div_pow, limit, hq,
    Nat.mul_div_cancel_left q hpos]
  constructor
  · rintro rfl
    exact ⟨Nat.mul_div_le n _, Nat.lt_mul_div_succ n hpos⟩
  · rintro ⟨hle, hlt⟩
    refine Nat.div_eq_of_lt_le ?_ ?_
    · rwa [Nat.mul_comm]
    · rwa [Nat.mul_comm, Nat.mul_succ]

theorem limit_le (b : Block w) : b.limit ≤ 2 ^ w := by
  obtain ⟨q, hq⟩ := Nat.dvd_of_mod_eq_zero b.masked
  obtain ⟨r, hr⟩ : 2 ^ (w - b.prefixlen) ∣ 2 ^ w := Nat.pow_dvd_pow 2 (Nat.sub_le w _)
  have hlt : q < r := by
    have hbase := b.base_lt
    rw [hq, hr] at hbase
    exact Nat.lt_of_mul_lt_mul_left hbase
  rw [limit, hq, hr, ← Nat.mul_succ]
  exact Nat.mul_le_mul_left _ hlt

/-- Whether one of the blocks contains the number. -/
def anyContains (blocks : List (Block w)) (n : Nat) : Bool := blocks.any (·.contains n)

@[simp] theorem anyContains_nil (n : Nat) : anyContains ([] : List (Block w)) n = false := rfl

@[simp] theorem anyContains_cons (b : Block w) (blocks : List (Block w)) (n : Nat) :
    anyContains (b :: blocks) n = (b.contains n || anyContains blocks n) := rfl

end Block

end VpsGuardian.Lib
