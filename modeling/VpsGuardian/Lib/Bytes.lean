import Mathlib

/-!
Searching in byte strings, as the methods `find`, `count` and `strip` do it.

A pattern that does not have a certain byte occurs in a text exactly where it
occurs in the parts between occurrences of that byte, so texts in lines are
searched line by line.
-/

namespace VpsGuardian.Lib

abbrev Bytes := List UInt8

namespace Bytes

def ascii (text : String) : Bytes := text.toList.map fun c => c.toNat.toUInt8

/-- The first position of a pattern. -/
def find? (pattern : Bytes) : Bytes → Option Nat
  | [] => if pattern = [] then some 0 else none
  | b :: rest =>
      if pattern.isPrefixOf (b :: rest) then some 0 else (find? pattern rest).map (· + 1)

/-- The first argument counts the bytes that belong to the last occurrence. -/
def countFrom (pattern : Bytes) : Nat → Bytes → Nat
  | _, [] => 0
  | skip + 1, _ :: rest => countFrom pattern skip rest
  | 0, b :: rest =>
      if pattern.isPrefixOf (b :: rest) then 1 + countFrom pattern (pattern.length - 1) rest
      else countFrom pattern 0 rest

/-- The number of occurrences of a pattern that is not empty, none of which overlap. -/
def count (pattern text : Bytes) : Nat := countFrom pattern 0 text

def isSpace (b : UInt8) : Bool := b == 32 || (9 ≤ b && b ≤ 13)

def strip (text : Bytes) : Bytes := ((text.dropWhile isSpace).reverse.dropWhile isSpace).reverse

/-! ### Occurrences -/

theorem countFrom_append (pattern word rest : Bytes) :
    countFrom pattern word.length (word ++ rest) = countFrom pattern 0 rest := by
  induction word with
  | nil => rfl
  | cons b word ih => exact ih

/-- A text that begins with the pattern. -/
theorem count_append_self {pattern : Bytes} (hne : pattern ≠ []) (rest : Bytes) :
    count pattern (pattern ++ rest) = 1 + count pattern rest := by
  obtain ⟨b, word, rfl⟩ := List.exists_cons_of_ne_nil hne
  have hprefix : (b :: word).isPrefixOf (b :: (word ++ rest)) = true :=
    List.isPrefixOf_iff_prefix.mpr (List.prefix_append (b :: word) rest)
  rw [List.cons_append, count, countFrom, if_pos hprefix]
  exact congrArg (1 + ·) (countFrom_append (b :: word) word rest)

theorem find?_append_self (pattern rest : Bytes) : find? pattern (pattern ++ rest) = some 0 := by
  cases pattern with
  | nil => cases rest <;> simp [find?]
  | cons b word =>
    have hprefix : (b :: word).isPrefixOf (b :: (word ++ rest)) = true :=
      List.isPrefixOf_iff_prefix.mpr (List.prefix_append (b :: word) rest)
    rw [List.cons_append, find?, if_pos hprefix]

/-- Up to a byte that the pattern does not have, it begins only where it ends. -/
theorem not_prefix_append_cons {pattern rest : Bytes} {stop : UInt8} (word : Bytes)
    (hword : ¬pattern <:+: word) (hstop : stop ∉ pattern) : ¬pattern <+: word ++ stop :: rest := by
  intro hprefix
  obtain h | h := List.prefix_or_prefix_of_prefix hprefix (List.prefix_append word (stop :: rest))
  · exact hword h.isInfix
  · obtain ⟨tail, rfl⟩ := h
    cases tail with
    | nil => exact hword (by simp)
    | cons b tail =>
      obtain ⟨more, hmore⟩ := hprefix
      have heq : b :: tail ++ more = stop :: rest := by
        apply (List.append_right_inj word).mp
        simpa using hmore
      obtain ⟨rfl, -⟩ := List.cons.inj heq
      exact hstop (by simp)

theorem count_append_cons {pattern word rest : Bytes} {stop : UInt8}
    (hword : ¬pattern <:+: word) (hstop : stop ∉ pattern) :
    count pattern (word ++ stop :: rest) = count pattern rest := by
  have hstep {b : UInt8} {text : Bytes} (h : ¬pattern <+: b :: text) :
      count pattern (b :: text) = count pattern text := by
    rw [count, countFrom, if_neg (by simpa [List.isPrefixOf_iff_prefix] using h)]
    rfl
  induction word with
  | nil => exact hstep (not_prefix_append_cons [] hword hstop)
  | cons b word ih =>
    have hnot : ¬pattern <+: b :: (word ++ stop :: rest) :=
      not_prefix_append_cons (b :: word) hword hstop
    rw [List.cons_append, hstep hnot]
    exact ih fun h => hword (h.trans (List.suffix_cons b word).isInfix)

theorem find?_append_cons {pattern word rest : Bytes} {stop : UInt8}
    (hword : ¬pattern <:+: word) (hstop : stop ∉ pattern) :
    find? pattern (word ++ stop :: rest) =
      (find? pattern rest).map (· + (word.length + 1)) := by
  have hstep {b : UInt8} {text : Bytes} (h : ¬pattern <+: b :: text) :
      find? pattern (b :: text) = (find? pattern text).map (· + 1) := by
    rw [find?, if_neg (by simpa [List.isPrefixOf_iff_prefix] using h)]
  induction word with
  | nil => exact hstep (not_prefix_append_cons [] hword hstop)
  | cons b word ih =>
    have hnot : ¬pattern <+: b :: (word ++ stop :: rest) :=
      not_prefix_append_cons (b :: word) hword hstop
    rw [List.cons_append, hstep hnot,
      ih fun h => hword (h.trans (List.suffix_cons b word).isInfix), Option.map_map]
    exact congrArg (Option.map · (find? pattern rest)) (funext fun n => by simp; omega)

end Bytes

end VpsGuardian.Lib
