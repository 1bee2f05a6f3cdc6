import Mathlib

/-!
Queues that give up their oldest items when they grow too large.

An item is known by its number in the order of arrival. A queue accounts for the items
that left it at the front: they were acknowledged or dropped, and the rest is what is
queued (`Account.Tracks`).
-/

namespace VpsGuardian.Lib.BoundedQueue

section Eviction

variable {α : Type} (tooLarge : List α → Bool)

/-- The queue without its oldest items, until it is small enough or has one item left. -/
def evict : List α → List α
  | a :: b :: rest => if tooLarge (a :: b :: rest) then evict (b :: rest) else a :: b :: rest
  | items => items

/-- The number of items that `evict` removes. -/
def evicted (items : List α) : Nat := items.length - (evict tooLarge items).length

variable {tooLarge}

theorem evict_suffix (items : List α) : evict tooLarge items <:+ items := by
  fun_induction evict tooLarge items with
  | case1 a b rest h ih => exact ih.trans (List.suffix_cons a (b :: rest))
  | case2 a b rest h => exact List.suffix_rfl
  | case3 items h => exact List.suffix_rfl

variable (tooLarge) in
/-- The newest item is never removed. -/
theorem evict_ne_nil {items : List α} (h : items ≠ []) : evict tooLarge items ≠ [] := by
  fun_induction evict tooLarge items with
  | case1 a b rest _ ih => exact ih (List.cons_ne_nil b rest)
  | case2 a b rest _ => exact h
  | case3 items _ => exact h

theorem drop_evicted (items : List α) :
    items.drop (evicted tooLarge items) = evict tooLarge items :=
  (List.suffix_iff_eq_drop.mp (evict_suffix items)).symm

variable (tooLarge) in
theorem evicted_le (items : List α) : evicted tooLarge items ≤ items.length := Nat.sub_le _ _

theorem evicted_cons {a b : α} {rest : List α} (h : tooLarge (a :: b :: rest) = true) :
    evicted tooLarge (a :: b :: rest) = evicted tooLarge (b :: rest) + 1 := by
  have hle : (evict tooLarge (b :: rest)).length ≤ (b :: rest).length :=
    (evict_suffix (b :: rest)).length_le
  rw [evicted, evict, if_pos h, evicted, List.length_cons]
  omega

/-- An item is removed only where the queue from it on is too large. -/
theorem tooLarge_of_lt_evicted {items : List α} {n : Nat} (h : n < evicted tooLarge items) :
    tooLarge (items.drop n) = true := by
  fun_induction evict tooLarge items generalizing n with
  | case1 a b rest hlarge ih =>
    cases n with
    | zero => exact hlarge
    | succ n =>
      rw [evicted_cons hlarge] at h
      exact ih (Nat.lt_of_succ_lt_succ h)
  | case2 a b rest hsmall =>
    rw [evicted, evict, if_neg hsmall, Nat.sub_self] at h
    exact absurd h (Nat.not_lt_zero n)
  | case3 items hshort =>
    rw [evicted, evict, Nat.sub_self] at h
    · exact absurd h (Nat.not_lt_zero n)
    · exact hshort

/-- What is left is small enough or a single item. -/
theorem evict_fits (items : List α) :
    tooLarge (evict tooLarge items) = false ∨ (evict tooLarge items).length ≤ 1 := by
  fun_induction evict tooLarge items with
  | case1 a b rest _ ih => exact ih
  | case2 a b rest hsmall => exact .inl (Bool.eq_false_of_not_eq_true hsmall)
  | case3 items hshort =>
    refine .inr ?_
    match items, hshort with
    | [], _ => exact Nat.zero_le 1
    | [_], _ => exact le_rfl
    | a :: b :: rest, hshort => exact absurd rfl (hshort a b rest)

end Eviction

/-- The numbers of the items that left a queue. -/
structure Account where
  acknowledged : List Nat
  dropped : List Nat
  deriving DecidableEq, Repr

namespace Account

def empty : Account := ⟨[], []⟩

/-- The number of the first item that is still queued. -/
def first (account : Account) : Nat := account.acknowledged.length + account.dropped.length

def acknowledge (account : Account) (n : Nat) : Account :=
  { account with acknowledged := account.acknowledged ++ List.range' account.first n }

def drop (account : Account) (n : Nat) : Account :=
  { account with dropped := account.dropped ++ List.range' account.first n }

variable {α : Type}

/-- What arrived is acknowledged, dropped or queued, each item once and in order. -/
structure Tracks (account : Account) (arrived queued : List α) : Prop where
  le : account.first ≤ arrived.length
  queued : arrived.drop account.first = queued
  settled : (account.acknowledged ++ account.dropped).Perm (List.range account.first)
  acknowledged : account.acknowledged.Pairwise (· < ·)
  dropped : account.dropped.Pairwise (· < ·)

theorem first_acknowledge (account : Account) (n : Nat) :
    (account.acknowledge n).first = account.first + n := by
  simp only [first, acknowledge, List.length_append, List.length_range']
  omega

theorem first_drop (account : Account) (n : Nat) : (account.drop n).first = account.first + n := by
  simp only [first, drop, List.length_append, List.length_range']
  omega

theorem tracks_empty : Tracks empty ([] : List α) [] where
  le := le_rfl
  queued := rfl
  settled := List.Perm.refl _
  acknowledged := List.Pairwise.nil
  dropped := List.Pairwise.nil

namespace Tracks

variable {account : Account} {arrived queued : List α}

theorem lt_first (h : Tracks account arrived queued) {n : Nat}
    (hn : n ∈ account.acknowledged ++ account.dropped) : n < account.first :=
  List.mem_range.mp (h.settled.mem_iff.mp hn)

theorem length_queued (h : Tracks account arrived queued) :
    account.first + queued.length = arrived.length := by
  have hle := h.le
  rw [← h.queued, List.length_drop]
  omega

theorem enqueue (h : Tracks account arrived queued) (item : α) :
    Tracks account (arrived ++ [item]) (queued ++ [item]) where
  le := by
    have hle := h.le
    rw [List.length_append]
    omega
  queued := by rw [List.drop_append_of_le_length h.le, h.queued]
  settled := h.settled
  acknowledged := h.acknowledged
  dropped := h.dropped

/-- Numbers from the first queued one on continue an ascending list of older ones. -/
theorem pairwise_append {numbers : List Nat} {start n : Nat} (h : numbers.Pairwise (· < ·))
    (hlt : ∀ m ∈ numbers, m < start) : (numbers ++ List.range' start n).Pairwise (· < ·) := by
  refine List.pairwise_append.mpr ⟨h, List.pairwise_lt_range', fun m hm k hk => ?_⟩
  exact (hlt m hm).trans_le (List.mem_range'_1.mp hk).1

theorem range_append (first n : Nat) :
    List.range (first + n) = List.range first ++ List.range' first n := by
  rw [List.range_eq_range', List.range_eq_range', ← List.range'_append_1, Nat.zero_add]

theorem acknowledge (h : Tracks account arrived queued) {n : Nat} (hn : n ≤ queued.length) :
    Tracks (account.acknowledge n) arrived (queued.drop n) where
  le := by
    have hlength := h.length_queued
    rw [first_acknowledge]
    omega
  queued := by rw [first_acknowledge, ← List.drop_drop, h.queued]
  settled := by
    rw [first_acknowledge, range_append]
    refine List.Perm.trans ?_ (h.settled.append_right _)
    simp only [Account.acknowledge, List.append_assoc]
    exact List.perm_append_comm.append_left _
  acknowledged := pairwise_append h.acknowledged fun m hm => h.lt_first (List.mem_append_left _ hm)
  dropped := h.dropped

theorem drop (h : Tracks account arrived queued) {n : Nat} (hn : n ≤ queued.length) :
    Tracks (account.drop n) arrived (queued.drop n) where
  le := by
    have hlength := h.length_queued
    rw [first_drop]
    omega
  queued := by rw [first_drop, ← List.drop_drop, h.queued]
  settled := by
    rw [first_drop, range_append, Account.drop, ← List.append_assoc]
    exact h.settled.append_right _
  acknowledged := h.acknowledged
  dropped := pairwise_append h.dropped fun m hm => h.lt_first (List.mem_append_right _ hm)

/-- As collections, what arrived is what was acknowledged, dropped and is queued. -/
theorem perm (h : Tracks account arrived queued) :
    (account.acknowledged ++ account.dropped ++
      List.range' account.first queued.length).Perm (List.range arrived.length) := by
  rw [← h.length_queued, range_append]
  exact h.settled.append_right _

end Tracks

end Account

end VpsGuardian.Lib.BoundedQueue
