import VpsGuardian.Lib.Table

/-!
Tables of amounts.

A posting adds to the row of a key and makes the row when there is none. Amounts
of any kind that can be added are summed over a table (`sum_post`), so a sum over
some of the rows is a sum in which the others count nothing.
-/

namespace VpsGuardian.Lib.Ledger

section Ledger

variable {α κ : Type} [DecidableEq κ] (key : α → κ)

/-- The table after `add` on the row with the key of `fresh`, which is that
row until it is there. -/
def post (fresh : α) (add : α → α) (rows : List α) : List α :=
  match Table.lookup key (key fresh) rows with
  | none => rows ++ [add fresh]
  | some row => Table.put key (add row) rows

variable {key} {fresh : α} {add : α → α} {rows : List α}

/-- A posting keeps the rows and their keys, and can add the key it posts to. -/
theorem map_key_post (hadd : ∀ row, key (add row) = key row) :
    (post key fresh add rows).map key = rows.map key ∨
      key fresh ∉ rows.map key ∧
        (post key fresh add rows).map key = rows.map key ++ [key fresh] := by
  rw [post]
  cases hrow : Table.lookup key (key fresh) rows with
  | none =>
    refine .inr ⟨?_, by simp [hadd]⟩
    rw [List.mem_map]
    rintro ⟨row, hmem, hkey⟩
    exact Table.lookup_eq_none.mp hrow row hmem hkey
  | some row => exact .inl (Table.map_key_put (add row) rows)

theorem nodup_post (hadd : ∀ row, key (add row) = key row) (hnodup : (rows.map key).Nodup) :
    ((post key fresh add rows).map key).Nodup := by
  rcases (map_key_post hadd : (post key fresh add rows).map key = rows.map key ∨ _) with
    h | ⟨hfresh, h⟩
  · rwa [h]
  · rw [h, List.nodup_append]
    refine ⟨hnodup, List.nodup_singleton _, ?_⟩
    rintro k hk _ hmem rfl
    exact hfresh (List.mem_singleton.mp hmem ▸ hk)

section Sums

variable {M : Type} [AddCommMonoid M] (amount : α → M)

/-- One row that gains an amount adds it to the sum of the table. -/
theorem sum_put {row row' : α} {d : M} (hnodup : (rows.map key).Nodup) (hrow : row ∈ rows)
    (hkey : key row' = key row) (hamount : amount row' = amount row + d) :
    ((Table.put key row' rows).map amount).sum = (rows.map amount).sum + d := by
  induction rows with
  | nil => exact absurd hrow List.not_mem_nil
  | cons other rows ih =>
    rw [List.map_cons, List.nodup_cons] at hnodup
    have hput : Table.put key row' (other :: rows) =
        (if key other = key row' then row' else other) :: Table.put key row' rows := rfl
    rw [hput, List.map_cons, List.sum_cons, List.map_cons, List.sum_cons]
    rcases List.mem_cons.mp hrow with rfl | hmem
    · have hrest : key row' ∉ rows.map key := hkey ▸ hnodup.1
      rw [if_pos hkey.symm, Table.put_of_not_mem hrest, hamount, add_right_comm]
    · have hne : key other ≠ key row' := by
        intro h
        refine hnodup.1 ?_
        rw [h, hkey]
        exact List.mem_map_of_mem hmem
      rw [if_neg hne, ih hnodup.2 hmem, add_assoc]

/-- A posting adds what it posts to the sum of the table. -/
theorem sum_post {d : M} (hnodup : (rows.map key).Nodup) (hadd : ∀ row, key (add row) = key row)
    (hfresh : amount fresh = 0)
    (hamount : ∀ row, key row = key fresh → amount (add row) = amount row + d) :
    ((post key fresh add rows).map amount).sum = (rows.map amount).sum + d := by
  rw [post]
  cases hrow : Table.lookup key (key fresh) rows with
  | none => simp [hamount fresh rfl, hfresh]
  | some row =>
    exact sum_put amount hnodup (Table.mem_of_lookup hrow) (hadd row)
      (hamount row (Table.key_of_lookup hrow))

/-- A sum over some of the rows is a sum in which the others count nothing. -/
theorem sum_filter (P : α → Prop) [DecidablePred P] (rows : List α) :
    ((rows.filter P).map amount).sum =
      (rows.map fun row => if P row then amount row else 0).sum := by
  induction rows with
  | nil => rfl
  | cons row rows ih => by_cases h : P row <;> simp [h, ih]

/-- The amount of the row with a key, nothing if there is none. -/
def amountAt (key : α → κ) (amount : α → M) (k : κ) (rows : List α) : M :=
  ((Table.lookup key k rows).map amount).getD 0

/-- The amount at a key, as a sum over the whole table. -/
theorem sum_eq_amountAt (hnodup : (rows.map key).Nodup) (k : κ) :
    (rows.map fun row => if key row = k then amount row else 0).sum =
      amountAt key amount k rows := by
  induction rows with
  | nil => rfl
  | cons row rows ih =>
    rw [List.map_cons, List.nodup_cons] at hnodup
    rw [List.map_cons, List.sum_cons]
    have hlookup : Table.lookup key k (row :: rows) =
        if key row = k then some row else Table.lookup key k rows := by
      by_cases h : key row = k <;> simp [Table.lookup, h]
    by_cases h : key row = k
    · have hrest : ∀ other ∈ rows, (if key other = k then amount other else 0) = 0 := by
        intro other hother
        refine if_neg fun hk => hnodup.1 ?_
        rw [h, ← hk]
        exact List.mem_map_of_mem hother
      rw [if_pos h, List.sum_eq_zero (by simpa using hrest), add_zero, amountAt, hlookup, if_pos h]
      rfl
    · rw [if_neg h, zero_add, ih hnodup.2, amountAt, amountAt, hlookup, if_neg h]

end Sums

end Ledger

end VpsGuardian.Lib.Ledger
