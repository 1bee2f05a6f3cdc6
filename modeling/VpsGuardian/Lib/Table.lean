import Mathlib

/-!
Rows of a relational table, found and replaced by a key.

A table is the list of its rows in the order they were inserted. That a column
identifies its row is a condition (`(rows.map key).Nodup`), as it is in a
database: a transaction that would break it is rolled back.
-/

namespace VpsGuardian.Lib.Table

section Table

variable {α κ : Type} [DecidableEq κ] (key : α → κ)

/-- The first row with the key. -/
def lookup (k : κ) (rows : List α) : Option α := rows.find? fun row => decide (key row = k)

/-- The table with the given row in the place of the one that has its key. -/
def put (row : α) (rows : List α) : List α :=
  rows.map fun other => if key other = key row then row else other

variable {key}

theorem mem_of_lookup {k : κ} {rows : List α} {row : α} (h : lookup key k rows = some row) :
    row ∈ rows := List.mem_of_find?_eq_some h

theorem key_of_lookup {k : κ} {rows : List α} {row : α} (h : lookup key k rows = some row) :
    key row = k := by
  simpa using List.find?_some h

omit [DecidableEq κ] in
/-- Two rows of a table with the same key are the same row. -/
theorem eq_of_mem {rows : List α} (hnodup : (rows.map key).Nodup) {a b : α} (ha : a ∈ rows)
    (hb : b ∈ rows) (h : key a = key b) : a = b :=
  List.inj_on_of_nodup_map hnodup ha hb h

theorem lookup_of_mem {rows : List α} (hnodup : (rows.map key).Nodup) {row : α}
    (hrow : row ∈ rows) : lookup key (key row) rows = some row := by
  have hsome : (lookup key (key row) rows).isSome := by
    rw [lookup, List.find?_isSome]
    exact ⟨row, hrow, by simp⟩
  obtain ⟨found, hfound⟩ := Option.isSome_iff_exists.mp hsome
  rw [hfound, eq_of_mem hnodup (mem_of_lookup hfound) hrow (key_of_lookup hfound)]

theorem lookup_eq_none {k : κ} {rows : List α} :
    lookup key k rows = none ↔ ∀ row ∈ rows, key row ≠ k := by
  simp [lookup, List.find?_eq_none]

/-- A change of rows that keeps their keys commutes with looking one up. -/
theorem lookup_map {f : α → α} (hf : ∀ row, key (f row) = key row) (k : κ) (rows : List α) :
    lookup key k (rows.map f) = (lookup key k rows).map f := by
  rw [lookup, lookup, List.find?_map]
  refine congrArg (Option.map f) (congrArg (List.find? · rows) (funext fun row => ?_))
  simp [hf]

/-! ### Replacing a row -/

@[simp] theorem map_key_put (row : α) (rows : List α) :
    (put key row rows).map key = rows.map key := by
  rw [put, List.map_map]
  refine List.map_congr_left fun other _ => ?_
  by_cases h : key other = key row
  · simp [h]
  · simp [h]

@[simp] theorem length_put (row : α) (rows : List α) : (put key row rows).length = rows.length := by
  simp [put]

/-- What a table holds once a row is replaced. -/
theorem mem_put {row other : α} {rows : List α} : other ∈ put key row rows ↔
    (other = row ∧ key row ∈ rows.map key) ∨ (other ∈ rows ∧ key other ≠ key row) := by
  rw [put, List.mem_map]
  constructor
  · rintro ⟨r, hr, rfl⟩
    by_cases h : key r = key row
    · exact .inl ⟨if_pos h, h ▸ List.mem_map_of_mem hr⟩
    · rw [if_neg h]
      exact .inr ⟨hr, h⟩
  · rintro (⟨rfl, hkey⟩ | ⟨hother, h⟩)
    · obtain ⟨r, hr, hr'⟩ := List.mem_map.mp hkey
      exact ⟨r, hr, if_pos hr'⟩
    · exact ⟨other, hother, if_neg h⟩

theorem mem_put_self {row : α} {rows : List α} (h : key row ∈ rows.map key) :
    row ∈ put key row rows := mem_put.mpr (.inl ⟨rfl, h⟩)

theorem mem_put_of_ne {row other : α} {rows : List α} (hother : other ∈ rows)
    (h : key other ≠ key row) : other ∈ put key row rows := mem_put.mpr (.inr ⟨hother, h⟩)

/-- A property of every row is kept if the new row has it. -/
theorem forall_put {P : α → Prop} {row : α} {rows : List α} (hrows : ∀ other ∈ rows, P other)
    (hrow : P row) : ∀ other ∈ put key row rows, P other := by
  intro other hother
  rcases mem_put.mp hother with ⟨rfl, -⟩ | ⟨hmem, -⟩
  · exact hrow
  · exact hrows other hmem

/-- No key is lost by a replacement. -/
theorem exists_key_put (row : α) {rows : List α} {old : α} (hold : old ∈ rows) :
    ∃ new ∈ put key row rows, key new = key old := by
  have hkey : key old ∈ (put key row rows).map key := by
    rw [map_key_put]
    exact List.mem_map_of_mem hold
  exact List.mem_map.mp hkey

/-- Every row has a successor with its key, related to it, if the replaced one has. -/
theorem exists_put {R : α → α → Prop} (hrefl : ∀ a, R a a) {row : α} {rows : List α}
    (hrow : ∀ old ∈ rows, key old = key row → R old row) {old : α} (hold : old ∈ rows) :
    ∃ new ∈ put key row rows, key new = key old ∧ R old new := by
  by_cases h : key old = key row
  · exact ⟨row, mem_put_self (h ▸ List.mem_map_of_mem hold), h.symm, hrow old hold h⟩
  · exact ⟨old, mem_put_of_ne hold h, rfl, hrefl old⟩

theorem put_of_not_mem {row : α} {rows : List α} (h : key row ∉ rows.map key) :
    put key row rows = rows := by
  have hid : ∀ other ∈ rows, (if key other = key row then row else other) = id other := by
    intro other hother
    refine if_neg fun heq => h ?_
    exact heq ▸ List.mem_map_of_mem hother
  rw [put, List.map_congr_left hid, List.map_id]

/-- The later of two replacements counts. -/
theorem put_put {row row' : α} (rows : List α) (h : key row' = key row) :
    put key row' (put key row rows) = put key row' rows := by
  rw [put, put, put, List.map_map]
  refine List.map_congr_left fun other _ => ?_
  by_cases hother : key other = key row
  · simp [hother, h]
  · simp [hother, h]

/-- A row that replaces another one is found in its place. -/
theorem lookup_put {k : κ} {row old : α} {rows : List α} (hold : lookup key k rows = some old)
    (hkey : key row = k) : lookup key k (put key row rows) = some row := by
  have hkeys : ∀ other, key (if key other = key row then row else other) = key other := by
    intro other
    by_cases h : key other = key row
    · rw [if_pos h, h]
    · rw [if_neg h]
  rw [put, lookup_map hkeys, hold, Option.map_some, if_pos ((key_of_lookup hold).trans hkey.symm)]

/-- Replacing a row changes how many rows have a property by these two rows only. -/
theorem length_filter_put {p : α → Bool} {row old : α} {rows : List α}
    (hnodup : (rows.map key).Nodup) (hold : old ∈ rows) (hkey : key old = key row) :
    ((put key row rows).filter p).length + (p old).toNat =
      (rows.filter p).length + (p row).toNat := by
  induction rows with
  | nil => cases hold
  | cons other rows ih =>
    obtain ⟨hother, hrest⟩ := List.nodup_cons.mp hnodup
    rcases List.mem_cons.mp hold with rfl | hmem
    · have hput : put key row (old :: rows) = row :: put key row rows := by
        simp [put, hkey]
      rw [hput, put_of_not_mem (hkey ▸ hother), List.filter_cons, List.filter_cons]
      cases p row <;> cases p old <;> simp
    · have hne : key other ≠ key row := by
        intro heq
        exact hother (heq.trans hkey.symm ▸ List.mem_map_of_mem hmem)
      have hput : put key row (other :: rows) = other :: put key row rows := by
        simp [put, hne]
      have htail := ih hrest hmem
      rw [hput, List.filter_cons, List.filter_cons]
      cases p other
      · simpa using htail
      · simp only [if_true, List.length_cons]
        omega

end Table

/-! ### Rows in the order of a column -/

/-- Rows that were inserted in strictly the opposite order are sorted by turning them around. -/
theorem insertionSort_of_increasing {α τ : Type} [LinearOrder τ] {column : α → τ} {rows : List α}
    (h : rows.Pairwise fun a b => column a < column b) :
    rows.insertionSort (fun a b => column b ≤ column a) = rows.reverse := by
  have hinsert : ∀ (a : α) (later : List α), (∀ b ∈ later, column a < column b) →
      later.orderedInsert (fun a b => column b ≤ column a) a = later ++ [a] := by
    intro a later hlater
    induction later with
    | nil => rfl
    | cons b later ih =>
      have hb : ¬column b ≤ column a := not_le.mpr (hlater b List.mem_cons_self)
      rw [List.orderedInsert_cons, if_neg hb,
        ih fun c hc => hlater c (List.mem_cons_of_mem b hc), List.cons_append]
  induction rows with
  | nil => rfl
  | cons a rows ih =>
    obtain ⟨ha, hrest⟩ := List.pairwise_cons.mp h
    rw [List.insertionSort_cons, ih hrest, List.reverse_cons]
    exact hinsert a _ fun b hb => ha b (List.mem_reverse.mp hb)

/-! ### Rows that own rows of another table -/

/-- Of two rows with a child of the same key, both are the same row. -/
theorem owner_unique {α β κ : Type} {rows : List α} {children : α → List β} {key : β → κ}
    (hnodup : ((rows.flatMap children).map key).Nodup) {a b : α} (ha : a ∈ rows) (hb : b ∈ rows)
    {x y : β} (hx : x ∈ children a) (hy : y ∈ children b) (h : key x = key y) : a = b := by
  by_contra hne
  rw [List.map_flatMap, List.nodup_flatMap] at hnodup
  have : Std.Symm (Function.onFun List.Disjoint fun row => (children row).map key) :=
    ⟨fun _ _ hdisjoint => List.Disjoint.symm hdisjoint⟩
  exact hnodup.2.forall ha hb hne (List.mem_map_of_mem hx) (h ▸ List.mem_map_of_mem hy)

end VpsGuardian.Lib.Table
