import Mathlib

/-!
Finite maps with string keys: Go's `map[string]T` and the JSON objects it is
read from. The keys are distinct by construction; the order of the entries is
the order of insertion and says nothing about the program's iteration order.
-/

namespace VpsGuardian.Lib

structure Dict (α : Type) where
  entries : List (String × α)
  nodup : (entries.map Prod.fst).Nodup

namespace Dict

variable {α : Type}

instance [DecidableEq α] : DecidableEq (Dict α) := fun m n =>
  decidable_of_iff (m.entries = n.entries) (by cases m; cases n; simp)

def empty : Dict α := ⟨[], List.nodup_nil⟩

instance : Inhabited (Dict α) := ⟨empty⟩

def size (m : Dict α) : Nat := m.entries.length

def keys (m : Dict α) : List String := m.entries.map Prod.fst

def get? (m : Dict α) (key : String) : Option α := m.entries.lookup key

def contains (m : Dict α) (key : String) : Bool := (m.get? key).isSome

/-- The entries that satisfy a condition. -/
def filter (p : String × α → Bool) (m : Dict α) : Dict α :=
  ⟨m.entries.filter p, m.nodup.sublist (List.filter_sublist.map Prod.fst)⟩

def erase (m : Dict α) (key : String) : Dict α := m.filter fun entry => entry.1 != key

/-- Replaces the value of a key, or adds the key at the end. -/
def insert (m : Dict α) (key : String) (value : α) : Dict α where
  entries := (m.erase key).entries ++ [(key, value)]
  nodup := by
    rw [List.map_append, List.nodup_append]
    refine ⟨(m.erase key).nodup, by simp, ?_⟩
    intro a ha b hb
    obtain ⟨⟨_, value'⟩, hmem, rfl⟩ := List.mem_map.mp ha
    obtain rfl : b = key := by simpa using hb
    simpa using (List.mem_filter.mp hmem).2

/-- The map a list of entries describes; the last entry of a key counts. -/
def ofList (entries : List (String × α)) : Dict α :=
  entries.foldl (fun m entry => m.insert entry.1 entry.2) empty

theorem entries_insert_of_not_mem {m : Dict α} {key : String} (h : key ∉ m.keys) (value : α) :
    (m.insert key value).entries = m.entries ++ [(key, value)] := by
  have hfilter : m.entries.filter (fun entry => entry.1 != key) = m.entries := by
    rw [List.filter_eq_self]
    intro entry hentry
    have hne : entry.1 ≠ key := fun heq => h (heq ▸ List.mem_map_of_mem hentry)
    simpa using hne
  simp [insert, erase, filter, hfilter]

theorem entries_foldl_insert (entries : List (String × α)) (m : Dict α)
    (h : ((m.entries ++ entries).map Prod.fst).Nodup) :
    (entries.foldl (fun m entry => m.insert entry.1 entry.2) m).entries = m.entries ++ entries := by
  induction entries generalizing m with
  | nil => simp
  | cons entry entries ih =>
    have hkey : entry.1 ∉ m.keys := by
      rw [List.map_append, List.nodup_append] at h
      intro hmem
      exact h.2.2 _ hmem entry.1 (by simp) rfl
    have hentries := entries_insert_of_not_mem hkey entry.2
    rw [List.foldl_cons, ih, hentries, List.append_assoc, List.singleton_append]
    rw [hentries, List.append_assoc, List.singleton_append]
    exact h

/-- A map is the map its own entries describe. -/
theorem ofList_entries (m : Dict α) : ofList m.entries = m := by
  obtain ⟨entries, hnodup⟩ := m
  have hentries := entries_foldl_insert entries empty (by simpa [empty] using hnodup)
  rw [ofList]
  generalize entries.foldl _ _ = m at hentries
  cases m
  simpa [empty] using hentries

theorem mem_entries_of_get? {m : Dict α} {key : String} {value : α}
    (h : m.get? key = some value) : (key, value) ∈ m.entries := by
  obtain ⟨before, after, hentries, -⟩ := List.lookup_eq_some_iff.mp h
  rw [hentries]
  exact List.mem_append_right _ List.mem_cons_self

theorem mem_of_mem_entries_ofList {entries : List (String × α)} {entry : String × α}
    (h : entry ∈ (ofList entries).entries) : entry ∈ entries := by
  have hfold : ∀ (entries : List (String × α)) (m : Dict α),
      entry ∈ (entries.foldl (fun m entry => m.insert entry.1 entry.2) m).entries →
        entry ∈ m.entries ∨ entry ∈ entries := by
    intro entries
    induction entries with
    | nil => exact fun m h => .inl h
    | cons first entries ih =>
      intro m h
      obtain h | h := ih _ h
      · obtain h | h := List.mem_append.mp h
        · exact .inl (List.mem_filter.mp h).1
        · exact .inr (List.mem_cons.mpr (.inl (List.mem_singleton.mp h)))
      · exact .inr (List.mem_cons_of_mem _ h)
  obtain h | h := hfold entries empty h
  · cases h
  · exact h

theorem lookup_filter_ne {key k : String} (h : k ≠ key) (entries : List (String × α)) :
    (entries.filter fun entry => entry.1 != key).lookup k = entries.lookup k := by
  induction entries with
  | nil => rfl
  | cons entry entries ih =>
    rw [List.filter_cons]
    by_cases hkey : entry.1 = key
    · have hne : (k == entry.1) = false := beq_eq_false_iff_ne.mpr (hkey ▸ h)
      rw [if_neg (by simp [hkey]), ih, List.lookup_cons, hne]
    · rw [if_pos (by simp [hkey]), List.lookup_cons, List.lookup_cons, ih]

theorem get?_insert (m : Dict α) (key k : String) (value : α) :
    (m.insert key value).get? k = if k = key then some value else m.get? k := by
  rw [get?, insert, List.lookup_append]
  by_cases h : k = key
  · have hnone : (m.erase key).entries.lookup k = none := by
      rw [List.lookup_eq_none_iff]
      intro entry hentry
      have hne : entry.1 ≠ key := by simpa using (List.mem_filter.mp hentry).2
      rw [h]
      exact bne_iff_ne.mpr hne.symm
    rw [hnone, if_pos h]
    simp [List.lookup, h]
  · have hne : (k == key) = false := beq_eq_false_iff_ne.mpr h
    have hlookup : (m.erase key).entries.lookup k = m.entries.lookup k := lookup_filter_ne h _
    rw [hlookup, if_neg h, get?]
    cases m.entries.lookup k <;> simp [List.lookup, hne]

/-- A list in which no key is repeated is the list of entries of its map. -/
theorem entries_ofList {entries : List (String × α)} (h : (entries.map Prod.fst).Nodup) :
    (ofList entries).entries = entries := by
  rw [ofList, entries_foldl_insert entries empty (by simpa [empty] using h)]
  rfl

theorem get?_ofList_of_mem {entries : List (String × α)} (h : (entries.map Prod.fst).Nodup)
    {key : String} {value : α} (hmem : (key, value) ∈ entries) :
    (ofList entries).get? key = some value := by
  rw [get?, entries_ofList h]
  induction entries with
  | nil => cases hmem
  | cons entry entries ih =>
    obtain ⟨hentry, hrest⟩ := List.nodup_cons.mp h
    rw [List.lookup_cons]
    rcases List.mem_cons.mp hmem with rfl | hmem
    · simp
    · have hne : key ≠ entry.1 := by
        rintro rfl
        exact hentry (List.mem_map.mpr ⟨_, hmem, rfl⟩)
      rw [beq_eq_false_iff_ne.mpr hne]
      exact ih hrest hmem

theorem get?_ofList_of_not_mem {entries : List (String × α)} {key : String}
    (h : key ∉ entries.map Prod.fst) : (ofList entries).get? key = none := by
  by_contra hsome
  obtain ⟨value, hvalue⟩ := Option.ne_none_iff_exists'.mp hsome
  exact h (List.mem_map_of_mem (mem_of_mem_entries_ofList (mem_entries_of_get? hvalue)))

end Dict

/-- `map[string]string`: reading an absent key gives the empty string. -/
def Dict.get (m : Dict String) (key : String) : String := (m.get? key).getD ""

end VpsGuardian.Lib
