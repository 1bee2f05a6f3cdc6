import VpsGuardian.Lib.PythonJsonRoundTrip

/-!
Python's `==` between what `json` reads and writes.

Dictionaries are equal whatever the order of their members is. So a value equals
exactly what it comes back as equals, when its text is read again.
-/

namespace VpsGuardian.Lib.PythonJson

/-- The number that a value stands for; truth values are numbers. -/
def number? : Value → Option ℚ
  | .bool b => some (if b then 1 else 0)
  | .int i => some i
  | .float n => some ((if n.negative then -1 else 1) * n.digits * 10 ^ n.exponent)
  | .null | .nonFinite _ | .string _ | .list _ | .dict _ => none

mutual

/-- `value == other` -/
def equal : Value → Value → Bool
  | .null, .null => true
  | .string s, .string t => s == t
  | .nonFinite x, .nonFinite y => x == y && x != .nan
  | .list items, .list others => equalItems items others
  | .dict members, .dict others =>
      members.length == others.length && equalMembers members others
  | value, other => (number? value).any fun n => number? other == some n

def equalItems : List Value → List Value → Bool
  | [], [] => true
  | item :: items, other :: others => equal item other && equalItems items others
  | [], _ :: _ | _ :: _, [] => false

def equalMembers : List (Text × Value) → List (Text × Value) → Bool
  | [], _ => true
  | (key, value) :: members, others =>
      ((others.lookup key).any fun other => equal value other) && equalMembers members others

end

mutual

/-- No text has a surrogate pair, and no dictionary has a key twice. -/
def plain : Value → Bool
  | .string s => !Text.hasPair s
  | .list items => plainItems items
  | .dict members =>
      decide (members.map Prod.fst).Nodup && (members.all fun m => !Text.hasPair m.1) &&
        plainMembers members
  | .null | .bool _ | .int _ | .float _ | .nonFinite _ => true

def plainItems : List Value → Bool
  | [] => true
  | item :: items => plain item && plainItems items

def plainMembers : List (Text × Value) → Bool
  | [] => true
  | (_, value) :: members => plain value && plainMembers members

end

theorem plainItems_eq_all (items : List Value) : plainItems items = items.all plain := by
  induction items with
  | nil => rfl
  | cons item items ih => rw [plainItems, ih, List.all_cons]

theorem equalMembers_eq_all (members others : List (Text × Value)) :
    equalMembers members others =
      members.all fun m => (others.lookup m.1).any fun other => equal m.2 other := by
  induction members with
  | nil => rfl
  | cons member members ih => rw [equalMembers, ih, List.all_cons]

/-- Two lists of values that are told apart are equal if their values are. -/
theorem equalItems_map {α : Type} {f : α → Value} {as bs : List α}
    (h : ∀ a ∈ as, ∀ b ∈ bs, equal (f a) (f b) = true ↔ a = b) :
    equalItems (as.map f) (bs.map f) = true ↔ as = bs := by
  induction as generalizing bs with
  | nil => cases bs <;> simp [equalItems]
  | cons a as ih =>
    cases bs with
    | nil => simp [equalItems]
    | cons b bs =>
      have htail := ih fun a' ha' b' hb' =>
        h a' (List.mem_cons_of_mem a ha') b' (List.mem_cons_of_mem b hb')
      rw [List.map_cons, List.map_cons, equalItems, Bool.and_eq_true, htail,
        h a List.mem_cons_self b List.mem_cons_self, List.cons.injEq]

/-- A dictionary comes back as a permutation of what its members come back as. -/
theorem readBack_dict_perm {members : List (Text × Value)} (hnodup : (members.map Prod.fst).Nodup)
    (hkeys : ∀ key ∈ members.map Prod.fst, Text.hasPair key = false) :
    ∃ back, readBack (.dict members) = .dict back ∧
      back.Perm (members.map fun m => (m.1, readBack m.2)) := by
  obtain ⟨back, hback, hnodupBack, hlookup⟩ := readBack_dict hnodup hkeys
  refine ⟨back, hback, ?_⟩
  have hfst : (members.map fun m => (m.1, readBack m.2)).map Prod.fst = members.map Prod.fst := by
    rw [List.map_map]
    rfl
  have hnodupMap : ((members.map fun m => (m.1, readBack m.2)).map Prod.fst).Nodup :=
    hfst ▸ hnodup
  refine (List.perm_ext_iff_of_nodup hnodupBack.of_map hnodupMap.of_map).mpr fun entry => ?_
  obtain ⟨key, value⟩ := entry
  rw [← lookup_eq_some_iff hnodupBack, ← lookup_eq_some_iff hnodupMap, hlookup, lookup_map_snd]

mutual

/-- What a value comes back as equals the same values. -/
theorem equal_readBack : ∀ (value other : Value), plain value = true →
    equal (readBack value) other = equal value other
  | .null, _, _ => rfl
  | .bool _, _, _ => rfl
  | .int _, _, _ => rfl
  | .float _, _, _ => rfl
  | .nonFinite _, _, _ => rfl
  | .string s, other, h => by
    rw [readBack_string (by simpa [plain] using h)]
  | .list items, other, h => by
    cases other with
    | list others =>
      rw [readBack, equal, equal]
      exact equalItems_readBackItems items others h
    | _ => rfl
  | .dict members, other, h => by
    simp only [plain, Bool.and_eq_true, decide_eq_true_eq, List.all_eq_true,
      Bool.not_eq_true'] at h
    obtain ⟨⟨hnodup, hkeys⟩, hmembers⟩ := h
    obtain ⟨back, hback, hperm⟩ := readBack_dict_perm hnodup (List.forall_mem_map.mpr hkeys)
    rw [hback]
    cases other with
    | dict others =>
      rw [equal, equal, hperm.length_eq, List.length_map, equalMembers_eq_all, hperm.all_eq,
        List.all_map, equalMembers_eq_all]
      congr 1
      rw [Bool.eq_iff_iff, List.all_eq_true, List.all_eq_true]
      refine forall₂_congr fun member hmember => ?_
      simp only [Function.comp_apply,
        equal_readBack_members members hmembers member hmember]
    | _ => rfl

theorem equalItems_readBackItems : ∀ items others : List Value, plainItems items = true →
    equalItems (readBackItems items) others = equalItems items others
  | [], _, _ => rfl
  | _ :: _, [], _ => rfl
  | item :: items, other :: others, h => by
    rw [plainItems, Bool.and_eq_true] at h
    rw [readBackItems, equalItems, equalItems, equal_readBack item other h.1,
      equalItems_readBackItems items others h.2]

theorem equal_readBack_members : ∀ members : List (Text × Value), plainMembers members = true →
    ∀ member ∈ members, ∀ other, equal (readBack member.2) other = equal member.2 other
  | [], _ => fun _ hmem => absurd hmem List.not_mem_nil
  | (_, value) :: members, h => by
    rw [plainMembers, Bool.and_eq_true] at h
    exact List.forall_mem_cons.mpr ⟨fun other => equal_readBack value other h.1,
      equal_readBack_members members h.2⟩

end

/-! ### Named members -/

theorem plainMembers_eq_all (members : List (Text × Value)) :
    plainMembers members = members.all fun m => plain m.2 := by
  induction members with
  | nil => rfl
  | cons member members ih => rw [plainMembers, ih, List.all_cons]

theorem plain_named {members : List (String × Value)} (hnodup : (members.map Prod.fst).Nodup)
    (h : ∀ member ∈ members, plain member.2 = true) : plain (.dict (named members)) = true := by
  simp only [plain, plainMembers_eq_all, Bool.and_eq_true, decide_eq_true_eq, List.all_eq_true,
    Bool.not_eq_true']
  refine ⟨⟨?_, ?_⟩, ?_⟩
  · rw [map_fst_named]
    exact hnodup.map Text.ofString_injective
  · intro member hmember
    obtain ⟨member, -, rfl⟩ := List.mem_map.mp hmember
    exact Text.not_hasPair_ofString member.1
  · intro member hmember
    obtain ⟨original, horiginal, rfl⟩ := List.mem_map.mp hmember
    exact h original horiginal

theorem equal_named (members others : List (String × Value)) :
    equal (.dict (named members)) (.dict (named others)) =
      (members.length == others.length &&
        members.all fun m => (others.lookup m.1).any fun other => equal m.2 other) := by
  rw [equal, equalMembers_eq_all, named, List.length_map, List.all_map]
  simp only [Function.comp_def]
  change (_ == (named others).length && members.all fun m =>
    ((named others).lookup (Text.ofString m.1)).any fun other => equal m.2 other) = _
  simp only [lookup_named]
  rw [named, List.length_map]

@[simp] theorem equal_string {s t : Text} : equal (.string s) (.string t) = true ↔ s = t := by
  rw [equal, beq_iff_eq]

@[simp] theorem equal_list {items others : List Value} :
    equal (.list items) (.list others) = equalItems items others := rfl

@[simp] theorem equal_int {i j : Int} : equal (.int i) (.int j) = true ↔ i = j := by
  change (some (j : ℚ) == some (i : ℚ)) = true ↔ i = j
  rw [beq_iff_eq, Option.some.injEq, Int.cast_inj, eq_comm]

end VpsGuardian.Lib.PythonJson
