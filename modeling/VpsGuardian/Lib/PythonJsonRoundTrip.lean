import VpsGuardian.Lib.PythonJson

/-!
What Python reads back from a JSON text that it wrote.

A value comes back as it was, up to the order of its dictionaries, unless one of
its strings has a surrogate pair in two code points: the reader joins it.
-/

namespace VpsGuardian.Lib.PythonJson

open Json (Number skipSpace isSpace EndsNumber consUnit parseUnits)

/-! ### Dictionaries -/

section Dictionary

variable {α β : Type} {members : List (Text × α)} {key : Text} {value : α}

theorem lookup_cons (k : Text) (entry : Text × α) (members : List (Text × α)) :
    (entry :: members).lookup k = if k = entry.1 then some entry.2 else members.lookup k := by
  rw [List.lookup_cons]
  by_cases h : k = entry.1
  · rw [beq_iff_eq.mpr h, if_pos h]
  · rw [beq_eq_false_iff_ne.mpr h, if_neg h]

theorem lookup_set (members : List (Text × α)) (key k : Text) (value : α) :
    (set members key value).lookup k = if k = key then some value else members.lookup k := by
  induction members with
  | nil => rw [set, lookup_cons]
  | cons entry members ih =>
    obtain ⟨k', v⟩ := entry
    rw [set]
    split_ifs with hkey h h
    · rw [lookup_cons, if_pos (h.trans hkey.symm)]
    · have hne : k ≠ k' := fun heq => h (heq.trans hkey)
      rw [lookup_cons, lookup_cons, if_neg hne, if_neg hne]
    · have hne : k ≠ k' := fun heq => hkey (heq.symm.trans h)
      rw [lookup_cons, if_neg hne, ih, if_pos h]
    · rw [lookup_cons, lookup_cons, ih, if_neg h]

theorem map_fst_set_of_mem (h : key ∈ members.map Prod.fst) :
    (set members key value).map Prod.fst = members.map Prod.fst := by
  induction members with
  | nil => cases h
  | cons entry members ih =>
    obtain ⟨k, v⟩ := entry
    rw [set]
    split_ifs with hkey
    · rfl
    · obtain rfl | hmem := List.mem_cons.mp h
      · exact absurd rfl hkey
      · rw [List.map_cons, List.map_cons, ih hmem]

theorem set_of_not_mem (h : key ∉ members.map Prod.fst) :
    set members key value = members ++ [(key, value)] := by
  induction members with
  | nil => rfl
  | cons entry members ih =>
    obtain ⟨k, v⟩ := entry
    rw [List.map_cons, List.mem_cons, not_or] at h
    rw [set, if_neg (Ne.symm h.1), ih h.2, List.cons_append]

theorem nodup_set (h : (members.map Prod.fst).Nodup) (key : Text) (value : α) :
    ((set members key value).map Prod.fst).Nodup := by
  by_cases hmem : key ∈ members.map Prod.fst
  · rw [map_fst_set_of_mem hmem]
    exact h
  · rw [set_of_not_mem hmem, List.map_append]
    exact List.Nodup.append h (List.nodup_singleton key) (by simpa using hmem)

theorem update_of_nodup (members entries : List (Text × α))
    (h : ((members ++ entries).map Prod.fst).Nodup) :
    update members entries = members ++ entries := by
  induction entries generalizing members with
  | nil => simp [update]
  | cons entry entries ih =>
    have hnot : entry.1 ∉ members.map Prod.fst := by
      rw [List.map_append, List.map_cons, List.nodup_append] at h
      exact fun hmem => h.2.2 _ hmem _ List.mem_cons_self rfl
    have hentry : set members entry.1 entry.2 = members ++ [entry] := set_of_not_mem hnot
    rw [update, List.foldl_cons, hentry]
    refine (ih _ ?_).trans (by simp)
    simpa using h

/-- What a dictionary has under a key once entries are merged into it: the last of them counts. -/
theorem lookup_update (members entries : List (Text × α)) (k : Text) :
    (update members entries).lookup k = (entries.reverse.lookup k).or (members.lookup k) := by
  induction entries generalizing members with
  | nil => simp [update]
  | cons entry entries ih =>
    have hrest := ih (set members entry.1 entry.2)
    rw [update] at hrest ⊢
    rw [List.foldl_cons, hrest, lookup_set, List.reverse_cons, List.lookup_append, Option.or_assoc,
      lookup_cons]
    by_cases h : k = entry.1
    · rw [if_pos h, if_pos h, Option.some_or]
    · rw [if_neg h, if_neg h, List.lookup_nil, Option.none_or]

theorem nodup_update (h : (members.map Prod.fst).Nodup) (entries : List (Text × α)) :
    ((update members entries).map Prod.fst).Nodup := by
  induction entries generalizing members with
  | nil => exact h
  | cons entry entries ih => exact ih (nodup_set h entry.1 entry.2)

theorem lookup_eq_some_iff (h : (members.map Prod.fst).Nodup) :
    members.lookup key = some value ↔ (key, value) ∈ members := by
  induction members with
  | nil => simp
  | cons entry members ih =>
    obtain ⟨k, v⟩ := entry
    obtain ⟨hk, hrest⟩ := List.nodup_cons.mp h
    rw [lookup_cons, List.mem_cons]
    by_cases hkey : key = k
    · subst hkey
      have hnot : (key, value) ∉ members := fun hmem => hk (List.mem_map.mpr ⟨_, hmem, rfl⟩)
      simp [hnot, eq_comm]
    · simp [hkey, ih hrest]

/-- The order of the entries does not matter to a lookup. -/
theorem lookup_perm {members' : List (Text × α)} (hperm : members.Perm members')
    (h : (members.map Prod.fst).Nodup) (key : Text) :
    members.lookup key = members'.lookup key := by
  have h' : (members'.map Prod.fst).Nodup := (hperm.map Prod.fst).nodup_iff.mp h
  ext value
  rw [lookup_eq_some_iff h, lookup_eq_some_iff h', hperm.mem_iff]

theorem lookup_map_snd (f : α → β) (members : List (Text × α)) (key : Text) :
    (members.map fun m => (m.1, f m.2)).lookup key = (members.lookup key).map f := by
  induction members with
  | nil => rfl
  | cons entry members ih =>
    rw [List.map_cons, lookup_cons, lookup_cons, ih]
    split_ifs <;> rfl

theorem perm_sortKeys (members : List (Text × α)) : (sortKeys members).Perm members :=
  List.perm_insertionSort _ members

theorem sortKeys_map (f : α → β) (members : List (Text × α)) :
    sortKeys (members.map fun m => (m.1, f m.2)) =
      (sortKeys members).map fun m => (m.1, f m.2) :=
  (List.map_insertionSort (fun a b : Text × α => a.1 ≤ b.1) (fun a b : Text × β => a.1 ≤ b.1)
    (fun m => (m.1, f m.2)) members fun _ _ _ _ => Iff.rfl).symm

end Dictionary

/-! ### The value that comes back -/

mutual

def readBack : Value → Value
  | .string s => .string (Text.joined s)
  | .list items => .list (readBackItems items)
  | .dict members =>
      .dict (update [] ((sortKeys (readBackMembers members)).map fun m => (Text.joined m.1, m.2)))
  | v => v

def readBackItems : List Value → List Value
  | [] => []
  | item :: items => readBack item :: readBackItems items

def readBackMembers : List (Text × Value) → List (Text × Value)
  | [] => []
  | (key, value) :: members => (key, readBack value) :: readBackMembers members

end

theorem readBackItems_eq_map (items : List Value) : readBackItems items = items.map readBack := by
  induction items with
  | nil => rfl
  | cons item items ih => rw [readBackItems, ih, List.map_cons]

theorem readBackMembers_eq_map (members : List (Text × Value)) :
    readBackMembers members = members.map fun m => (m.1, readBack m.2) := by
  induction members with
  | nil => rfl
  | cons member members ih => rw [readBackMembers, ih, List.map_cons]

theorem dumpsItems_eq_map (layout : Layout) (depth : Nat) (items : List Value) :
    dumpsItems layout depth items = items.map (dumps layout depth) := by
  induction items with
  | nil => rfl
  | cons item items ih => rw [dumpsItems, ih, List.map_cons]

theorem dumpsMembers_eq_map (layout : Layout) (depth : Nat) (members : List (Text × Value)) :
    dumpsMembers layout depth members = members.map fun m => (m.1, dumps layout depth m.2) := by
  induction members with
  | nil => rfl
  | cons member members ih => rw [dumpsMembers, ih, List.map_cons]

/-- A dictionary whose keys have no surrogate pair comes back with the same keys. -/
theorem readBack_dict {members : List (Text × Value)} (hnodup : (members.map Prod.fst).Nodup)
    (hkeys : ∀ key ∈ members.map Prod.fst, Text.hasPair key = false) :
    ∃ back, readBack (.dict members) = .dict back ∧ (back.map Prod.fst).Nodup ∧
      ∀ key, back.lookup key = (members.lookup key).map readBack := by
  let sorted := sortKeys (members.map fun m => (m.1, readBack m.2))
  have hperm : sorted.Perm (members.map fun m => (m.1, readBack m.2)) := perm_sortKeys _
  have hfst : (members.map fun m => (m.1, readBack m.2)).map Prod.fst = members.map Prod.fst := by
    rw [List.map_map]
    rfl
  have hsorted : (sorted.map Prod.fst).Nodup := by
    rw [(hperm.map Prod.fst).nodup_iff, hfst]
    exact hnodup
  have hjoined : (sorted.map fun m => (Text.joined m.1, m.2)) = sorted := by
    conv_rhs => rw [← List.map_id sorted]
    refine List.map_congr_left fun m hm => ?_
    have hkey : m.1 ∈ members.map Prod.fst := hfst ▸ (hperm.map Prod.fst).subset
      (List.mem_map_of_mem hm)
    rw [Text.joined_of_not_hasPair (hkeys _ hkey)]
    rfl
  refine ⟨sorted, ?_, hsorted, fun key => ?_⟩
  · rw [readBack, readBackMembers_eq_map]
    change Value.dict (update [] (sorted.map fun m => (Text.joined m.1, m.2))) = _
    rw [hjoined, update_of_nodup [] sorted hsorted, List.nil_append]
  · rw [lookup_perm hperm hsorted, lookup_map_snd]

/-! ### Names as keys -/

def named {α : Type} (members : List (String × α)) : List (Text × α) :=
  members.map fun m => (Text.ofString m.1, m.2)

theorem lookup_named {α : Type} (members : List (String × α)) (name : String) :
    (named members).lookup (Text.ofString name) = members.lookup name := by
  induction members with
  | nil => rfl
  | cons member members ih =>
    have hbeq : (Text.ofString name == Text.ofString member.1) = (name == member.1) := by
      rw [Bool.eq_iff_iff, beq_iff_eq, beq_iff_eq, Text.ofString_injective.eq_iff]
    rw [named, List.map_cons, List.lookup_cons, List.lookup_cons, hbeq, ← ih]
    rfl

theorem map_fst_named {α : Type} (members : List (String × α)) :
    (named members).map Prod.fst = (members.map Prod.fst).map Text.ofString := by
  rw [named, List.map_map, List.map_map]
  rfl

theorem readBack_named {members : List (String × Value)}
    (hnodup : (members.map Prod.fst).Nodup) :
    ∃ back, readBack (.dict (named members)) = .dict back ∧ (back.map Prod.fst).Nodup ∧
      ∀ key, back.lookup key = ((named members).lookup key).map readBack := by
  apply readBack_dict
  · rw [map_fst_named]
    exact hnodup.map Text.ofString_injective
  · intro key hkey
    rw [map_fst_named] at hkey
    obtain ⟨name, -, rfl⟩ := List.mem_map.mp hkey
    exact Text.not_hasPair_ofString name

theorem readBack_string {s : Text} (h : Text.hasPair s = false) :
    readBack (.string s) = .string s := by
  rw [readBack, Text.joined_of_not_hasPair h]

/-! ### Strings -/

def consUnits (units : List Nat) (result : Option (List Nat × List Char)) :
    Option (List Nat × List Char) :=
  result.map fun p => (units ++ p.1, p.2)

theorem parseUnits_flatMap_escapeUnicode {units : List Nat} (h : ∀ u ∈ units, u < 0x10000)
    (rest : List Char) :
    parseUnits (units.flatMap Json.escapeUnicode ++ rest) = consUnits units (parseUnits rest) := by
  induction units with
  | nil =>
    rw [List.flatMap_nil, List.nil_append]
    cases parseUnits rest <;> rfl
  | cons u units ih =>
    rw [List.flatMap_cons, List.append_assoc,
      Json.parseUnits_escapeUnicode (h u List.mem_cons_self),
      ih fun v hv => h v (List.mem_cons_of_mem _ hv)]
    cases parseUnits rest <;> rfl

theorem parseUnits_escapeAscii (c : CodePoint) (rest : List Char) :
    parseUnits (escapeAscii c ++ rest) = consUnits (Text.utf16 c) (parseUnits rest) := by
  have hone {u : Nat} (hu : u < 0x10000) (hc : c.val = u) :
      consUnit u (parseUnits rest) = consUnits (Text.utf16 c) (parseUnits rest) := by
    rw [Text.utf16_of_lt (by omega), hc]
    rfl
  have hshort {e d : Char} (he : e ≠ 'u') (hd : Json.unescape e = some d) (hc : c.val = d.toNat)
      (hlt : d.toNat < 0x10000) :
      parseUnits (['\\', e] ++ rest) = consUnits (Text.utf16 c) (parseUnits rest) :=
    (Json.parseUnits_short he hd rest).trans (hone hlt hc)
  unfold escapeAscii
  split_ifs with h1 h2 h3 h4 h5 h6 h7 h8
  · exact @hshort '"' '"' (by decide) rfl h1 (by decide)
  · exact @hshort '\\' '\\' (by decide) rfl h2 (by decide)
  · exact @hshort 'n' '\n' (by decide) rfl h3 (by decide)
  · exact @hshort 'r' '\r' (by decide) rfl h4 (by decide)
  · exact @hshort 't' '\t' (by decide) rfl h5 (by decide)
  · exact @hshort 'f' (Char.ofNat 12) (by decide) rfl h6 (by decide)
  · exact @hshort 'b' (Char.ofNat 8) (by decide) rfl h7 (by decide)
  · have hval : (Char.ofNat c.val).toNat = c.val := by
      rw [Char.toNat_ofNat, if_pos (Or.inl (by omega))]
    have hne {d : Char} (hd : c.val ≠ d.toNat) : Char.ofNat c.val ≠ d := by
      rintro rfl
      exact hd hval.symm
    rw [List.singleton_append, Json.parseUnits_plain (hne h1) (hne h2) (by omega), hval]
    exact hone (by omega) rfl
  · exact parseUnits_flatMap_escapeUnicode (fun u hu => Text.mem_utf16 hu) rest

theorem parseUnits_flatMap_escapeAscii (s : Text) (rest : List Char) :
    parseUnits (s.flatMap escapeAscii ++ '"' :: rest) = some (s.flatMap Text.utf16, rest) := by
  induction s with
  | nil => simp [parseUnits]
  | cons c s ih =>
    rw [List.flatMap_cons, List.append_assoc, parseUnits_escapeAscii, ih]
    rfl

theorem parseText_quoted (s : Text) (rest : List Char) :
    parseText (s.flatMap escapeAscii ++ '"' :: rest) = some (Text.joined s, rest) := by
  rw [parseText, parseUnits_flatMap_escapeAscii, Option.map_some, Text.join_flatMap_utf16]

/-! ### Blanks -/

def Blank (text : List Char) : Prop := ∀ c ∈ text, isSpace c = true

theorem blank_replicate (n : Nat) : Blank (List.replicate n ' ') := by
  intro c hc
  rw [List.eq_of_mem_replicate hc]
  rfl

theorem Layout.blank_newline (layout : Layout) (depth : Nat) : Blank (layout.newline depth) := by
  unfold Layout.newline
  cases layout.indent with
  | none => exact fun c hc => absurd hc List.not_mem_nil
  | some n =>
    intro c hc
    obtain rfl | hc := List.mem_cons.mp hc
    · rfl
    · exact blank_replicate _ c hc

theorem Layout.blank_gap (layout : Layout) (depth : Nat) : Blank (layout.gap depth) := by
  intro c hc
  obtain hc | hc := List.mem_append.mp hc
  · exact blank_replicate _ c hc
  · exact layout.blank_newline depth c hc

theorem skipSpace_append {blanks : List Char} (h : Blank blanks) (text : List Char) :
    skipSpace (blanks ++ text) = skipSpace text := List.dropWhile_append_of_pos h

theorem parseValue_append {blanks : List Char} (h : Blank blanks) (fuel : Nat) (text : List Char) :
    parseValue fuel (blanks ++ text) = parseValue fuel text := by
  cases fuel with
  | zero => rfl
  | succ fuel => rw [parseValue, parseValue, skipSpace_append h]

theorem parseItems_append {blanks : List Char} (h : Blank blanks) (fuel : Nat) (text : List Char) :
    parseItems fuel (blanks ++ text) = parseItems fuel text := by
  cases fuel with
  | zero => rfl
  | succ fuel => rw [parseItems, parseItems, parseValue_append h]

theorem parseMembers_append {blanks : List Char} (h : Blank blanks) (fuel : Nat)
    (text : List Char) : parseMembers fuel (blanks ++ text) = parseMembers fuel text := by
  cases fuel with
  | zero => rfl
  | succ fuel => rw [parseMembers, parseMembers, skipSpace_append h]

theorem endsNumber_append {blanks rest : List Char} (h : Blank blanks) (hrest : EndsNumber rest) :
    EndsNumber (blanks ++ rest) := by
  cases blanks with
  | nil => exact hrest
  | cons c blanks =>
    intro d hd
    obtain rfl : c = d := by simpa using hd
    have hspace := h c List.mem_cons_self
    simp only [isSpace, Bool.or_eq_true, beq_iff_eq] at hspace
    obtain ((rfl | rfl) | rfl) | rfl := hspace <;> decide

/-! ### Values -/

/-- Wherever a text stands, the value is read from it. -/
structure Reads (text : List Char) (value : Value) : Prop where
  starts : ∃ c rest, text = c :: rest ∧ isSpace c = false ∧ c ≠ ']'
  parses : ∀ fuel rest, text.length ≤ fuel → EndsNumber rest →
    parseValue fuel (text ++ rest) = some (value, rest)

theorem Reads.skip {text : List Char} {value : Value} (h : Reads text value) (rest : List Char) :
    skipSpace (text ++ rest) = text ++ rest := by
  obtain ⟨c, tail, rfl, hc, -⟩ := h.starts
  exact Json.skipSpace_cons hc _

/-- The items behind the first one, the closing bracket and the text after it. -/
def itemsTail (gap last : List Char) (closing : Char) (texts : List (List Char))
    (rest : List Char) : List Char :=
  texts.flatMap (fun text => ',' :: (gap ++ text)) ++ (last ++ closing :: rest)

theorem itemsTail_cons (gap last : List Char) (closing : Char) (text : List Char)
    (texts : List (List Char)) (rest : List Char) :
    itemsTail gap last closing (text :: texts) rest =
      ',' :: (gap ++ (text ++ itemsTail gap last closing texts rest)) := by
  simp [itemsTail]

theorem endsNumber_itemsTail {gap last : List Char} (hlast : Blank last) {closing : Char}
    (hclosing : closing = ']' ∨ closing = '}') (texts : List (List Char)) (rest : List Char) :
    EndsNumber (itemsTail gap last closing texts rest) := by
  cases texts with
  | nil =>
    rw [itemsTail, List.flatMap_nil, List.nil_append]
    exact endsNumber_append hlast (Json.endsNumber_cons (.inr hclosing) rest)
  | cons text texts =>
    rw [itemsTail_cons]
    exact Json.endsNumber_cons (.inl rfl) _

theorem Layout.enclose_cons (layout : Layout) (depth : Nat) (opening closing : Char)
    (first : List Char) (texts : List (List Char)) (rest : List Char) :
    layout.enclose depth opening closing (first :: texts) ++ rest =
      opening :: (layout.newline (depth + 1) ++ (first ++
        itemsTail (layout.gap (depth + 1)) (layout.newline depth) closing texts rest)) := by
  simp [Layout.enclose, itemsTail]

/-- The characters that the items of a bracketed text take at least. -/
def cost (texts : List (List Char)) : Nat := (texts.map fun text => text.length + 1).sum

theorem cost_cons (text : List Char) (texts : List (List Char)) :
    cost (text :: texts) = text.length + 1 + cost texts := by
  simp [cost]

theorem Layout.cost_lt_length (layout : Layout) (depth : Nat) (opening closing : Char)
    (texts : List (List Char)) :
    cost texts < (layout.enclose depth opening closing texts).length := by
  cases texts with
  | nil => simp [cost, Layout.enclose]
  | cons first texts =>
    have hsum : cost texts ≤
        (texts.flatMap fun text => ',' :: (layout.gap (depth + 1) ++ text)).length := by
      induction texts with
      | nil => simp [cost]
      | cons text texts ih =>
        rw [cost_cons, List.flatMap_cons, List.length_append, List.length_cons, List.length_append]
        omega
    rw [cost_cons, Layout.enclose]
    simp only [List.length_cons, List.length_append, List.length_nil]
    omega

theorem length_lt_cost {text : List Char} {texts : List (List Char)} (h : text ∈ texts) :
    text.length < cost texts := by
  induction texts with
  | nil => cases h
  | cons other texts ih =>
    rw [cost_cons]
    obtain rfl | h := List.mem_cons.mp h
    · omega
    · have hlt := ih h
      omega

theorem mul_le_cost {n : Nat} {texts : List (List Char)} (h : ∀ text ∈ texts, n ≤ text.length) :
    texts.length * n ≤ cost texts := by
  induction texts with
  | nil => simp [cost]
  | cons text texts ih =>
    have htext := h text List.mem_cons_self
    have hrest := ih fun other hother => h other (List.mem_cons_of_mem _ hother)
    rw [cost_cons, List.length_cons, Nat.succ_mul]
    omega

theorem parseItems_reads {gap last : List Char} (hgap : Blank gap) (hlast : Blank last)
    (items : List (List Char × Value)) (first : List Char × Value)
    (h : ∀ item ∈ first :: items, Reads item.1 item.2) (fuel : Nat)
    (hfuel : cost ((first :: items).map Prod.fst) ≤ fuel) (rest : List Char) :
    parseItems fuel (first.1 ++ itemsTail gap last ']' (items.map Prod.fst) rest) =
      some ((first :: items).map Prod.snd, rest) := by
  induction items generalizing first fuel with
  | nil =>
    rw [List.map_cons, cost_cons] at hfuel
    cases fuel with
    | zero => omega
    | succ fuel =>
      have hfirst := (h first List.mem_cons_self).parses fuel _ (by omega)
        (@endsNumber_itemsTail gap last hlast ']' (.inl rfl) [] rest)
      rw [parseItems, List.map_nil, hfirst]
      simp [itemsTail, skipSpace_append hlast,
        Json.skipSpace_cons (show isSpace ']' = false by decide)]
  | cons next items ih =>
    rw [List.map_cons, cost_cons] at hfuel
    cases fuel with
    | zero => omega
    | succ fuel =>
      have hfirst := (h first List.mem_cons_self).parses fuel _ (by omega)
        (@endsNumber_itemsTail gap last hlast ']' (.inl rfl) ((next :: items).map Prod.fst) rest)
      have hrest := ih next (fun item hitem => h item (List.mem_cons_of_mem _ hitem)) fuel
        (by omega)
      rw [parseItems, hfirst, List.map_cons, itemsTail_cons]
      simp only [Json.skipSpace_cons (show isSpace ',' = false by decide)]
      rw [parseItems_append hgap, hrest]
      rfl

theorem memberText_eq (layout : Layout) (member : Text × List Char) (rest : List Char) :
    memberText layout member ++ rest =
      '"' :: (member.1.flatMap escapeAscii ++
        '"' :: ':' :: (List.replicate layout.afterColon ' ' ++ (member.2 ++ rest))) := by
  simp [memberText, quote]

theorem length_lt_memberText (layout : Layout) (member : Text × List Char) :
    member.2.length < (memberText layout member).length := by
  simp only [memberText, quote, List.length_append, List.length_cons]
  omega

theorem parseMembers_reads {gap last : List Char} (hgap : Blank gap) (hlast : Blank last)
    (layout : Layout) (members : List (Text × List Char × Value)) (first : Text × List Char × Value)
    (h : ∀ member ∈ first :: members, Reads member.2.1 member.2.2) (fuel : Nat)
    (hfuel : cost ((first :: members).map fun m => memberText layout (m.1, m.2.1)) ≤ fuel)
    (rest : List Char) :
    parseMembers fuel (memberText layout (first.1, first.2.1) ++
        itemsTail gap last '}' (members.map fun m => memberText layout (m.1, m.2.1)) rest) =
      some ((first :: members).map fun m => (Text.joined m.1, m.2.2), rest) := by
  induction members generalizing first fuel with
  | nil =>
    have hlength : first.2.1.length < (memberText layout (first.1, first.2.1)).length :=
      length_lt_memberText layout (first.1, first.2.1)
    rw [List.map_cons, cost_cons] at hfuel
    cases fuel with
    | zero => omega
    | succ fuel =>
      have hfirst := (h first List.mem_cons_self).parses fuel _ (by omega)
        (@endsNumber_itemsTail gap last hlast '}' (.inr rfl) [] rest)
      rw [memberText_eq, parseMembers, List.map_nil,
        Json.skipSpace_cons (show isSpace '"' = false by decide)]
      simp only [parseText_quoted, Json.skipSpace_cons (show isSpace ':' = false by decide),
        parseValue_append (blank_replicate _), hfirst]
      simp [itemsTail, skipSpace_append hlast,
        Json.skipSpace_cons (show isSpace '}' = false by decide)]
  | cons next members ih =>
    have hlength : first.2.1.length < (memberText layout (first.1, first.2.1)).length :=
      length_lt_memberText layout (first.1, first.2.1)
    rw [List.map_cons, cost_cons] at hfuel
    cases fuel with
    | zero => omega
    | succ fuel =>
      have hfirst := (h first List.mem_cons_self).parses fuel _ (by omega)
        (@endsNumber_itemsTail gap last hlast '}' (.inr rfl)
          ((next :: members).map fun m => memberText layout (m.1, m.2.1)) rest)
      have hrest := ih next (fun member hmember => h member (List.mem_cons_of_mem _ hmember)) fuel
        (by omega)
      rw [memberText_eq, parseMembers, Json.skipSpace_cons (show isSpace '"' = false by decide)]
      simp only [parseText_quoted, Json.skipSpace_cons (show isSpace ':' = false by decide),
        parseValue_append (blank_replicate _), hfirst]
      rw [List.map_cons, itemsTail_cons]
      simp only [Json.skipSpace_cons (show isSpace ',' = false by decide)]
      rw [parseMembers_append hgap, hrest]
      rfl

theorem reads_list (layout : Layout) (depth : Nat) {items : List (List Char × Value)}
    (h : ∀ item ∈ items, Reads item.1 item.2) :
    Reads (layout.enclose depth '[' ']' (items.map Prod.fst)) (.list (items.map Prod.snd)) := by
  constructor
  · cases items <;> exact ⟨_, _, rfl, rfl, by decide⟩
  · intro fuel rest hfuel hrest
    have hcost := layout.cost_lt_length depth '[' ']' (items.map Prod.fst)
    cases fuel with
    | zero => omega
    | succ fuel =>
      cases items with
      | nil =>
        simp [Layout.enclose, parseValue, Json.skipSpace_cons (show isSpace '[' = false by decide),
          Json.skipSpace_cons (show isSpace ']' = false by decide)]
      | cons first items =>
        obtain ⟨c, tail, hstart, -, hclose⟩ := (h first List.mem_cons_self).starts
        have hskip := (h first List.mem_cons_self).skip
        have hitems := parseItems_reads (layout.blank_gap (depth + 1)) (layout.blank_newline depth)
          items first h fuel (by omega) rest
        rw [List.map_cons, layout.enclose_cons, parseValue,
          Json.skipSpace_cons (show isSpace '[' = false by decide)]
        simp only [skipSpace_append (layout.blank_newline _), hskip]
        split
        · next heq =>
          rw [hstart, List.cons_append] at heq
          exact absurd (List.cons.inj heq).1 hclose
        · rw [hitems]
          rfl

theorem reads_dict (layout : Layout) (depth : Nat) {members : List (Text × List Char × Value)}
    (h : ∀ member ∈ members, Reads member.2.1 member.2.2) :
    Reads (layout.enclose depth '{' '}' (members.map fun m => memberText layout (m.1, m.2.1)))
      (.dict (update [] (members.map fun m => (Text.joined m.1, m.2.2)))) := by
  constructor
  · cases members <;> exact ⟨_, _, rfl, rfl, by decide⟩
  · intro fuel rest hfuel hrest
    have hcost := layout.cost_lt_length depth '{' '}'
      (members.map fun m => memberText layout (m.1, m.2.1))
    cases fuel with
    | zero => omega
    | succ fuel =>
      cases members with
      | nil =>
        simp [Layout.enclose, parseValue, update,
          Json.skipSpace_cons (show isSpace '{' = false by decide),
          Json.skipSpace_cons (show isSpace '}' = false by decide)]
      | cons first members =>
        have hmembers := parseMembers_reads (layout.blank_gap (depth + 1))
          (layout.blank_newline depth) layout members first h fuel (by omega) rest
        rw [List.map_cons, layout.enclose_cons, parseValue,
          Json.skipSpace_cons (show isSpace '{' = false by decide)]
        rw [memberText_eq] at hmembers ⊢
        simp only [skipSpace_append (layout.blank_newline _),
          Json.skipSpace_cons (show isSpace '"' = false by decide)]
        exact congrArg (Option.map fun p => (Value.dict (update [] p.1), p.2)) hmembers

/-! ### Numbers -/

theorem parseConstant_renderSigned (negative : Bool) (n : Nat) (rest : List Char) :
    parseConstant (Json.renderSigned negative n ++ rest) = none := by
  obtain ⟨d, digits, hdigits, hd⟩ := Json.toDigits_eq_cons n
  have hne {c : Char} (hc : c.isDigit = false) : d ≠ c := by
    rintro rfl
    exact absurd hd (by simp [hc])
  cases negative with
  | true =>
    simp only [Json.renderSigned, if_pos, hdigits, List.cons_append, List.nil_append]
    rw [parseConstant]
    · simp
    all_goals simp [hne (show ('I').isDigit = false by decide)]
  | false =>
    simp only [Json.renderSigned, hdigits, List.cons_append, Bool.false_eq_true, if_false,
      List.nil_append]
    unfold parseConstant
    split
    all_goals first
      | rfl
      | next heq => exact absurd (List.cons.inj heq).1 (hne (by decide))

/-- What stands behind the digits decides whether a literal is a float. -/
theorem dropWhile_renderSigned (negative : Bool) (digits : Nat) {tail : List Char}
    (htail : ∀ c ∈ tail.head?, c.isDigit = false) :
    (Json.parseMinus (Json.renderSigned negative digits ++ tail)).2.dropWhile Char.isDigit =
      tail := by
  rw [Json.parseMinus_renderSigned]
  exact (Json.takeWhile_digits (Json.toDigits_isDigit digits) htail).2

theorem parseNumeral_renderInt (i : Int) {rest : List Char} (hrest : EndsNumber rest) :
    parseNumeral (renderInt i ++ rest) = some (.int i, rest) := by
  have hplain : continuesFloat rest = false := by
    cases rest with
    | nil => rfl
    | cons c rest =>
      obtain ⟨-, hpoint, he, hE⟩ := hrest c rfl
      unfold continuesFloat
      split
      · next heq => exact absurd (List.cons.inj heq).1 hpoint
      · next heq => exact absurd (List.cons.inj heq).1 he
      · next heq => exact absurd (List.cons.inj heq).1 hE
      · rfl
  have hnumber : Json.parseNumber (renderInt i ++ rest) =
      some (⟨decide (i < 0), i.natAbs, 0⟩, rest) :=
    Json.parseNumber_renderSigned _ _ (Json.parseExponent_of_endsNumber hrest)
      fun c hc => ⟨(hrest c hc).1, (hrest c hc).2.1⟩
  rw [parseNumeral, hnumber, renderInt, dropWhile_renderSigned _ _ fun c hc => (hrest c hc).1,
    hplain, Option.map_some, if_neg Bool.false_ne_true, Json.int_of_sign]

theorem parseNumeral_renderFloat (n : Number) {rest : List Char} (hrest : EndsNumber rest) :
    parseNumeral (renderFloat n ++ rest) = some (.float n, rest) := by
  have hexponent : Json.parseExponent ('e' :: renderInt n.exponent ++ rest) =
      some (n.exponent, rest) := by
    rw [renderInt, Json.parseExponent_renderSigned _ _ hrest, Json.int_of_sign]
  rw [parseNumeral, renderFloat, List.append_assoc,
    Json.parseNumber_renderSigned n.negative n.digits hexponent (by simp),
    dropWhile_renderSigned _ _ (by simp), Option.map_some]
  rfl

/-! ### Whole values -/

/-- A text that opens no string and no bracket is a constant or a number. -/
theorem reads_plain {text : List Char} {value : Value}
    (hstart : ∃ c rest, text = c :: rest ∧ isSpace c = false ∧ c ≠ ']' ∧ c ≠ '"' ∧ c ≠ '[' ∧
      c ≠ '{')
    (hparse : ∀ rest, EndsNumber rest →
      (parseConstant (text ++ rest)).or (parseNumeral (text ++ rest)) = some (value, rest)) :
    Reads text value := by
  obtain ⟨c, tail, rfl, hc, hclose, hquote, harray, hobject⟩ := hstart
  refine ⟨⟨c, tail, rfl, hc, hclose⟩, fun fuel rest hfuel hrest => ?_⟩
  cases fuel with
  | zero => cases hfuel
  | succ fuel =>
    have hvalue := hparse rest hrest
    rw [List.cons_append] at hvalue ⊢
    rw [parseValue, Json.skipSpace_cons hc]
    split
    · next heq => exact absurd (List.cons.inj heq).1 hquote
    · next heq => exact absurd (List.cons.inj heq).1 harray
    · next heq => exact absurd (List.cons.inj heq).1 hobject
    · exact hvalue

theorem renderSigned_starts (negative : Bool) (n : Nat) (tail : List Char) :
    ∃ c rest, Json.renderSigned negative n ++ tail = c :: rest ∧ isSpace c = false ∧ c ≠ ']' ∧
      c ≠ '"' ∧ c ≠ '[' ∧ c ≠ '{' := by
  obtain ⟨d, digits, hdigits, hd⟩ := Json.toDigits_eq_cons n
  have hne {c : Char} (hc : c.isDigit = false) : d ≠ c := by
    rintro rfl
    exact absurd hd (by simp [hc])
  cases negative with
  | true => exact ⟨'-', _, rfl, rfl, by decide, by decide, by decide, by decide⟩
  | false =>
    refine ⟨d, digits ++ tail, by simp [Json.renderSigned, hdigits], ?_, hne rfl, hne rfl, hne rfl,
      hne rfl⟩
    simp only [isSpace, Bool.or_eq_false_iff, beq_eq_false_iff_ne]
    exact ⟨⟨⟨hne rfl, hne rfl⟩, hne rfl⟩, hne rfl⟩

theorem reads_int (i : Int) : Reads (renderInt i) (.int i) := by
  apply reads_plain
  · simpa [renderInt] using renderSigned_starts (decide (i < 0)) i.natAbs []
  · intro rest hrest
    have hnone : parseConstant (renderInt i ++ rest) = none := parseConstant_renderSigned _ _ rest
    rw [hnone, parseNumeral_renderInt i hrest, Option.none_or]

theorem reads_float (n : Number) : Reads (renderFloat n) (.float n) := by
  apply reads_plain
  · exact renderSigned_starts n.negative n.digits _
  · intro rest hrest
    have hnone : parseConstant (renderFloat n ++ rest) = none := by
      rw [renderFloat, List.append_assoc]
      exact parseConstant_renderSigned _ _ _
    rw [hnone, parseNumeral_renderFloat n hrest, Option.none_or]

theorem reads_quote (s : Text) : Reads (quote s) (.string (Text.joined s)) := by
  refine ⟨⟨_, _, rfl, rfl, by decide⟩, fun fuel rest hfuel _ => ?_⟩
  cases fuel with
  | zero => cases hfuel
  | succ fuel =>
    have hquote : quote s ++ rest = '"' :: (s.flatMap escapeAscii ++ '"' :: rest) := by
      simp [quote]
    rw [hquote, parseValue, Json.skipSpace_cons (show isSpace '"' = false by decide)]
    simp only [parseText_quoted, Option.map_some]

theorem reads_constant {text : List Char} {value : Value} (c : Char) (tail : List Char)
    (htext : text = c :: tail)
    (hc : isSpace c = false ∧ c ≠ ']' ∧ c ≠ '"' ∧ c ≠ '[' ∧ c ≠ '{')
    (hparse : ∀ rest, parseConstant (text ++ rest) = some (value, rest)) : Reads text value := by
  refine reads_plain ⟨c, tail, htext, hc⟩ fun rest _ => ?_
  rw [hparse, Option.some_or]

mutual

theorem reads_dumps (layout : Layout) :
    ∀ (value : Value) (depth : Nat), Reads (dumps layout depth value) (readBack value)
  | .null, _ => reads_constant _ _ rfl (by decide) fun _ => rfl
  | .bool true, _ => reads_constant _ _ rfl (by decide) fun _ => rfl
  | .bool false, _ => reads_constant _ _ rfl (by decide) fun _ => rfl
  | .int i, _ => by
      rw [dumps, readBack]
      · exact reads_int i
      all_goals simp
  | .float n, _ => by
      rw [dumps, readBack]
      · exact reads_float n
      all_goals simp
  | .nonFinite .nan, _ => reads_constant _ _ rfl (by decide) fun _ => rfl
  | .nonFinite .infinity, _ => reads_constant _ _ rfl (by decide) fun _ => rfl
  | .nonFinite .negativeInfinity, _ => reads_constant _ _ rfl (by decide) fun _ => rfl
  | .string s, _ => by
      rw [dumps, readBack]
      exact reads_quote s
  | .list items, depth => by
      have hitems := reads_dumpsItems layout items (depth + 1)
      have hread := @reads_list layout depth
        (items.map fun item => (dumps layout (depth + 1) item, readBack item))
        (by simpa using hitems)
      rw [dumps, readBack, dumpsItems_eq_map, readBackItems_eq_map]
      simpa only [List.map_map, Function.comp_def] using hread
  | .dict members, depth => by
      have hmembers := reads_dumpsMembers layout members (depth + 1)
      -- the texts and the values that come back are sorted by the same keys
      let pairs := members.map fun m => (m.1, dumps layout (depth + 1) m.2, readBack m.2)
      have hread := @reads_dict layout depth (sortKeys pairs) (by
        intro member hmember
        obtain ⟨m, hm, rfl⟩ := List.mem_map.mp ((perm_sortKeys pairs).subset hmember)
        exact hmembers m hm)
      have htexts : sortKeys (dumpsMembers layout (depth + 1) members) =
          (sortKeys pairs).map fun m => (m.1, m.2.1) := by
        rw [dumpsMembers_eq_map, ← sortKeys_map, List.map_map]
        rfl
      have hvalues : sortKeys (readBackMembers members) =
          (sortKeys pairs).map fun m => (m.1, m.2.2) := by
        rw [readBackMembers_eq_map, ← sortKeys_map, List.map_map]
        rfl
      rw [dumps, readBack, htexts, hvalues, List.map_map, List.map_map]
      exact hread

theorem reads_dumpsItems (layout : Layout) : ∀ (items : List Value) (depth : Nat),
    ∀ item ∈ items, Reads (dumps layout depth item) (readBack item)
  | [], _ => fun _ h => absurd h List.not_mem_nil
  | item :: items, depth =>
      List.forall_mem_cons.mpr ⟨reads_dumps layout item depth, reads_dumpsItems layout items depth⟩

theorem reads_dumpsMembers (layout : Layout) : ∀ (members : List (Text × Value)) (depth : Nat),
    ∀ member ∈ members, Reads (dumps layout depth member.2) (readBack member.2)
  | [], _ => fun _ h => absurd h List.not_mem_nil
  | (_, value) :: members, depth =>
      List.forall_mem_cons.mpr
        ⟨reads_dumps layout value depth, reads_dumpsMembers layout members depth⟩

end

/-- Blanks behind the text, such as a final line feed, change nothing. -/
theorem loads_dumps (layout : Layout) (depth : Nat) (value : Value) {blanks : List Char}
    (hblanks : Blank blanks) :
    loads (dumps layout depth value ++ blanks) = some (readBack value) := by
  have hends : EndsNumber blanks := by
    simpa using endsNumber_append hblanks (show EndsNumber [] by simp [EndsNumber])
  have hvalue := (reads_dumps layout value depth).parses
    ((dumps layout depth value ++ blanks).length + 1) blanks (by simp; omega) hends
  have hskip : skipSpace blanks = [] := by simpa [skipSpace] using skipSpace_append hblanks []
  rw [loads, hvalue]
  exact if_pos hskip

/-- Strings under names in their order are read back as they are written. -/
theorem loads_dumps_fields {fields : List (Text × Text)}
    (hsorted : (fields.map Prod.fst).Pairwise (· < ·))
    (hpairs : ∀ field ∈ fields, Text.hasPair field.1 = false ∧ Text.hasPair field.2 = false) :
    loads (dumps .compact 0 (.dict (fields.map fun field => (field.1, .string field.2)))) =
      some (.dict (fields.map fun field => (field.1, .string field.2))) := by
  let members : List (Text × Value) := fields.map fun field => (field.1, .string field.2)
  have hfst : members.map Prod.fst = fields.map Prod.fst := by simp [members, Function.comp_def]
  have hvalues : members.map (fun m => (m.1, readBack m.2)) = members := by
    rw [List.map_map]
    refine List.map_congr_left fun field hfield => ?_
    simp only [Function.comp_apply, readBack_string (hpairs field hfield).2]
  have hsort : sortKeys members = members := by
    apply List.Pairwise.insertionSort_eq
    rw [← List.pairwise_map (f := Prod.fst) (R := (· ≤ ·)), hfst]
    exact hsorted.imp le_of_lt
  have hkeys : members.map (fun m => (Text.joined m.1, m.2)) = members := by
    rw [List.map_map]
    refine List.map_congr_left fun field hfield => ?_
    simp only [Function.comp_apply, Text.joined_of_not_hasPair (hpairs field hfield).1]
  have hnodup : (members.map Prod.fst).Nodup := by
    rw [hfst]
    exact hsorted.imp ne_of_lt
  have hread := loads_dumps .compact 0 (.dict members) (blank_replicate 0)
  rw [List.replicate_zero, List.append_nil] at hread
  rw [hread, readBack, readBackMembers_eq_map, hvalues, hsort, hkeys,
    update_of_nodup [] members hnodup, List.nil_append]

/-! ### Lengths -/

theorem length_lt_quote (s : Text) : s.length < (quote s).length := by
  have hescape (c : CodePoint) : escapeAscii c ≠ [] := by
    unfold escapeAscii
    split_ifs
    any_goals exact List.cons_ne_nil _ _
    obtain ⟨u, rest, hunits, -⟩ := Text.head_utf16 c
    simp [hunits, Json.escapeUnicode]
  have hle : s.length ≤ (s.flatMap escapeAscii).length := by
    induction s with
    | nil => exact le_rfl
    | cons c s ih =>
      have hpos := List.length_pos_of_ne_nil (hescape c)
      rw [List.flatMap_cons, List.length_append, List.length_cons]
      omega
  simp only [quote, List.length_cons, List.length_append, List.length_nil]
  omega

/-- The text of a list has room for all of its items. -/
theorem mul_lt_length_dumps_list (layout : Layout) (depth n : Nat) {items : List Value}
    (h : ∀ item ∈ items, n ≤ (dumps layout (depth + 1) item).length) :
    items.length * n < (dumps layout depth (.list items)).length := by
  rw [dumps, dumpsItems_eq_map]
  refine Nat.lt_of_le_of_lt ?_ (layout.cost_lt_length depth '[' ']' _)
  have hcost := @mul_le_cost n (items.map (dumps layout (depth + 1))) (by simpa using h)
  rwa [List.length_map] at hcost

/-- The text of a dictionary has room for each of its values. -/
theorem length_lt_dumps_dict (layout : Layout) (depth : Nat) {members : List (Text × Value)}
    {key : Text} {value : Value} (h : (key, value) ∈ members) :
    (dumps layout (depth + 1) value).length < (dumps layout depth (.dict members)).length := by
  have hmem : (key, dumps layout (depth + 1) value) ∈
      sortKeys (dumpsMembers layout (depth + 1) members) := by
    rw [(perm_sortKeys _).mem_iff, dumpsMembers_eq_map]
    exact List.mem_map.mpr ⟨_, h, rfl⟩
  have hcost := length_lt_cost (List.mem_map_of_mem (f := memberText layout) hmem)
  have hmember := length_lt_memberText layout (key, dumps layout (depth + 1) value)
  rw [dumps]
  exact (hmember.trans hcost).trans (layout.cost_lt_length depth '{' '}' _)

/-! ### Printable texts -/

/-- No control character occurs in a text. -/
def Printable (text : List Char) : Prop := ∀ c ∈ text, 0x20 ≤ c.toNat

namespace Printable

variable {a b : List Char}

theorem nil : Printable [] := fun _ hc => absurd hc List.not_mem_nil

theorem cons {c : Char} (hc : 0x20 ≤ c.toNat) (ha : Printable a) : Printable (c :: a) :=
  List.forall_mem_cons.mpr ⟨hc, ha⟩

theorem append (ha : Printable a) (hb : Printable b) : Printable (a ++ b) := fun c hc =>
  (List.mem_append.mp hc).elim (ha c) (hb c)

theorem flatMap {α : Type} {f : α → List Char} {items : List α}
    (h : ∀ item ∈ items, Printable (f item)) : Printable (items.flatMap f) := by
  intro c hc
  obtain ⟨item, hitem, hc⟩ := List.mem_flatMap.mp hc
  exact h item hitem c hc

theorem of_all (h : a.all (fun c => decide (0x20 ≤ c.toNat)) = true) : Printable a := by
  intro c hc
  exact of_decide_eq_true (List.all_eq_true.mp h c hc)

theorem replicate (n : Nat) : Printable (List.replicate n ' ') := by
  intro c hc
  obtain rfl := List.eq_of_mem_replicate hc
  exact le_rfl

end Printable

theorem printable_escapeUnicode (u : Nat) : Printable (Json.escapeUnicode u) := by
  have hdigit : ∀ d < 16, 0x20 ≤ d.digitChar.toNat := by decide
  have hmod (n : Nat) : 0x20 ≤ (n % 16).digitChar.toNat := hdigit _ (Nat.mod_lt n (by decide))
  exact .cons (by decide) (.cons (by decide) (.cons (hmod _) (.cons (hmod _) (.cons (hmod _)
    (.cons (hmod _) .nil)))))

theorem printable_escapeAscii (c : CodePoint) : Printable (escapeAscii c) := by
  unfold escapeAscii
  split_ifs
  any_goals exact .of_all rfl
  · rename_i hplain
    refine .cons ?_ .nil
    rw [Char.toNat_ofNat, if_pos (.inl (by omega))]
    exact hplain.1
  · exact .flatMap fun u _ => printable_escapeUnicode u

theorem printable_quote (s : Text) : Printable (quote s) :=
  .cons (by decide) (.append (.flatMap fun c _ => printable_escapeAscii c)
    (.cons (by decide) .nil))

theorem printable_renderSigned (negative : Bool) (n : Nat) :
    Printable (Json.renderSigned negative n) := by
  refine .append ?_ fun c hc => ?_
  · split_ifs
    · exact .cons (by decide) .nil
    · exact .nil
  · have hdigit := Json.toDigits_isDigit n c hc
    simp only [Char.isDigit, Bool.and_eq_true, decide_eq_true_eq] at hdigit
    have hle : 48 ≤ c.toNat := hdigit.1
    omega

theorem NonFinite.printable_text (x : NonFinite) : Printable x.text := by
  cases x <;> exact .of_all rfl

/-- On one line the brackets add no control character. -/
theorem Layout.printable_enclose {layout : Layout} (hindent : layout.indent = none) (depth : Nat)
    {opening closing : Char} (hopening : 0x20 ≤ opening.toNat) (hclosing : 0x20 ≤ closing.toNat)
    {texts : List (List Char)}
    (h : ∀ text ∈ texts, Printable text) :
    Printable (layout.enclose depth opening closing texts) := by
  have hnewline (depth : Nat) : layout.newline depth = [] := by rw [Layout.newline, hindent]
  cases texts with
  | nil => exact .cons hopening (.cons hclosing .nil)
  | cons first rest =>
    have hrest : Printable (rest.flatMap fun text => ',' :: (layout.gap (depth + 1) ++ text)) := by
      refine .flatMap fun text htext => .cons (by decide) (.append ?_ ?_)
      · rw [Layout.gap, hnewline, List.append_nil]
        exact .replicate layout.afterComma
      · exact h text (List.mem_cons_of_mem first htext)
    rw [Layout.enclose, hnewline, hnewline, List.nil_append, List.append_nil]
    exact .cons hopening (.append (.append (h first List.mem_cons_self) hrest)
      (.cons hclosing .nil))

mutual

theorem printable_dumps {layout : Layout} (hindent : layout.indent = none) :
    ∀ (value : Value) (depth : Nat), Printable (dumps layout depth value)
  | .null, _ => .of_all rfl
  | .bool true, _ => .of_all rfl
  | .bool false, _ => .of_all rfl
  | .int i, _ => printable_renderSigned _ _
  | .float n, _ => .append (printable_renderSigned _ _)
      (.cons (by decide) (printable_renderSigned _ _))
  | .nonFinite x, _ => x.printable_text
  | .string s, _ => printable_quote s
  | .list items, depth => by
    rw [dumps, dumpsItems_eq_map]
    refine Layout.printable_enclose hindent depth (by decide) (by decide) fun text htext => ?_
    obtain ⟨item, hitem, rfl⟩ := List.mem_map.mp htext
    exact printable_dumpsItems hindent items (depth + 1) item hitem
  | .dict members, depth => by
    rw [dumps, dumpsMembers_eq_map]
    refine Layout.printable_enclose hindent depth (by decide) (by decide) fun text htext => ?_
    obtain ⟨entry, hentry, rfl⟩ := List.mem_map.mp htext
    obtain ⟨member, hmember, rfl⟩ := List.mem_map.mp ((perm_sortKeys _).subset hentry)
    exact .append (printable_quote _) (.cons (by decide) (.append (.replicate _)
      (printable_dumpsMembers hindent members (depth + 1) member hmember)))

theorem printable_dumpsItems {layout : Layout} (hindent : layout.indent = none) :
    ∀ (items : List Value) (depth : Nat), ∀ item ∈ items, Printable (dumps layout depth item)
  | [], _ => fun _ h => absurd h List.not_mem_nil
  | item :: items, depth => List.forall_mem_cons.mpr
      ⟨printable_dumps hindent item depth, printable_dumpsItems hindent items depth⟩

theorem printable_dumpsMembers {layout : Layout} (hindent : layout.indent = none) :
    ∀ (members : List (Text × Value)) (depth : Nat),
      ∀ member ∈ members, Printable (dumps layout depth member.2)
  | [], _ => fun _ h => absurd h List.not_mem_nil
  | (_, value) :: members, depth => List.forall_mem_cons.mpr
      ⟨printable_dumps hindent value depth, printable_dumpsMembers hindent members depth⟩

end

end VpsGuardian.Lib.PythonJson
