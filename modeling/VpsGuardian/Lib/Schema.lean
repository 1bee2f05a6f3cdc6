import VpsGuardian.Lib.Regex

/-!
Documents and the schemas they are checked against.

A schema constrains one type of value and what it contains; it is checked by
recursion on the schema, so a document is never followed deeper than the schema
reaches.
-/

namespace VpsGuardian.Lib

/-- A value as a YAML loader returns it, with the keys of mappings that are strings. A float is
kept as its text and the integer it equals, if it equals one. -/
inductive Yaml where
  | null
  | bool (b : Bool)
  | int (i : Int)
  | float (text : String) (integer : Option Int)
  | string (s : String)
  | sequence (items : List Yaml)
  | mapping (entries : List (String × Yaml))
  /-- A date, a set, or what else JSON does not have. -/
  | other (text : String)

namespace Yaml

def entry? (key : String) : Yaml → Option Yaml
  | .mapping entries => entries.lookup key
  | _ => none

def items : Yaml → List Yaml
  | .sequence items => items
  | _ => []

/-- The integer a number equals. A truth value is no number. -/
def integer? : Yaml → Option Int
  | .int i => some i
  | .float _ integer => integer
  | _ => none

end Yaml

inductive Schema where
  /-- `false`: nothing is accepted. -/
  | never
  | boolean
  | integer (minimum maximum : Option Int) (enum : Option (List Int))
  | string (enum : Option (List String)) (pattern : Option Regex) (maxLength : Option Nat)
  /-- A string, a truth value or a number. -/
  | scalar
  | array (minItems : Nat) (items : Schema)
  | object (required : List String) (properties : List (String × Schema))
      (additional : Schema) (maxProperties : Option Nat)

namespace Schema

mutual

def accepts : Schema → Yaml → Bool
  | .never, _ => false
  | .boolean, value => match value with
      | .bool _ => true
      | _ => false
  | .integer minimum maximum enum, value => match value.integer? with
      | some i => minimum.all (· ≤ i) && maximum.all (i ≤ ·) && enum.all (·.contains i)
      | none => false
  | .string enum pattern maxLength, value => match value with
      | .string s => enum.all (·.contains s) && pattern.all (·.search s) &&
          maxLength.all (s.length ≤ ·)
      | _ => false
  | .scalar, value => match value with
      | .string _ | .bool _ | .int _ | .float _ _ => true
      | _ => false
  | .array minItems items, value => match value with
      | .sequence values => minItems ≤ values.length && values.all (accepts items)
      | _ => false
  | .object required properties additional maxProperties, value => match value with
      | .mapping entries => required.all (fun key => entries.any (·.1 == key)) &&
          maxProperties.all (entries.length ≤ ·) &&
          entries.all fun entry =>
            (acceptsNamed properties entry.1 entry.2).getD (accepts additional entry.2)
      | _ => false

/-- What the schema of a named property says, if the key is one. -/
def acceptsNamed : List (String × Schema) → String → Yaml → Option Bool
  | [], _, _ => none
  | (name, schema) :: properties, key, value =>
      if name == key then some (accepts schema value) else acceptsNamed properties key value

end

theorem acceptsNamed_eq (properties : List (String × Schema)) (key : String) (value : Yaml) :
    acceptsNamed properties key value =
      (properties.lookup key).map fun schema => accepts schema value := by
  induction properties with
  | nil => simp [acceptsNamed]
  | cons entry properties ih =>
    obtain ⟨name, schema⟩ := entry
    by_cases h : name = key
    · simp [acceptsNamed, h]
    · have hne : (key == name) = false := by simpa using Ne.symm h
      simp [acceptsNamed, List.lookup_cons, h, hne, ih]

theorem accepts_string {enum : Option (List String)} {pattern : Option Regex}
    {maxLength : Option Nat} {value : Yaml}
    (h : accepts (.string enum pattern maxLength) value = true) :
    ∃ s, value = .string s ∧ ∀ r ∈ pattern, r.search s = true := by
  unfold accepts at h
  split at h
  next s =>
    simp only [Bool.and_eq_true] at h
    exact ⟨s, rfl, fun r hr => by simpa [Option.mem_def.mp hr] using h.1.2⟩
  · cases h

theorem accepts_array {minItems : Nat} {items : Schema} {value : Yaml}
    (h : accepts (.array minItems items) value = true) :
    ∃ values, value = .sequence values ∧ ∀ item ∈ values, accepts items item = true := by
  unfold accepts at h
  split at h
  next values =>
    rw [Bool.and_eq_true, List.all_eq_true] at h
    exact ⟨values, rfl, h.2⟩
  · cases h

/-- An accepted mapping has the required keys, and each entry fits the schema of its key. -/
theorem accepts_object {required : List String} {properties : List (String × Schema)}
    {additional : Schema} {maxProperties : Option Nat} {value : Yaml}
    (h : accepts (.object required properties additional maxProperties) value = true) :
    ∃ entries, value = .mapping entries ∧ (∀ key ∈ required, ∃ item, (key, item) ∈ entries) ∧
      ∀ key item, (key, item) ∈ entries →
        accepts ((properties.lookup key).getD additional) item = true := by
  unfold accepts at h
  split at h
  next entries =>
    simp only [Bool.and_eq_true, List.all_eq_true, List.any_eq_true] at h
    obtain ⟨⟨hrequired, -⟩, hentries⟩ := h
    refine ⟨entries, rfl, ?_, ?_⟩
    · intro key hkey
      obtain ⟨⟨name, item⟩, hmem, heq⟩ := hrequired key hkey
      obtain rfl : name = key := by simpa using heq
      exact ⟨item, hmem⟩
    · intro key item hmem
      have hitem := hentries (key, item) hmem
      rw [acceptsNamed_eq] at hitem
      cases hlookup : properties.lookup key with
      | none => simpa [hlookup] using hitem
      | some schema => simpa [hlookup] using hitem
  · cases h

/-- The entry under a required key fits the schema of that key. -/
theorem entry?_of_accepts {required : List String} {properties : List (String × Schema)}
    {additional : Schema} {maxProperties : Option Nat} {value : Yaml} {key : String}
    {schema : Schema}
    (h : accepts (.object required properties additional maxProperties) value = true)
    (hkey : key ∈ required) (hschema : properties.lookup key = some schema) :
    ∃ item, value.entry? key = some item ∧ accepts schema item = true := by
  obtain ⟨entries, rfl, hrequired, hentries⟩ := accepts_object h
  obtain ⟨item, hmem⟩ := hrequired key hkey
  cases hlookup : entries.lookup key with
  | none =>
    have hout : ∀ entry ∈ entries, (key == entry.1) = false := by
      simpa [List.lookup_eq_none_iff] using hlookup
    simpa using hout _ hmem
  | some found =>
    obtain ⟨before, after, rfl, -⟩ := List.lookup_eq_some_iff.mp hlookup
    have haccepts := hentries key found (by simp)
    rw [hschema] at haccepts
    exact ⟨found, hlookup, haccepts⟩

end Schema

end VpsGuardian.Lib
