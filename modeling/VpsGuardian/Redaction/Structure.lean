import VpsGuardian.Redaction.Text

/-!
What `redact_structure` hides, and what it leaves in place.

Two structures that differ only below sensitive keys are redacted to the same
structure. The result has the outline of the structure it is made from, and a
second redaction finds every redacted position as the first one has left it.
-/

namespace VpsGuardian.Redaction

open Lib

variable (platform : Platform)

mutual

/-- Two values are the same but for what stands under sensitive keys. -/
inductive Agree : Json.Value → Json.Value → Prop
  | null : Agree .null .null
  | bool (b : Bool) : Agree (.bool b) (.bool b)
  | number (n : Json.Number) : Agree (.number n) (.number n)
  | string (s : String) : Agree (.string s) (.string s)
  | array {items others : List Json.Value} (h : AgreeItems items others) :
      Agree (.array items) (.array others)
  | object {members others : List (String × Json.Value)} (h : AgreeMembers members others) :
      Agree (.object members) (.object others)

inductive AgreeItems : List Json.Value → List Json.Value → Prop
  | nil : AgreeItems [] []
  | cons {item other : Json.Value} {items others : List Json.Value} (h : Agree item other)
      (hrest : AgreeItems items others) : AgreeItems (item :: items) (other :: others)

inductive AgreeMembers : List (String × Json.Value) → List (String × Json.Value) → Prop
  | nil : AgreeMembers [] []
  | secret {key : String} (item other : Json.Value) {members others : List (String × Json.Value)}
      (h : sensitive platform key = true) (hrest : AgreeMembers members others) :
      AgreeMembers ((key, item) :: members) ((key, other) :: others)
  | member (key : String) {item other : Json.Value} {members others : List (String × Json.Value)}
      (h : Agree item other) (hrest : AgreeMembers members others) :
      AgreeMembers ((key, item) :: members) ((key, other) :: others)

end

mutual

/-- The second value has the lists and keys of the first, up to sensitive keys. -/
inductive SameOutline : Json.Value → Json.Value → Prop
  | null : SameOutline .null .null
  | bool (b : Bool) : SameOutline (.bool b) (.bool b)
  | number (n : Json.Number) : SameOutline (.number n) (.number n)
  | string (s t : String) : SameOutline (.string s) (.string t)
  | array {items others : List Json.Value} (h : SameOutlineItems items others) :
      SameOutline (.array items) (.array others)
  | object {members others : List (String × Json.Value)} (h : SameOutlineMembers members others) :
      SameOutline (.object members) (.object others)

inductive SameOutlineItems : List Json.Value → List Json.Value → Prop
  | nil : SameOutlineItems [] []
  | cons {item other : Json.Value} {items others : List Json.Value} (h : SameOutline item other)
      (hrest : SameOutlineItems items others) : SameOutlineItems (item :: items) (other :: others)

inductive SameOutlineMembers : List (String × Json.Value) → List (String × Json.Value) → Prop
  | nil : SameOutlineMembers [] []
  | cons (key : String) {item other : Json.Value} {members others : List (String × Json.Value)}
      (h : sensitive platform key = false → SameOutline item other)
      (hrest : SameOutlineMembers members others) :
      SameOutlineMembers ((key, item) :: members) ((key, other) :: others)

end

/-- One step into a value. -/
inductive Step where
  | key (name : String)
  | index (number : Nat)
  deriving DecidableEq, Repr

def child (value : Json.Value) : Step → Option Json.Value
  | .key name =>
      match value with
      | .object members => members.lookup name
      | _ => none
  | .index number =>
      match value with
      | .array items => items[number]?
      | _ => none

/-- The value at a position. -/
def at? (value : Json.Value) : List Step → Option Json.Value
  | [] => some value
  | step :: path => (child value step).bind fun inner => at? inner path

/-- A position under a sensitive key, with no sensitive key above it. -/
def RedactedAt (value : Json.Value) (path : List Step) : Prop :=
  ∃ above name, path = above ++ [.key name] ∧ sensitive platform name = true ∧
    (∀ other, .key other ∈ above → sensitive platform other = false) ∧ (at? value path).isSome

variable {platform}

/-! ### Two runs -/

mutual

theorem redactStructure_eq {value other : Json.Value} (h : Agree platform value other) :
    redactStructure platform value = redactStructure platform other := by
  cases h with
  | null => rfl
  | bool b => rfl
  | number n => rfl
  | string s => rfl
  | array h => exact congrArg Json.Value.array (redactItems_eq h)
  | object h => exact congrArg Json.Value.object (redactMembers_eq h)

theorem redactItems_eq {items others : List Json.Value} (h : AgreeItems platform items others) :
    redactItems platform items = redactItems platform others := by
  cases h with
  | nil => rfl
  | cons h hrest => exact congrArg₂ List.cons (redactStructure_eq h) (redactItems_eq hrest)

theorem redactMembers_eq {members others : List (String × Json.Value)}
    (h : AgreeMembers platform members others) :
    redactMembers platform members = redactMembers platform others := by
  cases h with
  | nil => rfl
  | secret item other h hrest =>
    simp only [redactMembers, h, if_true]
    rw [redactMembers_eq hrest]
  | member key h hrest =>
    simp only [redactMembers]
    rw [redactStructure_eq h, redactMembers_eq hrest]

end

/-! ### The outline -/

mutual

theorem sameOutline_redact : ∀ value : Json.Value,
    SameOutline platform value (redactStructure platform value)
  | .null => .null
  | .bool b => .bool b
  | .number n => .number n
  | .string s => .string s _
  | .array items => .array (sameOutline_redactItems items)
  | .object members => .object (sameOutline_redactMembers members)

theorem sameOutline_redactItems : ∀ items : List Json.Value,
    SameOutlineItems platform items (redactItems platform items)
  | [] => .nil
  | item :: items => .cons (sameOutline_redact item) (sameOutline_redactItems items)

theorem sameOutline_redactMembers : ∀ members : List (String × Json.Value),
    SameOutlineMembers platform members (redactMembers platform members)
  | [] => .nil
  | (key, item) :: members => by
      refine .cons key ?_ (sameOutline_redactMembers members)
      intro hkey
      rw [hkey]
      exact sameOutline_redact item

end

/-! ### Positions -/

theorem getElem?_redactItems (items : List Json.Value) (number : Nat) :
    (redactItems platform items)[number]? = items[number]?.map (redactStructure platform) := by
  induction items generalizing number with
  | nil => rfl
  | cons item items ih =>
    cases number with
    | zero => rfl
    | succ number => exact ih number

theorem lookup_redactMembers (members : List (String × Json.Value)) (name : String) :
    (redactMembers platform members).lookup name = (members.lookup name).map fun item =>
      if sensitive platform name then .string redacted else redactStructure platform item := by
  induction members with
  | nil => rfl
  | cons member members ih =>
    obtain ⟨key, item⟩ := member
    rw [redactMembers, List.lookup_cons, List.lookup_cons]
    by_cases hkey : name = key
    · subst hkey
      simp
    · rw [beq_eq_false_iff_ne.mpr hkey]
      exact ih

/-- A step that is not into a sensitive key commutes with redaction. -/
theorem child_redact (value : Json.Value) {step : Step}
    (h : ∀ name, step = .key name → sensitive platform name = false) :
    child (redactStructure platform value) step =
      (child value step).map (redactStructure platform) := by
  cases step with
  | index number =>
    cases value with
    | array items => exact getElem?_redactItems items number
    | _ => rfl
  | key name =>
    cases value with
    | object members =>
      have hname := h name rfl
      have hlookup := @lookup_redactMembers platform members name
      rw [hname] at hlookup
      exact hlookup
    | _ => rfl

theorem child_redact_sensitive (value : Json.Value) {name : String}
    (h : sensitive platform name = true) :
    child (redactStructure platform value) (.key name) =
      (child value (.key name)).map fun _ => .string redacted := by
  cases value with
  | object members =>
    have hlookup := @lookup_redactMembers platform members name
    rw [h] at hlookup
    exact hlookup
  | _ => rfl

theorem at?_redact (value : Json.Value) {path : List Step}
    (h : ∀ name, .key name ∈ path → sensitive platform name = false) :
    at? (redactStructure platform value) path =
      (at? value path).map (redactStructure platform) := by
  induction path generalizing value with
  | nil => rfl
  | cons step path ih =>
    rw [at?, at?, child_redact value fun name hname => h name (hname ▸ List.mem_cons_self)]
    cases child value step with
    | none => rfl
    | some inner => exact ih inner fun name hname => h name (List.mem_cons_of_mem _ hname)

theorem at?_append (value : Json.Value) (path later : List Step) :
    at? value (path ++ later) = (at? value path).bind fun inner => at? inner later := by
  induction path generalizing value with
  | nil => rfl
  | cons step path ih =>
    rw [List.cons_append, at?, at?]
    cases child value step with
    | none => rfl
    | some inner => exact ih inner

/-- A redacted position holds the mark. -/
theorem at?_redact_redacted {value : Json.Value} {path : List Step}
    (h : RedactedAt platform value path) :
    at? (redactStructure platform value) path = some (.string redacted) := by
  obtain ⟨above, name, rfl, hname, habove, hsome⟩ := h
  rw [at?_append, at?_redact value habove]
  rw [at?_append] at hsome
  cases hinner : at? value above with
  | none =>
    rw [hinner] at hsome
    cases hsome
  | some inner =>
    rw [hinner] at hsome
    simp only [Option.bind_some, Option.map_some, at?, child_redact_sensitive inner hname]
    simp only [Option.bind_some, at?] at hsome
    cases hchild : child inner (.key name) with
    | none =>
      rw [hchild] at hsome
      cases hsome
    | some secret => rfl

/-- Positions that are redacted stay redacted. -/
theorem RedactedAt.redact {value : Json.Value} {path : List Step}
    (h : RedactedAt platform value path) :
    RedactedAt platform (redactStructure platform value) path := by
  have hat := at?_redact_redacted h
  obtain ⟨above, name, hpath, hname, habove, -⟩ := h
  exact ⟨above, name, hpath, hname, habove, by rw [hat]; rfl⟩

/-- Redaction depends on nothing under a sensitive key, keeps lists and keys elsewhere, and
leaves what it has redacted as it is. -/
theorem redaction_noninterfering (platform : Platform) (value : Json.Value) :
    (∀ other, Agree platform value other →
      redactStructure platform value = redactStructure platform other) ∧
    SameOutline platform value (redactStructure platform value) ∧
    ∀ path, RedactedAt platform value path →
      at? (redactStructure platform value) path = some (.string redacted) ∧
      at? (redactStructure platform (redactStructure platform value)) path =
        at? (redactStructure platform value) path := by
  refine ⟨fun other h => redactStructure_eq h, sameOutline_redact value, ?_⟩
  intro path h
  have hfirst := at?_redact_redacted h
  exact ⟨hfirst, (at?_redact_redacted h.redact).trans hfirst.symm⟩

end VpsGuardian.Redaction
