import VpsGuardian.Lib.JsonMap

/-!
When two compact encoders write the same text.

The text of a value is the text of its brackets, separators and numbers, in
which all encoders agree, with the escapes of its characters in between. Where
one escape is never shorter than the other, two texts can only be equal if no
character is written differently.
-/

namespace VpsGuardian.Lib.Json

mutual

/-- The characters of the strings and keys of a value. -/
def chars : Value → List Char
  | .string s => s.toList
  | .array items => charsItems items
  | .object members => charsMembers members
  | _ => []

def charsItems : List Value → List Char
  | [] => []
  | item :: items => chars item ++ charsItems items

def charsMembers : List (String × Value) → List Char
  | [] => []
  | (key, value) :: members => key.toList ++ chars value ++ charsMembers members

end

variable {d e : Char → List Char}

theorem quote_congr {s : String} (h : ∀ c ∈ s.toList, d c = e c) : quote d s = quote e s := by
  rw [quote, quote, List.flatMap_congr h]

mutual

theorem render_congr : ∀ v : Value, (∀ c ∈ chars v, d c = e c) → render d v = render e v
  | .null, _ => rfl
  | .bool true, _ => rfl
  | .bool false, _ => rfl
  | .number n, _ => rfl
  | .string s, h => quote_congr h
  | .array [], _ => rfl
  | .array (item :: items), h => by
      simp only [chars, charsItems, List.mem_append] at h
      rw [render, render, render_congr item fun c hc => h c (Or.inl hc),
        renderItems_congr items fun c hc => h c (Or.inr hc)]
  | .object [], _ => rfl
  | .object ((key, value) :: members), h => by
      simp only [chars, charsMembers, List.mem_append] at h
      rw [render, render, quote_congr fun c hc => h c (Or.inl (Or.inl hc)),
        render_congr value fun c hc => h c (Or.inl (Or.inr hc)),
        renderMembers_congr members fun c hc => h c (Or.inr hc)]

theorem renderItems_congr : ∀ items : List Value, (∀ c ∈ charsItems items, d c = e c) →
    renderItems d items = renderItems e items
  | [], _ => rfl
  | item :: items, h => by
      simp only [charsItems, List.mem_append] at h
      rw [renderItems, renderItems, render_congr item fun c hc => h c (Or.inl hc),
        renderItems_congr items fun c hc => h c (Or.inr hc)]

theorem renderMembers_congr : ∀ members : List (String × Value),
    (∀ c ∈ charsMembers members, d c = e c) → renderMembers d members = renderMembers e members
  | [], _ => rfl
  | (key, value) :: members, h => by
      simp only [charsMembers, List.mem_append] at h
      rw [renderMembers, renderMembers, quote_congr fun c hc => h c (Or.inl (Or.inl hc)),
        render_congr value fun c hc => h c (Or.inl (Or.inr hc)),
        renderMembers_congr members fun c hc => h c (Or.inr hc)]

end

theorem forall_charsMembers {P : Char → Prop} {members : List (String × Value)} :
    (∀ c ∈ charsMembers members, P c) ↔
      ∀ member ∈ members, (∀ c ∈ member.1.toList, P c) ∧ ∀ c ∈ chars member.2, P c := by
  induction members with
  | nil => simp [charsMembers]
  | cons member members ih =>
    rw [List.forall_mem_cons, ← ih, charsMembers]
    simp only [List.mem_append, or_imp, forall_and]

/-- The length of some characters as an encoder writes them. -/
def written (e : Char → List Char) (cs : List Char) : Nat := (cs.flatMap e).length

@[simp] theorem written_nil (e : Char → List Char) : written e [] = 0 := rfl

@[simp] theorem written_append (e : Char → List Char) (cs cs' : List Char) :
    written e (cs ++ cs') = written e cs + written e cs' := by
  simp [written]

theorem written_cons (e : Char → List Char) (c : Char) (cs : List Char) :
    written e (c :: cs) = (e c).length + written e cs := by
  simp [written]

theorem length_quote (e : Char → List Char) (s : String) :
    (quote e s).length = 2 + written e s.toList := by
  simp only [quote, written, List.length_append, List.length_cons, List.length_nil]
  omega

mutual

/-- Two encoders differ in the length of a text by what their escapes differ in. -/
theorem length_render : ∀ v : Value,
    (render d v).length + written e (chars v) = (render e v).length + written d (chars v)
  | .null => rfl
  | .bool true => rfl
  | .bool false => rfl
  | .number n => by simp [render, chars]
  | .string s => by
      simp only [render, length_quote, chars]
      omega
  | .array [] => by simp [render, chars, charsItems]
  | .array (item :: items) => by
      have hitem := length_render item
      have hitems := length_renderItems items
      simp only [render, chars, charsItems, List.length_cons, List.length_append, written_append]
      omega
  | .object [] => by simp [render, chars, charsMembers]
  | .object ((key, value) :: members) => by
      have hvalue := length_render value
      have hmembers := length_renderMembers members
      simp only [render, chars, charsMembers, List.length_cons, List.length_append,
        written_append, length_quote]
      omega

theorem length_renderItems : ∀ items : List Value,
    (renderItems d items).length + written e (charsItems items) =
      (renderItems e items).length + written d (charsItems items)
  | [] => by simp [renderItems, charsItems]
  | item :: items => by
      have hitem := length_render item
      have hitems := length_renderItems items
      simp only [renderItems, charsItems, List.length_cons, List.length_append, written_append]
      omega

theorem length_renderMembers : ∀ members : List (String × Value),
    (renderMembers d members).length + written e (charsMembers members) =
      (renderMembers e members).length + written d (charsMembers members)
  | [] => by simp [renderMembers, charsMembers]
  | (key, value) :: members => by
      have hvalue := length_render value
      have hmembers := length_renderMembers members
      simp only [renderMembers, charsMembers, List.length_cons, List.length_append,
        written_append, length_quote]
      omega

end

theorem written_le (h : ∀ c, (d c).length ≤ (e c).length) (cs : List Char) :
    written d cs ≤ written e cs := by
  induction cs with
  | nil => rfl
  | cons c cs ih =>
    have hc := h c
    rw [written_cons, written_cons]
    omega

theorem length_eq_of_written_eq (h : ∀ c, (d c).length ≤ (e c).length) {cs : List Char}
    (heq : written d cs = written e cs) : ∀ c ∈ cs, (d c).length = (e c).length := by
  induction cs with
  | nil => simp
  | cons c cs ih =>
    have hc := h c
    have hcs := written_le h cs
    rw [written_cons, written_cons] at heq
    intro c' hc'
    obtain rfl | hc' := List.mem_cons.mp hc'
    · omega
    · exact ih (by omega) c' hc'

/-- Two encoders, one of which only ever writes more for a character that it
escapes in its own way, write the same text exactly for the values without such
characters. -/
theorem render_eq_render_iff (h : ∀ c, d c = e c ∨ (d c).length < (e c).length) (v : Value) :
    render d v = render e v ↔ ∀ c ∈ chars v, d c = e c := by
  refine ⟨fun heq => ?_, render_congr v⟩
  have hle : ∀ c, (d c).length ≤ (e c).length := by
    intro c
    obtain hc | hc := h c
    · rw [hc]
    · omega
  have hwritten : written d (chars v) = written e (chars v) := by
    have hlength := length_render (d := d) (e := e) v
    rw [heq] at hlength
    omega
  intro c hc
  have hlength := length_eq_of_written_eq hle hwritten c hc
  obtain heq | hlt := h c
  · exact heq
  · omega

/-- Python's text of a character is Go's, or it is the shorter one. -/
theorem pythonEscape_eq_goEscape_or (c : Char) :
    pythonEscape c = goEscape c ∨ (pythonEscape c).length < (goEscape c).length := by
  unfold goEscape pythonEscape
  split
  next h =>
    right
    simp only [isHTMLSensitive, Bool.or_eq_true, beq_iff_eq] at h
    obtain (((rfl | rfl) | rfl) | rfl) | rfl := h <;> decide
  next => exact Or.inl rfl

theorem pythonEscape_eq_goEscape_iff (c : Char) :
    pythonEscape c = goEscape c ↔ isHTMLSensitive c = false := by
  constructor
  · intro heq
    by_contra h
    rw [Bool.not_eq_false] at h
    simp only [goEscape, h, if_true] at heq
    simp only [isHTMLSensitive, Bool.or_eq_true, beq_iff_eq] at h
    obtain (((rfl | rfl) | rfl) | rfl) | rfl := h <;> revert heq <;> decide
  · intro h
    simp [goEscape, pythonEscape, h]

/-- Go and Python write the same text exactly for the values in which no string
has a character that Go escapes for HTML. -/
theorem render_python_eq_render_go_iff (v : Value) :
    render pythonEscape v = render goEscape v ↔ ∀ c ∈ chars v, isHTMLSensitive c = false := by
  rw [render_eq_render_iff pythonEscape_eq_goEscape_or]
  exact forall₂_congr fun c _ => pythonEscape_eq_goEscape_iff c

end VpsGuardian.Lib.Json
