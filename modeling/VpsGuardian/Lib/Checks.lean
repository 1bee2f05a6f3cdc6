import Mathlib

/-!
Guard clauses: programs that raise an error or go on.

Each guard comes with the rule that takes a success apart: a program that
succeeded behind a guard passed the guard and succeeded after it.
-/

namespace VpsGuardian.Lib

variable {ε α β : Type}

/-- Raises the error if the condition holds. -/
def raiseIf (c : Prop) [Decidable c] (e : ε) : Except ε Unit := if c then .error e else .ok ()

/-- The value if there is one, and the error otherwise. -/
def orRaise (value : Option α) (e : ε) : Except ε α :=
  match value with
  | some a => .ok a
  | none => .error e

theorem bind_eq_ok {m : Except ε α} {f : α → Except ε β} {b : β} :
    m >>= f = .ok b ↔ ∃ a, m = .ok a ∧ f a = .ok b := by
  cases m with
  | error e =>
      constructor
      · intro h
        cases h
      · rintro ⟨_, h, -⟩
        cases h
  | ok a =>
      constructor
      · intro h
        exact ⟨a, rfl, h⟩
      · rintro ⟨_, h, h'⟩
        cases h
        exact h'

theorem map_eq_ok {m : Except ε α} {f : α → β} {b : β} :
    m.map f = .ok b ↔ ∃ a, m = .ok a ∧ f a = b := by
  cases m <;> simp [Except.map]

/-- A check that is written out as a branch has passed. -/
theorem ite_error_eq_ok {c : Prop} [Decidable c] {e : ε} {m : Except ε α} {a : α} :
    (if c then .error e else m) = .ok a ↔ ¬c ∧ m = .ok a := by
  by_cases h : c <;> simp [h]

theorem raiseIf_eq_ok {c : Prop} [Decidable c] {e : ε} {u : Unit} :
    raiseIf c e = .ok u ↔ ¬c := by
  by_cases h : c <;> simp [raiseIf, h]

theorem raiseIf_bind_eq_ok {c : Prop} [Decidable c] {e : ε} {f : Unit → Except ε β} {b : β} :
    raiseIf c e >>= f = .ok b ↔ ¬c ∧ f () = .ok b := by
  rw [bind_eq_ok]
  constructor
  · rintro ⟨_, hc, hf⟩
    exact ⟨raiseIf_eq_ok.mp hc, hf⟩
  · rintro ⟨hc, hf⟩
    exact ⟨(), raiseIf_eq_ok.mpr hc, hf⟩

theorem orRaise_eq_ok {value : Option α} {e : ε} {a : α} :
    orRaise value e = .ok a ↔ value = some a := by
  cases value <;> simp [orRaise]

theorem orRaise_bind_eq_ok {value : Option α} {e : ε} {f : α → Except ε β} {b : β} :
    orRaise value e >>= f = .ok b ↔ ∃ a, value = some a ∧ f a = .ok b := by
  rw [bind_eq_ok]
  simp only [orRaise_eq_ok]

/-- A program that does not fail returns its value. -/
theorem eq_ok_of_isSome {m : Except ε α} (h : m.toOption.isSome = true) :
    m = .ok (m.toOption.get h) := by
  cases m with
  | error e => cases h
  | ok a => rfl

theorem isOk_iff {m : Except ε α} : m.isOk = true ↔ ∃ a, m = .ok a := by
  cases m <;> simp [Except.isOk, Except.toBool]

/-- A loop whose rounds keep a property ends with it. -/
theorem foldlM_invariant_of_mem {f : β → α → Except ε β} {P : β → Prop} {items : List α}
    (hf : ∀ a ∈ items, ∀ b b', P b → f b a = .ok b' → P b') {b b' : β} (hb : P b)
    (h : items.foldlM f b = .ok b') : P b' := by
  induction items generalizing b with
  | nil =>
    cases h
    exact hb
  | cons a items ih =>
    rw [List.foldlM_cons] at h
    obtain ⟨next, hnext, h⟩ := bind_eq_ok.mp h
    exact ih (fun a' ha' => hf a' (List.mem_cons_of_mem a ha'))
      (hf a List.mem_cons_self b next hb hnext) h

theorem foldlM_invariant {f : β → α → Except ε β} {P : β → Prop}
    (hf : ∀ b a b', P b → f b a = .ok b' → P b') {items : List α} {b b' : β} (hb : P b)
    (h : items.foldlM f b = .ok b') : P b' :=
  foldlM_invariant_of_mem (fun a _ b b' => hf b a b') hb h

/-- A loop of which no round fails ends. -/
theorem foldlM_ok {f : β → α → Except ε β} {P : β → Prop} {items : List α}
    (hf : ∀ a ∈ items, ∀ b, P b → ∃ b', f b a = .ok b' ∧ P b') {b : β} (hb : P b) :
    ∃ b', items.foldlM f b = .ok b' ∧ P b' := by
  induction items generalizing b with
  | nil => exact ⟨b, rfl, hb⟩
  | cons a items ih =>
    obtain ⟨next, hnext, hP⟩ := hf a List.mem_cons_self b hb
    obtain ⟨b', hrest, hb'⟩ := ih (fun a' ha' => hf a' (List.mem_cons_of_mem a ha')) hP
    refine ⟨b', ?_, hb'⟩
    rw [List.foldlM_cons]
    exact bind_eq_ok.mpr ⟨next, hnext, hrest⟩

/-- Every item of a loop that ended had its round. -/
theorem foldlM_round {f : β → α → Except ε β} {P : β → Prop}
    (hf : ∀ b a b', P b → f b a = .ok b' → P b') {items : List α} {a : α} (ha : a ∈ items)
    {b b' : β} (hb : P b) (h : items.foldlM f b = .ok b') :
    ∃ (next : β) (rest : List α), P next ∧ (a :: rest).foldlM f next = .ok b' := by
  obtain ⟨before, rest, rfl⟩ := List.append_of_mem ha
  rw [List.foldlM_append] at h
  obtain ⟨next, hbefore, h⟩ := bind_eq_ok.mp h
  exact ⟨next, rest, foldlM_invariant hf hb hbefore, h⟩

/-! ### What an error says -/

theorem bind_eq_error {m : Except ε α} {f : α → Except ε β} {e : ε} :
    m >>= f = .error e ↔ m = .error e ∨ ∃ a, m = .ok a ∧ f a = .error e := by
  cases m with
  | error e' =>
      constructor
      · intro h
        cases h
        exact .inl rfl
      · rintro (h | ⟨_, h, -⟩)
        · cases h
          rfl
        · cases h
  | ok a =>
      constructor
      · intro h
        exact .inr ⟨a, rfl, h⟩
      · rintro (h | ⟨_, h, h'⟩)
        · cases h
        · cases h
          exact h'

theorem raiseIf_bind_eq_error {c : Prop} [Decidable c] {e e' : ε} {f : Unit → Except ε β} :
    raiseIf c e >>= f = .error e' ↔ (c ∧ e = e') ∨ (¬c ∧ f () = .error e') := by
  by_cases h : c
  · simp [raiseIf, h, bind, Except.bind]
  · simp [raiseIf, h, bind, Except.bind]

theorem orRaise_bind_eq_error {value : Option α} {e e' : ε} {f : α → Except ε β} :
    orRaise value e >>= f = .error e' ↔
      (value = none ∧ e = e') ∨ ∃ a, value = some a ∧ f a = .error e' := by
  cases value with
  | none => simp [orRaise, bind, Except.bind]
  | some a => simp [orRaise, bind, Except.bind]

theorem mapError_eq_ok {ε' : Type} {m : Except ε α} {f : ε → ε'} {a : α} :
    m.mapError f = .ok a ↔ m = .ok a := by
  cases m <;> simp [Except.mapError]

end VpsGuardian.Lib
