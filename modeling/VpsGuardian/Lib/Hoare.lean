import VpsGuardian.Lib.Action

/-!
What programs that may fail do: triples, and logs that only grow.

A program has a postcondition for each way it can end. Every construct has a rule, and the rules
compose; none of them looks into a program again.
-/

namespace VpsGuardian.Lib.Action

variable {σ ε ε' α β : Type}

/-- From a state in `P`, a program that succeeds ends in `Q`, and one that fails ends in `E`. -/
def Triple (P : σ → Prop) (m : Action σ ε α) (Q : α → σ → Prop) (E : ε → σ → Prop) : Prop :=
  ∀ s t, P s → (∀ a, m s = (.ok a, t) → Q a t) ∧ ∀ e, m s = (.error e, t) → E e t

namespace Triple

variable {P P' : σ → Prop} {Q Q' : α → σ → Prop} {R : β → σ → Prop} {E E' : ε → σ → Prop}

theorem mono {m : Action σ ε α} (h : Triple P m Q E) (hP : ∀ s, P' s → P s)
    (hQ : ∀ a s, Q a s → Q' a s) (hE : ∀ e s, E e s → E' e s) : Triple P' m Q' E' := by
  intro s t hs
  obtain ⟨hok, herror⟩ := h s t (hP s hs)
  exact ⟨fun a ha => hQ a t (hok a ha), fun e he => hE e t (herror e he)⟩

theorem pure {a : α} (h : ∀ s, P s → Q a s) : Triple P (Pure.pure a : Action σ ε α) Q E := by
  intro s t hs
  refine ⟨fun b hb => ?_, nofun⟩
  cases hb
  exact h s hs

theorem throw {e : ε} (h : ∀ s, P s → E e s) : Triple P (Action.throw e : Action σ ε α) Q E := by
  intro s t hs
  refine ⟨nofun, fun e' he => ?_⟩
  cases he
  exact h s hs

theorem ofExcept {result : Except ε α} (hok : ∀ a s, result = .ok a → P s → Q a s)
    (herror : ∀ e s, result = .error e → P s → E e s) : Triple P (Action.ofExcept result) Q E := by
  intro s t hs
  refine ⟨fun a ha => ?_, fun e he => ?_⟩
  · cases ha
    exact hok a s rfl hs
  · cases he
    exact herror e s rfl hs

theorem bind {m : Action σ ε β} {f : β → Action σ ε α} (hm : Triple P m R E)
    (hf : ∀ b, Triple (R b) (f b) Q E) : Triple P (m >>= f) Q E := by
  intro s t hs
  rw [bind_apply]
  rcases h : m s with ⟨e | b, u⟩
  · refine ⟨nofun, fun e' he => ?_⟩
    cases he
    exact (hm s _ hs).2 e h
  · exact hf b u t ((hm s u hs).1 b h)

theorem attempt {m : Action σ ε α} {R : Except ε α → σ → Prop} {E : ε' → σ → Prop}
    (h : Triple P m (fun a => R (.ok a)) fun e => R (.error e)) :
    Triple P (m.attempt : Action σ ε' _) R E := by
  intro s t hs
  refine ⟨fun result hresult => ?_, nofun⟩
  cases hresult
  rcases hm : m s with ⟨e | a, u⟩
  · exact (h s u hs).2 e hm
  · exact (h s u hs).1 a hm

theorem ignore {m : Action σ ε α} {R : σ → Prop} {E : ε' → σ → Prop}
    (h : Triple P m (fun _ => R) fun _ => R) :
    Triple P (m.ignore : Action σ ε' Unit) (fun _ => R) E := by
  intro s t hs
  refine ⟨fun result hresult => ?_, nofun⟩
  cases hresult
  rcases hm : m s with ⟨e | a, u⟩
  · exact (h s u hs).2 e hm
  · exact (h s u hs).1 a hm

theorem mapError {f : ε → ε'} {m : Action σ ε α} {E : ε' → σ → Prop}
    (h : Triple P m Q fun e => E (f e)) : Triple P (m.mapError f) Q E := by
  intro s t hs
  rcases hm : m s with ⟨e | a, u⟩
  · rw [mapError_of_error f hm]
    refine ⟨nofun, fun e' he => ?_⟩
    cases he
    exact (h s t hs).2 e hm
  · rw [mapError_of_ok f hm]
    refine ⟨fun b hb => ?_, nofun⟩
    cases hb
    exact (h s t hs).1 a hm

/-- What a triple says of one run. -/
theorem result {m : Action σ ε α} (h : Triple P m Q E) {s : σ} (hs : P s) :
    (∃ a, (m s).1 = .ok a ∧ Q a (m s).2) ∨ ∃ e, (m s).1 = .error e ∧ E e (m s).2 := by
  rcases hm : m s with ⟨e | a, t⟩
  · exact .inr ⟨e, rfl, (h s t hs).2 e hm⟩
  · exact .inl ⟨a, rfl, (h s t hs).1 a hm⟩

end Triple

/-! ### Logs -/

/-- A log that is part of the state has grown by entries that satisfy a condition. -/
def Appends {ω : Type} (log : σ → List ω) (P : ω → Prop) (s t : σ) : Prop :=
  ∃ entries, log t = log s ++ entries ∧ ∀ entry ∈ entries, P entry

/-- Whatever a program does, what it appends to the log satisfies a condition. -/
abbrev Logs {ω : Type} (log : σ → List ω) (P : ω → Prop) (m : Action σ ε α) : Prop :=
  Ensures (Appends log P) (fun _ => True) m

section Logs

variable {ω : Type} {log : σ → List ω} {P : ω → Prop}

theorem Appends.of_eq {s t : σ} (h : log t = log s) : Appends log P s t :=
  ⟨[], by rw [h, List.append_nil], by simp⟩

theorem Appends.refl (s : σ) : Appends log P s s := .of_eq rfl

theorem Appends.trans (s t u : σ) (hst : Appends log P s t) (htu : Appends log P t u) :
    Appends log P s u := by
  obtain ⟨entries, ht, hentries⟩ := hst
  obtain ⟨entries', hu, hentries'⟩ := htu
  refine ⟨entries ++ entries', by rw [hu, ht, List.append_assoc], fun entry hmem => ?_⟩
  exact (List.mem_append.mp hmem).elim (hentries entry) (hentries' entry)

/-- What is new in the log. -/
theorem Appends.mem_drop {s t : σ} (h : Appends log P s t) {entry : ω}
    (hmem : entry ∈ (log t).drop (log s).length) : P entry := by
  obtain ⟨entries, ht, hentries⟩ := h
  rw [ht, List.drop_left] at hmem
  exact hentries entry hmem

namespace Logs

theorem pure (a : α) : Logs log P (Pure.pure a : Action σ ε α) :=
  Ensures.pure Appends.refl trivial

theorem ofExcept (result : Except ε α) : Logs log P (Action.ofExcept result) :=
  fun s => ⟨Appends.refl s, fun _ _ => trivial⟩

theorem bind {m : Action σ ε α} {f : α → Action σ ε β} (hm : Logs log P m)
    (hf : ∀ a, Logs log P (f a)) : Logs log P (m >>= f) :=
  Ensures.bind Appends.trans hm fun a _ => hf a

end Logs

end Logs

end VpsGuardian.Lib.Action
