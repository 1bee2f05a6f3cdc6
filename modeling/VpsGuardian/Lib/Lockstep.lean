import VpsGuardian.Lib.Action

/-!
Two programs run side by side.

The states they run in are related before and after every part of the programs,
and the parts return related results or fail with the same error. What holds of
the primitive commands in this sense, holds of the programs built from them.
-/

namespace VpsGuardian.Lib.Action

variable {σ ε ε' α α' β β' : Type}

/-- Two results: related values, or the same error. -/
def Agree (Q : α → α' → Prop) : Except ε α → Except ε α' → Prop
  | .ok a, .ok a' => Q a a'
  | .error e, .error e' => e = e'
  | _, _ => False

/-- From related states the programs lead to related states, with results that agree. -/
def Relates (R : σ → σ → Prop) (Q : α → α' → Prop) (m : Action σ ε α) (m' : Action σ ε α') :
    Prop :=
  ∀ s s', R s s' → Agree Q (m s).1 (m' s').1 ∧ R (m s).2 (m' s').2

theorem Agree.eq {r r' : Except ε α} (h : Agree Eq r r') : r = r' := by
  cases r with
  | ok a =>
    cases r' with
    | ok a' => exact congrArg _ h
    | error e' => exact h.elim
  | error e =>
    cases r' with
    | ok a' => exact h.elim
    | error e' => exact congrArg _ h

theorem Agree.refl (r : Except ε α) : Agree Eq r r := by
  cases r <;> rfl

namespace Relates

variable {R : σ → σ → Prop} {Q : α → α' → Prop} {P : β → β' → Prop}

theorem pure {a : α} {a' : α'} (h : Q a a') :
    Relates R Q (Pure.pure a : Action σ ε α) (Pure.pure a' : Action σ ε α') :=
  fun _ _ hs => ⟨h, hs⟩

theorem throw (e : ε) : Relates R Q (Action.throw e) (Action.throw e) := fun _ _ hs => ⟨rfl, hs⟩

theorem bind {m : Action σ ε α} {m' : Action σ ε α'} {f : α → Action σ ε β}
    {f' : α' → Action σ ε β'} (hm : Relates R Q m m')
    (hf : ∀ a a', Q a a' → Relates R P (f a) (f' a')) : Relates R P (m >>= f) (m' >>= f') := by
  intro s s' hs
  obtain ⟨hresult, hstate⟩ := hm s s' hs
  rw [bind_apply, bind_apply]
  rcases hleft : m s with ⟨e | a, t⟩
  · rcases hright : m' s' with ⟨e' | a', t'⟩
    · rw [hleft, hright] at hresult hstate
      exact ⟨hresult, hstate⟩
    · rw [hleft, hright] at hresult
      exact hresult.elim
  · rcases hright : m' s' with ⟨e' | a', t'⟩
    · rw [hleft, hright] at hresult
      exact hresult.elim
    · rw [hleft, hright] at hresult hstate
      exact hf a a' hresult t t' hstate

theorem attempt {m : Action σ ε α} {m' : Action σ ε α'} (hm : Relates R Q m m') :
    Relates R (Agree Q) (m.attempt : Action σ ε' _) m'.attempt := hm

theorem ignore {m : Action σ ε α} {m' : Action σ ε α'} (hm : Relates R Q m m') :
    Relates R Eq (m.ignore : Action σ ε' _) m'.ignore :=
  fun s s' hs => ⟨rfl, (hm s s' hs).2⟩

theorem mapError (f : ε → ε') {m : Action σ ε α} {m' : Action σ ε α'} (hm : Relates R Q m m') :
    Relates R Q (m.mapError f) (m'.mapError f) := by
  intro s s' hs
  obtain ⟨hresult, hstate⟩ := hm s s' hs
  refine ⟨?_, hstate⟩
  rw [mapError_apply, mapError_apply]
  rcases hleft : (m s).1 with e | a <;> rcases hright : (m' s').1 with e' | a' <;>
    rw [hleft, hright] at hresult
  · exact congrArg f hresult
  · exact hresult.elim
  · exact hresult.elim
  · exact hresult

theorem forEach {f : β → Action σ ε Unit} (hf : ∀ b, Relates R Eq (f b) (f b)) (items : List β) :
    Relates R Eq (Action.forEach f items) (Action.forEach f items) := by
  induction items with
  | nil => exact pure rfl
  | cons item items ih => exact bind (hf item) fun _ _ _ => ih

theorem collect {f : β → Action σ ε α} (hf : ∀ b, Relates R Eq (f b) (f b)) (items : List β) :
    Relates R Eq (Action.collect f items) (Action.collect f items) := by
  induction items with
  | nil => exact pure rfl
  | cons item items ih =>
    refine bind (hf item) fun a a' ha => bind ih fun as as' has => pure ?_
    rw [ha, has]

end Relates

/-- The program behaves the same from related states. -/
def Respects (R : σ → σ → Prop) (m : Action σ ε α) : Prop := Relates R Eq m m

theorem Respects.bind {R : σ → σ → Prop} {m : Action σ ε α} {f : α → Action σ ε β}
    (hm : Respects R m) (hf : ∀ a, Respects R (f a)) : Respects R (m >>= f) :=
  Relates.bind hm fun a _ ha => ha ▸ hf a

theorem Respects.attempt {R : σ → σ → Prop} {m : Action σ ε α} (hm : Respects R m) :
    Respects R (m.attempt : Action σ ε' _) :=
  fun s s' hs => ⟨(hm s s' hs).1.eq, (hm s s' hs).2⟩

end VpsGuardian.Lib.Action
