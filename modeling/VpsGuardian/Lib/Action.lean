import Mathlib

/-!
Programs over a state that may fail and keep the state they failed in.

A command that fails half way through has still had its effects, so the final
state is returned beside the result and not only on success. The rules at the
end carry a preorder on states through a program: what every primitive command
respects, every program built from them respects.
-/

namespace VpsGuardian.Lib

/-- A program over states `σ`, failing with an `ε`. -/
def Action (σ ε α : Type) : Type := σ → Except ε α × σ

namespace Action

variable {σ ε ε' α β : Type}

instance : Monad (Action σ ε) where
  pure a := fun s => (.ok a, s)
  bind m f := fun s =>
    match m s with
    | (.ok a, s') => f a s'
    | (.error e, s') => (.error e, s')

def throw (e : ε) : Action σ ε α := fun s => (.error e, s)

/-- A computation that does not look at the state. -/
def ofExcept (result : Except ε α) : Action σ ε α := fun s => (result, s)

/-- Runs a program and hands its result on, also a failed one. -/
def attempt (m : Action σ ε α) : Action σ ε' (Except ε α) := fun s => (.ok (m s).1, (m s).2)

/-- Runs a program and ignores whether it failed. -/
def ignore (m : Action σ ε α) : Action σ ε' Unit := fun s => (.ok (), (m s).2)

/-- Translates the error of a program that fails. -/
def mapError (f : ε → ε') (m : Action σ ε α) : Action σ ε' α := fun s =>
  ((m s).1.mapError f, (m s).2)

/-- Runs a program for each item in turn, up to the first failure. -/
def forEach (f : β → Action σ ε Unit) : List β → Action σ ε Unit
  | [] => pure ()
  | item :: items => f item >>= fun _ => forEach f items

/-- The results of a program for each item in turn, up to the first failure. -/
def collect (f : β → Action σ ε α) : List β → Action σ ε (List α)
  | [] => pure []
  | item :: items => f item >>= fun a => collect f items >>= fun as => pure (a :: as)

theorem bind_apply (m : Action σ ε α) (f : α → Action σ ε β) (s : σ) :
    (m >>= f) s = match m s with
      | (.ok a, s') => f a s'
      | (.error e, s') => (.error e, s') := rfl

theorem attempt_apply (m : Action σ ε α) (s : σ) :
    (m.attempt : Action σ ε' _) s = (.ok (m s).1, (m s).2) := rfl

theorem mapError_apply (f : ε → ε') (m : Action σ ε α) (s : σ) :
    m.mapError f s = ((m s).1.mapError f, (m s).2) := rfl

theorem bind_of_ok {m : Action σ ε α} {f : α → Action σ ε β} {s s' : σ} {a : α}
    (h : m s = (.ok a, s')) : (m >>= f) s = f a s' := by
  rw [bind_apply, h]

theorem bind_of_error {m : Action σ ε α} {f : α → Action σ ε β} {s s' : σ} {e : ε}
    (h : m s = (.error e, s')) : (m >>= f) s = (.error e, s') := by
  rw [bind_apply, h]

theorem mapError_of_ok {m : Action σ ε α} {s s' : σ} {a : α} (f : ε → ε')
    (h : m s = (.ok a, s')) : m.mapError f s = (.ok a, s') := by
  rw [mapError, h]
  rfl

theorem mapError_of_error {m : Action σ ε α} {s s' : σ} {e : ε} (f : ε → ε')
    (h : m s = (.error e, s')) : m.mapError f s = (.error (f e), s') := by
  rw [mapError, h]
  rfl

/-- A program that succeeded did so step by step. -/
theorem bind_eq_ok {m : Action σ ε α} {f : α → Action σ ε β} {s t : σ} {b : β} :
    (m >>= f) s = (.ok b, t) ↔ ∃ a s', m s = (.ok a, s') ∧ f a s' = (.ok b, t) := by
  rw [bind_apply]
  rcases h : m s with ⟨e | a, s'⟩ <;> simp

theorem ofExcept_bind_eq_ok {result : Except ε α} {f : α → Action σ ε β} {s t : σ} {b : β} :
    (ofExcept result >>= f) s = (.ok b, t) ↔ ∃ a, result = .ok a ∧ f a s = (.ok b, t) := by
  rw [bind_apply, ofExcept]
  cases result <;> simp

theorem ofExcept_bind (result : Except ε α) (f : α → Action σ ε β) (s : σ) :
    (ofExcept result >>= f) s = match result with
      | .ok a => f a s
      | .error e => (.error e, s) := by
  cases result <;> rfl

/-- What follows does not change the state. -/
theorem bind_snd {m : Action σ ε α} {f : α → Action σ ε β} (hf : ∀ a s, (f a s).2 = s) (s : σ) :
    ((m >>= f) s).2 = (m s).2 := by
  rw [bind_apply]
  rcases m s with ⟨e | a, s'⟩
  · rfl
  · exact hf a s'

/-- Whatever a program does, the state it ends in is related to the one it
started in, and what it returns satisfies a condition. -/
def Ensures (R : σ → σ → Prop) (P : α → Prop) (m : Action σ ε α) : Prop :=
  ∀ s, R s (m s).2 ∧ ∀ a, (m s).1 = .ok a → P a

namespace Ensures

variable {R : σ → σ → Prop} {P : α → Prop} {Q : β → Prop}

theorem mono {P' : α → Prop} (hP : ∀ a, P a → P' a) {m : Action σ ε α} (hm : Ensures R P m) :
    Ensures R P' m := fun s => ⟨(hm s).1, fun a ha => hP a ((hm s).2 a ha)⟩

theorem weaken {R' : σ → σ → Prop} (hR : ∀ s t, R s t → R' s t) {m : Action σ ε α}
    (hm : Ensures R P m) : Ensures R' P m := fun s => ⟨hR _ _ (hm s).1, (hm s).2⟩

theorem attempt {m : Action σ ε α} (hm : Ensures R P m) :
    Ensures R (fun r => ∀ a, r = .ok a → P a) (m.attempt : Action σ ε' _) := by
  intro s
  refine ⟨(hm s).1, fun r hr => ?_⟩
  cases hr
  exact (hm s).2

theorem ignore {m : Action σ ε α} (hm : Ensures R P m) :
    Ensures R (fun _ => True) (m.ignore : Action σ ε' _) :=
  fun s => ⟨(hm s).1, fun _ _ => trivial⟩

theorem mapError (f : ε → ε') {m : Action σ ε α} (hm : Ensures R P m) :
    Ensures R P (m.mapError f) := by
  intro s
  refine ⟨(hm s).1, fun a ha => (hm s).2 a ?_⟩
  unfold Action.mapError at ha
  cases h : (m s).1 with
  | error e => simp [h, Except.mapError] at ha
  | ok b => simpa [h, Except.mapError] using ha

section Refl

variable (hrefl : ∀ s, R s s)
include hrefl

theorem pure {a : α} (ha : P a) : Ensures R P (Pure.pure a : Action σ ε α) := by
  intro s
  refine ⟨hrefl s, fun b hb => ?_⟩
  cases hb
  exact ha

theorem throw (e : ε) : Ensures R P (Action.throw e : Action σ ε α) :=
  fun s => ⟨hrefl s, fun _ hb => by cases hb⟩

end Refl

theorem bind (htrans : ∀ s t u, R s t → R t u → R s u) {m : Action σ ε α}
    {f : α → Action σ ε β} (hm : Ensures R P m) (hf : ∀ a, P a → Ensures R Q (f a)) :
    Ensures R Q (m >>= f) := by
  intro s
  obtain ⟨hstate, hresult⟩ := hm s
  rw [bind_apply]
  rcases h : m s with ⟨e | a, s'⟩
  · rw [h] at hstate
    exact ⟨hstate, fun _ hb => by cases hb⟩
  · rw [h] at hstate hresult
    obtain ⟨hstate', hresult'⟩ := hf a (hresult a rfl) s'
    exact ⟨htrans _ _ _ hstate hstate', hresult'⟩

section Loops

variable (hrefl : ∀ s, R s s) (htrans : ∀ s t u, R s t → R t u → R s u)
include hrefl htrans

theorem forEach {f : β → Action σ ε Unit} (hf : ∀ b, Ensures R (fun _ => True) (f b))
    (items : List β) : Ensures R (fun _ => True) (Action.forEach f items) := by
  induction items with
  | nil => exact pure hrefl trivial
  | cons item items ih => exact bind htrans (hf item) fun _ _ => ih

theorem collect {f : β → Action σ ε α} (hf : ∀ b, Ensures R P (f b)) (items : List β) :
    Ensures R (fun as => ∀ a ∈ as, P a) (Action.collect f items) := by
  induction items with
  | nil => exact pure hrefl (by simp)
  | cons item items ih =>
      refine bind htrans (hf item) fun a ha => bind htrans ih fun as has => ?_
      exact pure hrefl (by simpa using ⟨ha, has⟩)

end Loops

end Ensures

/-- The program does not fail, from whatever state. -/
def Total (m : Action σ ε α) : Prop := ∀ s, ∃ a s', m s = (.ok a, s')

namespace Total

theorem pure (a : α) : Total (Pure.pure a : Action σ ε α) := fun s => ⟨a, s, rfl⟩

theorem attempt (m : Action σ ε α) : Total (m.attempt : Action σ ε' _) :=
  fun s => ⟨(m s).1, (m s).2, rfl⟩

theorem bind {m : Action σ ε α} {f : α → Action σ ε β} (hm : Total m) (hf : ∀ a, Total (f a)) :
    Total (m >>= f) := by
  intro s
  obtain ⟨a, s', hs⟩ := hm s
  obtain ⟨b, s'', hs'⟩ := hf a s'
  exact ⟨b, s'', by rw [bind_of_ok hs, hs']⟩

theorem collect {f : β → Action σ ε α} (hf : ∀ b, Total (f b)) (items : List β) :
    Total (Action.collect f items) := by
  induction items with
  | nil => exact pure []
  | cons item items ih => exact bind (hf item) fun a => bind ih fun as => pure (a :: as)

end Total

end Action

end VpsGuardian.Lib
