import Mathlib

/-!
Runs of a system that takes one input at a time.

A step is a function, so a run is determined by the state it starts in and the
inputs it is given. An assumption about a run (`Meets`) is a condition on every
input together with the state it arrives in.
-/

namespace VpsGuardian.Lib

section Run

variable {σ ι : Type} (step : σ → ι → σ)

/-- The state after a list of inputs. -/
def run (s : σ) (inputs : List ι) : σ := inputs.foldl step s

/-- Every input of the run meets the condition in the state it arrives in. -/
def Meets (P : σ → ι → Prop) : σ → List ι → Prop
  | _, [] => True
  | s, input :: inputs => P s input ∧ Meets P (step s input) inputs

instance decidableMeets (P : σ → ι → Prop) [∀ s input, Decidable (P s input)] :
    ∀ s inputs, Decidable (Meets step P s inputs)
  | _, [] => isTrue trivial
  | s, input :: inputs =>
      have := decidableMeets P (step s input) inputs
      inferInstanceAs (Decidable (P s input ∧ Meets step P (step s input) inputs))

@[simp] theorem run_nil (s : σ) : run step s [] = s := rfl

@[simp] theorem run_cons (s : σ) (input : ι) (inputs : List ι) :
    run step s (input :: inputs) = run step (step s input) inputs := rfl

theorem run_append (s : σ) (first second : List ι) :
    run step s (first ++ second) = run step (run step s first) second :=
  List.foldl_append

variable {step}

theorem Meets.append {P : σ → ι → Prop} {s : σ} {first second : List ι} :
    Meets step P s (first ++ second) ↔
      Meets step P s first ∧ Meets step P (run step s first) second := by
  induction first generalizing s with
  | nil => simp [Meets]
  | cons input first ih => simp [Meets, ih, and_assoc]

theorem Meets.mono {P Q : σ → ι → Prop} (hPQ : ∀ s input, P s input → Q s input) {s : σ}
    {inputs : List ι} (h : Meets step P s inputs) : Meets step Q s inputs := by
  induction inputs generalizing s with
  | nil => trivial
  | cons input inputs ih => exact ⟨hPQ _ _ h.1, ih h.2⟩

theorem Meets.and {P Q : σ → ι → Prop} {s : σ} {inputs : List ι} (hP : Meets step P s inputs)
    (hQ : Meets step Q s inputs) : Meets step (fun s input => P s input ∧ Q s input) s inputs := by
  induction inputs generalizing s with
  | nil => trivial
  | cons input inputs ih => exact ⟨⟨hP.1, hQ.1⟩, ih hP.2 hQ.2⟩

theorem Meets.of_forall {P : σ → ι → Prop} (hP : ∀ s input, P s input) (s : σ)
    (inputs : List ι) : Meets step P s inputs := by
  induction inputs generalizing s with
  | nil => trivial
  | cons input inputs ih => exact ⟨hP s input, ih _⟩

/-- An invariant that each step keeps under the condition holds at the end of the run. -/
theorem run_invariant {P : σ → ι → Prop} {I : σ → Prop}
    (hstep : ∀ s input, P s input → I s → I (step s input)) {s : σ} {inputs : List ι}
    (hs : I s) (h : Meets step P s inputs) : I (run step s inputs) := by
  induction inputs generalizing s with
  | nil => exact hs
  | cons input inputs ih => exact ih (hstep s input h.1 hs) h.2

/-- What each step has under the condition and an invariant, every step of the run has. -/
theorem Meets.of_invariant {P Q : σ → ι → Prop} {I : σ → Prop}
    (hstep : ∀ s input, P s input → I s → I (step s input) ∧ Q s input) {s : σ} {inputs : List ι}
    (hs : I s) (h : Meets step P s inputs) : Meets step Q s inputs := by
  induction inputs generalizing s with
  | nil => trivial
  | cons input inputs ih =>
    obtain ⟨hnext, hinput⟩ := hstep s input h.1 hs
    exact ⟨hinput, ih hnext h.2⟩

/-- An invariant that every step keeps holds at the end of every run. -/
theorem run_invariant_of_step {I : σ → Prop} (hstep : ∀ s input, I s → I (step s input))
    {s : σ} (hs : I s) (inputs : List ι) : I (run step s inputs) := by
  induction inputs generalizing s with
  | nil => exact hs
  | cons input inputs ih => exact ih (hstep s input hs)

/-- An invariant that may speak of the inputs so far. -/
theorem run_history {P : σ → ι → Prop} {I : List ι → σ → Prop} {s : σ} (hs : I [] s)
    (hstep : ∀ history input, P (run step s history) input → I history (run step s history) →
      I (history ++ [input]) (run step s (history ++ [input]))) {inputs : List ι}
    (h : Meets step P s inputs) : I inputs (run step s inputs) := by
  induction inputs using List.reverseRecOn with
  | nil => exact hs
  | append_singleton history input ih =>
    obtain ⟨hhistory, hinput, -⟩ := Meets.append.mp h
    exact hstep history input hinput (ih hhistory)

/-- A preorder that every step under the condition respects relates the two ends of the run. -/
theorem run_related {P : σ → ι → Prop} {R : σ → σ → Prop} (hrefl : ∀ s, R s s)
    (htrans : ∀ s t u, R s t → R t u → R s u)
    (hstep : ∀ s input, P s input → R s (step s input)) {s : σ} {inputs : List ι}
    (h : Meets step P s inputs) : R s (run step s inputs) := by
  induction inputs generalizing s with
  | nil => exact hrefl s
  | cons input inputs ih => exact htrans _ _ _ (hstep s input h.1) (ih h.2)

end Run

end VpsGuardian.Lib
