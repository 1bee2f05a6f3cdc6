import VpsGuardian.Lib.Run

/-!
Runs of a system whose steps have outputs.

The outputs of a run are listed in their order. That no two of them are in
conflict is shown with a record the system keeps of each output: the step that
emits it makes the record, every step keeps it, and no step emits an output
that is in conflict with a recorded one.
-/

namespace VpsGuardian.Lib

section Trace

variable {σ ι ο : Type} (step : σ → ι → σ × List ο)

/-- The state part of a step. -/
def next (s : σ) (input : ι) : σ := (step s input).1

/-- The outputs of a run. -/
def trace : σ → List ι → List ο
  | _, [] => []
  | s, input :: inputs => (step s input).2 ++ trace (step s input).1 inputs

@[simp] theorem trace_nil (s : σ) : trace step s [] = [] := rfl

@[simp] theorem trace_cons (s : σ) (input : ι) (inputs : List ι) :
    trace step s (input :: inputs) = (step s input).2 ++ trace step (step s input).1 inputs := rfl

theorem trace_append (s : σ) (first second : List ι) :
    trace step s (first ++ second) =
      trace step s first ++ trace step (run (next step) s first) second := by
  induction first generalizing s with
  | nil => rfl
  | cons input first ih => simp [ih, next, List.append_assoc]

variable {step}

/-- What every step makes true of its outputs and keeps true is true of all outputs at the end. -/
theorem recorded_of_mem_trace {K : ο → σ → Prop}
    (hmade : ∀ s input, ∀ o ∈ (step s input).2, K o (step s input).1)
    (hkept : ∀ s input o, K o s → K o (step s input).1)
    {s : σ} {inputs : List ι} {o : ο} (ho : o ∈ trace step s inputs) :
    K o (run (next step) s inputs) := by
  induction inputs generalizing s with
  | nil => simp at ho
  | cons input inputs ih =>
    rw [trace_cons, List.mem_append] at ho
    obtain ho | ho := ho
    · exact run_invariant_of_step (I := K o) (fun t i h => hkept t i o h)
        (hmade s input o ho) inputs
    · exact ih ho

/-- Outputs that respect the record of an earlier output are in relation with it. -/
theorem forall_trace_of_recorded {P : σ → ι → Prop} {R : ο → ο → Prop} {K : ο → σ → Prop}
    (hkept : ∀ s input o, P s input → K o s → K o (step s input).1)
    (hrespects : ∀ s input o, P s input → K o s → ∀ o' ∈ (step s input).2, R o o')
    {s : σ} {o : ο} (h : K o s) {inputs : List ι} (hmeets : Meets (next step) P s inputs) :
    ∀ o' ∈ trace step s inputs, R o o' := by
  induction inputs generalizing s with
  | nil => simp
  | cons input inputs ih =>
    intro o' ho'
    rw [trace_cons, List.mem_append] at ho'
    obtain ho' | ho' := ho'
    · exact hrespects s input o hmeets.1 h o' ho'
    · exact ih (hkept s input o hmeets.1 h) hmeets.2 o' ho'

/-- If every input meets a condition under which outputs are recorded and records kept and
respected, the outputs of the run are pairwise in relation. -/
theorem Meets.trace_pairwise {P : σ → ι → Prop} {R : ο → ο → Prop} {K : ο → σ → Prop}
    (hstep : ∀ s input, P s input → (step s input).2.Pairwise R)
    (hmade : ∀ s input, P s input → ∀ o ∈ (step s input).2, K o (step s input).1)
    (hkept : ∀ s input o, P s input → K o s → K o (step s input).1)
    (hrespects : ∀ s input o, P s input → K o s → ∀ o' ∈ (step s input).2, R o o')
    {s : σ} {inputs : List ι} (hmeets : Meets (next step) P s inputs) :
    (trace step s inputs).Pairwise R := by
  induction inputs generalizing s with
  | nil => exact List.Pairwise.nil
  | cons input inputs ih =>
    rw [trace_cons, List.pairwise_append]
    refine ⟨hstep s input hmeets.1, ih hmeets.2, ?_⟩
    intro o ho
    exact forall_trace_of_recorded hkept hrespects (hmade s input hmeets.1 o ho) hmeets.2

theorem trace_pairwise {R : ο → ο → Prop} {K : ο → σ → Prop}
    (hstep : ∀ s input, (step s input).2.Pairwise R)
    (hmade : ∀ s input, ∀ o ∈ (step s input).2, K o (step s input).1)
    (hkept : ∀ s input o, K o s → K o (step s input).1)
    (hrespects : ∀ s input o, K o s → ∀ o' ∈ (step s input).2, R o o')
    (s : σ) (inputs : List ι) : (trace step s inputs).Pairwise R :=
  Meets.trace_pairwise (P := fun _ _ => True) (fun s input _ => hstep s input)
    (fun s input _ => hmade s input) (fun s input o _ => hkept s input o)
    (fun s input o _ => hrespects s input o) (Meets.of_forall (fun _ _ => trivial) s inputs)

end Trace

end VpsGuardian.Lib
