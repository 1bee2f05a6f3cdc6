import VpsGuardian.NetHelper.Evolution
import VpsGuardian.NetHelper.Main

/-!
What every write of the durable state keeps.

A call writes a checkpoint of the loaded policies, their absorbed form, the
policies of a requested change, or none. A property of the owned policies that
all of these have is kept by every call, and so by every run.
-/

namespace VpsGuardian.NetHelper

open Lib

/-- A property of the owned policies that accounting alone does not break. -/
structure Closed (G : List Policy → Prop) : Prop where
  absorb : ∀ policies raw, G policies → G (policies.map (absorbPolicy raw))
  checkpoint : ∀ policies raw, G policies → G (policies.map (checkpointPolicy raw))
  empty : G []

/-- If the durable policies had the property, they have it. -/
def Keeps (G : List Policy → Prop) (w w' : World) : Prop :=
  G w.durable.policies → G w'.durable.policies

theorem Keeps.refl (G : List Policy → Prop) (w : World) : Keeps G w w := id

theorem Keeps.trans (G : List Policy → Prop) (w w' w'' : World) (h : Keeps G w w')
    (h' : Keeps G w' w'') : Keeps G w w'' := h' ∘ h

/-- A program all of whose writes have the property. -/
def Writes (G : List Policy → Prop) {ε α : Type} (P : α → Prop) (m : Action World ε α) : Prop :=
  Action.Ensures (Keeps G) P m

namespace Writes

variable {G : List Policy → Prop} {ε ε' α β : Type} {P : α → Prop} {Q : β → Prop}

theorem pure {a : α} (ha : P a) : Writes G P (Pure.pure a : Action World ε α) :=
  Action.Ensures.pure (Keeps.refl G) ha

theorem throw (e : ε) : Writes G P (Action.throw e : Action World ε α) :=
  Action.Ensures.throw (Keeps.refl G) e

theorem bind {m : Action World ε α} {f : α → Action World ε β} (hm : Writes G P m)
    (hf : ∀ a, P a → Writes G Q (f a)) : Writes G Q (m >>= f) :=
  Action.Ensures.bind (Keeps.trans G) hm hf

theorem mapError (f : ε → ε') {m : Action World ε α} (hm : Writes G P m) :
    Writes G P (m.mapError f) := Action.Ensures.mapError f hm

theorem ignore {m : Action World ε α} (hm : Writes G P m) :
    Writes G (fun _ => True) (m.ignore : Action World ε' _) := Action.Ensures.ignore hm

theorem attempt {m : Action World ε α} (hm : Writes G P m) :
    Writes G (fun _ => True) (m.attempt : Action World ε' _) :=
  Action.Ensures.mono (fun _ _ => trivial) (Action.Ensures.attempt hm)

theorem of_evolves {m : Action World ε α} (hm : Action.Ensures World.Evolves P m) :
    Writes G P m := by
  refine Action.Ensures.weaken (fun w w' h hs => ?_) hm
  rw [h.durable]
  exact hs

theorem writeState {s : State} (hs : G s.policies) : Writes G (fun _ => True) (writeState s) := by
  intro w
  refine ⟨fun h => ?_, fun _ _ => trivial⟩
  unfold NetHelper.writeState
  split
  · exact hs
  · exact h

end Writes

/-! ### What the programs return -/

theorem readBaseline_eq (current : State) :
    Action.Ensures World.Evolves (fun baseline => ∃ raw, baseline = absorbCounters current raw)
      (readBaseline current) := by
  refine Action.Ensures.bind World.Evolves.trans tableExists_evolves fun existing _ => ?_
  split
  · refine Action.Ensures.bind World.Evolves.trans readCounters_evolves fun raw _ => ?_
    exact Action.Ensures.pure World.Evolves.refl ⟨raw, rfl⟩
  · exact Action.Ensures.pure World.Evolves.refl ⟨_, rfl⟩

theorem settle_evolves (current : State) : OnlyEvolves (settle current) := by
  refine .bind readCounters_evolves fun raw => ?_
  refine .bind (verifyNetwork_evolves _ _).attempt fun r => ?_
  cases r with
  | ok _ => exact .pure _
  | error _ =>
      exact .bind (applyNetwork_evolves _ _).attempt fun restored =>
        .bind readCounters_evolves fun raw => .pure _

theorem snapshot_evolves (current : State) : OnlyEvolves (snapshot current) :=
  .bind (settle_evolves current) fun r => .bind (readShapingStates_evolves r.1) fun _ => .pure _

section Kept

variable {G : List Policy → Prop} (hG : Closed G)
include hG

theorem settle_kept {current : State} (hs : G current.policies) :
    Action.Ensures World.Evolves (fun r => G r.1.policies) (settle current) := by
  refine Action.Ensures.bind World.Evolves.trans readCounters_evolves fun raw _ => ?_
  refine Action.Ensures.bind World.Evolves.trans (verifyNetwork_evolves _ _).attempt fun r _ => ?_
  cases r with
  | ok _ => exact Action.Ensures.pure World.Evolves.refl hs
  | error _ =>
      refine Action.Ensures.bind World.Evolves.trans (applyNetwork_evolves _ _).attempt
        fun restored _ => ?_
      refine Action.Ensures.bind World.Evolves.trans readCounters_evolves fun raw' _ => ?_
      exact Action.Ensures.pure World.Evolves.refl (hG.absorb _ raw hs)

theorem snapshot_kept {current : State} (hs : G current.policies) :
    Action.Ensures World.Evolves (fun r => G r.2.policies) (snapshot current) := by
  refine Action.Ensures.bind World.Evolves.trans (settle_kept hG hs) ?_
  rintro ⟨settled, raw, restored⟩ hsettled
  refine Action.Ensures.bind World.Evolves.trans (readShapingStates_evolves settled)
    fun shapingStates _ => ?_
  exact Action.Ensures.pure World.Evolves.refl (hG.checkpoint _ raw hsettled)

omit hG in
theorem commitChange_writes {baseline desired : State} (hbaseline : G baseline.policies)
    (hdesired : G desired.policies) :
    Writes G (fun _ => True) (commitChange baseline desired) := by
  refine .bind (.mapError _ (.of_evolves (applyNetwork_evolves _ _))) fun _ _ => ?_
  refine .bind (Writes.writeState hdesired).attempt fun r _ => ?_
  cases r with
  | ok _ => exact .pure trivial
  | error _ =>
      refine .bind (.ignore (.of_evolves (applyNetwork_evolves _ _))) fun _ _ => ?_
      exact .bind (Writes.writeState hbaseline).ignore fun _ _ => .throw _

theorem serveSnapshot_writes {current : State} (hs : G current.policies) :
    Writes G (fun _ => True) (serveSnapshot current) := by
  refine .bind (.mapError _ (.of_evolves (snapshot_kept hG hs))) ?_
  rintro ⟨result, checkpoint⟩ hcheckpoint
  exact .bind (.mapError _ (Writes.writeState hcheckpoint)) fun _ _ => .pure trivial

theorem servePurge_writes {current : State} (dryRun : Bool) (hs : G current.policies) :
    Writes G (fun _ => True) (servePurge dryRun current) := by
  refine .bind (.mapError _ (.of_evolves (readBaseline_eq current))) ?_
  rintro baseline ⟨raw, rfl⟩
  split
  · exact .pure trivial
  · refine .bind (commitChange_writes ?_ ?_) fun _ _ => .pure trivial
    · exact hG.absorb _ raw hs
    · exact hG.empty

/-- The property holds of what a request makes of the absorbed policies. -/
def ChangeKeeps (G : List Policy → Prop) (policies : List Policy) (operation : Operation)
    (parsed : Policy) : Prop :=
  ∀ raw clock policies', desiredPolicies (policies.map (absorbPolicy raw)) operation parsed clock =
    .ok policies' → G policies'

theorem serveAuthorized_writes {setting : Setting} {request : Request} {auth : Authorization}
    {parsed : Policy} {current : State} (hs : G current.policies)
    (hchange : ChangeKeeps G current.policies request.operation parsed) :
    Writes G (fun _ => True) (serveAuthorized setting request auth parsed current) := by
  refine .bind (.mapError _ (.of_evolves (readBaseline_eq current))) ?_
  rintro baseline ⟨raw, rfl⟩
  have hbaseline : G (absorbCounters current raw).policies := hG.absorb _ raw hs
  cases hdesired : desiredState (absorbCounters current raw) request.operation parsed
      setting.clock with
  | error e => exact .throw _
  | ok r =>
      obtain ⟨desired, generation⟩ := r
      have hkept : G desired.policies := by
        unfold desiredState at hdesired
        split at hdesired
        · cases hdesired
        · next policies hpolicies =>
            cases hdesired
            exact hchange raw setting.clock policies hpolicies
      dsimp only
      split
      · exact .bind (.mapError _ (Writes.writeState hbaseline)) fun _ _ => .pure trivial
      · exact .bind (commitChange_writes hbaseline hkept) fun _ _ => .pure trivial

theorem serveLoaded_writes {setting : Setting} {request : Request} {current : State}
    (hs : G current.policies)
    (hchange : ∀ parsed, parsePolicy setting.interfaceExists request.policy (!request.dryRun) =
      .ok parsed → ChangeKeeps G current.policies request.operation parsed) :
    Writes G (fun _ => True) (serveLoaded setting request current) := by
  unfold serveLoaded
  split
  · exact serveSnapshot_writes hG hs
  · exact servePurge_writes hG _ hs
  · split
    · exact .throw _
    · split
      · exact .throw _
      · split
        · exact .throw _
        · next parsed hparsed => exact serveAuthorized_writes hG hs (hchange parsed hparsed)

/-- One call keeps a closed property that its own change keeps. -/
theorem step_keeps {h : Helper} {call : Call}
    (hchange : ∀ parsed, parsePolicy call.setting.interfaceExists call.request.policy
      (!call.request.dryRun) = .ok parsed →
        ChangeKeeps G h.durable.policies call.request.operation parsed)
    (hs : G h.durable.policies) : G (h.step call).durable.policies := by
  change G (executeRequest call.setting call.request (h.world call)).2.durable.policies
  unfold executeRequest
  split
  · exact hs
  · rcases loadState_eq (h.world call) with hload | ⟨e, hload⟩
    · rw [Action.bind_of_ok (Action.mapError_of_ok Failure.load hload)]
      exact (serveLoaded_writes hG hs hchange (h.world call)).1 hs
    · rw [Action.bind_of_error (Action.mapError_of_error Failure.load hload)]
      exact hs

end Kept

/-! ### Where a change puts a policy -/

/-- The position `findPolicy` returns splits the list at a policy with the id. -/
theorem findPolicy_split {policies : List Policy} {id : String} {index : Nat}
    (h : findPolicy policies id = some index) :
    ∃ before p after, policies = before ++ p :: after ∧ before.length = index ∧ p.id = id := by
  obtain ⟨hlt, hp, -⟩ := List.findIdx?_eq_some_iff_getElem.mp h
  refine ⟨policies.take index, policies[index], policies.drop (index + 1), ?_, ?_,
    by simpa using hp⟩
  · rw [List.getElem_cons_drop, List.take_append_drop]
  · simp [hlt.le]

theorem modify_split (f : Policy → Policy) (before after : List Policy) (p : Policy) :
    (before ++ p :: after).modify before.length f = before ++ f p :: after := by
  rw [List.modify_eq_take_cons_drop (by simp)]
  simp

/-- What a change makes of the policies: it leaves them, adds the parsed policy
where none has its id, or replaces or removes one that has. -/
theorem desiredPolicies_cases {policies policies' : List Policy} {operation : Operation}
    {parsed : Policy} {clock : Int}
    (h : desiredPolicies policies operation parsed clock = .ok policies') :
    policies' = policies ∨
    (operation = .apply ∧ (∀ q ∈ policies, q.id ≠ parsed.id) ∧ policies.length < maxPolicies ∧
      (∀ q ∈ policies, overlaps parsed q = false) ∧
      policies' = policies ++ [{ parsed with periodStarted := clock }]) ∨
    ∃ before p after, policies = before ++ p :: after ∧ p.id = parsed.id ∧
      (operation = .apply ∧ policies' = before ++ carryOver p parsed :: after ∨
        operation = .remove ∧ policies' = before ++ after ∨
        operation = .reset ∧ policies' = before ++ startPeriod clock parsed p :: after) := by
  cases hfind : findPolicy policies parsed.id with
  | none =>
      have hid : ∀ q ∈ policies, q.id ≠ parsed.id := by
        simpa [findPolicy, List.findIdx?_eq_none_iff] using hfind
      cases operation with
      | apply =>
          simp only [desiredPolicies, hfind] at h
          split_ifs at h with hlimit hany
          refine .inr (.inl ⟨rfl, hid, by omega, fun q hq => ?_, by simpa using h.symm⟩)
          exact Bool.eq_false_of_not_eq_true (List.any_eq_false.mp (by simpa using hany) q hq)
      | reset => simp [desiredPolicies, hfind] at h
      | remove =>
          simp only [desiredPolicies, hfind, Except.ok.injEq] at h
          exact .inl h.symm
      | snapshot | purge =>
          simp only [desiredPolicies, Except.ok.injEq] at h
          exact .inl h.symm
  | some index =>
      obtain ⟨before, p, after, rfl, rfl, hp⟩ := findPolicy_split hfind
      cases operation with
      | apply =>
          simp only [desiredPolicies, hfind, modify_split, Except.ok.injEq] at h
          exact .inr (.inr ⟨before, p, after, rfl, hp, .inl ⟨rfl, h.symm⟩⟩)
      | remove =>
          simp only [desiredPolicies, hfind, Except.ok.injEq] at h
          rw [List.eraseIdx_append_of_length_le le_rfl] at h
          exact .inr (.inr ⟨before, p, after, rfl, hp, .inr (.inl ⟨rfl, by simpa using h.symm⟩)⟩)
      | reset =>
          simp only [desiredPolicies, hfind, modify_split, Except.ok.injEq] at h
          exact .inr (.inr ⟨before, p, after, rfl, hp, .inr (.inr ⟨rfl, h.symm⟩)⟩)
      | snapshot | purge =>
          simp only [desiredPolicies, Except.ok.injEq] at h
          exact .inl h.symm

end VpsGuardian.NetHelper
