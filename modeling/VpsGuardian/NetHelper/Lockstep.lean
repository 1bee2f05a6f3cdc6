import VpsGuardian.Lib.Lockstep
import VpsGuardian.NetHelper.Durable

/-!
The network commands in two worlds at once.

No command reads the durable file, and a snapshot reads no more of it than the
policies. So two helpers whose files have the same policies report the same
snapshots for ever, whatever nonces they have stored.
-/

namespace VpsGuardian.NetHelper

open Lib

/-- A relation of worlds that the commands and the map iterations respect. -/
structure Inseparable (R : World → World → Prop) : Prop where
  commands : ∀ c, Action.Respects R (runCommand c)
  orders : ∀ keys, Action.Respects R (rangeKeys keys)

section Respects

variable {R : World → World → Prop} (hR : Inseparable R)
include hR

theorem tableExists_respects : Action.Respects R tableExists := by
  refine .bind (hR.commands _).attempt fun r => ?_
  cases r <;> exact .pure rfl

theorem readCounters_respects : Action.Respects R readCounters := by
  refine .bind (hR.commands _) fun r => ?_
  cases r with
  | ruleset => exact .pure rfl
  | text | qdiscs => exact .throw _

theorem showQdisc_respects (name : String) : Action.Respects R (showQdisc name) := by
  refine .bind (hR.commands _) fun r => ?_
  cases r <;> exact .pure rfl

theorem readShapingStates_respects (current : State) :
    Action.Respects R (readShapingStates current) := by
  refine .bind (hR.orders _) fun names => ?_
  refine .bind (.collect (fun name => ?_) names) fun _ => .pure rfl
  refine Action.Respects.bind (showQdisc_respects hR name).attempt fun r => ?_
  cases r <;> exact .pure rfl

theorem refuseForeignQdisc_respects (name : String) :
    Action.Respects R (refuseForeignQdisc name) := by
  unfold refuseForeignQdisc
  split
  · exact .throw _
  · refine .bind ((showQdisc_respects hR name).mapError _) fun output => ?_
    split
    · exact .pure rfl
    · exact .throw _

theorem preflightTCOwnership_respects (before desired : State) :
    Action.Respects R (preflightTCOwnership before desired) :=
  .bind (hR.orders _) fun names => .forEach (refuseForeignQdisc_respects hR) names

theorem runTC_respects (arguments : List String) : Action.Respects R (runTC arguments) :=
  .bind (hR.commands _) fun _ => .pure rfl

theorem shapePolicy_respects (name : String) (entry : Policy × Nat) :
    Action.Respects R (shapePolicy name entry) :=
  .bind (runTC_respects hR _) fun _ => .forEach (runTC_respects hR) _

theorem shapeInterface_respects (desired : State) (name : String) :
    Action.Respects R (shapeInterface desired name) := by
  refine .bind (refuseForeignQdisc_respects hR name) fun _ => ?_
  dsimp only
  split
  · exact (runTC_respects hR _).ignore
  · refine .bind (runTC_respects hR _) fun _ => .bind (runTC_respects hR _) fun _ => ?_
    exact .forEach (shapePolicy_respects hR name) _

theorem applyTC_respects (before desired : State) : Action.Respects R (applyTC before desired) :=
  .bind (hR.orders _) fun names => .forEach (shapeInterface_respects hR desired) names

theorem verifyTable_respects (desired : State) : Action.Respects R (verifyTable desired) := by
  refine .bind (tableExists_respects hR) fun existing => ?_
  split
  · split
    · exact .throw _
    · exact .pure rfl
  · split
    · refine .bind ((readCounters_respects hR).mapError _) fun counters => ?_
      split
      · exact .pure rfl
      · exact .throw _
    · exact .throw _

theorem verifyInterface_respects (desired : State) (name : String) :
    Action.Respects R (verifyInterface desired name) := by
  refine .bind ((showQdisc_respects hR name).mapError _) fun output => ?_
  dsimp only
  split
  · exact .pure rfl
  · exact .throw _

theorem verifyNetwork_respects (before desired : State) :
    Action.Respects R (verifyNetwork before desired) := by
  refine .bind (verifyTable_respects hR desired) fun _ => ?_
  exact .bind (hR.orders _) fun names => .forEach (verifyInterface_respects hR desired) names

theorem runTransaction_respects (script : List Statement) :
    Action.Respects R (runTransaction script) := by
  unfold runTransaction
  split
  · exact .pure rfl
  · exact .bind (hR.commands _) fun _ => .pure rfl

theorem rollback_respects (before desired : State) :
    Action.Respects R (rollback before desired) :=
  .bind (runTransaction_respects hR _).ignore fun _ => (applyTC_respects hR _ _).ignore

theorem applyNetwork_respects (before desired : State) :
    Action.Respects R (applyNetwork before desired) := by
  refine .bind (preflightTCOwnership_respects hR _ _) fun _ => ?_
  refine .bind (tableExists_respects hR) fun existing => ?_
  refine .bind (runTransaction_respects hR _) fun _ => ?_
  refine .bind (applyTC_respects hR _ _).attempt fun r => ?_
  cases r with
  | error e => exact .bind (rollback_respects hR _ _) fun _ => .throw _
  | ok _ =>
      refine .bind (verifyNetwork_respects hR _ _).attempt fun r => ?_
      cases r with
      | error e => exact .bind (rollback_respects hR _ _) fun _ => .throw _
      | ok _ => exact .pure rfl

/-- A snapshot reports the same from states with the same policies, leaves the same policies,
and keeps the nonces of each. -/
theorem snapshot_relates {current current' : State} (h : current.policies = current'.policies) :
    Action.Relates R (fun r r' => r.1 = r'.1 ∧ r.2.policies = r'.2.policies ∧
      r.2.completedNonce = current.completedNonce ∧
        r'.2.completedNonce = current'.completedNonce) (snapshot current) (snapshot current') := by
  obtain ⟨policies, nonces⟩ := current
  obtain ⟨_, nonces'⟩ := current'
  obtain rfl : policies = _ := h
  have hsettle : Action.Relates R (fun r r' => (∃ settled, r.1 = ⟨settled, nonces⟩ ∧
      r'.1 = ⟨settled, nonces'⟩) ∧ r.2 = r'.2)
      (settle ⟨policies, nonces⟩) (settle ⟨policies, nonces'⟩) := by
    refine .bind (readCounters_respects hR) ?_
    rintro raw _ rfl
    refine .bind (verifyNetwork_respects hR _ _).attempt ?_
    rintro r _ rfl
    cases r with
    | ok _ => exact .pure ⟨⟨_, rfl, rfl⟩, rfl⟩
    | error e =>
        refine .bind (applyNetwork_respects hR _ _).attempt ?_
        rintro restored _ rfl
        refine .bind (readCounters_respects hR) ?_
        rintro raw' _ rfl
        exact .pure ⟨⟨_, rfl, rfl⟩, rfl⟩
  refine .bind hsettle ?_
  rintro ⟨_, raw, restored⟩ ⟨_, _⟩ ⟨⟨settled, rfl, rfl⟩, rfl⟩
  refine .bind (readShapingStates_respects hR _) ?_
  rintro shapingStates _ rfl
  exact .pure ⟨rfl, rfl, rfl, rfl⟩

end Respects

/-! ### Files with the same policies -/

/-- Two states that load and that a snapshot cannot tell apart. -/
structure State.Alike (s s' : State) : Prop where
  policies : s.policies = s'.policies
  loads : s.completedNonce.size ≤ 4096
  loads' : s'.completedNonce.size ≤ 4096

/-- The same world around such a file. -/
def World.Alike (w w' : World) : Prop :=
  w' = { w with durable := w'.durable } ∧ w.durable.Alike w'.durable

theorem runCommand_file (c : Command) (w : World) (durable : State) :
    runCommand c { w with durable } =
      ((runCommand c w).1, { (runCommand c w).2 with durable }) := by
  have htick : ({ w with durable } : World).tick = w.tick := rfl
  unfold runCommand
  rw [htick]
  cases w.tick.fails with
  | true => rfl
  | false => cases c <;> rfl

theorem rangeKeys_file (keys : List String) (w : World) (durable : State) :
    rangeKeys keys { w with durable } =
      ((rangeKeys keys w).1, { (rangeKeys keys w).2 with durable }) := by
  obtain ⟨kernel, file, ticks, orders, writes⟩ := w
  unfold rangeKeys
  cases orders <;> rfl

theorem alike_inseparable : Inseparable World.Alike where
  commands c := by
    intro w w' h
    have hfile := (runCommand_evolves c w).1.durable
    rw [h.1, runCommand_file c w w'.durable]
    exact ⟨.refl _, rfl, hfile ▸ h.2⟩
  orders keys := by
    intro w w' h
    have hfile := (rangeKeys_evolves keys w).1.durable
    rw [h.1, rangeKeys_file keys w w'.durable]
    exact ⟨.refl _, rfl, hfile ▸ h.2⟩

theorem loadState_alike : Action.Relates World.Alike State.Alike loadState loadState := by
  intro w w' h
  have hpolicies := h.2.policies
  have hloads := not_lt.mpr h.2.loads
  have hloads' := not_lt.mpr h.2.loads'
  refine ⟨?_, ?_⟩
  · unfold loadState
    rw [if_neg hloads, if_neg hloads', hpolicies]
    split
    · rfl
    · exact h.2
  · rcases loadState_eq w with hleft | ⟨e, hleft⟩ <;>
      rcases loadState_eq w' with hright | ⟨e', hright⟩ <;> rw [hleft, hright] <;> exact h

theorem writeState_alike {s s' : State} (h : s.Alike s') :
    Action.Relates World.Alike Eq (writeState s) (writeState s') := by
  intro w w' hw
  have hwrites : w'.writes = w.writes := by rw [hw.1]
  unfold writeState
  rw [hwrites]
  split
  · exact ⟨rfl, by rw [hw.1], h⟩
  · exact ⟨rfl, by rw [hw.1], hw.2⟩

theorem executeRequest_alike (setting : Setting) {request : Request}
    (hop : request.operation = .snapshot) :
    Action.Relates World.Alike Eq (executeRequest setting request)
      (executeRequest setting request) := by
  unfold executeRequest
  split
  · exact .throw _
  · refine .bind (loadState_alike.mapError _) fun current current' halike => ?_
    unfold serveLoaded
    rw [hop]
    refine .bind ((snapshot_relates alike_inseparable halike.policies).mapError _) ?_
    rintro ⟨response, checkpoint⟩ ⟨_, checkpoint'⟩ ⟨rfl, hpolicies, hnonces, hnonces'⟩
    have hcheckpoint : checkpoint.Alike checkpoint' :=
      ⟨hpolicies, hnonces ▸ halike.loads, hnonces' ▸ halike.loads'⟩
    exact .bind ((writeState_alike hcheckpoint).mapError _) fun _ _ _ => .pure rfl

/-- Helpers in the same kernel with such files. -/
def Helper.Alike (h h' : Helper) : Prop := h.kernel = h'.kernel ∧ h.durable.Alike h'.durable

/-- A snapshot request has the same outcome on both, and leaves them alike. -/
theorem Helper.Alike.serve {h h' : Helper} (halike : h.Alike h') {call : Call}
    (hop : call.request.operation = .snapshot) :
    (h.serve call).1 = (h'.serve call).1 ∧ (h.step call).Alike (h'.step call) := by
  have hworld : (h.world call).Alike (h'.world call) := by
    refine ⟨?_, halike.2⟩
    unfold Helper.world
    rw [halike.1]
  obtain ⟨hresult, hstate, hfiles⟩ := executeRequest_alike call.setting hop _ _ hworld
  exact ⟨hresult.eq, (congrArg World.kernel hstate).symm, hfiles⟩

end VpsGuardian.NetHelper
