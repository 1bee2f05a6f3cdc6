import VpsGuardian.NetHelper.Durable

/-!
What one snapshot reads, and what the reading adds to the totals.

A snapshot reads the counters; if the rules verify, that reading is the one it
checkpoints. Otherwise it absorbs the reading, tries to restore the rules, and
checkpoints a second reading.
-/

namespace VpsGuardian.NetHelper

open Lib

/-! ### Inversion -/

theorem readCounters_eq (w : World) :
    readCounters w =
      (if w.tick.fails then .error (Command.failure .listRuleset)
        else .ok (reading w.advance.kernel.counters), w.advance) := by
  unfold readCounters
  rw [Action.bind_apply]
  unfold runCommand
  cases w.tick.fails <;> rfl

theorem readCounters_ok {w w' : World} {raw : Reading} (h : readCounters w = (.ok raw, w')) :
    w' = w.advance ∧ raw = reading w'.kernel.counters := by
  rw [readCounters_eq] at h
  split at h
  · cases h
  · cases h
    exact ⟨rfl, rfl⟩

/-- How a snapshot settles on the state and the reading it reports from. -/
theorem settle_cases {current settled : State} {raw : Reading} {restored : Bool} {w w' : World}
    (h : settle current w = (.ok (settled, raw, restored), w')) :
    ∃ raw₁ w₁, readCounters w = (.ok raw₁, w₁) ∧
      ((∃ w₂, verifyNetwork current current w₁ = (.ok (), w₂) ∧
          settled = current ∧ raw = raw₁ ∧ w' = w₂) ∨
        ∃ e w₂, verifyNetwork current current w₁ = (.error e, w₂) ∧
          settled = absorbCounters current raw₁ ∧
          readCounters (applyNetwork settled settled w₂).2 = (.ok raw, w')) := by
  unfold settle at h
  rw [Action.bind_apply] at h
  rcases hread : readCounters w with ⟨e | raw₁, w₁⟩
  · rw [hread] at h
    cases h
  · refine ⟨raw₁, w₁, rfl, ?_⟩
    simp only [hread, Action.bind_apply, Action.attempt_apply] at h
    rcases hverify : verifyNetwork current current w₁ with ⟨e | u, w₂⟩
    · right
      refine ⟨e, w₂, rfl, ?_⟩
      simp only [hverify, Action.bind_apply, Action.attempt_apply] at h
      rcases hread' : readCounters
          (applyNetwork (absorbCounters current raw₁) (absorbCounters current raw₁) w₂).2 with
        ⟨e' | raw₂, w₃⟩
      · rw [hread'] at h
        cases h
      · simp only [hread'] at h
        cases h
        exact ⟨rfl, hread'⟩
    · left
      simp only [hverify] at h
      cases h
      exact ⟨w', rfl, rfl, rfl, rfl⟩

/-- A snapshot checkpoints the settled policies and observes exactly these. -/
theorem snapshot_cases {current checkpoint : State} {response : Response} {w w' : World}
    (h : snapshot current w = (.ok (response, checkpoint), w')) :
    ∃ settled raw restored w₁, settle current w = (.ok (settled, raw, restored), w₁) ∧
      w₁.Evolves w' ∧ checkpoint.policies = settled.policies.map (checkpointPolicy raw) ∧
      ∃ shaping : Policy → String, response.observations =
        checkpoint.policies.map fun item => observe raw restored (shaping item) item := by
  unfold snapshot at h
  rw [Action.bind_apply] at h
  rcases hsettle : settle current w with ⟨e | ⟨settled, raw, restored⟩, w₁⟩
  · rw [hsettle] at h
    cases h
  · refine ⟨settled, raw, restored, w₁, rfl, ?_⟩
    have hevolves := (readShapingStates_evolves settled w₁).1
    simp only [hsettle, Action.bind_apply] at h
    rcases hshaping : readShapingStates settled w₁ with ⟨e | states, w₂⟩
    · rw [hshaping] at h
      cases h
    · rw [hshaping] at h hevolves
      cases h
      exact ⟨hevolves, rfl, fun item => (states.lookup item.id).getD "", rfl⟩

/-- Serving a snapshot either leaves the durable state or replaces it by the
checkpoint, and it reports only in the second case. -/
theorem serveSnapshot_cases (current : State) (w : World) :
    (serveSnapshot current w).2.durable = w.durable ∧
        w.kernel.Evolves (serveSnapshot current w).2.kernel ∧
        (∀ response, (serveSnapshot current w).1 ≠ .ok response) ∨
      ∃ response checkpoint w', snapshot current w = (.ok (response, checkpoint), w') ∧
        (serveSnapshot current w).1 = .ok response ∧
        (serveSnapshot current w).2.durable = checkpoint ∧
        (serveSnapshot current w).2.kernel = w'.kernel := by
  have hevolves := (snapshot_evolves current w).1
  unfold serveSnapshot
  rw [Action.bind_apply, Action.mapError_apply]
  rcases hsnapshot : snapshot current w with ⟨e | ⟨response, checkpoint⟩, w'⟩
  · rw [hsnapshot] at hevolves
    exact .inl ⟨hevolves.durable, hevolves.kernel, fun _ h => by cases h⟩
  · rw [hsnapshot] at hevolves
    simp only [Except.mapError, Action.bind_apply, Action.mapError_apply, writeState]
    cases hwrite : w'.writes.headD true with
    | true => exact .inr ⟨response, checkpoint, w', rfl, rfl, rfl, rfl⟩
    | false => exact .inl ⟨hevolves.durable, hevolves.kernel, fun _ h => by cases h⟩

/-- A snapshot request leaves the durable state and reports nothing, or it
leaves the checkpoint it reports from. -/
theorem serve_snapshot_cases (h : Helper) (call : Call) (hop : call.request.operation = .snapshot) :
    (h.serve call).2.durable = h.durable ∧ h.kernel.Evolves (h.serve call).2.kernel ∧
        (∀ response, (h.serve call).1 ≠ .ok response) ∨
      ∃ response checkpoint w',
        snapshot h.durable (h.world call) = (.ok (response, checkpoint), w') ∧
        h.serve call = (.ok response, ⟨w'.kernel, checkpoint⟩) := by
  have hserve : h.serve call = ((executeRequest call.setting call.request (h.world call)).1,
      ⟨(executeRequest call.setting call.request (h.world call)).2.kernel,
        (executeRequest call.setting call.request (h.world call)).2.durable⟩) := rfl
  rw [executeRequest] at hserve
  split at hserve
  · rw [hserve]
    exact .inl ⟨rfl, .refl _, fun _ heq => by cases heq⟩
  · rcases loadState_eq (h.world call) with hload | ⟨e, hload⟩
    · rw [Action.bind_of_ok (Action.mapError_of_ok Failure.load hload), serveLoaded, hop] at hserve
      dsimp only at hserve
      rcases serveSnapshot_cases h.durable (h.world call) with
        ⟨hdurable, hkernel, hresult⟩ | ⟨response, checkpoint, w', hsnapshot, hresult, hdurable,
          hkernel⟩
      · rw [hserve]
        exact .inl ⟨hdurable, hkernel, hresult⟩
      · refine .inr ⟨response, checkpoint, w', hsnapshot, ?_⟩
        rw [hserve, ← hresult, ← hdurable, ← hkernel]
        rfl
    · rw [Action.bind_of_error (Action.mapError_of_error Failure.load hload)] at hserve
      rw [hserve]
      exact .inl ⟨rfl, .refl _, fun _ heq => by cases heq⟩

/-! ### What a reading adds -/

theorem toInt_advance_le (total : Int64) {last raw : Int64} (h : last ≤ raw) :
    (total + (raw - last)).toInt ≤ total.toInt + (raw.toInt - last.toInt) := by
  rw [Int64.toInt_add, Int64.toInt_sub]
  have hle := Int64.le_iff_toInt_le.mp h
  have htotal := total.le_toInt
  have htotal' := total.toInt_lt
  have hraw := raw.le_toInt
  have hraw' := raw.toInt_lt
  have hlast := last.le_toInt
  have hlast' := last.toInt_lt
  simp only [Int.bmod_def]
  omega

theorem toInt_advance_eq {total last raw : Int64} (h : last ≤ raw)
    (hfits : total.toInt + (raw.toInt - last.toInt) < 2 ^ 63) :
    (total + (raw - last)).toInt = total.toInt + (raw.toInt - last.toInt) := by
  rw [Int64.toInt_add, Int64.toInt_sub]
  have hle := Int64.le_iff_toInt_le.mp h
  have htotal := total.le_toInt
  have hraw := raw.le_toInt
  have hraw' := raw.toInt_lt
  have hlast := last.le_toInt
  have hlast' := last.toInt_lt
  simp only [Int.bmod_def]
  omega

/-- The value a reading has for a counter, zero when it is missing. -/
def Reading.value (raw : Reading) (side : Side) (p : Policy) : Int64 :=
  (raw (counterName side p.id)).getD 0

@[simp] theorem absorbPolicy_id (raw : Reading) (p : Policy) : (absorbPolicy raw p).id = p.id := rfl

@[simp] theorem checkpointPolicy_id (raw : Reading) (p : Policy) :
    (checkpointPolicy raw p).id = p.id := rfl

@[simp] theorem lastKernel_absorb (raw : Reading) (p : Policy) (side : Side) :
    (absorbPolicy raw p).lastKernel side = 0 := by
  cases side <;> rfl

theorem lifetime_absorb (raw : Reading) (p : Policy) (side : Side) :
    (absorbPolicy raw p).lifetime side =
      if p.lastKernel side ≤ raw.value side p then
        p.lifetime side + (raw.value side p - p.lastKernel side)
      else p.lifetime side := by
  cases side <;> rfl

theorem lifetime_checkpoint (raw : Reading) (p : Policy) (side : Side) :
    (checkpointPolicy raw p).lifetime side =
      if isPresent raw p side ∧ p.lastKernel side ≤ raw.value side p then
        p.lifetime side + (raw.value side p - p.lastKernel side)
      else p.lifetime side := by
  cases side <;> rfl

theorem lastKernel_checkpoint (raw : Reading) (p : Policy) (side : Side) :
    (checkpointPolicy raw p).lastKernel side =
      if isPresent raw p side ∧ p.lastKernel side ≤ raw.value side p then raw.value side p
      else p.lastKernel side := by
  cases side <;> rfl

/-- The kernel's count of a policy in one direction. -/
def Kernel.bytes (k : Kernel) (side : Side) (p : Policy) : Nat := k.count (counterName side p.id)

@[simp] theorem bytes_absorb (k : Kernel) (raw : Reading) (side : Side) (p : Policy) :
    k.bytes side (absorbPolicy raw p) = k.bytes side p := rfl

@[simp] theorem bytes_checkpoint (k : Kernel) (raw : Reading) (side : Side) (p : Policy) :
    k.bytes side (checkpointPolicy raw p) = k.bytes side p := rfl

/-- Every counter of a policy has a name the reading keeps. -/
theorem isOwnedName_counterName (side : Side) (id : String) :
    isOwnedName (counterName side id) = true := by
  simp [isOwnedName, counterName, policyKey, String.toList_append]

theorem reading_counterName (k : Kernel) (side : Side) (p : Policy) :
    reading k.counters (counterName side p.id) =
      (k.counters (counterName side p.id)).map rawCounter := by
  rw [reading, if_pos (isOwnedName_counterName side p.id)]

/-- A missing counter reads as zero, which is what it counts. -/
theorem Reading.value_eq (k : Kernel) (side : Side) (p : Policy) :
    Reading.value (reading k.counters) side p = rawCounter (k.bytes side p) := by
  rw [Reading.value, reading_counterName, Kernel.bytes, Kernel.count]
  cases k.counters (counterName side p.id) with
  | none => decide
  | some n => rfl

end VpsGuardian.NetHelper
