import VpsGuardian.NetHelper.Accounting
import VpsGuardian.NetHelper.Overlap

/-!
A request that the network rejects loses no traffic, as long as none of its nft
transactions was accepted.

Such a request leaves the durable file, so the totals due before it are still
due if the counters are. An accepted transaction starts them at zero while the
file keeps the values last recorded, and the bytes in between are lost.
-/

namespace VpsGuardian.NetHelper

open Lib

/-! ### Recorded counter values are not negative -/

theorem parsePolicy_lastKernel {interfaceExists : String → Bool} {values : Dict String}
    {checkInterface : Bool} {p : Policy}
    (h : parsePolicy interfaceExists values checkInterface = .ok p) (side : Side) :
    p.lastKernel side = 0 := by
  simp only [parsePolicy, bind, Except.bind, pure, Except.pure, throw, throwThe,
    MonadExceptOf.throw] at h
  split at h
  · cases h
  · split at h
    · cases h
    · split at h
      · cases h
      · split at h
        · cases h
        · split at h
          · cases h
          · split at h
            · cases h
            · split at h
              · cases h
              · cases h
                cases side <;> rfl

def Baselines (policies : List Policy) : Prop :=
  ∀ p ∈ policies, ∀ side, 0 ≤ (p.lastKernel side).toInt

theorem baselines_closed : Closed Baselines where
  absorb policies raw _ p hp side := by
    obtain ⟨q, -, rfl⟩ := List.mem_map.mp hp
    rw [lastKernel_absorb]
    decide
  checkpoint policies raw hs p hp side := by
    obtain ⟨q, hq, rfl⟩ := List.mem_map.mp hp
    have hlast := hs q hq side
    rw [lastKernel_checkpoint]
    split_ifs with hcounts
    · exact hlast.trans (Int64.le_iff_toInt_le.mp hcounts.2)
    · exact hlast
  empty p hp := by simp at hp

theorem step_baselines (h : Helper) (call : Call) (hs : Baselines h.durable.policies) :
    Baselines (h.step call).durable.policies := by
  refine step_keeps baselines_closed (fun parsed hparsed raw clock policies' hpolicies' => ?_) hs
  have habsorbed := baselines_closed.absorb _ raw hs
  have hzero (side : Side) : 0 ≤ (parsed.lastKernel side).toInt := by
    rw [parsePolicy_lastKernel hparsed]
    decide
  obtain rfl | ⟨-, -, -, -, rfl⟩ | ⟨before, q, after, heq, -, hchange⟩ :=
    desiredPolicies_cases hpolicies'
  · exact habsorbed
  · intro p hp side
    rcases List.mem_append.mp hp with hp | hp
    · exact habsorbed p hp side
    · obtain rfl := List.mem_singleton.mp hp
      have hlast : Policy.lastKernel { parsed with periodStarted := clock } side =
          parsed.lastKernel side := by
        cases side <;> rfl
      exact hlast ▸ hzero side
  · rw [heq] at habsorbed
    have hkept : ∀ p ∈ before ++ after, ∀ side, 0 ≤ (p.lastKernel side).toInt := by
      intro p hp
      refine habsorbed p ?_
      rcases List.mem_append.mp hp with hp | hp <;> simp [hp]
    have hreplace (q' : Policy) (hq' : ∀ side, 0 ≤ (q'.lastKernel side).toInt) :
        Baselines (before ++ q' :: after) := by
      intro p hp
      rcases List.mem_append.mp hp with hp | hp
      · exact hkept p (by simp [hp])
      · rcases List.mem_cons.mp hp with rfl | hp
        · exact hq'
        · exact hkept p (by simp [hp])
    obtain ⟨-, rfl⟩ | ⟨-, rfl⟩ | ⟨-, rfl⟩ := hchange
    · refine hreplace _ fun side => ?_
      have hlast : (carryOver q parsed).lastKernel side = parsed.lastKernel side := by
        cases side <;> rfl
      exact hlast ▸ hzero side
    · exact hkept
    · refine hreplace _ fun side => ?_
      have hlast : (startPeriod clock parsed q).lastKernel side = q.lastKernel side := by
        cases side <;> rfl
      exact hlast ▸ habsorbed q (by simp) side

theorem reachable_baselines (history : List Call) :
    Baselines (run Helper.step Helper.initial history).durable.policies :=
  run_invariant_of_step (I := fun h : Helper => Baselines h.durable.policies) step_baselines
    baselines_closed.empty history

/-! ### A rejected request leaves the file -/

/-- When the network rejects the change, nothing has been written. -/
def RejectsUnwritten {α : Type} (m : Action World Failure α) : Prop :=
  ∀ w e, (m w).1 = .error (.network e) → w.Evolves (m w).2

namespace RejectsUnwritten

variable {α β : Type}

theorem of_evolves {m : Action World Failure α} (hm : OnlyEvolves m) : RejectsUnwritten m :=
  fun w _ _ => (hm w).1

theorem of_never {m : Action World Failure α} (hm : ∀ w e, (m w).1 ≠ .error (.network e)) :
    RejectsUnwritten m := fun w e he => absurd he (hm w e)

theorem bind {m : Action World Failure α} {f : α → Action World Failure β} (hm : OnlyEvolves m)
    (hf : ∀ a, RejectsUnwritten (f a)) : RejectsUnwritten (m >>= f) := by
  intro w e he
  have hfirst := (hm w).1
  rw [Action.bind_apply] at he ⊢
  rcases h : m w with ⟨e' | a, w'⟩
  · rw [h] at hfirst
    exact hfirst
  · rw [h] at he hfirst
    exact hfirst.trans _ _ _ (hf a w' e he)

theorem bind_pure {m : Action World Failure α} (hm : RejectsUnwritten m) (f : α → β) :
    RejectsUnwritten (m >>= fun a => pure (f a)) := by
  intro w e he
  rw [Action.bind_apply] at he ⊢
  rcases h : m w with ⟨e' | a, w'⟩
  · have hevolves := hm w e (by rw [h] at he ⊢; cases he; rfl)
    rwa [h] at hevolves
  · rw [h] at he
    cases he

end RejectsUnwritten

theorem writeState_rejects (s : State) (message : String) :
    RejectsUnwritten ((writeState s).mapError fun _ => Failure.commit message) := by
  refine .of_never fun w e => ?_
  rw [Action.mapError_apply]
  unfold writeState
  split <;> exact fun h => by cases h

theorem commitChange_rejects (baseline desired : State) :
    RejectsUnwritten (commitChange baseline desired) := by
  refine .bind ((applyNetwork_evolves _ _).mapError _) fun _ => .of_never fun w e => ?_
  rw [Action.bind_apply, Action.attempt_apply]
  cases (writeState desired w).1 <;> exact fun h => by cases h

theorem readBaseline_evolves (current : State) : OnlyEvolves (readBaseline current) :=
  Action.Ensures.mono (fun _ _ => trivial) (readBaseline_eq current)

theorem serveLoaded_rejects (setting : Setting) (request : Request) (current : State) :
    RejectsUnwritten (serveLoaded setting request current) := by
  unfold serveLoaded
  split
  · exact .bind ((snapshot_evolves current).mapError _) fun r =>
      (writeState_rejects _ _).bind_pure _
  · refine .bind ((readBaseline_evolves current).mapError _) fun baseline => ?_
    split
    · exact .of_evolves (.pure _)
    · exact (commitChange_rejects _ _).bind_pure _
  · split
    · exact .of_evolves (.throw _)
    · split
      · exact .of_evolves (.throw _)
      · split
        · exact .of_evolves (.throw _)
        · refine .bind ((readBaseline_evolves current).mapError _) fun baseline => ?_
          split
          · exact .of_evolves (.throw _)
          · dsimp only
            split
            · exact (writeState_rejects _ _).bind_pure _
            · exact (commitChange_rejects _ _).bind_pure _

theorem serve_rejects {h : Helper} {call : Call} {e : String}
    (he : (h.serve call).1 = .error (.network e)) :
    (h.serve call).2.durable = h.durable ∧ h.kernel.Evolves (h.serve call).2.kernel := by
  have hexecute : RejectsUnwritten (executeRequest call.setting call.request) := by
    unfold executeRequest
    split
    · exact .of_evolves (.throw _)
    · refine .bind (.mapError _ fun w => ⟨?_, fun _ _ => trivial⟩) fun current =>
        serveLoaded_rejects _ _ current
      rcases loadState_eq w with h | ⟨e, h⟩ <;> rw [h] <;> exact .refl w
  have hevolves := hexecute (h.world call) e he
  exact ⟨hevolves.durable, hevolves.kernel⟩

/-! ### What a snapshot reports -/

def Observation.total (o : Observation) : Side → Int64
  | .rx => o.rxBytesTotal
  | .tx => o.txBytesTotal

@[simp] theorem total_observe (raw : Reading) (restored : Bool) (shaping : String) (p : Policy)
    (side : Side) : (observe raw restored shaping p).total side = p.lifetime side := by
  cases side <;> rfl

/-- The counters of a policy survive the conversion through `float64`. -/
def countersExact (k : Kernel) (p : Policy) : Bool :=
  [Side.rx, Side.tx].all fun side => (rawCounter (k.bytes side p)).toInt = k.bytes side p

/-- The totals a reading leads to are `int64` values. -/
def totalsFit (k : Kernel) (p : Policy) : Bool :=
  [Side.rx, Side.tx].all fun side =>
    (p.lifetime side).toInt + ((rawCounter (k.bytes side p)).toInt - (p.lastKernel side).toInt) <
      2 ^ 63

theorem mem_sides (side : Side) : side ∈ [Side.rx, Side.tx] := by
  cases side <;> decide

theorem toInt_value {k : Kernel} {p : Policy} (hexact : countersExact k p = true) (side : Side) :
    (Reading.value (reading k.counters) side p).toInt = k.bytes side p := by
  rw [Reading.value_eq]
  exact of_decide_eq_true (List.all_eq_true.mp hexact side (mem_sides side))

section Reading

variable {k : Kernel} {p : Policy} (hfits : totalsFit k p = true)
include hfits

theorem toInt_counted {side : Side}
    (hle : p.lastKernel side ≤ Reading.value (reading k.counters) side p) :
    (p.lifetime side + (Reading.value (reading k.counters) side p - p.lastKernel side)).toInt =
      (p.lifetime side).toInt +
        ((rawCounter (k.bytes side p)).toInt - (p.lastKernel side).toInt) := by
  rw [Reading.value_eq] at hle ⊢
  exact toInt_advance_eq hle (of_decide_eq_true (List.all_eq_true.mp hfits side (mem_sides side)))

/-- A checkpoint never lowers a total. -/
theorem lifetime_le_checkpoint (side : Side) : (p.lifetime side).toInt ≤
    ((checkpointPolicy (reading k.counters) p).lifetime side).toInt := by
  rw [lifetime_checkpoint]
  split_ifs with hcounts
  · have hle := Int64.le_iff_toInt_le.mp hcounts.2
    rw [toInt_counted hfits hcounts.2]
    rw [Reading.value_eq] at hle
    omega
  · exact le_rfl

variable (hexact : countersExact k p = true)
include hexact

/-- Absorbing an exact reading records all that was due. -/
theorem due_le_absorb (side : Side) :
    (p.lifetime side).toInt + max 0 ((k.bytes side p : Int) - (p.lastKernel side).toInt) ≤
      ((absorbPolicy (reading k.counters) p).lifetime side).toInt := by
  have hvalue := toInt_value hexact side
  rw [lifetime_absorb]
  split_ifs with hcounts
  · have hle := Int64.le_iff_toInt_le.mp hcounts
    rw [toInt_counted hfits hcounts, ← Reading.value_eq, hvalue]
    omega
  · have hlt := mt Int64.le_iff_toInt_le.mpr hcounts
    omega

/-- And so does checkpointing it; where the counter is missing, nothing was due. -/
theorem due_le_checkpoint (hlast : ∀ side, 0 ≤ (p.lastKernel side).toInt) (side : Side) :
    (p.lifetime side).toInt + max 0 ((k.bytes side p : Int) - (p.lastKernel side).toInt) ≤
      ((checkpointPolicy (reading k.counters) p).lifetime side).toInt := by
  have hvalue := toInt_value hexact side
  have hlast' := hlast side
  rw [lifetime_checkpoint]
  split_ifs with hcounts
  · have hle := Int64.le_iff_toInt_le.mp hcounts.2
    rw [toInt_counted hfits hcounts.2, ← Reading.value_eq, hvalue]
    omega
  · by_cases hpresent : isPresent (reading k.counters) p side = true
    · have hlt := mt Int64.le_iff_toInt_le.mpr fun hle => hcounts ⟨hpresent, hle⟩
      omega
    · have hnone : k.counters (counterName side p.id) = none := by
        have hsome := (Bool.or_eq_false_iff.mp (Bool.eq_false_of_not_eq_true hpresent)).1
        rw [reading_counterName] at hsome
        simpa using hsome
      have hbytes : k.bytes side p = 0 := by simp [Kernel.bytes, Kernel.count, hnone]
      omega

end Reading

/-- The condition on a snapshot: its first reading is exact, and the totals stay
within `int64`. -/
def snapshotFits (current : State) (w : World) : Bool :=
  match readCounters w with
  | (.error _, _) => true
  | (.ok raw, w₁) =>
      current.policies.all (fun p => countersExact w₁.kernel p && totalsFit w₁.kernel p) &&
        match verifyNetwork current current w₁ with
        | (.ok _, _) => true
        | (.error _, w₂) =>
            let absorbed := absorbCounters current raw
            let w₃ := (applyNetwork absorbed absorbed w₂).2
            absorbed.policies.all (totalsFit (readCounters w₃).2.kernel)

/-- A snapshot reports at least what was due when it started. -/
theorem snapshot_reports {current checkpoint : State} {response : Response} {w w' : World}
    (h : snapshot current w = (.ok (response, checkpoint), w'))
    (hfits : snapshotFits current w = true) (hlast : Baselines current.policies) {i : Nat}
    {p : Policy} (hp : current.policies[i]? = some p) :
    ∃ o, response.observations[i]? = some o ∧ o.policyID = p.id ∧
      ∀ side, (p.lifetime side).toInt +
        max 0 ((w.kernel.bytes side p : Int) - (p.lastKernel side).toInt) ≤
          (o.total side).toInt := by
  obtain ⟨settled, raw, restored, w₃, hsettle, -, hpolicies, shaping, hobservations⟩ :=
    snapshot_cases h
  obtain ⟨raw₁, w₁, hread, hcases⟩ := settle_cases hsettle
  have hmem : p ∈ current.policies := List.mem_of_getElem? hp
  obtain ⟨hw₁, hraw₁⟩ := readCounters_ok hread
  -- the counters have not shrunk when they are read
  have hbytes (side : Side) : w.kernel.bytes side p ≤ w₁.kernel.bytes side p := by
    have hcount := (World.evolves_advance w).kernel.count_eq rfl (counterName side p.id)
    have hgrown := (World.evolves_advance w).kernel.grown (counterName side p.id)
    rw [hw₁]
    simp only [Kernel.bytes]
    omega
  unfold snapshotFits at hfits
  rw [hread] at hfits
  simp only [Bool.and_eq_true, List.all_eq_true] at hfits
  obtain ⟨hfirst, hsecond⟩ := hfits
  obtain ⟨hexact, htotals⟩ := hfirst p hmem
  rcases hcases with ⟨w₂, -, rfl, rfl, -⟩ | ⟨e, w₂, hverify, hsettled, hread'⟩
  · refine ⟨observe raw restored (shaping (checkpointPolicy raw p)) (checkpointPolicy raw p),
      by simp [hobservations, hpolicies, hp], rfl, fun side => ?_⟩
    have hdue := due_le_checkpoint htotals hexact (hlast p hmem) side
    have hle := hbytes side
    rw [total_observe, hraw₁]
    omega
  · let a := absorbPolicy raw₁ p
    have ha : a ∈ settled.policies := by
      rw [hsettled]
      exact List.mem_map_of_mem hmem
    refine ⟨observe raw restored (shaping (checkpointPolicy raw a)) (checkpointPolicy raw a),
      by simp [hobservations, hpolicies, hsettled, absorbCounters, hp, a], rfl, fun side => ?_⟩
    simp only [hverify, ← hsettled, hread', List.all_eq_true] at hsecond
    have habsorbed : _ ≤ ((absorbPolicy raw₁ p).lifetime side).toInt :=
      hraw₁ ▸ due_le_absorb htotals hexact side
    have hcheckpoint := lifetime_le_checkpoint (hsecond a ha) side
    have hle := hbytes side
    change _ ≤ (a.lifetime side).toInt at habsorbed
    rw [← (readCounters_ok hread').2] at hcheckpoint
    rw [total_observe]
    omega

/-! ### The totals after a rejected request -/

/-- What a counter of a policy gained since the transaction that last recreated
it, or since the earlier state when none was accepted in between. -/
def gainedSince (k k' : Kernel) (side : Side) (p : Policy) : Nat :=
  if k'.commits = k.commits then k'.grown (counterName side p.id) - k.grown (counterName side p.id)
  else k'.bytes side p

/-- The state in which the snapshot is requested: the counters grew since the
request failed. -/
def Helper.grow (h : Helper) (bytes : String → Nat) : Helper :=
  { h with kernel := h.kernel.grow bytes }

/-- The snapshot after a request reports, for every policy of the state before
it, the total that was due before the request and what was gained since. -/
def TotalsKept (h : Helper) (request : Call) (bytes : String → Nat) (later : Call) : Prop :=
  let after := (h.step request).grow bytes
  ∀ response, (after.serve later).1 = .ok response →
    ∀ (i : Nat) (p : Policy), h.durable.policies[i]? = some p →
      ∃ o, response.observations[i]? = some o ∧ o.policyID = p.id ∧
        ∀ side, (p.lifetime side).toInt +
          ((h.kernel.bytes side p : Int) - (p.lastKernel side).toInt) +
            gainedSince h.kernel after.kernel side p ≤ (o.total side).toInt

/-- None of the request's nft transactions is accepted, or the policies had no
byte in their counters. -/
def LosesNoBytes (h : Helper) (request : Call) : Prop :=
  (h.step request).kernel.commits = h.kernel.commits ∨
    ∀ p ∈ h.durable.policies, h.kernel.bytes .rx p = 0 ∧ h.kernel.bytes .tx p = 0

instance (h : Helper) (request : Call) : Decidable (LosesNoBytes h request) :=
  inferInstanceAs (Decidable (_ ∨ _))

/-- After every history, a request that the network rejects keeps the totals of
every policy under the condition. -/
theorem rejected_request_keeps_totals (history : List Call) (request : Call)
    (bytes : String → Nat) (later : Call) (e : String)
    (hrejected : ((run Helper.step Helper.initial history).serve request).1 =
      .error (.network e))
    (hloses : LosesNoBytes (run Helper.step Helper.initial history) request)
    (hlater : later.request.operation = .snapshot)
    (hfits : snapshotFits (run Helper.step Helper.initial history).durable
      ((((run Helper.step Helper.initial history).step request).grow bytes).world later) = true) :
    TotalsKept (run Helper.step Helper.initial history) request bytes later := by
  generalize hh : run Helper.step Helper.initial history = h at *
  have hlast : Baselines h.durable.policies := hh ▸ reachable_baselines history
  obtain ⟨hdurable, hkernel⟩ := serve_rejects hrejected
  let after := (h.step request).grow bytes
  have hevolves : h.kernel.Evolves after.kernel := hkernel.trans (Kernel.evolves_grow _ _)
  intro response hresponse i p hp
  rcases serve_snapshot_cases after later hlater with
    ⟨-, -, hnone⟩ | ⟨response', checkpoint, w', hsnapshot, hserve⟩
  · exact absurd hresponse (hnone response)
  · have hresponse' : response' = response := by
      have heq : (after.serve later).1 = .ok response := hresponse
      rw [hserve] at heq
      cases heq
      rfl
    rw [show after.durable = h.durable from hdurable, hresponse'] at hsnapshot
    obtain ⟨o, ho, hid, hreports⟩ := snapshot_reports hsnapshot hfits hlast hp
    refine ⟨o, ho, hid, fun side => ?_⟩
    have hdue := hreports side
    change _ + max 0 ((after.kernel.bytes side p : Int) - _) ≤ _ at hdue
    change _ + (gainedSince h.kernel after.kernel side p : Int) ≤ _
    unfold gainedSince
    split_ifs with hcommits
    · have hcount := hevolves.count_eq hcommits (counterName side p.id)
      have hgrown := hevolves.grown (counterName side p.id)
      simp only [Kernel.bytes] at hdue ⊢
      omega
    · have hzero : h.kernel.bytes side p = 0 := by
        rcases hloses with hsame | hzero
        · exact absurd hsame hcommits
        · have hboth := hzero p (List.mem_of_getElem? hp)
          cases side
          · exact hboth.1
          · exact hboth.2
      omega

/-- `bytes` are received on the port of the first policy. -/
def receives (bytes : Nat) : Tick :=
  ⟨fun name => if name = "vg_2d3880fe23f04bd3bca21eea349b2e2c_rx" then bytes else 0, false, some []⟩

def failingTick : Tick := ⟨fun _ => 0, true, none⟩

/-- A policy is applied, and a snapshot records sixty bytes; forty more follow. -/
def recordedHistory : List Call :=
  [quietCall (portRequest .apply firstPolicyID "443" "task-1"),
   snapshotCall [receives 60, receives 40]]

/-- A second policy, whose request sees the commands of `ticks` fail. -/
def secondPolicy (ticks : List Tick) : Call :=
  { quietCall (portRequest .apply secondPolicyID "80" "task-2") with ticks }

/-- The request whose verification fails after its transaction was accepted. -/
def rolledBackRequest : Call := secondPolicy [.quiet, .quiet, .quiet, .quiet, failingTick]

/-- The rollback recreates the counters, and the forty bytes are gone. -/
theorem rolled_back_request_loses_bytes :
    ((run Helper.step Helper.initial recordedHistory).serve rolledBackRequest).1 =
        .error (.network "owned nftables table is missing after apply") ∧
      ¬TotalsKept (run Helper.step Helper.initial recordedHistory) rolledBackRequest
        (fun _ => 0) (snapshotCall []) := by
  refine ⟨by decide +kernel, fun hkept => ?_⟩
  have hreported : (((((run Helper.step Helper.initial recordedHistory).step
      rolledBackRequest).grow fun _ => 0).serve (snapshotCall [])).1.toOption.map fun r =>
        r.observations.map (·.total .rx)) = some [60] := by
    decide +kernel
  have hdue : (run Helper.step Helper.initial recordedHistory).durable.policies.map (fun p =>
      (p.lifetime .rx, p.lastKernel .rx,
        (run Helper.step Helper.initial recordedHistory).kernel.bytes .rx p)) =
      [(60, 60, 100)] := by
    decide +kernel
  generalize run Helper.step Helper.initial recordedHistory = h at *
  unfold TotalsKept at hkept
  generalize (h.step rolledBackRequest).grow (fun _ => 0) = after at *
  cases hserve : (after.serve (snapshotCall [])).1 with
  | error e => simp [hserve, Except.toOption] at hreported
  | ok response =>
      obtain ⟨p, hp, hvalues⟩ := List.map_eq_singleton_iff.mp hdue
      obtain ⟨o, ho, -, hle⟩ := hkept response hserve 0 p (by rw [hp]; rfl)
      have htotal : o.total .rx = 60 := by
        have hlist : response.observations.map (·.total .rx) = [60] := by
          simpa [hserve, Except.toOption] using hreported
        obtain ⟨o', ho', htotal⟩ := List.map_eq_singleton_iff.mp hlist
        rw [ho'] at ho
        cases ho
        exact htotal
      have hrx := hle .rx
      simp only [Prod.mk.injEq] at hvalues
      obtain ⟨hlifetime, hlast, hbytes⟩ := hvalues
      rw [htotal, hlifetime, hlast, hbytes] at hrx
      have hsixty : (60 : Int64).toInt = 60 := by decide
      omega

/-- The same request, whose transaction is refused. -/
theorem rejected_request_keeps_totals_refused :
    TotalsKept (run Helper.step Helper.initial recordedHistory)
      (secondPolicy [.quiet, .quiet, .quiet, failingTick]) (fun _ => 0) (snapshotCall []) :=
  rejected_request_keeps_totals recordedHistory _ _ _ "nft failed" (by decide +kernel)
    (by decide +kernel) rfl (by decide +kernel)

end VpsGuardian.NetHelper
