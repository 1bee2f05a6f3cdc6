import VpsGuardian.NetHelper.Authorization
import VpsGuardian.NetHelper.Network

/-!
The helper's operations (`agent/nethelper/main.go` and `store.go`).

A call is served in one piece, under the lock: it loads the durable state, runs
its commands and writes the state back. What the environment decides (times,
failures, growth of the counters) is part of the call.
-/

namespace VpsGuardian.NetHelper

open Lib

structure Observation where
  policyID : String
  rxBytesTotal : Int64
  txBytesTotal : Int64
  combinedBytesTotal : Int64
  currentPeriodRX : Int64
  currentPeriodTX : Int64
  currentPeriodTotal : Int64
  quotaBytes : Option Int64
  resetPolicy : String
  currentPeriodStart : Option Int
  nextResetAt : Option String
  lastResetAt : Option Int
  counterGeneration : Int64
  runtimeRuleState : String
  shapingState : String
  currentEgressRateBPS : Option Int
  discontinuityReason : Option String
  deriving DecidableEq

structure Response where
  generation : Int64
  observations : List Observation
  deriving DecidableEq

/-- Where a request ended, with the error of the source. -/
inductive Failure where
  | lock
  | load (message : String)
  | trust
  | authorization (message : String)
  | policy (message : String)
  | counters (message : String)
  | desired (message : String)
  | network (message : String)
  | commit (message : String)
  deriving DecidableEq

/-! ### The desired state -/

def findPolicy (items : List Policy) (id : String) : Option Nat :=
  items.findIdx? fun p => p.id = id

def overlaps (left right : Policy) : Bool :=
  let protocolOverlap := left.protocol = .both ∨ right.protocol = .both ∨
    left.protocol = right.protocol
  protocolOverlap ∧ left.portStart ≤ right.portEnd ∧ right.portStart ≤ left.portEnd

/-- A requested policy in place of an owned one: the accounting and the
generation stay. -/
def carryOver (existing parsed : Policy) : Policy :=
  { parsed with
    lifetimeRX := existing.lifetimeRX
    lifetimeTX := existing.lifetimeTX
    periodStartRX := existing.periodStartRX
    periodStartTX := existing.periodStartTX
    periodStarted := existing.periodStarted
    lastResetAt := existing.lastResetAt
    generation := existing.generation }

/-- An owned policy at the start of a new period. -/
def startPeriod (clock : Int) (parsed existing : Policy) : Policy :=
  { existing with
    periodStartRX := existing.lifetimeRX
    periodStartTX := existing.lifetimeTX
    periodStarted := clock
    lastResetAt := clock
    resetPolicy := parsed.resetPolicy
    nextResetAt := parsed.nextResetAt
    generation := existing.generation + 1 }

/-- The policies after a request, where `clock` is the time of the change. -/
def desiredPolicies (policies : List Policy) (operation : Operation) (parsed : Policy)
    (clock : Int) : Except String (List Policy) :=
  match operation, findPolicy policies parsed.id with
  | .apply, none =>
      if maxPolicies ≤ policies.length then .error "policy limit reached"
      else if policies.any (overlaps parsed) then .error "policy overlaps an owned rule"
      else .ok (policies ++ [{ parsed with periodStarted := clock }])
  | .apply, some index => .ok (policies.modify index fun existing => carryOver existing parsed)
  | .remove, none => .ok policies
  | .remove, some index => .ok (policies.eraseIdx index)
  | .reset, none => .error "policy does not exist"
  | .reset, some index => .ok (policies.modify index (startPeriod clock parsed))
  | _, _ => .ok policies

/-- The generation a request reports: the policy's own where it is still owned. -/
def reportedGeneration (policies : List Policy) (parsed : Policy) : Int64 :=
  match policies.find? fun p => p.id = parsed.id with
  | some p => p.generation
  | none => parsed.generation

def desiredState (current : State) (operation : Operation) (parsed : Policy) (clock : Int) :
    Except String (State × Int64) :=
  match desiredPolicies current.policies operation parsed clock with
  | .error e => .error e
  | .ok policies => .ok ({ current with policies }, reportedGeneration policies parsed)

/-! ### Snapshots -/

/-- Whether a reading has the counter of a policy in one direction. A direction
the policy does not count is never missed. -/
def isPresent (raw : Reading) (p : Policy) (side : Side) : Bool :=
  (raw (counterName side p.id)).isSome || !p.counts side

/-- The checkpoint of one policy from a reading of the counters. -/
def checkpointPolicy (raw : Reading) (p : Policy) : Policy :=
  let rawRX := (raw (policyKey p.id ++ "_rx")).getD 0
  let rawTX := (raw (policyKey p.id ++ "_tx")).getD 0
  let countsRX := isPresent raw p .rx ∧ p.lastKernelRX ≤ rawRX
  let countsTX := isPresent raw p .tx ∧ p.lastKernelTX ≤ rawTX
  { p with
    lifetimeRX :=
      if countsRX then p.lifetimeRX + (rawRX - p.lastKernelRX) else p.lifetimeRX
    lastKernelRX := if countsRX then rawRX else p.lastKernelRX
    lifetimeTX :=
      if countsTX then p.lifetimeTX + (rawTX - p.lastKernelTX) else p.lifetimeTX
    lastKernelTX := if countsTX then rawTX else p.lastKernelTX }

/-- A Unix time as it is reported; there is none before the first one is set. -/
def unixTimestamp (value : Int) : Option Int := if value ≤ 0 then none else some value

def optionalString (value : String) : Option String := if value = "" then none else some value

/-- The observation of a policy whose checkpoint was taken from `raw`. -/
def observe (raw : Reading) (restored : Bool) (shaping : String) (item : Policy) :
    Observation :=
  let missing := !(isPresent raw item .rx && isPresent raw item .tx)
  let periodRX := item.lifetimeRX - item.periodStartRX
  let periodTX := item.lifetimeTX - item.periodStartTX
  { policyID := item.id
    rxBytesTotal := item.lifetimeRX
    txBytesTotal := item.lifetimeTX
    combinedBytesTotal := item.lifetimeRX + item.lifetimeTX
    currentPeriodRX := periodRX
    currentPeriodTX := periodTX
    currentPeriodTotal := periodRX + periodTX
    quotaBytes := if 0 < item.quotaBytes then some item.quotaBytes else none
    resetPolicy :=
      if (Json.parse item.resetPolicy).isSome then item.resetPolicy
      else "\x7b\"type\":\"manual\"\x7d"
    currentPeriodStart := unixTimestamp item.periodStarted
    nextResetAt := optionalString item.nextResetAt
    lastResetAt := unixTimestamp item.lastResetAt
    counterGeneration := item.generation
    runtimeRuleState := if restored then "active" else if missing then "missing" else "active"
    shapingState := shaping
    currentEgressRateBPS := if 0 < item.egressRateBPS then some item.egressRateBPS else none
    discontinuityReason :=
      if restored then some "rule_restore" else if missing then some "rule_missing" else none }

/-- The state and the reading a snapshot reports from, and whether it restored
the rules on the way. -/
def settle (current : State) : Action World String (State × Reading × Bool) := do
  let raw ← readCounters
  match ← (verifyNetwork current current).attempt with
  | .ok _ => pure (current, raw, false)
  | .error _ =>
      -- absorbed before the restoring transaction, which may recreate the counters
      let absorbed := absorbCounters current raw
      let restored ← (applyNetwork absorbed absorbed).attempt
      let raw ← readCounters
      pure (absorbed, raw, restored.isOk)

def snapshot (current : State) : Action World String (Response × State) := do
  let (current, raw, restored) ← settle current
  let shapingStates ← readShapingStates current
  let policies := current.policies.map (checkpointPolicy raw)
  let observations := policies.map fun item =>
    observe raw restored ((shapingStates.lookup item.id).getD "") item
  pure (⟨0, observations⟩, { current with policies })

/-! ### Serving a request -/

def loadState : Action World String State := fun w =>
  if maxPolicies < w.durable.policies.length then
    (.error "helper state exceeds policy limit", w)
  else if 4096 < w.durable.completedNonce.size then
    (.error "helper nonce state exceeds limit", w)
  else (.ok w.durable, w)

/-- Loading changes nothing, and gives the durable state where it succeeds. -/
theorem loadState_eq (w : World) :
    loadState w = (.ok w.durable, w) ∨ ∃ e, loadState w = (.error e, w) := by
  unfold loadState
  split
  · exact .inr ⟨_, rfl⟩
  · split
    · exact .inr ⟨_, rfl⟩
    · exact .inl rfl

/-- The file is replaced in one rename, so a failed write leaves the old one. -/
def writeState (s : State) : Action World String Unit := fun w =>
  if w.writes.headD true then (.ok (), { w with durable := s, writes := w.writes.tail })
  else (.error "write failed", { w with writes := w.writes.tail })

/-- What the environment decides about a call besides its commands. -/
structure Setting where
  locked : Bool
  trust : Option Trust
  interfaceExists : String → Bool
  now : Int
  clock : Int

/-- The counters to absorb before a change, none while there is no table. -/
def readBaseline (current : State) : Action World String State := do
  if ← tableExists then
    let raw ← readCounters
    pure (absorbCounters current raw)
  else pure (absorbCounters current fun _ => none)

/-- Applies a change and commits it, or rolls it back when the state cannot be
written. -/
def commitChange (baseline desired : State) : Action World Failure Unit := do
  (applyNetwork baseline desired).mapError .network
  match ← (writeState desired).attempt with
  | .ok _ => pure ()
  | .error _ => do
      (applyNetwork desired baseline).ignore
      (writeState baseline).ignore
      Action.throw (.commit "state commit failed; network state rolled back")

def serveSnapshot (current : State) : Action World Failure Response := do
  let (result, checkpoint) ← (snapshot current).mapError .counters
  (writeState checkpoint).mapError fun _ => .commit "counter checkpoint could not be committed"
  pure result

def servePurge (dryRun : Bool) (current : State) : Action World Failure Response := do
  let baseline ← (readBaseline current).mapError .counters
  if dryRun then pure ⟨0, []⟩
  else do
    commitChange baseline .initial
    pure ⟨0, []⟩

/-- A request that carries its own authorization. The map of consumed nonces is
shared between the baseline and the desired state, so both have the new one. -/
def serveAuthorized (setting : Setting) (request : Request) (auth : Authorization)
    (parsed : Policy) (current : State) : Action World Failure Response := do
  let baseline ← (readBaseline current).mapError .counters
  match desiredState baseline request.operation parsed setting.clock with
  | .error e => Action.throw (.desired e)
  | .ok (desired, generation) => do
      let completedNonce :=
        consumeNonce current.completedNonce auth.nonce auth.expiresAt setting.now
      if request.dryRun then do
        (writeState { baseline with completedNonce }).mapError
          fun _ => .commit "authorization nonce could not be committed"
        pure ⟨generation, []⟩
      else do
        commitChange { baseline with completedNonce } { desired with completedNonce }
        pure ⟨generation, []⟩

/-- What is done under the lock with the state that was loaded. -/
def serveLoaded (setting : Setting) (request : Request) (current : State) :
    Action World Failure Response :=
  match request.operation with
  | .snapshot => serveSnapshot current
  | .purge => servePurge request.dryRun current
  | _ =>
      match setting.trust with
      | none => Action.throw .trust
      | some trust =>
          match verifyAuthorization request trust current.completedNonce setting.now with
          | .error e => Action.throw (.authorization e)
          | .ok auth =>
              match parsePolicy setting.interfaceExists request.policy (!request.dryRun) with
              | .error e => Action.throw (.policy e)
              | .ok parsed => serveAuthorized setting request auth parsed current

def executeRequest (setting : Setting) (request : Request) : Action World Failure Response :=
  if setting.locked then Action.throw .lock
  else loadState.mapError .load >>= serveLoaded setting request

/-! ### The helper between calls -/

/-- What lasts from one call to the next. -/
structure Helper where
  kernel : Kernel
  durable : State

def Helper.initial : Helper := ⟨.empty, .initial⟩

/-- One call with everything the environment does during it. -/
structure Call where
  setting : Setting
  request : Request
  ticks : List Tick
  orders : List MapOrder
  writes : List Bool

def Helper.world (h : Helper) (call : Call) : World :=
  ⟨h.kernel, h.durable, call.ticks, call.orders, call.writes⟩

/-- The outcome of a call, and what it leaves behind. -/
def Helper.serve (h : Helper) (call : Call) : Except Failure Response × Helper :=
  let (result, w) := executeRequest call.setting call.request (h.world call)
  (result, ⟨w.kernel, w.durable⟩)

def Helper.step (h : Helper) (call : Call) : Helper := (h.serve call).2

end VpsGuardian.NetHelper
