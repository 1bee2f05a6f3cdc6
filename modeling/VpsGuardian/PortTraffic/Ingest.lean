import VpsGuardian.Lib.Run
import VpsGuardian.PortTraffic.Records

/-!
Ingestion of the traffic observations of a heartbeat (`ingest_observations`).

An observation is compared with the latest stored sample of its policy only. It
is stored if it is later, and then both rollups are updated on their own. A call
comes with the policies it finds, which other requests may change between calls.
-/

namespace VpsGuardian.PortTraffic

open Lib
open Controller (Time seconds)

inductive Resolution
  | raw
  | hour
  | day
  deriving DecidableEq, Repr

def expectedSampleSeconds : Int := 60

/-- The length of a bucket. -/
def Resolution.length : Resolution → Time
  | .hour => seconds 3600
  | _ => seconds 86400

/-- `_bucket`, the start of the hour or of the day in UTC. -/
def bucket (value : Time) (resolution : Resolution) : Time :=
  value - value % resolution.length

/-- What the interval that ends in a sample adds to its buckets. -/
structure Interval where
  deltaRx : Nat
  deltaTx : Nat
  missing : Nat
  discontinuity : Bool
  validInterval : Bool
  deriving DecidableEq, Repr

def addInterval (interval : Interval) (row : Rollup) : Rollup :=
  { row with
    rxBytes := row.rxBytes + interval.deltaRx
    txBytes := row.txBytes + interval.deltaTx
    sampleCount := row.sampleCount + interval.validInterval.toNat
    missingIntervals := row.missingIntervals + interval.missing
    discontinuityCount := row.discontinuityCount + interval.discontinuity.toNat }

/-- `_update_rollup` on the table of one resolution. -/
def updateRollup (policy : Policy) (bucketStart : Time) (interval : Interval)
    (rows : List Rollup) : List Rollup :=
  let fresh : Rollup := ⟨policy.id, policy.hostID, bucketStart, 0, 0, 0, 0, 0⟩
  Ledger.post Rollup.key fresh (addInterval interval) rows

/-- The last `limit` samples of a policy, the latest first. -/
def recentSamples (samples : List Sample) (policyID : String) (limit : Nat) : List Sample :=
  ((samples.filter (·.policyID = policyID)).insertionSort
    fun a b => b.collectedAt ≤ a.collectedAt).take limit

/-- `int(total_seconds())` of the time from one sample to a later one. -/
def elapsedSeconds (earlier later : Time) : Int := (later - earlier) / seconds 1

def missingIntervals (earlier later : Time) : Nat :=
  (max 0 (max 0 (elapsedSeconds earlier later) / expectedSampleSeconds - 1)).toNat

/-- The sample an observation is stored as, with what its interval adds. -/
def judge (previous : Option Sample) (hostID : String) (collectedAt : Time)
    (observation : Observation) : Sample × Interval :=
  let stored (reason : Option Discontinuity) : Sample := {
    policyID := observation.policyID
    hostID
    collectedAt
    rxBytesTotal := observation.rxBytesTotal
    txBytesTotal := observation.txBytesTotal
    currentPeriodRx := observation.currentPeriodRx
    currentPeriodTx := observation.currentPeriodTx
    quotaBytes := observation.quotaBytes
    counterGeneration := observation.counterGeneration
    runtimeRuleState := observation.runtimeRuleState
    shapingState := observation.shapingState
    currentEgressRateBps := observation.currentEgressRateBps
    discontinuityReason := reason }
  match previous with
  | none =>
    let reason := observation.discontinuityReason
    (stored reason, ⟨0, 0, 0, reason.isSome, false⟩)
  | some previous =>
    let missing := missingIntervals previous.collectedAt collectedAt
    if observation.counterGeneration ≠ previous.counterGeneration then
      let reason := observation.discontinuityReason <|> some .counterReset
      (stored reason, ⟨0, 0, missing, reason.isSome, reason.isNone⟩)
    else if observation.rxBytesTotal < previous.rxBytesTotal ∨
        observation.txBytesTotal < previous.txBytesTotal then
      let reason := observation.discontinuityReason <|> some .counterWrap
      (stored reason, ⟨0, 0, missing, reason.isSome, reason.isNone⟩)
    else
      let reason := observation.discontinuityReason
      (stored reason, ⟨observation.rxBytesTotal - previous.rxBytesTotal,
        observation.txBytesTotal - previous.txBytesTotal, missing, reason.isSome,
        reason.isNone⟩)

/-- `int(statistics.median(…))` -/
def median (values : List Nat) : Nat :=
  let sorted := values.insertionSort (· ≤ ·)
  let half := sorted.length / 2
  if sorted.length % 2 = 1 then sorted.getD half 0
  else (sorted.getD (half - 1) 0 + sorted.getD half 0) / 2

/-- Whether an interval is far above the recent ones (`_traffic_spike`). -/
def trafficSpike (recent : List Sample) (deltaRx deltaTx : Nat) : Bool :=
  let intervals := (recent.zip recent.tail).filterMap fun (newer, older) =>
    if newer.counterGeneration = older.counterGeneration ∧
        older.rxBytesTotal ≤ newer.rxBytesTotal ∧ older.txBytesTotal ≤ newer.txBytesTotal then
      some (newer.rxBytesTotal - older.rxBytesTotal + (newer.txBytesTotal - older.txBytesTotal))
    else none
  if intervals.length < 3 then false
  else decide (max (10 * 1024 * 1024) (median intervals * 10) < deltaRx + deltaTx)

/-- What an observation does to the alerts of a policy: its quota usage, and
whether a source of one of its rules succeeded. -/
structure Alerts (ρ : Type) where
  observeQuota : Policy → (total : Nat) → (quota : Option Nat) → Time → ρ → ρ
  observe : Policy → (sourceType : String) → (success : Bool) → Time → ρ → ρ

/-- One call, with the rows of `port_traffic_policies` it finds. -/
structure Call where
  policies : List Policy
  hostID : String
  collectedAt : Time
  observations : List Observation

namespace Call

/-- The enabled policies of the host. -/
def hostPolicies (call : Call) : List Policy :=
  call.policies.filter fun policy => policy.hostID = call.hostID && policy.enabled

/-- `policies.get(observation.policy_id)` -/
def policyOf (call : Call) (policyID : String) : Option Policy :=
  call.hostPolicies.find? (·.id = policyID)

end Call

section Ingest

variable {ρ : Type} (alerts : Alerts ρ)

def observeRuntimeAlerts (policy : Policy) (ruleSuccess shapingSuccess : Bool) (now : Time)
    (rest : ρ) : ρ :=
  alerts.observe policy "port_traffic_shaping" shapingSuccess now
    (alerts.observe policy "port_traffic_runtime" ruleSuccess now rest)

/-- The alerts of a policy after a sample of it was stored. -/
def observeSample (policy : Policy) (observation : Observation) (recent : List Sample)
    (interval : Interval) (now : Time) (rest : ρ) : ρ :=
  let rest := alerts.observeQuota policy
    (observation.currentPeriodRx + observation.currentPeriodTx)
    (observation.quotaBytes <|> policy.quotaBytes) now rest
  let rest := observeRuntimeAlerts alerts policy (observation.runtimeRuleState = .active)
    (if policy.egressRateBps.isSome then observation.shapingState = .active
      else observation.shapingState = .disabled) now rest
  let rest := alerts.observe policy "port_traffic_spike"
    (!trafficSpike recent interval.deltaRx interval.deltaTx) now rest
  let rest := alerts.observe policy "port_traffic_enforcement"
    (policy.mode ≠ .enforcing || observation.runtimeRuleState = .active) now rest
  alerts.observe policy "port_traffic_snapshot_gap" true now rest

/-- The runtime state a stored sample leaves, from the one that was there. -/
def runtimeAfter (sample : Sample) (runtime : RuntimeState) : RuntimeState :=
  { runtime with
    runtimeRuleState := some sample.runtimeRuleState
    shapingState := sample.shapingState
    counterGeneration := sample.counterGeneration
    lastSampleAt := some sample.collectedAt
    restoreError :=
      if sample.runtimeRuleState = .error ∨ sample.runtimeRuleState = .missing then
        sample.discontinuityReason
      else none }

/-- The row `PortTrafficRuntimeState(policy_id=…)` starts as. -/
def freshRuntime (policyID : String) : RuntimeState where
  policyID
  runtimeRuleState := none
  shapingState := .disabled
  counterGeneration := 1
  lastSampleAt := none
  lastResetAt := none
  nextResetAt := none
  restoreError := none

/-- An accepted observation: the sample, both rollups, the runtime state and the alerts. -/
def store (policy : Policy) (call : Call) (observation : Observation) (recent : List Sample)
    (db : Db ρ) : Db ρ :=
  let (sample, interval) := judge recent.head? call.hostID call.collectedAt observation
  { samples := db.samples ++ [sample]
    hourly := updateRollup policy (bucket call.collectedAt .hour) interval db.hourly
    daily := updateRollup policy (bucket call.collectedAt .day) interval db.daily
    runtimes := Ledger.post RuntimeState.policyID (freshRuntime policy.id) (runtimeAfter sample)
      db.runtimes
    rest := observeSample alerts policy observation recent interval call.collectedAt db.rest }

/-- One round of the loop over the observations, with the policies observed so far. -/
def ingestObservation (call : Call) (state : Db ρ × List String) (observation : Observation) :
    Db ρ × List String :=
  let (db, observed) := state
  match call.policyOf observation.policyID with
  | none => (db, observed)
  | some policy =>
    let recent := recentSamples db.samples policy.id 11
    match recent.head? with
    | none => (store alerts policy call observation recent db, policy.id :: observed)
    | some previous =>
      if call.collectedAt = previous.collectedAt then (db, policy.id :: observed)
      else if call.collectedAt < previous.collectedAt then (db, observed)
      else (store alerts policy call observation recent db, policy.id :: observed)

/-- The alerts of a policy that no observation of the call was about. -/
def observeGap (call : Call) (observed : List String) (db : Db ρ) (policy : Policy) : Db ρ :=
  let lastSampleAt := (Table.lookup RuntimeState.policyID policy.id db.runtimes).bind
    (·.lastSampleAt)
  let isGap := lastSampleAt.all fun last =>
    seconds (expectedSampleSeconds * 3) < call.collectedAt - last
  if policy.id ∈ observed then db
  else if seconds (expectedSampleSeconds * 3) < call.collectedAt - policy.createdAt ∧ isGap then
    { db with
      rest := alerts.observe policy "port_traffic_snapshot_gap" false call.collectedAt
        (observeRuntimeAlerts alerts policy false policy.egressRateBps.isNone call.collectedAt
          db.rest) }
  else db

def ingestObservations (db : Db ρ) (call : Call) : Db ρ :=
  let (db, observed) := call.observations.foldl (ingestObservation alerts call) (db, [])
  call.hostPolicies.foldl (observeGap alerts call observed) db

end Ingest

end VpsGuardian.PortTraffic
