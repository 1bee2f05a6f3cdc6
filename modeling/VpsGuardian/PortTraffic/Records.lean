import VpsGuardian.Controller.Records
import VpsGuardian.Lib.Ledger

/-!
The rows of port traffic accounting: samples of the cumulative counters, the
rollups of an hour and of a day, and the last reported runtime state.

Totals are cumulative and start again when the generation of a counter changes.
A rollup row is identified by its policy and the start of its bucket.
-/

namespace VpsGuardian.PortTraffic

open Lib
open Controller (Time seconds)

inductive Discontinuity
  | agentRestart
  | systemRestart
  | counterReset
  | counterWrap
  | ruleRestore
  | ruleMissing
  deriving DecidableEq, Repr

inductive RuntimeRuleState
  | active
  | missing
  | inconsistent
  | error
  deriving DecidableEq, Repr

inductive ShapingState
  | disabled
  | active
  | inconsistent
  | error
  deriving DecidableEq, Repr

inductive Mode
  | monitorOnly
  | enforcing
  deriving DecidableEq, Repr

structure Policy where
  id : String
  hostID : String
  enabled : Bool
  mode : Mode
  quotaBytes : Option Nat
  egressRateBps : Option Nat
  createdAt : Time
  deriving DecidableEq

/-- What an Agent reports of one policy. -/
structure Observation where
  policyID : String
  rxBytesTotal : Nat
  txBytesTotal : Nat
  currentPeriodRx : Nat
  currentPeriodTx : Nat
  quotaBytes : Option Nat
  counterGeneration : Nat
  runtimeRuleState : RuntimeRuleState
  shapingState : ShapingState
  currentEgressRateBps : Option Nat
  discontinuityReason : Option Discontinuity
  deriving DecidableEq

structure Sample where
  policyID : String
  hostID : String
  collectedAt : Time
  rxBytesTotal : Nat
  txBytesTotal : Nat
  currentPeriodRx : Nat
  currentPeriodTx : Nat
  quotaBytes : Option Nat
  counterGeneration : Nat
  runtimeRuleState : RuntimeRuleState
  shapingState : ShapingState
  currentEgressRateBps : Option Nat
  discontinuityReason : Option Discontinuity
  deriving DecidableEq

/-- A row of `port_traffic_hourly_rollups` or `port_traffic_daily_rollups`. -/
structure Rollup where
  policyID : String
  hostID : String
  bucketStart : Time
  rxBytes : Nat
  txBytes : Nat
  sampleCount : Nat
  missingIntervals : Nat
  discontinuityCount : Nat
  deriving DecidableEq, Repr

namespace Rollup

/-- The columns with a unique constraint. -/
def key (row : Rollup) : String × Time := (row.policyID, row.bucketStart)

/-- The columns that are counted up. -/
inductive Column
  | rxBytes
  | txBytes
  | sampleCount
  | missingIntervals
  | discontinuityCount
  deriving DecidableEq, Repr

def amount (row : Rollup) : Column → Nat
  | .rxBytes => row.rxBytes
  | .txBytes => row.txBytes
  | .sampleCount => row.sampleCount
  | .missingIntervals => row.missingIntervals
  | .discontinuityCount => row.discontinuityCount

end Rollup

structure RuntimeState where
  policyID : String
  /-- `none` is `unknown`, the state before the first sample. -/
  runtimeRuleState : Option RuntimeRuleState
  shapingState : ShapingState
  counterGeneration : Nat
  lastSampleAt : Option Time
  lastResetAt : Option Time
  nextResetAt : Option Time
  restoreError : Option Discontinuity
  deriving DecidableEq

/-- The database, generic over its other tables. -/
structure Db (ρ : Type) where
  samples : List Sample
  hourly : List Rollup
  daily : List Rollup
  runtimes : List RuntimeState
  rest : ρ

def Db.empty {ρ : Type} (rest : ρ) : Db ρ := ⟨[], [], [], [], rest⟩

end VpsGuardian.PortTraffic
