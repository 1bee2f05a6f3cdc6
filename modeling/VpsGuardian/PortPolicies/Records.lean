import VpsGuardian.Controller.Decisions
import VpsGuardian.PortPolicies.Schedule

/-!
The rows behind the port traffic policies of the Controller.

A policy row has a runtime row, changes of it wait in approvals, and the Agent
of its host is told of it by tasks.
-/

namespace VpsGuardian.PortPolicies

open Lib
open Controller (Time HTTPException AgentTask SigningKey internalServerError)
open Controller.Decisions (Approval)
open NetHelper (Protocol Direction Mode)

def directionValue : Direction → String
  | .rx => "rx"
  | .tx => "tx"
  | .both => "both"

def modeValue : Mode → String
  | .monitorOnly => "monitor_only"
  | .enforcing => "enforcing"

inductive PolicyStatus
  | pending
  | active
  | disabled
  | error
  deriving DecidableEq, Repr

structure PortTrafficPolicy where
  id : String
  hostID : String
  name : String
  enabled : Bool
  protocol : Protocol
  direction : Direction
  portStart : Nat
  portEnd : Nat
  interfaceName : Option String
  mode : Mode
  quotaBytes : Option Nat
  resetPolicy : ResetPolicy
  egressRateBps : Option Nat
  status : PolicyStatus
  generation : Int
  approvedBy : Option String
  resetApprovalID : Option String
  resetRequestedBy : Option String
  resetApprovedBy : Option String
  deriving DecidableEq

structure PortTrafficRuntimeState where
  policyID : String
  counterGeneration : Int
  nextResetAt : Option Time
  deriving DecidableEq

structure PortTrafficResetEvent where
  policyID : String
  hostID : String
  reason : String
  previousGeneration : Int
  newGeneration : Int
  requestedBy : Option String
  approvalID : Option String
  deriving DecidableEq

structure Agent where
  id : String
  revoked : Bool
  deriving DecidableEq, Repr

structure Host where
  id : String
  groupName : Option String
  agent : Option Agent
  named : id ≠ ""
  deriving DecidableEq

structure Db where
  clock : Time
  hosts : List Host
  policies : List PortTrafficPolicy
  runtimes : List PortTrafficRuntimeState
  approvals : List Approval
  tasks : List AgentTask
  resetEvents : List PortTrafficResetEvent
  deriving DecidableEq

namespace Db

def empty : Db := ⟨0, [], [], [], [], [], []⟩

def host? (db : Db) (hostID : String) : Option Host := Table.lookup (·.id) hostID db.hosts

def policy? (db : Db) (policyID : String) : Option PortTrafficPolicy :=
  Table.lookup (·.id) policyID db.policies

def runtime? (db : Db) (policyID : String) : Option PortTrafficRuntimeState :=
  Table.lookup (·.policyID) policyID db.runtimes

def approval? (db : Db) (approvalID : String) : Option Approval :=
  Table.lookup (·.id) approvalID db.approvals

def task? (db : Db) (taskID : String) : Option AgentTask := Table.lookup (·.id) taskID db.tasks

def putPolicy (db : Db) (policy : PortTrafficPolicy) : Db :=
  { db with policies := Table.put (·.id) policy db.policies }

def putRuntime (db : Db) (runtime : PortTrafficRuntimeState) : Db :=
  { db with runtimes := Table.put (·.policyID) runtime db.runtimes }

def putApproval (db : Db) (approval : Approval) : Db :=
  { db with approvals := Table.put (·.id) approval db.approvals }

def putTask (db : Db) (task : AgentTask) : Db :=
  { db with tasks := Table.put (·.id) task db.tasks }

def addTask (db : Db) (task : AgentTask) : Db := { db with tasks := db.tasks ++ [task] }

/-- The policies of a host whose status is not `disabled`. -/
def counted (db : Db) (hostID : String) : List PortTrafficPolicy :=
  db.policies.filter fun policy => decide (policy.hostID = hostID ∧ policy.status ≠ .disabled)

/-- The primary keys, and the check constraint on generations within the range of
the column. -/
structure Constraints (db : Db) : Prop where
  policyIDs : (db.policies.map (·.id)).Nodup
  runtimeIDs : (db.runtimes.map (·.policyID)).Nodup
  approvalIDs : (db.approvals.map (·.id)).Nodup
  taskIDs : (db.tasks.map (·.id)).Nodup
  generations : ∀ policy ∈ db.policies, 1 ≤ policy.generation ∧ policy.generation < 2 ^ 31

instance (db : Db) : Decidable db.Constraints :=
  decidable_of_iff
    ((db.policies.map (·.id)).Nodup ∧ (db.runtimes.map (·.policyID)).Nodup ∧
      (db.approvals.map (·.id)).Nodup ∧ (db.tasks.map (·.id)).Nodup ∧
      ∀ policy ∈ db.policies, 1 ≤ policy.generation ∧ policy.generation < 2 ^ 31)
    ⟨fun ⟨h₁, h₂, h₃, h₄, h₅⟩ => ⟨h₁, h₂, h₃, h₄, h₅⟩,
      fun ⟨h₁, h₂, h₃, h₄, h₅⟩ => ⟨h₁, h₂, h₃, h₄, h₅⟩⟩

end Db

/-- A transaction is rolled back by an error. -/
abbrev Transaction := Except HTTPException Db

def commit (db : Db) : Transaction :=
  if db.Constraints then .ok db else .error internalServerError

theorem commit_eq_ok {db db' : Db} : commit db = .ok db' ↔ db.Constraints ∧ db = db' := by
  unfold commit
  by_cases h : db.Constraints
  · simp [h]
  · simp [h]

/-! ### Overlap and capacity -/

def maxPoliciesPerHost : Nat := 64

/-- `_protocols`; the text of a missing protocol is no protocol. -/
def protocolSet : Option Protocol → List Protocol
  | some protocol => NetHelper.protocols protocol
  | none => []

def policyOverlaps (protocol : Option Protocol) (portStart portEnd : Nat)
    (existing : PortTrafficPolicy) : Bool :=
  (protocolSet protocol).any (· ∈ NetHelper.protocols existing.protocol) ∧
    ¬ (portEnd < existing.portStart ∨ existing.portEnd < portStart)

def ensurePolicyCapacityAndNoOverlap (db : Db) (hostID : String) (protocol : Option Protocol)
    (portStart portEnd : Nat) (excludePolicyID : Option String) : Except String Unit := do
  let policies := db.counted hostID
  raiseIf (excludePolicyID = none ∧ maxPoliciesPerHost ≤ policies.length)
    "a host may have at most 64 port traffic policies"
  raiseIf (policies.any fun item =>
      some item.id ≠ excludePolicyID && policyOverlaps protocol portStart portEnd item)
    "port range overlaps an existing Guardian policy"

end VpsGuardian.PortPolicies
