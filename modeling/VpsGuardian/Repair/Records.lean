import VpsGuardian.Controller.Tasking
import VpsGuardian.Lib.Run
import VpsGuardian.Lib.Table

/-!
The rows of the repair loop: tasks with their results, attempts, approvals and
incidents.

The database is generic over its other tables: what a port traffic result does
to them is a parameter of the functions that ingest results.
-/

namespace VpsGuardian.Repair

open Lib Controller

/-- A row of `agent_tasks` with the columns a result fills. -/
structure TaskRow extends AgentTask where
  result : Option Json.Value
  verificationResult : Option Json.Value
  startedAt : Option Time
  completedAt : Option Time

inductive ApprovalStatus
  | pending
  | approved
  | partiallyApproved
  | approvedWithConditions
  | changesRequested
  | rejected
  | dryRunOnly
  | executing
  | executed
  | failed
  | rolledBack
  | expired
  | withdrawn
  deriving DecidableEq, Repr

/-- One action of a plan, with its parameters filled in. -/
structure PlannedAction where
  type : String
  parameters : Dict String
  deriving DecidableEq

structure Approval where
  id : String
  incidentID : String
  actionName : String
  riskLevel : Int
  status : ApprovalStatus
  agentID : String
  actions : List PlannedAction
  service : Option String
  requestedAt : Time
  expiresAt : Time
  requestedBy : Option String
  targetHostID : Option String
  deriving DecidableEq

/-- `taskIDs` and `taskStatuses` are the entries of `after_state`. -/
structure RepairAttempt where
  id : String
  incidentID : String
  action : String
  dryRun : Bool
  success : Option Bool
  context : Dict String
  taskIDs : List String
  taskStatuses : Option (List (String × TaskStatus))
  createdAt : Time
  deriving DecidableEq

structure TimelineEntry where
  at_ : Time
  message : String
  deriving DecidableEq, Repr

inductive IncidentStatus
  | open_
  | acknowledged
  | investigating
  | mitigating
  | resolved
  deriving DecidableEq, Repr

/-- `monitored` says whether the evidence names the monitor profile. -/
structure Incident where
  id : String
  faultType : String
  status : IncidentStatus
  affectedHosts : List String
  affectedServices : List String
  monitored : Bool
  timeline : List TimelineEntry
  firstSeenAt : Time
  resolvedAt : Option Time
  deriving DecidableEq, Repr

structure AuditEntry where
  action : String
  resourceType : String
  resourceID : String
  outcome : String
  details : Json.Value

structure Db (ρ : Type) where
  tasks : List TaskRow
  attempts : List RepairAttempt
  approvals : List Approval
  incidents : List Incident
  auditLog : List AuditEntry
  others : ρ

/-- The primary keys the results are looked up by. -/
structure Db.Keys {ρ : Type} (db : Db ρ) : Prop where
  tasks : (db.tasks.map (·.id)).Nodup
  attempts : (db.attempts.map (·.id)).Nodup

def terminalTaskStates : List TaskStatus := [.succeeded, .failed]

def portTrafficActions : List String :=
  ["port_traffic_apply", "port_traffic_remove", "port_traffic_reset"]

end VpsGuardian.Repair
