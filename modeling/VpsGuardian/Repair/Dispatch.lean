import VpsGuardian.Repair.Results
import VpsGuardian.Repair.Runbooks

/-!
The heartbeats that detect incidents and dispatch repairs (`reconciliation.py`).
-/

namespace VpsGuardian.Repair

open Lib Controller

/-- What a diagnosis of a heartbeat tells the reconciler. -/
structure Observation where
  faultType : String
  service : String
  ruleID : String
  context : Dict String

/-- A heartbeat of an Agent: the results it reports, the labels of its host, what
its metrics were diagnosed as, and the ids that its rows get. -/
structure Heartbeat where
  agentID : String
  hostID : String
  labels : Dict String
  events : List Event
  observation : Option Observation
  draws : Draws

structure Config (ρ : Type) where
  settings : Settings
  results : Context ρ
  /-- `load_runbook` for a file of the runbook directory. -/
  loadRunbook : String → Except String Runbook

def isStageID (value : String) : Bool :=
  value.length == 32 && value.toList.all fun c => "abcdef0123456789".toList.contains c

/-- Whether the host takes part in the staging profile. -/
def profile (labels : Dict String) : Bool :=
  labels.get? "guardian_profile" == some "staging_acceptance" &&
    isStageID ((labels.get? "guardian_stage_id").getD "")

/-- The setting of the Level 2 label. -/
def Heartbeat.level2Enabled (heartbeat : Heartbeat) : Bool :=
  heartbeat.labels.get? "guardian_level2_caddy" == some "true"

variable {ρ : Type}

def auditOf (action resourceID outcome : String) (details : Json.Value) : AuditEntry :=
  ⟨action, "incident", resourceID, outcome, details⟩

def activeIncident (db : Db ρ) (hostID service faultType : String) : Option Incident :=
  ((db.incidents.filter fun incident => incident.status != .resolved).insertionSort
    fun a b => b.firstSeenAt ≤ a.firstSeenAt).find? fun incident =>
      incident.faultType == faultType && incident.affectedHosts.contains hostID &&
        incident.affectedServices.contains service

def openIncident (now : Time) (db : Db ρ) (heartbeat : Heartbeat) (observation : Observation) :
    Except String (Db ρ × Incident) :=
  match activeIncident db heartbeat.hostID observation.service observation.faultType with
  | some incident => .ok (db, incident)
  | none => do
    let incident : Incident := {
      id := heartbeat.draws.incidentID
      faultType := observation.faultType
      status := .open_
      affectedHosts := [heartbeat.hostID]
      affectedServices := [observation.service]
      monitored := true
      timeline := [⟨now, "detected by rule " ++ observation.ruleID⟩]
      firstSeenAt := now
      resolvedAt := none }
    raiseIf (incident.id ∈ db.incidents.map (·.id)) "duplicate key in incidents"
    return ({ db with
      incidents := db.incidents ++ [incident]
      auditLog := db.auditLog ++ [auditOf "incident.detected" incident.id "success"
        (.object [("fault_type", .string observation.faultType),
          ("rule_id", .string observation.ruleID)])] }, incident)

/-- The incident is one that a healthy observation of the host resolves. -/
def resolvable (hostID : String) (current : Option Incident) (incident : Incident) : Bool :=
  incident.status != .resolved && current.all (·.id != incident.id) &&
    incident.affectedHosts.contains hostID && incident.monitored

def resolveAbsentIncidents (now : Time) (db : Db ρ) (hostID : String)
    (current : Option Incident) : Db ρ :=
  { db with
    incidents := db.incidents.map fun incident =>
      if resolvable hostID current incident then { incident with
        status := .resolved
        resolvedAt := some now
        timeline := incident.timeline ++ [⟨now, "healthy observation confirmed"⟩] }
      else incident
    auditLog := db.auditLog ++ (db.incidents.filter (resolvable hostID current)).map fun incident =>
      auditOf "incident.resolved" incident.id "success"
        (.object [("fault_type", .string incident.faultType)]) }

/-- `_append_once`, with the entry of `_record_stop_once` in the audit log if
there is a reason. -/
def appendOnce (now : Time) (incidentID marker message : String) (reason : Option String)
    (db : Db ρ) : Db ρ :=
  let fresh (incident : Incident) : Bool := incident.id == incidentID &&
    !(incident.timeline.any fun entry => (entry.message.splitOn marker).length != 1)
  { db with
    incidents := db.incidents.map fun incident =>
      if fresh incident then
        { incident with timeline := incident.timeline ++ [⟨now, message⟩] }
      else incident
    auditLog := db.auditLog ++ match reason with
      | some reason => (db.incidents.filter fresh).map fun incident =>
          auditOf "repair.plan" incident.id "blocked"
            (.object [("reason", .string reason), ("task_count", .int 0)])
      | none => [] }

def recordPlanAudit (incidentID : String) (planned : Db ρ × RepairPlan) : Db ρ :=
  { planned.1 with
    auditLog := planned.1.auditLog ++ [auditOf "repair.plan" incidentID
      (if planned.2.taskIDs = [] then "blocked" else "scheduled")
      (.object [("reason", .string planned.2.reason),
        ("task_count", .int planned.2.taskIDs.length)])] }

/-- The file of the runbook for a fault. -/
def repairDetails : String → Option String
  | "container_exited" => some "restart_exited_container.yaml"
  | "application_health_failed" => some "restart_unhealthy_container.yaml"
  | "storage_pressure" => some "cleanup_allowlisted_cache.yaml"
  | "post_deployment_regression" => some "rollback_caddy_config.yaml"
  | _ => none

def alreadyInProgress (now : Time) (incidentID : String) : Db ρ → Db ρ :=
  appendOnce now incidentID "repair already in progress"
    "repair already in progress; concurrent dispatch suppressed"
    (some "concurrent repair is already in progress")

/-- The entries for a further repair that is not due or not allowed. -/
def recordStops (now : Time) (incidentID : String) (cooldownActive maximumReached : Bool)
    (db : Db ρ) : Db ρ :=
  let db := if cooldownActive then
      appendOnce now incidentID "repair cooldown" "repair cooldown is active; early retry blocked"
        (some "repair cooldown is active; incident remains escalated") db
    else db
  if maximumReached then
    appendOnce now incidentID "maximum repair attempts"
      "maximum repair attempts reached; incident escalated without retry"
      (some "maximum repair attempts reached; incident must be escalated") db
  else db

/-- The branch of `_maybe_dispatch` for an incident with a real attempt. -/
def repeatRepair (settings : Settings) (now : Time) (db : Db ρ) (request : PlanRequest)
    (draws : Draws) (latest : RepairAttempt) (attempts : Nat) : Except String (Db ρ) :=
  if latest.success = none then .ok (alreadyInProgress now request.incident.id db)
  else
    let cooldownActive := decide (now < latest.createdAt + request.runbook.cooldown)
    let maximumReached := decide (request.runbook.maxAttempts ≤ attempts)
    let db := recordStops now request.incident.id cooldownActive maximumReached db
    if cooldownActive || maximumReached then .ok db
    else do
      let planned ← plan settings now db request false draws
      return recordPlanAudit request.incident.id planned

/-- The branch for an incident that has only dry runs. -/
def firstRepair (settings : Settings) (now : Time) (db : Db ρ) (request : PlanRequest)
    (draws : Draws) (latest : RepairAttempt) : Except String (Db ρ) :=
  match latest.success with
  | none => .ok (alreadyInProgress now request.incident.id db)
  | some false => .ok (appendOnce now request.incident.id "dry-run failed"
      "dry-run failed; automatic execution blocked" none db)
  | some true =>
    if request.runbook.riskLevel = 2 ∧ request.level2Enabled = false then
      .ok (appendOnce now request.incident.id "Level 2 switch"
        "dry-run passed; waiting for explicit Level 2 switch" none db)
    else do
      let planned ← plan settings now db request false draws
      return recordPlanAudit request.incident.id planned

/-- `_maybe_dispatch`, for the runbook that was loaded. -/
def dispatch (settings : Settings) (now : Time) (db : Db ρ) (request : PlanRequest)
    (draws : Draws) : Except String (Db ρ) :=
  let attempts := attemptsOf db.attempts request.incident.id request.runbook.name
  match attempts.filter (fun attempt => !attempt.dryRun), attempts.filter (·.dryRun) with
  | latest :: earlier, _ => repeatRepair settings now db request draws latest (earlier.length + 1)
  | [], latest :: _ => firstRepair settings now db request draws latest
  | [], [] => do
    let planned ← plan settings now db request true draws
    return recordPlanAudit request.incident.id planned

def maybeDispatch (config : Config ρ) (now : Time) (db : Db ρ) (heartbeat : Heartbeat)
    (observation : Observation) (incident : Incident) : Except String (Db ρ) :=
  match repairDetails observation.faultType with
  | none => .ok db
  | some file => do
    let runbook ← config.loadRunbook file
    dispatch config.settings now db ⟨runbook, incident, heartbeat.agentID, heartbeat.hostID,
      observation.context, heartbeat.level2Enabled⟩ heartbeat.draws

def reconcileStagingHeartbeat (config : Config ρ) (now : Time) (db : Db ρ)
    (heartbeat : Heartbeat) : Except String (Db ρ) :=
  if profile heartbeat.labels = false then .ok db
  else match heartbeat.observation with
    | none => .ok (resolveAbsentIncidents now db heartbeat.hostID none)
    | some observation => do
      let (db, incident) ← openIncident now db heartbeat observation
      maybeDispatch config now (resolveAbsentIncidents now db heartbeat.hostID (some incident))
        heartbeat observation incident

/-- The tasks a heartbeat hands to the Agent. -/
def deliverable (agentID : String) (now : Time) (tasks : List TaskRow) : List TaskRow :=
  ((tasks.filter fun task => task.agentID == agentID &&
      (task.status == .pending || task.status == .delivered) && decide (now < task.expiresAt))
    |>.insertionSort fun a b => a.createdAt ≤ b.createdAt).take 10

/-- The transaction of `agent_heartbeat`, as far as it concerns repairs. -/
def agentHeartbeat (config : Config ρ) (now : Time) (db : Db ρ) (heartbeat : Heartbeat) :
    Except String (Db ρ) := do
  let db := recordAgentResults config.results heartbeat.agentID now db heartbeat.events
  let db ← reconcileStagingHeartbeat config now db heartbeat
  let delivered := (deliverable heartbeat.agentID now db.tasks).map (·.id)
  return { db with
    tasks := db.tasks.map fun task =>
      if task.id ∈ delivered then { task with status := .delivered } else task }

structure World (ρ : Type) where
  db : Db ρ
  now : Time

/-- A heartbeat that comes some time after the one before. -/
structure Input where
  wait : Time
  later : 0 < wait
  heartbeat : Heartbeat

/-- A heartbeat that raises an error is rolled back. -/
def step (config : Config ρ) (world : World ρ) (input : Input) : World ρ :=
  let now := world.now + input.wait
  ⟨(agentHeartbeat config now world.db input.heartbeat).toOption.getD world.db, now⟩

end VpsGuardian.Repair
