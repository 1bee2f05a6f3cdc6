import VpsGuardian.PortPolicies.Records

/-!
The endpoints that change port traffic policies, and the decision of an approval
(`api.py`).

Request bodies carry the checks of their schema; a field of an update is unset,
`null` or a value.
-/

namespace VpsGuardian.PortPolicies

open Lib
open Controller (Time HTTPException AgentTask SigningKey Entropy TaskRequest createAgentTask
  internalServerError minutes uuid4)
open Controller.Decisions (Approval PlannedAction DecisionRequest)
open NetHelper (Protocol Direction Mode matchesInterfacePattern)

structure Environment where
  key : SigningKey
  zoneInfo : ZoneInfo
  approvalTTLMinutes : Nat

/-- The user of a request, with the detail `_require_step_up` refuses it with if it
does, and the groups its scopes name. -/
structure Caller where
  userID : String
  stepUpError : Option String
  allowedGroups : List String
  named : userID ≠ ""

structure PortTrafficPolicyCreate where
  name : String
  protocol : Protocol
  direction : Direction
  portStart : Nat
  portEnd : Nat
  interfaceName : Option String
  quotaBytes : Option Nat
  resetPolicy : Dict Field
  ports : (1 ≤ portStart ∧ portStart ≤ 65535) ∧ (1 ≤ portEnd ∧ portEnd ≤ 65535) ∧
    portStart ≤ portEnd ∧ portEnd - portStart + 1 ≤ 4096
  interfacePattern : ∀ name ∈ interfaceName, matchesInterfacePattern name = true
  quotaBounds : ∀ quota ∈ quotaBytes, 0 < quota ∧ quota < 2 ^ 63

structure PortTrafficPolicyUpdate where
  name : Option (Option String) := none
  enabled : Option (Option Bool) := none
  protocol : Option (Option Protocol) := none
  direction : Option (Option Direction) := none
  portStart : Option (Option Nat) := none
  portEnd : Option (Option Nat) := none
  interfaceName : Option (Option String) := none
  quotaBytes : Option (Option Nat) := none
  /-- Whether the field is set. -/
  resetPolicy : Bool := false
  egressRateBps : Bool := false
  approvalID : Bool := false
  startBounds : ∀ port, portStart = some (some port) → 1 ≤ port ∧ port ≤ 65535
  endBounds : ∀ port, portEnd = some (some port) → 1 ≤ port ∧ port ≤ 65535
  interfacePattern : ∀ name, interfaceName = some (some name) → matchesInterfacePattern name = true
  quotaBounds : ∀ quota, quotaBytes = some (some quota) → 0 < quota ∧ quota < 2 ^ 63

/-- A payload without any field. -/
def PortTrafficPolicyUpdate.unset : PortTrafficPolicyUpdate where
  startBounds _ h := absurd h.symm (Option.some_ne_none _)
  endBounds _ h := absurd h.symm (Option.some_ne_none _)
  interfacePattern _ h := absurd h.symm (Option.some_ne_none _)
  quotaBounds _ h := absurd h.symm (Option.some_ne_none _)

/-- Whether one of `kernel_fields` is set. -/
def PortTrafficPolicyUpdate.kernelFields (payload : PortTrafficPolicyUpdate) : Bool :=
  payload.enabled.isSome || payload.protocol.isSome || payload.direction.isSome ||
    payload.portStart.isSome || payload.portEnd.isSome || payload.interfaceName.isSome ||
    payload.quotaBytes.isSome || payload.resetPolicy

structure PortTrafficChangeRequest where
  mode : Mode
  egressRateBps : Option Nat
  resetPolicy : Option (Dict Field)
  reason : String
  rateBounds : ∀ rate ∈ egressRateBps, 8000 ≤ rate ∧ rate ≤ 100000000000
  reasonLength : 3 ≤ reason.length ∧ reason.length ≤ 500

structure PortTrafficResetRequest where
  reason : String
  confirmation : String
  reasonLength : 3 ≤ reason.length ∧ reason.length ≤ 500

/-! ### Shared checks -/

/-- `_port_traffic_host` -/
def portTrafficHost (db : Db) (hostID : String) : Except HTTPException (Host × Agent) := do
  let host ← orRaise (db.host? hostID) ⟨404, "host not found"⟩
  let agent ← orRaise (host.agent.filter (!·.revoked)) ⟨409, "host has no active Agent"⟩
  return (host, agent)

/-- `_require_step_up` and `_require_port_traffic_group_scope` around the lookup of the host. -/
def admitted (db : Db) (caller : Caller) (hostID : String) : Except HTTPException (Host × Agent) :=
  do
  raiseIf caller.stepUpError.isSome ⟨403, caller.stepUpError.getD ""⟩
  let (host, agent) ← portTrafficHost db hostID
  raiseIf (caller.allowedGroups ≠ [] ∧ host.groupName.getD "" ∉ caller.allowedGroups)
    ⟨403, "host group scope denied"⟩
  return (host, agent)

/-- `_port_traffic_policy` -/
def portTrafficPolicy (db : Db) (hostID policyID : String) :
    Except HTTPException PortTrafficPolicy :=
  orRaise ((db.policy? policyID).filter (·.hostID = hostID))
    ⟨404, "port traffic policy not found"⟩

/-- The dictionary `_port_traffic_parameters` builds, in its order. -/
def parameterEntries (policy : PortTrafficPolicy) (mode : Mode) (rate : Option Nat)
    (resetPolicy : ResetPolicy) (boundary : Option Time) : List (String × String) := [
  ("policy_id", policy.id),
  ("protocol", policy.protocol.name),
  ("direction", directionValue policy.direction),
  ("port_start", toString policy.portStart),
  ("port_end", toString policy.portEnd),
  ("interface_name", policy.interfaceName.getD ""),
  ("mode", modeValue mode),
  ("quota_bytes", toString (policy.quotaBytes.getD 0)),
  ("egress_rate_bps", toString (rate.getD 0)),
  ("counter_generation", toString policy.generation),
  ("reset_policy", resetPolicy.dumps),
  ("next_reset_at", (boundary.map isoformat).getD "")]

/-- `_port_traffic_parameters` -/
def portTrafficParameters (env : Environment) (now : Time) (policy : PortTrafficPolicy)
    (mode : Option Mode) (egressRateBps : Option Nat) (resetPolicy : Option ResetPolicy) :
    Except ScheduleError (Dict String) := do
  let effectiveReset := resetPolicy.getD policy.resetPolicy
  let boundary ← nextResetAt env.zoneInfo effectiveReset now
  return .ofList (parameterEntries policy (mode.getD policy.mode)
    (egressRateBps.or policy.egressRateBps) effectiveReset boundary ++ [("dry_run", "false")])

/-- The handler's translation of a `PortTrafficError`, and of another exception. -/
def scheduleException (statusCode : Nat) : ScheduleError → HTTPException
  | .portTraffic detail => ⟨statusCode, detail⟩
  | .unexpected => internalServerError

/-- An exception that no handler catches. -/
def uncaught {ε : Type} (_ : ε) : HTTPException := internalServerError

/-- A task for the Agent of the host, with no approval. -/
def policyTask (env : Environment) (random : Entropy) (now : Time) (agent : Agent)
    (caller : Caller) (hostID action : String) (parameters : Dict String) :
    Except HTTPException AgentTask :=
  (createAgentTask env.key random now {
    agentID := agent.id
    action := action
    parameters := parameters
    requesterID := some caller.userID
    targetHostID := some hostID }).mapError uncaught

/-! ### Creation -/

def newPolicy (hostID policyID : String) (payload : PortTrafficPolicyCreate)
    (resetPolicy : ResetPolicy) : PortTrafficPolicy where
  id := policyID
  hostID := hostID
  name := payload.name
  enabled := true
  protocol := payload.protocol
  direction := payload.direction
  portStart := payload.portStart
  portEnd := payload.portEnd
  interfaceName := payload.interfaceName
  mode := .monitorOnly
  quotaBytes := payload.quotaBytes
  resetPolicy := resetPolicy
  egressRateBps := none
  status := .pending
  generation := 1
  approvedBy := none
  resetApprovalID := none
  resetRequestedBy := none
  resetApprovedBy := none

def createPortTrafficPolicy (env : Environment) (db : Db) (caller : Caller) (hostID : String)
    (payload : PortTrafficPolicyCreate) (policyID : BitVec 128) (random : Entropy) :
    Transaction := do
  let (_, agent) ← admitted db caller hostID
  (ensurePolicyCapacityAndNoOverlap db hostID (some payload.protocol) payload.portStart
    payload.portEnd none).mapError (⟨409, ·⟩)
  let resetPolicy ← (validateResetPolicy env.zoneInfo payload.resetPolicy).mapError
    (scheduleException 409)
  raiseIf (resetPolicy.recurrence ≠ .manual)
    ⟨409, "scheduled resets require a dedicated independently approved change request"⟩
  let policy := newPolicy hostID (uuid4 policyID) payload resetPolicy
  let boundary ← (nextResetAt env.zoneInfo resetPolicy db.clock).mapError uncaught
  let parameters ← (portTrafficParameters env db.clock policy none none none).mapError uncaught
  let task ← policyTask env random db.clock agent caller hostID "port_traffic_apply" parameters
  commit { db with
    policies := db.policies ++ [policy]
    runtimes := db.runtimes ++ [⟨policy.id, 1, boundary⟩]
    tasks := db.tasks ++ [task] }

/-! ### Update -/

/-- The row with the fields of a payload set, if no column that must have a value is `null`. -/
def PortTrafficPolicyUpdate.apply (payload : PortTrafficPolicyUpdate)
    (policy : PortTrafficPolicy) : Option PortTrafficPolicy := do
  return { policy with
    name := ← payload.name.getD (some policy.name)
    enabled := ← payload.enabled.getD (some policy.enabled)
    protocol := ← payload.protocol.getD (some policy.protocol)
    direction := ← payload.direction.getD (some policy.direction)
    portStart := ← payload.portStart.getD (some policy.portStart)
    portEnd := ← payload.portEnd.getD (some policy.portEnd)
    interfaceName := payload.interfaceName.getD policy.interfaceName
    quotaBytes := payload.quotaBytes.getD policy.quotaBytes
    status := .pending }

def updatePortTrafficPolicy (env : Environment) (db : Db) (caller : Caller)
    (hostID policyID : String) (payload : PortTrafficPolicyUpdate) (random : Entropy) :
    Transaction := do
  let (_, agent) ← admitted db caller hostID
  let policy ← portTrafficPolicy db hostID policyID
  raiseIf (payload.approvalID ∨ payload.egressRateBps)
    ⟨409, "enforcement and shaping changes require a dedicated change request"⟩
  raiseIf (policy.mode ≠ .monitorOnly ∧ payload.kernelFields)
    ⟨409, "return the policy to monitor_only through approval before editing it"⟩
  raiseIf payload.resetPolicy ⟨409, "reset schedule changes require a dedicated change request"⟩
  let candidateStart ← orRaise (payload.portStart.getD (some policy.portStart)) internalServerError
  let candidateEnd ← orRaise (payload.portEnd.getD (some policy.portEnd)) internalServerError
  raiseIf (candidateEnd < candidateStart ∨ 4096 < candidateEnd - candidateStart + 1)
    ⟨422, "port range is invalid"⟩
  (ensurePolicyCapacityAndNoOverlap db hostID (payload.protocol.getD (some policy.protocol))
    candidateStart candidateEnd (some policy.id)).mapError (⟨409, ·⟩)
  raiseIf (payload.direction.getD (some policy.direction) = some .rx ∧
      policy.egressRateBps.any (· ≠ 0))
    ⟨409, "remove egress shaping before changing direction to rx"⟩
  let updated ← orRaise (payload.apply policy) internalServerError
  let action := if updated.enabled then "port_traffic_apply" else "port_traffic_remove"
  let parameters ← (portTrafficParameters env db.clock updated none none none).mapError uncaught
  let task ← policyTask env random db.clock agent caller hostID action parameters
  commit ((db.putPolicy updated).addTask task)

/-! ### Requests for approval -/

/-- `_port_traffic_change_approval` -/
def portTrafficChangeApproval (env : Environment) (now : Time) (approvalID : BitVec 128)
    (policy : PortTrafficPolicy) (agent : Agent) (caller : Caller) (actionName action : String)
    (parameters : Dict String) : Approval where
  id := uuid4 approvalID
  actionName := actionName
  riskLevel := 3
  status := .pending
  agentID := agent.id
  plan := some [some ⟨action, parameters⟩]
  policyID := policy.id
  expiresAt := now + minutes env.approvalTTLMinutes
  decidedAt := none
  decidedBy := none
  requestedBy := some caller.userID
  targetHostID := some policy.hostID

/-- The schedule a change asks for, or the one the policy has. -/
def requestedReset (env : Environment) (policy : PortTrafficPolicy)
    (payload : PortTrafficChangeRequest) : Except HTTPException ResetPolicy :=
  match payload.resetPolicy with
  | some value => (validateResetPolicy env.zoneInfo value).mapError (scheduleException 422)
  | none => .ok policy.resetPolicy

def requestPortTrafficChange (env : Environment) (db : Db) (caller : Caller)
    (hostID policyID : String) (payload : PortTrafficChangeRequest) (approvalID : BitVec 128) :
    Transaction := do
  let (_, agent) ← admitted db caller hostID
  let policy ← portTrafficPolicy db hostID policyID
  raiseIf (payload.egressRateBps.isSome ∧ policy.direction = .rx)
    ⟨422, "first-version shaping supports egress only"⟩
  let requestedResetPolicy ← requestedReset env policy payload
  let parameters ← (portTrafficParameters env db.clock policy (some payload.mode)
    payload.egressRateBps (some requestedResetPolicy)).mapError uncaught
  let actionName := if requestedResetPolicy.equals policy.resetPolicy then
    "port_traffic_enforcement_change" else "port_traffic_reset_schedule_change"
  commit { db with approvals := db.approvals ++ [portTrafficChangeApproval env db.clock approvalID
    policy agent caller actionName "port_traffic_apply" parameters] }

def requestPortTrafficReset (env : Environment) (db : Db) (caller : Caller)
    (hostID policyID : String) (payload : PortTrafficResetRequest) (approvalID : BitVec 128) :
    Transaction := do
  raiseIf caller.stepUpError.isSome ⟨403, caller.stepUpError.getD ""⟩
  raiseIf (payload.confirmation ≠ "RESET " ++ policyID)
    ⟨409, "confirmation must be exactly: RESET " ++ policyID⟩
  let (_, agent) ← admitted db caller hostID
  let policy ← portTrafficPolicy db hostID policyID
  let parameters ← (portTrafficParameters env db.clock policy none none none).mapError uncaught
  commit { db with approvals := db.approvals ++ [portTrafficChangeApproval env db.clock approvalID
    policy agent caller "port_traffic_counter_reset" "port_traffic_reset"
    (parameters.insert "reason" payload.reason)] }

/-! ### Decisions -/

/-- The Agents with their hosts, as a decision reads them. -/
def Db.agents (db : Db) : List (String × String) :=
  db.hosts.filterMap fun host => host.agent.map fun agent => (agent.id, host.id)

/-- The tasks for a plan; each action draws its own identifier. -/
def createTasks (env : Controller.Decisions.Environment) (approval : Approval)
    (request : DecisionRequest) (now : Time) :
    List (Option PlannedAction × Entropy) → Except HTTPException (List AgentTask)
  | [] => .ok []
  | (item, random) :: items => do
      let task ← Controller.Decisions.createTask env approval request item random now
      return task :: (← createTasks env approval request now items)

/-- `decide_approval`. An approval that has expired is marked so. -/
def decideApproval (env : Environment) (db : Db) (approvalID : String)
    (request : DecisionRequest) (random : Nat → Entropy) : Transaction := do
  let approval ← orRaise (db.approval? approvalID) ⟨404, "pending approval not found"⟩
  if approval.status = .pending ∧ Controller.Decisions.approvalIsExpired approval db.clock then
    commit (db.putApproval { approval with status := .expired, decidedAt := some db.clock })
  else
    Controller.Decisions.checkDecision approval request
    let decisions : Controller.Decisions.Environment := ⟨db.agents, env.key⟩
    let plan ← Controller.Decisions.executablePlan decisions approval request
    let tasks ← createTasks decisions approval request db.clock
      (plan.zipIdx.map fun item => (item.1, random item.2))
    let decided := { approval with
      status := request.decision.status
      decidedAt := some db.clock
      decidedBy := some request.userID }
    commit { db.putApproval decided with tasks := db.tasks ++ tasks }

end VpsGuardian.PortPolicies
