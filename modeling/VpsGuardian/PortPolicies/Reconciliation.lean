import VpsGuardian.Lib.Run
import VpsGuardian.PortPolicies.Api

/-!
What the results of tasks do to the policies (`_record_port_traffic_result`), the
scheduler of resets (`dispatch_due_port_traffic_resets`), and the Controller as a
state machine over all operations on port traffic policies.
-/

namespace VpsGuardian.PortPolicies

open Lib
open Controller (Time HTTPException AgentTask TaskStatus Entropy createAgentTask
  internalServerError seconds)
open Controller.Decisions (Approval ApprovalStatus DecisionRequest)
open NetHelper (Mode Protocol)

/-! ### Reading parameters -/

/-- `int(text)` of a decimal number. -/
def pythonInt? (text : String) : Option Int :=
  let (negative, digits) := match text.toList with
    | '-' :: digits => (true, digits)
    | digits => (false, digits)
  if digits = [] ∨ digits.all Char.isDigit = false then none
  else
    let value : Int := Nat.ofDigitChars 10 digits 0
    some (if negative then -value else value)

def jsonField : Json.Value → Field
  | .string s => .string s
  | .number n => (n.toInt?.map Field.int).getD .other
  | .bool b => .bool b
  | .null => .other
  | .array _ | .object _ => .unhashable

/-- `json.loads(text)` of a dictionary that `ResetPolicy.dumps` wrote; no other text
is stored in a task. -/
def ResetPolicy.loads (text : String) : Option ResetPolicy :=
  match Json.parse text with
  | some (.object members) =>
      let value := Dict.ofList (members.map fun member => (member.1, jsonField member.2))
      match value.get? "timezone", value.get? "type" with
      | some (.string timezone), some (.string policyType) =>
          (recurrenceField value policyType).toOption.map fun recurrence => ⟨timezone, recurrence⟩
      | _, _ => none
  | _ => none

/-- `datetime.fromisoformat(text)` of a text that `isoformat` wrote. -/
def datetimeFromISOFormat (text : String) : Option Time := do
  let number (digits : List Char) : Option Int := (Date.number? digits).map (↑)
  let date ← Date.fromISOFormat (.ofList (text.toList.take 10))
  match text.toList.drop 10 with
  | 'T' :: h₁ :: h₂ :: ':' :: m₁ :: m₂ :: ':' :: s₁ :: s₂ :: rest =>
      let fraction ← match rest with
        | ['+', '0', '0', ':', '0', '0'] => some 0
        | ['.', f₁, f₂, f₃, f₄, f₅, f₆, '+', '0', '0', ':', '0', '0'] =>
            number [f₁, f₂, f₃, f₄, f₅, f₆]
        | _ => none
      let minutes := 60 * (← number [h₁, h₂]) + (← number [m₁, m₂])
      some (seconds (86400 * (date.ordinal - epochOrdinal) + 60 * minutes + (← number [s₁, s₂])) +
        fraction)
  | _ => none

/-! ### Results -/

def portTrafficActions : List String :=
  ["port_traffic_apply", "port_traffic_remove", "port_traffic_reset"]

/-- A result an Agent reports. The generation is `int(after["counter_generation"])`,
if there is such a number. -/
structure ActionResult where
  taskID : String
  success : Bool
  generation : Option Int
  deriving DecidableEq, Repr

/-- The runtime row with the next reset of a schedule. -/
def Db.schedule (db : Db) (env : Environment) (policyID : String) (resetPolicy : ResetPolicy)
    (after : Time) : Except ScheduleError Db :=
  match db.runtime? policyID with
  | none => .ok db
  | some runtime => do
      let boundary ← nextResetAt env.zoneInfo resetPolicy after
      return db.putRuntime { runtime with nextResetAt := boundary }

/-- A task that failed. -/
def recordFailure (env : Environment) (db : Db) (policy : PortTrafficPolicy) (task : AgentTask) :
    Except ScheduleError Db :=
  let db := db.putPolicy { policy with status := .error }
  if task.action = "port_traffic_reset" ∧ task.parameters.get "scheduled_for" ≠ "" then
    db.schedule env policy.id policy.resetPolicy
      ((datetimeFromISOFormat (task.parameters.get "scheduled_for")).getD db.clock)
  else .ok db

/-- The row after a successful `port_traffic_apply`, before its schedule is looked at. -/
def applied (policy : PortTrafficPolicy) (task : AgentTask) :
    Except ScheduleError PortTrafficPolicy := do
  let mode ← orRaise (((task.parameters.get? "mode").map Mode.parse?).getD (some policy.mode))
    .unexpected
  let rate ← orRaise (pythonInt? ((task.parameters.get? "egress_rate_bps").getD "0")) .unexpected
  raiseIf (rate ≠ 0 ∧ rate < 8000) .unexpected
  return { policy with
    mode := mode
    egressRateBps := if rate = 0 then none else some rate.toNat
    approvedBy := task.approverID
    status := .active }

def recordApply (env : Environment) (db : Db) (policy : PortTrafficPolicy) (task : AgentTask) :
    Except ScheduleError Db := do
  let policy ← applied policy task
  match task.approvalID.bind db.approval? with
  | some approval =>
      if approval.actionName = "port_traffic_reset_schedule_change" then
        match ResetPolicy.loads ((task.parameters.get? "reset_policy").getD "{}") with
        | none => return db.putPolicy { policy with status := .error }
        | some resetPolicy =>
            let policy := { policy with
              resetPolicy := resetPolicy
              resetApprovalID := some approval.id
              resetRequestedBy := approval.requestedBy
              resetApprovedBy := task.approverID }
            (db.putPolicy policy).schedule env policy.id resetPolicy db.clock
      else return db.putPolicy policy
  | none => return db.putPolicy policy

def recordReset (env : Environment) (db : Db) (policy : PortTrafficPolicy) (task : AgentTask)
    (reported : Option Int) : Except ScheduleError Db :=
  let before := ((db.runtime? policy.id).map (·.counterGeneration)).getD policy.generation
  let new := reported.getD (before + 1)
  let event : PortTrafficResetEvent := {
    policyID := policy.id
    hostID := policy.hostID
    reason := .ofList ((((task.parameters.get? "reason").getD "manual").toList).take 64)
    previousGeneration := before
    newGeneration := new
    requestedBy := task.requesterID
    approvalID := task.approvalID }
  let db := { db.putPolicy { policy with generation := new } with
    resetEvents := db.resetEvents ++ [event] }
  match db.runtime? policy.id with
  | none => .ok db
  | some runtime =>
      (db.putRuntime { runtime with counterGeneration := new }).schedule env policy.id
        policy.resetPolicy db.clock

/-- The approval of a task whose result is known. -/
def closeApproval (db : Db) (task : AgentTask) : Db :=
  match task.approvalID.bind db.approval? with
  | some approval =>
      if approval.status = .approved ∨ approval.status = .dryRunOnly ∨
          approval.status = .executing then
        db.putApproval { approval with
          status := if task.status = .succeeded then .executed else .failed }
      else db
  | none => db

/-- What a result says about the policy of its task. -/
def recordOutcome (env : Environment) (db : Db) (policy : PortTrafficPolicy) (task : AgentTask)
    (reported : Option Int) : Except ScheduleError Db :=
  if task.status ≠ .succeeded then recordFailure env db policy task
  else if task.parameters.get "dry_run" = "true" then .ok db
  else if task.action = "port_traffic_apply" then recordApply env db policy task
  else if task.action = "port_traffic_remove" then
    .ok (db.putPolicy { policy with status := .disabled })
  else recordReset env db policy task reported

/-- `_record_port_traffic_result` -/
def recordPortTrafficResult (env : Environment) (db : Db) (task : AgentTask)
    (reported : Option Int) : Except ScheduleError Db :=
  match db.policy? (task.parameters.get "policy_id") with
  | none => .ok db
  | some policy =>
      (recordOutcome env db policy task reported).map fun recorded => closeApproval recorded task

def terminal (status : TaskStatus) : Bool := status = .succeeded ∨ status = .failed

/-- The task with the status its result gives it. -/
def finished (task : AgentTask) (success : Bool) : AgentTask :=
  { task with status := if success then .succeeded else .failed }

/-- One round of `record_agent_results`. -/
def recordAgentResult (env : Environment) (agentID : String) (db : Db) (result : ActionResult) :
    Except ScheduleError Db :=
  match (db.task? result.taskID).filter fun task => task.agentID = agentID with
  | none => .ok db
  | some task =>
      if terminal task.status then .ok db
      else
        let task := finished task result.success
        if task.action ∈ portTrafficActions then
          recordPortTrafficResult env (db.putTask task) task result.generation
        else .ok (db.putTask task)

/-- The generation of a stored observation, copied to the runtime row. -/
def recordGeneration (db : Db) (observed : String × Nat) : Db :=
  match db.runtime? observed.1 with
  | some runtime => db.putRuntime { runtime with counterGeneration := observed.2 }
  | none => db

/-- The tasks a heartbeat hands out: the first ten that are neither finished nor expired. -/
def deliverable (db : Db) (agentID : String) : List AgentTask :=
  ((db.tasks.filter fun task => decide (task.agentID = agentID ∧
    (task.status = .pending ∨ task.status = .delivered) ∧ db.clock < task.expiresAt)).insertionSort
    fun a b => a.createdAt ≤ b.createdAt).take 10

/-- `agent_heartbeat`, as far as tasks and policies are concerned. -/
def agentHeartbeat (env : Environment) (db : Db) (agentID : String)
    (results : List ActionResult) (observed : List (String × Nat)) : Transaction := do
  raiseIf (¬ db.hosts.any fun host =>
      host.agent.any fun agent => agent.id == agentID && !agent.revoked)
    ⟨401, "Agent authentication failed"⟩
  let db ← (results.foldlM (recordAgentResult env agentID) db).mapError uncaught
  let db := observed.foldl recordGeneration db
  commit ((deliverable db agentID).foldl
    (fun db task => db.putTask { task with status := .delivered }) db)

/-! ### Scheduled resets -/

/-- The schedule was approved by someone other than the user who asked for it. -/
def independentlyApproved (policy : PortTrafficPolicy) : Bool :=
  policy.resetApprovalID.any (· ≠ "") ∧ policy.resetRequestedBy.any (· ≠ "") ∧
    policy.resetApprovedBy.any (· ≠ "") ∧ policy.resetRequestedBy ≠ policy.resetApprovedBy

/-- The query for an outstanding reset. -/
def outstandingReset (db : Db) (policy : PortTrafficPolicy) : Bool :=
  db.tasks.any fun task => task.targetHostID = some policy.hostID ∧
    task.action = "port_traffic_reset" ∧ (task.status = .pending ∨ task.status = .running) ∧
    task.parameters.get? "policy_id" = some policy.id

def scheduledResetParameters (policy : PortTrafficPolicy) (dueAt : Time) (boundary : Option Time) :
    Dict String :=
  .ofList (parameterEntries policy policy.mode policy.egressRateBps policy.resetPolicy boundary ++ [
    ("reason", "scheduled"),
    ("scheduled_for", isoformat dueAt),
    ("second_confirmation", "confirmed"),
    ("dry_run", "false")])

/-- One round of `dispatch_due_port_traffic_resets`. -/
def dispatchReset (env : Environment) (random : String → Entropy) (db : Db)
    (due : PortTrafficRuntimeState × Time) : Except ScheduleError Db :=
  let (runtime, dueAt) := due
  match (db.policy? runtime.policyID).filter (·.enabled) with
  | none => .ok db
  | some policy => do
      -- Validating a stored schedule again only looks up its zone.
      let _ ← zoneOf env.zoneInfo policy.resetPolicy.timezone
      if policy.resetPolicy.recurrence = .manual then
        return db.putRuntime { runtime with nextResetAt := none }
      else if !independentlyApproved policy then return db
      else if outstandingReset db policy then return db
      else
        match (db.host? policy.hostID).bind fun host => host.agent.filter (!·.revoked) with
        | none => return db
        | some agent =>
            let boundary ← nextResetAt env.zoneInfo policy.resetPolicy dueAt
            let task ← (createAgentTask env.key (random policy.id) db.clock {
              agentID := agent.id
              action := "port_traffic_reset"
              parameters := scheduledResetParameters policy dueAt boundary
              approvalID := policy.resetApprovalID
              requesterID := policy.resetRequestedBy
              approverID := policy.resetApprovedBy
              targetHostID := some policy.hostID }).mapError fun _ => .unexpected
            return db.addTask task

/-- The runtime rows with a reset that is due, as one query reads them. -/
def dueResets (db : Db) : List (PortTrafficRuntimeState × Time) :=
  db.runtimes.filterMap fun runtime =>
    (runtime.nextResetAt.filter (· ≤ db.clock)).map fun dueAt => (runtime, dueAt)

def dispatchDuePortTrafficResets (env : Environment) (db : Db) (random : String → Entropy) :
    Transaction := do
  commit (← ((dueResets db).foldlM (dispatchReset env random) db).mapError uncaught)

/-! ### The Controller -/

inductive Operation
  /-- Hosts and their Agents change by other endpoints. -/
  | hosts (hosts : List Host)
  | create (caller : Caller) (hostID : String) (payload : PortTrafficPolicyCreate)
      (policyID : BitVec 128) (random : Entropy)
  | update (caller : Caller) (hostID policyID : String) (payload : PortTrafficPolicyUpdate)
      (random : Entropy)
  | requestChange (caller : Caller) (hostID policyID : String) (payload : PortTrafficChangeRequest)
      (approvalID : BitVec 128)
  | requestReset (caller : Caller) (hostID policyID : String) (payload : PortTrafficResetRequest)
      (approvalID : BitVec 128)
  | decide (approvalID : String) (request : DecisionRequest) (named : request.userID ≠ "")
      (random : Nat → Entropy)
  | heartbeat (agentID : String) (results : List ActionResult) (observed : List (String × Nat))
  | dispatch (random : String → Entropy)

def transaction (env : Environment) (db : Db) : Operation → Transaction
  | .hosts hosts => commit { db with hosts := hosts }
  | .create caller hostID payload policyID random =>
      createPortTrafficPolicy env db caller hostID payload policyID random
  | .update caller hostID policyID payload random =>
      updatePortTrafficPolicy env db caller hostID policyID payload random
  | .requestChange caller hostID policyID payload approvalID =>
      requestPortTrafficChange env db caller hostID policyID payload approvalID
  | .requestReset caller hostID policyID payload approvalID =>
      requestPortTrafficReset env db caller hostID policyID payload approvalID
  | .decide approvalID request _ random => decideApproval env db approvalID request random
  | .heartbeat agentID results observed => agentHeartbeat env db agentID results observed
  | .dispatch random => dispatchDuePortTrafficResets env db random

/-- An operation and the time since the one before. -/
structure Input where
  elapsed : Nat
  operation : Operation

/-- The database at the time an input arrives. -/
def Db.arrive (db : Db) (input : Input) : Db := { db with clock := db.clock + input.elapsed }

def step (env : Environment) (db : Db) (input : Input) : Db :=
  match transaction env (db.arrive input) input.operation with
  | .ok db' => db'
  | .error _ => db.arrive input

/-! ### Fixtures for concrete runs -/

/-- A time zone database that knows UTC. -/
def utcOnly : ZoneInfo := fun name =>
  if name = "UTC" then .found ⟨fun _ => 0, fun _ => 0⟩ else .notFound

def echoEnvironment : Environment := ⟨Controller.echoKey, utcOnly, 30⟩

theorem alice_named : "alice" ≠ "" := by decide

theorem bob_named : "bob" ≠ "" := by decide

/-- An admin who may act on every group. -/
def alice : Caller := ⟨"alice", none, [], alice_named⟩

/-- A second admin approves, with everything that is asked for. -/
def approval (confirmation : String) : DecisionRequest :=
  ⟨"bob", .approved, confirmation, some "password", true, none, true⟩

theorem port80_valid : (1 ≤ 80 ∧ 80 ≤ 65535) ∧ (1 ≤ 80 ∧ 80 ≤ 65535) ∧ 80 ≤ 80 ∧
    80 - 80 + 1 ≤ 4096 := by decide

/-- TCP port 80 on every interface, in both directions. -/
def tcpPort80 (quotaBytes : Option Nat)
    (quotaBounds : ∀ quota ∈ quotaBytes, 0 < quota ∧ quota < 2 ^ 63) : PortTrafficPolicyCreate :=
  ⟨"http", .tcp, .both, 80, 80, none, quotaBytes, .empty, port80_valid,
    fun _ hname => absurd hname (Option.not_mem_none _), quotaBounds⟩

def unlimitedPort80 : PortTrafficPolicyCreate :=
  tcpPort80 none fun _ hquota => absurd hquota (Option.not_mem_none _)

/-- A payload that only enables or disables a policy. -/
def setEnabled (enabled : Bool) : PortTrafficPolicyUpdate :=
  { PortTrafficPolicyUpdate.unset with enabled := some (some enabled) }

theorem reason_length : 3 ≤ "because".length ∧ "because".length ≤ 500 := by decide

/-- A change to a mode without shaping. -/
def changeMode (mode : Mode) : PortTrafficChangeRequest :=
  ⟨mode, none, none, "because", fun _ hrate => absurd hrate (Option.not_mem_none _),
    reason_length⟩

theorem host_named : "host" ≠ "" := by decide

/-- One host with an Agent. -/
def oneHost : List Host := [⟨"host", none, some ⟨"agent", false⟩, host_named⟩]

/-- A heartbeat that reports how tasks ended. -/
def reports (results : List (BitVec 128 × Bool)) : Operation :=
  .heartbeat "agent" (results.map fun result =>
    ⟨Controller.uuid4 result.1, result.2, some 1⟩) []

/-- Operations, a second apart. -/
def secondly (operations : List Operation) : List Input :=
  operations.map fun operation => ⟨1000000, operation⟩

end VpsGuardian.PortPolicies
