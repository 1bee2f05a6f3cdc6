import VpsGuardian.Controller.AgentSecurity
import VpsGuardian.Repair.Records

/-!
Runbooks and the plans made from them (`runbooks.py`).
-/

namespace VpsGuardian.Repair

open Lib Controller

inductive ConditionType
  | faultType
  | agentOnline
  | verifiedRecoveryPoint
  | changedWithin
  | serviceLevel2Enabled
  deriving DecidableEq, Repr

/-- The `value` of a condition. A number is kept as its text and whether it is zero. -/
inductive ConditionValue
  | string (s : String)
  | bool (b : Bool)
  | number (text : String) (isZero : Bool)
  deriving DecidableEq, Repr

structure Condition where
  type : ConditionType
  value : Option ConditionValue
  deriving DecidableEq, Repr

/-- A document that `load_runbook` accepts. -/
structure Runbook where
  name : String
  riskLevel : Int
  conditions : List Condition
  actions : List PlannedAction
  postchecks : List PlannedAction
  cooldown : Time
  maxAttempts : Nat
  known : riskLevel = 1 ∨ riskLevel = 2 ∨ riskLevel = 3
  cooldown_pos : 0 < cooldown
  maxAttempts_pos : 1 ≤ maxAttempts

/-- `bool(value)` -/
def truthy : Option ConditionValue → Bool
  | some (.string s) => s != ""
  | some (.bool b) => b
  | some (.number _ isZero) => !isZero
  | none => false

/-- `str(value)` -/
def pythonStr : Option ConditionValue → String
  | some (.string s) => s
  | some (.bool b) => if b then "True" else "False"
  | some (.number text _) => text
  | none => "None"

def parseDuration (value : String) : Except String Time := do
  let amount ← orRaise (pythonInt (.ofList value.toList.dropLast)) "invalid literal for int()"
  match value.toList.getLast? with
  | some 's' => return seconds amount
  | some 'm' => return seconds (60 * amount)
  | some 'h' => return seconds (3600 * amount)
  | _ => .error "unknown unit"

/-- The entry of a context as a flag. -/
def flag (context : Dict String) (key : String) : Bool :=
  ((context.get? key).getD "false").toLower == "true"

/-- Why a condition does not match, if it does not. -/
def mismatch (faultType : String) (context : Dict String) (level2Enabled : Bool)
    (condition : Condition) : Except String (Option String) :=
  match condition.type with
  | .faultType => .ok <|
      if condition.value = some (.string faultType) then none
      else some "fault type condition did not match"
  | .agentOnline => .ok <|
      if flag context "agent_online" = truthy condition.value then none
      else some "agent online condition did not match"
  | .verifiedRecoveryPoint => .ok <|
      if flag context "verified_recovery_point" = truthy condition.value then none
      else some "verified recovery point is required"
  | .serviceLevel2Enabled => .ok <|
      if level2Enabled = truthy condition.value then none
      else some "service Level 2 repair is disabled"
  | .changedWithin => do
      let changed ← orRaise (pythonInt ((context.get? "changed_seconds_ago").getD "999999999"))
        "invalid literal for int()"
      let window ← parseDuration (pythonStr condition.value)
      return if window < seconds changed then some "recent change window did not match" else none

/-- The reason of the first condition that does not match, if there is one. -/
def conditionsMatch (faultType : String) (context : Dict String) (level2Enabled : Bool) :
    List Condition → Except String (Option String)
  | [] => .ok none
  | condition :: conditions => do
    match ← mismatch faultType context level2Enabled condition with
    | some reason => return some reason
    | none => conditionsMatch faultType context level2Enabled conditions

def contextVariables : List String := ["service", "container", "systemd_unit", "config_path",
  "health_url", "recovery_point", "restore_target", "cache_path"]

/-- The name in a parameter of the form `CONTEXT_VARIABLE` matches. -/
def contextVariable? (value : String) : Option String :=
  contextVariables.find? fun name => value == "$\x7b" ++ name ++ "\x7d"

def interpolateParameters (parameters context : Dict String) : Except String (Dict String) :=
  parameters.entries.foldlM (fun output entry => do
    let value : String := match contextVariable? entry.2 with
      | some name => (context.get? name).getD ""
      | none => entry.2
    raiseIf (value == "") ("runbook parameter " ++ entry.1 ++ " resolved to an empty value")
    return output.insert entry.1 value) Dict.empty

/-- The actions with their parameters filled in. -/
def fillIn (actions : List PlannedAction) (context : Dict String) (dryRun : String) :
    Except String (List PlannedAction) :=
  actions.mapM fun action => do
    let parameters ← interpolateParameters action.parameters context
    return ⟨action.type, parameters.insert "dry_run" dryRun⟩

def approvalOnlyActions : List String :=
  ["restore_database", "modify_dns", "modify_firewall", "rebuild_host"]

/-- The ids and nonces drawn for one plan. -/
structure Draws where
  incidentID : String
  approvalID : String
  attemptID : String
  tasks : Nat → Entropy

structure Settings where
  key : SigningKey
  approvalTTLMinutes : Int

/-- The keyword arguments of `plan` that are the same for all plans of a heartbeat. -/
structure PlanRequest where
  runbook : Runbook
  incident : Incident
  agentID : String
  hostID : String
  context : Dict String
  level2Enabled : Bool

structure RepairPlan where
  dryRun : Bool
  requiresApproval : Bool
  actions : List PlannedAction
  reason : String
  taskIDs : List String

/-- The attempts of an incident with a runbook, newest first. -/
def attemptsOf (attempts : List RepairAttempt) (incidentID action : String) :
    List RepairAttempt :=
  (attempts.filter fun attempt =>
    attempt.incidentID == incidentID && attempt.action == action).insertionSort
      fun a b => b.createdAt ≤ a.createdAt

def Runbook.requiresApproval (runbook : Runbook) (dryRun level2Enabled : Bool) : Bool :=
  !dryRun && (runbook.riskLevel == 3 || (runbook.riskLevel == 2 && !level2Enabled))

/-- The tasks of the dispatched actions. -/
def createTasks (settings : Settings) (now : Time) (request : PlanRequest) (dryRun : Bool)
    (draws : Nat → Entropy) : Nat → List PlannedAction → Except String (List TaskRow)
  | _, [] => .ok []
  | index, action :: actions => do
    if action.type ∈ approvalOnlyActions then
      raiseIf (dryRun = false) "approval-only action cannot be dispatched to an agent"
      createTasks settings now request dryRun draws index actions
    else
      let task ← createAgentTask settings.key (draws index) now {
        agentID := request.agentID
        action := action.type
        parameters := action.parameters
        targetHostID := some request.hostID }
      let tasks ← createTasks settings now request dryRun draws (index + 1) actions
      return { task with
        result := none
        verificationResult := none
        startedAt := none
        completedAt := none } :: tasks

variable {ρ : Type}

/-- The rows are added to the tables, unless a primary key is taken. -/
def Db.add (db : Db ρ) (tasks : List TaskRow) (approvals : List Approval)
    (attempt : RepairAttempt) : Except String (Db ρ) := do
  raiseIf (¬((db.tasks ++ tasks).map (·.id)).Nodup) "duplicate key in agent_tasks"
  raiseIf (¬((db.attempts ++ [attempt]).map (·.id)).Nodup) "duplicate key in repair_attempts"
  return { db with
    tasks := db.tasks ++ tasks
    approvals := db.approvals ++ approvals
    attempts := db.attempts ++ [attempt] }

/-- The postchecks that belong to the plan. -/
def planChecks (request : PlanRequest) (dryRun requiresApproval : Bool) :
    Except String (List PlannedAction) :=
  if requiresApproval then fillIn request.runbook.postchecks request.context "true"
  else if dryRun then .ok []
  else fillIn request.runbook.postchecks request.context "false"

/-- The tasks of a plan that needs no approval. -/
def planTasks (settings : Settings) (now : Time) (request : PlanRequest)
    (dryRun requiresApproval : Bool) (draws : Draws) (actions : List PlannedAction) :
    Except String (List TaskRow) :=
  if requiresApproval then .ok []
  else createTasks settings now request dryRun draws.tasks 0 actions

/-- `RepairOrchestrator.plan` -/
def plan (settings : Settings) (now : Time) (db : Db ρ) (request : PlanRequest) (dryRun : Bool)
    (draws : Draws) : Except String (Db ρ × RepairPlan) := do
  let runbook := request.runbook
  let blocked (reason : String) : Db ρ × RepairPlan := (db, ⟨true, true, [], reason, []⟩)
  match ← conditionsMatch request.incident.faultType request.context
    (request.level2Enabled || dryRun) runbook.conditions with
  | some reason => return blocked reason
  | none =>
    let actualAttempts := (attemptsOf db.attempts request.incident.id runbook.name).filter
      fun attempt => !attempt.dryRun
    if runbook.maxAttempts ≤ actualAttempts.length then
      return blocked "maximum repair attempts reached; incident must be escalated"
    else if dryRun = false ∧ actualAttempts.head?.any
        (fun latest => decide (now < latest.createdAt + runbook.cooldown)) then
      return blocked "repair cooldown is active; incident remains escalated"
    else
      let requiresApproval := runbook.requiresApproval dryRun request.level2Enabled
      let isDryRun := dryRun || requiresApproval
      let actions ← fillIn runbook.actions request.context (if isDryRun then "true" else "false")
      let checked ← planChecks request dryRun requiresApproval
      let tasks ← planTasks settings now request dryRun requiresApproval draws (actions ++ checked)
      let approvals := if requiresApproval then [{
        id := draws.approvalID
        incidentID := request.incident.id
        actionName := runbook.name
        riskLevel := runbook.riskLevel
        status := .pending
        agentID := request.agentID
        actions := actions ++ checked
        service := request.context.get? "service"
        requestedAt := now
        expiresAt := now + minutes settings.approvalTTLMinutes
        requestedBy := none
        targetHostID := some request.hostID }] else []
      let attempt : RepairAttempt := {
        id := draws.attemptID
        incidentID := request.incident.id
        action := runbook.name
        dryRun := isDryRun
        success := none
        context := request.context
        taskIDs := tasks.map (·.id)
        taskStatuses := none
        createdAt := now }
      let db ← db.add tasks approvals attempt
      return (db, ⟨isDryRun, requiresApproval, actions ++ checked,
        if requiresApproval then "approval required" else "plan accepted", tasks.map (·.id)⟩)

/-! ### What a plan adds -/

theorem mem_attemptsOf {attempts : List RepairAttempt} {incidentID action : String}
    {attempt : RepairAttempt} : attempt ∈ attemptsOf attempts incidentID action ↔
      attempt ∈ attempts ∧ attempt.incidentID = incidentID ∧ attempt.action = action := by
  simp [attemptsOf, List.mem_insertionSort]

/-- The tables after a plan that was accepted: one attempt more, and the rows it came with. -/
structure Planned (now : Time) (db : Db ρ) (request : PlanRequest) (dryRun : Bool)
    (attempt : RepairAttempt) (after : Db ρ) : Prop where
  matched : conditionsMatch request.incident.faultType request.context
    (request.level2Enabled || dryRun) request.runbook.conditions = .ok none
  below : ((attemptsOf db.attempts request.incident.id request.runbook.name).filter
    fun attempt => !attempt.dryRun).length < request.runbook.maxAttempts
  incidentID : attempt.incidentID = request.incident.id
  action : attempt.action = request.runbook.name
  isDryRun : attempt.dryRun =
    (dryRun || request.runbook.requiresApproval dryRun request.level2Enabled)
  success : attempt.success = none
  createdAt : attempt.createdAt = now
  attempts : after.attempts = db.attempts ++ [attempt]
  incidents : after.incidents = db.incidents
  keys : after.Keys

theorem add_eq_ok {db after : Db ρ} {tasks : List TaskRow} {approvals : List Approval}
    {attempt : RepairAttempt} (h : db.add tasks approvals attempt = .ok after) :
    after = { db with
      tasks := db.tasks ++ tasks
      approvals := db.approvals ++ approvals
      attempts := db.attempts ++ [attempt] } ∧ after.Keys := by
  unfold Db.add at h
  obtain ⟨htasks, h⟩ := raiseIf_bind_eq_ok.mp h
  obtain ⟨hattempts, h⟩ := raiseIf_bind_eq_ok.mp h
  cases h
  exact ⟨rfl, not_not.mp htasks, not_not.mp hattempts⟩

theorem plan_cases {settings : Settings} {now : Time} {db after : Db ρ} {request : PlanRequest}
    {dryRun : Bool} {draws : Draws} {result : RepairPlan}
    (h : plan settings now db request dryRun draws = .ok (after, result)) :
    after = db ∨ ∃ attempt, Planned now db request dryRun attempt after := by
  unfold plan at h
  obtain ⟨reason, hmatched, h⟩ := bind_eq_ok.mp h
  cases reason with
  | some reason =>
    cases h
    exact .inl rfl
  | none =>
    dsimp only at h
    split at h
    · cases h
      exact .inl rfl
    rename_i hbelow
    split at h
    · cases h
      exact .inl rfl
    obtain ⟨actions, -, h⟩ := bind_eq_ok.mp h
    obtain ⟨checked, -, h⟩ := bind_eq_ok.mp h
    obtain ⟨tasks, -, h⟩ := bind_eq_ok.mp h
    obtain ⟨added, hadded, h⟩ := bind_eq_ok.mp h
    cases h
    obtain ⟨hafter, hkeys⟩ := add_eq_ok hadded
    exact .inr ⟨_, hmatched, not_le.mp hbelow, rfl, rfl, rfl, rfl, rfl, by rw [hafter],
      by rw [hafter], hkeys⟩

end VpsGuardian.Repair
