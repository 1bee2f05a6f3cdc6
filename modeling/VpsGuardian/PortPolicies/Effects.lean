import VpsGuardian.PortPolicies.Reconciliation

/-!
What the operations on port traffic policies leave behind.

Each handler is taken apart once: a success says which checks passed and which
rows were written.
-/

namespace VpsGuardian.PortPolicies

open Lib
open Controller (Time HTTPException AgentTask Entropy createAgentTask uuid4)
open Controller.Decisions (Approval PlannedAction DecisionRequest)
open NetHelper (Protocol Direction Mode)

variable {env : Environment} {db db' : Db}

/-! ### Endpoints -/

/-- The rows a creation adds, and the checks they passed. -/
structure Creation (env : Environment) (db : Db) (caller : Caller) (hostID : String)
    (payload : PortTrafficPolicyCreate) (policyID : BitVec 128) (random : Entropy) (db' : Db) :
    Prop where
  intro ::
  constraints : db'.Constraints
  free : ensurePolicyCapacityAndNoOverlap db hostID (some payload.protocol) payload.portStart
    payload.portEnd none = .ok ()
  named : hostID ≠ ""
  rows : ∃ (agent : Agent) (resetPolicy : ResetPolicy) (parameters : Dict String)
      (task : AgentTask) (boundary : Option Time),
    validateResetPolicy env.zoneInfo payload.resetPolicy = .ok resetPolicy ∧
    portTrafficParameters env db.clock (newPolicy hostID (uuid4 policyID) payload resetPolicy)
      none none none = .ok parameters ∧
    policyTask env random db.clock agent caller hostID "port_traffic_apply" parameters = .ok task ∧
    db' = { db with
      policies := db.policies ++ [newPolicy hostID (uuid4 policyID) payload resetPolicy]
      runtimes := db.runtimes ++ [⟨uuid4 policyID, 1, boundary⟩]
      tasks := db.tasks ++ [task] }

/-- A host that a request acts on is a row of its own. -/
theorem admitted_ok {caller : Caller} {hostID : String} {host : Host} {agent : Agent}
    (h : admitted db caller hostID = .ok (host, agent)) :
    db.host? hostID = some host ∧ hostID ≠ "" := by
  unfold admitted at h
  obtain ⟨-, h⟩ := raiseIf_bind_eq_ok.mp h
  obtain ⟨⟨found, _⟩, hfound, h⟩ := bind_eq_ok.mp h
  obtain ⟨-, h⟩ := raiseIf_bind_eq_ok.mp h
  cases h
  unfold portTrafficHost at hfound
  obtain ⟨found, hlookup, hfound⟩ := orRaise_bind_eq_ok.mp hfound
  obtain ⟨_, -, hfound⟩ := orRaise_bind_eq_ok.mp hfound
  cases hfound
  have hid : host.id = hostID := Table.key_of_lookup hlookup
  exact ⟨hlookup, hid ▸ host.named⟩

theorem createPortTrafficPolicy_ok {caller : Caller} {hostID : String}
    {payload : PortTrafficPolicyCreate} {policyID : BitVec 128} {random : Entropy}
    (h : createPortTrafficPolicy env db caller hostID payload policyID random = .ok db') :
    Creation env db caller hostID payload policyID random db' := by
  unfold createPortTrafficPolicy at h
  obtain ⟨⟨_, agent⟩, hadmitted, h⟩ := bind_eq_ok.mp h
  obtain ⟨_, hfree, h⟩ := bind_eq_ok.mp h
  obtain ⟨resetPolicy, hreset, h⟩ := bind_eq_ok.mp h
  obtain ⟨-, h⟩ := raiseIf_bind_eq_ok.mp h
  obtain ⟨boundary, -, h⟩ := bind_eq_ok.mp h
  obtain ⟨parameters, hparameters, h⟩ := bind_eq_ok.mp h
  obtain ⟨task, htask, h⟩ := bind_eq_ok.mp h
  obtain ⟨hconstraints, rfl⟩ := commit_eq_ok.mp h
  exact ⟨hconstraints, mapError_eq_ok.mp hfree, (admitted_ok hadmitted).2, agent, resetPolicy,
    parameters, task, boundary, mapError_eq_ok.mp hreset, mapError_eq_ok.mp hparameters, htask, rfl⟩

/-- The row an update writes and the task it adds, and the checks they passed. -/
structure Update (env : Environment) (db : Db) (caller : Caller) (hostID policyID : String)
    (payload : PortTrafficPolicyUpdate) (random : Entropy) (policy updated : PortTrafficPolicy)
    (db' : Db) : Prop where
  intro ::
  constraints : db'.Constraints
  found : db.policy? policyID = some policy
  host : policy.hostID = hostID
  plain : payload.approvalID = false ∧ payload.egressRateBps = false ∧ payload.resetPolicy = false
  monitored : policy.mode ≠ .monitorOnly → payload.kernelFields = false
  range : updated.portStart ≤ updated.portEnd ∧ updated.portEnd - updated.portStart + 1 ≤ 4096
  free : ensurePolicyCapacityAndNoOverlap db hostID (some updated.protocol) updated.portStart
    updated.portEnd (some policy.id) = .ok ()
  direction : updated.direction = .rx → policy.egressRateBps.any (· ≠ 0) = false
  applied : payload.apply policy = some updated
  rows : ∃ (agent : Agent) (parameters : Dict String) (task : AgentTask),
    portTrafficParameters env db.clock updated none none none = .ok parameters ∧
    policyTask env random db.clock agent caller hostID
      (if updated.enabled then "port_traffic_apply" else "port_traffic_remove") parameters =
        .ok task ∧
    db' = (db.putPolicy updated).addTask task

/-- A payload leaves alone what identifies a row and what only approvals change. -/
theorem apply_eq_some {payload : PortTrafficPolicyUpdate} {policy updated : PortTrafficPolicy}
    (h : payload.apply policy = some updated) :
    (payload.protocol.getD (some policy.protocol) = some updated.protocol ∧
      payload.direction.getD (some policy.direction) = some updated.direction ∧
      payload.portStart.getD (some policy.portStart) = some updated.portStart ∧
      payload.portEnd.getD (some policy.portEnd) = some updated.portEnd) ∧
    (updated.id = policy.id ∧ updated.hostID = policy.hostID ∧ updated.mode = policy.mode ∧
      updated.egressRateBps = policy.egressRateBps ∧ updated.resetPolicy = policy.resetPolicy ∧
      updated.generation = policy.generation) ∧
    updated.interfaceName = payload.interfaceName.getD policy.interfaceName ∧
    updated.quotaBytes = payload.quotaBytes.getD policy.quotaBytes ∧
    updated.status = .pending := by
  unfold PortTrafficPolicyUpdate.apply at h
  simp only [Option.bind_eq_bind, Option.bind_eq_some_iff, Option.pure_def,
    Option.some.injEq] at h
  obtain ⟨name, -, enabled, -, protocol, hprotocol, direction, hdirection, portStart, hstart,
    portEnd, hend, rfl⟩ := h
  exact ⟨⟨hprotocol, hdirection, hstart, hend⟩, ⟨rfl, rfl, rfl, rfl, rfl, rfl⟩, rfl, rfl, rfl⟩

theorem portTrafficPolicy_ok {hostID policyID : String} {policy : PortTrafficPolicy}
    (h : portTrafficPolicy db hostID policyID = .ok policy) :
    db.policy? policyID = some policy ∧ policy.hostID = hostID := by
  obtain ⟨hfound, hhost⟩ := Option.filter_eq_some_iff.mp (orRaise_eq_ok.mp h)
  exact ⟨hfound, by simpa using hhost⟩

theorem updatePortTrafficPolicy_ok {caller : Caller} {hostID policyID : String}
    {payload : PortTrafficPolicyUpdate} {random : Entropy}
    (h : updatePortTrafficPolicy env db caller hostID policyID payload random = .ok db') :
    ∃ policy updated, Update env db caller hostID policyID payload random policy updated db' := by
  unfold updatePortTrafficPolicy at h
  obtain ⟨⟨_, agent⟩, -, h⟩ := bind_eq_ok.mp h
  obtain ⟨policy, hpolicy, h⟩ := bind_eq_ok.mp h
  obtain ⟨hfound, hhost⟩ := portTrafficPolicy_ok hpolicy
  obtain ⟨happroval, h⟩ := raiseIf_bind_eq_ok.mp h
  obtain ⟨hmonitored, h⟩ := raiseIf_bind_eq_ok.mp h
  obtain ⟨hreset, h⟩ := raiseIf_bind_eq_ok.mp h
  obtain ⟨candidateStart, hstart, h⟩ := orRaise_bind_eq_ok.mp h
  obtain ⟨candidateEnd, hend, h⟩ := orRaise_bind_eq_ok.mp h
  obtain ⟨hrange, h⟩ := raiseIf_bind_eq_ok.mp h
  obtain ⟨_, hfree, h⟩ := bind_eq_ok.mp h
  obtain ⟨hdirection, h⟩ := raiseIf_bind_eq_ok.mp h
  obtain ⟨updated, hupdated, h⟩ := orRaise_bind_eq_ok.mp h
  obtain ⟨parameters, hparameters, h⟩ := bind_eq_ok.mp h
  obtain ⟨task, htask, h⟩ := bind_eq_ok.mp h
  obtain ⟨hconstraints, rfl⟩ := commit_eq_ok.mp h
  obtain ⟨⟨hprotocol', hdirection', hstart', hend'⟩, -⟩ := apply_eq_some hupdated
  obtain rfl : candidateStart = updated.portStart := by simpa [hstart] using hstart'
  obtain rfl : candidateEnd = updated.portEnd := by simpa [hend] using hend'
  rw [hprotocol'] at hfree
  rw [not_or] at happroval
  refine ⟨policy, updated, hconstraints, hfound, hhost, ?_, ?_, ?_, mapError_eq_ok.mp hfree, ?_,
    hupdated, agent, parameters, task, mapError_eq_ok.mp hparameters, htask, rfl⟩
  · exact ⟨by simpa using happroval.1, by simpa using happroval.2, by simpa using hreset⟩
  · intro hmode
    have hfields := fun hset => hmonitored ⟨hmode, hset⟩
    simpa using hfields
  · omega
  · intro hrx
    have hrate := fun hany => hdirection ⟨by rw [hdirection', hrx], hany⟩
    simpa using hrate

theorem requestPortTrafficChange_ok {caller : Caller} {hostID policyID : String}
    {payload : PortTrafficChangeRequest} {approvalID : BitVec 128}
    (h : requestPortTrafficChange env db caller hostID policyID payload approvalID = .ok db') :
    db'.Constraints ∧ ∃ (policy : PortTrafficPolicy) (agent : Agent) (resetPolicy : ResetPolicy)
        (parameters : Dict String),
      db.policy? policyID = some policy ∧
      (payload.egressRateBps.isSome → policy.direction ≠ .rx) ∧
      requestedReset env policy payload = .ok resetPolicy ∧
      portTrafficParameters env db.clock policy (some payload.mode) payload.egressRateBps
        (some resetPolicy) = .ok parameters ∧
      db' = { db with approvals := db.approvals ++ [portTrafficChangeApproval env db.clock
        approvalID policy agent caller
        (if resetPolicy.equals policy.resetPolicy then "port_traffic_enforcement_change"
          else "port_traffic_reset_schedule_change") "port_traffic_apply" parameters] } := by
  unfold requestPortTrafficChange at h
  obtain ⟨⟨_, agent⟩, -, h⟩ := bind_eq_ok.mp h
  obtain ⟨policy, hpolicy, h⟩ := bind_eq_ok.mp h
  obtain ⟨hdirection, h⟩ := raiseIf_bind_eq_ok.mp h
  obtain ⟨resetPolicy, hreset, h⟩ := bind_eq_ok.mp h
  obtain ⟨parameters, hparameters, h⟩ := bind_eq_ok.mp h
  obtain ⟨hconstraints, rfl⟩ := commit_eq_ok.mp h
  exact ⟨hconstraints, policy, agent, resetPolicy, parameters, (portTrafficPolicy_ok hpolicy).1,
    fun hrate hrx => hdirection ⟨hrate, hrx⟩, hreset, mapError_eq_ok.mp hparameters, rfl⟩

theorem requestPortTrafficReset_ok {caller : Caller} {hostID policyID : String}
    {payload : PortTrafficResetRequest} {approvalID : BitVec 128}
    (h : requestPortTrafficReset env db caller hostID policyID payload approvalID = .ok db') :
    db'.Constraints ∧ ∃ (policy : PortTrafficPolicy) (agent : Agent) (parameters : Dict String),
      db.policy? policyID = some policy ∧
      portTrafficParameters env db.clock policy none none none = .ok parameters ∧
      db' = { db with approvals := db.approvals ++ [portTrafficChangeApproval env db.clock
        approvalID policy agent caller "port_traffic_counter_reset" "port_traffic_reset"
        (parameters.insert "reason" payload.reason)] } := by
  unfold requestPortTrafficReset at h
  obtain ⟨-, h⟩ := raiseIf_bind_eq_ok.mp h
  obtain ⟨-, h⟩ := raiseIf_bind_eq_ok.mp h
  obtain ⟨⟨_, agent⟩, -, h⟩ := bind_eq_ok.mp h
  obtain ⟨policy, hpolicy, h⟩ := bind_eq_ok.mp h
  obtain ⟨parameters, hparameters, h⟩ := bind_eq_ok.mp h
  obtain ⟨hconstraints, rfl⟩ := commit_eq_ok.mp h
  exact ⟨hconstraints, policy, agent, parameters, (portTrafficPolicy_ok hpolicy).1,
    mapError_eq_ok.mp hparameters, rfl⟩

/-- A decision marks an approval and adds the tasks of its plan. -/
theorem decideApproval_ok {approvalID : String} {request : DecisionRequest}
    {random : Nat → Entropy} (h : decideApproval env db approvalID request random = .ok db') :
    db'.Constraints ∧ ∃ approval, db.approval? approvalID = some approval ∧
      (db' = db.putApproval { approval with status := .expired, decidedAt := some db.clock } ∨
        ∃ plan tasks, approval.status = .pending ∧
          Controller.Decisions.checkDecision approval request = .ok () ∧
          Controller.Decisions.executablePlan ⟨db.agents, env.key⟩ approval request = .ok plan ∧
          createTasks ⟨db.agents, env.key⟩ approval request db.clock
            (plan.zipIdx.map fun item => (item.1, random item.2)) = .ok tasks ∧
          db' = { db.putApproval { approval with
              status := request.decision.status
              decidedAt := some db.clock
              decidedBy := some request.userID } with tasks := db.tasks ++ tasks }) := by
  unfold decideApproval at h
  obtain ⟨approval, hfound, h⟩ := orRaise_bind_eq_ok.mp h
  split at h
  · obtain ⟨hconstraints, rfl⟩ := commit_eq_ok.mp h
    exact ⟨hconstraints, approval, hfound, .inl rfl⟩
  · obtain ⟨⟨⟩, hchecked, h⟩ := bind_eq_ok.mp h
    obtain ⟨plan, hplan, h⟩ := bind_eq_ok.mp h
    obtain ⟨tasks, htasks, h⟩ := bind_eq_ok.mp h
    obtain ⟨hconstraints, rfl⟩ := commit_eq_ok.mp h
    have hpending : approval.status = .pending := by
      unfold Controller.Decisions.checkDecision at hchecked
      exact not_not.mp (raiseIf_bind_eq_ok.mp hchecked).1
    exact ⟨hconstraints, approval, hfound, .inr ⟨plan, tasks, hpending, hchecked, hplan, htasks,
      rfl⟩⟩

/-! ### The scheduler -/

/-- A round of the scheduler touches a runtime row or adds a task. -/
theorem dispatchReset_ok {random : String → Entropy} {due : PortTrafficRuntimeState × Time}
    (h : dispatchReset env random db due = .ok db') :
    db' = db ∨ db' = db.putRuntime { due.1 with nextResetAt := none } ∨
      ∃ (policy : PortTrafficPolicy) (agent : Agent) (boundary : Option Time) (task : AgentTask),
        db.policy? due.1.policyID = some policy ∧
        ((policy.enabled = true ∧ policy.resetPolicy.recurrence ≠ .manual) ∧
          independentlyApproved policy = true ∧
          ∃ host ∈ db.host? policy.hostID, agent ∈ host.agent ∧ agent.revoked = false) ∧
        outstandingReset db policy = false ∧
        nextResetAt env.zoneInfo policy.resetPolicy due.2 = .ok boundary ∧
        createAgentTask env.key (random policy.id) db.clock {
          agentID := agent.id
          action := "port_traffic_reset"
          parameters := scheduledResetParameters policy due.2 boundary
          approvalID := policy.resetApprovalID
          requesterID := policy.resetRequestedBy
          approverID := policy.resetApprovedBy
          targetHostID := some policy.hostID } = .ok task ∧
        db' = db.addTask task := by
  obtain ⟨runtime, dueAt⟩ := due
  simp only [dispatchReset] at h
  split at h
  · cases h
    exact .inl rfl
  next policy hpolicy =>
    obtain ⟨hfound, henabled⟩ := Option.filter_eq_some_iff.mp hpolicy
    obtain ⟨_, -, h⟩ := bind_eq_ok.mp h
    split_ifs at h with hmanual happroved houtstanding
    · cases h
      exact .inr (.inl rfl)
    · cases h
      exact .inl rfl
    · cases h
      exact .inl rfl
    · split at h
      · cases h
        exact .inl rfl
      next agent hagent =>
        obtain ⟨boundary, hboundary, h⟩ := bind_eq_ok.mp h
        obtain ⟨task, htask, h⟩ := bind_eq_ok.mp h
        cases h
        obtain ⟨host, hhost, hactive⟩ := Option.bind_eq_some_iff.mp hagent
        obtain ⟨hmem, hrevoked⟩ := Option.filter_eq_some_iff.mp hactive
        exact .inr (.inr ⟨policy, agent, boundary, task, hfound,
          ⟨⟨henabled, hmanual⟩, by simpa using happroved, host, hhost, hmem,
            by simpa using hrevoked⟩,
          by simpa using houtstanding, hboundary, mapError_eq_ok.mp htask, rfl⟩)

/-! ### Results -/

/-- What a result makes of the policy row. -/
inductive Outcome (policy : PortTrafficPolicy) (task : AgentTask) : PortTrafficPolicy → Prop
  | failed (hstatus : task.status ≠ .succeeded) :
      Outcome policy task { policy with status := .error }
  | applied {policy' : PortTrafficPolicy} (hstatus : task.status = .succeeded)
      (hdry : task.parameters.get "dry_run" ≠ "true") (haction : task.action = "port_traffic_apply")
      (happlied : applied policy task = .ok policy') : Outcome policy task policy'
  | unreadable {policy' : PortTrafficPolicy} (hstatus : task.status = .succeeded)
      (hdry : task.parameters.get "dry_run" ≠ "true") (haction : task.action = "port_traffic_apply")
      (happlied : applied policy task = .ok policy') :
      Outcome policy task { policy' with status := .error }
  | rescheduled {policy' : PortTrafficPolicy} (hstatus : task.status = .succeeded)
      (hdry : task.parameters.get "dry_run" ≠ "true") (haction : task.action = "port_traffic_apply")
      (happlied : applied policy task = .ok policy') (approval : Approval)
      {resetPolicy : ResetPolicy}
      (hloads : ResetPolicy.loads ((task.parameters.get? "reset_policy").getD "{}") =
        some resetPolicy) :
      Outcome policy task { policy' with
        resetPolicy := resetPolicy
        resetApprovalID := some approval.id
        resetRequestedBy := approval.requestedBy
        resetApprovedBy := task.approverID }
  | removed (hstatus : task.status = .succeeded)
      (hdry : task.parameters.get "dry_run" ≠ "true")
      (haction : task.action = "port_traffic_remove") :
      Outcome policy task { policy with status := .disabled }
  | reset (hstatus : task.status = .succeeded) (hdry : task.parameters.get "dry_run" ≠ "true")
      (haction : task.action ≠ "port_traffic_apply" ∧ task.action ≠ "port_traffic_remove")
      (generation : Int) : Outcome policy task { policy with generation := generation }

/-- The columns that only creation and updates write. -/
def PortTrafficPolicy.configuration (policy : PortTrafficPolicy) :
    (String × String × Bool) × Protocol × Direction × (Nat × Nat) × Option String × Option Nat :=
  ((policy.id, policy.hostID, policy.enabled), policy.protocol, policy.direction,
    (policy.portStart, policy.portEnd), policy.interfaceName, policy.quotaBytes)

theorem applied_ok {policy policy' : PortTrafficPolicy} {task : AgentTask}
    (h : applied policy task = .ok policy') : ∃ (mode : Mode) (rate : Int),
      ((task.parameters.get? "mode").map Mode.parse?).getD (some policy.mode) = some mode ∧
      pythonInt? ((task.parameters.get? "egress_rate_bps").getD "0") = some rate ∧
      ¬ (rate ≠ 0 ∧ rate < 8000) ∧
      policy' = { policy with
        mode := mode
        egressRateBps := if rate = 0 then none else some rate.toNat
        approvedBy := task.approverID
        status := .active } := by
  unfold applied at h
  obtain ⟨mode, hmode, h⟩ := orRaise_bind_eq_ok.mp h
  obtain ⟨rate, hrate, h⟩ := orRaise_bind_eq_ok.mp h
  obtain ⟨hbounds, h⟩ := raiseIf_bind_eq_ok.mp h
  cases h
  exact ⟨mode, rate, hmode, hrate, hbounds, rfl⟩

theorem Outcome.configuration {policy policy' : PortTrafficPolicy} {task : AgentTask}
    (h : Outcome policy task policy') : policy'.configuration = policy.configuration := by
  have happlied {policy' : PortTrafficPolicy}
      (h : PortPolicies.applied policy task = .ok policy') :
      policy'.configuration = policy.configuration := by
    obtain ⟨mode, rate, -, -, -, rfl⟩ := applied_ok h
    rfl
  cases h with
  | failed => rfl
  | applied _ _ _ h => exact happlied h
  | unreadable _ _ _ h => exact (happlied h :)
  | rescheduled _ _ _ h => exact (happlied h :)
  | removed => rfl
  | reset => rfl

theorem schedule_ok {policyID : String} {resetPolicy : ResetPolicy} {after : Time}
    (h : db.schedule env policyID resetPolicy after = .ok db') :
    ∃ runtimes, db' = { db with runtimes := runtimes } := by
  unfold Db.schedule at h
  split at h
  · cases h
    exact ⟨_, rfl⟩
  · obtain ⟨boundary, -, h⟩ := bind_eq_ok.mp h
    cases h
    exact ⟨_, rfl⟩

theorem closeApproval_eq (db : Db) (task : AgentTask) :
    ∃ approvals, closeApproval db task = { db with approvals := approvals } ∧
      (approvals = db.approvals ∨ ∃ approval ∈ db.approvals, ∃ status,
        approvals = Table.put (·.id) { approval with status := status } db.approvals) := by
  unfold closeApproval
  split
  next approval hfound =>
    obtain ⟨_, -, hlookup⟩ := Option.bind_eq_some_iff.mp hfound
    by_cases hopen : approval.status = .approved ∨ approval.status = .dryRunOnly ∨
        approval.status = .executing
    · rw [if_pos hopen]
      exact ⟨_, rfl, .inr ⟨approval, Table.mem_of_lookup hlookup, _, rfl⟩⟩
    · rw [if_neg hopen]
      exact ⟨db.approvals, rfl, .inl rfl⟩
  · exact ⟨db.approvals, rfl, .inl rfl⟩

/-- What is recorded of a task changes one policy row, and else only runtimes and reset
events. -/
structure Noted (db : Db) (task : AgentTask) (db' : Db) : Prop where
  intro ::
  rest : db' = { db with
    policies := db'.policies
    runtimes := db'.runtimes
    resetEvents := db'.resetEvents }
  policies : db'.policies = db.policies ∨
    ∃ policy policy', db.policy? (task.parameters.get "policy_id") = some policy ∧
      Outcome policy task policy' ∧ db'.policies = Table.put (·.id) policy' db.policies

/-- A result also closes the approval of its task. -/
structure Recorded (db : Db) (task : AgentTask) (db' : Db) : Prop where
  intro ::
  rest : db' = { db with
    policies := db'.policies
    runtimes := db'.runtimes
    approvals := db'.approvals
    resetEvents := db'.resetEvents }
  policies : db'.policies = db.policies ∨
    ∃ policy policy', db.policy? (task.parameters.get "policy_id") = some policy ∧
      Outcome policy task policy' ∧ db'.policies = Table.put (·.id) policy' db.policies
  approvals : db'.approvals = db.approvals ∨ ∃ approval ∈ db.approvals, ∃ status,
    db'.approvals = Table.put (·.id) { approval with status := status } db.approvals

theorem recordApply_ok {policy : PortTrafficPolicy} {task : AgentTask}
    (hfound : db.policy? (task.parameters.get "policy_id") = some policy)
    (hstatus : task.status = .succeeded) (hdry : task.parameters.get "dry_run" ≠ "true")
    (haction : task.action = "port_traffic_apply")
    (h : recordApply env db policy task = .ok db') : Noted db task db' := by
  unfold recordApply at h
  obtain ⟨policy', happlied, h⟩ := bind_eq_ok.mp h
  split at h
  next approval _ =>
    split_ifs at h
    · split at h
      · cases h
        exact ⟨rfl, .inr ⟨policy, _, hfound, .unreadable hstatus hdry haction happlied, rfl⟩⟩
      next resetPolicy hloads =>
        obtain ⟨runtimes, rfl⟩ := schedule_ok h
        exact ⟨rfl, .inr ⟨policy, _, hfound,
          .rescheduled hstatus hdry haction happlied approval hloads, rfl⟩⟩
    · cases h
      exact ⟨rfl, .inr ⟨policy, _, hfound, .applied hstatus hdry haction happlied, rfl⟩⟩
  · cases h
    exact ⟨rfl, .inr ⟨policy, _, hfound, .applied hstatus hdry haction happlied, rfl⟩⟩

theorem recordFailure_ok {policy : PortTrafficPolicy} {task : AgentTask}
    (hfound : db.policy? (task.parameters.get "policy_id") = some policy)
    (hstatus : task.status ≠ .succeeded)
    (h : recordFailure env db policy task = .ok db') : Noted db task db' := by
  unfold recordFailure at h
  dsimp only at h
  split_ifs at h
  · obtain ⟨runtimes, rfl⟩ := schedule_ok h
    exact ⟨rfl, .inr ⟨policy, _, hfound, .failed hstatus, rfl⟩⟩
  · cases h
    exact ⟨rfl, .inr ⟨policy, _, hfound, .failed hstatus, rfl⟩⟩

theorem recordReset_ok {policy : PortTrafficPolicy} {task : AgentTask} {reported : Option Int}
    (hfound : db.policy? (task.parameters.get "policy_id") = some policy)
    (hstatus : task.status = .succeeded) (hdry : task.parameters.get "dry_run" ≠ "true")
    (haction : task.action ≠ "port_traffic_apply" ∧ task.action ≠ "port_traffic_remove")
    (h : recordReset env db policy task reported = .ok db') : Noted db task db' := by
  unfold recordReset at h
  dsimp only at h
  split at h
  · cases h
    exact ⟨rfl, .inr ⟨policy, _, hfound, .reset hstatus hdry haction _, rfl⟩⟩
  · obtain ⟨runtimes, rfl⟩ := schedule_ok h
    exact ⟨rfl, .inr ⟨policy, _, hfound, .reset hstatus hdry haction _, rfl⟩⟩

theorem recordOutcome_ok {policy : PortTrafficPolicy} {task : AgentTask} {reported : Option Int}
    (hfound : db.policy? (task.parameters.get "policy_id") = some policy)
    (h : recordOutcome env db policy task reported = .ok db') : Noted db task db' := by
  unfold recordOutcome at h
  split_ifs at h with hstatus hdry happly hremove
  · exact recordFailure_ok hfound hstatus h
  · cases h
    exact ⟨rfl, .inl rfl⟩
  · exact recordApply_ok hfound (not_not.mp hstatus) hdry happly h
  · cases h
    exact ⟨rfl, .inr ⟨policy, _, hfound, .removed (not_not.mp hstatus) hdry hremove, rfl⟩⟩
  · exact recordReset_ok hfound (not_not.mp hstatus) hdry ⟨happly, hremove⟩ h

theorem recordPortTrafficResult_ok {task : AgentTask} {reported : Option Int}
    (h : recordPortTrafficResult env db task reported = .ok db') : Recorded db task db' := by
  unfold recordPortTrafficResult at h
  split at h
  · cases h
    exact ⟨rfl, .inl rfl, .inl rfl⟩
  next policy hfound =>
    obtain ⟨recorded, hrecorded, rfl⟩ := map_eq_ok.mp h
    obtain ⟨hrest, hpolicies⟩ := recordOutcome_ok hfound hrecorded
    have hkept : recorded.approvals = db.approvals := by rw [hrest]
    obtain ⟨approvals, heq, happrovals⟩ := closeApproval_eq recorded task
    rw [heq]
    refine ⟨?_, hpolicies, ?_⟩
    · rw [hrest]
    · rw [hkept] at happrovals
      exact happrovals

@[simp] theorem finished_action (task : AgentTask) (success : Bool) :
    (finished task success).action = task.action := rfl

@[simp] theorem finished_parameters (task : AgentTask) (success : Bool) :
    (finished task success).parameters = task.parameters := rfl

theorem finished_status {task : AgentTask} {success : Bool} :
    (finished task success).status = .succeeded ↔ success = true := by
  cases success <;> simp [finished]

theorem recordAgentResult_ok {agentID : String} {result : ActionResult}
    (h : recordAgentResult env agentID db result = .ok db') :
    db' = db ∨ ∃ task, db.task? result.taskID = some task ∧ task.agentID = agentID ∧
      terminal task.status = false ∧
      ((task.action ∉ portTrafficActions ∧ db' = db.putTask (finished task result.success)) ∨
        (task.action ∈ portTrafficActions ∧
          recordPortTrafficResult env (db.putTask (finished task result.success))
            (finished task result.success) result.generation = .ok db')) := by
  unfold recordAgentResult at h
  split at h
  · cases h
    exact .inl rfl
  next task htask =>
    obtain ⟨hfound, hagent⟩ := Option.filter_eq_some_iff.mp htask
    dsimp only at h
    split_ifs at h with hterminal haction
    · cases h
      exact .inl rfl
    · exact .inr ⟨task, hfound, by simpa using hagent, by simpa using hterminal,
        .inr ⟨haction, h⟩⟩
    · cases h
      exact .inr ⟨task, hfound, by simpa using hagent, by simpa using hterminal,
        .inl ⟨haction, rfl⟩⟩

/-! ### Every operation -/

theorem agentHeartbeat_ok {agentID : String} {results : List ActionResult}
    {observed : List (String × Nat)}
    (h : agentHeartbeat env db agentID results observed = .ok db') :
    db'.Constraints ∧ ∃ recorded,
      results.foldlM (recordAgentResult env agentID) db = .ok recorded ∧
      db' = (deliverable (observed.foldl recordGeneration recorded) agentID).foldl
        (fun db task => db.putTask { task with status := .delivered })
        (observed.foldl recordGeneration recorded) := by
  unfold agentHeartbeat at h
  obtain ⟨-, h⟩ := raiseIf_bind_eq_ok.mp h
  obtain ⟨recorded, hrecorded, h⟩ := bind_eq_ok.mp h
  obtain ⟨hconstraints, rfl⟩ := commit_eq_ok.mp h
  exact ⟨hconstraints, recorded, mapError_eq_ok.mp hrecorded, rfl⟩

theorem dispatchDuePortTrafficResets_ok {random : String → Entropy}
    (h : dispatchDuePortTrafficResets env db random = .ok db') :
    db'.Constraints ∧ (dueResets db).foldlM (dispatchReset env random) db = .ok db' := by
  unfold dispatchDuePortTrafficResets at h
  obtain ⟨dispatched, hdispatched, h⟩ := bind_eq_ok.mp h
  obtain ⟨hconstraints, rfl⟩ := commit_eq_ok.mp h
  exact ⟨hconstraints, mapError_eq_ok.mp hdispatched⟩

/-- A transaction commits only what the constraints admit. -/
theorem transaction_constraints {operation : Operation}
    (h : transaction env db operation = .ok db') : db'.Constraints := by
  cases operation with
  | hosts hosts =>
    obtain ⟨hconstraints, rfl⟩ := commit_eq_ok.mp h
    exact hconstraints
  | create => exact (createPortTrafficPolicy_ok h).constraints
  | update =>
    obtain ⟨_, _, hupdate⟩ := updatePortTrafficPolicy_ok h
    exact hupdate.constraints
  | requestChange => exact (requestPortTrafficChange_ok h).1
  | requestReset => exact (requestPortTrafficReset_ok h).1
  | decide => exact (decideApproval_ok h).1
  | heartbeat => exact (agentHeartbeat_ok h).1
  | dispatch => exact (dispatchDuePortTrafficResets_ok h).1

theorem Db.Constraints.arrive (h : db.Constraints) (input : Input) :
    (db.arrive input).Constraints :=
  ⟨h.policyIDs, h.runtimeIDs, h.approvalIDs, h.taskIDs, h.generations⟩

theorem Db.Constraints.empty : Db.empty.Constraints := by decide

/-- A step commits a transaction, or only lets time pass. -/
theorem step_cases (env : Environment) (db : Db) (input : Input) :
    transaction env (db.arrive input) input.operation = .ok (step env db input) ∨
      step env db input = db.arrive input := by
  unfold step
  cases h : transaction env (db.arrive input) input.operation with
  | ok db' => exact .inl rfl
  | error e => exact .inr rfl

theorem step_constraints (h : db.Constraints) (input : Input) :
    (step env db input).Constraints := by
  rcases step_cases env db input with htransaction | hfailed
  · exact transaction_constraints htransaction
  · rw [hfailed]
    exact h.arrive input

end VpsGuardian.PortPolicies
