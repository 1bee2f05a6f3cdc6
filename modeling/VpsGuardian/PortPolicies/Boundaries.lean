import VpsGuardian.PortPolicies.Feasibility

/-!
The boundaries of scheduled resets.

A runtime row gets a boundary from `next_reset_at` only: when a schedule changes,
when a reset is reported, and when a scheduled one fails.
-/

namespace VpsGuardian.PortPolicies

open Lib
open Controller (Time AgentTask TaskStatus Entropy createAgentTask seconds)
open Controller.Decisions (Approval PlannedAction DecisionRequest)

/-! ### Results -/

/-- The task is the reset of a schedule's boundary. -/
def Scheduled (task : AgentTask) : Prop :=
  task.action = "port_traffic_reset" ∧ task.parameters.get "scheduled_for" ≠ ""

instance (task : AgentTask) : Decidable (Scheduled task) := inferInstanceAs (Decidable (_ ∧ _))

/-- A result that leaves the boundary: no success of a reset, and no failure of a scheduled one. -/
def Leaves (task : AgentTask) : Prop :=
  (task.status = .succeeded → task.action = "port_traffic_reset" →
    task.parameters.get "dry_run" = "true") ∧
  (task.status ≠ .succeeded → ¬Scheduled task)

/-- What the result of a task makes of the runtime row of its policy. -/
inductive Moved (env : Environment) (clock : Time) (task : AgentTask) (policyID : String)
    (runtimes : List PortTrafficRuntimeState) : List PortTrafficRuntimeState → Prop
  | missing (hruntime : Table.lookup (·.policyID) policyID runtimes = none) :
      Moved env clock task policyID runtimes runtimes
  | kept (hleaves : Leaves task) : Moved env clock task policyID runtimes runtimes
  | moved {runtime : PortTrafficRuntimeState}
      (hruntime : Table.lookup (·.policyID) policyID runtimes = some runtime) (generation : Int)
      {resetPolicy : ResetPolicy} {after : Time} {boundary : Option Time}
      (hafter : after = clock ∨ (task.status ≠ .succeeded ∧ Scheduled task ∧
        after = (datetimeFromISOFormat (task.parameters.get "scheduled_for")).getD clock))
      (hnext : nextResetAt env.zoneInfo resetPolicy after = .ok boundary) :
      Moved env clock task policyID runtimes (Table.put (·.policyID)
        { runtime with counterGeneration := generation, nextResetAt := boundary } runtimes)

section Results

variable {env : Environment} {db db' : Db} {policy : PortTrafficPolicy} {task : AgentTask}

theorem schedule_moved {clock : Time} {runtimes : List PortTrafficRuntimeState}
    {policyID : String} {resetPolicy : ResetPolicy} {after : Time}
    (h : db.schedule env policyID resetPolicy after = .ok db') (hruntimes : db.runtimes = runtimes)
    (hafter : after = clock ∨ (task.status ≠ .succeeded ∧ Scheduled task ∧
      after = (datetimeFromISOFormat (task.parameters.get "scheduled_for")).getD clock)) :
    Moved env clock task policyID runtimes db'.runtimes := by
  subst hruntimes
  unfold Db.schedule at h
  split at h
  next hruntime =>
    cases h
    exact .missing hruntime
  next runtime hruntime =>
    obtain ⟨boundary, hnext, h⟩ := bind_eq_ok.mp h
    cases h
    exact .moved hruntime runtime.counterGeneration hafter hnext

theorem putRuntime_schedule {policyID : String} {runtime : PortTrafficRuntimeState}
    {generation : Int} {resetPolicy : ResetPolicy} {after : Time}
    (hruntime : db.runtime? policyID = some runtime)
    (h : (db.putRuntime { runtime with counterGeneration := generation }).schedule env policyID
      resetPolicy after = .ok db') :
    ∃ boundary, nextResetAt env.zoneInfo resetPolicy after = .ok boundary ∧
      db'.runtimes = Table.put (·.policyID)
        { runtime with counterGeneration := generation, nextResetAt := boundary } db.runtimes := by
  have hkey : runtime.policyID = policyID := Table.key_of_lookup hruntime
  have hfound : (db.putRuntime { runtime with counterGeneration := generation }).runtime? policyID =
      some { runtime with counterGeneration := generation } := Table.lookup_put hruntime hkey
  rw [Db.schedule, hfound] at h
  obtain ⟨boundary, hnext, h⟩ := bind_eq_ok.mp h
  cases h
  exact ⟨boundary, hnext, Table.put_put _ rfl⟩

theorem recordFailure_moved (hstatus : task.status ≠ .succeeded)
    (h : recordFailure env db policy task = .ok db') :
    Moved env db.clock task policy.id db.runtimes db'.runtimes := by
  unfold recordFailure at h
  dsimp only at h
  split_ifs at h with hscheduled
  · exact schedule_moved h rfl (.inr ⟨hstatus, hscheduled, rfl⟩)
  · cases h
    exact .kept ⟨fun hsucceeded => absurd hsucceeded hstatus, fun _ => hscheduled⟩

theorem recordApply_moved (hstatus : task.status = .succeeded)
    (haction : task.action = "port_traffic_apply") (h : recordApply env db policy task = .ok db') :
    Moved env db.clock task policy.id db.runtimes db'.runtimes := by
  have hleaves : Leaves task := by
    refine ⟨fun _ hreset => ?_, fun hfailed => absurd hstatus hfailed⟩
    rw [haction] at hreset
    exact absurd hreset (by decide)
  unfold recordApply at h
  obtain ⟨policy', happlied, h⟩ := bind_eq_ok.mp h
  have hid : policy'.id = policy.id := by
    obtain ⟨_, _, -, -, -, rfl⟩ := applied_ok happlied
    rfl
  split at h
  next approval _ =>
    split_ifs at h
    · split at h
      · cases h
        exact .kept hleaves
      · exact hid ▸ schedule_moved h rfl (.inl rfl)
    · cases h
      exact .kept hleaves
  · cases h
    exact .kept hleaves

theorem recordReset_moved {reported : Option Int}
    (h : recordReset env db policy task reported = .ok db') :
    Moved env db.clock task policy.id db.runtimes db'.runtimes := by
  unfold recordReset at h
  dsimp only at h
  split at h
  next hruntime =>
    cases h
    exact .missing hruntime
  next runtime hruntime =>
    obtain ⟨boundary, hnext, hrows⟩ := putRuntime_schedule hruntime h
    rw [hrows]
    exact .moved hruntime _ (.inl rfl) hnext

theorem recordOutcome_moved {reported : Option Int}
    (h : recordOutcome env db policy task reported = .ok db') :
    Moved env db.clock task policy.id db.runtimes db'.runtimes := by
  unfold recordOutcome at h
  split_ifs at h with hstatus hdry happly hremove
  · exact recordFailure_moved hstatus h
  · cases h
    exact .kept ⟨fun _ _ => hdry, fun hfailed => absurd hfailed hstatus⟩
  · exact recordApply_moved (not_not.mp hstatus) happly h
  · cases h
    refine .kept ⟨fun _ hreset => ?_, fun hfailed => absurd hfailed hstatus⟩
    rw [hremove] at hreset
    exact absurd hreset (by decide)
  · exact recordReset_moved h

theorem recordPortTrafficResult_moved {reported : Option Int}
    (h : recordPortTrafficResult env db task reported = .ok db') :
    (db.policy? (task.parameters.get "policy_id") = none ∧ db'.runtimes = db.runtimes) ∨
      Moved env db.clock task (task.parameters.get "policy_id") db.runtimes db'.runtimes := by
  unfold recordPortTrafficResult at h
  split at h
  next hnone =>
    cases h
    exact .inl ⟨hnone, rfl⟩
  next policy hfound =>
    obtain ⟨recorded, hrecorded, rfl⟩ := map_eq_ok.mp h
    obtain ⟨approvals, heq, -⟩ := closeApproval_eq recorded task
    have hmoved := recordOutcome_moved hrecorded
    have hkey : policy.id = task.parameters.get "policy_id" := Table.key_of_lookup hfound
    rw [hkey] at hmoved
    rw [heq]
    exact .inr hmoved

end Results

/-! ### New tasks -/

/-- A task as it is created, for no boundary of a schedule. -/
structure Unscheduled (task : AgentTask) : Prop where
  status : task.status = .pending
  boundary : task.parameters.get? "scheduled_for" = none

/-- The planned parameters name no boundary. -/
def PlansUnscheduled (approval : Approval) : Prop :=
  ∀ item ∈ approval.plan.getD [], ∀ action ∈ item, action.parameters.get? "scheduled_for" = none

/-- An operation that adds tasks for no boundary, and gives no row a boundary. -/
structure Adds (db db' : Db) : Prop where
  intro ::
  tasks : ∃ added, db'.tasks = db.tasks ++ added ∧ ∀ task ∈ added, Unscheduled task
  runtimes : ∀ runtime ∈ db'.runtimes, runtime ∈ db.runtimes ∨ runtime.nextResetAt = none
  policies : ∀ policy ∈ db.policies, ∃ policy' ∈ db'.policies,
    policy'.id = policy.id ∧ policy'.hostID = policy.hostID
  approvals : ∀ approval ∈ db'.approvals, PlansUnscheduled approval
  rest : db'.resetEvents = db.resetEvents ∧ db'.clock = db.clock

section Tasks

variable {env : Environment} {db db' : Db}

theorem createAgentTask_status {key : Controller.SigningKey} {random : Entropy} {now : Time}
    {request : Controller.TaskRequest} {task : AgentTask}
    (h : createAgentTask key random now request = .ok task) :
    task.status = .pending ∧ task.parameters = request.parameters :=
  have heq := (Controller.createAgentTask_ok h).eq
  ⟨congrArg AgentTask.status heq, congrArg AgentTask.parameters heq⟩

theorem portTrafficParameters_unscheduled {now : Time} {policy : PortTrafficPolicy}
    {mode : Option NetHelper.Mode} {rate : Option Nat} {resetPolicy : Option ResetPolicy}
    {parameters : Dict String}
    (h : portTrafficParameters env now policy mode rate resetPolicy = .ok parameters) :
    parameters.get? "scheduled_for" = none := by
  unfold portTrafficParameters at h
  obtain ⟨boundary, -, h⟩ := bind_eq_ok.mp h
  rw [← Except.ok.inj h]
  refine Dict.get?_ofList_of_not_mem ?_
  rw [List.map_append, parameterEntries_keys]
  decide

/-- The task of an endpoint is for no boundary. -/
theorem policyTask_unscheduled {random : Entropy} {now : Time} {agent : Agent} {caller : Caller}
    {hostID action : String} {parameters : Dict String} {task : AgentTask}
    (h : policyTask env random now agent caller hostID action parameters = .ok task)
    (hparameters : parameters.get? "scheduled_for" = none) : Unscheduled task := by
  obtain ⟨hstatus, hsame⟩ := createAgentTask_status (mapError_eq_ok.mp h)
  refine ⟨hstatus, ?_⟩
  rw [hsame]
  exact hparameters

theorem nextResetAt_manual {zoneInfo : ZoneInfo} {policy : ResetPolicy} {after : Time}
    {boundary : Option Time} (hmanual : policy.recurrence = .manual)
    (h : nextResetAt zoneInfo policy after = .ok boundary) : boundary = none := by
  unfold nextResetAt at h
  obtain ⟨zone, -, h⟩ := bind_eq_ok.mp h
  rw [if_pos hmanual] at h
  cases h
  rfl

theorem create_adds {caller : Caller} {hostID : String} {payload : PortTrafficPolicyCreate}
    {policyID : BitVec 128} {random : Entropy}
    (hplans : ∀ approval ∈ db.approvals, PlansUnscheduled approval)
    (h : createPortTrafficPolicy env db caller hostID payload policyID random = .ok db') :
    Adds db db' := by
  unfold createPortTrafficPolicy at h
  obtain ⟨⟨_, agent⟩, -, h⟩ := bind_eq_ok.mp h
  obtain ⟨_, -, h⟩ := bind_eq_ok.mp h
  obtain ⟨resetPolicy, -, h⟩ := bind_eq_ok.mp h
  obtain ⟨hmanual, h⟩ := raiseIf_bind_eq_ok.mp h
  obtain ⟨boundary, hboundary, h⟩ := bind_eq_ok.mp h
  obtain ⟨parameters, hparameters, h⟩ := bind_eq_ok.mp h
  obtain ⟨task, htask, h⟩ := bind_eq_ok.mp h
  obtain ⟨-, rfl⟩ := commit_eq_ok.mp h
  have hnone : boundary = none :=
    nextResetAt_manual (not_not.mp hmanual) (mapError_eq_ok.mp hboundary)
  have hunscheduled := policyTask_unscheduled htask
    (portTrafficParameters_unscheduled (mapError_eq_ok.mp hparameters))
  refine ⟨⟨[task], rfl, List.forall_mem_singleton.mpr hunscheduled⟩, ?_, ?_, hplans, rfl, rfl⟩
  · intro runtime hruntime
    rcases List.mem_append.mp hruntime with hruntime | hruntime
    · exact .inl hruntime
    · obtain rfl := List.mem_singleton.mp hruntime
      exact .inr hnone
  · intro policy hpolicy
    exact ⟨policy, List.mem_append_left _ hpolicy, rfl, rfl⟩

/-- A row that replaces one of its host leaves a row for every row. -/
theorem exists_putPolicy {policies : List PortTrafficPolicy} (hnodup : (policies.map (·.id)).Nodup)
    {policy policy' : PortTrafficPolicy} (hpolicy : policy ∈ policies)
    (hid : policy'.id = policy.id) (hhost : policy'.hostID = policy.hostID) : ∀ other ∈ policies,
      ∃ new ∈ Table.put (·.id) policy' policies, new.id = other.id ∧ new.hostID = other.hostID := by
  intro other hother
  by_cases hkey : other.id = policy'.id
  · obtain rfl := Table.eq_of_mem hnodup hother hpolicy (hkey.trans hid)
    exact ⟨policy', Table.mem_put_self (hkey ▸ List.mem_map_of_mem hother), hid, hhost⟩
  · exact ⟨other, Table.mem_put_of_ne hother hkey, rfl, rfl⟩

theorem update_adds {caller : Caller} {hostID policyID : String}
    {payload : PortTrafficPolicyUpdate} {random : Entropy}
    (hplans : ∀ approval ∈ db.approvals, PlansUnscheduled approval)
    (h : updatePortTrafficPolicy env db caller hostID policyID payload random = .ok db') :
    Adds db db' := by
  obtain ⟨policy, updated, hupdate⟩ := updatePortTrafficPolicy_ok h
  obtain ⟨agent, parameters, task, hparameters, htask, rfl⟩ := hupdate.rows
  have hunscheduled := policyTask_unscheduled htask (portTrafficParameters_unscheduled hparameters)
  refine ⟨⟨[task], rfl, List.forall_mem_singleton.mpr hunscheduled⟩, fun _ h => .inl h, ?_, hplans,
    rfl, rfl⟩
  obtain ⟨-, ⟨hid, hhost, -⟩, -⟩ := apply_eq_some hupdate.applied
  have hpolicies : (db.policies.map (·.id)).Nodup := by
    have hput : ((Table.put (·.id) updated db.policies).map (·.id)).Nodup :=
      hupdate.constraints.policyIDs
    rwa [Table.map_key_put] at hput
  exact exists_putPolicy hpolicies (Table.mem_of_lookup hupdate.found) hid hhost

theorem request_adds {approval : Approval}
    (hplans : ∀ approval ∈ db.approvals, PlansUnscheduled approval)
    (happroval : PlansUnscheduled approval) :
    Adds db { db with approvals := db.approvals ++ [approval] } := by
  refine ⟨⟨[], (List.append_nil _).symm, fun _ h => absurd h List.not_mem_nil⟩, fun _ h => .inl h,
    fun policy h => ⟨policy, h, rfl, rfl⟩, ?_, rfl, rfl⟩
  exact List.forall_mem_append.mpr ⟨hplans, List.forall_mem_singleton.mpr happroval⟩

theorem change_unscheduled {approvalID : BitVec 128} {now : Time} {policy : PortTrafficPolicy}
    {agent : Agent} {caller : Caller} {actionName action : String} {parameters : Dict String}
    (h : parameters.get? "scheduled_for" = none) :
    PlansUnscheduled (portTrafficChangeApproval env now approvalID policy agent caller actionName
      action parameters) := by
  intro item hitem planned hplanned
  obtain rfl := List.mem_singleton.mp hitem
  cases hplanned
  exact h

theorem requestChange_adds {caller : Caller} {hostID policyID : String}
    {payload : PortTrafficChangeRequest} {approvalID : BitVec 128}
    (hplans : ∀ approval ∈ db.approvals, PlansUnscheduled approval)
    (h : requestPortTrafficChange env db caller hostID policyID payload approvalID = .ok db') :
    Adds db db' := by
  obtain ⟨-, policy, agent, resetPolicy, parameters, -, -, -, hparameters, rfl⟩ :=
    requestPortTrafficChange_ok h
  exact request_adds hplans (change_unscheduled (portTrafficParameters_unscheduled hparameters))

theorem requestReset_adds {caller : Caller} {hostID policyID : String}
    {payload : PortTrafficResetRequest} {approvalID : BitVec 128}
    (hplans : ∀ approval ∈ db.approvals, PlansUnscheduled approval)
    (h : requestPortTrafficReset env db caller hostID policyID payload approvalID = .ok db') :
    Adds db db' := by
  obtain ⟨-, policy, agent, parameters, -, hparameters, rfl⟩ := requestPortTrafficReset_ok h
  refine request_adds hplans (change_unscheduled ?_)
  rw [Dict.get?_insert, if_neg (by decide)]
  exact portTrafficParameters_unscheduled hparameters

/-- A decision adds no boundary to the planned parameters. -/
theorem taskParameters_boundary {approval : Approval} {request : DecisionRequest}
    {action : PlannedAction} {parameters : Dict String}
    (h : Controller.Decisions.taskParameters approval request action = .ok parameters) :
    parameters.get? "scheduled_for" = action.parameters.get? "scheduled_for" := by
  unfold Controller.Decisions.taskParameters at h
  dsimp only at h
  obtain ⟨-, h⟩ := raiseIf_bind_eq_ok.mp h
  obtain ⟨-, h⟩ := raiseIf_bind_eq_ok.mp h
  rw [← Except.ok.inj h]
  have hinserted (value : String) : (action.parameters.insert "dry_run" value).get?
      "scheduled_for" = action.parameters.get? "scheduled_for" := by
    rw [Dict.get?_insert, if_neg (by decide)]
  by_cases hconfirmed : action.type = "restricted_cleanup" ∨ action.type = "port_traffic_reset"
  · rw [if_pos hconfirmed, Dict.get?_insert, if_neg (by decide), hinserted]
  · rw [if_neg hconfirmed, hinserted]

/-- The tasks of a decision are for no boundary either. -/
theorem createTasks_unscheduled {decisions : Controller.Decisions.Environment}
    {approval : Approval} {request : DecisionRequest} {now : Time}
    {items : List (Option PlannedAction × Entropy)} {tasks : List AgentTask}
    (hitems : ∀ entry ∈ items, ∀ action ∈ entry.1,
      action.parameters.get? "scheduled_for" = none)
    (h : createTasks decisions approval request now items = .ok tasks) :
    ∀ task ∈ tasks, Unscheduled task := by
  induction items generalizing tasks with
  | nil =>
    cases h
    exact fun _ h => absurd h List.not_mem_nil
  | cons entry items ih =>
    obtain ⟨item, random⟩ := entry
    obtain ⟨task, htask, h⟩ := bind_eq_ok.mp h
    obtain ⟨rest, hrest, h⟩ := bind_eq_ok.mp h
    cases h
    obtain ⟨hitem, hitems⟩ := List.forall_mem_cons.mp hitems
    refine List.forall_mem_cons.mpr ⟨?_, ih hitems hrest⟩
    unfold Controller.Decisions.createTask at htask
    obtain ⟨action, haction, htask⟩ := orRaise_bind_eq_ok.mp htask
    obtain ⟨parameters, hparameters, htask⟩ := bind_eq_ok.mp htask
    obtain ⟨hstatus, hsame⟩ := createAgentTask_status (mapError_eq_ok.mp htask)
    refine ⟨hstatus, ?_⟩
    rw [hsame]
    exact (taskParameters_boundary hparameters).trans (hitem action haction)

theorem decide_adds {approvalID : String} {request : DecisionRequest} {random : Nat → Entropy}
    (hplans : ∀ approval ∈ db.approvals, PlansUnscheduled approval)
    (h : decideApproval env db approvalID request random = .ok db') : Adds db db' := by
  obtain ⟨-, approval, hfound, rfl | ⟨plan, tasks, -, -, hplan, htasks, rfl⟩⟩ :=
    decideApproval_ok h
  · have happroval := hplans approval (Table.mem_of_lookup hfound)
    exact ⟨⟨[], (List.append_nil _).symm, fun _ h => absurd h List.not_mem_nil⟩,
      fun _ h => .inl h, fun policy h => ⟨policy, h, rfl, rfl⟩, Table.forall_put hplans happroval,
      rfl, rfl⟩
  · have happroval := hplans approval (Table.mem_of_lookup hfound)
    refine ⟨⟨tasks, rfl, createTasks_unscheduled ?_ htasks⟩, fun _ h => .inl h,
      fun policy h => ⟨policy, h, rfl, rfl⟩, Table.forall_put hplans happroval, rfl, rfl⟩
    intro entry hentry action haction
    obtain ⟨⟨item, index⟩, hitem, rfl⟩ := List.mem_map.mp hentry
    have hmem : item ∈ plan := by
      have := List.fst_mem_of_mem_zipIdx hitem
      exact this
    unfold Controller.Decisions.executablePlan at hplan
    split_ifs at hplan
    · obtain ⟨-, hplan⟩ := raiseIf_bind_eq_ok.mp hplan
      obtain ⟨-, hplan⟩ := raiseIf_bind_eq_ok.mp hplan
      cases hplan
      exact happroval item hmem action haction
    · cases hplan
      exact absurd hmem List.not_mem_nil

/-- Every operation but a heartbeat and a pass of the scheduler only adds tasks of its own. -/
theorem transaction_adds {operation : Operation}
    (hplans : ∀ approval ∈ db.approvals, PlansUnscheduled approval)
    (h : transaction env db operation = .ok db') :
    Adds db db' ∨ (∃ agentID results observed, operation = .heartbeat agentID results observed) ∨
      ∃ random, operation = .dispatch random := by
  cases operation with
  | hosts hosts =>
    obtain ⟨-, rfl⟩ := commit_eq_ok.mp h
    exact .inl ⟨⟨[], (List.append_nil _).symm, fun _ h => absurd h List.not_mem_nil⟩,
      fun _ h => .inl h, fun policy h => ⟨policy, h, rfl, rfl⟩, hplans, rfl, rfl⟩
  | create => exact .inl (create_adds hplans h)
  | update => exact .inl (update_adds hplans h)
  | requestChange => exact .inl (requestChange_adds hplans h)
  | requestReset => exact .inl (requestReset_adds hplans h)
  | decide => exact .inl (decide_adds hplans h)
  | heartbeat agentID results observed => exact .inr (.inl ⟨agentID, results, observed, rfl⟩)
  | dispatch random => exact .inr (.inr ⟨random, rfl⟩)

end Tasks

/-! ### Every row -/

/-- What the scheduler finds: no task is `running` or `cancelled`, and a boundary is a time. -/
structure Dispatchable (db : Db) : Prop where
  intro ::
  statuses : ∀ task ∈ db.tasks, task.status ≠ .running ∧ task.status ≠ .cancelled
  plans : ∀ approval ∈ db.approvals, PlansUnscheduled approval
  boundaries : ∀ runtime ∈ db.runtimes, ∀ time ∈ runtime.nextResetAt, Representable time

section Dispatchable

variable {env : Environment} {db db' : Db}

theorem Dispatchable.empty : Dispatchable .empty :=
  ⟨fun _ h => absurd h List.not_mem_nil, fun _ h => absurd h List.not_mem_nil,
    fun _ h => absurd h List.not_mem_nil⟩

theorem Adds.dispatchable (h : Adds db db') (hdb : Dispatchable db) : Dispatchable db' := by
  obtain ⟨⟨added, htasks, hadded⟩, hruntimes, -, hplans, -⟩ := h
  refine ⟨?_, hplans, ?_⟩
  · rw [htasks]
    refine List.forall_mem_append.mpr ⟨hdb.statuses, fun task htask => ?_⟩
    rw [(hadded task htask).status]
    decide
  · intro runtime hruntime time htime
    rcases hruntimes runtime hruntime with hold | hnone
    · exact hdb.boundaries runtime hold time htime
    · rw [hnone] at htime
      cases htime

theorem Moved.boundaries {clock : Time} {task : AgentTask} {policyID : String}
    {runtimes runtimes' : List PortTrafficRuntimeState}
    (h : Moved env clock task policyID runtimes runtimes')
    (hruntimes : ∀ runtime ∈ runtimes, ∀ time ∈ runtime.nextResetAt, Representable time) :
    ∀ runtime ∈ runtimes', ∀ time ∈ runtime.nextResetAt, Representable time := by
  cases h with
  | missing => exact hruntimes
  | kept => exact hruntimes
  | @moved runtime _ generation _ _ boundary _ hnext =>
    refine Table.forall_put hruntimes fun time htime => ?_
    obtain rfl : boundary = some time := htime
    exact nextResetAt_representable hnext

theorem finished_statuses (task : AgentTask) (success : Bool) :
    (finished task success).status ≠ .running ∧ (finished task success).status ≠ .cancelled := by
  cases success <;> simp [finished]

theorem recordAgentResult_dispatchable {agentID : String} {result : ActionResult}
    (hdb : Dispatchable db) (h : recordAgentResult env agentID db result = .ok db') :
    Dispatchable db' := by
  rcases recordAgentResult_ok h with rfl | ⟨task, -, -, -, hnext⟩
  · exact hdb
  · have hput : Dispatchable (db.putTask (finished task result.success)) :=
      ⟨Table.forall_put hdb.statuses (finished_statuses task result.success), hdb.plans,
        hdb.boundaries⟩
    rcases hnext with ⟨-, rfl⟩ | ⟨-, hnext⟩
    · exact hput
    · obtain ⟨hrest, -, happrovals⟩ := recordPortTrafficResult_ok hnext
      refine ⟨?_, ?_, ?_⟩
      · rw [hrest]
        exact hput.statuses
      · rcases happrovals with hsame | ⟨approval, hmem, status, hsame⟩
        · rw [hsame]
          exact hput.plans
        · rw [hsame]
          exact Table.forall_put hput.plans (hput.plans approval hmem)
      · rcases recordPortTrafficResult_moved hnext with ⟨-, hsame⟩ | hmoved
        · rw [hsame]
          exact hput.boundaries
        · exact hmoved.boundaries hput.boundaries

theorem recordGenerations_dispatchable (observed : List (String × Nat)) (hdb : Dispatchable db) :
    Dispatchable (observed.foldl recordGeneration db) := by
  induction observed generalizing db with
  | nil => exact hdb
  | cons entry observed ih =>
    refine ih ?_
    unfold recordGeneration
    split
    next runtime hruntime =>
      exact ⟨hdb.statuses, hdb.plans, Table.forall_put hdb.boundaries
        (hdb.boundaries runtime (Table.mem_of_lookup hruntime))⟩
    · exact hdb

theorem deliver_dispatchable (tasks : List AgentTask) (hdb : Dispatchable db) :
    Dispatchable
      (tasks.foldl (fun db task => db.putTask { task with status := .delivered }) db) := by
  induction tasks generalizing db with
  | nil => exact hdb
  | cons task tasks ih =>
    have hdelivered : TaskStatus.delivered ≠ .running ∧ TaskStatus.delivered ≠ .cancelled := by
      decide
    exact ih ⟨Table.forall_put hdb.statuses hdelivered, hdb.plans, hdb.boundaries⟩

theorem dispatchReset_dispatchable {random : String → Entropy}
    {due : PortTrafficRuntimeState × Time} (hdb : Dispatchable db)
    (h : dispatchReset env random db due = .ok db') : Dispatchable db' := by
  rcases dispatchReset_ok h with rfl | rfl | ⟨_, _, _, task, -, -, -, -, htask, rfl⟩
  · exact hdb
  · refine ⟨hdb.statuses, hdb.plans, Table.forall_put hdb.boundaries ?_⟩
    exact fun _ htime => absurd htime (Option.not_mem_none _)
  · refine ⟨List.forall_mem_append.mpr ⟨hdb.statuses, List.forall_mem_singleton.mpr ?_⟩, hdb.plans,
      hdb.boundaries⟩
    rw [(createAgentTask_status htask).1]
    decide

theorem transaction_dispatchable {operation : Operation} (hdb : Dispatchable db)
    (h : transaction env db operation = .ok db') : Dispatchable db' := by
  rcases transaction_adds hdb.plans h with hadds | ⟨agentID, results, observed, rfl⟩ | ⟨random, rfl⟩
  · exact hadds.dispatchable hdb
  · obtain ⟨-, recorded, hrecorded, rfl⟩ := agentHeartbeat_ok h
    refine deliver_dispatchable _ (recordGenerations_dispatchable observed ?_)
    exact foldlM_invariant (fun _ _ _ hnext hround => recordAgentResult_dispatchable hnext hround)
      hdb hrecorded
  · obtain ⟨-, hrounds⟩ := dispatchDuePortTrafficResets_ok h
    exact foldlM_invariant (fun _ _ _ hnext hround => dispatchReset_dispatchable hnext hround) hdb
      hrounds

theorem step_dispatchable (hdb : Dispatchable db) (input : Input) :
    Dispatchable (step env db input) := by
  have harrived : Dispatchable (db.arrive input) := ⟨hdb.statuses, hdb.plans, hdb.boundaries⟩
  rcases step_cases env db input with htransaction | hfailed
  · exact transaction_dispatchable harrived htransaction
  · rw [hfailed]
    exact harrived

end Dispatchable

end VpsGuardian.PortPolicies
