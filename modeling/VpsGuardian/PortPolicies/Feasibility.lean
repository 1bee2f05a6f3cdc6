import VpsGuardian.PortPolicies.Capacity
import VpsGuardian.PortPolicies.Execution

/-!
Every task in the database can be carried out.

Rows, approvals and tasks stay within what the schemas admit. Whether a task is
carried out then only depends on the limits that the Controller does not check
itself: those of the helper on amounts, and the approval that the Agent asks of
a task of an enforcing or shaped row.
-/

namespace VpsGuardian.PortPolicies

open Lib
open Controller (Time AgentTask TaskStatus Entropy TaskRequest Created createAgentTask
  uuid4 seconds)
open Controller.Decisions (Approval ApprovalStatus PlannedAction DecisionRequest)
open NetHelper (Protocol Direction Mode)
open Protocol.Signing (view)

/-! ### What the Controller does not check -/

/-- The helper accepts the amounts of a row. -/
structure PortTrafficPolicy.Accepted (policy : PortTrafficPolicy) : Prop where
  quota : ∀ quota ∈ policy.quotaBytes, quota ≤ 2 ^ 62
  enforcing : policy.mode = .enforcing → policy.quotaBytes ≠ none
  shaping : policy.egressRateBps ≠ none → policy.direction ≠ .rx

/-- The helper accepts the parameters of a planned action, for a dry run or for good. -/
structure PlannedAccepted (action : PlannedAction) (dryRun : Bool) : Prop where
  quota : ∀ quota ∈ pythonInt? (action.parameters.get "quota_bytes"), quota ≤ 2 ^ 62
  enforcing : action.parameters.get "mode" = "enforcing" →
    action.parameters.get "quota_bytes" ≠ "0"
  shaping : action.parameters.get "egress_rate_bps" ≠ "0" → action.parameters.get "direction" ≠ "rx"
  interface : action.type = "port_traffic_apply" → dryRun = false →
    action.parameters.get "egress_rate_bps" ≠ "0" → action.parameters.get "interface_name" ≠ ""

/-- An update that the endpoint refuses for what it asks of this row. -/
def PortTrafficPolicyUpdate.refused (payload : PortTrafficPolicyUpdate)
    (policy : PortTrafficPolicy) : Bool :=
  payload.approvalID || payload.egressRateBps || payload.resetPolicy ||
    (policy.mode ≠ .monitorOnly && payload.kernelFields)

/-- An update leaves a row that needs no approval, with a quota that the helper accepts. -/
def UpdateAccepted (payload : PortTrafficPolicyUpdate) (policy : PortTrafficPolicy) : Prop :=
  payload.refused policy = true ∨ (policy.mode = .monitorOnly ∧ policy.egressRateBps = none ∧
    ∀ quota ∈ payload.quotaBytes.getD policy.quotaBytes, quota ≤ 2 ^ 62)

/-- What an operation asks for is accepted by the Agent and its helper. -/
def Operation.Accepted (db : Db) : Operation → Prop
  | .create _ _ payload _ _ => ∀ quota ∈ payload.quotaBytes, quota ≤ 2 ^ 62
  | .update _ _ policyID payload _ => ∀ policy ∈ db.policy? policyID, UpdateAccepted payload policy
  | .decide approvalID request _ _ => request.decision.dispatches = true →
      ∀ approval ∈ db.approval? approvalID, approval.status = .pending →
        ∀ item ∈ approval.plan.getD [], ∀ action ∈ item,
          PlannedAccepted action (request.decision = .dryRunOnly)
  | .dispatch _ => ∀ due ∈ dueResets db, ∀ policy ∈ db.policy? due.1.policyID,
      independentlyApproved policy = true → policy.Accepted
  | _ => True

def Accepts (db : Db) (input : Input) : Prop := input.operation.Accepted (db.arrive input)

instance (policy : PortTrafficPolicy) : Decidable policy.Accepted :=
  decidable_of_iff ((∀ quota ∈ policy.quotaBytes, quota ≤ 2 ^ 62) ∧
      (policy.mode = .enforcing → policy.quotaBytes ≠ none) ∧
      (policy.egressRateBps ≠ none → policy.direction ≠ .rx))
    ⟨fun ⟨h₁, h₂, h₃⟩ => ⟨h₁, h₂, h₃⟩, fun ⟨h₁, h₂, h₃⟩ => ⟨h₁, h₂, h₃⟩⟩

instance (action : PlannedAction) (dryRun : Bool) : Decidable (PlannedAccepted action dryRun) :=
  decidable_of_iff
    ((∀ quota ∈ pythonInt? (action.parameters.get "quota_bytes"), quota ≤ 2 ^ 62) ∧
      (action.parameters.get "mode" = "enforcing" →
        action.parameters.get "quota_bytes" ≠ "0") ∧
      (action.parameters.get "egress_rate_bps" ≠ "0" →
        action.parameters.get "direction" ≠ "rx") ∧
      (action.type = "port_traffic_apply" → dryRun = false →
        action.parameters.get "egress_rate_bps" ≠ "0" →
          action.parameters.get "interface_name" ≠ ""))
    ⟨fun ⟨h₁, h₂, h₃, h₄⟩ => ⟨h₁, h₂, h₃, h₄⟩, fun ⟨h₁, h₂, h₃, h₄⟩ => ⟨h₁, h₂, h₃, h₄⟩⟩

instance (payload : PortTrafficPolicyUpdate) (policy : PortTrafficPolicy) :
    Decidable (UpdateAccepted payload policy) :=
  inferInstanceAs (Decidable (_ ∨ _))

instance decidableAccepted (db : Db) : ∀ operation : Operation, Decidable (operation.Accepted db)
  | .create _ _ payload _ _ =>
      inferInstanceAs (Decidable (∀ quota ∈ payload.quotaBytes, quota ≤ 2 ^ 62))
  | .update _ _ policyID payload _ =>
      inferInstanceAs (Decidable (∀ policy ∈ db.policy? policyID, UpdateAccepted payload policy))
  | .decide approvalID request _ _ =>
      inferInstanceAs (Decidable (request.decision.dispatches = true →
        ∀ approval ∈ db.approval? approvalID, approval.status = .pending →
          ∀ item ∈ approval.plan.getD [], ∀ action ∈ item,
            PlannedAccepted action (request.decision = .dryRunOnly)))
  | .dispatch _ =>
      inferInstanceAs (Decidable (∀ due ∈ dueResets db, ∀ policy ∈ db.policy? due.1.policyID,
        independentlyApproved policy = true → policy.Accepted))
  | .hosts _ => isTrue trivial
  | .requestChange .. => isTrue trivial
  | .requestReset .. => isTrue trivial
  | .heartbeat .. => isTrue trivial

instance (db : Db) (input : Input) : Decidable (Accepts db input) :=
  decidableAccepted (db.arrive input) input.operation

/-! ### Created tasks -/

section Created

variable {env : Environment} {random : Entropy} {now : Time} {request : TaskRequest}
  {task : AgentTask} {frozen : Frozen}

theorem carries_of_created (hcreated : createAgentTask env.key random now request = .ok task)
    (haction : request.action ∈ portTrafficActions) (httl : request.ttlSeconds = 300)
    (hvalid : frozen.Valid) (hdescribes : frozen.Describes request.parameters)
    (hdry : request.parameters.get "dry_run" = "true" ∨
      request.parameters.get "dry_run" = "false")
    (hconfirmed : request.action = "port_traffic_reset" →
      request.parameters.get "second_confirmation" = "confirmed")
    (htarget : request.targetHostID.getD "" ≠ "") : Carries task frozen := by
  have h := Controller.createAgentTask_ok hcreated
  have hexpires := h.expiresAt
  have hnonce := Agent.length_le_utf8ByteSize (Controller.tokenURLSafe random.secret)
  rw [Protocol.Signing.length_tokenURLSafe] at hnonce
  rw [httl] at hexpires
  rw [h.eq]
  exact {
    action := haction
    valid := hvalid
    describes := hdescribes
    dryRun := hdry
    confirmed := hconfirmed
    id := Protocol.Signing.uuid4_ne_empty random.uuid
    nonce := le_trans (by decide) hnonce
    target := htarget
    expiresAt := hexpires }

end Created

/-! ### Rows and approvals -/

/-- What every approval of a port traffic change plans. -/
structure Planned (approval : Approval) : Prop where
  intro ::
  risk : approval.riskLevel = 3
  id : approval.id ≠ ""
  requester : approval.requestedBy.getD "" ≠ ""
  target : approval.targetHostID.getD "" ≠ ""
  plan : ∃ (action : String) (parameters : Dict String) (frozen : Frozen),
    approval.plan = some [some ⟨action, parameters⟩] ∧
    (action = "port_traffic_apply" ∨ action = "port_traffic_reset") ∧ frozen.Valid ∧
    frozen.Describes parameters

/-- Every row is valid and every task carries one, and under the condition every task can
be carried out. -/
structure Feasible (accepted : Prop) (db : Db) : Prop where
  policies : ∀ policy ∈ db.policies, policy.Valid
  approvals : ∀ approval ∈ db.approvals, Planned approval
  tasks : ∀ task ∈ db.tasks, (∃ frozen, Carries task frozen) ∧ (accepted → Executable task)

theorem Planned.status {approval : Approval} (h : Planned approval) (status : ApprovalStatus)
    (decidedAt : Option Time) (decidedBy : Option String) :
    Planned { approval with status := status, decidedAt := decidedAt, decidedBy := decidedBy } :=
  ⟨h.risk, h.id, h.requester, h.target, h.plan⟩

/-- The status of a task does not matter to the Agent. -/
theorem executable_status {accepted : Prop} {task : AgentTask}
    (h : (∃ frozen, Carries task frozen) ∧ (accepted → Executable task)) (status : TaskStatus) :
    (∃ frozen, Carries { task with status := status } frozen) ∧
      (accepted → Executable { task with status := status }) := by
  obtain ⟨⟨frozen, hcarries⟩, hexecutable⟩ := h
  refine ⟨⟨frozen, hcarries.action, hcarries.valid, hcarries.describes, hcarries.dryRun,
    hcarries.confirmed, hcarries.id, hcarries.nonce, hcarries.target, hcarries.expiresAt⟩,
    fun haccepted => ?_⟩
  obtain ⟨request, hrequest, hauthorized, hparsed⟩ := hexecutable haccepted
  refine ⟨request, hrequest, ?_, hparsed⟩
  intro trust completed now hpresented
  exact hauthorized trust completed now ⟨hpresented.host, hpresented.signature, hpresented.since,
    hpresented.unexpired, hpresented.unused⟩

theorem validateResetPolicy_timezone {zoneInfo : ZoneInfo} {value : Dict Field}
    {resetPolicy : ResetPolicy} (h : validateResetPolicy zoneInfo value = .ok resetPolicy) :
    resetPolicy.timezone.length ≤ 64 := by
  unfold validateResetPolicy at h
  split_ifs at h with hempty
  · cases h
    decide
  · obtain ⟨-, h⟩ := raiseIf_bind_eq_ok.mp h
    obtain ⟨-, h⟩ := raiseIf_bind_eq_ok.mp h
    obtain ⟨-, h⟩ := raiseIf_bind_eq_ok.mp h
    obtain ⟨timezone, htimezone, h⟩ := bind_eq_ok.mp h
    obtain ⟨recurrence, -, h⟩ := bind_eq_ok.mp h
    cases h
    unfold timezoneField at htimezone
    obtain ⟨name, -, htimezone⟩ := bind_eq_ok.mp htimezone
    obtain ⟨hlength, htimezone⟩ := raiseIf_bind_eq_ok.mp htimezone
    obtain ⟨_, -, htimezone⟩ := bind_eq_ok.mp htimezone
    cases htimezone
    exact not_lt.mp hlength

theorem newPolicy_valid {hostID : String} (hhost : hostID ≠ "") (policyID : BitVec 128)
    (payload : PortTrafficPolicyCreate) {resetPolicy : ResetPolicy}
    (hzone : resetPolicy.timezone.length ≤ 64) :
    (newPolicy hostID (uuid4 policyID) payload resetPolicy).Valid where
  id := uuid4_matches policyID
  host := hhost
  ports := ⟨payload.ports.1.1, payload.ports.2.2.1, payload.ports.2.1.2, payload.ports.2.2.2⟩
  interfaceName := payload.interfacePattern
  quota := payload.quotaBounds
  rate _ hrate := absurd hrate (Option.not_mem_none _)
  timezone := hzone

/-- An update leaves a valid row valid. -/
theorem apply_valid {payload : PortTrafficPolicyUpdate} {policy updated : PortTrafficPolicy}
    (happly : payload.apply policy = some updated) (hvalid : policy.Valid)
    (hrange : updated.portStart ≤ updated.portEnd ∧
      updated.portEnd - updated.portStart + 1 ≤ 4096) : updated.Valid := by
  obtain ⟨⟨-, -, hstart, hend⟩, ⟨hid, hhost, -, hrate, hreset, -⟩, hinterface, hquota, -⟩ :=
    apply_eq_some happly
  have hfirst : 1 ≤ updated.portStart := by
    cases hport : payload.portStart with
    | none =>
      rw [hport] at hstart
      exact Option.some.inj hstart ▸ hvalid.ports.1
    | some port =>
      rw [hport] at hstart
      exact (payload.startBounds updated.portStart (hport.trans (congrArg some hstart))).1
  have hlast : updated.portEnd ≤ 65535 := by
    cases hport : payload.portEnd with
    | none =>
      rw [hport] at hend
      exact Option.some.inj hend ▸ hvalid.ports.2.2.1
    | some port =>
      rw [hport] at hend
      exact (payload.endBounds updated.portEnd (hport.trans (congrArg some hend))).2
  have hname : ∀ name ∈ updated.interfaceName, NetHelper.matchesInterfacePattern name = true := by
    intro name hmem
    rw [hinterface] at hmem
    cases hset : payload.interfaceName with
    | none =>
      rw [hset] at hmem
      exact hvalid.interfaceName name hmem
    | some value =>
      rw [hset] at hmem
      exact payload.interfacePattern name (hset.trans (congrArg some hmem))
  have hbytes : ∀ quota ∈ updated.quotaBytes, 0 < quota ∧ quota < 2 ^ 63 := by
    intro quota hmem
    rw [hquota] at hmem
    cases hset : payload.quotaBytes with
    | none =>
      rw [hset] at hmem
      exact hvalid.quota quota hmem
    | some value =>
      rw [hset] at hmem
      exact payload.quotaBounds quota (hset.trans (congrArg some hmem))
  exact {
    id := hid ▸ hvalid.id
    host := hhost ▸ hvalid.host
    ports := ⟨hfirst, hrange.1, hlast, hrange.2⟩
    interfaceName := hname
    quota := hbytes
    rate := hrate ▸ hvalid.rate
    timezone := hreset ▸ hvalid.timezone }

/-- The result of a task of a valid row leaves a valid row. -/
theorem Outcome.valid {policy policy' : PortTrafficPolicy} {task : AgentTask} {frozen : Frozen}
    (h : Outcome policy task policy') (hvalid : policy.Valid) (hcarries : Carries task frozen) :
    policy'.Valid := by
  have happlied {policy' : PortTrafficPolicy}
      (h : PortPolicies.applied policy task = .ok policy') : policy'.Valid := by
    obtain ⟨mode, rate, -, hrate, -, rfl⟩ := applied_ok h
    have hentry := hcarries.describes ("egress_rate_bps", toString frozen.egressRateBps)
      (by simp [Frozen.entries, parameterEntries, Frozen.egressRateBps])
    have hbounds := egressRateBps_bounds hcarries.valid
    rw [hentry, Option.getD_some, pythonInt?_toString, Option.some.injEq] at hrate
    refine ⟨hvalid.id, hvalid.host, hvalid.ports, hvalid.interfaceName, hvalid.quota, ?_,
      hvalid.timezone⟩
    intro value hvalue
    dsimp only at hvalue
    split_ifs at hvalue with hzero
    · cases hvalue
    · cases hvalue
      omega
  cases h with
  | failed => exact ⟨hvalid.id, hvalid.host, hvalid.ports, hvalid.interfaceName, hvalid.quota,
      hvalid.rate, hvalid.timezone⟩
  | applied _ _ _ h => exact happlied h
  | unreadable _ _ _ h =>
    have hnew := happlied h
    exact ⟨hnew.id, hnew.host, hnew.ports, hnew.interfaceName, hnew.quota, hnew.rate,
      hnew.timezone⟩
  | rescheduled _ _ _ h approval hloads =>
    have hnew := happlied h
    have hentry := hcarries.describes ("reset_policy", frozen.resetPolicy.dumps)
      (by simp [Frozen.entries, parameterEntries])
    rw [hentry, Option.getD_some] at hloads
    have hzone := loads_dumps_timezone hloads
    exact ⟨hnew.id, hnew.host, hnew.ports, hnew.interfaceName, hnew.quota, hnew.rate,
      hzone ▸ hcarries.valid.timezone⟩
  | removed => exact ⟨hvalid.id, hvalid.host, hvalid.ports, hvalid.interfaceName, hvalid.quota,
      hvalid.rate, hvalid.timezone⟩
  | reset => exact ⟨hvalid.id, hvalid.host, hvalid.ports, hvalid.interfaceName, hvalid.quota,
      hvalid.rate, hvalid.timezone⟩

/-! ### Operations -/

section Operations

variable {env : Environment} {accepted : Prop} {db db' : Db} {caller : Caller}

theorem Feasible.policy_valid (h : Feasible accepted db)
    {policyID : String} {policy : PortTrafficPolicy}
    (hfound : db.policy? policyID = some policy) : policy.Valid :=
  h.policies policy (Table.mem_of_lookup hfound)

theorem generation_bounds (h : db.Constraints) {policyID : String} {policy : PortTrafficPolicy}
    (hfound : db.policy? policyID = some policy) :
    1 ≤ policy.generation ∧ policy.generation < 2 ^ 31 :=
  h.generations policy (Table.mem_of_lookup hfound)

/-- A task for the Agent that nobody approved carries the row of its parameters. -/
theorem policyTask_carries {random : Entropy} {now : Time} {agent : Agent}
    {hostID action : String} {parameters : Dict String} {task : AgentTask} {frozen : Frozen}
    (htask : policyTask env random now agent caller hostID action parameters = .ok task)
    (haction : action = "port_traffic_apply" ∨ action = "port_traffic_remove")
    (hhost : hostID ≠ "") (hvalid : frozen.Valid) (hdescribes : frozen.Describes parameters)
    (hdry : parameters.get? "dry_run" = some "false") :
    task.action = action ∧ Carries task frozen := by
  have hcreated := mapError_eq_ok.mp htask
  have htarget : (some hostID).getD "" ≠ "" := hhost
  have hfalse : parameters.get "dry_run" = "false" := by
    rw [Dict.get, hdry]
    rfl
  refine ⟨congrArg AgentTask.action (Controller.createAgentTask_ok hcreated).eq,
    carries_of_created hcreated ?_ rfl hvalid hdescribes (.inr hfalse) ?_ htarget⟩
  · rcases haction with rfl | rfl <;> simp [portTrafficActions]
  · intro hreset
    change action = "port_traffic_reset" at hreset
    rcases haction with rfl | rfl
    · exact absurd hreset (by decide)
    · exact absurd hreset (by decide)

/-- A row that is only monitored needs no approval, and no interface. -/
theorem within_of_monitored {task : AgentTask} {frozen : Frozen}
    (haction : task.action ≠ "port_traffic_reset") (hmode : frozen.mode = .monitorOnly)
    (hrate : frozen.egressRateBps = 0) (hquota : frozen.quotaBytes ≤ 2 ^ 62) :
    Within task frozen where
  acceptable := by
    refine ⟨hquota, fun h => ?_, fun h => absurd hrate h⟩
    rw [hmode] at h
    cases h
  approved := by
    rintro (hreset | henforcing | hshaping)
    · exact absurd hreset haction
    · rw [hmode] at henforcing
      cases henforcing
    · exact absurd hrate hshaping
  interface _ _ h := absurd hrate h

theorem create_feasible {hostID : String} {payload : PortTrafficPolicyCreate}
    {policyID : BitVec 128} {random : Entropy} (h : Feasible accepted db)
    (hcreation : Creation env db caller hostID payload policyID random db')
    (haccepted : accepted → ∀ quota ∈ payload.quotaBytes, quota ≤ 2 ^ 62) :
    Feasible accepted db' := by
  obtain ⟨-, -, hnamed, agent, resetPolicy, parameters, task, -, hreset, hparameters, htask, rfl⟩ :=
    hcreation
  have hzone := validateResetPolicy_timezone hreset
  have hvalid := newPolicy_valid hnamed policyID payload hzone
  obtain ⟨boundary, hboundary, hdescribes, hdry⟩ := portTrafficParameters_ok hparameters
  have hgeneration : 1 ≤ (1 : Int) ∧ (1 : Int) < 2 ^ 31 := by decide
  obtain ⟨haction, hcarries⟩ := policyTask_carries htask (.inl rfl) hnamed
    ⟨hvalid, hgeneration, hvalid.rate, hzone, hboundary⟩ hdescribes hdry
  have hquota (h : accepted) : payload.quotaBytes.getD 0 ≤ 2 ^ 62 := by
    cases hquota : payload.quotaBytes with
    | none => exact Nat.zero_le _
    | some quota => exact haccepted h quota hquota
  have hexecutable (h : accepted) := executable_of_within hcarries
    (within_of_monitored (by rw [haction]; decide) rfl rfl (hquota h))
  refine ⟨?_, h.approvals, ?_⟩
  · exact List.forall_mem_append.mpr ⟨h.policies, List.forall_mem_singleton.mpr hvalid⟩
  · exact List.forall_mem_append.mpr
      ⟨h.tasks, List.forall_mem_singleton.mpr ⟨⟨_, hcarries⟩, hexecutable⟩⟩

theorem update_feasible {hostID policyID : String} {payload : PortTrafficPolicyUpdate}
    {random : Entropy} {policy updated : PortTrafficPolicy} (hconstraints : db.Constraints)
    (h : Feasible accepted db)
    (hupdate : Update env db caller hostID policyID payload random policy updated db')
    (haccepted : accepted → UpdateAccepted payload policy) : Feasible accepted db' := by
  have hold := h.policy_valid hupdate.found
  have hvalid := apply_valid hupdate.applied hold hupdate.range
  obtain ⟨-, ⟨-, -, hmode, hrate, -, hgeneration⟩, -, hquota, -⟩ := apply_eq_some hupdate.applied
  obtain ⟨agent, parameters, task, hparameters, htask, rfl⟩ := hupdate.rows
  obtain ⟨boundary, hboundary, hdescribes, hdry⟩ := portTrafficParameters_ok hparameters
  have hmonitored (h : accepted) : policy.mode = .monitorOnly ∧ policy.egressRateBps = none ∧
      ∀ quota ∈ payload.quotaBytes.getD policy.quotaBytes, quota ≤ 2 ^ 62 := by
    refine (haccepted h).resolve_left fun hrefused => ?_
    obtain ⟨happroval, hegress, hreset⟩ := hupdate.plain
    simp only [PortTrafficPolicyUpdate.refused, happroval, hegress, hreset, Bool.false_or,
      Bool.and_eq_true, decide_eq_true_eq] at hrefused
    rw [hupdate.monitored hrefused.1] at hrefused
    exact Bool.false_ne_true hrefused.2
  have hhost : hostID ≠ "" := hupdate.host ▸ hold.host
  have hcarries' := policyTask_carries htask (by split_ifs <;> simp) hhost
    ⟨hvalid, hgeneration ▸ generation_bounds hconstraints hupdate.found, hvalid.rate,
      hvalid.timezone, hboundary⟩ hdescribes hdry
  obtain ⟨haction, hcarries⟩ := hcarries'
  have hexecutable (h : accepted) : Executable task := by
    obtain ⟨hmonitor, hunshaped, hlimit⟩ := hmonitored h
    have hbytes : updated.quotaBytes.getD 0 ≤ 2 ^ 62 := by
      rw [hquota]
      cases hquota : payload.quotaBytes.getD policy.quotaBytes with
      | none => exact Nat.zero_le _
      | some quota => exact hlimit quota hquota
    have hunrated : ((none : Option Nat).or updated.egressRateBps).getD 0 = 0 := by
      rw [hrate, hunshaped]
      rfl
    exact executable_of_within hcarries (within_of_monitored
      (by rw [haction]; split_ifs <;> decide) (hmode.trans hmonitor) hunrated hbytes)
  refine ⟨?_, h.approvals, ?_⟩
  · exact Table.forall_put h.policies hvalid
  · exact List.forall_mem_append.mpr
      ⟨h.tasks, List.forall_mem_singleton.mpr ⟨⟨_, hcarries⟩, hexecutable⟩⟩

/-- The approval of a change plans what its parameters describe. -/
theorem planned_of_describes {approvalID : BitVec 128} {now : Time} {policy : PortTrafficPolicy}
    {agent : Agent} {actionName action : String} {parameters : Dict String} {frozen : Frozen}
    (haction : action = "port_traffic_apply" ∨ action = "port_traffic_reset")
    (hpolicy : policy.Valid) (hvalid : frozen.Valid) (hdescribes : frozen.Describes parameters) :
    Planned (portTrafficChangeApproval env now approvalID policy agent caller actionName action
      parameters) :=
  ⟨rfl, Protocol.Signing.uuid4_ne_empty approvalID, caller.named, hpolicy.host, action, parameters,
    frozen, rfl, haction, hvalid, hdescribes⟩

theorem requestChange_feasible {hostID policyID : String} {payload : PortTrafficChangeRequest}
    {approvalID : BitVec 128} (hconstraints : db.Constraints) (h : Feasible accepted db)
    (hrequest : requestPortTrafficChange env db caller hostID policyID payload approvalID =
      .ok db') : Feasible accepted db' := by
  obtain ⟨-, policy, agent, resetPolicy, parameters, hfound, -, hreset, hparameters, rfl⟩ :=
    requestPortTrafficChange_ok hrequest
  have hvalid := h.policy_valid hfound
  obtain ⟨boundary, hboundary, hdescribes, -⟩ := portTrafficParameters_ok hparameters
  have hrate : ∀ rate ∈ payload.egressRateBps.or policy.egressRateBps,
      8000 ≤ rate ∧ rate ≤ 100000000000 := by
    intro rate hmem
    cases hset : payload.egressRateBps with
    | none =>
      rw [hset] at hmem
      exact hvalid.rate rate hmem
    | some value =>
      rw [hset] at hmem
      exact payload.rateBounds rate (hset.trans hmem)
  have hzone : resetPolicy.timezone.length ≤ 64 := by
    unfold requestedReset at hreset
    split at hreset
    · exact validateResetPolicy_timezone (mapError_eq_ok.mp hreset)
    · cases hreset
      exact hvalid.timezone
  refine ⟨h.policies, List.forall_mem_append.mpr ⟨h.approvals, List.forall_mem_singleton.mpr ?_⟩,
    h.tasks⟩
  exact planned_of_describes (.inl rfl) hvalid
    ⟨hvalid, generation_bounds hconstraints hfound, hrate, hzone, hboundary⟩ hdescribes

theorem requestReset_feasible {hostID policyID : String} {payload : PortTrafficResetRequest}
    {approvalID : BitVec 128} (hconstraints : db.Constraints) (h : Feasible accepted db)
    (hrequest : requestPortTrafficReset env db caller hostID policyID payload approvalID =
      .ok db') : Feasible accepted db' := by
  obtain ⟨-, policy, agent, parameters, hfound, hparameters, rfl⟩ :=
    requestPortTrafficReset_ok hrequest
  have hvalid := h.policy_valid hfound
  obtain ⟨boundary, hboundary, hdescribes, -⟩ := portTrafficParameters_ok hparameters
  have hreason := hdescribes.insert payload.reason (by rw [Frozen.keys]; decide : "reason" ∉ _)
  refine ⟨h.policies, List.forall_mem_append.mpr ⟨h.approvals, List.forall_mem_singleton.mpr ?_⟩,
    h.tasks⟩
  exact planned_of_describes (.inr rfl) hvalid
    ⟨hvalid, generation_bounds hconstraints hfound, hvalid.rate, hvalid.timezone, hboundary⟩
    hreason

/-! ### Decisions -/

/-- The parameters of an approved action still describe the row. -/
theorem taskParameters_ok {approval : Approval} {request : DecisionRequest}
    {action : PlannedAction} {parameters : Dict String} {frozen : Frozen}
    (h : Controller.Decisions.taskParameters approval request action = .ok parameters)
    (hdescribes : frozen.Describes action.parameters) :
    frozen.Describes parameters ∧
      parameters.get "dry_run" = (if request.decision = .dryRunOnly then "true" else "false") ∧
      (action.type = "port_traffic_reset" →
        parameters.get "second_confirmation" = "confirmed") := by
  have hinserted := hdescribes.insert (if request.decision = .dryRunOnly then "true" else "false")
    (by rw [Frozen.keys]; decide : "dry_run" ∉ _)
  have hdry (parameters : Dict String) (value : String) :
      (parameters.insert "dry_run" value).get "dry_run" = value := by
    rw [Dict.get, Dict.get?_insert, if_pos rfl]
    rfl
  unfold Controller.Decisions.taskParameters at h
  dsimp only at h
  obtain ⟨-, h⟩ := raiseIf_bind_eq_ok.mp h
  obtain ⟨-, h⟩ := raiseIf_bind_eq_ok.mp h
  cases h
  by_cases hconfirmed : action.type = "restricted_cleanup" ∨ action.type = "port_traffic_reset"
  · rw [if_pos hconfirmed]
    refine ⟨hinserted.insert "confirmed" (by rw [Frozen.keys]; decide), ?_, fun _ => ?_⟩
    · rw [Dict.get, Dict.get?_insert, if_neg (by decide), ← Dict.get, hdry]
    · rw [Dict.get, Dict.get?_insert, if_pos rfl]
      rfl
  · rw [if_neg hconfirmed]
    exact ⟨hinserted, hdry _ _, fun hreset => absurd (.inr hreset) hconfirmed⟩

/-- Parameters that the helper accepts describe a row that it accepts. -/
theorem PlannedAccepted.acceptable {action : String} {parameters : Dict String} {dryRun : Bool}
    {frozen : Frozen} (h : PlannedAccepted ⟨action, parameters⟩ dryRun)
    (hdescribes : frozen.Describes parameters) : frozen.Acceptable ∧
      (action = "port_traffic_apply" → dryRun = false → frozen.egressRateBps ≠ 0 →
        frozen.policy.interfaceName ≠ none) := by
  have hget {parameter value : String} (hentry : (parameter, value) ∈ frozen.entries) :
      parameters.get parameter = value := by
    rw [Dict.get, hdescribes _ hentry]
    rfl
  have hquota : parameters.get "quota_bytes" = toString frozen.quotaBytes :=
    hget (by simp [Frozen.entries, parameterEntries, Frozen.quotaBytes])
  have hrate : parameters.get "egress_rate_bps" = toString frozen.egressRateBps :=
    hget (by simp [Frozen.entries, parameterEntries, Frozen.egressRateBps])
  have hmode : parameters.get "mode" = modeValue frozen.mode :=
    hget (by simp [Frozen.entries, parameterEntries])
  have hdirection : parameters.get "direction" = directionValue frozen.policy.direction :=
    hget (by simp [Frozen.entries, parameterEntries])
  have hinterface : parameters.get "interface_name" = frozen.policy.interfaceName.getD "" :=
    hget (by simp [Frozen.entries, parameterEntries])
  obtain ⟨hlimit, henforcing, hshaping, hnamed⟩ := h
  dsimp only at hlimit henforcing hshaping hnamed
  rw [hquota, pythonInt?_toString] at hlimit
  rw [hmode, hquota, modeValue_eq_enforcing, Ne, toString_eq_zero] at henforcing
  rw [hrate, hdirection, Ne, toString_eq_zero] at hshaping
  rw [hrate, hinterface, Ne, toString_eq_zero] at hnamed
  refine ⟨⟨?_, henforcing, fun hne hrx => hshaping hne (hrx ▸ rfl)⟩, ?_⟩
  · exact_mod_cast hlimit _ rfl
  · intro happly hdry hne hnone
    exact hnamed happly hdry hne (hnone ▸ rfl)

/-- The task for the action of a decided approval. -/
theorem createTask_executable {agents : List (String × String)} {approval : Approval}
    {request : DecisionRequest} {action : String} {parameters : Dict String} {random : Entropy}
    {now : Time} {task : AgentTask} {frozen : Frozen} (hplanned : Planned approval)
    (hnamed : request.userID ≠ "")
    (hchecked : Controller.Decisions.checkDecision approval request = .ok ())
    (hdispatches : request.decision.dispatches = true)
    (haction : action = "port_traffic_apply" ∨ action = "port_traffic_reset")
    (hvalid : frozen.Valid) (hdescribes : frozen.Describes parameters)
    (haccepted : accepted →
      PlannedAccepted ⟨action, parameters⟩ (request.decision = .dryRunOnly))
    (htask : Controller.Decisions.createTask ⟨agents, env.key⟩ approval request
      (some ⟨action, parameters⟩) random now = .ok task) :
    (∃ frozen, Carries task frozen) ∧ (accepted → Executable task) := by
  unfold Controller.Decisions.createTask at htask
  obtain ⟨_, hitem, htask⟩ := orRaise_bind_eq_ok.mp htask
  cases hitem
  obtain ⟨final, hfinal, htask⟩ := bind_eq_ok.mp htask
  have hcreated := mapError_eq_ok.mp htask
  have htaskEq := (Controller.createAgentTask_ok hcreated).eq
  obtain ⟨hfinalDescribes, hdry, hconfirmed⟩ := taskParameters_ok hfinal hdescribes
  have htarget : (approval.targetHostID.or (agents.lookup approval.agentID)).getD "" ≠ "" := by
    have hsome := hplanned.target
    cases htargetID : approval.targetHostID with
    | none => exact absurd (by rw [htargetID]; rfl) hsome
    | some hostID =>
      rw [htargetID] at hsome
      exact hsome
  have hindependent : approval.requestedBy ≠ some request.userID := by
    unfold Controller.Decisions.checkDecision at hchecked
    obtain ⟨-, hchecked⟩ := raiseIf_bind_eq_ok.mp hchecked
    obtain ⟨hrequester, -⟩ := raiseIf_bind_eq_ok.mp hchecked
    have hdecision := of_decide_eq_true hdispatches
    intro hsame
    refine hrequester ⟨?_, by rw [hplanned.risk]; decide, hsame⟩
    rcases hdecision with hdecision | hdecision
    · exact .inl hdecision
    · exact .inr (.inr hdecision)
  have hcarries : Carries task frozen := by
    refine carries_of_created hcreated ?_ rfl hvalid hfinalDescribes ?_ hconfirmed htarget
    · rcases haction with rfl | rfl <;> simp [portTrafficActions]
    · show final.get "dry_run" = "true" ∨ final.get "dry_run" = "false"
      rw [hdry]
      split_ifs <;> simp
  refine ⟨⟨frozen, hcarries⟩, fun h => ?_⟩
  obtain ⟨hacceptable, hinterface⟩ := (haccepted h).acceptable hdescribes
  refine executable_of_within hcarries ⟨hacceptable, fun _ => ?_, ?_⟩
  · rw [htaskEq]
    refine ⟨hplanned.id, hplanned.requester, hnamed, fun hsame => hindependent ?_⟩
    have hrequester := hplanned.requester
    cases hrequestedBy : approval.requestedBy with
    | none => exact absurd (by rw [hrequestedBy]; rfl) hrequester
    | some requester =>
      rw [hrequestedBy] at hsame
      exact congrArg some hsame
  · rw [htaskEq]
    intro happly hfalse
    refine hinterface happly ?_
    change final.get "dry_run" = "false" at hfalse
    rw [hdry] at hfalse
    by_contra hdryRun
    rw [Bool.not_eq_false, decide_eq_true_eq] at hdryRun
    rw [if_pos hdryRun] at hfalse
    exact absurd hfalse (by decide)

theorem decide_feasible {approvalID : String} {request : DecisionRequest}
    {random : Nat → Entropy} (h : Feasible accepted db) (hnamed : request.userID ≠ "")
    (haccepted : accepted → (Operation.decide approvalID request hnamed random).Accepted db)
    (hdecide : decideApproval env db approvalID request random = .ok db') :
    Feasible accepted db' := by
  obtain ⟨-, approval, hfound, rfl | ⟨plan, tasks, hpending, hchecked, hplan, htasks, rfl⟩⟩ :=
    decideApproval_ok hdecide
  · have hplanned := h.approvals approval (Table.mem_of_lookup hfound)
    exact ⟨h.policies, Table.forall_put h.approvals (hplanned.status _ _ _), h.tasks⟩
  · have hplanned := h.approvals approval (Table.mem_of_lookup hfound)
    refine ⟨h.policies, Table.forall_put h.approvals (hplanned.status _ _ _), ?_⟩
    refine List.forall_mem_append.mpr ⟨h.tasks, ?_⟩
    unfold Controller.Decisions.executablePlan at hplan
    by_cases hdispatches : request.decision.dispatches = true
    · rw [if_pos hdispatches] at hplan
      obtain ⟨-, hplan⟩ := raiseIf_bind_eq_ok.mp hplan
      obtain ⟨-, hplan⟩ := raiseIf_bind_eq_ok.mp hplan
      cases hplan
      obtain ⟨action, parameters, frozen, hactions, haction, hvalid, hdescribes⟩ := hplanned.plan
      have hitem (h : accepted) := haccepted h hdispatches approval hfound hpending
      rw [hactions] at htasks hitem
      obtain ⟨task, htask, htasks⟩ := bind_eq_ok.mp htasks
      obtain ⟨rest, hrest, htasks⟩ := bind_eq_ok.mp htasks
      cases hrest
      cases htasks
      exact List.forall_mem_singleton.mpr (createTask_executable hplanned hnamed hchecked
        hdispatches haction hvalid hdescribes 
        (fun h => hitem h _ (List.mem_singleton_self _) _ rfl) htask)
    · rw [if_neg hdispatches] at hplan
      cases hplan
      cases htasks
      exact fun _ hmem => absurd hmem (List.not_mem_nil)

/-! ### The scheduler -/

theorem independentlyApproved_iff {policy : PortTrafficPolicy} :
    independentlyApproved policy = true ↔ ∃ approvalID requester approver,
      policy.resetApprovalID = some approvalID ∧ policy.resetRequestedBy = some requester ∧
      policy.resetApprovedBy = some approver ∧ approvalID ≠ "" ∧ requester ≠ "" ∧ approver ≠ "" ∧
      requester ≠ approver := by
  unfold independentlyApproved
  cases policy.resetApprovalID <;> cases policy.resetRequestedBy <;>
    cases policy.resetApprovedBy <;> simp

/-- A scheduled reset of a row that the helper accepts is carried out. -/
theorem dispatchReset_feasible {random : String → Entropy}
    {due : PortTrafficRuntimeState × Time} (h : Feasible accepted db)
    (hgenerations : ∀ policy ∈ db.policies, 1 ≤ policy.generation ∧ policy.generation < 2 ^ 31)
    (haccepted : accepted → ∀ policy ∈ db.policy? due.1.policyID,
      independentlyApproved policy = true → policy.Accepted)
    (hround : dispatchReset env random db due = .ok db') : Feasible accepted db' := by
  rcases dispatchReset_ok hround with
    rfl | rfl |
      ⟨policy, agent, boundary, task, hfound, ⟨-, happroved, -⟩, -, hboundary, htask, rfl⟩
  · exact h
  · exact ⟨h.policies, h.approvals, h.tasks⟩
  · have hvalid := h.policy_valid hfound
    obtain ⟨hdescribes, hdry, hconfirmed⟩ := Frozen.Describes.scheduled policy due.2 boundary
    have hdryRun : (scheduledResetParameters policy due.2 boundary).get "dry_run" = "false" := by
      rw [Dict.get, hdry]
      rfl
    have hsecond : (scheduledResetParameters policy due.2 boundary).get "second_confirmation" =
        "confirmed" := by
      rw [Dict.get, hconfirmed]
      rfl
    have htarget : (some policy.hostID).getD "" ≠ "" := hvalid.host
    have hrepresentable : ∀ time ∈ boundary, Representable time := fun time htime =>
      nextResetAt_representable (htime ▸ hboundary)
    have hcarries := carries_of_created htask (by simp [portTrafficActions]) rfl
      ⟨hvalid, hgenerations policy (Table.mem_of_lookup hfound), hvalid.rate, hvalid.timezone,
        hrepresentable⟩ hdescribes (.inr hdryRun) (fun _ => hsecond) htarget
    have hwithin (h : accepted) : Within task ⟨policy, policy.mode, policy.egressRateBps,
        policy.resetPolicy, boundary⟩ := by
      obtain ⟨hquota, henforcing, hshaping⟩ := haccepted h policy hfound happroved
      rw [(Controller.createAgentTask_ok htask).eq]
      refine ⟨⟨?_, ?_, ?_⟩, fun _ => ?_, fun happly => ?_⟩
      · show policy.quotaBytes.getD 0 ≤ 2 ^ 62
        cases hbytes : policy.quotaBytes with
        | none => exact Nat.zero_le _
        | some quota => exact hquota quota hbytes
      · intro hmode
        obtain ⟨quota, hbytes⟩ := Option.ne_none_iff_exists'.mp (henforcing hmode)
        show policy.quotaBytes.getD 0 ≠ 0
        have hpositive := (hvalid.quota quota hbytes).1
        rw [hbytes, Option.getD_some]
        omega
      · intro hrate
        refine hshaping fun hnone => hrate ?_
        show policy.egressRateBps.getD 0 = 0
        rw [hnone]
        rfl
      · obtain ⟨approvalID, requester, approver, hid, hrequester, happrover, hnamed⟩ :=
          independentlyApproved_iff.mp happroved
        obtain ⟨happroval, hrequested, happroves, hindependent⟩ := hnamed
        refine ⟨?_, ?_, ?_, ?_⟩
        · simpa [hid] using happroval
        · simpa [hrequester] using hrequested
        · simpa [happrover] using happroves
        · simpa [hrequester, happrover] using hindependent
      · change "port_traffic_reset" = "port_traffic_apply" at happly
        exact absurd happly (by decide)
    exact ⟨h.policies, h.approvals, List.forall_mem_append.mpr
      ⟨h.tasks, List.forall_mem_singleton.mpr ⟨⟨_, hcarries⟩, fun h => executable_of_within hcarries
        (hwithin h)⟩⟩⟩

theorem dispatch_feasible {random : String → Entropy} (hconstraints : db.Constraints)
    (h : Feasible accepted db) (haccepted : accepted → (Operation.dispatch random).Accepted db)
    (hdispatch : dispatchDuePortTrafficResets env db random = .ok db') : Feasible accepted db' := by
  obtain ⟨-, hrounds⟩ := dispatchDuePortTrafficResets_ok hdispatch
  refine (foldlM_invariant_of_mem (P := fun next =>
    next.policies = db.policies ∧ Feasible accepted next)
    (fun due hdue next next' hnext hround => ?_) ⟨rfl, h⟩ hrounds).2
  obtain ⟨hpolicies, hfeasible⟩ := hnext
  refine ⟨(dispatchReset_policies hround).trans hpolicies, dispatchReset_feasible hfeasible ?_ ?_
    hround⟩
  · rw [hpolicies]
    exact hconstraints.generations
  · have hsame : next.policy? due.1.policyID = db.policy? due.1.policyID := by
      rw [Db.policy?, hpolicies, Db.policy?]
    rw [hsame]
    exact fun h => haccepted h due hdue

/-! ### Results -/

theorem recordAgentResult_feasible {agentID : String} {result : ActionResult}
    (h : Feasible accepted db)
    (hrecord : recordAgentResult env agentID db result = .ok db') : Feasible accepted db' := by
  rcases recordAgentResult_ok hrecord with rfl | ⟨task, hfound, -, -, hnext⟩
  · exact h
  · have htask := h.tasks task (Table.mem_of_lookup hfound)
    have hfinished := executable_status htask
      (if result.success then TaskStatus.succeeded else TaskStatus.failed)
    have hput : Feasible accepted (db.putTask (finished task result.success)) :=
      ⟨h.policies, h.approvals, Table.forall_put h.tasks hfinished⟩
    rcases hnext with ⟨-, rfl⟩ | ⟨-, hnext⟩
    · exact hput
    · obtain ⟨hrest, hpolicies, happrovals⟩ := recordPortTrafficResult_ok hnext
      obtain ⟨⟨frozen, hcarries⟩, -⟩ := hfinished
      refine ⟨?_, ?_, ?_⟩
      · rcases hpolicies with hsame | ⟨policy, policy', hpolicy, houtcome, hsame⟩
        · rw [hsame]
          exact hput.policies
        · rw [hsame]
          exact Table.forall_put hput.policies
            (houtcome.valid (hput.policy_valid hpolicy) hcarries)
      · rcases happrovals with hsame | ⟨approval, hmem, status, hsame⟩
        · rw [hsame]
          exact hput.approvals
        · rw [hsame]
          exact Table.forall_put hput.approvals ((hput.approvals approval hmem).status status _ _)
      · rw [hrest]
        exact hput.tasks

theorem recordGenerations_feasible (observed : List (String × Nat)) (h : Feasible accepted db) :
    Feasible accepted (observed.foldl recordGeneration db) := by
  induction observed generalizing db with
  | nil => exact h
  | cons entry observed ih =>
    refine ih ?_
    unfold recordGeneration
    split
    · exact ⟨h.policies, h.approvals, h.tasks⟩
    · exact h

theorem deliver_feasible {tasks : List AgentTask}
    (htasks : ∀ task ∈ tasks,
      (∃ frozen, Carries task frozen) ∧ (accepted → Executable task))
    (h : Feasible accepted db) : Feasible accepted
      (tasks.foldl (fun db task => db.putTask { task with status := .delivered }) db) := by
  induction tasks generalizing db with
  | nil => exact h
  | cons task tasks ih =>
    obtain ⟨htask, hrest⟩ := List.forall_mem_cons.mp htasks
    exact ih hrest ⟨h.policies, h.approvals,
      Table.forall_put h.tasks (executable_status htask .delivered)⟩

theorem heartbeat_feasible {agentID : String} {results : List ActionResult}
    {observed : List (String × Nat)} (h : Feasible accepted db)
    (hbeat : agentHeartbeat env db agentID results observed = .ok db') : Feasible accepted db' := by
  obtain ⟨-, recorded, hrecorded, rfl⟩ := agentHeartbeat_ok hbeat
  have hresults : Feasible accepted recorded :=
    foldlM_invariant (fun _ _ _ hnext hround => recordAgentResult_feasible hnext hround) h hrecorded
  have hobserved := recordGenerations_feasible observed hresults
  refine deliver_feasible (fun task htask => ?_) hobserved
  have hmem := List.mem_of_mem_take htask
  rw [List.mem_insertionSort] at hmem
  exact hobserved.tasks task (List.mem_of_mem_filter hmem)

end Operations

/-! ### Runs -/

theorem transaction_feasible {env : Environment} {accepted : Prop} {db db' : Db}
    {operation : Operation}
    (hconstraints : db.Constraints) (h : Feasible accepted db)
    (haccepted : accepted → operation.Accepted db)
    (htransaction : transaction env db operation = .ok db') : Feasible accepted db' := by
  cases operation with
  | hosts hosts =>
    obtain ⟨-, rfl⟩ := commit_eq_ok.mp htransaction
    exact ⟨h.policies, h.approvals, h.tasks⟩
  | create caller hostID payload policyID random =>
    exact create_feasible h (createPortTrafficPolicy_ok htransaction) haccepted
  | update caller hostID policyID payload random =>
    obtain ⟨policy, updated, hupdate⟩ := updatePortTrafficPolicy_ok htransaction
    exact update_feasible hconstraints h hupdate (fun h => haccepted h policy hupdate.found)
  | requestChange caller hostID policyID payload approvalID =>
    exact requestChange_feasible hconstraints h htransaction
  | requestReset caller hostID policyID payload approvalID =>
    exact requestReset_feasible hconstraints h htransaction
  | decide approvalID request named random => exact decide_feasible h named haccepted htransaction
  | heartbeat agentID results observed => exact heartbeat_feasible h htransaction
  | dispatch random => exact dispatch_feasible hconstraints h haccepted htransaction

/-- In every run whose operations ask for nothing that the Agent or its helper refuses,
every task can be carried out. -/
theorem executable_of_accepted (env : Environment) (inputs : List Input)
    (h : Meets (step env) Accepts .empty inputs) :
    ∀ task ∈ (run (step env) .empty inputs).tasks, Executable task := by
  have hstep : ∀ db input, Accepts db input → db.Constraints ∧ Feasible True db →
      (step env db input).Constraints ∧ Feasible True (step env db input) := by
    rintro db input haccepts ⟨hconstraints, hfeasible⟩
    have harrived : Feasible True (db.arrive input) :=
      ⟨hfeasible.policies, hfeasible.approvals, hfeasible.tasks⟩
    refine ⟨step_constraints hconstraints input, ?_⟩
    rcases step_cases env db input with htransaction | hfailed
    · exact transaction_feasible (hconstraints.arrive input) harrived (fun _ => haccepts)
        htransaction
    · rw [hfailed]
      exact harrived
  have hempty : Feasible True .empty := ⟨by simp [Db.empty], by simp [Db.empty], by simp [Db.empty]⟩
  intro task htask
  exact ((run_invariant hstep ⟨Db.Constraints.empty, hempty⟩ h).2.tasks task htask).2 trivial

/-! ### A new name for an enforcing policy -/

theorem thousand_bounds : ∀ quota ∈ some 1000, 0 < quota ∧ quota < 2 ^ 63 := by decide

/-- A payload that only changes the name of a policy. -/
def rename (name : String) : PortTrafficPolicyUpdate :=
  { PortTrafficPolicyUpdate.unset with name := some (some name) }

/-- A policy with a quota is enforced, which two admins agree on, and then renamed. -/
def renamedEnforcing : List Operation := [
  .hosts oneHost,
  .create alice "host" (tcpPort80 (some 1000) thousand_bounds) 1 (.ofUUID 2),
  reports [],
  reports [(2, true)],
  .requestChange alice "host" (uuid4 1) (changeMode .enforcing) 3,
  .decide (uuid4 3) (approval "") bob_named fun _ => .ofUUID 4,
  reports [],
  reports [(4, true)],
  .update alice "host" (uuid4 1) (rename "web") (.ofUUID 5)]

/-- The Agent refuses the task of the new name, which nobody approved. -/
theorem renamed_not_executable :
    ¬ ∀ task ∈ (run (step echoEnvironment) .empty (secondly renamedEnforcing)).tasks,
      Executable task := by
  have hrefused : ∃ task ∈ (run (step echoEnvironment) .empty (secondly renamedEnforcing)).tasks,
      (Agent.portTrafficRequest (view task)).isOk = false := by decide +kernel
  intro h
  obtain ⟨task, htask, hrefused⟩ := hrefused
  obtain ⟨request, hrequest, -⟩ := h task htask
  rw [hrequest] at hrefused
  cases hrefused

theorem executable_before_rename :
    (run (step echoEnvironment) .empty (secondly (renamedEnforcing.take 8))).tasks.length = 2 ∧
      ∀ task ∈ (run (step echoEnvironment) .empty (secondly (renamedEnforcing.take 8))).tasks,
        Executable task :=
  ⟨by decide +kernel, executable_of_accepted _ _ (by decide +kernel)⟩

end VpsGuardian.PortPolicies
