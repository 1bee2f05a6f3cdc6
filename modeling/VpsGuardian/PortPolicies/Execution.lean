import VpsGuardian.NetHelper.Durable
import VpsGuardian.PortPolicies.Parameters
import VpsGuardian.Protocol.Signing

/-!
The Agent and its helper carry out the tasks that the Controller creates.

The Controller checks payloads and rows, the Agent checks tasks, and the helper
checks requests, each with limits of its own. A task passes all of them if the
row behind its parameters is within the limits of the helper, a risky one
carries an approval, and one that shapes names an interface.
-/

namespace VpsGuardian.PortPolicies

open Lib
open Controller (Time AgentTask Entropy TaskRequest createAgentTask uuid4 seconds intTimestamp)
open Controller.Decisions (Approval PlannedAction DecisionRequest)
open NetHelper (Protocol Direction Mode)
open Protocol.Signing (view)

/-! ### What has to accept a task -/

/-- The helper of the task's host is shown the task's valid signature while the task
has not expired, and has not seen its nonce. -/
structure Presented (task : AgentTask) (trust : NetHelper.Trust) (completed : Dict Int)
    (now : Int) : Prop where
  host : trust.hostID = task.targetHostID.getD ""
  signature : trust.verifies (Json.render Json.goEscape (NetHelper.signedAuthorization
    (Agent.authorization (view task)))) task.signature = true
  since : task.createdAt ≤ seconds now
  unexpired : now ≤ intTimestamp task.expiresAt
  unused : completed.contains task.nonce = false

/-- The interface that a request names, if it names one, exists. -/
def InterfaceExists (request : NetHelper.Request) (interfaceExists : String → Bool) : Prop :=
  request.policy.get "interface_name" ≠ "" →
    interfaceExists (request.policy.get "interface_name") = true

/-- A request does not make the helper shape an interface without a name. -/
def NamesInterface (request : NetHelper.Request) (parsed : NetHelper.Policy) : Prop :=
  request.dryRun = true ∨ ∀ before desired clock generation,
    "" ∉ NetHelper.shapedInterfaces before before →
    NetHelper.desiredState before request.operation parsed clock = .ok (desired, generation) →
    "" ∉ NetHelper.shapedInterfaces before desired

/-- What a request has to pass in the helper. -/
structure AcceptedRequest (task : AgentTask) (request : NetHelper.Request) : Prop where
  authorized : ∀ trust completed now, Presented task trust completed now →
    ∃ auth, NetHelper.verifyAuthorization request trust completed now = .ok auth
  parsed : ∀ interfaceExists, InterfaceExists request interfaceExists →
    ∃ parsed, NetHelper.parsePolicy interfaceExists request.policy (!request.dryRun) = .ok parsed ∧
      NamesInterface request parsed

/-- The Agent makes a request of the task, and the helper accepts it. -/
def Executable (task : AgentTask) : Prop :=
  ∃ request, Agent.portTrafficRequest (view task) = .ok request ∧
    AcceptedRequest task request

/-! ### Tasks of a row -/

/-- A requester and an approver who is someone else. -/
structure Approved (task : AgentTask) : Prop where
  approval : task.approvalID.getD "" ≠ ""
  requester : task.requesterID.getD "" ≠ ""
  approver : task.approverID.getD "" ≠ ""
  independent : task.requesterID.getD "" ≠ task.approverID.getD ""

def Frozen.Risky (frozen : Frozen) (action : String) : Prop :=
  action = "port_traffic_reset" ∨ frozen.mode = .enforcing ∨ frozen.egressRateBps ≠ 0

/-- A task as the Controller makes it of a row. -/
structure Carries (task : AgentTask) (frozen : Frozen) : Prop where
  action : task.action ∈ portTrafficActions
  valid : frozen.Valid
  describes : frozen.Describes task.parameters
  dryRun : task.parameters.get "dry_run" = "true" ∨ task.parameters.get "dry_run" = "false"
  confirmed : task.action = "port_traffic_reset" →
    task.parameters.get "second_confirmation" = "confirmed"
  id : task.id ≠ ""
  nonce : 16 ≤ task.nonce.utf8ByteSize
  target : task.targetHostID.getD "" ≠ ""
  expiresAt : task.expiresAt = task.createdAt + seconds 300

/-- The conditions under which a task that carries a row is carried out. -/
structure Within (task : AgentTask) (frozen : Frozen) : Prop where
  acceptable : frozen.Acceptable
  approved : frozen.Risky task.action → Approved task
  interface : task.action = "port_traffic_apply" → task.parameters.get "dry_run" = "false" →
    frozen.egressRateBps ≠ 0 → frozen.policy.interfaceName ≠ none

section Task

variable {task : AgentTask} {frozen : Frozen}

theorem modeValue_eq_enforcing {mode : Mode} :
    modeValue mode = "enforcing" ↔ mode = .enforcing := by
  cases mode <;> decide

theorem toString_eq_zero {n : Nat} : toString n = "0" ↔ n = 0 := by
  constructor
  · intro h
    have hparsed := pythonInt?_toString n
    rw [h] at hparsed
    have hzero := Option.some.inj (hparsed.symm.trans (pythonInt?_toString 0))
    exact Int.ofNat_eq_zero.mp hzero
  · rintro rfl
    rfl

namespace Carries

theorem get (h : Carries task frozen) {parameter value : String}
    (hentry : (parameter, value) ∈ frozen.entries) : task.parameters.get parameter = value := by
  rw [Dict.get, h.describes _ hentry]
  rfl

theorem mode (h : Carries task frozen) : task.parameters.get "mode" = modeValue frozen.mode :=
  h.get (by simp [Frozen.entries, parameterEntries])

theorem rate (h : Carries task frozen) :
    task.parameters.get "egress_rate_bps" = toString frozen.egressRateBps :=
  h.get (by simp [Frozen.entries, parameterEntries, Frozen.egressRateBps])

theorem risky (h : Carries task frozen) :
    Agent.risky (view task) = true ↔ frozen.Risky task.action := by
  have hmode : task.parameters.get "mode" = "enforcing" ↔ frozen.mode = .enforcing := by
    rw [h.mode, modeValue_eq_enforcing]
  have hrate : task.parameters.get "egress_rate_bps" ≠ "0" ↔ frozen.egressRateBps ≠ 0 := by
    rw [h.rate, Ne, toString_eq_zero]
  unfold Agent.risky Frozen.Risky view
  rw [decide_eq_true_eq, hmode, hrate]

theorem helperOperation (h : Carries task frozen) : ∃ operation,
    Agent.helperOperation task.action = some operation ∧
      NetHelper.helperAction operation = task.action ∧
      (operation = .reset ↔ task.action = "port_traffic_reset") ∧
      (operation = .apply ↔ task.action = "port_traffic_apply") := by
  have haction := h.action
  simp only [portTrafficActions, List.mem_cons, List.not_mem_nil, or_false] at haction
  rcases haction with haction | haction | haction
  · exact ⟨.apply, by rw [haction]; rfl, haction.symm, by simp [haction], by simp [haction]⟩
  · exact ⟨.remove, by rw [haction]; rfl, haction.symm, by simp [haction], by simp [haction]⟩
  · exact ⟨.reset, by rw [haction]; rfl, haction.symm, by simp [haction], by simp [haction]⟩

end Carries

/-- The request that the Agent makes of a task. -/
def requestOf (task : AgentTask) (operation : NetHelper.Operation) : NetHelper.Request where
  operation := operation
  dryRun := decide (task.parameters.get "dry_run" ≠ "false")
  policy := Agent.requestPolicy task.parameters
  authorization := some (Agent.authorization (view task))

theorem approvalBound_of_approved (h : Carries task frozen) (happroved : Approved task) :
    Agent.approvalBound (view task) = true := by
  obtain ⟨happroval, hrequester, happrover, hindependent⟩ := happroved
  simp [Agent.approvalBound, view, happroval, hrequester, happrover, hindependent, h.target]

/-- The Agent lets a task through that is approved if it is risky. -/
theorem portTrafficRequest_eq (h : Carries task frozen)
    (happroved : frozen.Risky task.action → Approved task) {operation : NetHelper.Operation}
    (hoperation : Agent.helperOperation task.action = some operation) :
    Agent.portTrafficRequest (view task) = .ok (requestOf task operation) := by
  unfold Agent.portTrafficRequest
  rw [raiseIf_bind_eq_ok]
  constructor
  · rintro ⟨hrisky, hbound⟩
    exact hbound (approvalBound_of_approved h (happroved (h.risky.mp hrisky)))
  rw [raiseIf_bind_eq_ok]
  constructor
  · rintro ⟨hreset, hbound | hconfirmation⟩
    · exact hbound (approvalBound_of_approved h (happroved (.inl hreset)))
    · exact hconfirmation (h.confirmed hreset)
  rw [orRaise_bind_eq_ok]
  exact ⟨operation, hoperation, rfl⟩

/-- Every parameter that the helper compares was copied into the request. -/
theorem boundParameters_match (parameters : Dict String) {auth : NetHelper.Authorization}
    (hauth : auth.parameters = parameters) {request : NetHelper.Request}
    (hpolicy : request.policy = Agent.requestPolicy parameters) :
    (NetHelper.boundParameters.all fun p =>
      NetHelper.parameterMatches request auth p.1 p.2) = true := by
  rw [List.all_eq_true]
  intro pair hpair
  have hfield : (pair.2, pair.1) ∈ Agent.policyFields := by
    revert pair
    decide
  rw [NetHelper.parameterMatches, hauth, hpolicy, Agent.get_requestPolicy hfield]
  exact decide_eq_true rfl

/-- The expiry of a task lies within the helper's window from its creation on. -/
theorem expiresAt_window (h : Carries task frozen) {now : Int}
    (hsince : task.createdAt ≤ seconds now) :
    intTimestamp task.expiresAt ≤ now + 15 * 60 := by
  have hbounds := Protocol.Signing.intTimestamp_bounds task.expiresAt
  have hexpires := h.expiresAt
  unfold seconds Time at *
  omega

/-- The checks of an authorization, one by one. -/
theorem verifyAuthorization_eq_ok {request : NetHelper.Request} {auth : NetHelper.Authorization}
    {trust : NetHelper.Trust} {completed : Dict Int} {now : Int}
    (hauth : request.authorization = some auth) :
    NetHelper.verifyAuthorization request trust completed now = .ok auth ↔
      (¬ auth.action ≠ NetHelper.helperAction request.operation) ∧
      ¬ (auth.id = "" ∨ auth.nonce.utf8ByteSize < 16 ∨ auth.targetHostID = "") ∧
      ¬ auth.targetHostID ≠ trust.hostID ∧
      ¬ (auth.expiresAt < now ∨ now + 15 * 60 < auth.expiresAt) ∧
      ¬ completed.contains auth.nonce = true ∧
      ¬ (NetHelper.boundParameters.all fun p =>
        NetHelper.parameterMatches request auth p.1 p.2) = false ∧
      ¬ auth.parameters.get "dry_run" ≠ (if request.dryRun then "true" else "false") ∧
      ¬ (decide (request.operation = .reset ∨ request.policy.get "mode" = "enforcing" ∨
          request.policy.get "egress_rate_bps" ≠ "0") = true ∧
        (auth.approvalID = "" ∨ auth.requesterID = "" ∨ auth.approverID = "" ∨
          auth.requesterID = auth.approverID)) ∧
      ¬ trust.verifies (Json.render Json.goEscape (NetHelper.signedAuthorization auth))
        auth.signature = false := by
  simp only [NetHelper.verifyAuthorization, bind, Except.bind, pure, Except.pure, throw, throwThe,
    MonadExceptOf.throw]
  rw [hauth]
  simp only [ite_error_eq_ok, and_true]

theorem verifyAuthorization_requestOf (h : Carries task frozen)
    (happroved : frozen.Risky task.action → Approved task) {operation : NetHelper.Operation}
    (haction : NetHelper.helperAction operation = task.action)
    (hreset : operation = .reset ↔ task.action = "port_traffic_reset")
    {trust : NetHelper.Trust} {completed : Dict Int} {now : Int}
    (hpresented : Presented task trust completed now) :
    NetHelper.verifyAuthorization (requestOf task operation) trust completed now =
      .ok (Agent.authorization (view task)) := by
  have hmatch : (NetHelper.boundParameters.all fun p => NetHelper.parameterMatches
      (requestOf task operation) (Agent.authorization (view task)) p.1 p.2) = true :=
    boundParameters_match task.parameters rfl rfl
  have hwindow := expiresAt_window h hpresented.since
  refine (verifyAuthorization_eq_ok rfl).mpr ⟨?_, ?_, ?_, ?_, ?_, ?_, ?_, ?_, ?_⟩
  · exact not_not.mpr haction.symm
  · rintro (hid | hnonce | htarget)
    · exact h.id hid
    · exact absurd h.nonce (not_le.mpr hnonce)
    · exact h.target htarget
  · exact not_not.mpr hpresented.host.symm
  · rintro (hexpired | hlate)
    · exact absurd hpresented.unexpired (not_le.mpr hexpired)
    · exact absurd hwindow (not_le.mpr hlate)
  · exact Bool.eq_false_iff.mp hpresented.unused
  · exact ne_false_of_eq_true hmatch
  · rcases h.dryRun with hdry | hdry
    · simp [requestOf, Agent.authorization, view, hdry]
    · simp [requestOf, Agent.authorization, view, hdry]
  · rintro ⟨hrisky, hunapproved⟩
    have hfields := h.describes.fields
    obtain ⟨⟨-, -, -, hmode⟩, -, ⟨-, hrate, -⟩, -⟩ := hfields
    rw [decide_eq_true_eq] at hrisky
    change operation = .reset ∨ (Agent.requestPolicy task.parameters).get "mode" = "enforcing" ∨
      (Agent.requestPolicy task.parameters).get "egress_rate_bps" ≠ "0" at hrisky
    rw [hmode, hrate, hreset, modeValue_eq_enforcing, Ne, toString_eq_zero] at hrisky
    obtain ⟨happroval, hrequester, happrover, hindependent⟩ := happroved hrisky
    rcases hunapproved with hnone | hnone | hnone | hsame
    · exact happroval hnone
    · exact hrequester hnone
    · exact happrover hnone
    · exact hindependent hsame
  · exact ne_false_of_eq_true hpresented.signature

/-! ### The interface of a shaped policy -/

theorem mem_shapedInterfaces {before desired : NetHelper.State} {name : String} :
    name ∈ NetHelper.shapedInterfaces before desired ↔
      ∃ p, (p ∈ before.policies ∨ p ∈ desired.policies) ∧ 0 < p.egressRateBPS ∧
        p.interfaceName = name := by
  simp [NetHelper.shapedInterfaces, and_assoc, or_and_right, exists_or]

/-- Only an application asks for shaping, so only its interface matters. -/
theorem namesInterface_requestOf {operation : NetHelper.Operation} {parsed : NetHelper.Policy}
    (h : operation = .apply → task.parameters.get "dry_run" = "false" →
      0 < parsed.egressRateBPS → parsed.interfaceName ≠ "") :
    NamesInterface (requestOf task operation) parsed := by
  by_cases hdry : task.parameters.get "dry_run" = "false"
  · refine .inr fun before desired clock generation hbefore hdesired hempty => ?_
    obtain ⟨p, hp, hrate, hname⟩ := mem_shapedInterfaces.mp hempty
    have hold : ∀ q ∈ before.policies, 0 < q.egressRateBPS → q.interfaceName ≠ "" :=
      fun q hq hqrate hqname =>
        hbefore (mem_shapedInterfaces.mpr ⟨q, .inl hq, hqrate, hqname⟩)
    rcases hp with hp | hp
    · exact hold p hp hrate hname
    · unfold NetHelper.desiredState at hdesired
      split at hdesired
      · cases hdesired
      next policies' hpolicies =>
        cases hdesired
        have hnew : operation = .apply → 0 < parsed.egressRateBPS → parsed.interfaceName ≠ "" :=
          fun happly => h happly hdry
        obtain rfl | ⟨happly, -, -, -, rfl⟩ | ⟨first, q, rest, heq, -, hchange⟩ :=
          NetHelper.desiredPolicies_cases hpolicies
        · exact hold p hp hrate hname
        · rcases List.mem_append.mp hp with hp | hp
          · exact hold p hp hrate hname
          · obtain rfl := List.mem_singleton.mp hp
            exact hnew happly hrate hname
        · have hq : q ∈ before.policies := by simp [heq]
          have hothers : p ∉ first ++ rest := by
            intro hmem
            refine hold p ?_ hrate hname
            rw [heq]
            rcases List.mem_append.mp hmem with hmem | hmem <;> simp [hmem]
          have hreplaced (q' : NetHelper.Policy)
              (hq' : 0 < q'.egressRateBPS → q'.interfaceName ≠ "") : p ∉ first ++ q' :: rest := by
            intro hmem
            rcases List.mem_append.mp hmem with hmem | hmem
            · exact hothers (List.mem_append_left _ hmem)
            · rcases List.mem_cons.mp hmem with rfl | hmem
              · exact hq' hrate hname
              · exact hothers (List.mem_append_right _ hmem)
          rcases hchange with ⟨happly, rfl⟩ | ⟨-, rfl⟩ | ⟨-, rfl⟩
          · exact hreplaced (NetHelper.carryOver q parsed) (hnew happly) hp
          · exact hothers hp
          · exact hreplaced (NetHelper.startPeriod clock parsed q) (hold q hq) hp
  · exact .inl (decide_eq_true hdry)

/-- A task within the limits of the helper is carried out. -/
theorem executable_of_within (h : Carries task frozen) (hwithin : Within task frozen) :
    Executable task := by
  obtain ⟨operation, hoperation, haction, hreset, happly⟩ := h.helperOperation
  have hname : ∀ name ∈ frozen.policy.interfaceName, name ≠ "" := by
    rintro name hmem rfl
    exact absurd (h.valid.policy.interfaceName "" hmem) (by decide)
  have hinterface : (Agent.requestPolicy task.parameters).get "interface_name" =
      frozen.policy.interfaceName.getD "" := h.describes.fields.2.2.2.1
  refine ⟨requestOf task operation, portTrafficRequest_eq h hwithin.approved hoperation, ?_, ?_⟩
  · intro trust completed now hpresented
    exact ⟨_, verifyAuthorization_requestOf h hwithin.approved haction hreset hpresented⟩
  · intro interfaceExists hexists
    have hnamed : ∀ name ∈ frozen.policy.interfaceName, interfaceExists name = true := by
      intro name hmem
      have htext : (requestOf task operation).policy.get "interface_name" = name := by
        rw [requestOf, hinterface, Option.mem_def.mp hmem]
        rfl
      rw [InterfaceExists, htext] at hexists
      exact hexists (hname name hmem)
    refine ⟨frozen.requested, (parsePolicy_request h.valid h.describes hnamed _).mpr
      ⟨hwithin.acceptable, rfl⟩, namesInterface_requestOf ?_⟩
    intro hop hdry hrate
    have hrate' : frozen.egressRateBps ≠ 0 := by
      have hcast : 0 < (frozen.egressRateBps : Int) := hrate
      omega
    obtain ⟨name, hsome⟩ := Option.ne_none_iff_exists'.mp
      (hwithin.interface (happly.mp hop) hdry hrate')
    show frozen.policy.interfaceName.getD "" ≠ ""
    rw [hsome]
    exact hname name hsome

end Task

end VpsGuardian.PortPolicies
