import VpsGuardian.PortPolicies.Boundaries
import VpsGuardian.PortPolicies.NextReset

/-!
Whether the scheduler queues a reset that is due (`dispatch_due_port_traffic_resets`).

A pass skips a policy with an outstanding reset. Its query takes a pending task for
outstanding although the task has expired, and a heartbeat no longer hands it out.
-/

namespace VpsGuardian.PortPolicies

open Lib
open Controller (Time AgentTask TaskStatus Entropy TaskRequest createAgentTask uuid4 seconds)
open NetHelper (Protocol Direction Mode)

/-- The schedule of an enabled policy is due, two users agreed on it, and its host has an Agent. -/
structure Due (db : Db) (policy : PortTrafficPolicy) : Prop where
  found : policy ∈ db.policies
  enabled : policy.enabled = true
  recurrence : policy.resetPolicy.recurrence ≠ .manual
  approved : independentlyApproved policy = true
  agent : ∃ host ∈ db.host? policy.hostID, ∃ agent ∈ host.agent, agent.revoked = false
  boundary : ∃ runtime ∈ db.runtimes, runtime.policyID = policy.id ∧
    ∃ dueAt ∈ runtime.nextResetAt, dueAt ≤ db.clock

def Resets (policy : PortTrafficPolicy) (task : AgentTask) : Prop :=
  task.action = "port_traffic_reset" ∧ task.parameters.get? "policy_id" = some policy.id

/-- No reset of the policy can be handed out any more or is in execution. -/
def Idle (db : Db) (policy : PortTrafficPolicy) : Prop :=
  ∀ task ∈ db.tasks, Resets policy task →
    terminal task.status = true ∨ task.expiresAt ≤ db.clock

/-- Between two states a reset of the policy was queued. -/
def Queued (db db' : Db) (policy : PortTrafficPolicy) : Prop :=
  ∃ task ∈ db'.tasks, task.id ∉ db.tasks.map (·.id) ∧ Resets policy task

instance (db : Db) (policy : PortTrafficPolicy) : Decidable (Due db policy) :=
  decidable_of_iff (policy ∈ db.policies ∧ policy.enabled = true ∧
      policy.resetPolicy.recurrence ≠ .manual ∧ independentlyApproved policy = true ∧
      (∃ host ∈ db.host? policy.hostID, ∃ agent ∈ host.agent, agent.revoked = false) ∧
      ∃ runtime ∈ db.runtimes, runtime.policyID = policy.id ∧
        ∃ dueAt ∈ runtime.nextResetAt, dueAt ≤ db.clock)
    ⟨fun ⟨h₁, h₂, h₃, h₄, h₅, h₆⟩ => ⟨h₁, h₂, h₃, h₄, h₅, h₆⟩,
      fun ⟨h₁, h₂, h₃, h₄, h₅, h₆⟩ => ⟨h₁, h₂, h₃, h₄, h₅, h₆⟩⟩

instance (policy : PortTrafficPolicy) (task : AgentTask) : Decidable (Resets policy task) :=
  inferInstanceAs (Decidable (_ ∧ _))

instance (db : Db) (policy : PortTrafficPolicy) : Decidable (Idle db policy) :=
  inferInstanceAs (Decidable (∀ _ ∈ _, _))

/-- A pass raises nothing: the calendar has room for what it computes, and the identifiers it
draws are new. -/
structure Clear (env : Environment) (random : String → Entropy) (db : Db) : Prop where
  expiry : Representable (db.clock + seconds 300)
  boundaries : ∀ due ∈ dueResets db, ∀ policy ∈ (db.policy? due.1.policyID).filter (·.enabled),
    (nextResetAt env.zoneInfo policy.resetPolicy due.2).isOk = true
  fresh : ∀ policy ∈ db.policies, ∀ task ∈ db.tasks, task.id ≠ uuid4 (random policy.id).uuid
  distinct : ∀ p ∈ db.policies, ∀ q ∈ db.policies,
    uuid4 (random p.id).uuid = uuid4 (random q.id).uuid → p.id = q.id

instance (env : Environment) (random : String → Entropy) (db : Db) :
    Decidable (Clear env random db) :=
  decidable_of_iff
    ((seconds (-62135596800) ≤ db.clock + seconds 300 ∧
        db.clock + seconds 300 < seconds 253402300800) ∧
      (∀ due ∈ dueResets db, ∀ policy ∈ (db.policy? due.1.policyID).filter (·.enabled),
        (nextResetAt env.zoneInfo policy.resetPolicy due.2).isOk = true) ∧
      (∀ policy ∈ db.policies, ∀ task ∈ db.tasks, task.id ≠ uuid4 (random policy.id).uuid) ∧
      ∀ p ∈ db.policies, ∀ q ∈ db.policies,
        uuid4 (random p.id).uuid = uuid4 (random q.id).uuid → p.id = q.id)
    ⟨fun ⟨h₁, h₂, h₃, h₄⟩ => ⟨h₁, h₂, h₃, h₄⟩, fun ⟨h₁, h₂, h₃, h₄⟩ => ⟨h₁, h₂, h₃, h₄⟩⟩

/-! ### The parameters of a scheduled reset -/

theorem length_toString {n width : Nat} (hwidth : 0 < width) (h : n < 10 ^ width) :
    (toString n).length ≤ width := by
  rw [← String.length_toList, toList_toString]
  exact (Nat.length_toDigits_le_iff (by decide) hwidth).mpr h

theorem length_of_matchesPattern {pattern : List (Char → Bool)} {text : String}
    (h : NetHelper.matchesPattern pattern text = true) : text.length = pattern.length := by
  unfold NetHelper.matchesPattern at h
  rw [Bool.and_eq_true, beq_iff_eq] at h
  rw [← String.length_toList]
  exact h.1.symm

theorem length_of_matchesInterfacePattern {text : String}
    (h : NetHelper.matchesInterfacePattern text = true) : text.length ≤ 31 := by
  unfold NetHelper.matchesInterfacePattern at h
  rw [← String.length_toList]
  split at h
  · cases h
  next first rest heq =>
    simp only [Bool.and_eq_true, decide_eq_true_eq] at h
    rw [heq, List.length_cons]
    omega

/-- The values of a valid row fit into a task. -/
theorem parameterEntries_fit {frozen : Frozen} (hvalid : frozen.Valid) :
    ∀ entry ∈ frozen.entries, entry.2.length ≤ 1024 := by
  have hid : frozen.policy.id.length = 36 := length_of_matchesPattern hvalid.policy.id
  have hprotocol : frozen.policy.protocol.name.length ≤ 1024 := by
    cases frozen.policy.protocol <;> decide
  have hdirection : (directionValue frozen.policy.direction).length ≤ 1024 := by
    cases frozen.policy.direction <;> decide
  have hmode : (modeValue frozen.mode).length ≤ 1024 := by cases frozen.mode <;> decide
  obtain ⟨hfirst, hrange, hlast, -⟩ := hvalid.policy.ports
  have hport {port : Nat} (h : port ≤ 65535) : (toString port).length ≤ 5 :=
    length_toString (by decide) (by omega)
  have hinterface : (frozen.policy.interfaceName.getD "").length ≤ 31 := by
    cases hname : frozen.policy.interfaceName with
    | none => decide
    | some name => exact length_of_matchesInterfacePattern (hvalid.policy.interfaceName name hname)
  have hquota : (toString frozen.quotaBytes).length ≤ 19 := by
    have hlimit := quotaBytes_lt hvalid
    exact length_toString (by decide) (by omega)
  have hrate : (toString frozen.egressRateBps).length ≤ 12 := by
    have hlimit := egressRateBps_bounds hvalid
    exact length_toString (by decide) (by omega)
  have hgeneration : (toString frozen.policy.generation).length ≤ 10 := by
    have hlimit := hvalid.generation
    rw [toString_int (by omega)]
    exact length_toString (by decide) (by omega)
  have hreset : frozen.resetPolicy.dumps.length ≤ 1024 :=
    (Agent.length_le_utf8ByteSize _).trans (dumps_size hvalid.timezone)
  have hnext : ((frozen.boundary.map isoformat).getD "").length ≤ 40 := by
    cases hboundary : frozen.boundary with
    | none => decide
    | some time =>
      exact (Agent.length_le_utf8ByteSize _).trans (isoformat_size (hvalid.boundary time hboundary))
  have hstart := hport (hrange.trans hlast)
  have hend := hport hlast
  unfold Frozen.entries parameterEntries
  simp only [List.forall_mem_cons]
  refine ⟨by omega, hprotocol, hdirection, by omega, by omega, by omega, hmode, ?_, ?_, by omega,
    hreset, by omega, fun _ h => absurd h List.not_mem_nil⟩
  · exact hquota.trans (by decide)
  · exact hrate.trans (by decide)

theorem scheduledResetParameters_fit {policy : PortTrafficPolicy} {dueAt : Time}
    {boundary : Option Time} (hpolicy : policy.Valid)
    (hgeneration : 1 ≤ policy.generation ∧ policy.generation < 2 ^ 31)
    (hdueAt : Representable dueAt) (hboundary : ∀ time ∈ boundary, Representable time) :
    ¬ (16 < (scheduledResetParameters policy dueAt boundary).size ∨
      (scheduledResetParameters policy dueAt boundary).entries.any fun entry =>
        64 < entry.1.length || 1024 < entry.2.length) := by
  let frozen : Frozen :=
    ⟨policy, policy.mode, policy.egressRateBps, policy.resetPolicy, boundary⟩
  let rest : List (String × String) := [("reason", "scheduled"), ("scheduled_for", isoformat dueAt),
    ("second_confirmation", "confirmed"), ("dry_run", "false")]
  have hkeys : (frozen.entries ++ rest).map Prod.fst =
      parameterKeys ++ ["reason", "scheduled_for", "second_confirmation", "dry_run"] := by
    rw [List.map_append, frozen.keys]
    rfl
  have hentries : (scheduledResetParameters policy dueAt boundary).entries =
      frozen.entries ++ rest := Dict.entries_ofList (hkeys ▸ scheduled_nodup)
  have hvalues : ∀ entry ∈ frozen.entries ++ rest, entry.2.length ≤ 1024 := by
    have hdue : (isoformat dueAt).length ≤ 40 :=
      (Agent.length_le_utf8ByteSize _).trans (isoformat_size hdueAt)
    refine List.forall_mem_append.mpr ⟨parameterEntries_fit
      ⟨hpolicy, hgeneration, hpolicy.rate, hpolicy.timezone, hboundary⟩, ?_⟩
    simp only [rest, List.forall_mem_cons]
    exact ⟨by decide, by omega, by decide, by decide, fun _ h => absurd h List.not_mem_nil⟩
  have hnames : ∀ key ∈ (frozen.entries ++ rest).map Prod.fst, key.length ≤ 64 := by
    rw [hkeys]
    decide
  rintro (hsize | hlong)
  · rw [Dict.size, hentries, ← List.length_map Prod.fst, hkeys] at hsize
    exact absurd hsize (by decide)
  · obtain ⟨entry, hentry, hlong⟩ := List.any_eq_true.mp hlong
    rw [hentries] at hentry
    have hname := hnames entry.1 (List.mem_map_of_mem hentry)
    have hvalue := hvalues entry hentry
    simp only [Bool.or_eq_true, decide_eq_true_eq] at hlong
    omega

/-! ### One round -/

section Rounds

variable {env : Environment} {db next next' : Db} {random : String → Entropy}

theorem outstandingReset_eq_true {policy : PortTrafficPolicy} :
    outstandingReset db policy = true ↔ ∃ task ∈ db.tasks, Resets policy task ∧
      task.targetHostID = some policy.hostID ∧
        (task.status = .pending ∨ task.status = .running) := by
  unfold outstandingReset Resets
  simp only [List.any_eq_true, decide_eq_true_eq]
  constructor
  · rintro ⟨task, htask, hhost, haction, hstatus, hpolicy⟩
    exact ⟨task, htask, ⟨haction, hpolicy⟩, hhost, hstatus⟩
  · rintro ⟨task, htask, ⟨haction, hpolicy⟩, hhost, hstatus⟩
    exact ⟨task, htask, hhost, haction, hstatus, hpolicy⟩

theorem outstandingReset_mono {policy : PortTrafficPolicy} {added : List AgentTask}
    (htasks : next.tasks = db.tasks ++ added) (hnext : outstandingReset next policy = false) :
    outstandingReset db policy = false := by
  refine Bool.eq_false_iff.mpr fun hdb => Bool.eq_false_iff.mp hnext ?_
  obtain ⟨task, htask, houtstanding⟩ := outstandingReset_eq_true.mp hdb
  exact outstandingReset_eq_true.mpr ⟨task, htasks ▸ List.mem_append_left _ htask, houtstanding⟩

/-- The rows that the rounds of a pass leave so far. -/
structure Passing (random : String → Entropy) (db next : Db) : Prop where
  intro ::
  rest : next.policies = db.policies ∧ next.hosts = db.hosts ∧ next.approvals = db.approvals ∧
    next.clock = db.clock
  runtimes : next.runtimes.map (·.policyID) = db.runtimes.map (·.policyID)
  tasks : ∃ added, next.tasks = db.tasks ++ added ∧ ∀ task ∈ added, ∃ policy ∈ db.policies,
    outstandingReset db policy = false ∧ Resets policy task ∧
    (task.status = .pending ∧ task.targetHostID = some policy.hostID) ∧
    task.id = uuid4 (random policy.id).uuid
  ids : (next.tasks.map (·.id)).Nodup

theorem Passing.refl (hconstraints : db.Constraints) : Passing random db db where
  rest := ⟨rfl, rfl, rfl, rfl⟩
  runtimes := rfl
  tasks := ⟨[], (List.append_nil _).symm, fun _ h => absurd h List.not_mem_nil⟩
  ids := hconstraints.taskIDs

theorem Passing.outstanding (h : Passing random db next) {policy : PortTrafficPolicy}
    (hnext : outstandingReset next policy = false) : outstandingReset db policy = false := by
  obtain ⟨added, htasks, -⟩ := h.tasks
  exact outstandingReset_mono htasks hnext

theorem Passing.policy? (h : Passing random db next) (policyID : String) :
    next.policy? policyID = db.policy? policyID := by
  unfold Db.policy?
  rw [h.rest.1]

/-- The task of a round is pending for its policy. -/
theorem resets_scheduled {key : Controller.SigningKey} {draw : Entropy} {now : Time}
    {policy : PortTrafficPolicy} {agent : Agent} {dueAt : Time} {boundary : Option Time}
    {task : AgentTask} (h : createAgentTask key draw now {
      agentID := agent.id
      action := "port_traffic_reset"
      parameters := scheduledResetParameters policy dueAt boundary
      approvalID := policy.resetApprovalID
      requesterID := policy.resetRequestedBy
      approverID := policy.resetApprovedBy
      targetHostID := some policy.hostID } = .ok task) :
    Resets policy task ∧ (task.status = .pending ∧ task.targetHostID = some policy.hostID) ∧
      task.id = uuid4 draw.uuid := by
  have heq := (Controller.createAgentTask_ok h).eq
  rw [heq]
  refine ⟨⟨rfl, ?_⟩, ⟨rfl, rfl⟩, rfl⟩
  exact (Frozen.Describes.scheduled policy dueAt boundary).1 ("policy_id", policy.id)
    (by simp [Frozen.entries, parameterEntries])

theorem exists_scheduledTask (key : Controller.SigningKey) (draw : Entropy) {now : Time}
    {policy : PortTrafficPolicy} {dueAt : Time} {boundary : Option Time}
    (hfit : ¬ (16 < (scheduledResetParameters policy dueAt boundary).size ∨
      (scheduledResetParameters policy dueAt boundary).entries.any fun entry =>
        64 < entry.1.length || 1024 < entry.2.length))
    (hexpiry : Representable (now + seconds 300)) (agent : Agent) :
    ∃ task, createAgentTask key draw now {
      agentID := agent.id
      action := "port_traffic_reset"
      parameters := scheduledResetParameters policy dueAt boundary
      approvalID := policy.resetApprovalID
      requesterID := policy.resetRequestedBy
      approverID := policy.resetApprovedBy
      targetHostID := some policy.hostID } = .ok task := by
  refine Controller.exists_createAgentTask key draw (by simp [Controller.registeredActions]) ?_ hfit
    (Controller.addTime_eq_ok.mpr ⟨rfl, hexpiry⟩)
  exact (by decide : (30 : Int) ≤ 300 ∧ (300 : Int) ≤ 900)

theorem Passing.round (hconstraints : db.Constraints) (hclear : Clear env random db)
    (h : Passing random db next) {due : PortTrafficRuntimeState × Time}
    (hround : dispatchReset env random next due = .ok next') : Passing random db next' := by
  rcases dispatchReset_ok hround with
    rfl | rfl | ⟨policy, agent, boundary, task, hfound, -, houtstanding, -, htask, rfl⟩
  · exact h
  · refine ⟨h.rest, ?_, h.tasks, h.ids⟩
    rw [← h.runtimes]
    exact Table.map_key_put _ _
  · obtain ⟨added, htasks, hadded⟩ := h.tasks
    have hpolicy : policy ∈ db.policies := h.rest.1 ▸ Table.mem_of_lookup hfound
    obtain ⟨hresets, hpending, hid⟩ := resets_scheduled htask
    refine ⟨h.rest, h.runtimes, ⟨added ++ [task], ?_, ?_⟩, ?_⟩
    · exact (congrArg (· ++ [task]) htasks).trans (List.append_assoc _ _ _)
    · refine List.forall_mem_append.mpr ⟨hadded, List.forall_mem_singleton.mpr ?_⟩
      exact ⟨policy, hpolicy, h.outstanding houtstanding, hresets, hpending, hid⟩
    · -- The identifier is new, also among those that this pass has drawn for other policies.
      have hnew : task.id ∉ next.tasks.map (·.id) := by
        intro hmem
        obtain ⟨other, hother, hsame⟩ := List.mem_map.mp hmem
        rw [htasks] at hother
        rcases List.mem_append.mp hother with hother | hother
        · exact hclear.fresh policy hpolicy other hother (hsame.trans hid)
        · obtain ⟨policy', hpolicy', -, hresets', hpending', hid'⟩ := hadded other hother
          obtain rfl := Table.eq_of_mem hconstraints.policyIDs hpolicy' hpolicy
            (hclear.distinct policy' hpolicy' policy hpolicy (hid'.symm.trans (hsame.trans hid)))
          refine Bool.eq_false_iff.mp houtstanding (outstandingReset_eq_true.mpr
            ⟨other, htasks ▸ List.mem_append_right _ hother, hresets', hpending'.2, ?_⟩)
          exact .inl hpending'.1
      show ((next.tasks ++ [task]).map (·.id)).Nodup
      rw [List.map_append, List.nodup_append]
      refine ⟨h.ids, List.nodup_singleton _, ?_⟩
      rintro id hmem _ hlast rfl
      obtain rfl := List.mem_singleton.mp hlast
      exact hnew hmem

/-- The round of a policy without an outstanding reset queues one. -/
theorem Passing.queues (hconstraints : db.Constraints) (h : Passing random db next)
    {policy : PortTrafficPolicy} (hdue : Due db policy) {runtime : PortTrafficRuntimeState}
    {dueAt : Time} (hkey : runtime.policyID = policy.id)
    (houtstanding : outstandingReset next policy = false)
    (hround : dispatchReset env random next (runtime, dueAt) = .ok next') :
    ∃ task, next' = next.addTask task ∧ Resets policy task ∧
      task.id = uuid4 (random policy.id).uuid := by
  have hfound : (next.policy? runtime.policyID).filter (·.enabled) = some policy := by
    rw [h.policy?, hkey, Option.filter_eq_some_iff]
    exact ⟨Table.lookup_of_mem hconstraints.policyIDs hdue.found, hdue.enabled⟩
  obtain ⟨host, hhost, agent, hagent, hrevoked⟩ := hdue.agent
  have hactive : ((next.host? policy.hostID).bind fun host => host.agent.filter (!·.revoked)) =
      some agent := by
    have hsame : next.host? policy.hostID = db.host? policy.hostID := by
      unfold Db.host?
      rw [h.rest.2.1]
    rw [hsame, Option.mem_def.mp hhost, Option.bind_some, Option.mem_def.mp hagent,
      Option.filter_eq_some_iff]
    exact ⟨rfl, by simp [hrevoked]⟩
  simp only [dispatchReset, hfound] at hround
  obtain ⟨zone, -, hround⟩ := bind_eq_ok.mp hround
  rw [if_neg hdue.recurrence, if_neg (by simp [hdue.approved]), if_neg (by simp [houtstanding]),
    hactive] at hround
  obtain ⟨boundary, -, hround⟩ := bind_eq_ok.mp hround
  obtain ⟨task, htask, hround⟩ := bind_eq_ok.mp hround
  cases hround
  obtain ⟨hresets, -, hid⟩ := resets_scheduled (mapError_eq_ok.mp htask)
  exact ⟨task, rfl, hresets, hid⟩

theorem mem_dueResets {due : PortTrafficRuntimeState × Time} : due ∈ dueResets db ↔
    due.1 ∈ db.runtimes ∧ due.1.nextResetAt = some due.2 ∧ due.2 ≤ db.clock := by
  obtain ⟨runtime, dueAt⟩ := due
  unfold dueResets
  simp only [List.mem_filterMap, Option.map_eq_some_iff, Option.filter_eq_some_iff,
    decide_eq_true_eq, Prod.mk.injEq]
  constructor
  · rintro ⟨_, hruntime, _, ⟨hnext, hle⟩, rfl, rfl⟩
    exact ⟨hruntime, hnext, hle⟩
  · rintro ⟨hruntime, hnext, hle⟩
    exact ⟨runtime, hruntime, dueAt, ⟨hnext, hle⟩, rfl, rfl⟩

/-- No round of a pass that is clear fails. -/
theorem Passing.total (hconstraints : db.Constraints) (hclear : Clear env random db)
    (hpolicies : ∀ policy ∈ db.policies, policy.Valid) (hdispatchable : Dispatchable db)
    (h : Passing random db next) {due : PortTrafficRuntimeState × Time}
    (hdue : due ∈ dueResets db) : ∃ next', dispatchReset env random next due = .ok next' := by
  obtain ⟨hruntime, hnext, -⟩ := mem_dueResets.mp hdue
  have hdueAt : Representable due.2 := hdispatchable.boundaries due.1 hruntime due.2 hnext
  simp only [dispatchReset]
  split
  · exact ⟨_, rfl⟩
  next policy hpolicy =>
    rw [h.policy?] at hpolicy
    have hmem : policy ∈ db.policies :=
      Table.mem_of_lookup (Option.filter_eq_some_iff.mp hpolicy).1
    obtain ⟨boundary, hboundary⟩ := isOk_iff.mp (hclear.boundaries due hdue policy hpolicy)
    obtain ⟨zone, hzone, -⟩ := bind_eq_ok.mp hboundary
    have hrepresentable : ∀ time ∈ boundary, Representable time := by
      rintro time rfl
      exact nextResetAt_representable hboundary
    have hcreated := exists_scheduledTask env.key (random policy.id)
      (scheduledResetParameters_fit (hpolicies policy hmem) (hconstraints.generations policy hmem)
        hdueAt hrepresentable) hclear.expiry
    rw [hzone]
    dsimp only [bind, Except.bind]
    split_ifs
    · exact ⟨_, rfl⟩
    · exact ⟨_, rfl⟩
    · exact ⟨_, rfl⟩
    · split
      · exact ⟨_, rfl⟩
      next agent _ =>
        obtain ⟨task, htask⟩ := hcreated agent
        rw [hboundary, h.rest.2.2.2]
        dsimp only
        rw [htask]
        exact ⟨_, rfl⟩

/-! ### A pass -/

theorem Passing.constraints (hconstraints : db.Constraints) (h : Passing random db next) :
    next.Constraints where
  policyIDs := h.rest.1 ▸ hconstraints.policyIDs
  runtimeIDs := h.runtimes ▸ hconstraints.runtimeIDs
  approvalIDs := h.rest.2.2.1 ▸ hconstraints.approvalIDs
  taskIDs := h.ids
  generations := h.rest.1 ▸ hconstraints.generations

/-- A clear pass ends, and its rounds are those of the due resets. -/
theorem dispatch_ok (hconstraints : db.Constraints) (hclear : Clear env random db)
    (hpolicies : ∀ policy ∈ db.policies, policy.Valid) (hdispatchable : Dispatchable db) :
    ∃ db', dispatchDuePortTrafficResets env db random = .ok db' ∧
      (dueResets db).foldlM (dispatchReset env random) db = .ok db' ∧ Passing random db db' := by
  obtain ⟨db', hrounds, hpassed⟩ := foldlM_ok (P := Passing random db)
    (fun due hdue next hnext => by
      obtain ⟨next', hround⟩ := hnext.total hconstraints hclear hpolicies hdispatchable hdue
      exact ⟨next', hround, hnext.round hconstraints hclear hround⟩)
    (Passing.refl hconstraints)
  refine ⟨db', ?_, hrounds, hpassed⟩
  unfold dispatchDuePortTrafficResets
  rw [hrounds]
  exact commit_eq_ok.mpr ⟨hpassed.constraints hconstraints, rfl⟩

/-- A task that a round leaves stays there to the end of the pass. -/
theorem rounds_tasks {dues : List (PortTrafficRuntimeState × Time)} {task : AgentTask}
    (htask : task ∈ next.tasks)
    (h : dues.foldlM (dispatchReset env random) next = .ok next') : task ∈ next'.tasks := by
  refine foldlM_invariant (P := fun next => task ∈ next.tasks) (fun _ _ _ hmem hround => ?_) htask h
  rcases dispatchReset_ok hround with rfl | rfl | ⟨_, _, _, _, -, -, -, -, -, rfl⟩
  · exact hmem
  · exact hmem
  · exact List.mem_append_left _ hmem

/-- A clear pass queues a reset that is due unless an earlier one is outstanding. -/
theorem queued_iff (hconstraints : db.Constraints) (hclear : Clear env random db)
    {db' : Db} (hpassed : Passing random db db')
    (hrounds : (dueResets db).foldlM (dispatchReset env random) db = .ok db')
    {policy : PortTrafficPolicy} (hdue : Due db policy) :
    Queued db db' policy ↔ outstandingReset db policy = false := by
  constructor
  · rintro ⟨task, htask, hnew, hresets⟩
    obtain ⟨added, htasks, hadded⟩ := hpassed.tasks
    rw [htasks] at htask
    have hmem : task ∈ added :=
      (List.mem_append.mp htask).resolve_left fun hold => hnew (List.mem_map_of_mem hold)
    obtain ⟨policy', hpolicy', houtstanding, hresets', -⟩ := hadded task hmem
    obtain rfl := Table.eq_of_mem hconstraints.policyIDs hpolicy' hdue.found
      (Option.some.inj (hresets'.2.symm.trans hresets.2))
    exact houtstanding
  · intro houtstanding
    obtain ⟨runtime, hruntime, hkey, dueAt, hnext, hle⟩ := hdue.boundary
    have hmem : (runtime, dueAt) ∈ dueResets db := mem_dueResets.mpr ⟨hruntime, hnext, hle⟩
    obtain ⟨next, rest, hpassing, hrest⟩ := foldlM_round (P := Passing random db)
      (fun _ _ _ hP hround => hP.round hconstraints hclear hround) hmem
      (Passing.refl hconstraints) hrounds
    by_cases hqueued : outstandingReset next policy = true
    · -- An earlier round of this pass queued it.
      obtain ⟨task, htask, hresets, hpending⟩ := outstandingReset_eq_true.mp hqueued
      obtain ⟨added, htasks, -⟩ := hpassing.tasks
      refine ⟨task, rounds_tasks htask hrest, fun hold => ?_, hresets⟩
      obtain ⟨old, hmem, hsame⟩ := List.mem_map.mp hold
      obtain rfl := Table.eq_of_mem hpassing.ids (htasks ▸ List.mem_append_left added hmem) htask
        hsame
      exact Bool.eq_false_iff.mp houtstanding
        (outstandingReset_eq_true.mpr ⟨old, hmem, hresets, hpending⟩)
    · rw [List.foldlM_cons] at hrest
      obtain ⟨next', hround, hrest⟩ := bind_eq_ok.mp hrest
      obtain ⟨task, rfl, hresets, hid⟩ :=
        hpassing.queues hconstraints hdue hkey (Bool.eq_false_iff.mpr hqueued) hround
      refine ⟨task, rounds_tasks (List.mem_append_right _ (List.mem_singleton_self task)) hrest,
        fun hold => ?_, hresets⟩
      obtain ⟨old, hold, hsame⟩ := List.mem_map.mp hold
      exact hclear.fresh policy hdue.found old hold (hsame.trans hid)

end Rounds

/-! ### Runs -/

theorem step_of_ok {env : Environment} {db db' : Db} {input : Input}
    (h : transaction env (db.arrive input) input.operation = .ok db') :
    step env db input = db' := by
  unfold step
  rw [h]

theorem step_feasible {env : Environment} {db : Db} (hconstraints : db.Constraints)
    (h : Feasible False db) (input : Input) : Feasible False (step env db input) := by
  have harrived : Feasible False (db.arrive input) := ⟨h.policies, h.approvals, h.tasks⟩
  rcases step_cases env db input with htransaction | hfailed
  · exact transaction_feasible (hconstraints.arrive input) harrived (fun hfalse => hfalse.elim)
      htransaction
  · rw [hfailed]
    exact harrived

/-- What every reachable database has. -/
theorem reachable (env : Environment) (inputs : List Input) :
    (run (step env) .empty inputs).Constraints ∧ Feasible False (run (step env) .empty inputs) ∧
      Dispatchable (run (step env) .empty inputs) := by
  refine run_invariant_of_step (I := fun db => db.Constraints ∧ Feasible False db ∧ Dispatchable db)
    (fun db input => ?_) ⟨Db.Constraints.empty, ?_, Dispatchable.empty⟩ inputs
  · rintro ⟨hconstraints, hfeasible, hdispatchable⟩
    exact ⟨step_constraints hconstraints input, step_feasible hconstraints hfeasible input,
      step_dispatchable hdispatchable input⟩
  · exact ⟨by simp [Db.empty], by simp [Db.empty], by simp [Db.empty]⟩

/-- Where no reset of a due policy can be handed out any more, a pass that raises nothing queues one
exactly if none of them expired while it was pending. -/
theorem due_reset_queued_iff (env : Environment) (inputs : List Input) {elapsed : Nat}
    {random : String → Entropy} {db : Db}
    (hdb : db = (run (step env) .empty inputs).arrive ⟨elapsed, .dispatch random⟩)
    (hclear : Clear env random db) {policy : PortTrafficPolicy} (hdue : Due db policy)
    (hidle : Idle db policy) :
    Queued db (step env (run (step env) .empty inputs) ⟨elapsed, .dispatch random⟩) policy ↔
      ∀ task ∈ db.tasks, Resets policy task → task.targetHostID = some policy.hostID →
        task.status = .pending → db.clock < task.expiresAt := by
  obtain ⟨hconstraints, hfeasible, hdispatchable⟩ := reachable env inputs
  have hconstraints' : db.Constraints := hdb ▸ hconstraints.arrive _
  have hpolicies : ∀ policy ∈ db.policies, policy.Valid := hdb ▸ hfeasible.policies
  have hstatuses : ∀ task ∈ db.tasks, task.status ≠ .running ∧ task.status ≠ .cancelled :=
    hdb ▸ hdispatchable.statuses
  have hdispatchable' : Dispatchable db :=
    hdb ▸ ⟨hdispatchable.statuses, hdispatchable.plans, hdispatchable.boundaries⟩
  obtain ⟨db', hdispatch, hrounds, hpassed⟩ :=
    dispatch_ok hconstraints' hclear hpolicies hdispatchable'
  have hstep : step env (run (step env) .empty inputs) ⟨elapsed, .dispatch random⟩ = db' :=
    step_of_ok (hdb ▸ hdispatch)
  rw [hstep, queued_iff hconstraints' hclear hpassed hrounds hdue]
  constructor
  · intro houtstanding task htask hresets hhost hpending
    exact absurd (outstandingReset_eq_true.mpr ⟨task, htask, hresets, hhost, .inl hpending⟩)
      (Bool.eq_false_iff.mp houtstanding)
  · intro hunexpired
    refine Bool.eq_false_iff.mpr fun houtstanding => ?_
    obtain ⟨task, htask, hresets, hhost, hpending | hrunning⟩ :=
      outstandingReset_eq_true.mp houtstanding
    · rcases hidle task htask hresets with hterminal | hexpired
      · rw [hpending] at hterminal
        exact absurd hterminal (by decide)
      · exact absurd hexpired (not_le.mpr (hunexpired task htask hresets hhost hpending))
    · exact (hstatuses task htask).1 hrunning

/-! ### A task that is never handed out -/

/-- A change of the schedule alone. -/
def changeSchedule (resetPolicy : Dict Field) : PortTrafficChangeRequest :=
  { changeMode .monitorOnly with resetPolicy := some resetPolicy }

/-- Two admins agree on resets at the end of every month. -/
def monthlyResets : List Operation := [
  .hosts oneHost,
  .create alice "host" unlimitedPort80 1 (.ofUUID 2),
  reports [],
  reports [(2, true)],
  .requestChange alice "host" (uuid4 1) (changeSchedule monthEnds) 3,
  .decide (uuid4 3) (approval ("SCHEDULE " ++ uuid4 1)) bob_named fun _ => .ofUUID 4,
  reports [],
  reports [(4, true)]]

def monthlyPolicy : PortTrafficPolicy :=
  { newPolicy "host" (uuid4 1) unlimitedPort80 endOfMonth with
    status := .active
    approvedBy := some "bob"
    resetApprovalID := some (uuid4 3)
    resetRequestedBy := some "alice"
    resetApprovedBy := some "bob" }

/-- A pass at the end of January 1970. -/
def endOfJanuary : Input := ⟨2592000000000, .dispatch fun _ => .ofUUID 5⟩

/-- A pass five minutes and a second later. -/
def afterExpiry : Input := ⟨301000000, .dispatch fun _ => .ofUUID 6⟩

/-- The Agent is offline when its task is due, and the task expires. -/
theorem expired_reset_blocks :
    Due ((run (step echoEnvironment) .empty (secondly monthlyResets ++ [endOfJanuary])).arrive
        afterExpiry) monthlyPolicy ∧
      Idle ((run (step echoEnvironment) .empty (secondly monthlyResets ++ [endOfJanuary])).arrive
        afterExpiry) monthlyPolicy ∧
      ¬Queued ((run (step echoEnvironment) .empty (secondly monthlyResets ++ [endOfJanuary])).arrive
          afterExpiry)
        (step echoEnvironment (run (step echoEnvironment) .empty
          (secondly monthlyResets ++ [endOfJanuary])) afterExpiry) monthlyPolicy := by
  have hblocked : Due ((run (step echoEnvironment) .empty
        (secondly monthlyResets ++ [endOfJanuary])).arrive afterExpiry) monthlyPolicy ∧
      Idle ((run (step echoEnvironment) .empty (secondly monthlyResets ++ [endOfJanuary])).arrive
        afterExpiry) monthlyPolicy ∧
      ∀ task ∈ (step echoEnvironment (run (step echoEnvironment) .empty
          (secondly monthlyResets ++ [endOfJanuary])) afterExpiry).tasks,
        task.id ∈ ((run (step echoEnvironment) .empty
          (secondly monthlyResets ++ [endOfJanuary])).arrive afterExpiry).tasks.map (·.id) := by
    decide +kernel
  refine ⟨hblocked.1, hblocked.2.1, ?_⟩
  rintro ⟨task, htask, hnew, -⟩
  exact hnew (hblocked.2.2 task htask)

theorem due_reset_queued_endOfJanuary :
    Queued ((run (step echoEnvironment) .empty (secondly monthlyResets)).arrive endOfJanuary)
      (step echoEnvironment (run (step echoEnvironment) .empty (secondly monthlyResets))
        endOfJanuary) monthlyPolicy := by
  have hready : Clear echoEnvironment (fun _ => .ofUUID 5) ((run (step echoEnvironment) .empty
        (secondly monthlyResets)).arrive endOfJanuary) ∧
      Due ((run (step echoEnvironment) .empty (secondly monthlyResets)).arrive endOfJanuary)
        monthlyPolicy ∧
      Idle ((run (step echoEnvironment) .empty (secondly monthlyResets)).arrive endOfJanuary)
        monthlyPolicy ∧
      ∀ task ∈ ((run (step echoEnvironment) .empty (secondly monthlyResets)).arrive
          endOfJanuary).tasks,
        Resets monthlyPolicy task → task.targetHostID = some monthlyPolicy.hostID →
          task.status = .pending →
            ((run (step echoEnvironment) .empty (secondly monthlyResets)).arrive
              endOfJanuary).clock < task.expiresAt := by decide +kernel
  obtain ⟨hclear, hdue, hidle, hunexpired⟩ := hready
  exact (due_reset_queued_iff echoEnvironment (secondly monthlyResets) rfl hclear hdue hidle).mpr
    hunexpired

end VpsGuardian.PortPolicies
