import VpsGuardian.PortPolicies.Effects

/-!
The policies of a host do not overlap and stay within its capacity.

Creation and updates check a candidate against the rows that are not disabled. A
row leaves `disabled` in two more ways: an update that re-enables it is exempt
from the capacity check, and a result that is recorded for it is not checked at
all.
-/

namespace VpsGuardian.PortPolicies

open Lib
open Controller (Time AgentTask uuid4)
open NetHelper (Protocol)

/-- What the checks of creation and updates are there for. -/
structure WithinLimits (db : Db) : Prop where
  separate : ∀ hostID, ∀ a ∈ db.counted hostID, ∀ b ∈ db.counted hostID, a.id ≠ b.id →
    policyOverlaps (some a.protocol) a.portStart a.portEnd b = false
  capacity : ∀ hostID, (db.counted hostID).length ≤ maxPoliciesPerHost

def HasRoom (db : Db) (policy : PortTrafficPolicy) : Prop :=
  (db.counted policy.hostID).length < maxPoliciesPerHost

def IsClear (db : Db) (policy : PortTrafficPolicy) : Prop :=
  ∀ other ∈ db.counted policy.hostID,
    policyOverlaps (some policy.protocol) policy.portStart policy.portEnd other = false

/-- The disabled policy to which a result gives another status. -/
def broughtBack (db : Db) (agentID : String) (result : ActionResult) :
    Option PortTrafficPolicy :=
  ((db.task? result.taskID).filter fun task => task.agentID = agentID ∧
      ¬ terminal task.status ∧ task.action ∈ portTrafficActions ∧
      (result.success → task.parameters.get "dry_run" ≠ "true" ∧
        task.action = "port_traffic_apply")).bind fun task =>
    (db.policy? (task.parameters.get "policy_id")).filter (·.status = .disabled)

/-- What holds of the database behind a result, if recording it raises no error. -/
def Afterwards (P : Db → Prop) : Except ScheduleError Db → Prop
  | .ok db => P db
  | .error _ => True

/-- No result of a heartbeat brings back a policy for which there is no place. -/
def ResultsFit (env : Environment) (agentID : String) : List ActionResult → Db → Prop
  | [], _ => True
  | result :: results, db =>
      (∀ policy ∈ broughtBack db agentID result, HasRoom db policy ∧ IsClear db policy) ∧
        Afterwards (ResultsFit env agentID results) (recordAgentResult env agentID db result)

/-- No update re-enables a policy of a host that is full, and no result brings back a
policy for which there is no place. -/
def Operation.Admitted (env : Environment) (db : Db) : Operation → Prop
  | .update _ _ policyID _ _ =>
      ∀ policy ∈ db.policy? policyID, policy.status = .disabled → HasRoom db policy
  | .heartbeat agentID results _ => ResultsFit env agentID results db
  | _ => True

def Admits (env : Environment) (db : Db) (input : Input) : Prop :=
  input.operation.Admitted env (db.arrive input)

instance (db : Db) (policy : PortTrafficPolicy) : Decidable (HasRoom db policy) :=
  inferInstanceAs (Decidable (_ < _))

instance (db : Db) (policy : PortTrafficPolicy) : Decidable (IsClear db policy) :=
  inferInstanceAs (Decidable (∀ other ∈ _, _))

instance decidableAfterwards (P : Db → Prop) [∀ db, Decidable (P db)] :
    ∀ recorded, Decidable (Afterwards P recorded)
  | .ok db => inferInstanceAs (Decidable (P db))
  | .error _ => isTrue trivial

instance decidableResultsFit (env : Environment) (agentID : String) :
    ∀ results db, Decidable (ResultsFit env agentID results db)
  | [], _ => isTrue trivial
  | _ :: results, _ =>
      have := decidableResultsFit env agentID results
      inferInstanceAs (Decidable ((∀ policy ∈ _, _) ∧ Afterwards (ResultsFit _ _ _) _))

instance decidableAdmitted (env : Environment) (db : Db) :
    ∀ operation : Operation, Decidable (operation.Admitted env db)
  | .update _ _ policyID _ _ =>
      inferInstanceAs (Decidable (∀ policy ∈ db.policy? policyID, _ → HasRoom db policy))
  | .heartbeat agentID results _ => decidableResultsFit env agentID results db
  | .hosts _ => isTrue trivial
  | .create .. => isTrue trivial
  | .requestChange .. => isTrue trivial
  | .requestReset .. => isTrue trivial
  | .decide .. => isTrue trivial
  | .dispatch _ => isTrue trivial

instance (env : Environment) (db : Db) (input : Input) : Decidable (Admits env db input) :=
  decidableAdmitted env (db.arrive input) input.operation

/-! ### Rows -/

theorem mem_counted {db : Db} {hostID : String} {policy : PortTrafficPolicy} :
    policy ∈ db.counted hostID ↔
      policy ∈ db.policies ∧ policy.hostID = hostID ∧ policy.status ≠ .disabled := by
  simp [Db.counted]

theorem counted_append {db db' : Db} {policy : PortTrafficPolicy}
    (hpolicies : db'.policies = db.policies ++ [policy]) (hostID : String) :
    db'.counted hostID = db.counted hostID ++ [policy].filter
      fun other => decide (other.hostID = hostID ∧ other.status ≠ .disabled) := by
  rw [Db.counted, hpolicies, List.filter_append, Db.counted]

theorem length_counted_put {db db' : Db} (hnodup : (db.policies.map (·.id)).Nodup)
    {policy policy' : PortTrafficPolicy} (hold : policy ∈ db.policies)
    (hid : policy'.id = policy.id)
    (hpolicies : db'.policies = Table.put (·.id) policy' db.policies) (hostID : String) :
    (db'.counted hostID).length +
        (decide (policy.hostID = hostID ∧ policy.status ≠ .disabled)).toNat =
      (db.counted hostID).length +
        (decide (policy'.hostID = hostID ∧ policy'.status ≠ .disabled)).toNat := by
  rw [Db.counted, hpolicies]
  exact Table.length_filter_put hnodup hold hid.symm

theorem policyOverlaps_comm (a b : PortTrafficPolicy) :
    policyOverlaps (some a.protocol) a.portStart a.portEnd b =
      policyOverlaps (some b.protocol) b.portStart b.portEnd a := by
  have hprotocols : ((NetHelper.protocols a.protocol).any (· ∈ NetHelper.protocols b.protocol)) =
      (NetHelper.protocols b.protocol).any (· ∈ NetHelper.protocols a.protocol) := by
    cases a.protocol <;> cases b.protocol <;> rfl
  have hports : (b.portEnd < a.portStart ∨ a.portEnd < b.portStart) ↔
      (a.portEnd < b.portStart ∨ b.portEnd < a.portStart) := or_comm
  simp only [policyOverlaps, protocolSet, hprotocols, hports]

theorem ensurePolicyCapacityAndNoOverlap_ok {db : Db} {hostID : String}
    {protocol : Option Protocol} {portStart portEnd : Nat} {exclude : Option String}
    (h : ensurePolicyCapacityAndNoOverlap db hostID protocol portStart portEnd exclude = .ok ()) :
    (exclude = none → (db.counted hostID).length < maxPoliciesPerHost) ∧
      ∀ other ∈ db.counted hostID, some other.id ≠ exclude →
        policyOverlaps protocol portStart portEnd other = false := by
  unfold ensurePolicyCapacityAndNoOverlap at h
  obtain ⟨hroom, h⟩ := raiseIf_bind_eq_ok.mp h
  have hclear := raiseIf_eq_ok.mp h
  constructor
  · intro hnone
    exact not_le.mp fun hfull => hroom ⟨hnone, hfull⟩
  · intro other hother hne
    by_contra hoverlap
    refine hclear (List.any_eq_true.mpr ⟨other, hother, ?_⟩)
    simpa [hne] using hoverlap

namespace WithinLimits

variable {db db' : Db}

theorem empty : WithinLimits .empty where
  separate _ _ ha := by simp [Db.counted, Db.empty] at ha
  capacity _ := by simp [Db.counted, Db.empty]

theorem of_policies_eq (h : WithinLimits db) (hpolicies : db'.policies = db.policies) :
    WithinLimits db' := by
  have hcounted : ∀ hostID, db'.counted hostID = db.counted hostID := by
    intro hostID
    rw [Db.counted, Db.counted, hpolicies]
  constructor
  · intro hostID
    rw [hcounted]
    exact h.separate hostID
  · intro hostID
    rw [hcounted]
    exact h.capacity hostID

/-- A new row needs room, and no overlap with the rows of its host. -/
theorem append (h : WithinLimits db) {policy : PortTrafficPolicy}
    (hroom : HasRoom db policy) (hclear : IsClear db policy)
    (hpolicies : db'.policies = db.policies ++ [policy]) : WithinLimits db' := by
  have hmem : ∀ hostID other, other ∈ db'.counted hostID →
      other ∈ db.counted hostID ∨ (other = policy ∧ policy.hostID = hostID) := by
    intro hostID other hother
    obtain ⟨hother, hhost, hstatus⟩ := mem_counted.mp hother
    rw [hpolicies] at hother
    rcases List.mem_append.mp hother with hold | hnew
    · exact .inl (mem_counted.mpr ⟨hold, hhost, hstatus⟩)
    · obtain rfl := List.mem_singleton.mp hnew
      exact .inr ⟨rfl, hhost⟩
  constructor
  · intro hostID a ha b hb hne
    rcases hmem hostID a ha with ha | ⟨rfl, rfl⟩
    · rcases hmem hostID b hb with hb | ⟨rfl, rfl⟩
      · exact h.separate hostID a ha b hb hne
      · rw [policyOverlaps_comm]
        exact hclear a ha
    · rcases hmem _ b hb with hb | ⟨rfl, -⟩
      · exact hclear b hb
      · exact absurd rfl hne
  · intro hostID
    have hcapacity := h.capacity hostID
    rw [counted_append hpolicies, List.length_append]
    by_cases hhost : policy.hostID = hostID
    · have hlength := List.length_filter_le
        (fun other => decide (other.hostID = hostID ∧ other.status ≠ .disabled)) [policy]
      rw [List.length_singleton] at hlength
      subst hhost
      unfold HasRoom at hroom
      omega
    · have hnil : [policy].filter
          (fun other => decide (other.hostID = hostID ∧ other.status ≠ .disabled)) = [] := by
        simp [hhost]
      rw [hnil, List.length_nil]
      exact hcapacity

/-- A replaced row needs room if the old one was disabled, and no overlap with the others. -/
theorem put (h : WithinLimits db) (hnodup : (db.policies.map (·.id)).Nodup)
    {policy policy' : PortTrafficPolicy} (hold : policy ∈ db.policies)
    (hid : policy'.id = policy.id) (hhost : policy'.hostID = policy.hostID)
    (hroom : policy'.status ≠ .disabled → policy.status = .disabled → HasRoom db policy)
    (hclear : policy'.status ≠ .disabled → ∀ other ∈ db.counted policy.hostID,
      other.id ≠ policy.id →
        policyOverlaps (some policy'.protocol) policy'.portStart policy'.portEnd other = false)
    (hpolicies : db'.policies = Table.put (·.id) policy' db.policies) : WithinLimits db' := by
  have hmem : ∀ hostID other, other ∈ db'.counted hostID →
      (other ∈ db.counted hostID ∧ other.id ≠ policy.id) ∨
        (other = policy' ∧ policy.hostID = hostID ∧ policy'.status ≠ .disabled) := by
    intro hostID other hother
    obtain ⟨hother, hotherHost, hstatus⟩ := mem_counted.mp hother
    rw [hpolicies] at hother
    rcases Table.mem_put.mp hother with ⟨rfl, -⟩ | ⟨hmem, hne⟩
    · exact .inr ⟨rfl, hhost ▸ hotherHost, hstatus⟩
    · exact .inl ⟨mem_counted.mpr ⟨hmem, hotherHost, hstatus⟩, hid ▸ hne⟩
  constructor
  · intro hostID a ha b hb hne
    rcases hmem hostID a ha with ⟨ha, hane⟩ | ⟨rfl, rfl, hstatus⟩
    · rcases hmem hostID b hb with ⟨hb, -⟩ | ⟨rfl, rfl, hstatus⟩
      · exact h.separate hostID a ha b hb hne
      · rw [policyOverlaps_comm]
        exact hclear hstatus a ha hane
    · rcases hmem _ b hb with ⟨hb, hbne⟩ | ⟨rfl, -⟩
      · exact hclear hstatus b hb hbne
      · exact absurd rfl hne
  · intro hostID
    have hcapacity := h.capacity hostID
    have hlength := length_counted_put hnodup hold hid hpolicies hostID
    by_cases hsame : policy.hostID = hostID
    · by_cases hstatus : policy'.status = .disabled
      · simp only [hstatus, ne_eq, not_true_eq_false, and_false, decide_false,
          Bool.toNat_false] at hlength
        omega
      · by_cases hdisabled : policy.status = .disabled
        · have hfree := hroom hstatus hdisabled
          subst hsame
          unfold HasRoom at hfree
          have hone : (decide (policy'.hostID = policy.hostID ∧
              policy'.status ≠ .disabled)).toNat ≤ 1 := Bool.toNat_le _
          omega
        · simp only [hhost, hsame, hstatus, hdisabled, ne_eq, not_false_eq_true, and_self,
            decide_true, Bool.toNat_true] at hlength
          omega
    · simp only [hhost, hsame, false_and, decide_false, Bool.toNat_false] at hlength
      omega

end WithinLimits

/-! ### Results -/

/-- The result that gives a disabled row another status is a failure or an application. -/
theorem Outcome.of_disabled {policy policy' : PortTrafficPolicy} {task : AgentTask}
    (h : Outcome policy task policy') (hold : policy.status = .disabled)
    (hnew : policy'.status ≠ .disabled) (hstatus : task.status = .succeeded) :
    task.parameters.get "dry_run" ≠ "true" ∧ task.action = "port_traffic_apply" := by
  cases h with
  | failed hfailed => exact absurd hstatus hfailed
  | applied _ hdry haction => exact ⟨hdry, haction⟩
  | unreadable _ hdry haction => exact ⟨hdry, haction⟩
  | rescheduled _ hdry haction => exact ⟨hdry, haction⟩
  | removed => exact absurd rfl hnew
  | reset => exact absurd hold hnew

section Results

variable {env : Environment} {db db' : Db} {agentID : String}

/-- The row ids are distinct and the limits are kept. -/
def Sound (db : Db) : Prop := (db.policies.map (·.id)).Nodup ∧ WithinLimits db

theorem Sound.of_policies_eq (h : Sound db) (hpolicies : db'.policies = db.policies) :
    Sound db' :=
  ⟨hpolicies ▸ h.1, h.2.of_policies_eq hpolicies⟩

/-- What is recorded of a task keeps the limits if a disabled row finds its place. -/
theorem Recorded.sound {task : AgentTask} (hrecorded : Recorded db task db') (h : Sound db)
    (hfit : ∀ policy, db.policy? (task.parameters.get "policy_id") = some policy →
      policy.status = .disabled →
      (task.status = .succeeded → task.parameters.get "dry_run" ≠ "true" ∧
        task.action = "port_traffic_apply") → HasRoom db policy ∧ IsClear db policy) :
    Sound db' := by
  rcases hrecorded.policies with hsame | ⟨policy, policy', hfound, houtcome, hput⟩
  · exact h.of_policies_eq hsame
  · have hold : policy ∈ db.policies := Table.mem_of_lookup hfound
    have hconfiguration := houtcome.configuration
    simp only [PortTrafficPolicy.configuration, Prod.mk.injEq] at hconfiguration
    obtain ⟨⟨hid, hhost, -⟩, hprotocol, -, ⟨hstart, hend⟩, -⟩ := hconfiguration
    refine ⟨by rw [hput, Table.map_key_put]; exact h.1, ?_⟩
    refine h.2.put h.1 hold hid hhost ?_ ?_ hput
    · intro hnew hdisabled
      exact (hfit policy hfound hdisabled (houtcome.of_disabled hdisabled hnew)).1
    · intro hnew other hother hne
      rw [hprotocol, hstart, hend]
      by_cases hdisabled : policy.status = .disabled
      · exact (hfit policy hfound hdisabled (houtcome.of_disabled hdisabled hnew)).2 other hother
      · exact h.2.separate policy.hostID policy (mem_counted.mpr ⟨hold, rfl, hdisabled⟩) other
          hother hne.symm

theorem recordAgentResult_sound {result : ActionResult} (h : Sound db)
    (hfit : ∀ policy ∈ broughtBack db agentID result, HasRoom db policy ∧ IsClear db policy)
    (hrecord : recordAgentResult env agentID db result = .ok db') : Sound db' := by
  rcases recordAgentResult_ok hrecord with
    rfl | ⟨task, hfound, hagent, hterminal, ⟨-, rfl⟩ | ⟨haction, hrecord⟩⟩
  · exact h
  · exact h.of_policies_eq rfl
  · refine (recordPortTrafficResult_ok hrecord).sound (h.of_policies_eq rfl) ?_
    intro policy hpolicy hdisabled hreturns
    refine hfit policy (Option.bind_eq_some_iff.mpr ⟨task, ?_, ?_⟩)
    · have hsuccess : result.success = true → task.parameters.get "dry_run" ≠ "true" ∧
          task.action = "port_traffic_apply" := fun hsuccess =>
        hreturns (finished_status.mpr hsuccess)
      exact Option.filter_eq_some_iff.mpr
        ⟨hfound, decide_eq_true ⟨hagent, by simp [hterminal], haction, hsuccess⟩⟩
    · exact Option.filter_eq_some_iff.mpr ⟨hpolicy, decide_eq_true hdisabled⟩

theorem recordAgentResults_sound {results : List ActionResult} (h : Sound db)
    (hfit : ResultsFit env agentID results db)
    (hrecord : results.foldlM (recordAgentResult env agentID) db = .ok db') : Sound db' := by
  induction results generalizing db with
  | nil =>
    cases hrecord
    exact h
  | cons result results ih =>
    rw [List.foldlM_cons] at hrecord
    obtain ⟨next, hnext, hrecord⟩ := bind_eq_ok.mp hrecord
    obtain ⟨hfirst, hrest⟩ := hfit
    rw [hnext] at hrest
    exact ih (recordAgentResult_sound h hfirst hnext) hrest hrecord

/-- Copied generations and deliveries leave the policies alone. -/
theorem recordGenerations_policies (observed : List (String × Nat)) (db : Db) :
    (observed.foldl recordGeneration db).policies = db.policies := by
  induction observed generalizing db with
  | nil => rfl
  | cons entry observed ih =>
    rw [List.foldl_cons, ih]
    unfold recordGeneration
    split <;> rfl

theorem deliver_policies (tasks : List AgentTask) (db : Db) :
    (tasks.foldl (fun db task => db.putTask { task with status := .delivered }) db).policies =
      db.policies := by
  induction tasks generalizing db with
  | nil => rfl
  | cons task tasks ih => exact ih _

theorem agentHeartbeat_sound {results : List ActionResult} {observed : List (String × Nat)}
    (h : Sound db) (hfit : ResultsFit env agentID results db)
    (hbeat : agentHeartbeat env db agentID results observed = .ok db') : Sound db' := by
  obtain ⟨-, recorded, hrecorded, rfl⟩ := agentHeartbeat_ok hbeat
  refine (recordAgentResults_sound h hfit hrecorded).of_policies_eq ?_
  rw [deliver_policies, recordGenerations_policies]

end Results

/-! ### Runs -/

section Run

variable {env : Environment} {db db' : Db}

theorem dispatchReset_policies {random : String → Controller.Entropy}
    {due : PortTrafficRuntimeState × Time} (h : dispatchReset env random db due = .ok db') :
    db'.policies = db.policies := by
  rcases dispatchReset_ok h with rfl | rfl | ⟨_, _, _, _, -, -, -, -, -, rfl⟩
  · rfl
  · rfl
  · rfl

/-- The limits are kept by every operation that is admitted. -/
theorem transaction_withinLimits {operation : Operation} (hconstraints : db.Constraints)
    (h : WithinLimits db)
    (hadmitted : operation.Admitted env db)
    (htransaction : transaction env db operation = .ok db') : WithinLimits db' := by
  cases operation with
  | hosts hosts =>
    obtain ⟨-, rfl⟩ := commit_eq_ok.mp htransaction
    exact h.of_policies_eq rfl
  | create caller hostID payload policyID random =>
    obtain ⟨-, hfree, -, agent, resetPolicy, parameters, task, boundary, -, -, -, rfl⟩ :=
      createPortTrafficPolicy_ok htransaction
    obtain ⟨hroom, hclear⟩ := ensurePolicyCapacityAndNoOverlap_ok hfree
    refine @WithinLimits.append db _ h (newPolicy hostID (uuid4 policyID) payload resetPolicy)
      ?_ ?_ rfl
    · exact hroom rfl
    · exact fun other hother => hclear other hother (Option.some_ne_none _)
  | update caller hostID policyID payload random =>
    obtain ⟨policy, updated, hupdated⟩ := updatePortTrafficPolicy_ok htransaction
    obtain ⟨agent, parameters, task, -, -, hrows⟩ := hupdated.rows
    obtain ⟨-, ⟨hid, hhost, -⟩, -⟩ := apply_eq_some hupdated.applied
    obtain ⟨-, hclear⟩ := ensurePolicyCapacityAndNoOverlap_ok hupdated.free
    refine h.put hconstraints.policyIDs (Table.mem_of_lookup hupdated.found) hid hhost ?_ ?_
      (congrArg Db.policies hrows)
    · intro _ hdisabled
      exact hadmitted policy hupdated.found hdisabled
    · intro _ other hother hne
      exact hclear other (hupdated.host ▸ hother) (by simpa using hne)
  | requestChange caller hostID policyID payload approvalID =>
    obtain ⟨-, _, _, _, _, -, -, -, -, rfl⟩ := requestPortTrafficChange_ok htransaction
    exact h.of_policies_eq rfl
  | requestReset caller hostID policyID payload approvalID =>
    obtain ⟨-, _, _, _, -, -, rfl⟩ := requestPortTrafficReset_ok htransaction
    exact h.of_policies_eq rfl
  | decide approvalID request named random =>
    obtain ⟨-, approval, -, rfl | ⟨_, _, -, -, -, -, rfl⟩⟩ := decideApproval_ok htransaction
    · exact h.of_policies_eq rfl
    · exact h.of_policies_eq rfl
  | heartbeat agentID results observed =>
    exact (agentHeartbeat_sound ⟨hconstraints.policyIDs, h⟩ hadmitted htransaction).2
  | dispatch random =>
    obtain ⟨-, hdispatched⟩ := dispatchDuePortTrafficResets_ok htransaction
    refine h.of_policies_eq ?_
    exact foldlM_invariant (P := fun next => next.policies = db.policies)
      (fun next due next' hnext hround => (dispatchReset_policies hround).trans hnext) rfl
      hdispatched

/-- The policies of a host stay apart and within its capacity in every run in which no
update re-enables a policy of a full host and every policy that a result brings back
finds its place. -/
theorem withinLimits_of_admitted (inputs : List Input)
    (h : Meets (step env) (Admits env) .empty inputs) :
    WithinLimits (run (step env) .empty inputs) := by
  have hstep : ∀ db input, Admits env db input → db.Constraints ∧ WithinLimits db →
      (step env db input).Constraints ∧ WithinLimits (step env db input) := by
    intro db input hadmits hdb
    refine ⟨step_constraints hdb.1 input, ?_⟩
    rcases step_cases env db input with htransaction | hfailed
    · exact transaction_withinLimits (hdb.1.arrive input) (hdb.2.of_policies_eq rfl) hadmits
        htransaction
    · rw [hfailed]
      exact hdb.2.of_policies_eq rfl
  exact (run_invariant hstep ⟨Db.Constraints.empty, WithinLimits.empty⟩ h).2

end Run

/-! ### A disabled policy that comes back -/

/-- A policy of port 80 is disabled, another one takes the port, and then a change of
the first one that was approved fails. -/
def failedReturn : List Operation := [
  .hosts oneHost,
  .create alice "host" unlimitedPort80 1 (.ofUUID 2),
  reports [],
  reports [(2, true)],
  .update alice "host" (uuid4 1) (setEnabled false) (.ofUUID 3),
  reports [],
  reports [(3, true)],
  .create alice "host" unlimitedPort80 4 (.ofUUID 5),
  .requestChange alice "host" (uuid4 1) (changeMode .monitorOnly) 6,
  .decide (uuid4 6) (approval "") bob_named fun _ => .ofUUID 7,
  reports [],
  reports [(5, true), (7, false)]]

theorem returned_policy_overlaps :
    ¬ WithinLimits (run (step echoEnvironment) .empty (secondly failedReturn)) := by
  have hoverlap : ∃ a ∈ (run (step echoEnvironment) .empty (secondly failedReturn)).counted "host",
      ∃ b ∈ (run (step echoEnvironment) .empty (secondly failedReturn)).counted "host",
        a.id ≠ b.id ∧ policyOverlaps (some a.protocol) a.portStart a.portEnd b = true := by
    decide +kernel
  intro h
  obtain ⟨a, ha, b, hb, hne, hoverlap⟩ := hoverlap
  rw [h.separate "host" a ha b hb hne] at hoverlap
  cases hoverlap

theorem withinLimits_before_return :
    WithinLimits (run (step echoEnvironment) .empty (secondly (failedReturn.take 11))) :=
  withinLimits_of_admitted _ (by decide +kernel)

end VpsGuardian.PortPolicies
